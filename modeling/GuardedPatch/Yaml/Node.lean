import GuardedPatch.Yaml.Token.Reader

set_option autoImplicit false

/-! # YAML nodes

The tokens of a document form a tree of scalars, sequences and mappings. A text with an error still has the part
of the tree before the error; the place where it breaks off is a node of its own, so that a reader who goes through
the tree in order meets it exactly when the text gives no more. An alias stays in the tree and names its node by
number, since it may well stand inside that node. -/

namespace GuardedPatch.Yaml

/-- The full name of a tag, in bytes. -/
abbrev Tag := List UInt8

/-- A part of a document. -/
inductive Node
  | scalar (tag : Option Tag) (style : Style) (text : String)
  | sequence (tag : Option Tag) (items : List Node)
  | mapping (tag : Option Tag) (entries : List (Node × Node))
  | alias (slot : Nat)
  /-- The text has no document. -/
  | absent
  /-- The text breaks off here. -/
  | cut
deriving Inhabited

/-- How a document ends. -/
inductive Ending
  | clean
  | broken (error : SyntaxError)
  /-- Something follows that is not the end of the text. -/
  | followed
deriving DecidableEq

/-- The first document of a text. -/
structure Document where
  root : Node
  /-- The nodes that aliases name. -/
  anchored : List (Nat × Node)
  /-- Scalars and aliases count once, sequences and mappings twice. -/
  size : Nat
  ending : Ending

/-! ## State -/

/-- What has been built of a tree. -/
structure Composer where
  /-- The tokens that are left. -/
  tokens : List Token
  /-- The error met, if there is one; no tokens are left then. -/
  error : Option SyntaxError
  /-- Tag handles and what they stand for. -/
  handles : List (String × Tag)
  /-- The number that each anchor name stands for at the moment. -/
  names : List (String × Nat)
  /-- The serial number of the node that each number stands for, the latest choice first. -/
  slots : List (Nat × Nat)
  /-- The finished anchored nodes by serial number. -/
  nodes : List (Nat × Node)
  /-- How many anchors there were. -/
  serial : Nat
  size : Nat

/-- Steps that build a tree. -/
abbrev Compose := StateM Composer

namespace Compose

/-- The next token, if the text has one. -/
def peek : Compose (Option Token) :=
  return (← get).tokens.head?

/-- Passes the next token. -/
def skip : Compose Unit :=
  modify fun s => { s with tokens := s.tokens.tail }

/-- Breaks off. -/
def fail (e : SyntaxError) : Compose Unit :=
  modify fun s => { s with tokens := [], error := s.error.or e }

/-- Counts a part of the tree. -/
def count : Compose Unit :=
  modify fun s => { s with size := s.size + 1 }

/-- The node where a text breaks off. -/
def broken (e : SyntaxError) : Compose Node := do
  fail e
  return .cut

/-- A scalar without text, where one is left out. -/
def emptyScalar : Compose Node := do
  count
  return .scalar none .plain ""

/-! ## Anchors and tags -/

/-- Gives an anchored node its serial number as it starts. Its name stands from now on for the number of names known
before it. -/
def startAnchor (name : Option String) : Compose (Option Nat) := do
  match name with
  | none => return none
  | some name =>
    let s ← get
    let slot := s.names.length
    set { s with
      names := (name, slot) :: s.names.filter (·.1 != name)
      slots := (slot, s.serial) :: s.slots
      serial := s.serial + 1 }
    return some s.serial

/-- Keeps an anchored node when it is finished. -/
def finish (serial : Option Nat) (n : Node) : Compose Node := do
  match serial with
  | none => return n
  | some k =>
    modify fun s => { s with nodes := (k, n) :: s.nodes }
    return n

/-- The alias for a name. -/
def aliasNode (name : String) : Compose Node := do
  match (← get).names.lookup name with
  | some slot =>
    count
    return .alias slot
  | none => broken .undefinedAnchor

/-- The anchor and the tag before a node's content, in either order. -/
def properties : Compose (Option String × Option (String × Tag)) := do
  match ← peek with
  | some (.anchor name) =>
    skip
    match ← peek with
    | some (.tag handle suffix) =>
      skip
      return (some name, some (handle, suffix))
    | _ => return (some name, none)
  | some (.tag handle suffix) =>
    skip
    match ← peek with
    | some (.anchor name) =>
      skip
      return (some name, some (handle, suffix))
    | _ => return (none, some (handle, suffix))
  | _ => return (none, none)

/-- The full name of a tag. -/
def expandTag (tag : Option (String × Tag)) : Compose (Option Tag) := do
  match tag with
  | none => return none
  | some (handle, suffix) =>
    if handle = "" then return some suffix
    else
      match (← get).handles.lookup handle with
      | some leading => return some (leading ++ suffix)
      | none =>
        fail .undefinedTagHandle
        return none

/-- The tag that says that a scalar is not plain text. -/
def noTag : Tag := asciiBytes "!"

/-! ## Nodes -/

/-- Whether a token ends an entry of a block mapping that has no content. -/
def endsBlockEntry : Token → Bool
  | .key | .value | .blockEnd => true
  | _ => false

mutual

/-- A node. Inside a block mapping a block sequence need not be indented. Every call takes a token or makes a call
that does, so the number of tokens bounds the depth of calls. -/
def node : (fuel : Nat) → (block indentless : Bool) → Compose Node
  | 0, _, _ => broken .unexpectedToken
  | fuel + 1, block, indentless => do
    match ← peek with
    | some (.alias name) =>
      skip
      aliasNode name
    | _ =>
      let (anchor, shortTag) ← properties
      let tag ← expandTag shortTag
      match ← peek with
      | some .blockEntry =>
        if indentless then
          let serial ← startAnchor anchor
          count
          let items ← indentlessItems fuel
          finish serial (.sequence tag items)
        else bare anchor tag
      | some (.scalar style text) =>
        skip
        let serial ← startAnchor anchor
        count
        finish serial (.scalar (if tag = some noTag then none else tag) style text)
      | some .flowSequenceStart =>
        skip
        let serial ← startAnchor anchor
        count
        let items ← flowItems fuel true
        finish serial (.sequence tag items)
      | some .flowMappingStart =>
        skip
        let serial ← startAnchor anchor
        count
        let entries ← flowEntries fuel true
        finish serial (.mapping tag entries)
      | some .blockSequenceStart =>
        if block then
          skip
          let serial ← startAnchor anchor
          count
          let items ← blockItems fuel
          finish serial (.sequence tag items)
        else bare anchor tag
      | some .blockMappingStart =>
        if block then
          skip
          let serial ← startAnchor anchor
          count
          let entries ← blockEntries fuel
          finish serial (.mapping tag entries)
        else bare anchor tag
      | some _ => bare anchor tag
      | none => broken .unexpectedToken

/-- A node without content, which needs an anchor or a tag to be one. -/
def bare (anchor : Option String) (tag : Option Tag) : Compose Node := do
  if anchor.isSome || tag.isSome then
    let serial ← startAnchor anchor
    count
    finish serial (.scalar tag .plain "")
  else broken .unexpectedToken

/-- The items of an indented block sequence. -/
def blockItems : (fuel : Nat) → Compose (List Node)
  | 0 => return [← broken .unexpectedToken]
  | fuel + 1 => do
    match ← peek with
    | some .blockEntry =>
      skip
      let item ← match ← peek with
        | some .blockEntry | some .blockEnd => emptyScalar
        | _ => node fuel true false
      return item :: (← blockItems fuel)
    | some .blockEnd =>
      skip
      count
      return []
    | _ => return [← broken .unexpectedToken]

/-- The items of a block sequence that is not indented. -/
def indentlessItems : (fuel : Nat) → Compose (List Node)
  | 0 => return [← broken .unexpectedToken]
  | fuel + 1 => do
    match ← peek with
    | some .blockEntry =>
      skip
      let item ← match ← peek with
        | some .blockEntry | some .key | some .value | some .blockEnd => emptyScalar
        | _ => node fuel true false
      return item :: (← indentlessItems fuel)
    | some _ =>
      count
      return []
    | none => return [← broken .unexpectedToken]

/-- The entries of a block mapping. -/
def blockEntries : (fuel : Nat) → Compose (List (Node × Node))
  | 0 => return [(← broken .unexpectedToken, .cut)]
  | fuel + 1 => do
    match ← peek with
    | some .key =>
      skip
      let key ← blockPart fuel
      let value ← blockValue fuel
      return (key, value) :: (← blockEntries fuel)
    | some .value =>
      return [(← broken .unexpectedToken, .cut)]
    | some .blockEnd =>
      skip
      count
      return []
    | _ => return [(← broken .unexpectedToken, .cut)]

/-- The key or the value after its indicator. -/
def blockPart : (fuel : Nat) → Compose Node
  | 0 => broken .unexpectedToken
  | fuel + 1 => do
    match ← peek with
    | some t => if endsBlockEntry t then emptyScalar else node fuel true true
    | none => broken .unexpectedToken

/-- The value of a block mapping's entry, if it has one. -/
def blockValue : (fuel : Nat) → Compose Node
  | 0 => broken .unexpectedToken
  | fuel + 1 => do
    match ← peek with
    | some .value =>
      skip
      blockPart fuel
    | some _ => emptyScalar
    | none => broken .unexpectedToken

/-- The items of a flow sequence. An item with a key indicator is a mapping with one entry. -/
def flowItems : (fuel : Nat) → (first : Bool) → Compose (List Node)
  | 0, _ => return [← broken .unexpectedToken]
  | fuel + 1, first => do
    if !first && (← peek) != some .flowSequenceEnd then
      if (← peek) == some .flowEntry then skip else fail .unexpectedToken
    match ← peek with
    | some .flowSequenceEnd =>
      skip
      count
      return []
    | some .key =>
      skip
      count
      let key ← flowPairKey fuel
      let value ← flowPairValue fuel
      if (← peek).isSome then count
      return .mapping none [(key, value)] :: (← flowItems fuel false)
    | some _ =>
      let item ← node fuel false false
      return item :: (← flowItems fuel false)
    | none => return [← broken .unexpectedToken]

/-- The key of a mapping with one entry. Where it is left out the token after the indicator is passed over. -/
def flowPairKey : (fuel : Nat) → Compose Node
  | 0 => broken .unexpectedToken
  | fuel + 1 => do
    match ← peek with
    | some .value | some .flowEntry | some .flowSequenceEnd =>
      skip
      emptyScalar
    | some _ => node fuel false false
    | none => broken .unexpectedToken

/-- The value of a mapping with one entry. -/
def flowPairValue : (fuel : Nat) → Compose Node
  | 0 => broken .unexpectedToken
  | fuel + 1 => do
    match ← peek with
    | some .value =>
      skip
      match ← peek with
      | some .flowEntry | some .flowSequenceEnd => emptyScalar
      | some _ => node fuel false false
      | none => broken .unexpectedToken
    | some _ => emptyScalar
    | none => broken .unexpectedToken

/-- The entries of a flow mapping. -/
def flowEntries : (fuel : Nat) → (first : Bool) → Compose (List (Node × Node))
  | 0, _ => return [(← broken .unexpectedToken, .cut)]
  | fuel + 1, first => do
    if !first && (← peek) != some .flowMappingEnd then
      if (← peek) == some .flowEntry then skip else fail .unexpectedToken
    match ← peek with
    | some .flowMappingEnd =>
      skip
      count
      return []
    | some .key =>
      skip
      let key ← match ← peek with
        | some .value | some .flowEntry | some .flowMappingEnd => emptyScalar
        | some _ => node fuel false false
        | none => broken .unexpectedToken
      let value ← flowValue fuel
      return (key, value) :: (← flowEntries fuel false)
    | some _ =>
      let key ← node fuel false false
      let value ← match ← peek with
        | some _ => emptyScalar
        | none => broken .unexpectedToken
      return (key, value) :: (← flowEntries fuel false)
    | none => return [(← broken .unexpectedToken, .cut)]

/-- The value of a flow mapping's entry after its key, if it has one. -/
def flowValue : (fuel : Nat) → Compose Node
  | 0 => broken .unexpectedToken
  | fuel + 1 => do
    match ← peek with
    | some .value =>
      skip
      match ← peek with
      | some .flowEntry | some .flowMappingEnd => emptyScalar
      | some _ => node fuel false false
      | none => broken .unexpectedToken
    | some _ => emptyScalar
    | none => broken .unexpectedToken

end

/-! ## Documents -/

/-- The tag handles that every document has. -/
def standardHandles : List (String × Tag) :=
  [("!", asciiBytes "!"), ("!!", asciiBytes "tag:yaml.org,2002:")]

/-- Reads directives: at most one version, which is 1.1 or 1.2, and each tag handle at most once. Returns the
handles. Every step takes a token. -/
def directives (versionSeen : Bool) (handles : List (String × Tag)) : (fuel : Nat) → Compose (List (String × Tag))
  | 0 => return handles
  | fuel + 1 => do
    match ← peek with
    | some (.versionDirective major minor) =>
      if versionSeen || major != 1 || (minor != 1 && minor != 2) then
        fail .badDirective
        return handles
      else
        skip
        directives true handles fuel
    | some (.tagDirective handle leading) =>
      if (handles.lookup handle).isSome then
        fail .badDirective
        return handles
      else
        skip
        directives versionSeen ((handle, leading) :: handles) fuel
    | _ => return handles

/-- Whether a token can only stand outside a document's content. -/
def endsDocument : Token → Bool
  | .versionDirective _ _ | .tagDirective _ _ | .documentStart | .documentEnd | .streamEnd => true
  | _ => false

/-- The root of the first document, whose start is marked, or left out when there are no directives either. -/
def root (fuel : Nat) : Compose Node := do
  match ← peek with
  | none => broken .unexpectedToken
  | some .streamEnd => return .absent
  | some t =>
    if endsDocument t && t != .documentEnd then
      let handles ← directives false [] fuel
      modify fun s => { s with handles := handles ++ standardHandles }
      match ← peek with
      | some .documentStart =>
        skip
        match ← peek with
        | some t => if endsDocument t then emptyScalar else node fuel true false
        | none => broken .unexpectedToken
      | _ => broken .unexpectedToken
    else node fuel true false

/-- What comes after the root. -/
def ending : Compose Ending := do
  let s ← get
  match s.tokens.dropWhile (· == .documentEnd) with
  | .streamEnd :: _ => return .clean
  | [] => return if s.tokens.isEmpty then .broken (s.error.getD .unexpectedToken) else .followed
  | _ => return .followed

end Compose

/-- The first document of a list of tokens. -/
def Document.ofTokens (t : Tokens) : Document :=
  let start : Composer :=
    { tokens := t.list, error := t.error, handles := Compose.standardHandles, names := [], slots := [], nodes := []
      serial := 0, size := 0 }
  let fuel := 4 * t.list.length + 8
  let ((root, ending), s) := (do return (← Compose.root fuel, ← Compose.ending) : Compose (Node × Ending)).run start
  { root, ending, size := max s.size 1
    anchored := s.slots.filterMap fun p => (s.nodes.lookup p.2).map fun n => (p.1, n) }

/-- The first document of a text. -/
def Document.of (text : String) : Document :=
  .ofTokens (.of text)

end GuardedPatch.Yaml
