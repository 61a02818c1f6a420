import GuardedPatch.Yaml.Scalar.Block
import GuardedPatch.Yaml.Scalar.Quoted
import GuardedPatch.Yaml.Token

set_option autoImplicit false

/-! # From text to tokens

Whether a scalar is a mapping key shows only when a colon follows on the same line, so every place where a key may
start is remembered, one per enclosing flow collection, and the tokens that mark a key are put there when the colon
comes. Outside flow collections indentation structures the text: a deeper column opens a collection and a
shallower one closes those that are deeper.

A text with an error still has the tokens before the error, but only those that no later colon could have put a
key mark in front of. -/

namespace GuardedPatch.Yaml

/-- A place where a mapping key may have started. -/
structure KeyStart where
  place : Position
  /-- How many tokens come before it. -/
  tokenCount : Nat
  /-- Set where only a key can stand, so that a colon has to follow. -/
  required : Bool

/-- What has been read of a text. -/
structure TokenReader where
  cursor : Cursor
  /-- The tokens so far, the latest first. -/
  tokens : List Token
  /-- Their number. -/
  count : Nat
  /-- The column of the innermost open block collection, or -1. -/
  indent : Int
  /-- The columns of the collections around it, the innermost first. -/
  outer : List Int
  /-- Whether a key may start here without an indicator. -/
  keyAllowed : Bool
  /-- The possible key start of the innermost flow collection, or of the block context. -/
  keyStart : Option KeyStart
  /-- The possible key starts around it, one for each open flow collection. -/
  outerKeyStarts : List (Option KeyStart)

namespace TokenReader

/-- The reader at the start of a text. -/
def start (chars : List Char) : TokenReader :=
  { cursor := ⟨chars, ⟨0, 0, 0⟩⟩, tokens := [], count := 0, indent := -1, outer := [], keyAllowed := true
    keyStart := none, outerKeyStarts := [] }

/-- Whether a flow collection is open. -/
def inFlow (r : TokenReader) : Bool :=
  !r.outerKeyStarts.isEmpty

/-- The column of the next character. -/
def column (r : TokenReader) : Nat :=
  r.cursor.place.column

/-- The reader with one more token. -/
def emit (r : TokenReader) (t : Token) : TokenReader :=
  { r with tokens := t :: r.tokens, count := r.count + 1 }

/-- The reader with a token put where only `before` tokens come before it. -/
def insert (r : TokenReader) (t : Token) (before : Nat) : TokenReader :=
  { r with tokens := r.tokens.insertIdx (r.count - before) t, count := r.count + 1 }

/-- The reader at a later place. -/
def moveTo (r : TokenReader) (c : Cursor) : TokenReader :=
  { r with cursor := c }

/-- The reader after the characters of an indicator, with its token. -/
def emitIndicator (r : TokenReader) (t : Token) (length : Nat) : TokenReader :=
  (r.moveTo (r.cursor.advance length)).emit t

/-- How many of the tokens no later colon can change. -/
def settled (r : TokenReader) : Nat :=
  (r.keyStart :: r.outerKeyStarts).foldl (fun n k => match k with | some k => min n k.tokenCount | none => n) r.count

/-! ## Possible keys -/

/-- Gives up the innermost possible key, which is an error where one is required. -/
def dropKey (r : TokenReader) : Except SyntaxError TokenReader :=
  if r.keyStart.any KeyStart.required then .error .keyWithoutColon else .ok { r with keyStart := none }

/-- Remembers that a key may start here. -/
def saveKey (r : TokenReader) : Except SyntaxError TokenReader :=
  if r.keyAllowed then do
    let required := !r.inFlow && r.indent == (r.column : Int)
    let r ← r.dropKey
    return { r with keyStart := some ⟨r.cursor.place, r.count, required⟩ }
  else .ok r

/-- Whether a key that started there could no longer end here: it must be on one line and at most 1024 characters
long. -/
def KeyStart.isStale (k : KeyStart) (p : Position) : Bool :=
  k.place.line < p.line || k.place.index + 1024 < p.index

/-- Gives up the possible keys that have become too long. -/
def dropStaleKeys (r : TokenReader) : Except SyntaxError TokenReader :=
  let stale (k : Option KeyStart) : Bool := k.any fun k => KeyStart.isStale k r.cursor.place
  let lost (k : Option KeyStart) : Bool := stale k && k.any KeyStart.required
  let kept (k : Option KeyStart) : Option KeyStart := if stale k then none else k
  if lost r.keyStart || r.outerKeyStarts.any lost then .error .keyWithoutColon
  else .ok { r with keyStart := kept r.keyStart, outerKeyStarts := r.outerKeyStarts.map kept }

/-! ## Indentation -/

/-- Opens a block collection if this column is deeper than the open one. Its token goes where only `before` tokens
come before it. -/
def openBlock (r : TokenReader) (column : Nat) (t : Token) (before : Nat) : TokenReader :=
  if !r.inFlow && r.indent < (column : Int) then
    { r.insert t before with indent := column, outer := r.indent :: r.outer }
  else r

/-- Closes block collections, of which `outer` are left, until none is deeper than the column. -/
def closeFrom (column : Int) (outer : List Int) (r : TokenReader) : TokenReader :=
  match outer with
  | [] => r
  | o :: rest =>
    if r.indent > column then closeFrom column rest { r.emit .blockEnd with indent := o, outer := rest } else r

/-- Closes the block collections deeper than a column. -/
def closeBlocks (r : TokenReader) (column : Int) : TokenReader :=
  if r.inFlow then r else closeFrom column r.outer r

/-! ## One token -/

/-- Passes blanks, comments and line breaks. After a line break of the block context a key may start. A tab is
passed only where it cannot be taken for indentation. Every step takes at least one character. -/
def passBlanks : (fuel : Nat) → TokenReader → TokenReader
  | 0, r => r
  | fuel + 1, r =>
    let c := match r.cursor.rest with
      | x :: _ => if r.column = 0 && x == byteOrderMark then r.cursor.next else r.cursor
      | [] => r.cursor
    let tabs := r.inFlow || !r.keyAllowed
    let c := (c.skip fun x => x == ' ' || (tabs && x == '\t')).skipComment
    match c.rest with
    | x :: _ =>
      if isBreak x then
        passBlanks fuel { r with cursor := c.next, keyAllowed := if r.inFlow then r.keyAllowed else true }
      else r.moveTo c
    | [] => r.moveTo c

/-- The end of the text ends its last line and closes everything. -/
def readEnd (r : TokenReader) : Except SyntaxError TokenReader := do
  let r := { r with cursor := ⟨[], r.cursor.place.lineEnded⟩ }
  let r ← (r.closeBlocks (-1)).dropKey
  return { r with keyAllowed := false }.emit .streamEnd

/-- A directive, or the mark before or after a document. -/
def readAtLineStart (r : TokenReader) (scan : Cursor → Except SyntaxError (Token × Cursor)) :
    Except SyntaxError TokenReader := do
  let r ← (r.closeBlocks (-1)).dropKey
  let (t, c) ← scan r.cursor
  return ({ r with keyAllowed := false }.moveTo c).emit t

/-- The opening bracket of a flow collection, which may itself be a key. -/
def readFlowStart (r : TokenReader) (t : Token) : Except SyntaxError TokenReader := do
  let r ← r.saveKey
  return { r with keyStart := none, outerKeyStarts := r.keyStart :: r.outerKeyStarts, keyAllowed := true
    }.emitIndicator t 1

/-- The closing bracket of a flow collection. -/
def readFlowEnd (r : TokenReader) (t : Token) : Except SyntaxError TokenReader := do
  let r ← r.dropKey
  let r := match r.outerKeyStarts with
    | [] => r
    | k :: rest => { r with keyStart := k, outerKeyStarts := rest }
  return { r with keyAllowed := false }.emitIndicator t 1

/-- The comma between the entries of a flow collection. -/
def readFlowEntry (r : TokenReader) : Except SyntaxError TokenReader := do
  let r ← r.dropKey
  return { r with keyAllowed := true }.emitIndicator .flowEntry 1

/-- The hyphen before an entry of a block sequence. -/
def readBlockEntry (r : TokenReader) : Except SyntaxError TokenReader := do
  if !r.inFlow && !r.keyAllowed then throw .misplacedEntry
  let r ← (r.openBlock r.column .blockSequenceStart r.count).dropKey
  return { r with keyAllowed := true }.emitIndicator .blockEntry 1

/-- The question mark before a mapping key. -/
def readKey (r : TokenReader) : Except SyntaxError TokenReader := do
  if !r.inFlow && !r.keyAllowed then throw .misplacedKey
  let r ← (r.openBlock r.column .blockMappingStart r.count).dropKey
  return { r with keyAllowed := !r.inFlow }.emitIndicator .key 1

/-- The colon before a mapping value. If a key may have started before it, that was a key. -/
def readValue (r : TokenReader) : Except SyntaxError TokenReader :=
  match r.keyStart with
  | some k =>
    let r := (r.insert .key k.tokenCount).openBlock k.place.column .blockMappingStart k.tokenCount
    .ok ({ r with keyStart := none, keyAllowed := false }.emitIndicator .value 1)
  | none =>
    if !r.inFlow && !r.keyAllowed then .error .misplacedValue
    else
      let r := r.openBlock r.column .blockMappingStart r.count
      .ok ({ r with keyAllowed := !r.inFlow }.emitIndicator .value 1)

/-- An anchor, an alias or a tag, where a key may start. -/
def readProperty (r : TokenReader) (scan : Cursor → Except SyntaxError (Token × Cursor)) :
    Except SyntaxError TokenReader := do
  let r ← r.saveKey
  let (t, c) ← scan r.cursor
  return ({ r with keyAllowed := false }.moveTo c).emit t

/-- A block scalar, after which a key may start. -/
def readBlockScalar (r : TokenReader) (literal : Bool) : Except SyntaxError TokenReader := do
  let r ← r.dropKey
  let s ← scanBlock literal r.indent r.cursor
  return ({ r with keyAllowed := true }.moveTo s.after).emit (.scalar (if literal then .literal else .folded) s.text)

/-- A scalar that may be a key. -/
def readFlowScalar (r : TokenReader) (style : Style) (scan : Cursor → Except SyntaxError Scanned) :
    Except SyntaxError TokenReader := do
  let r ← r.saveKey
  let s ← scan r.cursor
  return ({ r with keyAllowed := s.passedBreak }.moveTo s.after).emit (.scalar style s.text)

/-- The characters that start something else than a plain scalar. -/
def isIndicator (c : Char) : Bool :=
  "-?:,[]\x7b\x7d#&*!|>'\"%@`".toList.contains c

/-- Reads the tokens that start at the next character. -/
def readNext (r : TokenReader) : Except SyntaxError TokenReader := do
  let r := passBlanks (r.cursor.rest.length + 1) r
  let r ← r.dropStaleKeys
  let r := r.closeBlocks r.column
  match r.cursor.rest with
  | [] => r.readEnd
  | c :: rest =>
    let spaced := startsBlank rest
    if r.column = 0 && c == '%' then r.readAtLineStart scanDirective
    else if r.column = 0 && startsDocumentMarker (c :: rest) then
      r.readAtLineStart fun p => .ok (if c = '-' then .documentStart else .documentEnd, p.advance 3)
    else if c = '[' then r.readFlowStart .flowSequenceStart
    else if c = '\x7b' then r.readFlowStart .flowMappingStart
    else if c = ']' then r.readFlowEnd .flowSequenceEnd
    else if c = '\x7d' then r.readFlowEnd .flowMappingEnd
    else if c = ',' then r.readFlowEntry
    else if c = '-' && spaced then r.readBlockEntry
    else if c = '?' && (r.inFlow || spaced) then r.readKey
    else if c = ':' && (r.inFlow || spaced) then r.readValue
    else if c = '*' then r.readProperty fun p => (scanAnchor p).map fun x => (.alias x.1, x.2)
    else if c = '&' then r.readProperty fun p => (scanAnchor p).map fun x => (.anchor x.1, x.2)
    else if c = '!' then r.readProperty (scanTag r.inFlow)
    else if (c = '|' || c = '>') && !r.inFlow then r.readBlockScalar (c == '|')
    else if c = '\'' then r.readFlowScalar .singleQuoted (scanQuoted true)
    else if c = '"' then r.readFlowScalar .doubleQuoted (scanQuoted false)
    else if (!isIndicator c && !isBlank c) || (c == '-' && !rest.head?.any isBlank)
        || (!r.inFlow && (c == '?' || c == ':') && !spaced) then
      r.readFlowScalar .plain (scanPlain r.inFlow (r.indent + 1))
    else throw .strayCharacter

end TokenReader

/-! ## All tokens -/

/-- The tokens of a text, up to its end or its first error. -/
structure Tokens where
  list : List Token
  /-- The error after the last token, if the text has one. -/
  error : Option SyntaxError

/-- Reads on to the end of the text or its first error. Every step but the last takes at least one character. -/
def readTokens (whole : Bool) : (fuel : Nat) → TokenReader → Tokens
  | 0, r => ⟨r.tokens.reverse, none⟩
  | fuel + 1, r =>
    let stop (e : SyntaxError) : Tokens := ⟨r.tokens.reverse.take r.settled, some e⟩
    match r.readNext >>= TokenReader.dropStaleKeys with
    | .error e => stop e
    | .ok next =>
      if next.cursor.rest.isEmpty && !whole then stop .forbiddenCharacter
      else if next.tokens.head? == some .streamEnd then ⟨next.tokens.reverse, none⟩
      else readTokens whole fuel next

/-- The tokens of a text. -/
def Tokens.of (text : String) : Tokens :=
  let s := Source.of text
  readTokens s.whole (s.chars.length + 2) (.start s.chars)

end GuardedPatch.Yaml
