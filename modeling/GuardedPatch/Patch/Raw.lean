import GuardedPatch.TextMap
import GuardedPatch.Yaml.Resolution

set_option autoImplicit false

/-! # Patch texts as written

A patch text is a YAML mapping with a schema version, a project, parameter entries and feature entries. What it
says is read entry by entry, before any rule about its content is applied; a complaint names the place it is about.
Names of the schema are checked as they come, so that of two faults the earlier one is reported, whether it lies in
the schema or in the YAML text.

Keys, expectations, updates, ids and field values may be written as strings, integers or booleans and are kept as
texts. Floats have to be quoted: `1.20` without quotes is the number 1.2. -/

namespace GuardedPatch

/-- A parameter entry as written. -/
structure RawParam where
  key : Option String
  expect : Option String
  update : Option String
deriving DecidableEq

/-- A feature entry as written. -/
structure RawFeature where
  id : Option String
  type? : Option String
  mode : Option String
  fields : TextMap
deriving DecidableEq

/-- A patch as written. -/
structure RawPatch where
  schemaVersion : Nat
  project : Option String
  params : List RawParam
  features : List RawFeature
deriving DecidableEq

/-! ## Complaints -/

/-- A place in a patch text. -/
inductive Path
  | root
  | item (parent : Path) (index : Nat)
  | field (parent : Path) (name : String)
  /-- The value of a key that is not written as a scalar. -/
  | unnamed (parent : Path)
deriving DecidableEq

/-- A path in words; the root has none. -/
def Path.text : Path → String
  | .root => ""
  | .item parent index => parent.text ++ "[" ++ toString index ++ "]"
  | .field .root name => name
  | .field parent name => parent.text ++ "." ++ name
  | .unnamed .root => "?"
  | .unnamed parent => parent.text ++ ".?"

/-- What does not fit the schema. -/
inductive SchemaFault
  | unknownField (name : String) (known : List String)
  | missingField (name : String)
  | duplicateField (name : String)
  | wrongType (found expected : String)
  | wrongValue (found expected : String)
  | unquotedNumber (x : Yaml.FloatValue)
deriving DecidableEq

/-- The wording of a schema fault. -/
def SchemaFault.message : SchemaFault → String
  | .unknownField name known =>
    "unknown field `" ++ name ++ "`, expected one of "
      ++ String.intercalate ", " (known.map fun k => "`" ++ k ++ "`")
  | .missingField name => "missing field `" ++ name ++ "`"
  | .duplicateField name => "duplicate field `" ++ name ++ "`"
  | .wrongType found expected => "invalid type: " ++ found ++ ", expected " ++ expected
  | .wrongValue found expected => "invalid value: " ++ found ++ ", expected " ++ expected
  | .unquotedNumber x => "numeric value " ++ x.positional ++ " must be quoted to keep its exact text"

/-- Why a text is not a patch text. -/
inductive ReadError
  | notYaml (e : Yaml.SyntaxError)
  | schema (place : Path) (fault : SchemaFault)
deriving DecidableEq

/-- The wording of a complaint, after the path of its place. -/
def ReadError.message : ReadError → String
  | .notYaml e => e.message
  | .schema .root fault => fault.message
  | .schema place fault => place.text ++ ": " ++ fault.message

/-! ## Going through a document -/

/-- What stays the same while a document is read. -/
structure Surroundings where
  anchored : List (Nat × Yaml.Node)
  /-- Why the text breaks off, if it does. -/
  breakError : Yaml.SyntaxError

/-- Steps that read a document. The state is how often an alias may still be followed. -/
abbrev Read := ReaderT Surroundings (StateT Nat (Except ReadError))

namespace Read

/-- Complains about a place. -/
def refuse {α : Type} (place : Path) (fault : SchemaFault) : Read α :=
  throw (.schema place fault)

/-- The node itself, or the one that an alias names. -/
def follow (n : Yaml.Node) : Read Yaml.Node := do
  match n with
  | .alias slot =>
    match ← get with
    | 0 => throw (.notYaml .tooManyAliases)
    | left + 1 =>
      set left
      match (← read).anchored.lookup slot with
      | some n => return n
      | none => throw (.notYaml .undefinedAnchor)
  | .cut => throw (.notYaml (← read).breakError)
  | n => return n

/-- Complains that a node is of another type than expected. -/
def wrongType {α : Type} (place : Path) (expected : String) (n : Yaml.Node) : Read α :=
  match n with
  | .sequence _ _ => refuse place (.wrongType "sequence" expected)
  | .mapping _ _ => refuse place (.wrongType "map" expected)
  | .scalar tag style text =>
    match Yaml.resolve tag style text with
    | .ok v => refuse place (.wrongType v.describe expected)
    | .error m => refuse place (.wrongValue ("string " ++ Text.quoted m.text) m.wanted)
  | _ => do throw (.notYaml (← read).breakError)

/-- The items of a sequence; nothing at all is an empty one. -/
def items (place : Path) (n : Yaml.Node) : Read (List Yaml.Node) := do
  match ← follow n with
  | .sequence _ items => return items
  | .scalar _ .plain "" => return []
  | n => wrongType place "a sequence" n

/-- The entries of a mapping; nothing at all is an empty one. -/
def entries (place : Path) (expected : String) (n : Yaml.Node) : Read (List (Yaml.Node × Yaml.Node)) := do
  match ← follow n with
  | .mapping _ entries => return entries
  | .absent => return []
  | .scalar _ .plain "" => return []
  | n => wrongType place expected n

/-- The text of a scalar, whatever it would stand for. -/
def textOf (place : Path) (expected : String) (n : Yaml.Node) : Read String := do
  match ← follow n with
  | .scalar _ _ text => return text
  | n => wrongType place expected n

/-- The text that a value is kept as: strings, integers and booleans have one. -/
def keptText (place : Path) : Yaml.Resolved → Read String
  | .text s => return s
  | .bool b => return if b then "true" else "false"
  | .int n =>
    if n < -(Nat.pow 2 63) ∨ n ≥ Nat.pow 2 64 then
      refuse place (.wrongType (Yaml.Resolved.int n).describe "a string, integer or boolean")
    else return toString n
  | .float x => refuse place (.unquotedNumber x)
  | .null => refuse place (.wrongType Yaml.Resolved.null.describe "a string, integer or boolean")

/-- The text of a scalar that is a string, an integer or a boolean. -/
def scalarOf (place : Path) (n : Yaml.Node) : Read String := do
  let expected := "a string, integer or boolean"
  match ← follow n with
  | .scalar tag style text =>
    if Yaml.selectsKind tag then refuse place (.wrongType "enum" expected)
    else
      match Yaml.resolve tag style text with
      | .ok v => keptText place v
      | .error m => refuse place (.wrongValue ("string " ++ Text.quoted m.text) m.wanted)
  | .sequence tag items =>
    if Yaml.selectsKind tag then refuse place (.wrongType "enum" expected)
    else wrongType place expected (.sequence tag items)
  | .mapping tag entries =>
    if Yaml.selectsKind tag then refuse place (.wrongType "enum" expected)
    else wrongType place expected (.mapping tag entries)
  | n => wrongType place expected n

/-- Whether a node stands for a missing value: a plain scalar that is empty or spells null. A tag other than that
of null says that there is a value; that of null asks for a spelling of null, and the complaint that there is none
is about the mapping. -/
def isMissing (mapping : Path) (n : Yaml.Node) : Read Bool := do
  match n with
  | .scalar none .plain text => return text == "" || Yaml.spellsNull text
  | .scalar (some tag) .plain text =>
    if tag = Yaml.standardTag "null" then
      if Yaml.spellsNull text then return true
      else refuse mapping (.wrongValue ("string " ++ Text.quoted text) "null")
    else return false
  | _ => return false

/-- A value that may be missing, read by `value` if it is not. -/
def optional (mapping place : Path) (value : Path → Yaml.Node → Read String) (n : Yaml.Node) :
    Read (Option String) := do
  let n ← follow n
  if ← isMissing mapping n then return none
  return some (← value place n)

/-- The place of the value of a key. -/
def placeOf (mapping : Path) : Yaml.Node → Path
  | .scalar _ _ text => .field mapping text
  | _ => .unnamed mapping

/-- The name of an entry of a mapping with known names, each of which may occur once. -/
def fieldName (mapping : Path) (known seen : List String) (key : Yaml.Node) : Read String := do
  let name ← textOf mapping "field identifier" key
  if name ∉ known then refuse mapping (.unknownField name known)
  if name ∈ seen then refuse mapping (.duplicateField name)
  return name

/-! ## The schema -/

/-- The names of a parameter entry. -/
def paramNames : List String := ["key", "expect", "update"]

/-- Reads the entries of a parameter into `p`. -/
def paramFrom (place : Path) (seen : List String) (p : RawParam) : List (Yaml.Node × Yaml.Node) → Read RawParam
  | [] => return p
  | (key, value) :: rest => do
    let name ← fieldName place paramNames seen key
    let text ← optional place (placeOf place key) scalarOf value
    let p :=
      if name = "key" then { p with key := text }
      else if name = "expect" then { p with expect := text }
      else { p with update := text }
    paramFrom place (name :: seen) p rest

/-- A parameter entry. -/
def param (place : Path) (n : Yaml.Node) : Read RawParam := do
  paramFrom place [] ⟨none, none, none⟩ (← entries place "struct ParamEntryV0" n)

/-- Reads field values into `m`; of values with one name the last counts. -/
def fieldsFrom (place : Path) (m : TextMap) : List (Yaml.Node × Yaml.Node) → Read TextMap
  | [] => return m
  | (key, value) :: rest => do
    let name ← textOf place "a string" key
    let text ← scalarOf (placeOf place key) value
    fieldsFrom place (m.insert name text) rest

/-- The names of a feature entry. -/
def featureNames : List String := ["id", "type", "mode", "fields"]

/-- Reads the entries of a feature into `f`. -/
def featureFrom (place : Path) (seen : List String) (f : RawFeature) : List (Yaml.Node × Yaml.Node) → Read RawFeature
  | [] => return f
  | (key, value) :: rest => do
    let name ← fieldName place featureNames seen key
    let here := placeOf place key
    let f ←
      if name = "id" then pure { f with id := ← optional place here scalarOf value }
      else if name = "type" then pure { f with type? := ← optional place here (fun p => textOf p "a string") value }
      else if name = "mode" then pure { f with mode := ← optional place here (fun p => textOf p "a string") value }
      else pure { f with fields := ← fieldsFrom here .empty (← entries here "a map" value) }
    featureFrom place (name :: seen) f rest

/-- A feature entry. -/
def feature (place : Path) (n : Yaml.Node) : Read RawFeature := do
  featureFrom place [] ⟨none, none, none, .empty⟩ (← entries place "struct FeatureEntryV0" n)

/-- Reads the items of a sequence, numbered from `index`. -/
def eachItem {α : Type} (place : Path) (value : Path → Yaml.Node → Read α) (index : Nat) :
    List Yaml.Node → Read (List α)
  | [] => return []
  | n :: rest => do
    let x ← value (.item place index) n
    return x :: (← eachItem place value (index + 1) rest)

/-- The schema version: a number of 32 bits. -/
def version (place : Path) (n : Yaml.Node) : Read Nat := do
  let n ← follow n
  let number? : Option Nat :=
    match n with
    | .scalar tag style text =>
      if style = .plain ∨ (style = .literal ∧ tag = some (Yaml.standardTag "int")) then
        match text.toList with
        | '+' :: cs => Yaml.magnitude? cs
        | cs => Yaml.magnitude? cs
      else none
    | _ => none
  match number?.filter (· < Nat.pow 2 64) with
  | some v =>
    if v < Nat.pow 2 32 then return v
    else refuse place (.wrongValue (Yaml.Resolved.int v).describe "u32")
  | none => wrongType place "u32" n

/-- The names of a patch. -/
def patchNames : List String := ["schema_version", "project", "params", "features"]

/-- Reads the entries of a patch into `p`. -/
def patchFrom (seen : List String) (p : RawPatch) : List (Yaml.Node × Yaml.Node) → Read RawPatch
  | [] => if "schema_version" ∈ seen then return p else refuse .root (.missingField "schema_version")
  | (key, value) :: rest => do
    let name ← fieldName .root patchNames seen key
    let here := placeOf .root key
    let p ←
      if name = "schema_version" then pure { p with schemaVersion := ← version here value }
      else if name = "project" then
        pure { p with project := ← optional .root here (fun p => textOf p "a string") value }
      else if name = "params" then pure { p with params := ← eachItem here param 0 (← items here value) }
      else pure { p with features := ← eachItem here feature 0 (← items here value) }
    patchFrom (name :: seen) p rest

/-- A patch. -/
def patch (n : Yaml.Node) : Read RawPatch := do
  patchFrom [] ⟨0, none, [], []⟩ (← entries .root "struct PatchV0" n)

end Read

/-- How often aliases may be followed for each part of a document. -/
def aliasesPerNode : Nat := 100

/-- The patch that a text holds. What follows the document is judged last. -/
def RawPatch.ofText (text : String) : Except ReadError RawPatch := do
  let d := Yaml.Document.of text
  let breakError := match d.ending with
    | .broken e => e
    | _ => .unexpectedToken
  let (p, _) ← ((Read.patch d.root).run ⟨d.anchored, breakError⟩).run (aliasesPerNode * d.size)
  match d.ending with
  | .clean => return p
  | .broken e => throw (.notYaml e)
  | .followed => throw (.notYaml .severalDocuments)

end GuardedPatch
