import GuardedPatch.Patch.Document
import GuardedPatch.Patch.Raw

set_option autoImplicit false

/-! # Loading

A patch as written becomes a document: the schema version has to be 0, modes are looked up, what is missing is
filled in, and the document is checked. Of several faults the schema version comes first, then the modes of all
features in order, then the parameters and the features. -/

namespace GuardedPatch

/-- The mode of a feature entry; blanks around it do not count. -/
def RawFeature.checkedMode (f : RawFeature) (label : String) : Except LoadError FeatureMode :=
  match f.mode with
  | none => .error (.invalidFeatureMode label "exactly one of find or create is required")
  | some word =>
    match FeatureMode.ofName? (Text.trim word) with
    | some mode => .ok mode
    | none =>
      .error (.invalidFeatureMode label ("mode must be 'find' or 'create', got '" ++ Text.trim word ++ "'"))

/-- The text, unless it is blank. -/
def unlessBlank (s : Option String) : Option String :=
  s.filter fun s => !Text.isBlank s

/-- The change that a parameter entry asks for. -/
def RawParam.toChange (p : RawParam) : ParamChange :=
  ⟨p.key.getD "", p.expect.getD "", p.update.getD ""⟩

/-- The change that a feature entry asks for, at its place in the list. -/
def RawFeature.toChange (index : Nat) (f : RawFeature) : Except LoadError FeatureChange := do
  let id := f.id.getD ""
  let mode ← f.checkedMode (if id = "" then "features[" ++ toString index ++ "]" else id)
  return ⟨id, unlessBlank f.type?, mode, f.fields⟩

/-- The changes that feature entries ask for, from a place in the list on. -/
def RawFeature.toChangesFrom (index : Nat) : List RawFeature → Except LoadError (List FeatureChange)
  | [] => .ok []
  | f :: rest => do
    let c ← f.toChange index
    return c :: (← RawFeature.toChangesFrom (index + 1) rest)

/-- The document that a patch asks for. -/
def RawPatch.toDocument (p : RawPatch) : Except LoadError Document := do
  if p.schemaVersion ≠ 0 then throw (.unsupportedSchemaVersion p.schemaVersion)
  let features ← RawFeature.toChangesFrom 0 p.features
  Document.of? ((unlessBlank p.project).getD defaultProject) (p.params.map RawParam.toChange) features

/-- The document of a patch text. -/
def load (text : String) : Except LoadError Document :=
  match RawPatch.ofText text with
  | .ok p => p.toDocument
  | .error e => .error (.malformed ("YAML parse error: " ++ e.message))

end GuardedPatch
