import GuardedPatch.Error
import GuardedPatch.Hash.Sha256
import GuardedPatch.Json.Fields
import GuardedPatch.Patch.Change
import GuardedPatch.Patch.Secret

set_option autoImplicit false

/-! # Documents

A document is a list of parameter changes and a list of feature changes for one project. In a valid one every entry
is complete, no parameter and no feature is changed twice, a feature that is created has a type, and secrets are
references. Entries are checked in order, parameters first, and the first fault is reported.

The digest of a document is that of its compact JSON text, so it does not depend on how the patch was laid out. -/

namespace GuardedPatch

open Json (Value)

/-- The project of a patch that names none. -/
def defaultProject : String := "_Self"

/-- What a patch asks for. -/
structure Document where
  project : String
  params : List ParamChange
  features : List FeatureChange
deriving DecidableEq

namespace Document

/-- Whether nothing is asked for. -/
def isEmpty (d : Document) : Bool :=
  d.params.isEmpty && d.features.isEmpty

/-! ## Checks -/

/-- Checks one parameter change, at its place in the list and after the changes of the keys `seen`. -/
def checkParam (index : Nat) (seen : List String) (c : ParamChange) : Except LoadError Unit :=
  if Text.isBlank c.key then .error (.missingField ("params[" ++ toString index ++ "]") "key")
  else if c.expected = "" then .error (.missingField c.key "expect")
  else if c.update = "" then .error (.missingField c.key "update")
  else if c.key ∈ seen then .error (.duplicateKey c.key)
  else .ok ()

/-- Checks parameter changes in order. -/
def checkParamsFrom (index : Nat) (seen : List String) : List ParamChange → Except LoadError Unit
  | [] => .ok ()
  | c :: rest => do
    checkParam index seen c
    checkParamsFrom (index + 1) (c.key :: seen) rest

/-- Checks the parameter changes of a document. -/
def checkParams (cs : List ParamChange) : Except LoadError Unit :=
  checkParamsFrom 0 [] cs

/-- Whether a field is fit to be stored: a secret only as a reference. -/
def isSafeField (name value : String) : Bool :=
  !isSecretField name || (SecretRef.parse? value).isSome

/-- Checks one feature change, at its place in the list and after the changes of the ids `seen`. -/
def checkFeature (index : Nat) (seen : List String) (c : FeatureChange) : Except LoadError Unit :=
  if Text.isBlank c.id then .error (.missingField ("features[" ++ toString index ++ "]") "id")
  else if c.id ∈ seen then .error (.duplicateFeature c.id)
  else if c.mode = .create ∧ c.type?.all Text.isBlank then
    .error (.invalidFeatureMode c.id "create requires a feature type")
  else
    match c.desired.entries.find? fun e => !isSafeField e.1 e.2 with
    | some e => .error (.inlineSecret c.id e.1)
    | none => .ok ()

/-- Checks feature changes in order. -/
def checkFeaturesFrom (index : Nat) (seen : List String) : List FeatureChange → Except LoadError Unit
  | [] => .ok ()
  | c :: rest => do
    checkFeature index seen c
    checkFeaturesFrom (index + 1) (c.id :: seen) rest

/-- Checks the feature changes of a document. -/
def checkFeatures (cs : List FeatureChange) : Except LoadError Unit :=
  checkFeaturesFrom 0 [] cs

/-- The document with these changes, if they are valid. -/
def of? (project : String) (params : List ParamChange) (features : List FeatureChange) :
    Except LoadError Document := do
  checkParams params
  checkFeatures features
  return ⟨project, params, features⟩

end Document

/-! ## Canonical text -/

/-- A parameter change as a JSON object. -/
def ParamChange.toJson (c : ParamChange) : Value :=
  .obj [("key", .str c.key), ("expected_value", .str c.expected), ("new_value", .str c.update)]

/-- A feature change as a JSON object. -/
def FeatureChange.toJson (c : FeatureChange) : Value :=
  .obj [("feature_id", .str c.id), ("feature_type", Value.ofOption c.type?), ("mode", .str c.mode.name),
    ("desired_field_values", Value.ofTextMap c.desired)]

/-- A document as a JSON object. -/
def Document.toJson (d : Document) : Value :=
  .obj [("project", .str d.project), ("params", .arr (d.params.map ParamChange.toJson)),
    ("features", .arr (d.features.map FeatureChange.toJson))]

/-- The text that identifies a document. -/
def Document.canonicalText (d : Document) : String :=
  d.toJson.compact

/-- The digest of a document. -/
def Document.digest (d : Document) : String :=
  Hash.sha256 d.canonicalText

end GuardedPatch
