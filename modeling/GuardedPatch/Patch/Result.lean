import GuardedPatch.Json.Value

set_option autoImplicit false

/-! # Results

A result tells, entry by entry in document order, what a run did or would do. Features are reported by the names of
their changed fields and never by their values, so a result can be shown without giving away a reference. -/

namespace GuardedPatch

open Json (Value)

/-- A parameter that got a new value. -/
structure AppliedChange where
  key : String
  old : String
  new : String
deriving DecidableEq, Repr

/-- Why a parameter was left as it is. -/
inductive SkipReason
  | expectationMismatch
  | notPresent
deriving DecidableEq, Repr

/-- The word for a reason. -/
def SkipReason.name : SkipReason → String
  | .expectationMismatch => "ExpectationMismatch"
  | .notPresent => "NotPresent"

/-- The reason that a word stands for. -/
def SkipReason.ofName? (s : String) : Option SkipReason :=
  if s = "ExpectationMismatch" then some .expectationMismatch
  else if s = "NotPresent" then some .notPresent
  else none

/-- A parameter that was left as it is. -/
structure SkippedChange where
  key : String
  reason : SkipReason
  expected : String
  /-- The value that was there, if there was one. -/
  actual : Option String
deriving DecidableEq, Repr

/-- What became of a feature. -/
inductive FeatureAction
  | created
  | updated
  | unchanged
deriving DecidableEq, Repr

/-- The word for an action. -/
def FeatureAction.name : FeatureAction → String
  | .created => "Created"
  | .updated => "Updated"
  | .unchanged => "Unchanged"

/-- The action that a word stands for. -/
def FeatureAction.ofName? (s : String) : Option FeatureAction :=
  if s = "Created" then some .created
  else if s = "Updated" then some .updated
  else if s = "Unchanged" then some .unchanged
  else none

/-- What became of a feature, and the names of its fields that got a new value. -/
structure FeatureOutcome where
  id : String
  action : FeatureAction
  changed : List String
deriving DecidableEq, Repr

/-- What a run did or would do. -/
structure ApplyResult where
  applied : List AppliedChange
  skipped : List SkippedChange
  features : List FeatureOutcome
  /-- The digest of the document, once a run has filled it in. -/
  digest : Option String
deriving DecidableEq, Repr

namespace ApplyResult

/-- The result of doing nothing. -/
def empty : ApplyResult := ⟨[], [], [], none⟩

/-- Whether no store would be changed: every new value is the old one, and every feature is as desired. -/
def isNoop (r : ApplyResult) : Bool :=
  r.applied.all (fun c => c.old == c.new) && r.features.all (fun f => f.action == .unchanged)

/-- The keys of the parameters that got a new value. -/
def appliedKeys (r : ApplyResult) : List String :=
  r.applied.map (·.key)

/-- The result with one more applied parameter. -/
def addApplied (r : ApplyResult) (c : AppliedChange) : ApplyResult :=
  { r with applied := r.applied ++ [c] }

/-- The result with one more feature. -/
def addFeature (r : ApplyResult) (f : FeatureOutcome) : ApplyResult :=
  { r with features := r.features ++ [f] }

end ApplyResult

/-! ## As JSON -/

/-- An applied parameter as a JSON object. -/
def AppliedChange.toJson (c : AppliedChange) : Value :=
  .obj [("key", .str c.key), ("old_value", .str c.old), ("new_value", .str c.new)]

/-- A skipped parameter as a JSON object. -/
def SkippedChange.toJson (c : SkippedChange) : Value :=
  .obj [("key", .str c.key), ("reason", .str c.reason.name), ("expected", .str c.expected),
    ("actual", Value.ofOption c.actual)]

/-- A feature's outcome as a JSON object. -/
def FeatureOutcome.toJson (f : FeatureOutcome) : Value :=
  .obj [("feature_id", .str f.id), ("action", .str f.action.name), ("changed_fields", .arr (f.changed.map .str))]

/-- A result as a JSON object; a digest that is not there is left out. -/
def ApplyResult.toJson (r : ApplyResult) : Value :=
  .obj ([("applied_changes", .arr (r.applied.map AppliedChange.toJson)),
    ("skipped", .arr (r.skipped.map SkippedChange.toJson)),
    ("feature_changes", .arr (r.features.map FeatureOutcome.toJson))]
    ++ Json.optional "document_digest" (r.digest.map .str))

end GuardedPatch
