import GuardedPatch.Patch.Change
import GuardedPatch.Patch.Result
import GuardedPatch.Text.Quoted

set_option autoImplicit false

/-! # Reports

A report holds what a store had to say about each change of a document, in document order: for a parameter whether
it has the expected value, and for a feature the record that the change lands on. -/

namespace GuardedPatch

/-- What a store says about an expected value. -/
inductive Verdict
  /-- The parameter has it. -/
  | eligible
  /-- There is no such parameter. -/
  | notPresent
  /-- The parameter has another value. -/
  | mismatch (actual : String)
deriving DecidableEq, Repr

/-- The verdict on a change whose parameter has this value. -/
def ParamChange.verdict (c : ParamChange) : Option String → Verdict
  | none => .notPresent
  | some value => if value = c.expected then .eligible else .mismatch value

namespace Verdict

/-- Why the parameter is skipped, and the value it has, if it is skipped. -/
def skip? : Verdict → Option (SkipReason × Option String)
  | .eligible => none
  | .notPresent => some (.notPresent, none)
  | .mismatch actual => some (.expectationMismatch, some actual)

/-- The text that the log shows for a verdict. -/
def text (v : Verdict) : String :=
  match v.skip? with
  | none => "Eligible"
  | some (reason, actual) =>
    "Skipped \x7b reason: " ++ reason.name ++ ", actual: "
      ++ (match actual with | some value => "Some(" ++ Text.quoted value ++ ")" | none => "None") ++ " \x7d"

end Verdict

/-- What a store says about a parameter change. -/
structure ParamCheck where
  key : String
  verdict : Verdict
deriving DecidableEq, Repr

/-- Where a feature change lands. -/
inductive Target
  /-- A record is inserted, in the place of the one with its id if there is one. -/
  | create (replaces : Option FeatureRecord)
  /-- Fields are overlaid on this record. -/
  | update (existing : FeatureRecord)
deriving DecidableEq

/-- Where a change lands among these records, if it can. -/
def FeatureChange.target? (c : FeatureChange) (records : List FeatureRecord) : Option Target :=
  match c.mode with
  | .create => some (.create (records.find? (·.id == c.id)))
  | .find => (records.find? c.selects).map .update

/-- What a store says about a feature change. -/
structure FeatureCheck where
  id : String
  target : Target
deriving DecidableEq

/-- What a store says about a document. -/
structure Report where
  params : List ParamCheck
  features : List FeatureCheck
deriving DecidableEq

/-- How many parameters have their expected value. -/
def Report.eligibleCount (r : Report) : Nat :=
  r.params.countP (·.verdict == .eligible)

/-- How many parameters are skipped. -/
def Report.skippedCount (r : Report) : Nat :=
  r.params.length - r.eligibleCount

end GuardedPatch
