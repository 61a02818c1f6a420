import GuardedPatch.Error
import GuardedPatch.Patch.Document
import GuardedPatch.Run.Report
import GuardedPatch.Store.Basic

set_option autoImplicit false

/-! # Steps

A document and a report on it give the writes that a run intends, parameters first, and the parameters that it
skips. Each step knows what it adds to the result and, once it is done, how it is undone: a parameter gets the value
back that it was expected to have, a feature the record that the report found, and a record that was inserted is
removed. -/

namespace GuardedPatch

/-- A write that a run intends. -/
inductive Step
  | setParam (change : ParamChange)
  /-- Stores a record in the place of the previous one. -/
  | putFeature (record : FeatureRecord) (previous : Option FeatureRecord) (outcome : FeatureOutcome)
deriving DecidableEq

/-- How a write is undone. -/
inductive Undo
  | param (key old : String)
  | feature (id : String) (previous : Option FeatureRecord)
deriving DecidableEq

/-! ## From a report -/

/-- The step for a feature change that lands on a target. -/
def FeatureChange.step (c : FeatureChange) : Target → Step
  | .create replaces =>
    let record : FeatureRecord := ⟨c.id, c.type?.getD "", c.desired⟩
    let outcome : FeatureOutcome :=
      if replaces = some record then ⟨c.id, .unchanged, []⟩ else ⟨c.id, .created, c.desired.keys⟩
    .putFeature record replaces outcome
  | .update existing =>
    let (record, changed) := existing.mergedWith c.desired
    .putFeature record (some existing) ⟨c.id, if changed.isEmpty then .unchanged else .updated, changed⟩

/-- The step for a parameter change, if its parameter has the expected value. -/
def ParamChange.step? (c : ParamChange) (v : Verdict) : Option Step :=
  match v.skip? with
  | none => some (.setParam c)
  | some _ => none

/-- The entry of a parameter change that is skipped. -/
def ParamChange.skipped? (c : ParamChange) (v : Verdict) : Option SkippedChange :=
  v.skip?.map fun (reason, actual) => ⟨c.key, reason, c.expected, actual⟩

/-- What a run intends. -/
structure Agenda where
  steps : List Step
  skipped : List SkippedChange

/-- What a run intends for a document and a report, entry by entry. -/
def Agenda.ofReport (d : Document) (r : Report) : Agenda where
  steps :=
    (d.params.zip r.params).filterMap (fun (c, check) => c.step? check.verdict)
      ++ (d.features.zip r.features).map fun (c, check) => c.step check.target
  skipped := (d.params.zip r.params).filterMap fun (c, check) => c.skipped? check.verdict

/-- What a run intends, if the report is about the keys and ids of the document. -/
def Agenda.of? (d : Document) (r : Report) : Except PatchError Agenda :=
  if d.params.map (·.key) ≠ r.params.map (·.key) then .error (.reportMismatch "parameter entries differ")
  else if d.features.map (·.id) ≠ r.features.map (·.id) then .error (.reportMismatch "feature entries differ")
  else .ok (.ofReport d r)

/-! ## Results -/

/-- The result with what a step adds to it. -/
def Step.addTo (result : ApplyResult) : Step → ApplyResult
  | .setParam c => result.addApplied ⟨c.key, c.expected, c.update⟩
  | .putFeature _ _ outcome => result.addFeature outcome

/-- The result before the first step. -/
def Agenda.initial (a : Agenda) : ApplyResult :=
  { ApplyResult.empty with skipped := a.skipped }

/-- The result after all steps. -/
def Agenda.result (a : Agenda) : ApplyResult :=
  a.steps.foldl Step.addTo a.initial

/-! ## Doing and undoing -/

/-- Why a step was not done: what it is about, and the reason. -/
structure Refusal where
  key : String
  reason : String
deriving DecidableEq, Repr

/-- How a step is undone once it is done; a feature that stays as it is is not written at all. -/
def Step.undo? : Step → Option Undo
  | .setParam c => some (.param c.key c.expected)
  | .putFeature record previous outcome =>
    if outcome.action = .unchanged then none else some (.feature record.id previous)

/-- What an undo is about. -/
def Undo.target : Undo → String
  | .param key _ => key
  | .feature id _ => id

variable {σ : Type} [ConfigStore σ]

/-- Does a step. A parameter is read once more, since its value may have changed after the report. -/
def Step.perform (step : Step) (s : σ) : Except Refusal Unit × σ :=
  match step with
  | .setParam c =>
    match ConfigStore.get c.key s with
    | (.error e, s) => (.error ⟨c.key, e.message⟩, s)
    | (.ok actual, s) =>
      if actual ≠ some c.expected then (.error ⟨c.key, "value changed between validation and apply"⟩, s)
      else
        match ConfigStore.set c.key c.update s with
        | (.error e, s) => (.error ⟨c.key, e.message⟩, s)
        | (.ok _, s) => (.ok (), s)
  | .putFeature record _ outcome =>
    if outcome.action = .unchanged then (.ok (), s)
    else
      match ConfigStore.upsertFeature record s with
      | (.error e, s) => (.error ⟨record.id, e.message⟩, s)
      | (.ok _, s) => (.ok (), s)

/-- Undoes a write. -/
def Undo.perform (u : Undo) : StoreCall σ Unit :=
  match u with
  | .param key old => ConfigStore.set key old
  | .feature _ (some previous) => ConfigStore.upsertFeature previous
  | .feature id none => ConfigStore.removeFeature id

end GuardedPatch
