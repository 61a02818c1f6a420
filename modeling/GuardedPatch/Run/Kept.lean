import GuardedPatch.Run.Phase

set_option autoImplicit false

/-! # Runs with a state and a report

A run can also be kept with its state as a word and its report, once there is one, apart from it, and with the digest
of its document from the start on. Nothing in such a record says that there is a report whenever it is needed, so that
its absence is an error of its own. -/

namespace GuardedPatch

/-- How far a run has come, without the report. -/
inductive RunState
  | loaded
  | validated
  | applied
  | aborted
deriving DecidableEq, Repr

/-- The word for a state. -/
def RunState.name : RunState → String
  | .loaded => "Loaded"
  | .validated => "Validated"
  | .applied => "Applied"
  | .aborted => "Aborted"

/-- One pass over one document, with its state and its report apart. -/
structure KeptRun where
  context : Context
  state : RunState
  document : Document
  digest : String
  report? : Option Report
deriving DecidableEq

namespace KeptRun

/-- A run of a document that has not looked at any store. -/
def start (context : Context) (document : Document) : KeptRun :=
  ⟨context, .loaded, document, document.digest, none⟩

/-- Refuses what is asked for in another state. -/
def expectState (run : KeptRun) (wanted : RunState) (action : String) : Except PatchError Unit :=
  if run.state = wanted then .ok ()
  else .error (.internal ("cannot " ++ action ++ " a run in state " ++ run.state.name))

/-- The report to go on with. -/
def validatedReport (run : KeptRun) : Except PatchError Report :=
  match run.report? with
  | some report => .ok report
  | none => .error (.internal "validated run has no report")

/-- A result with the digest of the run's document. -/
def signed (run : KeptRun) (result : ApplyResult) : ApplyResult :=
  { result with digest := some run.digest }

/-- What applying the run would do. -/
def forecast (run : KeptRun) : Except PatchError ApplyResult := do
  run.expectState .validated "plan"
  let report ← run.validatedReport
  (GuardedPatch.forecast run.document report).map run.signed

variable {σ : Type} [ConfigStore σ]

/-- Validates the run against a store. -/
def validate (run : KeptRun) (s : σ) : KeptRun × Traced σ Report :=
  match run.expectState .loaded "validate" with
  | .error e => (run, .fail e s)
  | .ok _ =>
    let t := GuardedPatch.validate run.document s
    match t.answer with
    | .ok report => ({ run with state := .validated, report? := some report }, t)
    | .error _ => ({ run with state := .aborted }, t)

/-- Applies the run to a store. -/
def apply (run : KeptRun) (s : σ) : KeptRun × Traced σ ApplyResult :=
  match run.expectState .validated "apply" with
  | .error e => (run, .fail e s)
  | .ok _ =>
    match run.validatedReport with
    | .error e => (run, .fail e s)
    | .ok report =>
      let t := PatchRun.applyBracketed run.document report s
      match t.answer with
      | .ok _ => ({ run with state := .applied }, t.map run.signed)
      | .error _ => ({ run with state := .aborted }, t)

end KeptRun

end GuardedPatch
