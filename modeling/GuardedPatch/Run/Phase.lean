import GuardedPatch.Run.Apply
import GuardedPatch.Run.Validate

set_option autoImplicit false

/-! # Runs

A run takes one document through one validation and one application, and never goes back: it is loaded, then
validated, then applied or aborted. Asking for something out of turn is refused and changes neither the run nor the
store. Applying is bracketed by the store's unit of work, which is kept if all steps were done and dropped
otherwise. -/

namespace GuardedPatch

/-- How far a run has come. -/
inductive Phase
  | loaded
  | validated (report : Report)
  | applied (report : Report)
  /-- The report is there if validation went well. -/
  | aborted (report : Option Report)
deriving DecidableEq

namespace Phase

/-- The word for a phase. -/
def name : Phase → String
  | .loaded => "Loaded"
  | .validated _ => "Validated"
  | .applied _ => "Applied"
  | .aborted _ => "Aborted"

/-- The report that was made. -/
def report? : Phase → Option Report
  | .loaded => none
  | .validated r | .applied r => some r
  | .aborted r => r

end Phase

/-- One pass over one document. -/
structure PatchRun where
  context : Context
  document : Document
  phase : Phase
deriving DecidableEq

namespace PatchRun

/-- A run of a document that has not looked at any store. -/
def start (context : Context) (document : Document) : PatchRun :=
  ⟨context, document, .loaded⟩

/-- The digest of the run's document. -/
def digest (run : PatchRun) : String :=
  run.document.digest

/-- The error of asking for something out of turn. -/
def outOfTurn (run : PatchRun) (action : String) : PatchError :=
  .internal ("cannot " ++ action ++ " a run in state " ++ run.phase.name)

/-- A result with the digest of the run's document. -/
def signed (run : PatchRun) (result : ApplyResult) : ApplyResult :=
  { result with digest := some run.digest }

/-- What applying the run would do. -/
def forecast (run : PatchRun) : Except PatchError ApplyResult :=
  match run.phase with
  | .validated report => (GuardedPatch.forecast run.document report).map run.signed
  | _ => .error (run.outOfTurn "plan")

variable {σ : Type} [ConfigStore σ]

/-- Validates the run against a store. -/
def validate (run : PatchRun) (s : σ) : PatchRun × Traced σ Report :=
  match run.phase with
  | .loaded =>
    let t := GuardedPatch.validate run.document s
    match t.answer with
    | .ok report => ({ run with phase := .validated report }, t)
    | .error _ => ({ run with phase := .aborted none }, t)
  | _ => (run, .fail (run.outOfTurn "validate") s)

/-- Applies a document inside a unit of work of the store. -/
def applyBracketed (d : Document) (report : Report) (s : σ) : Traced σ ApplyResult :=
  match ConfigStore.beginRun s with
  | (.error e, s) => .fail (.ofStore e) s
  | (.ok _, s) =>
    let t := GuardedPatch.apply d report s
    match t.answer with
    | .ok result =>
      match ConfigStore.endRun true t.store with
      | (.ok _, s) => ⟨.ok result, s, t.events⟩
      | (.error e, s) => ⟨.error (.ofStore e), s, t.events⟩
    | .error stop =>
      match ConfigStore.endRun false t.store with
      | (.ok _, s) => ⟨.error stop, s, t.events⟩
      | (.error e, s) => ⟨.error stop, s, t.events ++ [.runNotClosed e]⟩

/-- Applies the run to a store. -/
def apply (run : PatchRun) (s : σ) : PatchRun × Traced σ ApplyResult :=
  match run.phase with
  | .validated report =>
    let t := applyBracketed run.document report s
    match t.answer with
    | .ok _ => ({ run with phase := .applied report }, t.map run.signed)
    | .error _ => ({ run with phase := .aborted (some report) }, t)
  | _ => (run, .fail (run.outOfTurn "apply") s)

end PatchRun

end GuardedPatch
