import GuardedPatch.Run.Step
import GuardedPatch.Run.Traced

set_option autoImplicit false

/-! # Applying

The steps of a document are one unit. Every write that is done puts its undo on top of a journal. When a step is
refused, the journal is replayed from the top, every undo being tried even after one has failed, and the run is
aborted with what had been done before. A forecast is the result of the same steps without a store. -/

namespace GuardedPatch

/-- What applying a document would do. -/
def forecast (d : Document) (r : Report) : Except PatchError ApplyResult :=
  (Agenda.of? d r).map Agenda.result

variable {σ : Type} [ConfigStore σ]

/-- Replays a journal, newest write first, and gives the undos that failed. -/
def replay : List Undo → σ → List (Undo × StoreError) × σ
  | [], s => ([], s)
  | u :: rest, s =>
    match u.perform s with
    | (.ok _, s) => replay rest s
    | (.error e, s) =>
      let (failures, s) := replay rest s
      ((u, e) :: failures, s)

/-- Stops a run at a refused step and takes back what the journal holds. -/
def abort (refusal : Refusal) (result : ApplyResult) (journal : List Undo) (s : σ) : Traced σ ApplyResult :=
  let (failures, s) := replay journal s
  ⟨.error (.applyAborted refusal.key refusal.reason result failures.isEmpty), s,
    .writeRejected refusal.key refusal.reason :: failures.map fun (u, e) => .undoFailed u.target e⟩

/-- Does steps one after the other, on top of a result and a journal. -/
def performAll (result : ApplyResult) (journal : List Undo) : List Step → σ → Traced σ ApplyResult
  | [], s => .pure result s
  | step :: rest, s =>
    match step.perform s with
    | (.error refusal, s) => abort refusal result journal s
    | (.ok _, s) => performAll (step.addTo result) (step.undo?.toList ++ journal) rest s

/-- Applies a document by a report on it. -/
def apply (d : Document) (r : Report) (s : σ) : Traced σ ApplyResult :=
  match Agenda.of? d r with
  | .error e => .fail e s
  | .ok agenda => performAll agenda.initial [] agenda.steps s

end GuardedPatch
