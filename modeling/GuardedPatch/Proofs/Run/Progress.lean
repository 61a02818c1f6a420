import GuardedPatch.Run.Apply
import Mathlib.Data.List.Nodup

set_option autoImplicit false

/-! # The forward pass of a run

Applying a document is a forward pass over its steps, followed, if a step is refused, by the replay of a journal. The
forward pass alone tells which steps are done, which refusal stops it and in what state it leaves the store
(`progress`); the result and the journal are functions of the steps that are done. So `performAll`, which threads
them through its recursion, comes to a case distinction over the forward pass (`performAll_eq`), and whatever is said
about a run is said about the steps it has done. -/

namespace GuardedPatch

/-- How far steps come on a store. -/
structure Progress (σ : Type) where
  done : List Step
  /-- Why the step after those was not done, if there is one. -/
  refusal : Option Refusal
  store : σ

/-- The journal of steps that were done: their undos, newest first. -/
def journalOf (done : List Step) : List Undo :=
  (done.filterMap Step.undo?).reverse

theorem journalOf_cons (step : Step) (done : List Step) :
    journalOf (step :: done) = journalOf done ++ step.undo?.toList := by
  rw [journalOf, journalOf, List.filterMap_cons]
  cases step.undo? with
  | none => simp
  | some u => simp

variable {σ : Type} [ConfigStore σ]

/-- Does steps up to the first that is refused. -/
def progress : List Step → σ → Progress σ
  | [], s => ⟨[], none, s⟩
  | step :: rest, s =>
    match step.perform s with
    | (.error refusal, s) => ⟨[], some refusal, s⟩
    | (.ok _, s) =>
      let p := progress rest s
      { p with done := step :: p.done }

theorem progress_cons_error {step : Step} {rest : List Step} {s : σ} {refusal : Refusal}
    (h : (step.perform s).1 = .error refusal) :
    progress (step :: rest) s = ⟨[], some refusal, (step.perform s).2⟩ := by
  rw [progress]
  split
  · next heq =>
      rw [heq] at h ⊢
      simp only [Except.error.injEq] at h
      rw [h]
  · next heq => simp [heq] at h

theorem progress_cons_ok {step : Step} {rest : List Step} {s : σ} (h : (step.perform s).1 = .ok ()) :
    progress (step :: rest) s =
      ⟨step :: (progress rest (step.perform s).2).done, (progress rest (step.perform s).2).refusal,
        (progress rest (step.perform s).2).store⟩ := by
  rw [progress]
  split
  · next heq => simp [heq] at h
  · next heq => rw [heq]

/-- **Doing steps is a forward pass and, after a refusal, a replay of the journal.** -/
theorem performAll_eq (result : ApplyResult) (journal : List Undo) (steps : List Step) (s : σ) :
    performAll result journal steps s =
      match (progress steps s).refusal with
      | none => .pure ((progress steps s).done.foldl Step.addTo result) (progress steps s).store
      | some refusal =>
        abort refusal ((progress steps s).done.foldl Step.addTo result)
          (journalOf (progress steps s).done ++ journal) (progress steps s).store := by
  -- the result and the journal are what earlier steps have left, so that they vary in the induction
  induction steps generalizing result journal s with
  | nil => rfl
  | cons step rest ih =>
      rw [performAll]
      split
      · next refusal s' heq =>
          rw [progress_cons_error (by rw [heq]), heq]
          rfl
      · next s' heq =>
          rw [progress_cons_ok (by rw [heq]), heq, ih]
          simp only [journalOf_cons, List.foldl_cons, List.append_assoc]

/-! ## Where a forward pass ends -/

theorem done_of_refusal_none {steps : List Step} {s : σ} (h : (progress steps s).refusal = none) :
    (progress steps s).done = steps := by
  induction steps generalizing s with
  | nil => rfl
  | cons step rest ih =>
      cases hstep : (step.perform s).1 with
      | error refusal => simp [progress_cons_error hstep] at h
      | ok _ =>
          rw [progress_cons_ok hstep] at h ⊢
          rw [ih h]

/-- What a step writes to: the key of its parameter, or the id of its record. -/
def Step.target : Step → String
  | .setParam c => c.key
  | .putFeature record _ _ => record.id

/-- A step is refused in its own name. -/
theorem Step.key_of_refusal {step : Step} {s : σ} {refusal : Refusal} (h : (step.perform s).1 = .error refusal) :
    refusal.key = step.target := by
  cases step with
  | setParam c =>
      simp only [Step.perform] at h
      split at h
      · cases h; rfl
      · split at h
        · cases h; rfl
        · split at h <;> cases h
          rfl
  | putFeature record previous outcome =>
      simp only [Step.perform] at h
      split at h
      · cases h
      · split at h <;> cases h
        rfl

/-- A refused step comes right after those that were done. -/
theorem steps_of_refusal {steps : List Step} {s : σ} {refusal : Refusal}
    (h : (progress steps s).refusal = some refusal) :
    ∃ step rest, steps = (progress steps s).done ++ step :: rest ∧ refusal.key = step.target := by
  induction steps generalizing s with
  | nil => simp [progress] at h
  | cons step rest ih =>
      cases hstep : (step.perform s).1 with
      | error refusal' =>
          rw [progress_cons_error hstep] at h ⊢
          obtain rfl : refusal' = refusal := Option.some.inj h
          exact ⟨step, rest, rfl, Step.key_of_refusal hstep⟩
      | ok _ =>
          rw [progress_cons_ok hstep] at h ⊢
          obtain ⟨next, rest', hsplit, hkey⟩ := ih h
          exact ⟨next, rest', congrArg (step :: ·) hsplit, hkey⟩

theorem isPrefix_done (steps : List Step) (s : σ) : (progress steps s).done <+: steps := by
  cases h : (progress steps s).refusal with
  | none => exact ⟨[], by rw [List.append_nil, done_of_refusal_none h]⟩
  | some refusal =>
      obtain ⟨step, rest, hsplit, -⟩ := steps_of_refusal h
      exact ⟨step :: rest, hsplit.symm⟩

/-- The steps that were done can be done on their own. -/
theorem refusal_done (steps : List Step) (s : σ) : (progress (progress steps s).done s).refusal = none := by
  induction steps generalizing s with
  | nil => rfl
  | cons step rest ih =>
      cases hstep : (step.perform s).1 with
      | error refusal =>
          rw [progress_cons_error hstep]
          rfl
      | ok _ =>
          rw [progress_cons_ok hstep, progress_cons_ok hstep]
          exact ih _

/-! ## Applying -/

/-- A report fits a document when it has its keys and ids, in order; then it makes an agenda. -/
theorem Agenda.of?_eq_ok_iff {d : Document} {r : Report} {agenda : Agenda} :
    Agenda.of? d r = .ok agenda ↔
      d.params.map (·.key) = r.params.map (·.key) ∧ d.features.map (·.id) = r.features.map (·.id)
        ∧ agenda = .ofReport d r := by
  rw [Agenda.of?]
  split_ifs with hkeys hids
  · simp [hkeys]
  · simp [hids]
  · push Not at hkeys hids
    simp [hkeys, hids, eq_comm]

variable {d : Document} {r : Report} {s : σ}

theorem apply_of_agenda {agenda : Agenda} (h : Agenda.of? d r = .ok agenda) :
    apply d r s = performAll agenda.initial [] agenda.steps s := by
  rw [apply, h]

/-- Applying went well exactly when no step was refused. -/
theorem apply_eq_ok_iff {agenda : Agenda} (h : Agenda.of? d r = .ok agenda) {result : ApplyResult} :
    (apply d r s).answer = .ok result ↔ (progress agenda.steps s).refusal = none ∧ result = agenda.result := by
  rw [apply_of_agenda h, performAll_eq]
  cases hrefusal : (progress agenda.steps s).refusal with
  | none =>
      simp only [Traced.pure, Except.ok.injEq, done_of_refusal_none hrefusal, true_and]
      exact eq_comm
  | some refusal => simp [abort]

theorem apply_store_of_ok {agenda : Agenda} (h : Agenda.of? d r = .ok agenda)
    (hrefusal : (progress agenda.steps s).refusal = none) :
    (apply d r s).store = (progress agenda.steps s).store := by
  rw [apply_of_agenda h, performAll_eq, hrefusal]
  rfl

/-- The store and the answer after a refusal are those of replaying the journal. -/
theorem apply_of_refusal {agenda : Agenda} (h : Agenda.of? d r = .ok agenda) {refusal : Refusal}
    (hrefusal : (progress agenda.steps s).refusal = some refusal) :
    (apply d r s).answer
        = .error (.applyAborted refusal.key refusal.reason
          ((progress agenda.steps s).done.foldl Step.addTo agenda.initial)
          (replay (journalOf (progress agenda.steps s).done) (progress agenda.steps s).store).1.isEmpty)
      ∧ (apply d r s).store
        = (replay (journalOf (progress agenda.steps s).done) (progress agenda.steps s).store).2 := by
  rw [apply_of_agenda h, performAll_eq, hrefusal, List.append_nil]
  exact ⟨rfl, rfl⟩

/-- An abort comes from a refused step of an agenda. -/
theorem agenda_of_aborted {key reason : String} {partialResult : ApplyResult} {rolledBack : Bool}
    (h : (apply d r s).answer = .error (.applyAborted key reason partialResult rolledBack)) :
    ∃ agenda, Agenda.of? d r = .ok agenda ∧ (progress agenda.steps s).refusal = some ⟨key, reason⟩
      ∧ partialResult = (progress agenda.steps s).done.foldl Step.addTo agenda.initial
      ∧ rolledBack = (replay (journalOf (progress agenda.steps s).done) (progress agenda.steps s).store).1.isEmpty := by
  cases hagenda : Agenda.of? d r with
  | error e =>
      rw [Agenda.of?] at hagenda
      rw [apply, Agenda.of?] at h
      split_ifs at hagenda h <;> cases h
  | ok agenda =>
      refine ⟨agenda, rfl, ?_⟩
      cases hrefusal : (progress agenda.steps s).refusal with
      | none =>
          rw [(apply_eq_ok_iff hagenda).2 ⟨hrefusal, rfl⟩] at h
          cases h
      | some refusal =>
          rw [(apply_of_refusal hagenda hrefusal).1] at h
          cases h
          exact ⟨rfl, rfl, rfl⟩

end GuardedPatch
