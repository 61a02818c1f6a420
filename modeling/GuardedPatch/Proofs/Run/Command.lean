import GuardedPatch.Proofs.Document
import GuardedPatch.Run.Command

set_option autoImplicit false

/-! # Commands by their stages

Both commands load, validate and then go on; what they answer and where they leave the store is told stage by stage.
A text that does not load, or whose document is not validated, ends both of them in the same way
(`commands_of_validatedRun_error`); after a validation one of them applies inside a unit of work
(`applyPatch_of_load_ok`) and the other one forecasts (`planPatch_of_load_ok`). -/

namespace GuardedPatch

/-- The run of a document that was validated. -/
def validated (ctx : Context) (d : Document) (report : Report) : PatchRun :=
  ⟨ctx, d, .validated report⟩

section Traced

variable {σ α β γ : Type}

@[simp]
theorem bracketed_answer (op : Log.Operation) (tally : α → Log.Tally) (t : Traced σ α) :
    (bracketed op tally t).answer = t.answer := rfl

@[simp]
theorem bracketed_store (op : Log.Operation) (tally : α → Log.Tally) (t : Traced σ α) :
    (bracketed op tally t).store = t.store := rfl

theorem Traced.after_andThen (events : List Log.Event) (t : Traced σ α) (next : α → σ → Traced σ β) :
    (t.after events).andThen next = (t.andThen next).after events := by
  obtain ⟨answer, s, events'⟩ := t
  cases answer with
  | ok a => simp only [Traced.andThen, Traced.after, List.append_assoc]
  | error e => rfl

theorem Traced.map_andThen (f : α → β) (t : Traced σ α) (next : β → σ → Traced σ γ) :
    (t.map f).andThen next = t.andThen fun a => next (f a) := by
  obtain ⟨answer, s, events⟩ := t
  cases answer <;> rfl

theorem andThen_of_error {t : Traced σ α} {next : α → σ → Traced σ β} {e : PatchError}
    (h : t.answer = .error e) : (t.andThen next).answer = .error e ∧ (t.andThen next).store = t.store := by
  rw [Traced.andThen, h]
  exact ⟨rfl, rfl⟩

theorem andThen_of_ok {t : Traced σ α} {next : α → σ → Traced σ β} {a : α} (h : t.answer = .ok a) :
    (t.andThen next).answer = (next a t.store).answer ∧ (t.andThen next).store = (next a t.store).store := by
  rw [Traced.andThen, h]
  exact ⟨rfl, rfl⟩

theorem loadTraced_of_error {text : String} {e : LoadError} (h : load text = .error e) (s : σ) :
    loadTraced text s = .fail (.load e) s := by
  unfold loadTraced
  rw [h]

theorem loadTraced_of_ok {text : String} {d : Document} (h : load text = .ok d) (s : σ) :
    loadTraced text s = ⟨.ok d, s, [.documentLoaded d.params.length d.features.length]⟩ := by
  unfold loadTraced
  rw [h]

end Traced

variable {σ : Type} [ConfigStore σ] (ctx : Context) {text : String} {s : σ} {d : Document} {report : Report}

/-! ## Loading and validating -/

theorem validatedRun_of_load_error {e : LoadError} (h : load text = .error e) :
    (validatedRun ctx text s).answer = .error (.load e) ∧ (validatedRun ctx text s).store = s := by
  rw [validatedRun, loadTraced_of_error h]
  exact ⟨rfl, rfl⟩

/-- Once a text is loaded, its document is validated and its changes are logged. -/
theorem validatedRun_of_load_ok (hload : load text = .ok d) :
    validatedRun ctx text s
      = ((validate d s).map fun report => (validated ctx d report, report)).after
          (.documentLoaded d.params.length d.features.length :: Log.changeEvents d) := by
  rw [validatedRun, loadTraced_of_ok hload]
  simp only [Traced.andThen, PatchRun.validate, PatchRun.start, Traced.map, Traced.after, validated]
  cases h : (validate d s).answer with
  | ok report =>
      simp only [h]
      rfl
  | error e =>
      simp only [h]
      rfl

theorem validatedRun_of_validate_error (hload : load text = .ok d) {e : PatchError}
    (h : (validate d s).answer = .error e) :
    (validatedRun ctx text s).answer = .error e ∧ (validatedRun ctx text s).store = (validate d s).store := by
  rw [validatedRun_of_load_ok ctx hload, Traced.after, Traced.map, h]
  exact ⟨rfl, rfl⟩

theorem validatedRun_store (hload : load text = .ok d) :
    (validatedRun ctx text s).store = (validate d s).store := by
  rw [validatedRun_of_load_ok ctx hload]
  rfl

/-! ## Going on -/

/-- **What a unit of work answers**: the error of opening it, the one that stops the steps, or that of keeping their
    writes. -/
theorem applyBracketed_error_iff {e : PatchError} :
    (PatchRun.applyBracketed d report s).answer = .error e ↔
      (∃ err, (ConfigStore.beginRun s).1 = .error err ∧ e = .ofStore err)
        ∨ (ConfigStore.beginRun s).1 = .ok () ∧ ((apply d report (ConfigStore.beginRun s).2).answer = .error e
          ∨ ∃ result err, (apply d report (ConfigStore.beginRun s).2).answer = .ok result
            ∧ (ConfigStore.endRun true (apply d report (ConfigStore.beginRun s).2).store).1 = .error err
            ∧ e = .ofStore err) := by
  rw [PatchRun.applyBracketed]
  generalize ConfigStore.beginRun s = opened
  obtain ⟨answer, s'⟩ := opened
  cases answer with
  | error err => simp [Traced.fail, eq_comm]
  | ok _ =>
      simp only
      generalize apply d report s' = t
      cases hanswer : t.answer with
      | ok result =>
          generalize ConfigStore.endRun true t.store = closed
          obtain ⟨answer, s''⟩ := closed
          cases answer <;> simp [eq_comm]
      | error stop =>
          generalize ConfigStore.endRun false t.store = closed
          obtain ⟨answer, s''⟩ := closed
          cases answer <;> simp

theorem planPatch_store : (planPatch ctx text s).store = (validatedRun ctx text s).store := by
  rw [planPatch, bracketed_store, Traced.andThen]
  cases (validatedRun ctx text s).answer <;> rfl

/-- Both commands end with the error of loading or validating. -/
theorem commands_of_validatedRun_error {ctx : Context} {e : PatchError}
    (h : (validatedRun ctx text s).answer = .error e) :
    (applyPatch ctx text s).answer = .error e ∧ (planPatch ctx text s).answer = .error e
      ∧ (applyPatch ctx text s).store = (validatedRun ctx text s).store := by
  rw [applyPatch, planPatch, bracketed_answer, bracketed_answer, bracketed_store]
  exact ⟨(andThen_of_error h).1, (andThen_of_error h).1, (andThen_of_error h).2⟩

/-- So they end with what is wrong with the text, -/
theorem commands_of_load_error {e : LoadError} (hload : load text = .error e) :
    (applyPatch ctx text s).answer = .error (.load e) ∧ (planPatch ctx text s).answer = .error (.load e)
      ∧ (applyPatch ctx text s).store = s := by
  obtain ⟨hanswer, hstore⟩ := validatedRun_of_load_error ctx (s := s) hload
  obtain ⟨happly, hplan, hafter⟩ := commands_of_validatedRun_error hanswer
  exact ⟨happly, hplan, hafter.trans hstore⟩

/-- or with the error of validating. -/
theorem commands_of_validate_error (hload : load text = .ok d) {e : PatchError} (h : (validate d s).answer = .error e) :
    (applyPatch ctx text s).answer = .error e ∧ (planPatch ctx text s).answer = .error e
      ∧ (applyPatch ctx text s).store = (validate d s).store := by
  obtain ⟨hanswer, hstore⟩ := validatedRun_of_validate_error ctx hload h
  obtain ⟨happly, hplan, hafter⟩ := commands_of_validatedRun_error hanswer
  exact ⟨happly, hplan, hafter.trans hstore⟩

/-- **Both commands end with one error before anything is applied, or go on with a validated document.** -/
theorem commands_cases (text : String) (s : σ) :
    (∃ e, (applyPatch ctx text s).answer = .error e ∧ (planPatch ctx text s).answer = .error e
        ∧ ((applyPatch ctx text s).store = s ∨ ∃ d, (applyPatch ctx text s).store = (validate d s).store))
      ∨ ∃ d report, load text = .ok d ∧ (validate d s).answer = .ok report := by
  cases hload : load text with
  | error e =>
      obtain ⟨happly, hplan, hafter⟩ := commands_of_load_error ctx (s := s) hload
      exact .inl ⟨_, happly, hplan, .inl hafter⟩
  | ok d =>
      cases hvalidate : (validate d s).answer with
      | error e =>
          obtain ⟨happly, hplan, hafter⟩ := commands_of_validate_error ctx hload hvalidate
          exact .inl ⟨_, happly, hplan, .inr ⟨d, hafter⟩⟩
      | ok report => exact .inr ⟨d, report, rfl, hvalidate⟩

/-- Once a text is loaded, it is validated and then applied inside a unit of work. -/
theorem applyPatch_of_load_ok (hload : load text = .ok d) :
    applyPatch ctx text s
      = bracketed .apply (fun o => .applied o.result.applied.length o.result.skipped.length o.digest)
          (((validate d s).andThen fun report s =>
            ((PatchRun.applyBracketed d report s).map fun result =>
              .ofRun ⟨ctx, d, .applied report⟩ ((validated ctx d report).signed result) false).after
                [.expectationsCounted report.eligibleCount report.skippedCount]).after
            (.documentLoaded d.params.length d.features.length :: Log.changeEvents d)) := by
  rw [applyPatch, validatedRun_of_load_ok ctx hload, Traced.after_andThen, Traced.map_andThen]
  congr 3
  funext report s
  simp only [PatchRun.apply, validated]
  obtain ⟨answer, s', events⟩ := PatchRun.applyBracketed d report s
  cases answer <;> rfl

/-- Once a text is loaded, it is validated, and what applying it would do is told without the store. -/
theorem planPatch_of_load_ok (hload : load text = .ok d) :
    planPatch ctx text s
      = bracketed .plan (fun o => .planned o.result.applied.length o.result.skipped.length)
          (((validate d s).andThen fun report s =>
            ⟨(forecast d report).map fun result =>
              .ofRun (validated ctx d report) ((validated ctx d report).signed result) true, s, []⟩).after
            (.documentLoaded d.params.length d.features.length :: Log.changeEvents d)) := by
  rw [planPatch, validatedRun_of_load_ok ctx hload, Traced.after_andThen, Traced.map_andThen]
  congr 3
  funext report s
  simp only [PatchRun.forecast, validated]
  cases forecast d report <;> rfl

/-- A validated run is applied inside a unit of work. -/
theorem applyPatch_of_validated (hload : load text = .ok d) (h : (validate d s).answer = .ok report) :
    (applyPatch ctx text s).answer
        = (PatchRun.applyBracketed d report (validate d s).store).answer.map (fun result =>
            .ofRun ⟨ctx, d, .applied report⟩ ((validated ctx d report).signed result) false)
      ∧ (applyPatch ctx text s).store = (PatchRun.applyBracketed d report (validate d s).store).store := by
  rw [applyPatch_of_load_ok ctx hload, bracketed_answer, bracketed_store]
  exact andThen_of_ok h

end GuardedPatch
