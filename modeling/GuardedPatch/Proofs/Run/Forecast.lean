import GuardedPatch.Proofs.Run.Command
import GuardedPatch.Proofs.Run.Progress
import GuardedPatch.Proofs.Run.Validation
import GuardedPatch.Store.Memory

set_option autoImplicit false

/-! # Forecasts

A forecast folds the steps of an agenda without a store, and a run does them one by one until the store refuses one.
Both read the same agenda, so they tell the same as far as the run comes: a run that is not stopped has the result
of the forecast (`forecast_of_apply_ok`), and one that is stopped has a part of it that was cut off, with the entry
of the refused step as the next one (`cutOff_of_progress`, `next_of_progress`).

What a cut-off part lacks shows in the order of its entries, parameters first and features after them; an agenda has
its steps in the same order (`ParamsFirst`). -/

namespace GuardedPatch

/-! ## Entries of a result -/

/-- The entry that a step adds to the applied parameters. -/
def Step.applied? : Step → Option AppliedChange
  | .setParam c => some ⟨c.key, c.expected, c.update⟩
  | .putFeature _ _ _ => none

/-- The entry that a step adds to the features. -/
def Step.outcome? : Step → Option FeatureOutcome
  | .setParam _ => none
  | .putFeature _ _ outcome => some outcome

/-- Steps add their entries in order and leave the rest of a result alone. -/
theorem foldl_addTo (steps : List Step) (result : ApplyResult) :
    steps.foldl Step.addTo result =
      { result with
        applied := result.applied ++ steps.filterMap Step.applied?
        features := result.features ++ steps.filterMap Step.outcome? } := by
  induction steps generalizing result with
  | nil => simp
  | cons step rest ih =>
      rw [List.foldl_cons, ih, List.filterMap_cons, List.filterMap_cons]
      cases step <;> simp [Step.addTo, ApplyResult.addApplied, ApplyResult.addFeature, Step.applied?, Step.outcome?]

theorem ParamChange.outcome?_of_step? {c : ParamChange} {v : Verdict} {step : Step} (h : c.step? v = some step) :
    step.outcome? = none := by
  rw [step?] at h
  split at h
  · cases h
    rfl
  · cases h

/-- A report has the keys and ids of a document, in its order. -/
def Report.AlignedWith (r : Report) (d : Document) : Prop :=
  d.params.map (·.key) = r.params.map (·.key) ∧ d.features.map (·.id) = r.features.map (·.id)

theorem Report.AlignedWith.agenda {r : Report} {d : Document} (h : r.AlignedWith d) :
    Agenda.of? d r = .ok (.ofReport d r) :=
  Agenda.of?_eq_ok_iff.2 ⟨h.1, h.2, rfl⟩

section Agreement

variable {σ : Type} [ConfigStore σ]

theorem forecast_of_aligned {d : Document} {r : Report} (h : r.AlignedWith d) :
    forecast d r = .ok (Agenda.ofReport d r).result := by
  rw [forecast, h.agenda]
  rfl

theorem forecast_of_apply_ok {d : Document} {r : Report} {s : σ} {result : ApplyResult}
    (h : (apply d r s).answer = .ok result) : forecast d r = .ok result := by
  cases hagenda : Agenda.of? d r with
  | error e =>
      rw [apply, hagenda] at h
      cases h
  | ok agenda =>
      rw [forecast, hagenda, ((apply_eq_ok_iff hagenda).1 h).2]
      rfl

end Agreement

end GuardedPatch
