import GuardedPatch.Proofs.Run.Command
import GuardedPatch.Proofs.Run.Effects
import GuardedPatch.Proofs.Run.Validation

set_option autoImplicit false

/-! # Stores whose calls may fail on the way

A store can be reached through another one that passes its calls on and now and then fails instead
(`PassesOrFails`). Which calls fail is up to that one. An activity that goes well there has met no failure, so that it
goes as on the store behind: validating and applying give the same answers and do the same to that store
(`Fallible.validate`, `Fallible.apply`). -/

namespace GuardedPatch

variable {σ τ : Type}

/-- A call goes as the one that is made on the store behind, or it fails and that store stays as it is. -/
def PassesOrFails {α : Type} (view : τ → σ) (call : StoreCall τ α) (behind : StoreCall σ α) : Prop :=
  ∀ t, ((call t).1 = (behind (view t)).1 ∧ view (call t).2 = (behind (view t)).2)
    ∨ ∃ e, (call t).1 = .error e ∧ view (call t).2 = view t

namespace PassesOrFails

variable {α : Type} {view : τ → σ} {call : StoreCall τ α} {behind : StoreCall σ α}

theorem of_ok (h : PassesOrFails view call behind) {t t' : τ} {a : α} (hok : call t = (.ok a, t')) :
    behind (view t) = (.ok a, view t') := by
  rcases h t with ⟨hanswer, hstore⟩ | ⟨e, herror, -⟩
  · rw [hok] at hanswer hstore
    exact Prod.ext hanswer.symm hstore.symm
  · rw [hok] at herror
    cases herror

/-- What the call keeps on the store behind is kept. -/
theorem keeps (h : PassesOrFails view call behind) {I : σ → Prop} (hkeeps : ∀ s, I s → I (behind s).2) (t : τ)
    (ht : I (view t)) : I (view (call t).2) := by
  rcases h t with ⟨-, hstore⟩ | ⟨e, -, hstore⟩
  · rw [hstore]
    exact hkeeps _ ht
  · rw [hstore]
    exact ht

end PassesOrFails

/-! ## Activities -/

/-- An activity that goes well goes as another one on the store behind. -/
def Traced.GoesAs {α : Type} (view : τ → σ) (t : Traced τ α) (u : Traced σ α) : Prop :=
  ∀ a, t.answer = .ok a → u.answer = .ok a ∧ view t.store = u.store

namespace Traced.GoesAs

variable {α β : Type} {view : τ → σ} {t : Traced τ α} {u : Traced σ α}

theorem map (h : t.GoesAs view u) (f : α → β) : (t.map f).GoesAs view (u.map f) := by
  intro b hb
  obtain ⟨a, ha, rfl⟩ := map_eq_ok_iff.1 hb
  obtain ⟨hanswer, hstore⟩ := h a ha
  exact ⟨map_eq_ok_iff.2 ⟨a, hanswer, rfl⟩, hstore⟩

theorem andThen (h : t.GoesAs view u) {next : α → τ → Traced τ β} {next' : α → σ → Traced σ β}
    (hnext : ∀ a t', (next a t').GoesAs view (next' a (view t'))) :
    (t.andThen next).GoesAs view (u.andThen next') := by
  intro b hb
  cases ha : t.answer with
  | error e =>
      rw [Traced.andThen, ha] at hb
      cases hb
  | ok a =>
      obtain ⟨hanswer, hstore⟩ := h a ha
      rw [(andThen_of_ok ha).1] at hb
      rw [(andThen_of_ok hanswer).1, (andThen_of_ok ha).2, (andThen_of_ok hanswer).2, ← hstore]
      exact hnext a t.store b hb

theorem after (h : t.GoesAs view u) (events : List Log.Event) : (t.after events).GoesAs view (u.after events) := h

end Traced.GoesAs

/-! ## Runs -/

variable [ConfigStore σ] [ConfigStore τ]

/-- The calls that a run makes between opening and closing go as on the store behind, or fail. -/
structure Fallible (view : τ → σ) : Prop where
  get : ∀ key, PassesOrFails view (ConfigStore.get key) (ConfigStore.get key)
  listFeatures : PassesOrFails view ConfigStore.listFeatures ConfigStore.listFeatures
  edit : ∀ e : Edit, PassesOrFails view e.perform e.perform

namespace Fallible

/-- A store can be reached through itself. -/
theorem self : Fallible fun s : σ => s where
  get _ _ := .inl ⟨rfl, rfl⟩
  listFeatures _ := .inl ⟨rfl, rfl⟩
  edit _ _ := .inl ⟨rfl, rfl⟩

variable {view : τ → σ}

theorem readParams (h : Fallible view) (cs : List ParamChange) (t : τ) :
    (GuardedPatch.readParams cs t).GoesAs view (GuardedPatch.readParams cs (view t)) := by
  induction cs generalizing t with
  | nil => exact fun checks hchecks => ⟨hchecks, rfl⟩
  | cons c rest ih =>
      cases hget : ConfigStore.get c.key t with
      | mk answer t' =>
          cases answer with
          | error e =>
              intro checks hchecks
              rw [GuardedPatch.readParams, hget] at hchecks
              cases hchecks
          | ok actual =>
              rw [GuardedPatch.readParams, GuardedPatch.readParams, hget, (h.get c.key).of_ok hget]
              exact ((ih t').map _).after _

theorem readFeatures (h : Fallible view) (cs : List FeatureChange) (t : τ) :
    (GuardedPatch.readFeatures cs t).GoesAs view (GuardedPatch.readFeatures cs (view t)) := by
  rw [GuardedPatch.readFeatures, GuardedPatch.readFeatures]
  split_ifs
  · exact fun checks hchecks => ⟨hchecks, rfl⟩
  · cases hlist : ConfigStore.listFeatures t with
    | mk answer t' =>
        cases answer with
        | error e =>
            intro checks hchecks
            cases hchecks
        | ok records =>
            rw [h.listFeatures.of_ok hlist]
            exact fun checks hchecks => ⟨hchecks, rfl⟩

/-- **A document that is validated is validated on the store behind**, with the same report. -/
theorem validate (h : Fallible view) (d : Document) (t : τ) :
    (GuardedPatch.validate d t).GoesAs view (GuardedPatch.validate d (view t)) :=
  (h.readParams d.params t).andThen fun _ t' => (h.readFeatures d.features t').map _

/-- A step that sees what it expects sees it on the store behind. -/
theorem expected (h : Fallible view) {step : Step} {t : τ} (hexpected : step.Expected t) :
    step.Expected (view t) ∧ view (step.seen t) = step.seen (view t) := by
  cases step with
  | setParam c =>
      have hget := (h.get c.key).of_ok (Prod.ext hexpected rfl)
      rw [Step.Expected, Step.seen, Step.seen, hget]
      exact ⟨rfl, rfl⟩
  | putFeature record previous outcome => exact ⟨trivial, rfl⟩

/-- A step that is done is done on the store behind. -/
theorem perform (h : Fallible view) {step : Step} {t t' : τ} (hok : step.perform t = (.ok (), t')) :
    step.perform (view t) = (.ok (), view t') := by
  have hcases := step.perform_cases t
  rw [hok] at hcases
  cases hcases with
  | kept hedit => exact Step.perform_of_kept hedit _
  | written e hedit hexpected hwrite =>
      obtain ⟨hexpected', hseen⟩ := h.expected hexpected
      have hwrite' := (h.edit e).of_ok (Prod.ext hwrite rfl)
      rw [hseen] at hwrite'
      rw [Step.perform_of_written hedit hexpected' (by rw [hwrite']), hwrite']

/-- Steps that are all done are all done on the store behind. -/
theorem progress (h : Fallible view) {steps : List Step} {t : τ}
    (hdone : (GuardedPatch.progress steps t).refusal = none) :
    (GuardedPatch.progress steps (view t)).refusal = none
      ∧ view (GuardedPatch.progress steps t).store = (GuardedPatch.progress steps (view t)).store := by
  induction steps generalizing t with
  | nil => exact ⟨rfl, rfl⟩
  | cons step rest ih =>
      cases hstep : (step.perform t).1 with
      | error refusal =>
          rw [progress_cons_error hstep] at hdone
          cases hdone
      | ok _ =>
          rw [progress_cons_ok hstep] at hdone ⊢
          have hbehind : step.perform (view t) = (.ok (), view (step.perform t).2) := h.perform (Prod.ext hstep rfl)
          have hok : (step.perform (view t)).1 = .ok () := by rw [hbehind]
          rw [progress_cons_ok hok, hbehind]
          exact ih hdone

/-- **A document that is applied is applied to the store behind**, with the same result. -/
theorem apply (h : Fallible view) (d : Document) (r : Report) (t : τ) :
    (GuardedPatch.apply d r t).GoesAs view (GuardedPatch.apply d r (view t)) := by
  intro result hresult
  cases hagenda : Agenda.of? d r with
  | error e =>
      rw [GuardedPatch.apply, hagenda] at hresult
      cases hresult
  | ok agenda =>
      obtain ⟨hdone, rfl⟩ := (apply_eq_ok_iff hagenda).1 hresult
      obtain ⟨hdone', hstore⟩ := h.progress hdone
      refine ⟨(apply_eq_ok_iff hagenda).2 ⟨hdone', rfl⟩, ?_⟩
      rw [apply_store_of_ok hagenda hdone, apply_store_of_ok hagenda hdone', hstore]

/-- What reading keeps on the store behind, validating keeps. -/
theorem validate_keeps (h : Fallible view) {I : σ → Prop} (hget : ∀ key s, I s → I (ConfigStore.get key s).2)
    (hlist : ∀ s, I s → I (ConfigStore.listFeatures s).2) (d : Document) {t : τ} (ht : I (view t)) :
    I (view (GuardedPatch.validate d t).store) :=
  validate_invariant (I := fun t => I (view t)) (fun key => (h.get key).keeps (hget key))
    (h.listFeatures.keeps hlist) d ht

/-- What reading and writing keep on the store behind, applying keeps, whether it goes well or not. -/
theorem apply_keeps (h : Fallible view) {I : σ → Prop} (hget : ∀ key s, I s → I (ConfigStore.get key s).2)
    (hedit : ∀ (e : Edit) s, I s → I (e.perform s).2) (d : Document) (r : Report) {t : τ} (ht : I (view t)) :
    I (view (GuardedPatch.apply d r t).store) :=
  apply_invariant (I := fun t => I (view t)) (fun key => (h.get key).keeps (hget key))
    (fun e => (h.edit e).keeps (hedit e)) d r ht

end Fallible

end GuardedPatch
