import GuardedPatch.Proofs.Run.Effects
import GuardedPatch.Run.Command

set_option autoImplicit false

/-! # Runs on two stores

A run knows a store by its answers alone. So if two stores are related in a way that every call keeps and that makes
its answers the same (`CallsAlike`), whole runs on them give the same answers and the same events and leave related
stores (`Traced.Alike`). What is asked of the calls goes with what a run makes of them: the order of a listing does
not matter as long as every change lands on the same record (`LandAlike`), and only the writes that a run can make are
to be answered alike, those of its undos included (`Step.WritesAlike`).

The two runs need not have the same steps. It is enough that these correspond one by one, add the same to the result
and are answered alike (`Step.Twins`); a step for a record may put in another record on either side. -/

namespace GuardedPatch

/-! ## Calls -/

/-- From related stores, two calls give the same answer and lead to related stores. -/
def CallsAlike {σ τ β : Type} (R : σ → τ → Prop) (f : σ → β × σ) (g : τ → β × τ) : Prop :=
  ∀ s t, R s t → (f s).1 = (g t).1 ∧ R (f s).2 (g t).2

/-- What two such calls come to: one answer, and a store each. -/
theorem CallsAlike.out {σ τ β : Type} {R : σ → τ → Prop} {f : σ → β × σ} {g : τ → β × τ} (h : CallsAlike R f g) {s : σ}
    {t : τ} (hst : R s t) : ∃ a s' t', f s = (a, s') ∧ g t = (a, t') ∧ R s' t' :=
  ⟨(f s).1, (f s).2, (g t).2, rfl, Prod.ext (h s t hst).1.symm rfl, (h s t hst).2⟩

/-- Every change lands alike among the records of two listings, or both of them fail in the same way. -/
def LandAlike : Except StoreError (List FeatureRecord) → Except StoreError (List FeatureRecord) → Prop
  | .ok rs, .ok rs' => ∀ c : FeatureChange, c.target? rs = c.target? rs'
  | .error e, .error e' => e = e'
  | _, _ => False

theorem LandAlike.refl (a : Except StoreError (List FeatureRecord)) : LandAlike a a := by
  cases a with
  | ok rs => exact fun _ => rfl
  | error e => exact rfl

theorem checkTargets_congr {rs rs' : List FeatureRecord} (h : ∀ c : FeatureChange, c.target? rs = c.target? rs')
    (cs : List FeatureChange) : checkTargets rs cs = checkTargets rs' cs := by
  induction cs with
  | nil => rfl
  | cons c rest ih => rw [checkTargets, checkTargets, h c, ih]

/-- Two answers are both good, and correspond to each other, or they are the same error. -/
inductive AnswersAlike {ε α β : Type} (Q : α → β → Prop) : Except ε α → Except ε β → Prop
  | ok {a : α} {b : β} : Q a b → AnswersAlike Q (.ok a) (.ok b)
  | error (e : ε) : AnswersAlike Q (.error e) (.error e)

namespace AnswersAlike

variable {ε α β α' β' : Type} {Q : α → β → Prop} {Q' : α' → β' → Prop}

theorem of_eq {a b : Except ε α} (h : a = b) : AnswersAlike (· = ·) a b := by
  subst h
  cases a with
  | ok a => exact .ok rfl
  | error e => exact .error e

theorem eq {a b : Except ε α} (h : AnswersAlike (· = ·) a b) : a = b := by
  cases h with
  | ok h => rw [h]
  | error e => rfl

theorem map {a : Except ε α} {b : Except ε β} (h : AnswersAlike Q a b) {f : α → α'} {g : β → β'}
    (hfg : ∀ x y, Q x y → Q' (f x) (g y)) : AnswersAlike Q' (a.map f) (b.map g) := by
  cases h with
  | ok h => exact .ok (hfg _ _ h)
  | error e => exact .error e

end AnswersAlike

/-! ## Activities -/

section Traced

variable {σ τ α β α' β' : Type} {R : σ → τ → Prop}

/-- Two activities gave answers that correspond to each other and the same events, and left related stores. -/
structure Traced.AlikeUpTo (Q : α → β → Prop) (R : σ → τ → Prop) (t : Traced σ α) (u : Traced τ β) : Prop where
  answer : AnswersAlike Q t.answer u.answer
  events : t.events = u.events
  stores : R t.store u.store

namespace Traced.AlikeUpTo

variable {Q : α → β → Prop} {Q' : α' → β' → Prop} {t : Traced σ α} {u : Traced τ β}

theorem map (h : Traced.AlikeUpTo Q R t u) {f : α → α'} {g : β → β'} (hfg : ∀ a b, Q a b → Q' (f a) (g b)) :
    Traced.AlikeUpTo Q' R (t.map f) (u.map g) :=
  ⟨h.answer.map hfg, h.events, h.stores⟩

theorem after (h : Traced.AlikeUpTo Q R t u) (events : List Log.Event) :
    Traced.AlikeUpTo Q R (t.after events) (u.after events) :=
  ⟨h.answer, congrArg (events ++ ·) h.events, h.stores⟩

theorem andThen (h : Traced.AlikeUpTo Q R t u) {next : α → σ → Traced σ α'} {next' : β → τ → Traced τ β'}
    (hnext : ∀ a b, Q a b → ∀ s s', R s s' → Traced.AlikeUpTo Q' R (next a s) (next' b s')) :
    Traced.AlikeUpTo Q' R (t.andThen next) (u.andThen next') := by
  obtain ⟨hanswer, hevents, hstores⟩ := h
  rw [Traced.andThen, Traced.andThen]
  generalize t.answer = a at hanswer
  generalize u.answer = b at hanswer
  cases hanswer with
  | ok hab =>
      obtain ⟨hanswer', hevents', hstores'⟩ := hnext _ _ hab t.store u.store hstores
      exact ⟨hanswer', congrArg₂ (· ++ ·) hevents hevents', hstores'⟩
  | error e => exact ⟨.error e, hevents, hstores⟩

end Traced.AlikeUpTo

/-- Two activities gave the same answer and the same events, and left related stores. -/
structure Traced.Alike (R : σ → τ → Prop) (t : Traced σ α) (u : Traced τ α) : Prop where
  answer : t.answer = u.answer
  events : t.events = u.events
  stores : R t.store u.store

theorem Traced.alike_iff {t : Traced σ α} {u : Traced τ α} :
    Traced.Alike R t u ↔ Traced.AlikeUpTo (· = ·) R t u :=
  ⟨fun h => ⟨.of_eq h.answer, h.events, h.stores⟩, fun h => ⟨h.answer.eq, h.events, h.stores⟩⟩

namespace Traced.Alike

variable {t : Traced σ α} {u : Traced τ α}

theorem map (h : Traced.Alike R t u) (f : α → β) : Traced.Alike R (t.map f) (u.map f) :=
  alike_iff.2 ((alike_iff.1 h).map fun _ _ => congrArg f)

theorem after (h : Traced.Alike R t u) (events : List Log.Event) : Traced.Alike R (t.after events) (u.after events) :=
  alike_iff.2 ((alike_iff.1 h).after events)

theorem andThen (h : Traced.Alike R t u) {next : α → σ → Traced σ β} {next' : α → τ → Traced τ β}
    (hnext : ∀ a s s', R s s' → Traced.Alike R (next a s) (next' a s')) :
    Traced.Alike R (t.andThen next) (u.andThen next') := by
  refine alike_iff.2 ((alike_iff.1 h).andThen ?_)
  rintro a _ rfl s s' hst
  exact alike_iff.1 (hnext a s s' hst)

theorem bracketed (h : Traced.Alike R t u) (op : Log.Operation) (tally : α → Log.Tally) :
    Traced.Alike R (bracketed op tally t) (bracketed op tally u) := by
  refine ⟨h.answer, ?_, h.stores⟩
  simp only [GuardedPatch.bracketed, h.answer, h.events]

end Traced.Alike

theorem loadTraced_alike (text : String) {s : σ} {t : τ} (h : R s t) :
    Traced.Alike R (loadTraced text s) (loadTraced text t) := by
  unfold loadTraced
  generalize load text = loaded
  cases loaded with
  | ok d => exact ⟨rfl, rfl, h⟩
  | error e => exact ⟨rfl, rfl, h⟩

end Traced

variable {σ τ : Type} [ConfigStore σ] [ConfigStore τ] {R : σ → τ → Prop}

/-! ## Reading -/

/-- Parameters are reported on alike if they are read alike. -/
theorem readParams_alike (hget : ∀ key, CallsAlike R (ConfigStore.get (σ := σ) key) (ConfigStore.get (σ := τ) key))
    (cs : List ParamChange) {s : σ} {t : τ} (hst : R s t) :
    Traced.Alike R (readParams cs s) (readParams cs t) := by
  induction cs generalizing s t with
  | nil => exact ⟨rfl, rfl, hst⟩
  | cons c rest ih =>
      obtain ⟨a, s', t', hs, ht, hstores⟩ := (hget c.key).out hst
      rw [readParams, readParams, hs, ht]
      cases a with
      | error e => exact ⟨rfl, rfl, hstores⟩
      | ok actual => exact ((ih hstores).map _).after _

/-- Related stores are read alike. -/
structure ReadAlike (R : σ → τ → Prop) : Prop where
  get : ∀ key, CallsAlike R (ConfigStore.get key) (ConfigStore.get key)
  list : ∀ s t, R s t → LandAlike (ConfigStore.listFeatures s).1 (ConfigStore.listFeatures t).1
    ∧ R (ConfigStore.listFeatures s).2 (ConfigStore.listFeatures t).2

namespace ReadAlike

theorem readFeatures (h : ReadAlike R) (cs : List FeatureChange) {s : σ} {t : τ} (hst : R s t) :
    Traced.Alike R (GuardedPatch.readFeatures cs s) (GuardedPatch.readFeatures cs t) := by
  obtain ⟨hland, hstores⟩ := h.list s t hst
  rw [GuardedPatch.readFeatures, GuardedPatch.readFeatures]
  split_ifs
  · exact ⟨rfl, rfl, hst⟩
  · generalize ConfigStore.listFeatures s = x at hland hstores ⊢
    generalize ConfigStore.listFeatures t = y at hland hstores ⊢
    obtain ⟨a, s'⟩ := x
    obtain ⟨b, t'⟩ := y
    cases a with
    | error e =>
        cases b with
        | error e' =>
            obtain rfl : e = e' := hland
            exact ⟨rfl, rfl, hstores⟩
        | ok rs' => exact hland.elim
    | ok rs =>
        cases b with
        | error e' => exact hland.elim
        | ok rs' => exact ⟨checkTargets_congr hland cs, rfl, hstores⟩

/-- **Validating gives the same report on both stores**, or the same error. -/
theorem validate (h : ReadAlike R) (d : Document) {s : σ} {t : τ} (hst : R s t) :
    Traced.Alike R (GuardedPatch.validate d s) (GuardedPatch.validate d t) :=
  (readParams_alike h.get d.params hst).andThen fun _ _ _ hst' => (h.readFeatures d.features hst').map _

theorem validatedRun (h : ReadAlike R) (ctx : Context) (text : String) {s : σ} {t : τ} (hst : R s t) :
    Traced.Alike R (GuardedPatch.validatedRun ctx text s) (GuardedPatch.validatedRun ctx text t) := by
  refine (loadTraced_alike text hst).andThen fun d s t hst => ?_
  obtain ⟨hanswer, hevents, hstores⟩ := h.validate d hst
  simp only [PatchRun.start, PatchRun.validate, ← hanswer]
  cases hreport : (GuardedPatch.validate d s).answer with
  | ok report => exact Traced.Alike.after (Traced.Alike.map ⟨hanswer, hevents, hstores⟩ _) _
  | error e => exact Traced.Alike.after (Traced.Alike.map ⟨hanswer, hevents, hstores⟩ _) _

/-- **Planning gives the same outcome on both stores**, or the same error. -/
theorem planPatch (h : ReadAlike R) (ctx : Context) (text : String) {s : σ} {t : τ} (hst : R s t) :
    Traced.Alike R (GuardedPatch.planPatch ctx text s) (GuardedPatch.planPatch ctx text t) :=
  ((h.validatedRun ctx text hst).andThen fun _ _ _ hst' => ⟨rfl, rfl, hst'⟩).bracketed _ _

end ReadAlike

/-! ## Applying -/

/-- Two undos are about the same thing, and related stores answer them alike. -/
structure Undo.Twins (R : σ → τ → Prop) (u u' : Undo) : Prop where
  target : u.target = u'.target
  perform : CallsAlike R u.perform u'.perform

/-- Two steps add the same to a result, and related stores answer them and their undos alike. -/
inductive Step.Twins (R : σ → τ → Prop) : Step → Step → Prop
  | setParam (c : ParamChange) :
    CallsAlike R (ConfigStore.set c.key c.update) (ConfigStore.set c.key c.update) →
      (Undo.param c.key c.expected).Twins R (.param c.key c.expected) →
      Twins R (.setParam c) (.setParam c)
  | putFeature {record record' : FeatureRecord} {previous previous' : Option FeatureRecord} (outcome : FeatureOutcome) :
    record.id = record'.id →
      (outcome.action ≠ .unchanged → CallsAlike R (ConfigStore.upsertFeature record) (ConfigStore.upsertFeature record')) →
      (outcome.action ≠ .unchanged → (Undo.feature record.id previous).Twins R (.feature record'.id previous')) →
      Twins R (.putFeature record previous outcome) (.putFeature record' previous' outcome)

namespace Step.Twins

variable {step step' : Step}

theorem addTo (h : step.Twins R step') (result : ApplyResult) : step.addTo result = step'.addTo result := by
  cases h <;> rfl

theorem undo? (h : step.Twins R step') : List.Forall₂ (Undo.Twins R) step.undo?.toList step'.undo?.toList := by
  cases h with
  | setParam c _ hundo => exact .cons hundo .nil
  | putFeature outcome _ _ hundo =>
      rw [Step.undo?, Step.undo?]
      split_ifs with hsame
      · exact .nil
      · exact .cons (hundo hsame) .nil

/-- Steps that are twins go alike. -/
theorem perform (h : step.Twins R step')
    (hget : ∀ key, CallsAlike R (ConfigStore.get (σ := σ) key) (ConfigStore.get (σ := τ) key)) :
    CallsAlike R step.perform step'.perform := by
  intro s t hst
  cases h with
  | setParam c hset _ =>
      obtain ⟨a, s', t', hs, ht, hstores⟩ := (hget c.key).out hst
      rw [Step.perform, Step.perform, hs, ht]
      cases a with
      | error e => exact ⟨rfl, hstores⟩
      | ok actual =>
          simp only
          split_ifs
          · exact ⟨rfl, hstores⟩
          · obtain ⟨a, s'', t'', hs', ht', hafter⟩ := hset.out hstores
            rw [hs', ht']
            cases a <;> exact ⟨rfl, hafter⟩
  | @putFeature record record' _ _ outcome hid hput _ =>
      rw [Step.perform, Step.perform, ← hid]
      split_ifs with hsame
      · exact ⟨rfl, hst⟩
      · obtain ⟨a, s', t', hs, ht, hafter⟩ := (hput hsame).out hst
        rw [hs, ht]
        cases a <;> exact ⟨rfl, hafter⟩

end Step.Twins

/-- What a replay says about the undos that have failed. -/
def failureEvents (failures : List (Undo × StoreError)) : List Log.Event :=
  failures.map fun (u, e) => .undoFailed u.target e

/-- Undos that are twins fail alike. -/
theorem replay_twins {journal journal' : List Undo} (h : List.Forall₂ (Undo.Twins R) journal journal') {s : σ} {t : τ}
    (hst : R s t) :
    failureEvents (replay journal s).1 = failureEvents (replay journal' t).1
      ∧ R (replay journal s).2 (replay journal' t).2 := by
  induction h generalizing s t with
  | nil => exact ⟨rfl, hst⟩
  | @cons u u' rest rest' hu _ ih =>
      obtain ⟨hanswer, hstores⟩ := hu.perform s t hst
      rw [u.perform_eq, u'.perform_eq] at hanswer hstores
      obtain ⟨hfailures, hafter⟩ := ih hstores
      cases hperform : (u.edit.perform s).1 with
      | ok _ =>
          rw [replay_cons_ok hperform, replay_cons_ok (hanswer.symm.trans hperform)]
          exact ⟨hfailures, hafter⟩
      | error err =>
          rw [replay_cons_error hperform, replay_cons_error (hanswer.symm.trans hperform)]
          refine ⟨?_, hafter⟩
          show Log.Event.undoFailed u.target err :: _ = Log.Event.undoFailed u'.target err :: _
          rw [hu.target]
          exact congrArg _ hfailures

/-- **Steps that are twins give the same result**, or are stopped in the same way. -/
theorem performAll_twins (hget : ∀ key, CallsAlike R (ConfigStore.get (σ := σ) key) (ConfigStore.get (σ := τ) key))
    {steps steps' : List Step} (hsteps : List.Forall₂ (Step.Twins R) steps steps') {journal journal' : List Undo}
    (hjournal : List.Forall₂ (Undo.Twins R) journal journal') (result : ApplyResult) {s : σ} {t : τ} (hst : R s t) :
    Traced.Alike R (performAll result journal steps s) (performAll result journal' steps' t) := by
  -- what was done so far only adds undos that are twins to the journals
  induction hsteps generalizing result journal journal' s t with
  | nil => exact ⟨rfl, rfl, hst⟩
  | @cons step step' rest rest' hstep _ ih =>
      obtain ⟨a, s', t', hs, ht, hstores⟩ := (hstep.perform hget).out hst
      rw [performAll, performAll, hs, ht]
      cases a with
      | error refusal =>
          obtain ⟨hfailures, hafter⟩ := replay_twins hjournal hstores
          have hempty : (replay journal s').1.isEmpty = (replay journal' t').1.isEmpty := by
            simpa [failureEvents] using congrArg List.isEmpty hfailures
          refine ⟨?_, congrArg (_ :: ·) hfailures, hafter⟩
          simp only [abort, hempty]
      | ok _ =>
          simp only [← hstep.addTo]
          exact ih (List.rel_append hstep.undo? hjournal) (step.addTo result) hstores

/-- Related stores answer a step alike, and its undo as well. -/
structure Step.WritesAlike (R : σ → τ → Prop) (step : Step) : Prop where
  edit : ∀ e, step.edit? = some e → CallsAlike R e.perform e.perform
  undo : ∀ u, step.undo? = some u → CallsAlike R u.edit.perform u.edit.perform

theorem Step.WritesAlike.twins {step : Step} (h : step.WritesAlike R) : step.Twins R step := by
  have hundo : ∀ u, step.undo? = some u → u.Twins R u := by
    intro u hu
    refine ⟨rfl, fun s t hst => ?_⟩
    rw [u.perform_eq, u.perform_eq]
    exact h.undo u hu s t hst
  cases step with
  | setParam c => exact .setParam c (h.edit _ rfl) (hundo _ rfl)
  | putFeature record previous outcome =>
      exact .putFeature outcome rfl (fun hdiff => h.edit (.putRecord record) (by rw [Step.edit?, if_neg hdiff]))
        fun hdiff => hundo _ (by rw [Step.undo?, if_neg hdiff])

/-- **Applying gives the same result on both stores**, or the same error. -/
theorem apply_alike (hread : ReadAlike R) {d : Document} {r : Report}
    (hsteps : ∀ step ∈ (Agenda.ofReport d r).steps, step.WritesAlike R) {s : σ} {t : τ} (hst : R s t) :
    Traced.Alike R (apply d r s) (apply d r t) := by
  rw [apply, apply]
  cases hagenda : Agenda.of? d r with
  | error e => exact ⟨rfl, rfl, hst⟩
  | ok agenda =>
      obtain rfl := (Agenda.of?_eq_ok_iff.1 hagenda).2.2
      have htwins : List.Forall₂ (Step.Twins R) (Agenda.ofReport d r).steps (Agenda.ofReport d r).steps :=
        List.forall₂_same.2 fun step hstep => (hsteps step hstep).twins
      exact performAll_twins hread.get htwins .nil _ hst

/-- Units of work go alike if what is done in them does. -/
theorem applyBracketed_alike (hbegin : CallsAlike R (ConfigStore.beginRun (σ := σ)) (ConfigStore.beginRun (σ := τ)))
    (hend : ∀ commit, CallsAlike R (ConfigStore.endRun (σ := σ) commit) (ConfigStore.endRun (σ := τ) commit))
    {d d' : Document} {r r' : Report} (happly : ∀ s t, R s t → Traced.Alike R (apply d r s) (apply d' r' t)) {s : σ}
    {t : τ} (hst : R s t) :
    Traced.Alike R (PatchRun.applyBracketed d r s) (PatchRun.applyBracketed d' r' t) := by
  obtain ⟨a, s', t', hs, ht, hopened⟩ := hbegin.out hst
  rw [PatchRun.applyBracketed, PatchRun.applyBracketed, hs, ht]
  cases a with
  | error e => exact ⟨rfl, rfl, hopened⟩
  | ok _ =>
      obtain ⟨hanswer, hevents, hstores⟩ := happly s' t' hopened
      simp only [← hanswer, ← hevents]
      cases (apply d r s').answer with
      | ok result =>
          obtain ⟨a, s'', t'', hs', ht', hclosed⟩ := (hend true).out hstores
          simp only [hs', ht']
          cases a <;> exact ⟨rfl, rfl, hclosed⟩
      | error stop =>
          obtain ⟨a, s'', t'', hs', ht', hclosed⟩ := (hend false).out hstores
          simp only [hs', ht']
          cases a <;> exact ⟨rfl, rfl, hclosed⟩

/-! ## Whole commands -/

/-- Related stores answer every call of a run alike. -/
structure RunAlike (R : σ → τ → Prop) : Prop extends ReadAlike R where
  edit : ∀ e : Edit, CallsAlike R e.perform e.perform
  beginRun : CallsAlike R (ConfigStore.beginRun) (ConfigStore.beginRun)
  endRun : ∀ commit, CallsAlike R (ConfigStore.endRun commit) (ConfigStore.endRun commit)

namespace RunAlike

theorem apply (h : RunAlike R) (d : Document) (r : Report) {s : σ} {t : τ} (hst : R s t) :
    Traced.Alike R (GuardedPatch.apply d r s) (GuardedPatch.apply d r t) :=
  apply_alike h.toReadAlike (fun _ _ => ⟨fun e _ => h.edit e, fun u _ => h.edit u.edit⟩) hst

theorem applyBracketed (h : RunAlike R) (d : Document) (r : Report) {s : σ} {t : τ} (hst : R s t) :
    Traced.Alike R (PatchRun.applyBracketed d r s) (PatchRun.applyBracketed d r t) :=
  applyBracketed_alike h.beginRun h.endRun (fun _ _ => h.apply d r) hst

/-- **Applying a text gives the same outcome on both stores**, or the same error. -/
theorem applyPatch (h : RunAlike R) (ctx : Context) (text : String) {s : σ} {t : τ} (hst : R s t) :
    Traced.Alike R (GuardedPatch.applyPatch ctx text s) (GuardedPatch.applyPatch ctx text t) := by
  refine ((h.validatedRun ctx text hst).andThen fun (run, report) s t hst => ?_).bracketed _ _
  simp only [PatchRun.apply]
  cases run.phase with
  | validated report' =>
      have halike := h.applyBracketed run.document report' hst
      simp only [← halike.answer]
      cases (PatchRun.applyBracketed run.document report' s).answer with
      | ok result => exact ((halike.map _).map _).after _
      | error e => exact (halike.map _).after _
  | loaded => exact ⟨rfl, rfl, hst⟩
  | applied _ => exact ⟨rfl, rfl, hst⟩
  | aborted _ => exact ⟨rfl, rfl, hst⟩

end RunAlike

end GuardedPatch
