import GuardedPatch.Proofs.Run.Intent
import GuardedPatch.Proofs.Run.Progress
import GuardedPatch.Run.Validate
import GuardedPatch.Store.Faulty

set_option autoImplicit false

/-! # What a report says

A report has an entry for each change of its document, whatever the store answered, and a record that was found for
a change has the id of that change (`validate_aligned`, `validate_faithful`). There is none if a change misses its
record, and it is the first such change that is told (`checkTargets_eq_error_iff`). Where reading a store does not
change it, the report is made from the parameters and records that can be read there, and the agenda of a document for
it is what the document intends for them (`agenda_of_validated`). -/

namespace GuardedPatch

/-! ## Answers that are changed -/

theorem map_eq_error_iff {ε α β : Type} {x : Except ε α} {f : α → β} {e : ε} : x.map f = .error e ↔ x = .error e := by
  cases x <;> simp [Except.map]

theorem map_eq_ok_iff {ε α β : Type} {x : Except ε α} {f : α → β} {b : β} :
    x.map f = .ok b ↔ ∃ a, x = .ok a ∧ f a = b := by
  cases x <;> simp [Except.map]

/-! ## Targets -/

/-- Where a change lands among these records; for a change that cannot land, anything. -/
def FeatureChange.landing (records : List FeatureRecord) (c : FeatureChange) : Target :=
  (c.target? records).getD (.create none)

/-- Checking succeeds exactly when every change lands somewhere, and then tells where. -/
theorem checkTargets_eq_ok_iff {records : List FeatureRecord} {cs : List FeatureChange} {checks : List FeatureCheck} :
    checkTargets records cs = .ok checks ↔
      (∀ c ∈ cs, c.target? records = some (c.landing records))
        ∧ checks = cs.map fun c => ⟨c.id, c.landing records⟩ := by
  induction cs generalizing checks with
  | nil => simp [checkTargets, eq_comm]
  | cons c rest ih =>
      rw [checkTargets]
      cases htarget : c.target? records with
      | none => simp [htarget]
      | some target =>
          have hlanding : c.landing records = target := by rw [FeatureChange.landing, htarget, Option.getD_some]
          simp only [List.forall_mem_cons, List.map_cons, htarget, hlanding, true_and]
          cases hrest : checkTargets records rest with
          | error e =>
              -- if all changes landed, checking them would have told where
              have hno : ¬ ∀ x ∈ rest, x.target? records = some (x.landing records) := by
                intro hall
                have := ih.2 ⟨hall, rfl⟩
                rw [hrest] at this
                cases this
              simp [Except.map, hno]
          | ok checks' =>
              obtain ⟨hall, hchecks⟩ := ih.1 hrest
              simp only [Except.map, Except.ok.injEq]
              constructor
              · intro h
                exact ⟨hall, by rw [← h, hchecks]⟩
              · rintro ⟨-, h⟩
                rw [h, hchecks]

/-- A change that is to find a record finds none among these: whichever has its id does not have the type that it
    asks for. -/
def FeatureChange.Misses (records : List FeatureRecord) (c : FeatureChange) : Prop :=
  c.mode = .find ∧ ∀ r ∈ records, r.id = c.id → ∃ type, c.type? = some type ∧ r.type ≠ type

theorem FeatureChange.selects_iff {c : FeatureChange} {r : FeatureRecord} :
    c.selects r = true ↔ r.id = c.id ∧ ∀ type, c.type? = some type → r.type = type := by
  rw [selects, Bool.and_eq_true, beq_iff_eq, Option.all_eq_true]
  simp only [beq_iff_eq]

theorem FeatureChange.target?_eq_none_iff {c : FeatureChange} {records : List FeatureRecord} :
    c.target? records = none ↔ c.Misses records := by
  rw [target?, Misses]
  cases hmode : c.mode with
  | create => simp
  | find =>
      simp only [Option.map_eq_none_iff, List.find?_eq_none, selects_iff, true_and, not_and, not_forall]
      simp only [exists_prop]

/-- **Checking fails at the first change without a record**, in its name. -/
theorem checkTargets_eq_error_iff {records : List FeatureRecord} {cs : List FeatureChange} {e : PatchError} :
    checkTargets records cs = .error e ↔
      ∃ before c after, cs = before ++ c :: after ∧ (∀ x ∈ before, ¬ x.Misses records) ∧ c.Misses records
        ∧ e = .featureNotFound c.id c.type? := by
  induction cs with
  | nil => simp [checkTargets]
  | cons c rest ih =>
      rw [checkTargets]
      cases htarget : c.target? records with
      | none =>
          have hmisses := FeatureChange.target?_eq_none_iff.1 htarget
          constructor
          · intro h
            cases h
            exact ⟨[], c, rest, rfl, by simp, hmisses, rfl⟩
          · rintro ⟨before, c', after, hsplit, hbefore, -, rfl⟩
            cases before with
            | nil =>
                obtain ⟨rfl, -⟩ := List.cons.inj hsplit
                rfl
            | cons x before =>
                obtain ⟨rfl, -⟩ := List.cons.inj hsplit
                exact absurd hmisses (hbefore _ List.mem_cons_self)
      | some target =>
          have hlands : ¬ c.Misses records := by
            rw [← FeatureChange.target?_eq_none_iff, htarget]
            exact Option.some_ne_none target
          simp only [map_eq_error_iff, ih]
          constructor
          · rintro ⟨before, c', after, rfl, hbefore, hc⟩
            exact ⟨c :: before, c', after, rfl, List.forall_mem_cons.2 ⟨hlands, hbefore⟩, hc⟩
          · rintro ⟨before, c', after, hsplit, hbefore, hmisses, he⟩
            cases before with
            | nil =>
                obtain ⟨rfl, -⟩ := List.cons.inj hsplit
                exact absurd hmisses hlands
            | cons x before =>
                obtain ⟨rfl, rfl⟩ := List.cons.inj hsplit
                exact ⟨before, c', after, rfl, (List.forall_mem_cons.1 hbefore).2, hmisses, he⟩

section AnyStore

variable {σ : Type} [ConfigStore σ]

theorem keys_of_readParams {cs : List ParamChange} {s : σ} {checks : List ParamCheck}
    (h : (readParams cs s).answer = .ok checks) : cs.map (·.key) = checks.map (·.key) := by
  induction cs generalizing s checks with
  | nil =>
      cases h
      rfl
  | cons c rest ih =>
      rw [readParams] at h
      split at h
      · cases h
      · next s' _ =>
          obtain ⟨checks', hrest, rfl⟩ := map_eq_ok_iff.1 h
          rw [List.map_cons, List.map_cons, ih hrest]

theorem checkTargets_of_readFeatures {cs : List FeatureChange} {s : σ} {checks : List FeatureCheck}
    (h : (readFeatures cs s).answer = .ok checks) :
    (cs = [] ∧ checks = []) ∨
      ∃ records, (ConfigStore.listFeatures s).1 = .ok records ∧ checkTargets records cs = .ok checks := by
  rw [readFeatures] at h
  split_ifs at h with hempty
  · cases h
    exact .inl ⟨List.isEmpty_iff.1 hempty, rfl⟩
  · split at h
    · cases h
    · next records s' hlist => exact .inr ⟨records, by rw [hlist], h⟩

/-- A report is made by reading the parameters first, and the features after that. -/
theorem reads_of_validate {d : Document} {s : σ} {r : Report} (h : (validate d s).answer = .ok r) :
    (readParams d.params s).answer = .ok r.params
      ∧ (readFeatures d.features (readParams d.params s).store).answer = .ok r.features := by
  rw [validate, Traced.andThen] at h
  split at h
  · next checks hchecks =>
      obtain ⟨features, hfeatures, rfl⟩ := map_eq_ok_iff.1 h
      exact ⟨hchecks, hfeatures⟩
  · cases h

/-- **A report has an entry for each change**, so that it makes an agenda. -/
theorem validate_aligned {d : Document} {s : σ} {r : Report} (h : (validate d s).answer = .ok r) :
    Agenda.of? d r = .ok (.ofReport d r) := by
  obtain ⟨hparams, hfeatures⟩ := reads_of_validate h
  rw [Agenda.of?_eq_ok_iff]
  refine ⟨keys_of_readParams hparams, ?_, rfl⟩
  rcases checkTargets_of_readFeatures hfeatures with ⟨hnil, hnil'⟩ | ⟨records, -, hchecks⟩
  · rw [hnil, hnil', List.map_nil, List.map_nil]
  · rw [(checkTargets_eq_ok_iff.1 hchecks).2, List.map_map]
    rfl

theorem readParams_invariant {I : σ → Prop} (hget : ∀ key s, I s → I (ConfigStore.get key s).2)
    (cs : List ParamChange) {s : σ} (h : I s) : I (readParams cs s).store := by
  induction cs generalizing s with
  | nil => exact h
  | cons c rest ih =>
      have hafter := hget c.key s h
      rw [readParams]
      split
      · next heq =>
          rw [heq] at hafter
          exact hafter
      · next heq =>
          rw [heq] at hafter
          exact ih hafter

/-- **What reading keeps, validating keeps.** -/
theorem validate_invariant {I : σ → Prop} (hget : ∀ key s, I s → I (ConfigStore.get key s).2)
    (hlist : ∀ s, I s → I (ConfigStore.listFeatures s).2) (d : Document) {s : σ} (h : I s) :
    I (validate d s).store := by
  have hfeatures : ∀ s, I s → I (readFeatures d.features s).store := by
    intro s hs
    have hafter := hlist s hs
    rw [readFeatures]
    split_ifs
    · exact hs
    · split
      · next heq =>
          rw [heq] at hafter
          exact hafter
      · next heq =>
          rw [heq] at hafter
          exact hafter
  rw [validate, Traced.andThen]
  split
  · exact hfeatures _ (readParams_invariant hget d.params h)
  · exact readParams_invariant hget d.params h

end AnyStore

/-! ## Reports of stores that are not changed by reading -/

section QuietStore

variable {σ : Type} [ConfigStore σ]

/-- Reading a store leaves it as it is, and whatever can be read is of these parameters and records. -/
structure Reads (s : σ) (params : TextMap) (records : List FeatureRecord) : Prop where
  get_store : ∀ key, (ConfigStore.get key s).2 = s
  get_answer : ∀ key value, (ConfigStore.get key s).1 = .ok value → value = params.get? key
  list_store : (ConfigStore.listFeatures s).2 = s
  list_answer : ∀ rs, (ConfigStore.listFeatures s).1 = .ok rs → rs = records

namespace Reads

variable {s : σ} {params : TextMap} {records : List FeatureRecord} {d : Document}

theorem get_invariant (hreads : Reads s params records) (key : String) (s' : σ) (h : s' = s) :
    (ConfigStore.get key s').2 = s := by
  rw [h]
  exact hreads.get_store key

theorem validate_store (hreads : Reads s params records) (d : Document) : (validate d s).store = s := by
  have hlist : ∀ s', s' = s → (ConfigStore.listFeatures s').2 = s := by
    intro s' hs
    rw [hs]
    exact hreads.list_store
  exact validate_invariant hreads.get_invariant hlist d rfl

theorem readParams (hreads : Reads s params records) {cs : List ParamChange} {checks : List ParamCheck}
    (h : (GuardedPatch.readParams cs s).answer = .ok checks) :
    checks = cs.map fun c => ⟨c.key, c.verdict (params.get? c.key)⟩ := by
  induction cs generalizing checks with
  | nil =>
      cases h
      rfl
  | cons c rest ih =>
      have hget := hreads.get_store c.key
      have hvalue := hreads.get_answer c.key
      rw [GuardedPatch.readParams] at h
      split at h
      · cases h
      · next actual s' heq =>
          rw [heq] at hget hvalue
          obtain rfl : s' = s := hget
          obtain ⟨checks', hrest, rfl⟩ := map_eq_ok_iff.1 h
          rw [List.map_cons, ih hrest, hvalue actual rfl]

/-- A report is made from what can be read. -/
theorem report (hreads : Reads s params records) {r : Report} (h : (validate d s).answer = .ok r) :
    r.params = d.params.map (fun c => ⟨c.key, c.verdict (params.get? c.key)⟩)
      ∧ checkTargets records d.features = .ok r.features := by
  obtain ⟨hparams, hfeatures⟩ := reads_of_validate h
  refine ⟨hreads.readParams hparams, ?_⟩
  have hstore : (GuardedPatch.readParams d.params s).store = s :=
    readParams_invariant hreads.get_invariant d.params rfl
  rw [hstore] at hfeatures
  rcases checkTargets_of_readFeatures hfeatures with ⟨hnil, hnil'⟩ | ⟨rs, hlist, hchecks⟩
  · rw [hnil, hnil']
    rfl
  · rwa [← hreads.list_answer rs hlist]

/-- Every change of a validated document lands somewhere among the records. -/
theorem lands (hreads : Reads s params records) {r : Report} (h : (validate d s).answer = .ok r) :
    ∀ c ∈ d.features, c.target? records = some (c.landing records) :=
  (checkTargets_eq_ok_iff.1 (hreads.report h).2).1

/-- There is a record for every change of a validated document that finds one. -/
theorem found (hreads : Reads s params records) (hrecords : DistinctIds records) {r : Report}
    (h : (validate d s).answer = .ok r) :
    ∀ c ∈ d.features, c.mode = .find → (recordAt? records c.id).isSome := by
  intro c hc hmode
  have hlands := hreads.lands h c hc
  cases hlanding : c.landing records with
  | create replaces =>
      rw [hlanding] at hlands
      rw [(FeatureChange.mode_of_target?_create hlands).1] at hmode
      cases hmode
  | update existing =>
      rw [hlanding] at hlands
      rw [(FeatureChange.recordAt?_of_target? hrecords hlands).2, Option.isSome_some]

end Reads

theorem ParamChange.step?_verdict (c : ParamChange) (params : TextMap) :
    c.step? (c.verdict (params.get? c.key)) = if c.dueIn params then some (.setParam c) else none := by
  rw [step?, dueIn]
  cases hvalue : params.get? c.key with
  | none => simp [verdict, Verdict.skip?]
  | some value => by_cases h : value = c.expected <;> simp [verdict, Verdict.skip?, h]

theorem ParamChange.skipped?_verdict (c : ParamChange) (params : TextMap) :
    c.skipped? (c.verdict (params.get? c.key)) =
      match params.get? c.key with
      | some actual =>
        if actual = c.expected then none else some ⟨c.key, .expectationMismatch, c.expected, some actual⟩
      | none => some ⟨c.key, .notPresent, c.expected, none⟩ := by
  rw [skipped?]
  cases hvalue : params.get? c.key with
  | none => simp [verdict, Verdict.skip?]
  | some value => by_cases h : value = c.expected <;> simp [verdict, Verdict.skip?, h]

/-- **The agenda of a validated document is what it intends** for the parameters and records that were read. -/
theorem agenda_of_validated {s : σ} {params : TextMap} {records : List FeatureRecord} {d : Document} {r : Report}
    (hreads : Reads s params records) (hrecords : DistinctIds records) (h : (validate d s).answer = .ok r) :
    Agenda.of? d r = .ok ⟨d.stepsIn params records, d.skippedIn params⟩ := by
  obtain ⟨hparams, hchecks⟩ := hreads.report h
  obtain ⟨hlands, hfeatures⟩ := checkTargets_eq_ok_iff.1 hchecks
  have hzipParams : d.params.zip r.params
      = d.params.map fun c => (c, ⟨c.key, c.verdict (params.get? c.key)⟩) := by
    rw [hparams, List.map_prod_left_eq_zip]
  have hzipFeatures : d.features.zip r.features = d.features.map fun c => (c, ⟨c.id, c.landing records⟩) := by
    rw [hfeatures, List.map_prod_left_eq_zip]
  have hputs : (d.features.map fun c => c.step (c.landing records)) = d.features.map (·.stepIn records) :=
    List.map_congr_left fun c hc => FeatureChange.step_eq_stepIn hrecords (hlands c hc)
  have hsets : (d.params.filter (·.dueIn params)).map Step.setParam
      = d.params.filterMap fun c => if c.dueIn params then some (.setParam c) else none := by
    rw [← List.filterMap_eq_map', List.filterMap_filter]
  have hskipped : (d.params.filterMap fun c => c.skipped? (c.verdict (params.get? c.key))) = d.skippedIn params := by
    rw [Document.skippedIn]
    congr 1
    funext c
    exact c.skipped?_verdict params
  rw [validate_aligned h, Agenda.ofReport, hzipParams, hzipFeatures]
  simp only [List.filterMap_map, List.map_map, Function.comp_def, ParamChange.step?_verdict, hputs, hsets, hskipped,
    Document.stepsIn]

end QuietStore

/-- A store in memory is not changed by reading. -/
theorem MemoryStore.reads (s : MemoryStore) : Reads s s.params s.features where
  get_store _ := rfl
  get_answer _ _ h := (Except.ok.inj h).symm
  list_store := rfl
  list_answer _ h := (Except.ok.inj h).symm

/-- A store behind faults reads as the store behind them, or not at all. -/
theorem Faulty.reads {σ : Type} [ConfigStore σ] {s : Faulty σ} {params : TextMap} {records : List FeatureRecord}
    (h : Reads s.inner params records) : Reads s params records where
  get_store key := by
    show (if key ∈ s.unreadable then _ else _ : Except StoreError _ × Faulty σ).2 = s
    split_ifs
    · rfl
    · exact congrArg (fun inner => { s with inner }) (h.get_store key)
  get_answer key value hvalue := by
    replace hvalue : (if key ∈ s.unreadable then _ else _ : Except StoreError _ × Faulty σ).1 = .ok value := hvalue
    split_ifs at hvalue
    exact h.get_answer key value hvalue
  list_store := by
    show (if _ ∈ s.failing then _ else _ : Except StoreError _ × Faulty σ).2 = s
    split_ifs
    · rfl
    · exact congrArg (fun inner => { s with inner }) h.list_store
  list_answer rs hrs := by
    replace hrs : (if _ ∈ s.failing then _ else _ : Except StoreError _ × Faulty σ).1 = .ok rs := hrs
    split_ifs at hrs
    exact h.list_answer rs hrs

end GuardedPatch
