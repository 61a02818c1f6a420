import GuardedPatch.Proofs.Run.Command
import GuardedPatch.Proofs.Run.Lockstep
import GuardedPatch.Proofs.Run.Validation
import GuardedPatch.Proofs.Store.Held

set_option autoImplicit false

/-! # Secrets stay out of a store

A record is externalized when its secret fields hold references. A document that was loaded asks for such fields only,
and so the records that a run puts in are externalized if those are that it has found in the store: a created record
has the fields of its change, an updated one has these laid over its own, and an undo puts back what was found. A
store that never makes up a record then has no secrets in it after a run if it had none before, whatever the run comes
to (`CallInvariant.applyPatch`). -/

namespace GuardedPatch

/-! ## Fields -/

/-- Every secret field holds a reference. -/
def TextMap.Externalized (m : TextMap) : Prop :=
  ∀ e ∈ m.entries, isSecretField e.1 = true → (SecretRef.parse? e.2).isSome = true

/-- The secrets of a record are references. -/
def FeatureRecord.Externalized (r : FeatureRecord) : Prop :=
  r.fields.Externalized

theorem Document.forall_safe_of_find?_eq_none {es : List (String × String)}
    (h : (es.find? fun e => !isSafeField e.1 e.2) = none) :
    ∀ e ∈ es, isSecretField e.1 = true → (SecretRef.parse? e.2).isSome = true := by
  intro e he
  rw [← isSafeField_iff]
  simpa using List.find?_eq_none.1 h e he

namespace TextMap.Externalized

theorem empty : TextMap.empty.Externalized := by
  intro e he
  cases he

/-- Fields that are laid over others leave secrets that were in either. -/
theorem insertAll {m : TextMap} (h : m.Externalized) {es : List (String × String)}
    (hes : ∀ e ∈ es, isSecretField e.1 = true → (SecretRef.parse? e.2).isSome = true) :
    (m.insertAll es).Externalized := by
  induction es generalizing m with
  | nil => exact h
  | cons e rest ih =>
      rw [List.forall_mem_cons] at hes
      refine ih (m := m.insert e.1 e.2) ?_ hes.2
      intro x hx
      rcases TextMap.mem_insertEntry hx with rfl | hx
      · exact hes.1
      · exact h x hx

theorem ofList {es : List (String × String)}
    (hes : ∀ e ∈ es, isSecretField e.1 = true → (SecretRef.parse? e.2).isSome = true) :
    (TextMap.ofList es).Externalized :=
  empty.insertAll hes

end TextMap.Externalized

/-- **A valid document asks for references only.** -/
theorem Document.Valid.externalized {d : Document} (h : d.Valid) : ∀ c ∈ d.features, c.desired.Externalized := by
  intro c hc e he
  rw [← isSafeField_iff, ← safeField_iff]
  exact ((checkFeatures_eq_ok_iff.1 h.2).1 c hc).secrets e he

/-! ## Steps -/

/-- A write puts in no record without a property. -/
def Edit.Puts (P : FeatureRecord → Prop) (e : Edit) : Prop :=
  ∀ r, e = .putRecord r → P r

/-- The record of a step and the one that it takes the place of have a property. -/
def Step.Puts (P : FeatureRecord → Prop) : Step → Prop
  | .setParam _ => True
  | .putFeature record previous _ => P record ∧ ∀ p, previous = some p → P p

/-- The record that a change lands on has a property. -/
def Target.Puts (P : FeatureRecord → Prop) : Target → Prop
  | .create replaces => ∀ r, replaces = some r → P r
  | .update existing => P existing

variable {P : FeatureRecord → Prop}

theorem Step.Puts.edit {step : Step} (h : step.Puts P) : ∀ e, step.edit? = some e → e.Puts P := by
  rintro e he r rfl
  cases step with
  | setParam c => cases he
  | putFeature record previous outcome =>
      simp only [edit?] at he
      split_ifs at he
      cases he
      exact h.1

theorem Step.Puts.undo {step : Step} (h : step.Puts P) : ∀ u, step.undo? = some u → u.edit.Puts P := by
  intro u hu r hr
  cases step with
  | setParam c =>
      cases hu
      cases hr
  | putFeature record previous outcome =>
      simp only [undo?] at hu
      split_ifs at hu
      cases hu
      cases previous with
      | none => cases hr
      | some p =>
          obtain rfl : p = r := by simpa [Undo.edit] using hr
          exact h.2 p rfl

theorem FeatureChange.target?_puts {c : FeatureChange} {records : List FeatureRecord} {target : Target}
    (h : c.target? records = some target) (hrecords : ∀ r ∈ records, P r) : target.Puts P := by
  unfold target? at h
  split at h
  · cases h
    intro r hr
    exact hrecords r (List.mem_of_find?_eq_some hr)
  · obtain ⟨r, hr, rfl⟩ := Option.map_eq_some_iff.1 h
    exact hrecords r (List.mem_of_find?_eq_some hr)

/-- **A step lays references over references.** -/
theorem FeatureChange.step_externalized {c : FeatureChange} (hc : c.desired.Externalized) {target : Target}
    (htarget : target.Puts FeatureRecord.Externalized) : (c.step target).Puts FeatureRecord.Externalized := by
  cases target with
  | create replaces => exact ⟨hc, htarget⟩
  | update existing =>
      have hmerged : (existing.mergedWith c.desired).1.Externalized := by
        rw [FeatureRecord.mergedWith_fst]
        exact TextMap.Externalized.insertAll htarget hc
      refine ⟨hmerged, ?_⟩
      rintro p ⟨⟩
      exact htarget

/-- The steps for a document put in references if all records that the report has found do. -/
theorem Agenda.steps_externalized {d : Document} (hd : d.Valid) {report : Report}
    (hreport : ∀ check ∈ report.features, check.target.Puts FeatureRecord.Externalized) :
    ∀ step ∈ (Agenda.ofReport d report).steps, step.Puts FeatureRecord.Externalized := by
  intro step hstep
  rcases List.mem_append.1 hstep with hset | hput
  · obtain ⟨⟨c, check⟩, -, heq⟩ := List.mem_filterMap.1 hset
    simp only [ParamChange.step?] at heq
    split at heq
    · cases heq
      trivial
    · cases heq
  · obtain ⟨⟨c, check⟩, hmem, rfl⟩ := List.mem_map.1 hput
    obtain ⟨hc, hcheck⟩ := List.of_mem_zip hmem
    exact FeatureChange.step_externalized (hd.externalized c hc) (hreport check hcheck)

/-! ## Runs -/

variable {σ : Type} [ConfigStore σ]

/-- A condition on stores that every call of a run keeps, as long as the records that are put in have a property; and
records that are listed where the condition holds have it. -/
structure CallInvariant (P : FeatureRecord → Prop) (I : σ → Prop) : Prop where
  get : ∀ key s, I s → I (ConfigStore.get key s).2
  list : ∀ s, I s → I (ConfigStore.listFeatures s).2
  listed : ∀ s, I s → ∀ records, (ConfigStore.listFeatures s).1 = .ok records → ∀ r ∈ records, P r
  edit : ∀ e : Edit, e.Puts P → ∀ s, I s → I (e.perform s).2
  beginRun : ∀ s, I s → I (ConfigStore.beginRun s).2
  endRun : ∀ commit s, I s → I (ConfigStore.endRun commit s).2

namespace CallInvariant

variable {I : σ → Prop} {s : σ}

/-- What a report found in a store where the condition holds has the property. -/
theorem target_puts (h : CallInvariant P I) (hs : I s) {d : Document} {report : Report}
    (hreport : (GuardedPatch.validate d s).answer = .ok report) : ∀ check ∈ report.features, check.target.Puts P := by
  intro check hcheck
  rcases checkTargets_of_readFeatures (reads_of_validate hreport).2 with ⟨-, hnil⟩ | ⟨records, hlist, hchecks⟩
  · simp [hnil] at hcheck
  · obtain ⟨hlands, hmap⟩ := checkTargets_eq_ok_iff.1 hchecks
    rw [hmap] at hcheck
    obtain ⟨c, hc, rfl⟩ := List.mem_map.1 hcheck
    exact c.target?_puts (hlands c hc) (h.listed _ (readParams_invariant h.get d.params hs) records hlist)

theorem validate (h : CallInvariant P I) (d : Document) (hs : I s) : I (GuardedPatch.validate d s).store :=
  validate_invariant h.get h.list d hs

/-- Applying keeps the condition if its steps put in records with the property. -/
theorem apply (h : CallInvariant P I) {d : Document} {report : Report}
    (hsteps : ∀ step ∈ (Agenda.ofReport d report).steps, step.Puts P) (hs : I s) :
    I (GuardedPatch.apply d report s).store := by
  -- a store is related to itself where the condition holds, and a run leaves related stores
  have hread : ReadAlike fun s t : σ => s = t ∧ I s := by
    refine ⟨?_, ?_⟩
    · rintro key s _ ⟨rfl, hs⟩
      exact ⟨rfl, rfl, h.get key s hs⟩
    · rintro s _ ⟨rfl, hs⟩
      exact ⟨.refl _, rfl, h.list s hs⟩
  have hcall : ∀ e : Edit, e.Puts P → CallsAlike (fun s t : σ => s = t ∧ I s) e.perform e.perform := by
    rintro e he s _ ⟨rfl, hs⟩
    exact ⟨rfl, rfl, h.edit e he s hs⟩
  have halike := apply_alike hread (s := s) (t := s)
    (fun step hstep => ⟨fun e he => hcall e ((hsteps step hstep).edit e he),
      fun u hu => hcall u.edit ((hsteps step hstep).undo u hu)⟩) ⟨rfl, hs⟩
  exact halike.stores.2

theorem applyBracketed (h : CallInvariant P I) {d : Document} {report : Report}
    (hsteps : ∀ step ∈ (Agenda.ofReport d report).steps, step.Puts P) (hs : I s) :
    I (PatchRun.applyBracketed d report s).store := by
  have hopened := h.beginRun s hs
  unfold PatchRun.applyBracketed
  generalize ConfigStore.beginRun s = out at hopened ⊢
  obtain ⟨opened, s'⟩ := out
  cases opened with
  | error e => exact hopened
  | ok _ =>
      have happlied := h.apply hsteps hopened
      have hclosed := fun commit => h.endRun commit _ happlied
      simp only
      split
      · replace hclosed := hclosed true
        split <;> next heq => rwa [heq] at hclosed
      · replace hclosed := hclosed false
        split <;> next heq => rwa [heq] at hclosed

/-- So does applying a text, if all steps that it may come to put in records with the property. -/
theorem applyPatch_of_steps (h : CallInvariant P I) (ctx : Context) (text : String) (hs : I s)
    (hsteps : ∀ d report, load text = .ok d → (GuardedPatch.validate d s).answer = .ok report →
      ∀ step ∈ (Agenda.ofReport d report).steps, step.Puts P) :
    I (GuardedPatch.applyPatch ctx text s).store := by
  obtain ⟨e, -, -, hsame | ⟨d, hread⟩⟩ | ⟨d, report, hload, hreport⟩ := commands_cases ctx text s
  · rwa [hsame]
  · rw [hread]
    exact h.validate d hs
  · rw [(applyPatch_of_validated ctx hload hreport).2]
    exact h.applyBracketed (hsteps d report hload hreport) (h.validate d hs)

/-- **Applying a text keeps secrets out of a store**, and so does failing to. -/
theorem applyPatch (h : CallInvariant FeatureRecord.Externalized I) (ctx : Context) (text : String) (hs : I s) :
    I (GuardedPatch.applyPatch ctx text s).store :=
  h.applyPatch_of_steps ctx text hs fun _ _ hload hreport =>
    Agenda.steps_externalized (load_valid hload) (h.target_puts hs hreport)

/-- Planning only reads. -/
theorem planPatch (h : CallInvariant P I) (ctx : Context) (text : String) (hs : I s) :
    I (GuardedPatch.planPatch ctx text s).store := by
  rw [planPatch_store]
  cases hload : load text with
  | error e => rwa [(validatedRun_of_load_error ctx hload).2]
  | ok d =>
      rw [validatedRun_store ctx hload]
      exact h.validate d hs

end CallInvariant

/-- **What a store holds has a property as long as what is put in has it.** -/
theorem RecordStore.callInvariant [RecordStore σ] (P : FeatureRecord → Prop) :
    CallInvariant P fun s : σ => ∀ r ∈ held s, P r where
  get key s hs r hr := hs r (get_held key s r hr)
  list s hs r hr := hs r (list_held s r hr)
  listed s hs records hlist r hr := hs r (listed_held s records hlist r hr)
  edit e he s hs r hr := by
    rcases edit_held e s r hr with hold | hput
    · exact hs r hold
    · exact he r hput
  beginRun s hs r hr := hs r (beginRun_held s r hr)
  endRun commit s hs r hr := hs r (endRun_held commit s r hr)

/-- Over a database, each row can be read and gives a record with a property, as long as what is put in has it. -/
theorem TableStore.callInvariant (P : FeatureRecord → Prop) :
    CallInvariant P fun s : TableStore => ∀ a, s.database.Yields a → ∃ r, a = .ok r ∧ P r where
  get _ _ hs := hs
  list _ hs := hs
  listed s hs records hlist r hr := by
    obtain ⟨r', hr', hP⟩ := hs _ (TableStore.yields_of_features hlist r hr)
    cases hr'
    exact hP
  edit e he s hs a ha := by
    rcases TableStore.yields_edit ha with hold | ⟨r, hput, rfl⟩
    · exact hs a hold
    · exact ⟨r, rfl, he r hput⟩
  beginRun s hs a ha := hs a (TableStore.yields_openRun ha)
  endRun commit s hs a ha := hs a (TableStore.yields_closeRun ha)

end GuardedPatch
