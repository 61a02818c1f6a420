import GuardedPatch.Proofs.Run.Reference

set_option autoImplicit false

/-! # Undoing after a drift

A run that is stopped puts in every place that it has written to what its steps have taken the place for
(`at?_of_rolledBack`). So it leaves the store as it was exactly if all these places still were what they were taken for
(`contents_of_rolledBack_iff`).

For parameters this is always so, as a parameter is read again right before it is set. The record that a step replaces
is the one in the report instead, and nothing is looked up again. If a record was inserted, changed or removed between
validation and application, a run that says that it was rolled back leaves what validation had found in its place
(`apply_aborted_restores_validated`), and the drift is lost (`drift_lost`). -/

namespace GuardedPatch

/-- The places that steps write to. -/
def writtenSlots (steps : List Step) : List Slot :=
  (steps.filterMap Step.edit?).map Edit.slot

theorem mem_writtenSlots {steps : List Step} {slot : Slot} :
    slot ∈ writtenSlots steps ↔ ∃ step ∈ steps, step.edit? ≠ none ∧ step.slot = slot := by
  rw [writtenSlots, List.mem_map]
  constructor
  · rintro ⟨e, he, rfl⟩
    obtain ⟨step, hstep, hedit⟩ := List.mem_filterMap.1 he
    exact ⟨step, hstep, hedit ▸ Option.some_ne_none e, (Step.slot_of_edit? hedit).symm⟩
  · rintro ⟨step, hstep, hwrites, rfl⟩
    obtain ⟨e, hedit⟩ := Option.ne_none_iff_exists'.1 hwrites
    exact ⟨e, List.mem_filterMap.2 ⟨step, hstep, hedit⟩, Step.slot_of_edit? hedit⟩

theorem Contents.at?_param_eq_iff {c c' : Contents} {key : String} :
    c.at? (.param key) = c'.at? (.param key) ↔ c.params.get? key = c'.params.get? key :=
  (Option.map_injective fun _ _ h => Content.value.inj h).eq_iff

theorem Contents.at?_feature_eq_iff {c c' : Contents} {id : String} :
    c.at? (.feature id) = c'.at? (.feature id) ↔ recordAt? c.features id = recordAt? c'.features id :=
  (Option.map_injective fun _ _ h => Content.record.inj h).eq_iff

/-! ## What a rolled back run leaves -/

section ContentStore

variable {σ : Type} [ConfigStore σ] [ContentStore σ] {steps : List Step} {s : σ} {c : Contents}

open ContentStore (contents)

/-- **A rolled back run leaves what its steps fit in the places that it has written to**, and all others as they
    were. -/
theorem at?_of_rolledBack (hslots : (steps.map Step.slot).Nodup)
    (hfits : ∀ step ∈ (progress steps s).done, step.Fits c)
    (hback : (replay (journalOf (progress steps s).done) (progress steps s).store).1 = []) (slot : Slot) :
    (contents (replay (journalOf (progress steps s).done) (progress steps s).store).2).at? slot
      = if slot ∈ writtenSlots (progress steps s).done then c.at? slot else (contents s).at? slot := by
  by_cases hwritten : slot ∈ writtenSlots (progress steps s).done
  · rw [if_pos hwritten]
    obtain ⟨step, hstep, hwrites, rfl⟩ := mem_writtenSlots.1 hwritten
    obtain ⟨e, hedit⟩ := Option.ne_none_iff_exists'.1 hwrites
    obtain ⟨u, -, hafter⟩ := at?_of_written hslots hfits hstep hedit
    rw [hafter, hback, List.map_nil, if_neg List.not_mem_nil]
  · rw [if_neg hwritten]
    exact at?_of_unwritten hslots hfits fun step hstep hwrites hslot =>
      hwritten (mem_writtenSlots.2 ⟨step, hstep, hwrites, hslot⟩)

/-- **It leaves everything as it was exactly if these places were what they were taken for.** -/
theorem contents_of_rolledBack_iff (hslots : (steps.map Step.slot).Nodup)
    (hfits : ∀ step ∈ (progress steps s).done, step.Fits c)
    (hback : (replay (journalOf (progress steps s).done) (progress steps s).store).1 = []) :
    contents (replay (journalOf (progress steps s).done) (progress steps s).store).2 = contents s
      ↔ ∀ slot ∈ writtenSlots (progress steps s).done, (contents s).at? slot = c.at? slot := by
  constructor
  · intro hsame slot hslot
    have hafter := at?_of_rolledBack hslots hfits hback slot
    rwa [hsame, if_pos hslot] at hafter
  · intro hundrifted
    rw [contents_replay hback, contents_progress]
    refine rollback_restores (hslots.sublist ((isPrefix_done steps s).map _).sublist) fun step hstep hwrites => ?_
    rw [Step.Fits, hundrifted _ (mem_writtenSlots.2 ⟨step, hstep, hwrites, rfl⟩)]
    exact hfits step hstep

/-- A parameter that was written to was what it was taken for. -/
theorem at?_param_of_written (hslots : (steps.map Step.slot).Nodup)
    (hfits : ∀ step ∈ (progress steps s).done, step.Fits c) {key : String}
    (hkey : .param key ∈ writtenSlots (progress steps s).done) :
    (contents s).at? (.param key) = c.at? (.param key) := by
  obtain ⟨step, hstep, -, hslot⟩ := mem_writtenSlots.1 hkey
  cases step with
  | putFeature record previous outcome => cases hslot
  | setParam change =>
      have hnow : (Step.setParam change).Fits (contents s) := done_setParam_fits hslots hstep
      have hthen : (Step.setParam change).Fits c := hfits _ hstep
      rw [Step.Fits, hslot] at hnow hthen
      exact hnow.trans hthen.symm

/-- So a rolled back run leaves all parameters as they were. -/
theorem params_of_rolledBack (hslots : (steps.map Step.slot).Nodup)
    (hfits : ∀ step ∈ (progress steps s).done, step.Fits c)
    (hback : (replay (journalOf (progress steps s).done) (progress steps s).store).1 = []) :
    (contents (replay (journalOf (progress steps s).done) (progress steps s).store).2).params
      = (contents s).params := by
  refine TextMap.ext_get? fun key => ?_
  rw [← Contents.at?_param_eq_iff, at?_of_rolledBack hslots hfits hback]
  split_ifs with hkey
  · exact (at?_param_of_written hslots hfits hkey).symm
  · rfl

end ContentStore

/-! ## What the result says was written -/

/-- The ids of the records that were written, as a result tells them. -/
def ApplyResult.writtenIds (result : ApplyResult) : List String :=
  (result.features.filter (·.action != .unchanged)).map (·.id)

/-- The outcome in a step of a document is about the record that the step puts. -/
theorem Document.id_of_mem_stepsIn {d : Document} {params : TextMap} {records : List FeatureRecord}
    {record : FeatureRecord} {previous : Option FeatureRecord} {outcome : FeatureOutcome}
    (h : .putFeature record previous outcome ∈ d.stepsIn params records) : outcome.id = record.id := by
  obtain hset | hput := List.mem_append.1 h
  · obtain ⟨c, -, hc⟩ := List.mem_map.1 hset
    cases hc
  · obtain ⟨c, -, hc⟩ := List.mem_map.1 hput
    cases hc
    rw [c.id_outcomeIn, c.id_wanted]

/-- A result tells which records were written. -/
theorem mem_writtenIds_iff {steps : List Step} {agenda : Agenda}
    (hids : ∀ record previous outcome, .putFeature record previous outcome ∈ steps → outcome.id = record.id)
    {id : String} :
    id ∈ (steps.foldl Step.addTo agenda.initial).writtenIds ↔ .feature id ∈ writtenSlots steps := by
  rw [ApplyResult.writtenIds, foldl_addTo, mem_writtenSlots, List.mem_map]
  constructor
  · rintro ⟨outcome, houtcome, rfl⟩
    obtain ⟨hmem, hchanged⟩ := List.mem_filter.1 houtcome
    obtain ⟨step, hstep, hadds⟩ := List.mem_filterMap.1 hmem
    cases step with
    | setParam c => cases hadds
    | putFeature record previous _ =>
        cases hadds
        refine ⟨_, hstep, ?_, congrArg Slot.feature (hids _ _ _ hstep).symm⟩
        rw [Step.edit?, if_neg (bne_iff_ne.1 hchanged)]
        exact Option.some_ne_none _
  · rintro ⟨step, hstep, hwrites, hslot⟩
    cases step with
    | setParam c => cases hslot
    | putFeature record previous outcome =>
        cases hslot
        have hchanged : outcome.action ≠ .unchanged := fun hsame => hwrites (by rw [Step.edit?, if_pos hsame])
        exact ⟨outcome, List.mem_filter.2 ⟨List.mem_filterMap.2 ⟨_, hstep, rfl⟩, bne_iff_ne.2 hchanged⟩,
          hids _ _ _ hstep⟩

/-! ## Stores in memory -/

/-- **A run that is stopped puts back the records that were validated.** Whatever has become of a store in memory since
    validation, if the run says that it was rolled back, then all parameters are as they were right before it. Under
    an id that the partial result tells to be written there is what validation had found, and under any other one what
    there was right before the run. So the records and their order are as right before the run exactly if none of those
    that were written has drifted. -/
theorem apply_aborted_restores_validated {d : Document} {r : Report} {s₀ s : Faulty MemoryStore} {key reason : String}
    {part : ApplyResult} (hrecords : DistinctIds s₀.inner.features) (hd : d.Valid)
    (hreport : (validate d s₀).answer = .ok r)
    (h : (apply d r s).answer = .error (.applyAborted key reason part true)) :
    let after := (apply d r s).store.inner
    after.params = s.inner.params
      ∧ (∀ id, recordAt? after.features id
        = if id ∈ part.writtenIds then recordAt? s₀.inner.features id else recordAt? s.inner.features id)
      ∧ (after.features = s.inner.features
        ↔ ∀ id ∈ part.writtenIds, recordAt? s.inner.features id = recordAt? s₀.inner.features id) := by
  intro after
  obtain ⟨agenda, hagenda, hrefusal, hpart, hrolled⟩ := agenda_of_aborted h
  have hintent := agenda_of_validated (Faulty.reads s₀.inner.reads) hrecords hreport
  obtain rfl := Except.ok.inj (hagenda.symm.trans hintent)
  have hslots := hd.slots_nodup s₀.inner.params s₀.inner.features
  have hdone := isPrefix_done (d.stepsIn s₀.inner.params s₀.inner.features) s
  -- the steps fit what was there at validation, and not what there is now
  have hfits : ∀ step ∈ (progress (d.stepsIn s₀.inner.params s₀.inner.features) s).done,
      step.Fits s₀.inner.contents := fun step hstep => d.stepsIn_fit s₀.inner.contents step (hdone.subset hstep)
  have hback := List.isEmpty_iff.1 hrolled.symm
  have hafter : after.contents = ContentStore.contents (apply d r s).store := rfl
  rw [(apply_of_refusal hagenda hrefusal).2] at hafter
  have hwritten : ∀ id, id ∈ part.writtenIds
      ↔ .feature id ∈ writtenSlots (progress (d.stepsIn s₀.inner.params s₀.inner.features) s).done := fun id => by
    rw [hpart]
    exact mem_writtenIds_iff fun _ _ _ hmem => Document.id_of_mem_stepsIn (hdone.subset hmem)
  have hparams : after.params = s.inner.params :=
    (congrArg Contents.params hafter).trans (params_of_rolledBack hslots hfits hback)
  refine ⟨hparams, fun id => ?_, ?_⟩
  · have hplace := at?_of_rolledBack hslots hfits hback (.feature id)
    rw [← hafter] at hplace
    by_cases hid : id ∈ part.writtenIds
    · rw [if_pos ((hwritten id).1 hid)] at hplace
      rw [if_pos hid]
      exact Contents.at?_feature_eq_iff.1 hplace
    · rw [if_neg (mt (hwritten id).2 hid)] at hplace
      rw [if_neg hid]
      exact Contents.at?_feature_eq_iff.1 hplace
  · have hcontents := contents_of_rolledBack_iff hslots hfits hback
    rw [← hafter] at hcontents
    constructor
    · intro hsame id hid
      have hall : after.contents = s.inner.contents := by
        rw [MemoryStore.contents, hparams, hsame]
        rfl
      exact Contents.at?_feature_eq_iff.1 (hcontents.1 hall (.feature id) ((hwritten id).1 hid))
    · intro hundrifted
      refine congrArg Contents.features (hcontents.2 fun slot hslot => ?_)
      cases slot with
      | param key => exact at?_param_of_written hslots hfits hslot
      | feature id => exact Contents.at?_feature_eq_iff.2 (hundrifted id ((hwritten id).2 hslot))

/-- A run that has set a parameter and updated a record stops at a locked one. Meanwhile another record has changed,
    one was inserted before it and a parameter has drifted, and all of this is kept. -/
theorem apply_aborted_restores_validated_elsewhere :
    let f (x : String) : FeatureRecord := ⟨"f", "t", .ofList [("x", x)]⟩
    let g (x : String) : FeatureRecord := ⟨"g", "t", .ofList [("x", x)]⟩
    let d : Document :=
      ⟨"site", [⟨"a", "1", "2"⟩], [⟨"f", none, .find, .ofList [("x", "2")]⟩, ⟨"g", none, .find, .ofList [("x", "2")]⟩]⟩
    let r : Report := ⟨[⟨"a", .eligible⟩], [⟨"f", .update (f "1")⟩, ⟨"g", .update (g "1")⟩]⟩
    let part : ApplyResult := ⟨[⟨"a", "1", "2"⟩], [], [⟨"f", .updated, ["x"]⟩], none⟩
    let s₀ : Faulty MemoryStore := .ofStore ⟨.ofList [("a", "1"), ("b", "1")], [f "1", g "1"], ["g"]⟩
    let s : Faulty MemoryStore :=
      .ofStore ⟨.ofList [("a", "1"), ("b", "3")], [⟨"h", "u", .empty⟩, g "3", f "1"], ["g"]⟩
    (validate d s₀).answer = .ok r
      ∧ (apply d r s).answer = .error (.applyAborted "g" (lockedError "g").message part true)
      ∧ (apply d r s).store.inner.params = s.inner.params
      ∧ (apply d r s).store.inner.features = s.inner.features := by
  intro f g d r part s₀ s
  have hrecords : DistinctIds s₀.inner.features := by decide
  have hvalid : d.Valid := ⟨rfl, rfl⟩
  have hreport : (validate d s₀).answer = .ok r := rfl
  have haborted : (apply d r s).answer = .error (.applyAborted "g" (lockedError "g").message part true) := rfl
  obtain ⟨hparams, -, hfeatures⟩ := apply_aborted_restores_validated hrecords hvalid hreport haborted
  refine ⟨hreport, haborted, hparams, hfeatures.2 fun id hid => ?_⟩
  obtain rfl : id = "f" := List.mem_singleton.1 hid
  rfl

/-- **A drift is lost**: the run updates a record that was changed after validation, stops at a locked one, says that it
    was rolled back, and leaves the record without the field that was added to it. -/
theorem drift_lost :
    let f : FeatureRecord := ⟨"f", "t", .ofList [("x", "1")]⟩
    let g : FeatureRecord := ⟨"g", "t", .ofList [("x", "1")]⟩
    let d : Document :=
      ⟨"site", [], [⟨"f", none, .find, .ofList [("x", "2")]⟩, ⟨"g", none, .find, .ofList [("x", "2")]⟩]⟩
    let r : Report := ⟨[], [⟨"f", .update f⟩, ⟨"g", .update g⟩]⟩
    let s₀ : MemoryStore := ⟨.empty, [f, g], ["g"]⟩
    let s : MemoryStore := ⟨.empty, [⟨"f", "t", .ofList [("x", "1"), ("y", "9")]⟩, g], ["g"]⟩
    DistinctIds s₀.features ∧ DistinctIds s.features ∧ d.Valid ∧ (validate d s₀).answer = .ok r
      ∧ (∃ reason part, (apply d r s).answer = .error (.applyAborted "g" reason part true))
      ∧ recordAt? (apply d r s).store.features "f" = some f
      ∧ (apply d r s).store.features ≠ s.features := by
  intro f g d r s₀ s
  have hback : (apply d r s).store.features = [f, g] := rfl
  refine ⟨by decide, by decide, ⟨rfl, rfl⟩, rfl, ⟨_, _, rfl⟩, rfl, ?_⟩
  rw [hback]
  decide

end GuardedPatch
