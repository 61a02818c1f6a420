import GuardedPatch.Proofs.Run.Atomicity
import GuardedPatch.Proofs.Run.Forecast

set_option autoImplicit false

/-! # Applying what was validated

On a store in memory, applying a document by the report that was made on that store comes to what the document
intends, in one go. The steps are measured against the store at the start and done on the store as they leave it.
That makes no difference, since no step writes to the place of a later one (`MemoryStore.refusal_none_iff`), and the
writes of all steps, one after the other, come to one overlay of the parameters (`valueAfter_eq_get?`) and one pass
over the records (`recordsAfter_eq_foldl`). -/

namespace GuardedPatch

/-! ## When no step is refused -/

namespace MemoryStore

theorem locked_perform (e : Edit) (s : MemoryStore) : (e.perform s).2.locked = s.locked := by
  rw [perform_edit]
  split_ifs <;> rfl

theorem locked_progress (steps : List Step) (s : MemoryStore) : (progress steps s).store.locked = s.locked :=
  progress_invariant (fun _ _ h => h) (fun e s' h => (locked_perform e s').trans h) steps rfl

/-- A step that fits sees what it expects. -/
theorem expected_of_fits {step : Step} {s : MemoryStore} (h : step.Fits s.contents) : step.Expected s := by
  cases step with
  | setParam c =>
      rw [Step.Fits, Step.slot, Contents.at?, Step.before?, Option.map_eq_some_iff] at h
      obtain ⟨old, hget, hold⟩ := h
      cases hold
      exact congrArg Except.ok hget
  | putFeature record previous outcome => trivial

/-- **Steps for distinct places, that all fit at the start, are done unless one writes to a locked name.** -/
theorem refusal_none_iff {steps : List Step} (hslots : (steps.map Step.slot).Nodup) {s : MemoryStore}
    (hfits : ∀ step ∈ steps, step.Fits s.contents) :
    (progress steps s).refusal = none ↔ ∀ step ∈ steps, ∀ e, step.edit? = some e → e.slot.name ∉ s.locked := by
  induction steps generalizing s with
  | nil => simp [progress]
  | cons step rest ih =>
      rw [List.map_cons, List.nodup_cons] at hslots
      rw [List.forall_mem_cons] at hfits
      have hseen : step.seen s = s := by
        cases step with
        | setParam c => rfl
        | putFeature record previous outcome => rfl
      have hcases := step.perform_cases s
      generalize hout : step.perform s = out at hcases
      cases hcases with
      | unwritten refusal hunexpected => exact absurd (expected_of_fits hfits.1) hunexpected
      | refused refusal e err hedit herr =>
          rw [hseen, perform_edit] at herr
          split_ifs at herr with hlocked
          rw [progress_cons_error (by rw [hout])]
          simp only [reduceCtorEq, List.forall_mem_cons, false_iff, not_and]
          intro hunlocked
          exact absurd hlocked (hunlocked e hedit)
      | kept hedit =>
          rw [progress_cons_ok (by rw [hout]), hout, List.forall_mem_cons, ih hslots.2 hfits.2]
          simp only [hedit, reduceCtorEq, false_implies, implies_true, true_and]
      | written e hedit _ hok =>
          have hafter : (e.perform s).2.contents = e.run s.contents :=
            ContentStore.edit_accepted e s (hseen ▸ hok)
          -- the steps behind this one fit what it leaves, as they write elsewhere
          have hrest : ∀ x ∈ rest, x.Fits (e.perform s).2.contents := by
            rw [hafter]
            intro x hx
            have hne : e.slot ≠ x.slot := by
              rw [Step.slot_of_edit? hedit]
              exact fun heq => hslots.1 (heq ▸ List.mem_map_of_mem hx)
            exact (Step.fits_run_iff hne s.contents).2 (hfits.2 x hx)
          have hunlocked : e.slot.name ∉ s.locked := by
            rw [hseen, perform_edit] at hok
            split_ifs at hok with hlocked
            exact hlocked
          rw [progress_cons_ok (by rw [hout]), hout, hseen, List.forall_mem_cons, ih hslots.2 hrest,
            locked_perform]
          refine ⟨fun hall => ⟨fun e' he' => ?_, hall⟩, fun hall => hall.2⟩
          obtain rfl : e = e' := Option.some.inj (hedit.symm.trans he')
          exact hunlocked

/-! ## When a step is refused -/

/-- No undo fails if none is about a locked name. -/
theorem failures_eq_nil {journal : List Undo} {s : MemoryStore} (h : ∀ u ∈ journal, u.edit.slot.name ∉ s.locked) :
    (replay journal s).1 = [] := by
  induction journal generalizing s with
  | nil => rfl
  | cons u rest ih =>
      rw [List.forall_mem_cons] at h
      have hok : (u.edit.perform s).1 = .ok () := by rw [perform_edit, if_neg h.1]
      rw [replay_cons_ok hok]
      refine ih fun u' hu' => ?_
      rw [locked_perform]
      exact h.2 u' hu'

/-- **Steps that are taken back leave no trace.** What they have written is at unlocked names, so that no undo fails. -/
theorem replay_done {steps : List Step} (hslots : (steps.map Step.slot).Nodup) {s : MemoryStore}
    (hfits : ∀ step ∈ steps, step.Fits s.contents) :
    replay (journalOf (progress steps s).done) (progress steps s).store = ([], s) := by
  have hdone := isPrefix_done steps s
  have hdoneFits : ∀ step ∈ (progress steps s).done, step.Fits s.contents := fun step hstep =>
    hfits step (hdone.subset hstep)
  have hunlocked := (refusal_none_iff (hslots.sublist (hdone.map _).sublist) hdoneFits).1 (refusal_done steps s)
  have hnil : (replay (journalOf (progress steps s).done) (progress steps s).store).1 = [] := by
    refine failures_eq_nil fun u hu => ?_
    obtain ⟨step, hstep, e, hedit, hslot⟩ := exists_of_mem_journalOf hdoneFits hu
    rw [locked_progress, hslot, ← Step.slot_of_edit? hedit]
    exact hunlocked step hstep e hedit
  have hcontents := contents_of_rolledBack hslots hdoneFits hnil
  have hlocked : (replay (journalOf (progress steps s).done) (progress steps s).store).2.locked = s.locked :=
    replay_invariant (I := fun s' : MemoryStore => s'.locked = s.locked)
      (fun e s' h => (locked_perform e s').trans h) _ (locked_progress steps s)
  generalize replay (journalOf (progress steps s).done) (progress steps s).store = back at hnil hcontents hlocked
  obtain ⟨failures, s'⟩ := back
  obtain rfl : failures = [] := hnil
  obtain ⟨params, features, locked⟩ := s'
  obtain ⟨hparams, hfeatures⟩ := Contents.mk.inj hcontents
  simp only at hparams hfeatures hlocked
  rw [hparams, hfeatures, hlocked]

end MemoryStore

/-! ## What all writes come to -/

theorem FeatureChange.edit?_stepIn (c : FeatureChange) (records : List FeatureRecord) :
    (c.stepIn records).edit?
      = if c.altersIn records then some (.putRecord (c.wanted (recordAt? records c.id))) else none := by
  have halters : (c.outcomeIn records).action = .unchanged ↔ ¬ c.altersIn records := by
    rw [outcomeIn_unchanged_iff, altersIn, bne_iff_ne, not_not]
  rw [stepIn, Step.edit?]
  by_cases h : c.altersIn records
  · rw [if_pos h, if_neg fun hsame => halters.1 hsame h]
  · rw [if_neg h, if_pos (halters.2 h)]

/-- The records that a document writes. -/
def Document.written (d : Document) (records : List FeatureRecord) : List FeatureRecord :=
  (d.features.filter (·.altersIn records)).map fun c => c.wanted (recordAt? records c.id)

/-- The entries that a document writes. -/
def Document.dueEntries (d : Document) (params : TextMap) : List (String × String) :=
  (d.params.filter (·.dueIn params)).map fun c => (c.key, c.update)

theorem Document.edits_stepsIn (d : Document) (params : TextMap) (records : List FeatureRecord) :
    (d.stepsIn params records).filterMap Step.edit?
      = (d.dueEntries params).map (fun e => .setParam e.1 e.2) ++ (d.written records).map .putRecord := by
  have hputs : d.features.filterMap (fun c => (c.stepIn records).edit?)
      = ((d.features.filter (·.altersIn records)).map fun c => c.wanted (recordAt? records c.id)).map
          Edit.putRecord := by
    rw [List.map_map, ← List.filterMap_eq_map, List.filterMap_filter]
    simp only [FeatureChange.edit?_stepIn, Function.comp_apply]
  rw [stepsIn, List.filterMap_append, List.filterMap_map, List.filterMap_map, dueEntries, List.map_map, written,
    ← hputs, ← List.filterMap_eq_map]
  rfl

theorem dueEntries_unlocked (d : Document) (params : TextMap) (locked : List String) :
    (∀ e ∈ (d.dueEntries params).map fun e => Edit.setParam e.1 e.2, e.slot.name ∉ locked)
      ↔ ∀ c ∈ d.params, c.dueIn params → c.key ∉ locked := by
  rw [Document.dueEntries, List.map_map, List.forall_mem_map, List.forall_mem_filter]
  rfl

theorem written_unlocked (d : Document) (records : List FeatureRecord) (locked : List String) :
    (∀ e ∈ (d.written records).map Edit.putRecord, e.slot.name ∉ locked)
      ↔ ∀ c ∈ d.features, c.altersIn records → c.id ∉ locked := by
  rw [Document.written, List.map_map, List.forall_mem_map, List.forall_mem_filter]
  simp only [Function.comp_apply, Edit.slot, Slot.name, FeatureChange.id_wanted]

theorem foldl_run_setParam (es : List (String × String)) (c : Contents) :
    (es.map fun e => Edit.setParam e.1 e.2).foldl Edit.run c = ⟨c.params.insertAll es, c.features⟩ := by
  induction es generalizing c with
  | nil => rfl
  | cons e rest ih =>
      rw [List.map_cons, List.foldl_cons, ih]
      rfl

theorem foldl_run_putRecord (ws : List FeatureRecord) (c : Contents) :
    (ws.map Edit.putRecord).foldl Edit.run c
      = ⟨c.params, ws.foldl (fun rs w => replaceOrAppend w rs) c.features⟩ := by
  induction ws generalizing c with
  | nil => rfl
  | cons w rest ih =>
      rw [List.map_cons, List.foldl_cons, ih]
      rfl

/-! ## Parameters -/

theorem lookup_dueEntries (cs : List ParamChange) (params : TextMap) (key : String) :
    ((cs.filter (·.dueIn params)).map fun c => (c.key, c.update)).lookup key
      = (cs.find? fun c => c.key == key && c.dueIn params).map (·.update) := by
  induction cs with
  | nil => rfl
  | cons c rest ih =>
      rw [List.filter_cons, List.find?_cons]
      by_cases hdue : c.dueIn params
      · rw [if_pos hdue, List.map_cons, TextMap.lookup_cons, ih, hdue, Bool.and_true]
        by_cases hkey : key = c.key
        · rw [if_pos hkey, hkey, beq_self_eq_true, Option.map_some]
        · rw [if_neg hkey, beq_false_of_ne (Ne.symm hkey)]
      · rw [if_neg hdue, ih, Bool.eq_false_iff.2 hdue, Bool.and_false]

theorem Document.Valid.dueEntries_nodup {d : Document} (h : d.Valid) (params : TextMap) :
    ((d.dueEntries params).map (·.1)).Nodup := by
  rw [dueEntries, List.map_map]
  exact h.keys_nodup.sublist (List.filter_sublist.map _)

/-- **The values afterwards are those of one overlay.** -/
theorem Document.Valid.valueAfter_eq_get? {d : Document} (h : d.Valid) (params : TextMap) (key : String) :
    (params.insertAll (d.dueEntries params)).get? key = d.valueAfter params key := by
  rw [TextMap.get?_insertAll (h.dueEntries_nodup params), dueEntries, lookup_dueEntries, valueAfter]
  cases d.params.find? fun c => c.key == key && c.dueIn params with
  | none => rw [Option.map_none, Option.none_or]
  | some c => rw [Option.map_some, Option.some_or]

/-! ## Records -/

theorem Document.Valid.written_distinct {d : Document} (h : d.Valid) (records : List FeatureRecord) :
    DistinctIds (d.written records) := by
  have hids : ((d.written records).map (·.id)) = (d.features.filter (·.altersIn records)).map (·.id) := by
    rw [written, List.map_map]
    exact List.map_congr_left fun c _ => c.id_wanted records
  rw [DistinctIds, hids]
  exact h.ids_nodup.sublist (List.filter_sublist.map _)

/-- The record that is written for an id is the one that is wanted there, if that alters anything. -/
theorem recordAt?_written (cs : List FeatureChange) (records : List FeatureRecord)
    (hids : (cs.map (·.id)).Nodup) (id : String) :
    recordAt? ((cs.filter (·.altersIn records)).map fun c => c.wanted (recordAt? records c.id)) id
      = ((cs.find? (·.id == id)).filter (·.altersIn records)).map fun c => c.wanted (recordAt? records id) := by
  induction cs with
  | nil => rfl
  | cons c rest ih =>
      rw [List.map_cons, List.nodup_cons] at hids
      rw [List.filter_cons, List.find?_cons]
      by_cases hid : c.id = id
      · have hrest : rest.find? (·.id == id) = none := find?_eq_none_of_not_mem (hid ▸ hids.1)
        rw [hrest] at ih
        rw [hid, beq_self_eq_true]
        by_cases halters : c.altersIn records
        · rw [if_pos halters, List.map_cons, recordAt?_cons, c.id_wanted, if_pos hid, hid]
          simp [Option.filter, halters]
        · rw [if_neg halters, ih hids.2]
          simp [Option.filter, halters]
      · rw [beq_false_of_ne hid]
        by_cases halters : c.altersIn records
        · rw [if_pos halters, List.map_cons, recordAt?_cons, c.id_wanted, if_neg hid, ih hids.2]
        · rw [if_neg halters, ih hids.2]

/-- What is written for new ids is what is created. Every change has to land somewhere, so that there is something to
    find for each one that finds. -/
theorem Document.written_new (d : Document) {records : List FeatureRecord}
    (hfound : ∀ c ∈ d.features, c.mode = .find → (recordAt? records c.id).isSome) :
    ((d.written records).filter fun w => (recordAt? records w.id).isNone) = d.created records := by
  have hnew : ∀ c ∈ d.features,
      (((fun w : FeatureRecord => (recordAt? records w.id).isNone) ∘ fun c : FeatureChange =>
          c.wanted (recordAt? records c.id)) c && c.altersIn records)
        = (c.mode == .create && (recordAt? records c.id).isNone) := by
    intro c hc
    rw [Function.comp_apply, c.id_wanted]
    cases hcurrent : recordAt? records c.id with
    | some r => simp
    | none =>
        have hmode : c.mode = .create := by
          cases hmode : c.mode with
          | create => rfl
          | find =>
              have := hfound c hc hmode
              rw [hcurrent] at this
              cases this
        simp [FeatureChange.altersIn, hcurrent, hmode]
  rw [written, created, List.filter_map, List.filter_filter, List.filter_congr hnew]
  apply List.map_congr_left
  intro c hc
  have hnone := (List.mem_filter.1 hc).2
  rw [Bool.and_eq_true, Option.isNone_iff_eq_none] at hnone
  rw [hnone.2]

/-- What is written in the place of a record is what is wanted there. -/
theorem Document.Valid.written_getD {d : Document} (h : d.Valid) {records : List FeatureRecord}
    (hrecords : DistinctIds records) {r : FeatureRecord} (hr : r ∈ records) :
    (recordAt? (d.written records) r.id).getD r
      = match d.features.find? (·.id == r.id) with
        | some c => c.wanted (some r)
        | none => r := by
  have hcurrent := hrecords.recordAt?_of_mem hr
  rw [written, recordAt?_written d.features records h.ids_nodup, hcurrent]
  cases hfind : d.features.find? (·.id == r.id) with
  | none => rfl
  | some c =>
      have hid : c.id = r.id := by simpa using List.find?_some hfind
      by_cases halters : c.altersIn records
      · simp [Option.filter, halters]
      · have hsame : some r = some (c.wanted (some r)) := by
          simpa [FeatureChange.altersIn, hid, hcurrent] using halters
        simp [Option.filter, halters, ← Option.some.inj hsame]

/-- **The records afterwards are those of putting in what is written.** -/
theorem Document.Valid.recordsAfter_eq_foldl {d : Document} (h : d.Valid) {records : List FeatureRecord}
    (hrecords : DistinctIds records) (hfound : ∀ c ∈ d.features, c.mode = .find → (recordAt? records c.id).isSome) :
    (d.written records).foldl (fun rs w => replaceOrAppend w rs) records = d.recordsAfter records := by
  rw [foldl_replaceOrAppend (h.written_distinct records) hrecords, recordsAfter, d.written_new hfound]
  congr 1
  exact List.map_congr_left fun r hr => h.written_getD hrecords hr

/-! ## Results -/

/-- **The result of a document's steps tells what was intended.** -/
theorem Document.result_stepsIn (d : Document) (params : TextMap) (records : List FeatureRecord) :
    Agenda.result ⟨d.stepsIn params records, d.skippedIn params⟩ = d.resultIn params records := by
  have happlied : (d.stepsIn params records).filterMap Step.applied? = d.appliedIn params := by
    have hputs : (d.features.map (·.stepIn records)).filterMap Step.applied? = [] := by
      rw [List.filterMap_eq_nil_iff]
      intro step hstep
      obtain ⟨c, -, rfl⟩ := List.mem_map.1 hstep
      rfl
    rw [stepsIn, List.filterMap_append, hputs, List.append_nil, List.filterMap_map, appliedIn_eq,
      ← List.filterMap_eq_map]
    rfl
  have houtcomes : (d.stepsIn params records).filterMap Step.outcome? = d.features.map (·.outcomeIn records) := by
    have hsets : ((d.params.filter (·.dueIn params)).map Step.setParam).filterMap Step.outcome? = [] := by
      rw [List.filterMap_eq_nil_iff]
      intro step hstep
      obtain ⟨c, -, rfl⟩ := List.mem_map.1 hstep
      rfl
    rw [stepsIn, List.filterMap_append, hsets, List.nil_append, List.filterMap_map, ← List.filterMap_eq_map]
    rfl
  rw [Agenda.result, foldl_addTo, happlied, houtcomes]
  rfl

theorem Document.keys_appliedIn (d : Document) (params : TextMap) :
    (d.appliedIn params).map (·.key) = (d.params.filter (·.dueIn params)).map (·.key) := by
  rw [appliedIn_eq, List.map_map]
  rfl

theorem Document.keys_skippedIn (d : Document) (params : TextMap) :
    (d.skippedIn params).map (·.key) = (d.params.filter fun c => !c.dueIn params).map (·.key) := by
  rw [skippedIn_eq, List.map_map]
  rfl

/-- A result has every entry of its document exactly once and in its order, a parameter either as applied or as
    skipped. -/
structure ApplyResult.Accounts (result : ApplyResult) (d : Document) : Prop where
  applied : (result.applied.map (·.key)).Sublist (d.params.map (·.key))
  skipped : (result.skipped.map (·.key)).Sublist (d.params.map (·.key))
  params : (result.applied.map (·.key) ++ result.skipped.map (·.key)).Perm (d.params.map (·.key))
  features : result.features.map (·.id) = d.features.map (·.id)

theorem FeatureChange.id_outcomeIn (c : FeatureChange) (records : List FeatureRecord) :
    (c.outcomeIn records).id = c.id := by
  rw [outcomeIn]
  split
  · split <;> rfl
  · rfl

theorem Document.accounts_resultIn (d : Document) (params : TextMap) (records : List FeatureRecord) :
    (d.resultIn params records).Accounts d where
  applied := by
    rw [resultIn, keys_appliedIn]
    exact List.filter_sublist.map _
  skipped := by
    rw [resultIn, keys_skippedIn]
    exact List.filter_sublist.map _
  params := by
    rw [resultIn, keys_appliedIn, keys_skippedIn, ← List.map_append]
    exact (List.filter_append_perm _ _).map _
  features := by
    rw [resultIn, List.map_map]
    exact List.map_congr_left fun c _ => c.id_outcomeIn records

/-! ## Applying -/

/-- **Applying what was validated is what was intended.** On a store in memory with distinct ids, applying a valid
    document by the report made there goes well exactly when no locked key is that of a parameter that is due or the id
    of a feature change that alters the records. Then the parameters and the records are the ones that the document
    intends, the locks are as before, and so is everything else; and the result accounts for every entry of the
    document. -/
theorem apply_validated_memory {d : Document} {r : Report} {s : MemoryStore} (hrecords : DistinctIds s.features)
    (hd : d.Valid) (hreport : (validate d s).answer = .ok r) :
    ((∃ result, (apply d r s).answer = .ok result) ↔
      ¬ ∃ key ∈ s.locked, (∃ c ∈ d.params, c.key = key ∧ c.dueIn s.params)
        ∨ ∃ c ∈ d.features, c.id = key ∧ c.altersIn s.features)
    ∧ ∀ result, (apply d r s).answer = .ok result →
      (∀ key, (apply d r s).store.params.get? key = d.valueAfter s.params key)
        ∧ (apply d r s).store.features = d.recordsAfter s.features
        ∧ (apply d r s).store.locked = s.locked
        ∧ result = d.resultIn s.params s.features ∧ result.Accounts d := by
  have hagenda := agenda_of_validated s.reads hrecords hreport
  have hslots := hd.slots_nodup s.params s.features
  have hfits : ∀ step ∈ d.stepsIn s.params s.features, step.Fits s.contents := d.stepsIn_fit s.contents
  have hwell : ∀ result, (apply d r s).answer = .ok result ↔
      (progress (d.stepsIn s.params s.features) s).refusal = none ∧ result = d.resultIn s.params s.features := by
    intro result
    rw [apply_eq_ok_iff hagenda, d.result_stepsIn]
  constructor
  · -- the writes of the steps are those of the parameters that are due and of the features that are altered
    simp only [hwell, exists_and_left, exists_eq, and_true]
    rw [MemoryStore.refusal_none_iff hslots hfits, ← List.forall_mem_filterMap, d.edits_stepsIn,
      List.forall_mem_append, dueEntries_unlocked, written_unlocked]
    constructor
    · rintro ⟨hparams, hfeatures⟩ ⟨key, hlocked, ⟨c, hc, rfl, hdue⟩ | ⟨c, hc, rfl, halters⟩⟩
      · exact hparams c hc hdue hlocked
      · exact hfeatures c hc halters hlocked
    · intro hno
      exact ⟨fun c hc hdue hlocked => hno ⟨c.key, hlocked, .inl ⟨c, hc, rfl, hdue⟩⟩,
        fun c hc halters hlocked => hno ⟨c.id, hlocked, .inr ⟨c, hc, rfl, halters⟩⟩⟩
  · intro result hok
    obtain ⟨hrefusal, rfl⟩ := (hwell result).1 hok
    have hcontents : (apply d r s).store.contents
        = ⟨s.params.insertAll (d.dueEntries s.params),
          (d.written s.features).foldl (fun rs w => replaceOrAppend w rs) s.features⟩ := by
      have hprogress := contents_progress (d.stepsIn s.params s.features) s
      rw [apply_store_of_ok hagenda hrefusal]
      rw [done_of_refusal_none hrefusal, d.edits_stepsIn, List.foldl_append, foldl_run_setParam,
        foldl_run_putRecord] at hprogress
      exact hprogress
    refine ⟨fun key => ?_, ?_, ?_, rfl, d.accounts_resultIn _ _⟩
    · rw [← hd.valueAfter_eq_get?]
      exact congrArg (·.params.get? key) hcontents
    · rw [← hd.recordsAfter_eq_foldl hrecords (s.reads.found hrecords hreport)]
      exact congrArg Contents.features hcontents
    · rw [apply_store_of_ok hagenda hrefusal]
      exact MemoryStore.locked_progress _ s

/-- A locked parameter that does not have the expected value is in nobody's way. -/
theorem apply_validated_memory_skipping :
    let d : Document :=
      ⟨"site", [⟨"a", "1", "2"⟩, ⟨"b", "1", "2"⟩],
        [⟨"f", none, .find, .ofList [("x", "2")]⟩, ⟨"g", some "t", .create, .empty⟩]⟩
    let f : FeatureRecord := ⟨"f", "t", .ofList [("x", "1"), ("y", "1")]⟩
    let s : MemoryStore := ⟨.ofList [("a", "1"), ("b", "3")], [f], ["b"]⟩
    let r : Report := ⟨[⟨"a", .eligible⟩, ⟨"b", .mismatch "3"⟩], [⟨"f", .update f⟩, ⟨"g", .create none⟩]⟩
    (validate d s).answer = .ok r ∧ ∃ result, (apply d r s).answer = .ok result
      ∧ result.Accounts d ∧ (apply d r s).store.features = d.recordsAfter s.features := by
  intro d f s r
  have hvalid : d.Valid := ⟨rfl, rfl⟩
  have hrecords : DistinctIds s.features := List.nodup_singleton "f"
  have hreport : (validate d s).answer = .ok r := rfl
  obtain ⟨hwell, hthen⟩ := apply_validated_memory hrecords hvalid hreport
  obtain ⟨result, hok⟩ := hwell.2 (by decide)
  obtain ⟨-, hfeatures, -, -, haccounts⟩ := hthen result hok
  exact ⟨hreport, result, hok, haccounts, hfeatures⟩

end GuardedPatch
