import GuardedPatch.Proofs.Run.Memory

set_option autoImplicit false

/-! # Running a document again

Once a document was run, every record that it wants is there, and every parameter that it changed has a value that is
no longer the expected one, unless the two were the same from the start. So there is nothing left to do
(`Document.SettledIn`): a document that is settled writes what is there already, and its result is that of doing nothing
(`Document.isNoop_resultIn_iff`, `MemoryStore.written_of_settled`). Nor does any other document write only what is there
already (`MemoryStore.settled_of_written`), so that a result tells whether its run has changed anything.

This goes for the same document again, and for the one that expects what the first run left (`Document.confirming`). -/

namespace GuardedPatch

/-- There is nothing left to do: a parameter that is due has its new value, and every record is the wanted one. -/
structure Document.SettledIn (d : Document) (params : TextMap) (records : List FeatureRecord) : Prop where
  params : ∀ c ∈ d.params, c.dueIn params → c.update = c.expected
  features : ∀ c ∈ d.features, c.altersIn records = false

/-- **A result is that of doing nothing exactly if there is nothing left to do.** -/
theorem Document.isNoop_resultIn_iff (d : Document) (params : TextMap) (records : List FeatureRecord) :
    (d.resultIn params records).isNoop ↔ d.SettledIn params records := by
  have hunchanged : ∀ c : FeatureChange,
      (c.outcomeIn records).action = .unchanged ↔ c.altersIn records = false := by
    intro c
    rw [c.outcomeIn_unchanged_iff, FeatureChange.altersIn, bne_eq_false_iff_eq]
  rw [ApplyResult.isNoop, Bool.and_eq_true, List.all_eq_true, List.all_eq_true, resultIn, appliedIn_eq,
    List.forall_mem_map, List.forall_mem_filter, List.forall_mem_map]
  simp only [beq_iff_eq, hunchanged]
  exact ⟨fun h => ⟨fun c hc hdue => (h.1 c hc hdue).symm, h.2⟩, fun h => ⟨fun c hc hdue => (h.params c hc hdue).symm,
    h.features⟩⟩

/-! ## The records after a run -/

/-- What a change wants in the place of the record that it wanted is that record. -/
theorem FeatureChange.wanted_wanted (c : FeatureChange) (current : Option FeatureRecord) :
    c.wanted (some (c.wanted current)) = c.wanted current := by
  cases hmode : c.mode with
  | create => rw [wanted_of_create hmode, wanted_of_create hmode]
  | find =>
      rw [wanted_of_find hmode]
      cases current with
      | some r => rw [wanted_of_find hmode, TextMap.insertAll_insertAll]
      | none =>
          have hown : c.desired.insertAll c.desired.entries = c.desired :=
            (TextMap.insertAll_eq_self_iff _ _).2 fun e he => c.desired.get?_of_mem he
          simp only [wanted, hmode, hown]

/-- A change that finds its record wants one of the same type. -/
theorem FeatureChange.type_wanted {c : FeatureChange} (h : c.mode = .find) (r : FeatureRecord) :
    (c.wanted (some r)).type = r.type := by
  rw [wanted_of_find h]

namespace MemoryStore

variable {s s' : MemoryStore} {d : Document} {result : ApplyResult}

/-- **The record that a change wants is there afterwards.** -/
theorem recordAt?_written_self (hd : d.Valid) {c : FeatureChange} (hc : c ∈ d.features) :
    recordAt? (s.written d s).features c.id = some (c.wanted (recordAt? s.features c.id)) := by
  have hfind : d.features.find? (·.id == c.id) = some c := find?_eq_of_mem hd.ids_nodup hc
  rw [recordAt?_written hd, Document.overwrite, hfind]
  by_cases hsame : recordAt? s.features c.id = some (c.wanted (recordAt? s.features c.id))
  · simp only [if_pos hsame]
    exact hsame
  · simp only [if_neg hsame]

theorem not_altersIn_written (hd : d.Valid) {c : FeatureChange} (hc : c ∈ d.features) :
    c.altersIn (s.written d s).features = false := by
  rw [FeatureChange.altersIn, recordAt?_written_self hd hc, c.wanted_wanted, bne_self_eq_false]

/-- A document still finds its records afterwards, as they keep their types. -/
theorem landsIn_written (hrecords : DistinctIds s.features) (hd : d.Valid) (hlands : d.LandsIn s.features) :
    d.LandsIn (s.written d s).features := by
  intro c hc
  have hbefore := hlands c hc
  rw [FeatureChange.target?] at hbefore ⊢
  cases hmode : c.mode with
  | create => rfl
  | find =>
      have hafter : DistinctIds (s.written d s).features := hrecords.foldl_replaceOrAppend (d.written s.features)
      simp only [hmode, hrecords.find?_selects, Option.isSome_map, Option.isSome_filter] at hbefore
      simp only [hafter.find?_selects, Option.isSome_map, Option.isSome_filter, recordAt?_written_self hd hc]
      cases hcurrent : recordAt? s.features c.id with
      | none =>
          rw [hcurrent] at hbefore
          cases hbefore
      | some r =>
          rw [hcurrent] at hbefore
          rw [Option.any_some, FeatureChange.type_wanted hmode]
          exact hbefore

/-! ## The parameters after a run -/

theorem get?_written (hd : d.Valid) {c : ParamChange} (hc : c ∈ d.params) :
    (s.written d s).params.get? c.key = if c.dueIn s.params then some c.update else s.params.get? c.key := by
  have hafter : (s.written d s).params.get? c.key = d.valueAfter s.params c.key := hd.valueAfter_eq_get? s.params c.key
  rw [hafter, Document.valueAfter]
  cases hfind : d.params.find? fun x => x.key == c.key && x.dueIn s.params with
  | some x =>
      have hx := List.find?_some hfind
      rw [Bool.and_eq_true, beq_iff_eq] at hx
      obtain rfl : x = c := List.inj_on_of_nodup_map hd.keys_nodup (List.mem_of_find?_eq_some hfind) hc hx.1
      rw [if_pos hx.2]
  | none =>
      have hundue := List.find?_eq_none.1 hfind c hc
      rw [beq_self_eq_true, Bool.true_and] at hundue
      rw [if_neg hundue]

/-- A change is due again only if it left its parameter as it was. -/
theorem dueIn_written_iff (hd : d.Valid) {c : ParamChange} (hc : c ∈ d.params) :
    c.dueIn (s.written d s).params ↔ c.dueIn s.params ∧ c.update = c.expected := by
  rw [ParamChange.dueIn, get?_written hd hc, beq_iff_eq]
  by_cases hdue : c.dueIn s.params
  · rw [if_pos hdue, Option.some.injEq, and_iff_right hdue]
  · have hother : s.params.get? c.key ≠ some c.expected := by rwa [ParamChange.dueIn, beq_iff_eq] at hdue
    rw [if_neg hdue, iff_false_intro hother, iff_false_intro hdue, false_and]

/-! ## Settled documents -/

/-- **A settled document writes what is there already.** -/
theorem written_of_settled (h : d.SettledIn s.params s.features) : s.written d s = s := by
  have hparams : s.params.insertAll (d.dueEntries s.params) = s.params := by
    refine TextMap.insertAll_eq_self ?_
    rw [Document.dueEntries, List.forall_mem_map, List.forall_mem_filter]
    intro c hc hdue
    rw [h.params c hc hdue]
    rwa [ParamChange.dueIn, beq_iff_eq] at hdue
  have hrecords : d.written s.features = [] := by
    rw [Document.written, List.filter_eq_nil_iff.2 fun c hc => by simp [h.features c hc], List.map_nil]
  rw [written, hparams, hrecords]
  rfl

/-- A document that writes what is there already is settled: each place is written once, so that no write can take
    back another one. -/
theorem settled_of_written (hd : d.Valid) (h : s.written d s = s) : d.SettledIn s.params s.features where
  params c hc hdue := by
    have hvalue := get?_written (s := s) hd hc
    rw [h, if_pos hdue, beq_iff_eq.1 hdue] at hvalue
    exact (Option.some.inj hvalue).symm
  features c hc := by
    have hrecord := not_altersIn_written (s := s) hd hc
    rwa [h] at hrecord

/-- A settled document that lands somewhere and is not locked out runs without any effect. -/
theorem runs_of_settled (hrecords : DistinctIds s.features) (hd : d.Valid) (hlands : d.LandsIn s.features)
    (hadmits : s.Admits d) (h : d.SettledIn s.params s.features) :
    s.Runs d (d.resultIn s.params s.features) s ∧ (d.resultIn s.params s.features).isNoop :=
  ⟨(runs_iff hrecords hd).2 ⟨hlands, hadmits, rfl, (written_of_settled h).symm⟩, (d.isNoop_resultIn_iff _ _).2 h⟩

end MemoryStore

/-- **A result is that of doing nothing exactly if the store is left as it was.** After a valid document was run on a
    store in memory with distinct ids, its parameters, its records and their order are the same as before if and only if
    the result has no value that was changed and no record that was created or updated. -/
theorem isNoop_iff_unchanged {s s' : MemoryStore} {d : Document} {result : ApplyResult}
    (hrecords : DistinctIds s.features) (hd : d.Valid) (hrun : s.Runs d result s') :
    result.isNoop ↔ s' = s := by
  obtain ⟨-, -, rfl, rfl⟩ := (MemoryStore.runs_iff hrecords hd).1 hrun
  rw [d.isNoop_resultIn_iff]
  exact ⟨MemoryStore.written_of_settled, MemoryStore.settled_of_written hd⟩

/-- A document that confirms a parameter, finds a record with the field it sets and replaces one by its like, and then
    one that does all this but moves a record to another type. -/
theorem isNoop_iff_unchanged_confirming :
    let f : FeatureRecord := ⟨"f", "t", .ofList [("x", "1"), ("y", "1")]⟩
    let g (type : String) : FeatureRecord := ⟨"g", type, .ofList [("x", "1")]⟩
    let d (type : String) : Document :=
      ⟨"site", [⟨"a", "1", "1"⟩, ⟨"b", "1", "2"⟩],
        [⟨"f", none, .find, .ofList [("x", "1")]⟩, ⟨"g", some type, .create, .ofList [("x", "1")]⟩]⟩
    let s (type : String) : MemoryStore := ⟨.ofList [("a", "1"), ("b", "3")], [g type, f], ["c"]⟩
    let result (action : FeatureAction) (fields : List String) : ApplyResult :=
      ⟨[⟨"a", "1", "1"⟩], [⟨"b", .expectationMismatch, "1", some "3"⟩], [⟨"f", .unchanged, []⟩, ⟨"g", action, fields⟩],
        none⟩
    (s "t").Runs (d "t") (result .unchanged []) (s "t") ∧ (result .unchanged []).isNoop
      ∧ (s "t").Runs (d "u") (result .created ["x"]) (s "u") ∧ ¬(result .created ["x"]).isNoop := by
  intro f g d s result
  have hrecords : DistinctIds (s "t").features := by decide
  have hsame : (s "t").Runs (d "t") (result .unchanged []) (s "t") := ⟨_, rfl, rfl, rfl⟩
  have hmoved : (s "t").Runs (d "u") (result .created ["x"]) (s "u") := ⟨_, rfl, rfl, rfl⟩
  refine ⟨hsame, (isNoop_iff_unchanged hrecords ⟨rfl, rfl⟩ hsame).2 rfl, hmoved, fun h => ?_⟩
  have hunmoved := (isNoop_iff_unchanged hrecords ⟨rfl, rfl⟩ hmoved).1 h
  exact absurd hunmoved (by decide)

namespace MemoryStore

variable {s s' : MemoryStore} {d : Document} {result : ApplyResult}

/-! ## The same document again -/

theorem settledIn_written (hd : d.Valid) : d.SettledIn (s.written d s).params (s.written d s).features where
  params _ hc hdue := ((dueIn_written_iff hd hc).1 hdue).2
  features _ hc := not_altersIn_written hd hc

theorem admits_written (hd : d.Valid) (h : s.Admits d) : (s.written d s).Admits d where
  params c hc hdue := h.params c hc ((dueIn_written_iff hd hc).1 hdue).1
  features c hc halters := by simp [not_altersIn_written hd hc] at halters

/-- Only what was left as it was is applied again. -/
theorem appliedIn_written (hd : d.Valid) :
    d.appliedIn (s.written d s).params = (d.appliedIn s.params).filter fun a => a.old = a.new := by
  rw [Document.appliedIn_eq, Document.appliedIn_eq, List.filter_map, List.filter_filter]
  refine congrArg _ (List.filter_congr fun c hc => ?_)
  rw [Bool.eq_iff_iff, dueIn_written_iff hd hc, and_comm, Function.comp_apply, Bool.and_eq_true, decide_eq_true_iff,
    eq_comm]

/-- What was changed is skipped, with the value that it was changed to. -/
theorem skipped_of_changed (hd : d.Valid) {a : AppliedChange} (ha : a ∈ d.appliedIn s.params) (hchanged : a.old ≠ a.new) :
    ⟨a.key, .expectationMismatch, a.old, some a.new⟩ ∈ d.skippedIn (s.written d s).params := by
  rw [Document.appliedIn_eq] at ha
  obtain ⟨c, hmem, rfl⟩ := List.mem_map.1 ha
  obtain ⟨hc, hdue⟩ := List.mem_filter.1 hmem
  rw [Document.skippedIn_eq, List.mem_map]
  refine ⟨c, ?_, by rw [get?_written hd hc, if_pos hdue]; rfl⟩
  rw [List.mem_filter, Bool.not_eq_true', ← Bool.not_eq_true, dueIn_written_iff hd hc]
  exact ⟨hc, fun h => hchanged h.2.symm⟩

/-- What was skipped is skipped in the same way. -/
theorem skipped_of_skipped (hd : d.Valid) {k : SkippedChange} (hk : k ∈ d.skippedIn s.params) :
    k ∈ d.skippedIn (s.written d s).params := by
  rw [Document.skippedIn_eq, List.mem_map] at hk ⊢
  obtain ⟨c, hmem, rfl⟩ := hk
  obtain ⟨hc, hundue⟩ := List.mem_filter.1 hmem
  rw [Bool.not_eq_true', ← Bool.not_eq_true] at hundue
  refine ⟨c, ?_, by rw [get?_written hd hc, if_neg hundue]⟩
  rw [List.mem_filter, Bool.not_eq_true', ← Bool.not_eq_true, dueIn_written_iff hd hc]
  exact ⟨hc, fun h => hundue h.1⟩

theorem outcomesIn_written (hd : d.Valid) :
    d.features.map (·.outcomeIn (s.written d s).features) = d.features.map fun c => ⟨c.id, .unchanged, []⟩ :=
  List.map_congr_left fun c hc => by
    rw [FeatureChange.outcomeIn, not_altersIn_written hd hc]
    rfl

end MemoryStore

/-! ## What the first run left -/

/-- The document with the parameters that were applied, each expected to have its new value. -/
def Document.confirming (d : Document) (result : ApplyResult) : Document :=
  { d with params := (d.params.filter (·.key ∈ result.appliedKeys)).map fun c => { c with expected := c.update } }

theorem Document.Valid.confirming {d : Document} (hd : d.Valid) (result : ApplyResult) :
    (d.confirming result).Valid := by
  obtain ⟨hcomplete, hnodup⟩ := checkParams_eq_ok_iff.1 hd.1
  refine ⟨checkParams_eq_ok_iff.2 ⟨?_, ?_⟩, hd.2⟩
  · rw [Document.confirming, List.forall_mem_map]
    intro c hc
    have h := hcomplete c (List.mem_of_mem_filter hc)
    exact ⟨h.key, h.update, h.update⟩
  · rw [Document.confirming, List.map_map]
    exact hnodup.sublist (List.filter_sublist.map _)

/-- The parameters that were applied are those that were due. -/
theorem Document.Valid.params_confirming {d : Document} (hd : d.Valid) (params : TextMap)
    (records : List FeatureRecord) :
    (d.confirming (d.resultIn params records)).params
      = (d.params.filter (·.dueIn params)).map fun c => { c with expected := c.update } := by
  have hkeys : (d.resultIn params records).appliedKeys = (d.params.filter (·.dueIn params)).map (·.key) :=
    d.keys_appliedIn params
  rw [Document.confirming, hkeys]
  refine congrArg _ (List.filter_congr fun c hc => ?_)
  rw [Bool.eq_iff_iff, decide_eq_true_iff, List.mem_map]
  constructor
  · rintro ⟨x, hx, hkey⟩
    obtain ⟨hmem, hdue⟩ := List.mem_filter.1 hx
    obtain rfl : x = c := List.inj_on_of_nodup_map hd.keys_nodup hmem hc hkey
    exact hdue
  · exact fun hdue => ⟨c, List.mem_filter.2 ⟨hc, hdue⟩, rfl⟩

namespace MemoryStore

variable {s : MemoryStore} {d : Document}

/-- All that is kept is due, as it has its new value, and every kept key could be written to. -/
theorem confirming_due (hd : d.Valid) {c : ParamChange}
    (hc : c ∈ (d.confirming (d.resultIn s.params s.features)).params) :
    c.dueIn (s.written d s).params ∧ c.update = c.expected ∧ (s.Admits d → c.key ∉ s.locked) := by
  rw [hd.params_confirming] at hc
  obtain ⟨x, hx, rfl⟩ := List.mem_map.1 hc
  obtain ⟨hmem, hdue⟩ := List.mem_filter.1 hx
  have hvalue := get?_written (s := s) hd hmem
  rw [if_pos hdue] at hvalue
  exact ⟨beq_iff_eq.2 hvalue, rfl, fun h => h.params x hmem hdue⟩

theorem confirming_settledIn (hd : d.Valid) :
    (d.confirming (d.resultIn s.params s.features)).SettledIn (s.written d s).params (s.written d s).features where
  params _ hc _ := (confirming_due hd hc).2.1
  features _ hc := not_altersIn_written hd hc

theorem admits_confirming (hd : d.Valid) (h : s.Admits d) :
    (s.written d s).Admits (d.confirming (d.resultIn s.params s.features)) where
  params _ hc _ := (confirming_due hd hc).2.2 h
  features c hc halters := by simp [not_altersIn_written hd (c := c) hc] at halters

/-- All that is kept is applied again. -/
theorem appliedIn_confirming (hd : d.Valid) :
    (d.confirming (d.resultIn s.params s.features)).appliedIn (s.written d s).params
      = (d.appliedIn s.params).map fun a => ⟨a.key, a.new, a.new⟩ := by
  rw [Document.appliedIn_eq, List.filter_eq_self.2 fun c hc => (confirming_due hd hc).1, hd.params_confirming,
    Document.appliedIn_eq, List.map_map, List.map_map]
  rfl

theorem skippedIn_confirming (hd : d.Valid) :
    (d.confirming (d.resultIn s.params s.features)).skippedIn (s.written d s).params = [] := by
  rw [Document.skippedIn_eq, List.map_eq_nil_iff, List.filter_eq_nil_iff]
  intro c hc
  simp [(confirming_due hd hc).1]

end MemoryStore

/-! ## Running again -/

/-- **A second run has no effect.** After a valid document was run on a store in memory with distinct ids, whatever is
    locked there, the same document runs again and leaves the store as it is: what it had changed it skips now, since
    the new value is not the expected one, what it had skipped it skips again, what it had set to the value it had it
    sets once more, and no feature is changed. So does the document that is left when only the applied parameters are
    kept and expected to have their new values, and it applies all of them. -/
theorem runs_again {s s' : MemoryStore} {d : Document} {result : ApplyResult} (hrecords : DistinctIds s.features)
    (hd : d.Valid) (hrun : s.Runs d result s') :
    (∃ again, s'.Runs d again s' ∧ again.isNoop
      ∧ again.applied = result.applied.filter (fun a => a.old = a.new)
      ∧ (∀ a ∈ result.applied, a.old ≠ a.new → ⟨a.key, .expectationMismatch, a.old, some a.new⟩ ∈ again.skipped)
      ∧ (∀ k ∈ result.skipped, k ∈ again.skipped)
      ∧ again.features = d.features.map fun c => ⟨c.id, .unchanged, []⟩)
    ∧ (d.confirming result).Valid
    ∧ ∃ again, s'.Runs (d.confirming result) again s' ∧ again.isNoop
      ∧ again.applied = result.applied.map (fun a => ⟨a.key, a.new, a.new⟩)
      ∧ again.skipped = []
      ∧ again.features = d.features.map fun c => ⟨c.id, .unchanged, []⟩ := by
  obtain ⟨hlands, hadmits, rfl, rfl⟩ := (MemoryStore.runs_iff hrecords hd).1 hrun
  have hafter : DistinctIds (s.written d s).features := hrecords.foldl_replaceOrAppend (d.written s.features)
  have hlandsAfter := MemoryStore.landsIn_written hrecords hd hlands
  have hconfirming := hd.confirming (d.resultIn s.params s.features)
  refine ⟨?_, hconfirming, ?_⟩
  · obtain ⟨hruns, hnoop⟩ := MemoryStore.runs_of_settled hafter hd hlandsAfter
      (MemoryStore.admits_written hd hadmits) (MemoryStore.settledIn_written hd)
    exact ⟨_, hruns, hnoop, MemoryStore.appliedIn_written hd, fun _ => MemoryStore.skipped_of_changed hd,
      fun _ => MemoryStore.skipped_of_skipped hd, MemoryStore.outcomesIn_written hd⟩
  · obtain ⟨hruns, hnoop⟩ := MemoryStore.runs_of_settled hafter hconfirming hlandsAfter
      (MemoryStore.admits_confirming hd hadmits) (MemoryStore.confirming_settledIn hd)
    exact ⟨_, hruns, hnoop, MemoryStore.appliedIn_confirming hd, MemoryStore.skippedIn_confirming hd,
      MemoryStore.outcomesIn_written hd⟩

/-- A run that changes one parameter, confirms another one and skips a locked one, and has a record to find, one to
    replace and one to insert. -/
theorem runs_again_mixed :
    let d : Document :=
      ⟨"site", [⟨"a", "1", "2"⟩, ⟨"b", "1", "1"⟩, ⟨"c", "1", "2"⟩],
        [⟨"f", some "t", .find, .ofList [("x", "2")]⟩, ⟨"g", some "u", .create, .ofList [("y", "1")]⟩,
          ⟨"h", some "u", .create, .empty⟩]⟩
    let g : FeatureRecord := ⟨"g", "t", .ofList [("x", "1")]⟩
    let f (value : String) : FeatureRecord := ⟨"f", "t", .ofList [("x", value), ("y", "1")]⟩
    let s : MemoryStore := ⟨.ofList [("a", "1"), ("b", "1"), ("c", "3")], [g, f "1"], ["c"]⟩
    let s' : MemoryStore :=
      ⟨.ofList [("a", "2"), ("b", "1"), ("c", "3")],
        [⟨"g", "u", .ofList [("y", "1")]⟩, f "2", ⟨"h", "u", .empty⟩], ["c"]⟩
    let result : ApplyResult :=
      ⟨[⟨"a", "1", "2"⟩, ⟨"b", "1", "1"⟩], [⟨"c", .expectationMismatch, "1", some "3"⟩],
        [⟨"f", .updated, ["x"]⟩, ⟨"g", .created, ["y"]⟩, ⟨"h", .created, []⟩], none⟩
    s.Runs d result s' ∧ ∃ again, s'.Runs d again s' ∧ again.applied = [⟨"b", "1", "1"⟩]
      ∧ ⟨"a", .expectationMismatch, "1", some "2"⟩ ∈ again.skipped := by
  intro d g f s s' result
  have hrecords : DistinctIds s.features := by decide
  have hvalid : d.Valid := ⟨rfl, rfl⟩
  have hrun : s.Runs d result s' := ⟨_, rfl, rfl, rfl⟩
  obtain ⟨⟨again, hruns, -, happlied, hchanged, -⟩, -⟩ := runs_again hrecords hvalid hrun
  exact ⟨hrun, again, hruns, happlied, hchanged ⟨"a", "1", "2"⟩ List.mem_cons_self (by decide)⟩

end GuardedPatch
