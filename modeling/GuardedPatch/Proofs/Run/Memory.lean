import GuardedPatch.Proofs.Run.Reference

set_option autoImplicit false

/-! # Runs in memory

A store in memory answers every read, so that a document is validated there exactly if each of its changes lands on a
record (`MemoryStore.validates_iff`). What is written afterwards depends on the store that was read, whatever has
become of the one that is written to (`MemoryStore.apply_of_ok`). If they are the same one, nothing but a lock can be
in the way, and what a run comes to can be told from the parameters, the records and the locks alone
(`MemoryStore.runs_iff`). -/

namespace GuardedPatch

/-- Every change of a document lands somewhere among these records. -/
def Document.LandsIn (d : Document) (records : List FeatureRecord) : Prop :=
  ∀ c ∈ d.features, (c.target? records).isSome

theorem FeatureChange.target?_eq_landing {c : FeatureChange} {records : List FeatureRecord}
    (h : (c.target? records).isSome) : c.target? records = some (c.landing records) := by
  obtain ⟨target, htarget⟩ := Option.isSome_iff_exists.1 h
  rw [landing, htarget, Option.getD_some]

/-- What is under an id once a document that has read one record there is applied to another one. -/
def Document.overwrite (d : Document) (id : String) (read current : Option FeatureRecord) : Option FeatureRecord :=
  match d.features.find? (·.id == id) with
  | some c => if read = some (c.wanted read) then current else some (c.wanted read)
  | none => current

namespace MemoryStore

variable {s read : MemoryStore} {d : Document} {r : Report} {result : ApplyResult}

/-! ## Validating -/

theorem answer_readParams (cs : List ParamChange) (s : MemoryStore) :
    (readParams cs s).answer = .ok (cs.map fun c => ⟨c.key, c.verdict (s.params.get? c.key)⟩) := by
  induction cs with
  | nil => rfl
  | cons c rest ih =>
      show (readParams rest s).answer.map _ = _
      rw [ih]
      rfl

/-- **Validating fails only for want of a record.** -/
theorem validates_iff : (∃ r, (validate d s).answer = .ok r) ↔ d.LandsIn s.features := by
  constructor
  · rintro ⟨r, hreport⟩ c hc
    rw [s.reads.lands hreport c hc, Option.isSome_some]
  · intro hlands
    have hchecks := checkTargets_eq_ok_iff.2 ⟨fun c hc => FeatureChange.target?_eq_landing (hlands c hc), rfl⟩
    have hfeatures : (readFeatures d.features s).answer
        = .ok (d.features.map fun c => ⟨c.id, c.landing s.features⟩) := by
      rw [readFeatures]
      split_ifs with hempty
      · rw [List.isEmpty_iff.1 hempty]
        rfl
      · exact hchecks
    have hstore : (readParams d.params s).store = s := readParams_invariant s.reads.get_invariant d.params rfl
    refine ⟨⟨d.params.map fun c => ⟨c.key, c.verdict (s.params.get? c.key)⟩,
      d.features.map fun c => ⟨c.id, c.landing s.features⟩⟩, ?_⟩
    rw [validate, (andThen_of_ok (answer_readParams d.params s)).1, hstore]
    exact congrArg (Except.map _) hfeatures

/-! ## Applying -/

/-- A store with what a document writes by a report on another store. -/
def written (s : MemoryStore) (d : Document) (read : MemoryStore) : MemoryStore where
  params := s.params.insertAll (d.dueEntries read.params)
  features := (d.written read.features).foldl (fun rs w => replaceOrAppend w rs) s.features
  locked := s.locked

/-- What is under an id after a document was applied by a report on another store. -/
theorem recordAt?_written (hd : d.Valid) (s seen : MemoryStore) (id : String) :
    recordAt? (s.written d seen).features id
      = d.overwrite id (recordAt? seen.features id) (recordAt? s.features id) := by
  rw [written, recordAt?_foldl_replaceOrAppend (hd.written_distinct seen.features), Document.written,
    GuardedPatch.recordAt?_written d.features seen.features hd.ids_nodup, Document.overwrite]
  cases hfind : d.features.find? (·.id == id) with
  | none => rfl
  | some c =>
      have hid : c.id = id := by simpa using List.find?_some hfind
      by_cases hsame : recordAt? seen.features id = some (c.wanted (recordAt? seen.features id))
      · have hunaltered : c.altersIn seen.features = false := by
          rwa [FeatureChange.altersIn, hid, bne_eq_false_iff_eq]
        simp only [Option.filter, hunaltered, if_pos hsame, Bool.false_eq_true, if_false, Option.map_none,
          Option.none_or]
      · have halters : c.altersIn seen.features = true := by rwa [FeatureChange.altersIn, hid, bne_iff_ne]
        simp only [Option.filter, halters, if_neg hsame, if_true, Option.map_some, Option.some_or]

/-- **What is written goes by the store that was read**, and so does the result. -/
theorem apply_of_ok (hread : DistinctIds read.features) (hreport : (validate d read).answer = .ok r)
    (hok : (apply d r s).answer = .ok result) :
    result = d.resultIn read.params read.features ∧ (apply d r s).store = s.written d read := by
  have hagenda := agenda_of_validated read.reads hread hreport
  obtain ⟨hrefusal, hresult⟩ := (apply_eq_ok_iff hagenda).1 hok
  have hprogress := contents_progress (d.stepsIn read.params read.features) s
  rw [done_of_refusal_none hrefusal, d.edits_stepsIn, List.foldl_append, foldl_run_setParam,
    foldl_run_putRecord] at hprogress
  have hlocked := locked_progress (d.stepsIn read.params read.features) s
  refine ⟨hresult.trans (d.result_stepsIn _ _), ?_⟩
  rw [apply_store_of_ok hagenda hrefusal]
  generalize (progress (d.stepsIn read.params read.features) s).store = s' at hprogress hlocked
  obtain ⟨params, features, locked⟩ := s'
  obtain ⟨hparams, hfeatures⟩ := Contents.mk.inj hprogress
  rw [written, MemoryStore.mk.injEq]
  exact ⟨hparams, hfeatures, hlocked⟩

/-- In memory, a unit of work is nothing but applying. -/
theorem applyBracketed_eq (d : Document) (r : Report) (s : MemoryStore) :
    (PatchRun.applyBracketed d r s).answer = (apply d r s).answer
      ∧ (PatchRun.applyBracketed d r s).store = (apply d r s).store := by
  have hbegin : ConfigStore.beginRun s = (.ok (), s) := rfl
  have hend : ∀ commit (s' : MemoryStore), ConfigStore.endRun commit s' = (.ok (), s') := fun _ _ => rfl
  rw [PatchRun.applyBracketed, hbegin]
  cases hanswer : (apply d r s).answer with
  | ok result => simp [hanswer, hend]
  | error e => simp [hanswer, hend]

/-- None of the names that a document writes to is locked. -/
structure Admits (s : MemoryStore) (d : Document) : Prop where
  params : ∀ c ∈ d.params, c.dueIn s.params → c.key ∉ s.locked
  features : ∀ c ∈ d.features, c.altersIn s.features → c.id ∉ s.locked

/-- Applying by a report on the same store is stopped by nothing but a lock. -/
theorem apply_ok_iff (hrecords : DistinctIds s.features) (hd : d.Valid) (hreport : (validate d s).answer = .ok r) :
    (∃ result, (apply d r s).answer = .ok result) ↔ s.Admits d := by
  have hagenda := agenda_of_validated s.reads hrecords hreport
  simp only [apply_eq_ok_iff hagenda, exists_and_left, exists_eq, and_true]
  rw [refusal_none_iff (hd.slots_nodup s.params s.features) (d.stepsIn_fit s.contents), ← List.forall_mem_filterMap,
    d.edits_stepsIn, List.forall_mem_append, dueEntries_unlocked, written_unlocked]
  exact ⟨fun ⟨hparams, hfeatures⟩ => ⟨hparams, hfeatures⟩, fun h => ⟨h.params, h.features⟩⟩

/-- **A run that is stopped leaves the store as it was.** -/
theorem store_of_apply_error (hrecords : DistinctIds s.features) (hd : d.Valid)
    (hreport : (validate d s).answer = .ok r) {e : PatchError} (h : (apply d r s).answer = .error e) :
    (apply d r s).store = s := by
  have hagenda := agenda_of_validated s.reads hrecords hreport
  cases hrefusal : (progress (d.stepsIn s.params s.features) s).refusal with
  | none =>
      rw [(apply_eq_ok_iff hagenda).2 ⟨hrefusal, rfl⟩] at h
      cases h
  | some refusal =>
      have hback := replay_done (hd.slots_nodup s.params s.features) (d.stepsIn_fit s.contents)
      exact (apply_of_refusal hagenda hrefusal).2.trans (congrArg Prod.snd hback)

/-! ## Whole runs -/

/-- A document is validated and applied by the report on it, with this result and this store afterwards. -/
def Runs (s : MemoryStore) (d : Document) (result : ApplyResult) (s' : MemoryStore) : Prop :=
  ∃ report, (validate d s).answer = .ok report ∧ (apply d report (validate d s).store).answer = .ok result
    ∧ (apply d report (validate d s).store).store = s'

/-- **What a run comes to.** -/
theorem runs_iff (hrecords : DistinctIds s.features) (hd : d.Valid) {s' : MemoryStore} :
    s.Runs d result s' ↔
      d.LandsIn s.features ∧ s.Admits d ∧ result = d.resultIn s.params s.features ∧ s' = s.written d s := by
  rw [Runs, s.reads.validate_store d]
  constructor
  · rintro ⟨report, hreport, hok, rfl⟩
    obtain ⟨hresult, hstore⟩ := apply_of_ok hrecords hreport hok
    exact ⟨validates_iff.1 ⟨report, hreport⟩, (apply_ok_iff hrecords hd hreport).1 ⟨result, hok⟩, hresult, hstore⟩
  · rintro ⟨hlands, hadmits, rfl, rfl⟩
    obtain ⟨report, hreport⟩ := validates_iff.2 hlands
    obtain ⟨result, hok⟩ := (apply_ok_iff hrecords hd hreport).2 hadmits
    obtain ⟨rfl, hstore⟩ := apply_of_ok hrecords hreport hok
    exact ⟨report, hreport, hok, hstore⟩

end MemoryStore

end GuardedPatch
