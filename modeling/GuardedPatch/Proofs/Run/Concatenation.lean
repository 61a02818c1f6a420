import GuardedPatch.Proofs.Run.Memory

set_option autoImplicit false

/-! # One document or two

A document that has the entries of two others, one after the other, writes all its parameters before all its features
and is measured against the store at the start. When the two run separately, the features of the first are written
before the parameters of the second, and the second is measured against the store that the first has left. This makes
no difference if they have no key and no id in common: a document only looks at the values of its own keys and at the
records of its own ids (`Document.SeesAlike`), and what the other one writes is elsewhere. So a document runs exactly if
its two parts run one after the other, and comes to the same store and the same result (`runs_concatenated_iff`). -/

namespace GuardedPatch

/-! ## What a document looks at -/

/-- In both stores a document finds the same values for its keys and the same records for its ids, and the same names
    are locked. -/
structure Document.SeesAlike (d : Document) (s s' : MemoryStore) : Prop where
  params : ∀ c ∈ d.params, s.params.get? c.key = s'.params.get? c.key
  features : ∀ c ∈ d.features, recordAt? s.features c.id = recordAt? s'.features c.id
  locked : s.locked = s'.locked

namespace Document.SeesAlike

variable {d : Document} {s s' : MemoryStore}

theorem dueIn (h : d.SeesAlike s s') {c : ParamChange} (hc : c ∈ d.params) : c.dueIn s.params = c.dueIn s'.params := by
  rw [ParamChange.dueIn, ParamChange.dueIn, h.params c hc]

theorem altersIn (h : d.SeesAlike s s') {c : FeatureChange} (hc : c ∈ d.features) :
    c.altersIn s.features = c.altersIn s'.features := by
  rw [FeatureChange.altersIn, FeatureChange.altersIn, h.features c hc]

theorem outcomeIn (h : d.SeesAlike s s') {c : FeatureChange} (hc : c ∈ d.features) :
    c.outcomeIn s.features = c.outcomeIn s'.features := by
  rw [FeatureChange.outcomeIn, FeatureChange.outcomeIn, h.altersIn hc, h.features c hc]

theorem dueEntries (h : d.SeesAlike s s') : d.dueEntries s.params = d.dueEntries s'.params := by
  rw [Document.dueEntries, Document.dueEntries, List.filter_congr fun c hc => h.dueIn hc]

theorem written (h : d.SeesAlike s s') : d.written s.features = d.written s'.features := by
  rw [Document.written, Document.written, List.filter_congr fun c hc => h.altersIn hc]
  exact List.map_congr_left fun c hc => by rw [h.features c (List.mem_filter.1 hc).1]

theorem appliedIn (h : d.SeesAlike s s') : d.appliedIn s.params = d.appliedIn s'.params := by
  rw [appliedIn_eq, appliedIn_eq, List.filter_congr fun c hc => h.dueIn hc]

theorem skippedIn (h : d.SeesAlike s s') : d.skippedIn s.params = d.skippedIn s'.params :=
  List.filterMap_congr fun c hc => by rw [h.params c hc]

/-- **A document comes to the same result on what it sees alike.** -/
theorem resultIn (h : d.SeesAlike s s') : d.resultIn s.params s.features = d.resultIn s'.params s'.features := by
  rw [Document.resultIn, Document.resultIn, h.appliedIn, h.skippedIn,
    List.map_congr_left fun c hc => h.outcomeIn hc]

theorem symm (h : d.SeesAlike s s') : d.SeesAlike s' s where
  params c hc := (h.params c hc).symm
  features c hc := (h.features c hc).symm
  locked := h.locked.symm

theorem admits (h : d.SeesAlike s s') (hadmits : s.Admits d) : s'.Admits d where
  params c hc hdue := h.locked ▸ hadmits.params c hc (h.dueIn hc ▸ hdue)
  features c hc halters := h.locked ▸ hadmits.features c hc (h.altersIn hc ▸ halters)

theorem admits_iff (h : d.SeesAlike s s') : s.Admits d ↔ s'.Admits d :=
  ⟨h.admits, h.symm.admits⟩

theorem landsIn_iff (h : d.SeesAlike s s') (hs : DistinctIds s.features) (hs' : DistinctIds s'.features) :
    d.LandsIn s.features ↔ d.LandsIn s'.features := by
  refine forall₂_congr fun c hc => ?_
  have hfind : s.features.find? (·.id == c.id) = s'.features.find? (·.id == c.id) := h.features c hc
  rw [FeatureChange.target?, FeatureChange.target?, hfind, hs.find?_selects, hs'.find?_selects, h.features c hc]

end Document.SeesAlike

/-! ## What a document leaves alone -/

namespace MemoryStore

variable {s : MemoryStore} {d : Document}

/-- A parameter that a document does not name keeps its value. -/
theorem get?_written_of_not_mem {key : String} (h : key ∉ d.params.map (·.key)) :
    (s.written d s).params.get? key = s.params.get? key := by
  refine TextMap.get?_insertAll_of_not_mem (fun hdue => h ?_) s.params
  rw [Document.dueEntries, List.map_map] at hdue
  exact (List.filter_sublist.map ParamChange.key).subset hdue

/-- So does the record of an id that it does not name. -/
theorem recordAt?_written_of_not_mem (hd : d.Valid) {id : String} (h : id ∉ d.features.map (·.id)) :
    recordAt? (s.written d s).features id = recordAt? s.features id := by
  rw [recordAt?_written hd, Document.overwrite, find?_eq_none_of_not_mem h]

end MemoryStore

/-- **A document sees a store as it was before one that names none of its keys and ids was run.** -/
theorem Document.seesAlike_written {s : MemoryStore} {d₁ d₂ : Document} (h₁ : d₁.Valid)
    (hkeys : (d₁.params.map (·.key)).Disjoint (d₂.params.map (·.key)))
    (hids : (d₁.features.map (·.id)).Disjoint (d₂.features.map (·.id))) : d₂.SeesAlike s (s.written d₁ s) where
  params _ hc := (MemoryStore.get?_written_of_not_mem fun h => hkeys h (List.mem_map_of_mem hc)).symm
  features _ hc := (MemoryStore.recordAt?_written_of_not_mem h₁ fun h => hids h (List.mem_map_of_mem hc)).symm
  locked := rfl

/-! ## Concatenations -/

/-- A document has the entries of two others, one after the other. -/
structure Document.Concatenates (d d₁ d₂ : Document) : Prop where
  params : d.params = d₁.params ++ d₂.params
  features : d.features = d₁.features ++ d₂.features

namespace Document.Concatenates

variable {d d₁ d₂ : Document}

theorem valid (h : d.Concatenates d₁ d₂) (h₁ : d₁.Valid) (h₂ : d₂.Valid)
    (hkeys : (d₁.params.map (·.key)).Disjoint (d₂.params.map (·.key)))
    (hids : (d₁.features.map (·.id)).Disjoint (d₂.features.map (·.id))) : d.Valid := by
  obtain ⟨⟨hparams₁, hkeys₁⟩, hfeatures₁, hids₁⟩ := valid_iff.1 h₁
  obtain ⟨⟨hparams₂, hkeys₂⟩, hfeatures₂, hids₂⟩ := valid_iff.1 h₂
  rw [valid_iff, h.params, h.features, List.forall_mem_append, List.forall_mem_append, List.map_append,
    List.map_append]
  exact ⟨⟨⟨hparams₁, hparams₂⟩, hkeys₁.append hkeys₂ hkeys⟩, ⟨hfeatures₁, hfeatures₂⟩, hids₁.append hids₂ hids⟩

theorem landsIn_iff (h : d.Concatenates d₁ d₂) (records : List FeatureRecord) :
    d.LandsIn records ↔ d₁.LandsIn records ∧ d₂.LandsIn records := by
  rw [LandsIn, h.features, List.forall_mem_append]
  rfl

theorem admits_iff (h : d.Concatenates d₁ d₂) (s : MemoryStore) : s.Admits d ↔ s.Admits d₁ ∧ s.Admits d₂ := by
  constructor
  · intro hadmits
    have hparams := h.params ▸ hadmits.params
    have hfeatures := h.features ▸ hadmits.features
    rw [List.forall_mem_append] at hparams hfeatures
    exact ⟨⟨hparams.1, hfeatures.1⟩, ⟨hparams.2, hfeatures.2⟩⟩
  · rintro ⟨hadmits₁, hadmits₂⟩
    refine ⟨?_, ?_⟩
    · rw [h.params, List.forall_mem_append]
      exact ⟨hadmits₁.params, hadmits₂.params⟩
    · rw [h.features, List.forall_mem_append]
      exact ⟨hadmits₁.features, hadmits₂.features⟩

/-- What is written is what the one writes, and then what the other one does. -/
theorem written (h : d.Concatenates d₁ d₂) (s read : MemoryStore) :
    s.written d read = (s.written d₁ read).written d₂ read := by
  have hentries : d.dueEntries read.params = d₁.dueEntries read.params ++ d₂.dueEntries read.params := by
    rw [dueEntries, h.params, List.filter_append, List.map_append]
    rfl
  have hrecords : d.written read.features = d₁.written read.features ++ d₂.written read.features := by
    rw [Document.written, h.features, List.filter_append, List.map_append]
    rfl
  rw [MemoryStore.written, hentries, hrecords, TextMap.insertAll_append, List.foldl_append]
  rfl

theorem resultIn (h : d.Concatenates d₁ d₂) (params : TextMap) (records : List FeatureRecord) :
    d.resultIn params records =
      let r₁ := d₁.resultIn params records
      let r₂ := d₂.resultIn params records
      ⟨r₁.applied ++ r₂.applied, r₁.skipped ++ r₂.skipped, r₁.features ++ r₂.features, none⟩ := by
  rw [Document.resultIn, appliedIn, skippedIn, h.params, h.features, List.filterMap_append, List.filterMap_append,
    List.map_append]
  rfl

end Document.Concatenates

/-- **Splitting a document changes nothing.** A document with the entries of two valid ones that have no key and no id
    in common runs on a store in memory with distinct ids, whatever is locked there, exactly if the first of the two
    runs there and the second one on the store that it leaves. The store afterwards is the same, the order of its
    records included, and the lists of the result are those of the two results, one after the other. -/
theorem runs_concatenated_iff {s s' : MemoryStore} {d d₁ d₂ : Document} {result : ApplyResult}
    (hrecords : DistinctIds s.features) (h₁ : d₁.Valid) (h₂ : d₂.Valid)
    (hkeys : (d₁.params.map (·.key)).Disjoint (d₂.params.map (·.key)))
    (hids : (d₁.features.map (·.id)).Disjoint (d₂.features.map (·.id))) (hd : d.Concatenates d₁ d₂) :
    s.Runs d result s' ↔ ∃ between r₁ r₂, s.Runs d₁ r₁ between ∧ between.Runs d₂ r₂ s'
      ∧ result = ⟨r₁.applied ++ r₂.applied, r₁.skipped ++ r₂.skipped, r₁.features ++ r₂.features, none⟩ := by
  have hbetween : DistinctIds (s.written d₁ s).features := hrecords.foldl_replaceOrAppend (d₁.written s.features)
  have hsees := Document.seesAlike_written (s := s) h₁ hkeys hids
  -- the second document writes the same, whichever of the two stores it is measured against
  have hwritten : s.written d s = (s.written d₁ s).written d₂ (s.written d₁ s) := by
    rw [hd.written, MemoryStore.written, hsees.dueEntries, hsees.written]
    rfl
  rw [MemoryStore.runs_iff hrecords (hd.valid h₁ h₂ hkeys hids), hd.landsIn_iff, hd.admits_iff, hd.resultIn, hwritten,
    hsees.landsIn_iff hrecords hbetween, hsees.admits_iff, hsees.resultIn]
  constructor
  · rintro ⟨⟨hlands₁, hlands₂⟩, ⟨hadmits₁, hadmits₂⟩, rfl, rfl⟩
    exact ⟨s.written d₁ s, _, _, (MemoryStore.runs_iff hrecords h₁).2 ⟨hlands₁, hadmits₁, rfl, rfl⟩,
      (MemoryStore.runs_iff hbetween h₂).2 ⟨hlands₂, hadmits₂, rfl, rfl⟩, rfl⟩
  · rintro ⟨between, r₁, r₂, hrun₁, hrun₂, rfl⟩
    obtain ⟨hlands₁, hadmits₁, rfl, rfl⟩ := (MemoryStore.runs_iff hrecords h₁).1 hrun₁
    obtain ⟨hlands₂, hadmits₂, rfl, rfl⟩ := (MemoryStore.runs_iff hbetween h₂).1 hrun₂
    exact ⟨⟨hlands₁, hlands₂⟩, ⟨hadmits₁, hadmits₂⟩, rfl, rfl⟩

/-- The first part changes a parameter, updates a record and inserts one; the second part changes a parameter, skips a
    locked one, replaces a record and inserts another one. -/
theorem runs_concatenated_interleaved :
    let f (x : String) : FeatureRecord := ⟨"f", "t", .ofList [("x", x), ("y", "1")]⟩
    let d₁ : Document :=
      ⟨"site", [⟨"a", "1", "2"⟩], [⟨"h", some "u", .create, .empty⟩, ⟨"f", some "t", .find, .ofList [("x", "2")]⟩]⟩
    let d₂ : Document :=
      ⟨"other", [⟨"c", "1", "2"⟩, ⟨"b", "1", "2"⟩],
        [⟨"i", some "u", .create, .empty⟩, ⟨"g", some "u", .create, .ofList [("x", "1")]⟩]⟩
    let d : Document := ⟨"site", d₁.params ++ d₂.params, d₁.features ++ d₂.features⟩
    let s : MemoryStore := ⟨.ofList [("a", "1"), ("b", "1"), ("c", "3")], [⟨"g", "t", .empty⟩, f "1"], ["c"]⟩
    let s' : MemoryStore :=
      ⟨.ofList [("a", "2"), ("b", "2"), ("c", "3")],
        [⟨"g", "u", .ofList [("x", "1")]⟩, f "2", ⟨"h", "u", .empty⟩, ⟨"i", "u", .empty⟩], ["c"]⟩
    let result : ApplyResult :=
      ⟨[⟨"a", "1", "2"⟩, ⟨"b", "1", "2"⟩], [⟨"c", .expectationMismatch, "1", some "3"⟩],
        [⟨"h", .created, []⟩, ⟨"f", .updated, ["x"]⟩, ⟨"i", .created, []⟩, ⟨"g", .created, ["x"]⟩], none⟩
    s.Runs d result s' ∧ ∃ between r₁ r₂, s.Runs d₁ r₁ between ∧ between.Runs d₂ r₂ s'
      ∧ result = ⟨r₁.applied ++ r₂.applied, r₁.skipped ++ r₂.skipped, r₁.features ++ r₂.features, none⟩ := by
  intro f d₁ d₂ d s s' result
  have hrun : s.Runs d result s' := ⟨_, rfl, rfl, rfl⟩
  have hrecords : DistinctIds s.features := by decide
  have hkeys : ∀ key ∈ d₁.params.map (·.key), key ∉ d₂.params.map (·.key) := by decide
  have hids : ∀ id ∈ d₁.features.map (·.id), id ∉ d₂.features.map (·.id) := by decide
  exact ⟨hrun, (runs_concatenated_iff hrecords ⟨rfl, rfl⟩ ⟨rfl, rfl⟩ hkeys hids ⟨rfl, rfl⟩).1 hrun⟩

end GuardedPatch
