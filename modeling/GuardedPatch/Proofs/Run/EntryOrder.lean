import GuardedPatch.Proofs.Run.Memory

set_option autoImplicit false

/-! # The order of entries

The entries of a document can be put in another order, parameters among themselves and features among themselves. Then
the same entries land somewhere and the same writes are intended, in another order; as no two of them are about one key
or one id, they come to the same values and the same records (`Document.Reorders.get?_written`,
`Document.Reorders.recordAt?_written`). Whether a run is stopped depends on the locks of the names that are written to,
whichever of them is met first, and a run that is stopped leaves no trace. So only the lists show in which order the
entries were: those of the result, and the listing, which has new records in the order in which they were created
(`entries_in_any_order`). -/

namespace GuardedPatch

/-- A document has the entries of another one in another order. -/
structure Document.Reorders (d' d : Document) : Prop where
  params : d'.params.Perm d.params
  features : d'.features.Perm d.features

/-- A result has the entries of another one in another order. -/
structure ApplyResult.Reorders (result' result : ApplyResult) : Prop where
  applied : result'.applied.Perm result.applied
  skipped : result'.skipped.Perm result.skipped
  features : result'.features.Perm result.features
  digest : result'.digest = result.digest

namespace Document.Reorders

variable {d d' : Document} {s : MemoryStore}

theorem valid (h : d'.Reorders d) (hd : d.Valid) : d'.Valid := by
  obtain ⟨⟨hparams, hkeys⟩, hfeatures, hids⟩ := valid_iff.1 hd
  exact valid_iff.2 ⟨⟨fun c hc => hparams c (h.params.mem_iff.1 hc), (h.params.map _).nodup_iff.2 hkeys⟩,
    fun c hc => hfeatures c (h.features.mem_iff.1 hc), (h.features.map _).nodup_iff.2 hids⟩

theorem landsIn_iff (h : d'.Reorders d) (records : List FeatureRecord) : d'.LandsIn records ↔ d.LandsIn records :=
  forall_congr' fun _ => imp_congr_left h.features.mem_iff

theorem symm (h : d'.Reorders d) : d.Reorders d' := ⟨h.params.symm, h.features.symm⟩

theorem admits (h : d'.Reorders d) (hadmits : s.Admits d) : s.Admits d' where
  params c hc := hadmits.params c (h.params.mem_iff.1 hc)
  features c hc := hadmits.features c (h.features.mem_iff.1 hc)

theorem admits_iff (h : d'.Reorders d) : s.Admits d' ↔ s.Admits d :=
  ⟨h.symm.admits, h.admits⟩

/-- **The values afterwards do not depend on the order of the entries.** -/
theorem params_written (h : d'.Reorders d) (hd : d.Valid) (s : MemoryStore) :
    (s.written d' s).params = (s.written d s).params := by
  have hdue : (d'.dueEntries s.params).Perm (d.dueEntries s.params) := (h.params.filter _).map _
  exact TextMap.insertAll_perm ((h.valid hd).dueEntries_nodup s.params) hdue s.params

/-- **Nor do the records under the ids.** -/
theorem recordAt?_written (h : d'.Reorders d) (hd : d.Valid) (s : MemoryStore) (id : String) :
    recordAt? (s.written d' s).features id = recordAt? (s.written d s).features id := by
  have hwritten : (d'.written s.features).Perm (d.written s.features) := (h.features.filter _).map _
  have hdistinct : DistinctIds (d'.written s.features) := (h.valid hd).written_distinct s.features
  rw [MemoryStore.written, MemoryStore.written, recordAt?_foldl_replaceOrAppend hdistinct,
    recordAt?_foldl_replaceOrAppend (hd.written_distinct s.features), hdistinct.recordAt?_perm hwritten]

/-- The listing has the same records. -/
theorem features_written (h : d'.Reorders d) (hd : d.Valid) (hrecords : DistinctIds s.features) :
    (s.written d' s).features.Perm (s.written d s).features := by
  refine DistinctIds.perm_of_recordAt? ?_ ?_ (h.recordAt?_written hd s)
  · exact hrecords.foldl_replaceOrAppend (d'.written s.features)
  · exact hrecords.foldl_replaceOrAppend (d.written s.features)

theorem resultIn (h : d'.Reorders d) (params : TextMap) (records : List FeatureRecord) :
    (d'.resultIn params records).Reorders (d.resultIn params records) where
  applied := h.params.filterMap _
  skipped := h.params.filterMap _
  features := h.features.map _
  digest := rfl

end Document.Reorders

/-- **Entries may come in any order.** For a valid document and one that has its entries in another order, on a store in
    memory with distinct ids, whatever is locked there: either both are validated or none, and by the reports that are
    made then either both are applied or none. If they are, the parameters are the same and each id has the same record,
    no other record is listed, and the results have the same entries; if they are not, each of them leaves the store as
    it was. -/
theorem entries_in_any_order {s : MemoryStore} {d d' : Document} (hrecords : DistinctIds s.features) (hd : d.Valid)
    (horder : d'.Reorders d) :
    ((∃ r', (validate d' s).answer = .ok r') ↔ ∃ r, (validate d s).answer = .ok r)
      ∧ ∀ r r', (validate d s).answer = .ok r → (validate d' s).answer = .ok r' →
        ((∃ result', (apply d' r' s).answer = .ok result') ↔ ∃ result, (apply d r s).answer = .ok result)
        ∧ (∀ result result', (apply d r s).answer = .ok result → (apply d' r' s).answer = .ok result' →
          (apply d' r' s).store.params = (apply d r s).store.params
            ∧ (∀ id, recordAt? (apply d' r' s).store.features id = recordAt? (apply d r s).store.features id)
            ∧ (apply d' r' s).store.features.Perm (apply d r s).store.features
            ∧ (apply d' r' s).store.locked = (apply d r s).store.locked
            ∧ result'.Reorders result)
        ∧ ((∃ e, (apply d r s).answer = .error e) →
          (apply d r s).store = s ∧ (apply d' r' s).store = s) := by
  have hd' : d'.Valid := horder.valid hd
  constructor
  · rw [MemoryStore.validates_iff, MemoryStore.validates_iff]
    exact horder.landsIn_iff s.features
  · intro r r' hreport hreport'
    have happlies : (∃ result', (apply d' r' s).answer = .ok result')
        ↔ ∃ result, (apply d r s).answer = .ok result := by
      rw [MemoryStore.apply_ok_iff hrecords hd' hreport', MemoryStore.apply_ok_iff hrecords hd hreport]
      exact horder.admits_iff
    refine ⟨happlies, fun result result' hok hok' => ?_, ?_⟩
    · obtain ⟨rfl, hstore⟩ := MemoryStore.apply_of_ok hrecords hreport hok
      obtain ⟨rfl, hstore'⟩ := MemoryStore.apply_of_ok hrecords hreport' hok'
      rw [hstore, hstore']
      exact ⟨horder.params_written hd s, horder.recordAt?_written hd s, horder.features_written hd hrecords, rfl,
        horder.resultIn s.params s.features⟩
    · rintro ⟨e, herror⟩
      refine ⟨MemoryStore.store_of_apply_error hrecords hd hreport herror, ?_⟩
      cases hanswer' : (apply d' r' s).answer with
      | error e' => exact MemoryStore.store_of_apply_error hrecords hd' hreport' hanswer'
      | ok result' =>
          -- then the other one would have been applied as well
          obtain ⟨result, hok⟩ := happlies.1 ⟨result', hanswer'⟩
          rw [herror] at hok
          cases hok

/-- Two records are created in either order, and are listed in that order; the same parameter is changed, and the same
    locked one is skipped. -/
theorem entries_in_any_order_created :
    let d : Document :=
      ⟨"site", [⟨"a", "1", "2"⟩, ⟨"b", "1", "2"⟩],
        [⟨"g", some "u", .create, .empty⟩, ⟨"f", some "t", .find, .ofList [("x", "2")]⟩,
          ⟨"h", some "u", .create, .ofList [("y", "1")]⟩]⟩
    let d' : Document :=
      ⟨"site", [⟨"b", "1", "2"⟩, ⟨"a", "1", "2"⟩],
        [⟨"h", some "u", .create, .ofList [("y", "1")]⟩, ⟨"g", some "u", .create, .empty⟩,
          ⟨"f", some "t", .find, .ofList [("x", "2")]⟩]⟩
    let s : MemoryStore := ⟨.ofList [("a", "1"), ("b", "3")], [⟨"f", "t", .ofList [("x", "1")]⟩], ["b"]⟩
    ∃ r r' result result', (validate d s).answer = .ok r ∧ (validate d' s).answer = .ok r'
      ∧ (apply d r s).answer = .ok result ∧ (apply d' r' s).answer = .ok result'
      ∧ (apply d' r' s).store.params = (apply d r s).store.params
      ∧ (apply d' r' s).store.features.Perm (apply d r s).store.features ∧ result'.Reorders result
      ∧ (apply d r s).store.features.map (·.id) = ["f", "g", "h"]
      ∧ (apply d' r' s).store.features.map (·.id) = ["f", "h", "g"] := by
  intro d d' s
  have hrecords : DistinctIds s.features := by decide
  have hvalid : d.Valid := ⟨rfl, rfl⟩
  have horder : d'.Reorders d := ⟨by decide, by decide⟩
  obtain ⟨-, happlies⟩ := entries_in_any_order hrecords hvalid horder
  obtain ⟨-, hsame, -⟩ := happlies _ _ rfl rfl
  obtain ⟨hparams, -, hfeatures, -, hresult⟩ := hsame _ _ rfl rfl
  exact ⟨_, _, _, _, rfl, rfl, rfl, rfl, hparams, hfeatures, hresult, rfl, rfl⟩

end GuardedPatch
