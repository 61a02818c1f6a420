import GuardedPatch.Proofs.Store.Rows
import GuardedPatch.Proofs.Store.Transaction

set_option autoImplicit false

/-! # Contents shown by tables

A store in memory keeps its parameters in a map and its records in a list; a database keeps a row for each. The tables
show the contents when parameters have the values of their rows and the rows hold the records one by one, in the order
of the list (`Tables.Shows`). Both kinds of stores put a thing in by one pass by its key, so that a write to the tables
does to the rows what it does to the contents (`Tables.Shows.write`), and the locks of the rows stay what they are
(`Tables.lockedAt_write`).

The listing goes by position. A new row gets the position after all others, so that the rows stand in the order of
their positions, whatever is removed in between, as long as positions do not run out (`InOrder.put`). -/

namespace GuardedPatch

/-- The tables after the parameter and the feature of a name were locked or unlocked. -/
def Tables.setLocked (t : Tables) (key : String) (locked : Bool) : Tables :=
  (t.write (.lockParam key locked)).write (.lockFeature key locked)

/-- Tables show contents: the values of the parameters and, row by row, the records. -/
structure Tables.Shows (t : Tables) (c : Contents) : Prop where
  keyed : t.Keyed
  params : ∀ key, (t.params.find? (·.key == key)).map (·.value) = c.params.get? key
  features : Holds t.features c.features

namespace Tables.Shows

variable {t : Tables} {c : Contents}

theorem empty : Tables.empty.Shows ⟨.empty, []⟩ where
  keyed := ⟨List.nodup_nil, List.nodup_nil⟩
  params _ := rfl
  features := .nil

theorem distinctIds (h : t.Shows c) : DistinctIds c.features := by
  rw [DistinctIds, h.features.ids]
  exact h.keyed.features

/-- **A write does to the rows what it does to the contents.** -/
theorem write (h : t.Shows c) (e : Edit) : (t.write e.toWrite).Shows (e.run c) := by
  refine ⟨h.keyed.write _, ?_, ?_⟩
  · cases e with
    | setParam key value =>
        intro k
        show ((putParamRow key value t.params).find? (·.key == k)).map (·.value) = (c.params.insert key value).get? k
        rw [find?_putParamRow, TextMap.get?_insert, ← h.params k]
        split
        · cases t.params.find? (·.key == key) <;> rfl
        · rfl
    | putRecord r => exact h.params
    | dropRecord id => exact h.params
  · cases e with
    | setParam key value => exact h.features
    | putRecord r => exact h.features.put r
    | dropRecord id => exact h.features.remove id

/-- Locking and unlocking changes no contents. -/
theorem setLocked (h : t.Shows c) (key : String) (locked : Bool) : (t.setLocked key locked).Shows c := by
  refine ⟨(h.keyed.write _).write _, fun k => ?_, ?_⟩
  · show ((t.params.map fun r => if r.key = key then { r with locked } else r).find? (·.key == k)).map (·.value) = _
    rw [← h.params k, List.find?_map, Option.map_map]
    have hkey : ∀ r : ParamRow, (if r.key = key then { r with locked } else r).key = r.key := by
      intro r
      split <;> rfl
    have hvalue : ∀ r : ParamRow, (if r.key = key then { r with locked } else r).value = r.value := by
      intro r
      split <;> rfl
    simp only [Function.comp_def, hkey, hvalue]
  · exact h.features.lock key locked

/-- There is a row at a place if and only if there is something in the contents. -/
theorem feature_isSome (h : t.Shows c) (id : String) :
    (t.features.find? (·.id == id)).isSome = (recordAt? c.features id).isSome := by
  have hids := h.features.ids
  rw [Bool.eq_iff_iff, List.find?_isSome, recordAt?, List.find?_isSome]
  simp only [beq_iff_eq, ← List.mem_map, hids]

/-- The records can be listed, in some order. -/
theorem listing (h : t.Shows c) :
    ∃ rs, TableStore.readRecords (listed t.features) = .ok rs ∧ c.features.Perm rs := by
  obtain ⟨rs, hholds, hperm⟩ := h.features.perm (listed_perm t.features)
  exact ⟨rs, readRecords_eq_ok_iff.2 hholds, hperm.symm⟩

end Tables.Shows

/-! ## Locks -/

/-- Whether the row at a place is locked. -/
def Tables.lockedAt (t : Tables) : Slot → Bool
  | .param key => (t.params.find? (·.key == key)).any (·.locked)
  | .feature id => (t.features.find? (·.id == id)).any (·.locked)

theorem TableStore.lockedAt_eq (s : TableStore) (slot : Slot) : s.lockedAt slot = s.tables.lockedAt slot := by
  cases slot <;> rfl

/-- A row that is there keeps its lock when it gets a value, and one that is new has none. -/
theorem Tables.lockedAt_putParam (t : Tables) (key value : String) (slot : Slot) :
    (t.write (.putParam key value)).lockedAt slot = t.lockedAt slot := by
  cases slot with
  | feature id => rfl
  | param k =>
      show ((putParamRow key value t.params).find? (·.key == k)).any (·.locked) = _
      rw [find?_putParamRow, Tables.lockedAt]
      split
      · next hk =>
          rw [hk]
          cases t.params.find? (·.key == key) <;> rfl
      · rfl

/-- So it is when it gets a record. -/
theorem Tables.lockedAt_putFeature (t : Tables) (r : FeatureRecord) (slot : Slot) :
    (t.write (.putFeature r)).lockedAt slot = t.lockedAt slot := by
  cases slot with
  | param k => rfl
  | feature id =>
      show ((putFeatureRow r t.features).find? (·.id == id)).any (·.locked) = _
      rw [find?_putFeatureRow, Tables.lockedAt]
      split
      · next hid =>
          rw [hid]
          cases t.features.find? (·.id == r.id) <;> rfl
      · rfl

/-- **A write to a place that is not locked leaves the locks as they are.** A row that is there keeps its lock, one that
    is new has none, and one that is removed had none. -/
theorem Tables.lockedAt_write {t : Tables} {e : Edit} (h : t.lockedAt e.slot = false) (slot : Slot) :
    (t.write e.toWrite).lockedAt slot = t.lockedAt slot := by
  cases e with
  | setParam key value => exact t.lockedAt_putParam key value slot
  | putRecord r => exact t.lockedAt_putFeature r slot
  | dropRecord id' =>
      cases slot with
      | param k => rfl
      | feature id =>
          show ((t.features.filter (·.id != id')).find? (·.id == id)).any (·.locked) = _
          rw [List.find?_filter, Tables.lockedAt]
          by_cases hid : id = id'
          · -- nothing with the id is left
            have hnone : (t.features.find? fun r => decide ((r.id != id') = true ∧ (r.id == id) = true)) = none := by
              rw [List.find?_eq_none]
              intro r _
              simp [hid]
            rw [hnone, hid]
            exact h.symm
          · congr 2
            funext r
            by_cases hr : r.id = id <;> simp [hr, hid]

/-- Locking a name locks what there is at it. -/
theorem Tables.Shows.lockedAt_setLocked {t : Tables} {c : Contents} (h : t.Shows c) (key : String) (slot : Slot) :
    (t.setLocked key true).lockedAt slot
      = (t.lockedAt slot || (slot.name == key && (c.at? slot).isSome)) := by
  cases slot with
  | param k =>
      show ((t.params.map fun r => if r.key = key then { r with locked := true } else r).find? (·.key == k)).any
        (·.locked) = ((t.params.find? (·.key == k)).any (·.locked)
          || (k == key && ((c.params.get? k).map Content.value).isSome))
      have hkey : ∀ r : ParamRow, (if r.key = key then { r with locked := true } else r).key = r.key := by
        intro r
        split <;> rfl
      rw [← h.params k, List.find?_map]
      simp only [Function.comp_def, hkey]
      cases hfind : t.params.find? (·.key == k) with
      | none => simp
      | some r =>
          have hr : r.key = k := by simpa using List.find?_some hfind
          by_cases hk : k = key <;> simp [hr, hk]
  | feature id =>
      show ((t.features.map fun r => if r.id = key then { r with locked := true } else r).find? (·.id == id)).any
        (·.locked) = ((t.features.find? (·.id == id)).any (·.locked)
          || (id == key && ((recordAt? c.features id).map Content.record).isSome))
      have hkey : ∀ r : FeatureRow, (if r.id = key then { r with locked := true } else r).id = r.id := by
        intro r
        split <;> rfl
      rw [Option.isSome_map, ← h.feature_isSome id, List.find?_map]
      simp only [Function.comp_def, hkey]
      cases hfind : t.features.find? (·.id == id) with
      | none => simp
      | some r =>
          have hr : r.id = id := by simpa using List.find?_some hfind
          by_cases hid : id = key <;> simp [hr, hid]

/-! ## Order -/

/-- Rows stand in the order of their positions, which are below a number. -/
structure InOrder (n : Nat) (rows : List FeatureRow) : Prop where
  increasing : (rows.map (·.position)).Pairwise fun p q => p < q
  below : ∀ p ∈ rows.map (·.position), p < (n : Int)

namespace InOrder

variable {n : Nat} {rows : List FeatureRow}

theorem mono (h : InOrder n rows) {m : Nat} (hm : n ≤ m) : InOrder m rows :=
  ⟨h.increasing, fun p hp => lt_of_lt_of_le (h.below p hp) (by omega)⟩

theorem sublist (h : InOrder n rows) {rows' : List FeatureRow} (hsub : rows'.Sublist rows) : InOrder n rows' :=
  ⟨h.increasing.sublist (hsub.map _), fun p hp => h.below p ((hsub.map _).subset hp)⟩

/-- Rows in order are listed as they stand. -/
theorem listed_eq (h : InOrder n rows) : listed rows = rows := by
  obtain ⟨hincreasing, -⟩ := h
  induction rows with
  | nil => rfl
  | cons r rest ih =>
      rw [List.map_cons, List.pairwise_cons, List.forall_mem_map] at hincreasing
      show insertListed r (listed rest) = r :: rest
      rw [ih hincreasing.2]
      exact insertListed_append hincreasing.1 []

/-- The next position comes after all others. -/
theorem nextPosition (h : InOrder n rows) (hn : (n : Int) ≤ positionLimit) :
    (∀ p ∈ rows.map (·.position), p < GuardedPatch.nextPosition rows) ∧ GuardedPatch.nextPosition rows ≤ n := by
  rw [GuardedPatch.nextPosition]
  cases hmax : (rows.map (·.position)).max? with
  | none =>
      rw [List.max?_eq_none_iff.1 hmax]
      exact ⟨by simp, by simp⟩
  | some p =>
      obtain ⟨hmem, hle⟩ := List.max?_eq_some_iff.1 hmax
      have hp := h.below p hmem
      have hstep : min (p + 1) positionLimit = p + 1 := min_eq_left (by omega)
      simp only [hstep]
      refine ⟨fun q hq => ?_, by omega⟩
      have := hle q hq
      omega

/-- **A record that is put in keeps the rows in order**, if there is a position left for it. -/
theorem put (h : InOrder n rows) (hn : (n : Int) ≤ positionLimit) (w : FeatureRecord) :
    InOrder (n + 1) (putFeatureRow w rows) := by
  obtain ⟨hbehind, hnext⟩ := h.nextPosition hn
  rcases positions_putFeatureRow w rows with hsame | hmore
  · refine ⟨hsame ▸ h.increasing, fun p hp => ?_⟩
    rw [hsame] at hp
    have := h.below p hp
    omega
  · refine ⟨?_, fun p hp => ?_⟩
    · rw [hmore, List.pairwise_append]
      refine ⟨h.increasing, List.pairwise_singleton _ _, fun p hp q hq => ?_⟩
      rw [List.mem_singleton.1 hq]
      exact hbehind p hp
    · rw [hmore] at hp
      rcases List.mem_append.1 hp with hp | hp
      · have := h.below p hp
        omega
      · rw [List.mem_singleton.1 hp]
        omega

/-- So do several records. -/
theorem puts (ws : List FeatureRecord) (h : InOrder n rows) (hn : ((n + ws.length : Nat) : Int) ≤ positionLimit) :
    InOrder (n + ws.length) (ws.foldl (fun rows w => putFeatureRow w rows) rows) := by
  induction ws generalizing n rows with
  | nil => exact h
  | cons w ws ih =>
      rw [List.length_cons] at hn ⊢
      have hafter := ih (h.put (by omega) w) (by omega)
      rw [List.foldl_cons]
      exact hafter.mono (by omega)

end InOrder

end GuardedPatch
