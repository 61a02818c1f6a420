import GuardedPatch.Proofs.Keyed
import GuardedPatch.Run.Report
import GuardedPatch.Store.Memory

set_option autoImplicit false

/-! # Lists of records by their ids

A store's records have distinct ids, so that an id stands for at most one of them. Putting a record in changes what
is found at its own id alone, and can be taken back: by the record that was there before, or by removing the id if
there was none, which restores the order of the listing as well. Putting in several records of different ids comes
to one pass over the listing and an appendix. -/

namespace GuardedPatch

/-- The record of an id, if there is one. -/
def recordAt? (records : List FeatureRecord) (id : String) : Option FeatureRecord :=
  records.find? (·.id == id)

/-- Every id stands for at most one record. -/
def DistinctIds (records : List FeatureRecord) : Prop :=
  (records.map (·.id)).Nodup

instance (records : List FeatureRecord) : Decidable (DistinctIds records) :=
  inferInstanceAs (Decidable (records.map (·.id)).Nodup)

/-! ## Finding a record -/

@[simp]
theorem recordAt?_nil (id : String) : recordAt? [] id = none := rfl

theorem recordAt?_cons (r : FeatureRecord) (rest : List FeatureRecord) (id : String) :
    recordAt? (r :: rest) id = if r.id = id then some r else recordAt? rest id := by
  rw [recordAt?, List.find?_cons]
  by_cases h : r.id = id
  · simp [h]
  · have hb : (r.id == id) = false := beq_false_of_ne h
    rw [hb, if_neg h]
    rfl

theorem recordAt?_eq_none_iff {rs : List FeatureRecord} {id : String} :
    recordAt? rs id = none ↔ ∀ r ∈ rs, r.id ≠ id := by
  rw [recordAt?, List.find?_eq_none]
  simp

theorem id_of_recordAt? {rs : List FeatureRecord} {id : String} {r : FeatureRecord}
    (h : recordAt? rs id = some r) : r.id = id := by
  simpa using List.find?_some h

theorem mem_of_recordAt? {rs : List FeatureRecord} {id : String} {r : FeatureRecord}
    (h : recordAt? rs id = some r) : r ∈ rs :=
  List.mem_of_find?_eq_some h

namespace DistinctIds

variable {rs : List FeatureRecord}

theorem of_cons {r : FeatureRecord} {rest : List FeatureRecord} (h : DistinctIds (r :: rest)) :
    (∀ x ∈ rest, x.id ≠ r.id) ∧ DistinctIds rest := by
  rw [DistinctIds, List.map_cons, List.nodup_cons] at h
  exact ⟨fun x hx heq => h.1 (List.mem_map.2 ⟨x, hx, heq⟩), h.2⟩

/-- A record is found under its own id. -/
theorem recordAt?_of_mem (h : DistinctIds rs) {r : FeatureRecord} (hr : r ∈ rs) : recordAt? rs r.id = some r :=
  find?_eq_of_mem h hr

theorem perm (h : DistinctIds rs) {ws : List FeatureRecord} (hp : rs.Perm ws) : DistinctIds ws :=
  (hp.map FeatureRecord.id).nodup_iff.1 h

/-- What is found under an id does not depend on the order of the records. -/
theorem recordAt?_perm (h : DistinctIds rs) {ws : List FeatureRecord} (hp : rs.Perm ws) (id : String) :
    recordAt? rs id = recordAt? ws id := by
  cases hid : recordAt? rs id with
  | some r =>
      have hr := (h.perm hp).recordAt?_of_mem (hp.mem_iff.1 (mem_of_recordAt? hid))
      rw [id_of_recordAt? hid] at hr
      rw [hr]
  | none =>
      rw [recordAt?_eq_none_iff] at hid
      exact (recordAt?_eq_none_iff.2 fun r hr => hid r (hp.mem_iff.2 hr)).symm

/-- Records that are found under the same ids are the same ones, if in another order. -/
theorem perm_of_recordAt? (h : DistinctIds rs) {ws : List FeatureRecord} (hws : DistinctIds ws)
    (hsame : ∀ id, recordAt? rs id = recordAt? ws id) : rs.Perm ws := by
  refine (List.perm_ext_iff_of_nodup (List.Nodup.of_map _ h) (List.Nodup.of_map _ hws)).2 fun r => ?_
  constructor
  · exact fun hr => mem_of_recordAt? ((hsame r.id).symm.trans (h.recordAt?_of_mem hr))
  · exact fun hr => mem_of_recordAt? ((hsame r.id).trans (hws.recordAt?_of_mem hr))

/-- Ids are unique, so that a change that looks for a record finds the one with its id, if that has the type. -/
theorem find?_selects (h : DistinctIds rs) (c : FeatureChange) :
    rs.find? c.selects = (recordAt? rs c.id).filter fun r => c.type?.all (r.type == ·) := by
  induction rs with
  | nil => rfl
  | cons x rest ih =>
      obtain ⟨hhead, htail⟩ := h.of_cons
      rw [List.find?_cons, recordAt?_cons]
      by_cases hid : x.id = c.id
      · have habsent : rest.find? c.selects = none := by
          rw [List.find?_eq_none]
          intro y hy hsel
          rw [FeatureChange.selects, Bool.and_eq_true, beq_iff_eq] at hsel
          exact hhead y hy (hsel.1.trans hid.symm)
        rw [if_pos hid, Option.filter, FeatureChange.selects, hid, beq_self_eq_true, Bool.true_and, habsent]
        cases c.type?.all (x.type == ·) <;> rfl
      · have hsel : c.selects x = false := by
          rw [FeatureChange.selects, beq_false_of_ne hid, Bool.false_and]
        rw [if_neg hid, hsel]
        exact ih htail

/-- Where a change lands does not depend on the order of the records. -/
theorem target?_perm (h : DistinctIds rs) {ws : List FeatureRecord} (hp : rs.Perm ws) (c : FeatureChange) :
    c.target? rs = c.target? ws := by
  have hfind : rs.find? (·.id == c.id) = ws.find? (·.id == c.id) := h.recordAt?_perm hp c.id
  rw [FeatureChange.target?, FeatureChange.target?, hfind, h.find?_selects, (h.perm hp).find?_selects,
    h.recordAt?_perm hp]

end DistinctIds

/-! ## Putting a record in -/

theorem recordAt?_replaceOrAppend (r : FeatureRecord) (rs : List FeatureRecord) (id : String) :
    recordAt? (replaceOrAppend r rs) id = if r.id = id then some r else recordAt? rs id := by
  induction rs with
  | nil => rw [replaceOrAppend, recordAt?_cons]
  | cons x rest ih =>
      rw [replaceOrAppend]
      split
      · next hx =>
          rw [recordAt?_cons, recordAt?_cons, hx]
          by_cases h : r.id = id
          · rw [if_pos h, if_pos h]
          · rw [if_neg h, if_neg h, if_neg h]
      · next hx =>
          rw [recordAt?_cons, recordAt?_cons, ih]
          by_cases h : x.id = id
          · rw [if_pos h, if_pos h, if_neg fun hr => hx (h.trans hr.symm)]
          · rw [if_neg h, if_neg h]

theorem recordAt?_removed (id' : String) (rs : List FeatureRecord) (id : String) :
    recordAt? (rs.filter (·.id != id')) id = if id' = id then none else recordAt? rs id := by
  split
  · next h =>
      rw [recordAt?_eq_none_iff]
      intro r hr heq
      have hne := (List.mem_filter.1 hr).2
      rw [bne_iff_ne] at hne
      exact hne (heq.trans h.symm)
  · next h =>
      rw [recordAt?, List.find?_filter, recordAt?]
      congr 1
      funext r
      by_cases hr : r.id = id
      · have hne : r.id ≠ id' := fun heq => h (heq.symm.trans hr)
        simp [hr, Ne.symm h]
      · simp [hr]

theorem replaceOrAppend_eq (r : FeatureRecord) (rs : List FeatureRecord) :
    replaceOrAppend r rs = putKeyed (·.id) r.id (fun _ => r) r rs := by
  induction rs with
  | nil => rfl
  | cons x rest ih => rw [replaceOrAppend, putKeyed, ih]

theorem replaceOrAppend_of_absent {r : FeatureRecord} {rs : List FeatureRecord} (h : recordAt? rs r.id = none) :
    replaceOrAppend r rs = rs ++ [r] := by
  rw [replaceOrAppend_eq]
  exact putKeyed_of_absent (recordAt?_eq_none_iff.1 h)

/-- **A replaced record can be put back**, and the listing is the one before. -/
theorem replaceOrAppend_restore {r p : FeatureRecord} {rs : List FeatureRecord} (h : recordAt? rs r.id = some p) :
    replaceOrAppend p (replaceOrAppend r rs) = rs := by
  have hid : p.id = r.id := id_of_recordAt? h
  induction rs with
  | nil => simp at h
  | cons x rest ih =>
      rw [recordAt?_cons] at h
      rw [replaceOrAppend]
      split
      · next hx =>
          rw [if_pos hx] at h
          rw [replaceOrAppend, if_pos hid.symm, Option.some.inj h]
      · next hx =>
          rw [if_neg hx] at h
          rw [replaceOrAppend, if_neg (hid ▸ hx), ih h]

/-- **An inserted record can be removed again**, and the listing is the one before. -/
theorem removed_replaceOrAppend {r : FeatureRecord} {rs : List FeatureRecord} (h : recordAt? rs r.id = none) :
    (replaceOrAppend r rs).filter (·.id != r.id) = rs := by
  have hkeep : rs.filter (·.id != r.id) = rs := by
    rw [List.filter_eq_self]
    intro x hx
    rw [bne_iff_ne]
    exact recordAt?_eq_none_iff.1 h x hx
  rw [replaceOrAppend_of_absent h, List.filter_append, hkeep]
  simp

theorem replaceOrAppend_of_present {r p : FeatureRecord} {rs : List FeatureRecord} (hrs : DistinctIds rs)
    (h : recordAt? rs r.id = some p) : replaceOrAppend r rs = rs.map fun x => if x.id = r.id then r else x := by
  rw [replaceOrAppend_eq]
  exact putKeyed_of_present hrs ⟨p, mem_of_recordAt? h, id_of_recordAt? h⟩

theorem DistinctIds.replaceOrAppend {rs : List FeatureRecord} (hrs : DistinctIds rs) (r : FeatureRecord) :
    DistinctIds (replaceOrAppend r rs) := by
  rw [DistinctIds, replaceOrAppend_eq]
  exact nodup_putKeyed (fun _ _ => rfl) rfl hrs

/-! ## Putting several records in -/

theorem DistinctIds.foldl_replaceOrAppend {rs : List FeatureRecord} (hrs : DistinctIds rs) (ws : List FeatureRecord) :
    DistinctIds (ws.foldl (fun rs w => GuardedPatch.replaceOrAppend w rs) rs) := by
  induction ws generalizing rs with
  | nil => exact hrs
  | cons w ws ih => exact ih (hrs.replaceOrAppend w)

/-- Each id has the record that was put in for it, or else the one that was there. -/
theorem recordAt?_foldl_replaceOrAppend {ws : List FeatureRecord} (hws : DistinctIds ws) (rs : List FeatureRecord)
    (id : String) :
    recordAt? (ws.foldl (fun rs w => replaceOrAppend w rs) rs) id = (recordAt? ws id).or (recordAt? rs id) := by
  induction ws generalizing rs with
  | nil => rfl
  | cons w ws ih =>
      obtain ⟨hhead, htail⟩ := hws.of_cons
      rw [List.foldl_cons, ih htail, recordAt?_replaceOrAppend, recordAt?_cons]
      by_cases hid : w.id = id
      · rw [if_pos hid, if_pos hid, recordAt?_eq_none_iff.2 (hid ▸ hhead), Option.none_or, Option.some_or]
      · rw [if_neg hid, if_neg hid]

/-- **Records with different ids are put in by one pass**: each one that has a predecessor takes its place, and the
    others follow at the end, in order. -/
theorem foldl_replaceOrAppend {ws rs : List FeatureRecord} (hws : DistinctIds ws) (hrs : DistinctIds rs) :
    ws.foldl (fun rs w => replaceOrAppend w rs) rs
      = rs.map (fun r => (recordAt? ws r.id).getD r) ++ ws.filter fun w => (recordAt? rs w.id).isNone := by
  induction ws generalizing rs with
  | nil => simp
  | cons w ws ih =>
      obtain ⟨hhead, htail⟩ := hws.of_cons
      have hw : recordAt? ws w.id = none := recordAt?_eq_none_iff.2 hhead
      have hfilter : (ws.filter fun x => (recordAt? (replaceOrAppend w rs) x.id).isNone)
          = ws.filter fun x => (recordAt? rs x.id).isNone := by
        apply List.filter_congr
        intro x hx
        rw [recordAt?_replaceOrAppend, if_neg (Ne.symm (hhead x hx))]
      rw [List.foldl_cons, ih htail (hrs.replaceOrAppend w), hfilter, List.filter_cons]
      cases h : recordAt? rs w.id with
      | none =>
          have hmap : rs.map (fun r => (recordAt? (w :: ws) r.id).getD r)
              = rs.map fun r => (recordAt? ws r.id).getD r := by
            apply List.map_congr_left
            intro r hr
            rw [recordAt?_cons, if_neg (Ne.symm (recordAt?_eq_none_iff.1 h r hr))]
          rw [hmap, replaceOrAppend_of_absent h, List.map_append, List.map_cons, hw]
          simp
      | some p =>
          have hmap : (rs.map fun x => if x.id = w.id then w else x).map (fun r => (recordAt? ws r.id).getD r)
              = rs.map fun r => (recordAt? (w :: ws) r.id).getD r := by
            rw [List.map_map]
            apply List.map_congr_left
            intro r _
            rw [Function.comp_apply, recordAt?_cons]
            by_cases hid : r.id = w.id
            · rw [if_pos hid, if_pos hid.symm, hw, Option.getD_none, Option.getD_some]
            · rw [if_neg hid, if_neg (Ne.symm hid)]
          rw [replaceOrAppend_of_present hrs h, hmap]
          simp

end GuardedPatch
