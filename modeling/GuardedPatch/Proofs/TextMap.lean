import GuardedPatch.Patch.Change
import Mathlib.Data.List.Nodup

set_option autoImplicit false

/-! # Maps by their look-ups

A map is determined by what is stored at each key (`TextMap.ext_get?`), so an operation on maps is known once its
look-ups are: inserting changes one key, and inserting the entries of another map is the overlay in which the other
map wins. The overlay of a feature change is that one, and its list of changed names is exact. -/

namespace GuardedPatch

namespace TextMap

/-! ## Look-ups -/

theorem lookup_cons (e : String × String) (es : List (String × String)) (k : String) :
    (e :: es).lookup k = if k = e.1 then some e.2 else es.lookup k := by
  obtain ⟨a, v⟩ := e
  rw [List.lookup_cons]
  by_cases h : k = a
  · simp [h]
  · have hb : (k == a) = false := beq_false_of_ne h
    rw [if_neg h, hb]

theorem lookup_insertEntry (key value k : String) (es : List (String × String)) :
    (insertEntry key value es).lookup k = if k = key then some value else es.lookup k := by
  induction es with
  | nil => simp only [insertEntry, lookup_cons]
  | cons e rest ih =>
      simp only [insertEntry]
      split
      · rw [lookup_cons]
      · split
        · next heq =>
            subst heq
            rw [lookup_cons, lookup_cons]
            by_cases hk : k = e.1
            · rw [if_pos hk, if_pos hk]
            · rw [if_neg hk, if_neg hk, if_neg hk]
        · next hne =>
            rw [lookup_cons, lookup_cons, ih]
            by_cases hk : k = e.1
            · have hkey : ¬ k = key := fun h => hne (h.symm.trans hk)
              rw [if_pos hk, if_neg hkey, if_pos hk]
            · rw [if_neg hk, if_neg hk]

theorem get?_insert (m : TextMap) (key value k : String) :
    (m.insert key value).get? k = if k = key then some value else m.get? k :=
  lookup_insertEntry key value k m.entries

@[simp]
theorem get?_insert_self (m : TextMap) (key value : String) : (m.insert key value).get? key = some value := by
  rw [get?_insert, if_pos rfl]

theorem get?_insert_of_ne (m : TextMap) {key k : String} (value : String) (h : k ≠ key) :
    (m.insert key value).get? k = m.get? k := by
  rw [get?_insert, if_neg h]

/-! ## Extensionality -/

theorem lookup_eq_none_of_forall_ne {k : String} {es : List (String × String)} (h : ∀ e ∈ es, e.1 ≠ k) :
    es.lookup k = none := by
  rw [List.lookup_eq_none_iff]
  exact fun e he => by simpa using Ne.symm (h e he)

theorem lookup_eq_none_of_not_mem {k : String} {es : List (String × String)} (h : k ∉ es.map (·.1)) :
    es.lookup k = none :=
  lookup_eq_none_of_forall_ne fun e he heq => h (List.mem_map.2 ⟨e, he, heq⟩)

theorem lookup_map (f : String → String → String) (es : List (String × String)) (k : String) :
    (es.map fun e => (e.1, f e.1 e.2)).lookup k = (es.lookup k).map (f k) := by
  induction es with
  | nil => rfl
  | cons e rest ih =>
      rw [List.map_cons, lookup_cons, lookup_cons, ih]
      by_cases hk : k = e.1
      · rw [if_pos hk, if_pos hk, hk, Option.map_some]
      · rw [if_neg hk, if_neg hk]

/-- An entry of a list with distinct keys is found by its key. -/
theorem lookup_eq_some_of_mem {es : List (String × String)} (hes : (es.map (·.1)).Nodup) {e : String × String}
    (he : e ∈ es) : es.lookup e.1 = some e.2 := by
  rw [List.lookup_eq_some_iff]
  obtain ⟨before, after, rfl⟩ := List.append_of_mem he
  refine ⟨before, after, rfl, fun x hx => ?_⟩
  rw [List.map_append, List.nodup_append] at hes
  exact bne_iff_ne.2 (Ne.symm (hes.2.2 x.1 (List.mem_map_of_mem hx) e.1 (by simp)))

theorem exists_mem_of_lookup {k v : String} {es : List (String × String)} (h : es.lookup k = some v) :
    ∃ e ∈ es, e.1 = k := by
  by_contra hno
  push Not at hno
  rw [lookup_eq_none_of_forall_ne hno] at h
  simp at h

/-- Sorted lists of entries with the same look-ups are the same list. -/
theorem entries_eq_of_lookup {es fs : List (String × String)} (hes : es.Pairwise fun a b => a.1 < b.1)
    (hfs : fs.Pairwise fun a b => a.1 < b.1) (h : ∀ k, es.lookup k = fs.lookup k) : es = fs := by
  induction es generalizing fs with
  | nil =>
      cases fs with
      | nil => rfl
      | cons f fs =>
          have := h f.1
          rw [lookup_cons, if_pos rfl] at this
          simp at this
  | cons e es ih =>
      cases fs with
      | nil =>
          have := h e.1
          rw [lookup_cons, if_pos rfl] at this
          simp at this
      | cons f fs =>
          obtain ⟨hehead, hetail⟩ := List.pairwise_cons.1 hes
          obtain ⟨hfhead, hftail⟩ := List.pairwise_cons.1 hfs
          -- the first keys agree, since neither can stand before the other
          have hkey : e.1 = f.1 := by
            by_contra hne
            have hef := h e.1
            have hfe := h f.1
            rw [lookup_cons, lookup_cons, if_pos rfl, if_neg hne] at hef
            rw [lookup_cons, lookup_cons, if_pos rfl, if_neg (Ne.symm hne)] at hfe
            obtain ⟨x, hx, hxe⟩ := exists_mem_of_lookup hef.symm
            obtain ⟨y, hy, hyf⟩ := exists_mem_of_lookup hfe
            exact String.lt_irrefl _ (String.lt_trans (hxe ▸ hfhead x hx) (hyf ▸ hehead y hy))
          have hval : e.2 = f.2 := by
            have := h e.1
            rw [lookup_cons, lookup_cons, if_pos rfl, if_pos hkey] at this
            simpa using this
          have htail : es = fs := by
            refine ih hetail hftail fun k => ?_
            by_cases hk : k = e.1
            · have he : es.lookup k = none := lookup_eq_none_of_forall_ne fun x hx heq =>
                String.lt_irrefl _ ((heq.trans hk) ▸ hehead x hx)
              have hf : fs.lookup k = none := lookup_eq_none_of_forall_ne fun x hx heq =>
                String.lt_irrefl _ ((heq.trans (hk.trans hkey)) ▸ hfhead x hx)
              rw [he, hf]
            · have := h k
              rwa [lookup_cons, lookup_cons, if_neg hk, if_neg (hkey ▸ hk)] at this
          rw [htail, show e = f from Prod.ext hkey hval]

/-- **A map is determined by its look-ups.** -/
theorem ext_get? {m n : TextMap} (h : ∀ k, m.get? k = n.get? k) : m = n := by
  obtain ⟨es, hes⟩ := m
  obtain ⟨fs, hfs⟩ := n
  have : es = fs := entries_eq_of_lookup hes hfs h
  subst this
  rfl

theorem insert_insert (m : TextMap) (key v w : String) : (m.insert key v).insert key w = m.insert key w := by
  apply ext_get?
  intro k
  simp only [get?_insert]
  split <;> rfl

/-- Putting in what is there already changes nothing. -/
theorem insert_eq_self {m : TextMap} {key value : String} (h : m.get? key = some value) :
    m.insert key value = m := by
  apply ext_get?
  intro k
  rw [get?_insert]
  split
  · next hk => rw [hk, h]
  · rfl

/-! ## Inserting many entries -/

theorem keys_nodup (m : TextMap) : m.keys.Nodup := by
  rw [keys, List.nodup_iff_pairwise_ne, List.pairwise_map]
  refine m.sorted.imp fun {a b} (hlt : a.1 < b.1) (heq : a.1 = b.1) => ?_
  exact String.lt_irrefl _ (heq ▸ hlt)

theorem insertAll_append (m : TextMap) (es fs : List (String × String)) :
    m.insertAll (es ++ fs) = (m.insertAll es).insertAll fs :=
  List.foldl_append

theorem get?_insertAll_of_not_mem {es : List (String × String)} {k : String} (h : k ∉ es.map (·.1)) (m : TextMap) :
    (m.insertAll es).get? k = m.get? k := by
  induction es generalizing m with
  | nil => rfl
  | cons e rest ih =>
      rw [List.map_cons, List.mem_cons, not_or] at h
      have hfold : m.insertAll (e :: rest) = (m.insert e.1 e.2).insertAll rest := rfl
      rw [hfold, ih h.2, get?_insert_of_ne m e.2 h.1]

/-- Entries with distinct keys are inserted independently of each other. -/
theorem get?_insertAll {es : List (String × String)} (hes : (es.map (·.1)).Nodup) (m : TextMap) (k : String) :
    (m.insertAll es).get? k = (es.lookup k).or (m.get? k) := by
  induction es generalizing m with
  | nil => simp [insertAll]
  | cons e rest ih =>
      rw [List.map_cons, List.nodup_cons] at hes
      obtain ⟨hnot, hrest⟩ := hes
      have hfold : m.insertAll (e :: rest) = (m.insert e.1 e.2).insertAll rest := rfl
      rw [hfold, ih hrest, get?_insert, lookup_cons]
      by_cases hk : k = e.1
      · have hnone : rest.lookup k = none := lookup_eq_none_of_not_mem (hk ▸ hnot)
        rw [if_pos hk, if_pos hk, hnone, Option.none_or, Option.some_or]
      · rw [if_neg hk, if_neg hk]

/-- Entries with distinct keys are found in any order of them. -/
theorem lookup_perm {es fs : List (String × String)} (hes : (es.map (·.1)).Nodup) (h : es.Perm fs) (k : String) :
    es.lookup k = fs.lookup k := by
  cases hfs : fs.lookup k with
  | some v =>
      obtain ⟨before, after, rfl, -⟩ := List.lookup_eq_some_iff.1 hfs
      have hmem : (k, v) ∈ es := h.mem_iff.2 (List.mem_append_right _ List.mem_cons_self)
      exact lookup_eq_some_of_mem hes hmem
  | none =>
      rw [List.lookup_eq_none_iff] at hfs ⊢
      exact fun e he => hfs e (h.mem_iff.1 he)

/-- They can be inserted in any order. -/
theorem insertAll_perm {es fs : List (String × String)} (hes : (es.map (·.1)).Nodup) (h : es.Perm fs)
    (m : TextMap) : m.insertAll es = m.insertAll fs := by
  have hfs : (fs.map (·.1)).Nodup := (h.map _).nodup_iff.1 hes
  refine ext_get? fun k => ?_
  rw [get?_insertAll hes, get?_insertAll hfs, lookup_perm hes h]

/-- **The overlay of a map on another one is right-biased**: its own entries win, all others stay. -/
theorem get?_overlaid (m desired : TextMap) (k : String) :
    (m.insertAll desired.entries).get? k = (desired.get? k).or (m.get? k) :=
  get?_insertAll desired.keys_nodup m k

theorem get?_of_mem (m : TextMap) {e : String × String} (he : e ∈ m.entries) : m.get? e.1 = some e.2 :=
  lookup_eq_some_of_mem m.keys_nodup he

theorem mem_entries_iff (m : TextMap) {k v : String} : (k, v) ∈ m.entries ↔ m.get? k = some v := by
  constructor
  · intro h
    exact m.get?_of_mem h
  · intro h
    obtain ⟨before, after, hentries, -⟩ := List.lookup_eq_some_iff.1 h
    simp [hentries]

/-- Putting in entries that are there already changes nothing. -/
theorem insertAll_eq_self {m : TextMap} {es : List (String × String)} (h : ∀ e ∈ es, m.get? e.1 = some e.2) :
    m.insertAll es = m := by
  induction es with
  | nil => rfl
  | cons e rest ih =>
      rw [List.forall_mem_cons] at h
      have hfold : m.insertAll (e :: rest) = (m.insert e.1 e.2).insertAll rest := rfl
      rw [hfold, insert_eq_self h.1, ih h.2]

/-- An overlay changes nothing exactly when all its entries are there already. -/
theorem insertAll_eq_self_iff (m desired : TextMap) :
    m.insertAll desired.entries = m ↔ ∀ e ∈ desired.entries, m.get? e.1 = some e.2 := by
  constructor
  · intro h e he
    rw [← h, get?_overlaid, desired.get?_of_mem he, Option.some_or]
  · exact insertAll_eq_self

/-- **Overlays are associative**: laying two maps over a third one, in turn, is laying both over it at once, the second
    one on top. -/
theorem insertAll_assoc (m first second : TextMap) :
    (m.insertAll first.entries).insertAll second.entries = m.insertAll (first.insertAll second.entries).entries := by
  apply ext_get?
  intro k
  simp only [get?_overlaid, Option.or_assoc]

/-- An overlay that was made changes nothing any more. -/
theorem insertAll_insertAll (m desired : TextMap) :
    (m.insertAll desired.entries).insertAll desired.entries = m.insertAll desired.entries := by
  have hself : desired.insertAll desired.entries = desired := insertAll_eq_self fun e he => desired.get?_of_mem he
  rw [insertAll_assoc, hself]

end TextMap

/-! ## The overlay of a feature change -/

theorem overlay_fst (m : TextMap) (es : List (String × String)) : (overlay m es).1 = m.insertAll es := by
  induction es generalizing m with
  | nil => rfl
  | cons e rest ih =>
      obtain ⟨name, value⟩ := e
      have hfold : m.insertAll ((name, value) :: rest) = (m.insert name value).insertAll rest := rfl
      rw [hfold, overlay]
      split
      · next hsame => rw [ih, TextMap.insert_eq_self hsame]
      · exact ih _

/-- The names listed by an overlay are those whose value was absent or another one. -/
theorem overlay_snd {es : List (String × String)} (hes : (es.map (·.1)).Nodup) (m : TextMap) :
    (overlay m es).2 = (es.filter fun e => m.get? e.1 ≠ some e.2).map (·.1) := by
  induction es generalizing m with
  | nil => rfl
  | cons e rest ih =>
      obtain ⟨name, value⟩ := e
      rw [List.map_cons, List.nodup_cons] at hes
      obtain ⟨hnot, hrest⟩ := hes
      rw [overlay, List.filter_cons]
      split
      · next hsame => simp [hsame, ih hrest m]
      · next hdiff =>
          -- names are distinct, so that the value put in is not compared with a later one
          have hsame : (rest.filter fun e => (m.insert name value).get? e.1 ≠ some e.2)
              = rest.filter fun e => m.get? e.1 ≠ some e.2 := by
            apply List.filter_congr
            intro x hx
            have hne : x.1 ≠ name := fun heq => hnot (List.mem_map.2 ⟨x, hx, heq⟩)
            rw [TextMap.get?_insert_of_ne m value hne]
          simp only [ih hrest, hsame]
          simp [hdiff]

namespace FeatureRecord

theorem mergedWith_fst (r : FeatureRecord) (desired : TextMap) :
    (r.mergedWith desired).1 = { r with fields := r.fields.insertAll desired.entries } := by
  simp only [mergedWith, overlay_fst]

theorem mergedWith_snd (r : FeatureRecord) (desired : TextMap) :
    (r.mergedWith desired).2 = (desired.entries.filter fun e => r.fields.get? e.1 ≠ some e.2).map (·.1) :=
  overlay_snd desired.keys_nodup r.fields

/-- The names that are listed, by their look-ups. -/
theorem mergedWith_snd_eq (r : FeatureRecord) (desired : TextMap) :
    (r.mergedWith desired).2 = desired.keys.filter fun name => r.fields.get? name ≠ desired.get? name := by
  rw [mergedWith_snd, TextMap.keys, List.filter_map]
  refine congrArg _ (List.filter_congr fun e he => ?_)
  rw [Function.comp_apply, desired.get?_of_mem he]

/-- **No name is listed exactly when the record stays as it is.** -/
theorem mergedWith_snd_isEmpty (r : FeatureRecord) (desired : TextMap) :
    (r.mergedWith desired).2.isEmpty = true ↔ (r.mergedWith desired).1 = r := by
  have hfields : (r.mergedWith desired).1 = r ↔ r.fields.insertAll desired.entries = r.fields := by
    rw [mergedWith_fst]
    constructor
    · intro h
      exact congrArg FeatureRecord.fields h
    · intro h
      rw [h]
  rw [hfields, TextMap.insertAll_eq_self_iff, mergedWith_snd, List.isEmpty_iff, List.map_eq_nil_iff,
    List.filter_eq_nil_iff]
  simp

end FeatureRecord

end GuardedPatch
