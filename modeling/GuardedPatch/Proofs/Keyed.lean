import Mathlib.Data.List.Forall2
import Mathlib.Data.List.Nodup

set_option autoImplicit false

/-! # Lists with keys

A store keeps its things in lists in which every key occurs at most once, and it puts a thing in by one pass: the
first one with the key is replaced, and if there is none the new one goes to the end. With distinct keys that pass is
a `map`, or else an `append`. -/

namespace GuardedPatch

variable {α : Type} (key : α → String)

/-- Replaces the first element with a key, or appends a new one. -/
def putKeyed (k : String) (update : α → α) (new : α) : List α → List α
  | [] => [new]
  | x :: rest => if key x = k then update x :: rest else x :: putKeyed k update new rest

variable {key} {k : String} {update : α → α} {new : α} {xs : List α}

theorem putKeyed_of_absent (h : ∀ x ∈ xs, key x ≠ k) : putKeyed key k update new xs = xs ++ [new] := by
  induction xs with
  | nil => rfl
  | cons x rest ih =>
      rw [List.forall_mem_cons] at h
      rw [putKeyed, if_neg h.1, ih h.2, List.cons_append]

theorem putKeyed_of_present (hnodup : (xs.map key).Nodup) (h : ∃ x ∈ xs, key x = k) :
    putKeyed key k update new xs = xs.map fun x => if key x = k then update x else x := by
  induction xs with
  | nil => simp at h
  | cons x rest ih =>
      rw [List.map_cons, List.nodup_cons] at hnodup
      rw [putKeyed, List.map_cons]
      by_cases hx : key x = k
      · have hrest : (rest.map fun y => if key y = k then update y else y) = rest.map id := by
          apply List.map_congr_left
          intro y hy
          have hne : key y ≠ k := fun heq => hnodup.1 (List.mem_map.2 ⟨y, hy, heq.trans hx.symm⟩)
          rw [if_neg hne, id]
        rw [if_pos hx, if_pos hx, hrest, List.map_id]
      · have hin : ∃ y ∈ rest, key y = k := by
          obtain ⟨y, hy, hkey⟩ := h
          rcases List.mem_cons.1 hy with rfl | hy
          · exact absurd hkey hx
          · exact ⟨y, hy, hkey⟩
        rw [if_neg hx, if_neg hx, ih hnodup.2 hin]

/-- Putting an element in gives that element, the one that it updates, or one that was there. -/
theorem mem_putKeyed {y : α} (h : y ∈ putKeyed key k update new xs) :
    y = new ∨ (∃ x ∈ xs, key x = k ∧ y = update x) ∨ y ∈ xs := by
  induction xs with
  | nil => simpa [putKeyed] using h
  | cons x rest ih =>
      rw [putKeyed] at h
      split at h
      · next hx =>
          rcases List.mem_cons.1 h with rfl | h
          · exact .inr (.inl ⟨x, List.mem_cons_self, hx, rfl⟩)
          · exact .inr (.inr (List.mem_cons_of_mem x h))
      · rcases List.mem_cons.1 h with rfl | h
        · exact .inr (.inr List.mem_cons_self)
        · rcases ih h with hnew | ⟨z, hz, hkey, heq⟩ | hold
          · exact .inl hnew
          · exact .inr (.inl ⟨z, List.mem_cons_of_mem x hz, hkey, heq⟩)
          · exact .inr (.inr (List.mem_cons_of_mem x hold))

/-- What an update leaves as it is stays as it is in the whole list. -/
theorem map_updated {β : Type} {f : α → β} (update : α → α) (h : ∀ x, key x = k → f (update x) = f x) (xs : List α) :
    (xs.map fun x => if key x = k then update x else x).map f = xs.map f := by
  rw [List.map_map]
  apply List.map_congr_left
  intro x _
  rw [Function.comp_apply]
  split
  · next hx => exact h x hx
  · rfl

/-- **Keys stay distinct.** -/
theorem nodup_putKeyed (hupdate : ∀ x, key x = k → key (update x) = k) (hnew : key new = k)
    (h : (xs.map key).Nodup) : ((putKeyed key k update new xs).map key).Nodup := by
  by_cases hin : ∃ x ∈ xs, key x = k
  · rw [putKeyed_of_present h hin, map_updated update fun x hx => (hupdate x hx).trans hx.symm]
    exact h
  · push Not at hin
    rw [putKeyed_of_absent hin, List.map_append, List.map_singleton, hnew]
    refine h.append (List.nodup_singleton k) ?_
    rw [List.disjoint_singleton, List.mem_map]
    rintro ⟨x, hx, hk⟩
    exact hin x hx hk

/-- What is found by its key after an element was put in. -/
theorem find?_putKeyed (hupdate : ∀ x, key x = k → key (update x) = k) (hnew : key new = k) (k' : String) :
    (putKeyed key k update new xs).find? (key · == k')
      = if k' = k then some ((xs.find? (key · == k)).elim new update) else xs.find? (key · == k') := by
  induction xs with
  | nil =>
      by_cases hk : k' = k
      · simp [putKeyed, hnew, hk]
      · simp [putKeyed, hnew, hk, Ne.symm hk]
  | cons x rest ih =>
      rw [putKeyed]
      by_cases hx : key x = k
      · by_cases hk : k' = k
        · simp [hx, hk, hupdate x hx]
        · simp [hx, hk, hupdate x hx, Ne.symm hk]
      · rw [if_neg hx, List.find?_cons, ih, List.find?_cons, List.find?_cons, beq_false_of_ne hx]
        by_cases hxk : key x = k'
        · have hne : k' ≠ k := fun h => hx (hxk.trans h)
          simp only [hxk, beq_self_eq_true, if_neg hne]
        · simp only [beq_false_of_ne hxk]

/-- What no update changes is as before, or has one more entry at the end. -/
theorem map_putKeyed {β : Type} {f : α → β} (hupdate : ∀ x, f (update x) = f x) :
    (putKeyed key k update new xs).map f = xs.map f
      ∨ (putKeyed key k update new xs).map f = xs.map f ++ [f new] := by
  induction xs with
  | nil => exact .inr rfl
  | cons x rest ih =>
      rw [putKeyed]
      split
      · exact .inl (by rw [List.map_cons, List.map_cons, hupdate])
      · rw [List.map_cons, List.map_cons]
        exact ih.imp (congrArg _) (congrArg _)

/-- Lists that correspond to each other and have the same keys still do so after the same one was put in. -/
theorem forall₂_putKeyed {β : Type} {key' : β → String} {R : α → β → Prop} {update' : β → β} {new' : β}
    (hkey : ∀ x y, R x y → key x = key' y) (hupdate : ∀ x y, R x y → key x = k → R (update x) (update' y))
    (hnew : R new new') {ys : List β} (h : List.Forall₂ R xs ys) :
    List.Forall₂ R (putKeyed key k update new xs) (putKeyed key' k update' new' ys) := by
  induction h with
  | nil => exact .cons hnew .nil
  | @cons x y xs ys hxy hrest ih =>
      rw [putKeyed, putKeyed, ← hkey x y hxy]
      split
      · next hk => exact .cons (hupdate x y hxy hk) hrest
      · exact .cons hxy ih

/-- In lists that correspond to each other, the first elements of a kind do so. -/
theorem rel_find? {β : Type} {R R' : α → β → Prop} {p : α → Bool} {q : β → Bool} {ys : List β}
    (h : List.Forall₂ R xs ys) (hpq : ∀ x y, R x y → p x = q y) (hfound : ∀ x y, R x y → p x = true → R' x y) :
    Option.Rel R' (xs.find? p) (ys.find? q) := by
  induction h with
  | nil => exact .none
  | @cons x y xs ys hxy _ ih =>
      rw [List.find?_cons, List.find?_cons, ← hpq x y hxy]
      cases hp : p x with
      | true => exact .some (hfound x y hxy hp)
      | false => exact ih

/-- Those of a kind correspond to each other. -/
theorem forall₂_filter {β : Type} {R : α → β → Prop} {p : α → Bool} {q : β → Bool} {ys : List β}
    (h : List.Forall₂ R xs ys) (hpq : ∀ x y, R x y → p x = q y) : List.Forall₂ R (xs.filter p) (ys.filter q) := by
  induction h with
  | nil => exact .nil
  | @cons x y xs ys hxy _ ih =>
      rw [List.filter_cons, List.filter_cons, ← hpq x y hxy]
      split_ifs
      · exact .cons hxy ih
      · exact ih

/-- What they have in common is the same in both lists. -/
theorem map_eq_of_forall₂ {β γ : Type} {R : α → β → Prop} {f : α → γ} {g : β → γ} {ys : List β}
    (h : List.Forall₂ R xs ys) (hfg : ∀ x y, R x y → f x = g y) : xs.map f = ys.map g := by
  induction h with
  | nil => rfl
  | @cons x y xs ys hxy _ ih => rw [List.map_cons, List.map_cons, hfg x y hxy, ih]

/-- Putting an element in leaves those of a kind alone, if none of them has its key and it does not become one. -/
theorem filter_putKeyed {p : α → Bool} (hkey : ∀ x ∈ xs, p x = true → key x ≠ k) (hupdate : ∀ x, p (update x) = p x)
    (hnew : p new = false) : (putKeyed key k update new xs).filter p = xs.filter p := by
  induction xs with
  | nil => rw [putKeyed, List.filter_cons_of_neg (Bool.eq_false_iff.1 hnew)]
  | cons x rest ih =>
      rw [List.forall_mem_cons] at hkey
      rw [putKeyed]
      split
      · next hx =>
          have hout : ¬ p x = true := fun h => hkey.1 h hx
          rw [List.filter_cons_of_neg hout, List.filter_cons_of_neg (hupdate x ▸ hout)]
      · rw [List.filter_cons, List.filter_cons, ih hkey.2]

theorem find?_eq_none_of_not_mem {β : Type} [DecidableEq β] {f : α → β} {b : β} (h : b ∉ xs.map f) :
    xs.find? (f · == b) = none := by
  rw [List.find?_eq_none]
  intro x hx hxb
  exact h (List.mem_map.2 ⟨x, hx, beq_iff_eq.1 hxb⟩)

/-- The element with a key is found by its key. -/
theorem find?_eq_of_mem {β : Type} [DecidableEq β] {f : α → β} (hnodup : (xs.map f).Nodup) {x : α} (hx : x ∈ xs) :
    xs.find? (f · == f x) = some x := by
  induction xs with
  | nil => simp at hx
  | cons y rest ih =>
      rw [List.map_cons, List.nodup_cons] at hnodup
      rw [List.find?_cons]
      rcases List.mem_cons.1 hx with rfl | hx
      · rw [beq_self_eq_true]
      · have hne : f y ≠ f x := fun heq => hnodup.1 (heq ▸ List.mem_map_of_mem hx)
        rw [beq_false_of_ne hne]
        exact ih hnodup.2 hx

/-- With distinct keys, the element with a key is of a kind if there is one of that kind with the key. -/
theorem any_find?_eq {p : α → Bool} (hnodup : (xs.map key).Nodup) (k : String) :
    (xs.find? (key · == k)).any p = (xs.filter p).any (key · == k) := by
  rw [Bool.eq_iff_iff, Option.any_eq_true, List.any_eq_true]
  constructor
  · rintro ⟨x, hfind, hp⟩
    have hkey := List.find?_some hfind
    exact ⟨x, List.mem_filter.2 ⟨List.mem_of_find?_eq_some hfind, hp⟩, hkey⟩
  · rintro ⟨x, hx, hkey⟩
    obtain ⟨hmem, hp⟩ := List.mem_filter.1 hx
    obtain rfl : key x = k := beq_iff_eq.1 hkey
    exact ⟨x, find?_eq_of_mem hnodup hmem, hp⟩

end GuardedPatch
