import GuardedPatch.Proofs.Json.RoundTrip

set_option autoImplicit false

/-! # Compact texts are unambiguous

A compact text can be split in one way only: if a value and what follows it make the same characters as another
value and what follows that one, the values are the same (`Value.chars_splits`). The first character of a value tells
its kind. A string ends at the first quote that is not escaped, which is where reading it back stops; an array or an
object ends at its bracket, which starts no value; only a number has no end of its own, so that no digit may follow
it. In a compact text none ever does. -/

namespace GuardedPatch.Json

/-! ## What follows a value -/

/-- Nothing follows, or something that is not a digit. -/
def Ends (rest : List Char) : Prop :=
  ∀ c, rest.head? = some c → c.isDigit = false

theorem ends_nil : Ends [] := by
  intro c h
  cases h

theorem ends_cons {c : Char} (h : c.isDigit = false) (rest : List Char) : Ends (c :: rest) := by
  intro x hx
  cases hx
  exact h

theorem stringChars_splits {s t : String} {r r' : List Char} (h : stringChars s ++ r = stringChars t ++ r') :
    s = t ∧ r = r' := by
  obtain ⟨o, hs⟩ := readText_stringChars s 0 r
  obtain ⟨o', ht⟩ := readText_stringChars t 0 r'
  rw [h, ht] at hs
  cases hs
  exact ⟨rfl, rfl⟩

theorem toDigits_splits {n m : Nat} {r r' : List Char} (hr : Ends r) (hr' : Ends r')
    (h : Nat.toDigits 10 n ++ r = Nat.toDigits 10 m ++ r') : n = m ∧ r = r' := by
  have hdigits : ∀ (n : Nat) {r : List Char}, Ends r →
      (Nat.toDigits 10 n ++ r).takeWhile Char.isDigit = Nat.toDigits 10 n := by
    intro n r hr
    have hstop : r.takeWhile Char.isDigit = [] := by
      cases r with
      | nil => rfl
      | cons c rest => rw [List.takeWhile_cons_of_neg (by simpa using hr c rfl)]
    rw [List.takeWhile_append_of_pos fun c hc => Nat.isDigit_of_mem_toDigits (by decide) (by decide) hc, hstop,
      List.append_nil]
  have hsame : Nat.toDigits 10 n = Nat.toDigits 10 m := by rw [← hdigits n hr, h, hdigits m hr']
  have hnumbers : n = m :=
    calc
      n = Nat.ofDigitChars 10 (Nat.toDigits 10 n) 0 := Nat.ofDigitChars_ten_toDigits.symm
      _ = Nat.ofDigitChars 10 (Nat.toDigits 10 m) 0 := by rw [hsame]
      _ = m := Nat.ofDigitChars_ten_toDigits
  rw [hsame] at h
  exact ⟨hnumbers, List.append_cancel_left h⟩

/-! ## Kinds -/

/-- The kinds of values that start differently. -/
inductive Kind
  | null
  | bool (b : Bool)
  | nat
  | str
  | arr
  | obj
deriving DecidableEq

/-- The kind of a value. -/
def Value.kind : Value → Kind
  | .null => .null
  | .bool b => .bool b
  | .nat _ => .nat
  | .str _ => .str
  | .arr _ => .arr
  | .obj _ => .obj

/-- The kind of the values that start with a character, if there are any. -/
def Kind.ofLead? (c : Char) : Option Kind :=
  if c.isDigit then some .nat
  else if c = 'n' then some .null
  else if c = 't' then some (.bool true)
  else if c = 'f' then some (.bool false)
  else if c = '"' then some .str
  else if c = '[' then some .arr
  else if c = '\x7b' then some .obj
  else none

/-- **The first character of a value tells its kind.** -/
theorem Value.chars_eq_cons (v : Value) : ∃ c rest, v.chars = c :: rest ∧ Kind.ofLead? c = some v.kind := by
  cases v with
  | null => exact ⟨_, _, by rw [chars], by decide⟩
  | bool b => cases b <;> exact ⟨_, _, by rw [chars], by decide⟩
  | nat n =>
      obtain ⟨c, rest, hdigits⟩ := List.exists_cons_of_length_pos (Nat.length_toDigits_pos (b := 10) (n := n))
      have hc : c.isDigit = true :=
        Nat.isDigit_of_mem_toDigits (by decide) (by decide) (hdigits ▸ List.mem_cons_self)
      exact ⟨c, rest, by rw [chars, hdigits], by rw [Kind.ofLead?, if_pos hc, kind]⟩
  | str s => exact ⟨_, _, by rw [chars]; rfl, by rw [Value.kind]; decide⟩
  | arr items => exact ⟨_, _, by rw [chars]; rfl, by rw [Value.kind]; decide⟩
  | obj members => exact ⟨_, _, by rw [chars]; rfl, by rw [Value.kind]; decide⟩

theorem kind_of_chars {v w : Value} {r r' : List Char} (h : v.chars ++ r = w.chars ++ r') : v.kind = w.kind := by
  obtain ⟨c, rest, hv, hkind⟩ := v.chars_eq_cons
  obtain ⟨c', rest', hw, hkind'⟩ := w.chars_eq_cons
  rw [hv, hw, List.cons_append, List.cons_append] at h
  obtain rfl : c = c' := (List.cons.inj h).1
  exact Option.some.inj (hkind.symm.trans hkind')

/-- No value starts with a bracket that closes one. -/
theorem chars_ne_cons {c : Char} (hc : Kind.ofLead? c = none) (v : Value) (r r' : List Char) :
    v.chars ++ r ≠ c :: r' := by
  obtain ⟨c', rest, hv, hkind⟩ := v.chars_eq_cons
  intro h
  rw [hv, List.cons_append] at h
  rw [(List.cons.inj h).1, hc] at hkind
  cases hkind

/-! ## Values -/

/-- What is written after an element of an array. -/
def afterItem (rest : List Value) : List Char :=
  if rest.isEmpty then [] else ',' :: itemsChars rest

/-- What is written after a member of an object. -/
def afterMember (rest : List (String × Value)) : List Char :=
  if rest.isEmpty then [] else ',' :: membersChars rest

theorem itemsChars_cons (v : Value) (rest : List Value) : itemsChars (v :: rest) = v.chars ++ afterItem rest := by
  cases rest with
  | nil => simp [itemsChars, afterItem]
  | cons w rest => rw [itemsChars] <;> simp [afterItem]

theorem membersChars_cons (m : String × Value) (rest : List (String × Value)) :
    membersChars (m :: rest) = stringChars m.1 ++ ':' :: (m.2.chars ++ afterMember rest) := by
  obtain ⟨name, v⟩ := m
  cases rest with
  | nil => simp [membersChars, afterMember]
  | cons w rest => rw [membersChars] <;> simp [afterMember]

theorem ends_afterItem (rest : List Value) (r : List Char) : Ends (afterItem rest ++ ']' :: r) := by
  cases rest <;> exact ends_cons (by decide) _

theorem ends_afterMember (rest : List (String × Value)) (r : List Char) : Ends (afterMember rest ++ '\x7d' :: r) := by
  cases rest <;> exact ends_cons (by decide) _

mutual

/-- **A value is told apart from what follows it.** -/
theorem Value.chars_splits : (v w : Value) → {r r' : List Char} → Ends r → Ends r' →
    v.chars ++ r = w.chars ++ r' → v = w ∧ r = r'
  | .null, w, r, r', _, _, h => by
      have hkind := kind_of_chars h
      cases w <;> cases hkind
      exact ⟨rfl, List.append_cancel_left h⟩
  | .bool b, w, r, r', _, _, h => by
      have hkind := kind_of_chars h
      cases w <;> cases hkind
      exact ⟨rfl, List.append_cancel_left h⟩
  | .nat n, w, r, r', hr, hr', h => by
      have hkind := kind_of_chars h
      cases w <;> cases hkind
      rw [Value.chars, Value.chars] at h
      obtain ⟨rfl, hrest⟩ := toDigits_splits hr hr' h
      exact ⟨rfl, hrest⟩
  | .str s, w, r, r', _, _, h => by
      have hkind := kind_of_chars h
      cases w <;> cases hkind
      rw [Value.chars, Value.chars] at h
      obtain ⟨rfl, hrest⟩ := stringChars_splits h
      exact ⟨rfl, hrest⟩
  | .arr items, w, r, r', _, _, h => by
      have hkind := kind_of_chars h
      cases w <;> cases hkind
      rw [Value.chars, Value.chars, List.append_assoc, List.append_assoc] at h
      obtain ⟨rfl, hrest⟩ := itemsChars_splits items _ (List.cons.inj h).2
      exact ⟨rfl, hrest⟩
  | .obj members, w, r, r', _, _, h => by
      have hkind := kind_of_chars h
      cases w <;> cases hkind
      rw [Value.chars, Value.chars, List.append_assoc, List.append_assoc] at h
      obtain ⟨rfl, hrest⟩ := membersChars_splits members _ (List.cons.inj h).2
      exact ⟨rfl, hrest⟩

theorem itemsChars_splits : (vs ws : List Value) → {r r' : List Char} →
    itemsChars vs ++ ']' :: r = itemsChars ws ++ ']' :: r' → vs = ws ∧ r = r'
  | [], [], r, r', h => ⟨rfl, (List.cons.inj h).2⟩
  | [], w :: ws, r, r', h => by
      rw [itemsChars_cons, List.append_assoc] at h
      exact absurd h.symm (chars_ne_cons (by decide) _ _ _)
  | v :: vs, [], r, r', h => by
      rw [itemsChars_cons, List.append_assoc] at h
      exact absurd h (chars_ne_cons (by decide) _ _ _)
  | v :: vs, w :: ws, r, r', h => by
      rw [itemsChars_cons, itemsChars_cons, List.append_assoc, List.append_assoc] at h
      obtain ⟨rfl, htail⟩ := Value.chars_splits v w (ends_afterItem vs r) (ends_afterItem ws r') h
      cases vs with
      | nil =>
          cases ws with
          | nil => exact ⟨rfl, (List.cons.inj htail).2⟩
          | cons w' ws => cases (List.cons.inj htail).1
      | cons v' vs =>
          cases ws with
          | nil => cases (List.cons.inj htail).1
          | cons w' ws =>
              obtain ⟨hitems, hrest⟩ := itemsChars_splits (v' :: vs) (w' :: ws) (List.cons.inj htail).2
              exact ⟨congrArg (v :: ·) hitems, hrest⟩

theorem membersChars_splits : (ms ns : List (String × Value)) → {r r' : List Char} →
    membersChars ms ++ '\x7d' :: r = membersChars ns ++ '\x7d' :: r' → ms = ns ∧ r = r'
  | [], [], r, r', h => ⟨rfl, (List.cons.inj h).2⟩
  | [], n :: ns, r, r', h => by
      rw [membersChars_cons] at h
      cases (List.cons.inj h).1
  | m :: ms, [], r, r', h => by
      rw [membersChars_cons] at h
      cases (List.cons.inj h).1
  | (name, v) :: ms, (name', w) :: ns, r, r', h => by
      rw [membersChars_cons, membersChars_cons, List.append_assoc, List.append_assoc] at h
      obtain ⟨hname, hvalue⟩ := stringChars_splits h
      obtain rfl : name = name' := hname
      rw [List.cons_append, List.cons_append, List.append_assoc, List.append_assoc] at hvalue
      obtain ⟨rfl, htail⟩ :=
        Value.chars_splits v w (ends_afterMember ms r) (ends_afterMember ns r') (List.cons.inj hvalue).2
      cases ms with
      | nil =>
          cases ns with
          | nil => exact ⟨rfl, (List.cons.inj htail).2⟩
          | cons n ns => cases (List.cons.inj htail).1
      | cons m ms =>
          cases ns with
          | nil => cases (List.cons.inj htail).1
          | cons n ns =>
              obtain ⟨hmembers, hrest⟩ := membersChars_splits (m :: ms) (n :: ns) (List.cons.inj htail).2
              exact ⟨congrArg ((name, v) :: ·) hmembers, hrest⟩

end

/-- **The compact text of a value determines it.** -/
theorem Value.compact_injective : Function.Injective Value.compact := by
  intro v w h
  have hchars : v.chars ++ [] = w.chars ++ [] := by
    rw [List.append_nil, List.append_nil]
    exact String.ofList_injective h
  exact (Value.chars_splits v w ends_nil ends_nil hchars).1

end GuardedPatch.Json
