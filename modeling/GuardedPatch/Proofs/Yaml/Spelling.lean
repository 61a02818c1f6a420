import GuardedPatch.Yaml.Resolution
import Mathlib.Data.List.Basic

set_option autoImplicit false

/-! # Spellings of booleans and integers

A boolean is written back as its lower-case word and an integer in decimal digits, after a minus sign if it is negative.
The spellings that differ from that are few: words in other letters, and integers with a plus sign, in another base
than ten, or of minus zero. Every other spelling is what is written back, since leading zeros make a text no number. -/

namespace GuardedPatch.Yaml

/-! ## Decimal digits -/

theorem digit?_ten_eq_some {c : Char} {d : Nat} (h : digit? 10 c = some d) : d < 10 ∧ c = d.digitChar := by
  obtain ⟨hvalue, hlt⟩ := Option.filter_eq_some_iff.1 h
  have hlt : d < 10 := of_decide_eq_true hlt
  refine ⟨hlt, Char.toNat_inj.1 ?_⟩
  rw [Nat.toNat_digitChar_of_lt_ten hlt]
  simp only [Text.hexValue?] at hvalue
  split_ifs at hvalue <;> cases hvalue <;> omega

theorem digitsFrom?_ten_cons {n m : Nat} {c : Char} {cs : List Char} (h : digitsFrom? 10 n (c :: cs) = some m) :
    ∃ d < 10, c = d.digitChar ∧ digitsFrom? 10 (10 * n + d) cs = some m := by
  rw [digitsFrom?] at h
  split at h
  · next d hd =>
      obtain ⟨hlt, hc⟩ := digit?_ten_eq_some hd
      exact ⟨d, hlt, hc, h⟩
  · cases h

/-- Digits that go on after a number that is not zero are the last ones of the number that they lead to. -/
theorem toDigits_of_digitsFrom? {n m : Nat} (hn : 0 < n) {cs : List Char} (h : digitsFrom? 10 n cs = some m) :
    Nat.toDigits 10 m = Nat.toDigits 10 n ++ cs := by
  induction cs generalizing n with
  | nil =>
      cases h
      rw [List.append_nil]
  | cons c rest ih =>
      obtain ⟨d, hlt, rfl, hrest⟩ := digitsFrom?_ten_cons h
      calc
        Nat.toDigits 10 m = Nat.toDigits 10 (10 * n + d) ++ rest := ih (by omega) hrest
        _ = (Nat.toDigits 10 n ++ Nat.toDigits 10 d) ++ rest := by
          rw [Nat.toDigits_append_toDigits (by decide) hn hlt]
        _ = Nat.toDigits 10 n ++ d.digitChar :: rest := by
          rw [Nat.toDigits_of_lt_base hlt, List.append_assoc, List.singleton_append]

theorem all_isDigit_of_digitsFrom? {n m : Nat} {cs : List Char} (h : digitsFrom? 10 n cs = some m) :
    cs.all Char.isDigit = true := by
  induction cs generalizing n with
  | nil => rfl
  | cons c rest ih =>
      obtain ⟨d, hlt, rfl, hrest⟩ := digitsFrom?_ten_cons h
      rw [List.all_cons, ih hrest, Nat.isDigit_digitChar, decide_eq_true hlt]
      rfl

/-- A number in digits without leading zeros is written in exactly these. -/
theorem toDigits_of_natural? {cs : List Char} {m : Nat} (hzero : hasLeadingZero cs = false)
    (h : natural? 10 cs = some m) : Nat.toDigits 10 m = cs := by
  cases cs with
  | nil => cases h
  | cons c rest =>
      rw [natural?, List.isEmpty_cons, if_neg Bool.false_ne_true] at h
      obtain ⟨d, hlt, rfl, hrest⟩ := digitsFrom?_ten_cons h
      rw [Nat.mul_zero, Nat.zero_add] at hrest
      rcases Nat.eq_zero_or_pos d with rfl | hpos
      · -- a first digit zero is the only one
        cases rest with
        | nil =>
            cases hrest
            rfl
        | cons c rest =>
            have hdigits : hasLeadingZero ('0' :: c :: rest) = true := all_isDigit_of_digitsFrom? hrest
            exact absurd (hdigits.symm.trans hzero) nofun
      · rw [toDigits_of_digitsFrom? hpos hrest, Nat.toDigits_of_lt_base hlt, List.singleton_append]

/-! ## Integers -/

/-- A prefix for base sixteen, eight or two. -/
inductive HasBase : List Char → Prop
  | intro {c : Char} (hc : c ∈ ['x', 'o', 'b']) (rest : List Char) : HasBase ('0' :: c :: rest)

theorem not_hasBase_toDigits (m : Nat) : ¬ HasBase (Nat.toDigits 10 m) := by
  intro h
  generalize hcs : Nat.toDigits 10 m = cs at h
  obtain ⟨hc, rest⟩ := h
  have hdigit := Nat.isDigit_of_mem_toDigits (b := 10) (n := m) (by decide) (by decide)
    (hcs ▸ List.mem_cons_of_mem '0' List.mem_cons_self)
  simp only [List.mem_cons, List.not_mem_nil, or_false] at hc
  rcases hc with rfl | rfl | rfl <;> exact absurd hdigit (by decide)

theorem magnitude?_eq_some {cs : List Char} {m : Nat} (h : magnitude? cs = some m) :
    HasBase cs ∨ cs = Nat.toDigits 10 m := by
  unfold magnitude? at h
  split at h
  · exact .inl (.intro (by decide) _)
  · exact .inl (.intro (by decide) _)
  · exact .inl (.intro (by decide) _)
  · split_ifs at h with hzero
    exact .inr (toDigits_of_natural? (Bool.eq_false_iff.2 hzero) h).symm

/-- A spelling that an integer is not written back in. -/
inductive ForeignInt : List Char → Prop
  | plus (cs : List Char) : ForeignInt ('+' :: cs)
  | based {cs : List Char} (h : HasBase cs) : ForeignInt cs
  | minusBased {cs : List Char} (h : HasBase cs) : ForeignInt ('-' :: cs)
  | minusZero : ForeignInt ['-', '0']

/-- The decimal digits of an integer, after a minus sign if it is negative. -/
theorem toList_toString_int (n : Int) :
    (toString n).toList = if n < 0 then '-' :: Nat.toDigits 10 n.natAbs else Nat.toDigits 10 n.natAbs := by
  rw [Int.toString_eq_repr, Int.repr_eq_if]
  by_cases hneg : n < 0
  · have habs : (-n).toNat = n.natAbs := by omega
    rw [if_neg (by omega), if_pos hneg, String.toList_append, Nat.toList_repr, habs]
    rfl
  · have habs : n.toNat = n.natAbs := by omega
    rw [if_pos (by omega), if_neg hneg, Nat.toList_repr, habs]

/-- What an integer is written back in is none of the foreign spellings. -/
theorem not_foreignInt_toString (n : Int) : ¬ ForeignInt (toString n).toList := by
  rw [toList_toString_int]
  split_ifs with hneg
  · generalize hcs : Nat.toDigits 10 n.natAbs = cs
    rintro (_ | ⟨⟨⟩⟩ | h | _)
    · exact not_hasBase_toDigits _ (hcs ▸ h)
    · have habs : n.natAbs = 0 := by rw [← Nat.ofDigitChars_ten_toDigits (n := n.natAbs), hcs]; decide
      omega
  · generalize hcs : Nat.toDigits 10 n.natAbs = cs
    have hdigit : ∀ c ∈ cs, c.isDigit = true := fun c hc =>
      Nat.isDigit_of_mem_toDigits (by decide) (by decide) (hcs ▸ hc)
    rintro (_ | h | h | _)
    · exact absurd (hdigit '+' List.mem_cons_self) (by decide)
    · exact not_hasBase_toDigits _ (hcs ▸ h)
    · exact absurd (hdigit '-' List.mem_cons_self) (by decide)
    · exact absurd (hdigit '-' List.mem_cons_self) (by decide)

/-- **An integer is written back as it was spelled, unless it was spelled in a foreign way.** -/
theorem toString_eq_iff_of_spelledInt? {s : String} {n : Int} (h : spelledInt? s = some n) :
    toString n = s ↔ ¬ ForeignInt s.toList := by
  refine ⟨fun heq => heq ▸ not_foreignInt_toString n, fun hforeign => String.toList_inj.1 ?_⟩
  rw [toList_toString_int]
  unfold spelledInt? at h
  split at h
  · next cs hs =>
      rw [hs] at hforeign ⊢
      obtain ⟨m, hm, h⟩ := Option.bind_eq_some_iff.1 h
      split_ifs at h
      cases h
      rcases magnitude?_eq_some hm with hbase | rfl
      · exact absurd (.minusBased hbase) hforeign
      · rcases Nat.eq_zero_or_pos m with rfl | hpos
        · exact absurd .minusZero hforeign
        · rw [if_pos (by omega), Int.natAbs_neg, Int.natAbs_natCast]
  · next cs hs => exact absurd (hs ▸ .plus cs) hforeign
  · obtain ⟨m, hm, h⟩ := Option.bind_eq_some_iff.1 h
    split_ifs at h
    cases h
    rcases magnitude?_eq_some hm with hbase | hdigits
    · exact absurd (.based hbase) hforeign
    · rw [if_neg (by omega), hdigits, Int.natAbs_natCast]

/-! ## Booleans -/

/-- The words for booleans that are not written back. -/
def foreignWords : List String := ["True", "TRUE", "False", "FALSE"]

/-- **A boolean is written back as it was spelled, unless it was spelled with a capital.** -/
theorem word_eq_iff_of_spelledBool? {s : String} {b : Bool} (h : spelledBool? s = some b) :
    (if b then "true" else "false") = s ↔ s ∉ foreignWords := by
  rw [spelledBool?] at h
  split_ifs at h with htrue hfalse
  · cases h
    rcases htrue with rfl | rfl | rfl <;> decide
  · cases h
    rcases hfalse with rfl | rfl | rfl <;> decide

end GuardedPatch.Yaml
