import Mathlib.Data.List.Lex

set_option autoImplicit false

/-! # The order of texts by their bytes

Texts are compared by their code points. UTF-8 keeps that order (`bytes_lt_iff`): of two characters the one with the
lower number has the lower bytes, at the latest in the place where the shorter code ends, whatever follows. -/

namespace GuardedPatch.Text

/-- The bytes of a text in UTF-8. -/
def bytes (s : String) : List UInt8 :=
  s.toUTF8.data.toList

theorem bytes_eq_flatMap (s : String) : bytes s = s.toList.flatMap String.utf8EncodeChar := by
  rw [bytes, String.toUTF8_eq_toByteArray, ← String.utf8Encode_toList, List.utf8Encode, List.data_toByteArray]

/-- The bytes of two characters are in their order, whatever follows them. -/
theorem utf8EncodeChar_append_lt {c d : Char} (h : c < d) (xs ys : List UInt8) :
    String.utf8EncodeChar c ++ xs < String.utf8EncodeChar d ++ ys := by
  have hval : c.val.toNat < d.val.toNat := h
  have hvalid : d.val.toNat < 0xd800 ∨ 0xdfff < d.val.toNat ∧ d.val.toNat < 0x110000 := d.valid
  have hdiv (v : Nat) : v / 4096 = v / 64 / 64 ∧ v / 262144 = v / 64 / 64 / 64 := by
    simp only [Nat.div_div_eq_div_mul, Nat.reduceMul, and_self]
  -- one case for each pair of lengths, in which bytes are compared as numbers
  simp only [String.utf8EncodeChar, hdiv]
  split_ifs <;> simp only [List.cons_append, List.cons_lt_cons_iff, UInt8.lt_iff_toNat_lt, ← UInt8.toNat_inj,
    UInt8.toNat_ofNat'] <;> omega

theorem flatMap_utf8EncodeChar_lt {cs ds : List Char} (h : cs < ds) :
    cs.flatMap String.utf8EncodeChar < ds.flatMap String.utf8EncodeChar := by
  induction cs generalizing ds with
  | nil =>
      cases ds with
      | nil => exact absurd h (List.lt_irrefl _)
      | cons d ds =>
          rw [List.flatMap_nil, List.flatMap_cons]
          obtain ⟨b, bs, hb⟩ := List.exists_cons_of_ne_nil (String.utf8EncodeChar_ne_nil (c := d))
          rw [hb, List.cons_append]
          exact List.nil_lt_cons _ _
  | cons c cs ih =>
      cases ds with
      | nil => exact absurd h (List.not_lt_nil _)
      | cons d ds =>
          rw [List.flatMap_cons, List.flatMap_cons]
          obtain hlt | ⟨rfl, hrest⟩ := List.cons_lt_cons_iff.1 h
          · exact utf8EncodeChar_append_lt hlt _ _
          · exact List.append_left_lt (ih hrest)

/-- **Texts are in the order of their bytes.** -/
theorem bytes_lt_iff {s t : String} : bytes s < bytes t ↔ s < t := by
  have hforward : ∀ {s t : String}, s < t → bytes s < bytes t := by
    intro s t h
    rw [bytes_eq_flatMap, bytes_eq_flatMap]
    exact flatMap_utf8EncodeChar_lt h
  refine ⟨fun h => ?_, hforward⟩
  by_contra hnot
  have hle : t ≤ s := String.not_lt.1 hnot
  have hne : t ≠ s := fun heq => List.lt_irrefl (bytes s) (heq ▸ h)
  exact List.lt_asymm h (hforward (Std.lt_of_le_of_ne hle hne))

theorem bytes_le_iff {s t : String} : bytes s ≤ bytes t ↔ s ≤ t := by
  rw [← List.not_lt, ← String.not_lt, bytes_lt_iff]

end GuardedPatch.Text
