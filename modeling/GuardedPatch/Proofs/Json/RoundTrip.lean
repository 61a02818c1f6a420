import GuardedPatch.Json.Fields
import GuardedPatch.Proofs.TextMap

set_option autoImplicit false

/-! # Reading back what was written

The stored text of a field map reads back as that map (`readFields_writeFields`). Every character is read back from
its escape, be it a short one, four hexadecimal digits or the character itself; so every string is, and with it
every member. The reader counts bytes for its complaints and characters for its fuel. Neither matters to a text
that is read to its end: offsets are only said to exist, and there are more characters than members. -/

namespace GuardedPatch.Json

/-! ## Strings -/

theorem hexValue?_hexDigit {n : Nat} (h : n < 16) : Text.hexValue? (hexDigit n) = some n := by
  have hall : ∀ k : Fin 16, Text.hexValue? (hexDigit k) = some k.val := by decide
  exact hall ⟨n, h⟩

/-- Two hexadecimal digits give the character that they were made from. -/
theorem hexValues?_control {c : Char} (h : c.toNat < 0x20) :
    hexValues? '0' '0' (hexDigit (c.toNat / 16)) (hexDigit (c.toNat % 16)) = some c.toNat := by
  have hzero : Text.hexValue? '0' = some 0 := by decide
  have hhigh : Text.hexValue? (hexDigit (c.toNat / 16)) = some (c.toNat / 16) := hexValue?_hexDigit (by omega)
  have hlow : Text.hexValue? (hexDigit (c.toNat % 16)) = some (c.toNat % 16) := hexValue?_hexDigit (by omega)
  rw [hexValues?, hzero, hhigh, hlow]
  show some (4096 * 0 + 256 * 0 + 16 * (c.toNat / 16) + c.toNat % 16) = some c.toNat
  congr 1
  omega

/-- **Each character is read back from the way it is written.** -/
theorem readString_escapeChar (c : Char) (offset : Nat) (rest : List Char) :
    ∃ offset', readString offset (escapeChar c ++ rest) = consChar c (readString offset' rest) := by
  have hshort : ∀ e d : Char, e ≠ 'u' → shortEscape? e = some d →
      readString offset ('\\' :: e :: rest) = consChar d (readString (offset + 2) rest) := by
    intro e d hne hd
    rw [readString, hd]
    · intro _ _ _ _ _ he _
      exact hne he
    · exact hne
  unfold escapeChar
  split
  · exact ⟨_, hshort '"' '"' (by decide) rfl⟩
  · exact ⟨_, hshort '\\' '\\' (by decide) rfl⟩
  · exact ⟨_, hshort 'n' '\n' (by decide) rfl⟩
  · exact ⟨_, hshort 'r' '\r' (by decide) rfl⟩
  · exact ⟨_, hshort 't' '\t' (by decide) rfl⟩
  · exact ⟨_, hshort 'b' '\x08' (by decide) rfl⟩
  · exact ⟨_, hshort 'f' '\x0c' (by decide) rfl⟩
  · next hquote hbackslash _ _ _ _ _ =>
      split
      · next hcontrol =>
          refine ⟨offset + 6, ?_⟩
          have hlow : ¬ (0xDC00 ≤ c.toNat ∧ c.toNat ≤ 0xDFFF) := by omega
          have hhigh : ¬ (0xD800 ≤ c.toNat ∧ c.toNat ≤ 0xDBFF) := by omega
          simp only [List.cons_append, List.nil_append]
          rw [readString, hexValues?_control hcontrol]
          simp only [if_neg hlow, if_neg hhigh, Char.ofNat_toNat]
      · next hplain =>
          refine ⟨offset + c.utf8Size, ?_⟩
          rw [List.singleton_append, readString, if_neg hplain]
          · exact hquote
          all_goals
            intros
            exact hbackslash ‹_›

/-- A written string is read back, up to its closing quote. -/
theorem readString_flatMap (cs : List Char) (offset : Nat) (rest : List Char) :
    ∃ offset', readString offset (cs.flatMap escapeChar ++ '"' :: rest) = .ok (cs, ⟨offset', rest⟩) := by
  induction cs generalizing offset with
  | nil => exact ⟨offset + 1, rfl⟩
  | cons c cs ih =>
      obtain ⟨next, hc⟩ := readString_escapeChar c offset (cs.flatMap escapeChar ++ '"' :: rest)
      obtain ⟨offset', hcs⟩ := ih next
      refine ⟨offset', ?_⟩
      rw [List.flatMap_cons, List.append_assoc, hc, hcs]
      rfl

theorem readText_stringChars (s : String) (offset : Nat) (rest : List Char) :
    ∃ offset', readText ⟨offset, stringChars s ++ rest⟩ = .ok (s, ⟨offset', rest⟩) := by
  obtain ⟨offset', hs⟩ := readString_flatMap s.toList (offset + 1) rest
  refine ⟨offset', ?_⟩
  have hskip : Cursor.skipBlanks ⟨offset, stringChars s ++ rest⟩
      = ⟨offset, '"' :: (s.toList.flatMap escapeChar ++ '"' :: rest)⟩ := by
    rw [stringChars, List.cons_append, List.cons_append, List.append_assoc]
    rfl
  rw [readText, hskip]
  simp only [hs, Except.map, String.ofList_toList]

/-! ## Members -/

/-- A member as it is written. -/
def memberChars (e : String × String) : List Char :=
  stringChars e.1 ++ ':' :: stringChars e.2

/-- What is written after a member. -/
def tailChars : List (String × String) → List Char
  | [] => []
  | e :: rest => ',' :: memberChars e ++ tailChars rest

theorem membersChars_ofTextMap (e : String × String) (rest : List (String × String)) :
    membersChars ((e :: rest).map fun e => (e.1, .str e.2)) = memberChars e ++ tailChars rest := by
  induction rest generalizing e with
  | nil => simp [membersChars, memberChars, tailChars, Value.chars]
  | cons f rest ih =>
      rw [List.map_cons, List.map_cons, membersChars,
        ← List.map_cons (f := fun e : String × String => (e.1, Value.str e.2)), ih f]
      · simp [memberChars, tailChars, Value.chars]
      · simp

theorem readMember_memberChars (e : String × String) (offset : Nat) (rest : List Char) :
    ∃ offset', readMember ⟨offset, memberChars e ++ rest⟩ = .ok (e, ⟨offset', rest⟩) := by
  obtain ⟨o₁, hname⟩ := readText_stringChars e.1 offset (':' :: (stringChars e.2 ++ rest))
  obtain ⟨o₂, hvalue⟩ := readText_stringChars e.2 (o₁ + 1) rest
  refine ⟨o₂, ?_⟩
  have hcolon : readColon ⟨o₁, ':' :: (stringChars e.2 ++ rest)⟩ = .ok ⟨o₁ + 1, stringChars e.2 ++ rest⟩ := rfl
  rw [readMember, memberChars, List.append_assoc, List.cons_append, hname]
  simp only [bind, Except.bind, hcolon, hvalue, pure, Except.pure]

theorem memberChars_eq (e : String × String) :
    ∃ body, memberChars e = '"' :: body := ⟨_, rfl⟩

/-- A member that could be read, and the members after it. -/
theorem readMembers_of_readMember {fuel : Nat} {p p₁ p₂ : Cursor} {e : String × String} {es : List (String × String)}
    (hmember : readMember p = .ok (e, p₁)) (hrest : readMembers fuel false p₁ = .ok (es, p₂)) :
    (do
      let (e, p) ← readMember p
      let (es, p) ← readMembers fuel false p
      return (e :: es, p)) = Except.ok (e :: es, p₂) := by
  rw [hmember]
  simp only [bind, Except.bind, hrest, pure, Except.pure]

/-- The members after the first are read back up to the closing brace. -/
theorem readMembers_tailChars {es : List (String × String)} {fuel : Nat} (h : es.length < fuel) (offset : Nat)
    (rest : List Char) :
    ∃ offset', readMembers fuel false ⟨offset, tailChars es ++ '\x7d' :: rest⟩ = .ok (es, ⟨offset', rest⟩) := by
  induction es generalizing fuel offset with
  | nil =>
      obtain ⟨n, rfl⟩ : ∃ n, fuel = n + 1 := ⟨fuel - 1, by simp at h; omega⟩
      exact ⟨offset + 1, rfl⟩
  | cons e es ih =>
      obtain ⟨n, rfl⟩ : ∃ n, fuel = n + 1 := ⟨fuel - 1, by simp at h; omega⟩
      obtain ⟨o₁, hmember⟩ := readMember_memberChars e (offset + 1) (tailChars es ++ '\x7d' :: rest)
      have hfuel : es.length < n := by simpa using h
      obtain ⟨o₂, htail⟩ := ih hfuel o₁
      obtain ⟨body, hbody⟩ := memberChars_eq e
      refine ⟨o₂, ?_⟩
      rw [hbody] at hmember
      rw [tailChars, hbody, List.cons_append, List.cons_append, List.append_assoc, List.cons_append]
      exact readMembers_of_readMember hmember htail

/-- All members are read back up to the closing brace. -/
theorem readMembers_membersChars {es : List (String × String)} {fuel : Nat} (h : es.length < fuel) (offset : Nat)
    (rest : List Char) :
    ∃ offset', readMembers fuel true
        ⟨offset, membersChars (es.map fun e => (e.1, .str e.2)) ++ '\x7d' :: rest⟩ = .ok (es, ⟨offset', rest⟩) := by
  obtain ⟨n, rfl⟩ : ∃ n, fuel = n + 1 := ⟨fuel - 1, by omega⟩
  cases es with
  | nil => exact ⟨offset + 1, rfl⟩
  | cons e es =>
      obtain ⟨o₁, hmember⟩ := readMember_memberChars e offset (tailChars es ++ '\x7d' :: rest)
      have hfuel : es.length < n := by simpa using h
      obtain ⟨o₂, htail⟩ := readMembers_tailChars hfuel o₁ rest
      obtain ⟨body, hbody⟩ := memberChars_eq e
      refine ⟨o₂, ?_⟩
      rw [hbody] at hmember
      rw [membersChars_ofTextMap, hbody, List.append_assoc, List.cons_append]
      exact readMembers_of_readMember hmember htail

/-! ## Field maps -/

theorem length_le_tailChars (es : List (String × String)) : es.length ≤ (tailChars es).length := by
  induction es with
  | nil => exact Nat.le_refl 0
  | cons e es ih =>
      rw [tailChars, List.length_append, List.length_cons, List.length_cons]
      omega

/-- There are more characters than members, so that the fuel suffices. -/
theorem length_le_membersChars (es : List (String × String)) :
    es.length ≤ (membersChars (es.map fun e => (e.1, .str e.2))).length := by
  cases es with
  | nil => exact Nat.le_refl 0
  | cons e es =>
      have htail := length_le_tailChars es
      obtain ⟨body, hbody⟩ := memberChars_eq e
      rw [membersChars_ofTextMap, hbody, List.length_append, List.length_cons, List.length_cons]
      omega

theorem readObject_ofTextMap (m : TextMap) : readObject (Value.ofTextMap m).chars = .ok m.entries := by
  have hchars : (Value.ofTextMap m).chars
      = '\x7b' :: (membersChars (m.entries.map fun e => (e.1, .str e.2)) ++ '\x7d' :: []) := by
    rw [Value.ofTextMap, Value.chars]
    rfl
  have hfuel : m.entries.length < (Value.ofTextMap m).chars.length + 1 := by
    have := length_le_membersChars m.entries
    rw [hchars, List.length_cons, List.length_append]
    omega
  obtain ⟨offset, hmembers⟩ := readMembers_membersChars hfuel 1 []
  rw [hchars] at hmembers ⊢
  show (do
    let (es, p) ← readMembers _ true ⟨1, _⟩
    let p := p.skipBlanks
    if p.rest.isEmpty then return es else throw (p.faultAhead .trailingCharacters)) = Except.ok m.entries
  rw [hmembers]
  rfl

/-- **The stored text of a field map reads back as that map.** -/
theorem readFields_writeFields (m : TextMap) : readFields (writeFields m) = .ok m := by
  have hsame : TextMap.ofList m.entries = m := by
    apply TextMap.ext_get?
    intro k
    rw [TextMap.ofList, TextMap.get?_overlaid]
    exact Option.or_none
  rw [readFields, writeFields, Value.compact, String.toList_ofList, readObject_ofTextMap]
  exact congrArg Except.ok hsame

end GuardedPatch.Json
