import GuardedPatch.Patch.Secret
import Mathlib.Data.List.Basic

set_option autoImplicit false

/-! # Credential references

The value of a secret field is accepted if it is a reference, and a literal is whatever is none. So the grammar of
references is the boundary that keeps credentials out of patches, and reading accepts exactly that grammar
(`SecretRef.parse?_eq_some_iff`): a lead, and after it an id that is not blank or the name of a variable. Neither lead
starts with the other one, so that each value is read in one way only.

A reference is written as the value that it was read from, to the last blank. -/

namespace GuardedPatch

/-! ## Leads -/

theorem afterLead?_eq_some_iff {lead cs rest : List Char} : afterLead? lead cs = some rest ↔ cs = lead ++ rest := by
  unfold afterLead?
  constructor
  · intro h
    split_ifs at h with hlead
    obtain ⟨tail, rfl⟩ := List.isPrefixOf_iff_prefix.1 hlead
    simpa using h
  · rintro rfl
    simp

theorem afterLead?_toList_eq_some_iff {lead value : String} {rest : List Char} :
    afterLead? lead.toList value.toList = some rest ↔ value = lead ++ String.ofList rest := by
  rw [afterLead?_eq_some_iff, ← String.toList_inj, String.toList_append, String.toList_ofList]

namespace SecretRef

/-- What starts with the lead of a variable does not start with that of a credential. -/
theorem afterLead?_credentialsLead_envLead (name : String) :
    afterLead? credentialsLead.toList (envLead ++ name).toList = none := by
  rw [String.toList_append]
  rfl

/-! ## The grammar -/

/-- The names of environment variables are made of ASCII letters, ASCII digits and underscores. -/
def IsNameChar (c : Char) : Prop :=
  ('a' ≤ c ∧ c ≤ 'z') ∨ ('A' ≤ c ∧ c ≤ 'Z') ∨ ('0' ≤ c ∧ c ≤ '9') ∨ c = '_'

theorem isVariableChar_iff {c : Char} : isVariableChar c = true ↔ IsNameChar c := by
  have hrange (low high : Char) :
      (decide (c.val ≥ low.val) && decide (c.val ≤ high.val)) = true ↔ low ≤ c ∧ c ≤ high := by
    rw [Bool.and_eq_true, decide_eq_true_iff, decide_eq_true_iff]
    exact Iff.rfl
  have hlower : c.isLower = true ↔ 'a' ≤ c ∧ c ≤ 'z' := hrange 'a' 'z'
  have hupper : c.isUpper = true ↔ 'A' ≤ c ∧ c ≤ 'Z' := decide_eq_true_iff
  have hdigit : c.isDigit = true ↔ '0' ≤ c ∧ c ≤ '9' := hrange '0' '9'
  have hclasses : isVariableChar c = (((c.isUpper || c.isLower) || c.isDigit) || c == '_') := rfl
  rw [hclasses, Bool.or_eq_true, Bool.or_eq_true, Bool.or_eq_true, hupper, hlower, hdigit, beq_iff_eq, IsNameChar,
    or_assoc, or_assoc, or_left_comm]

/-- A reference is written as a value: a credential with an id that is not blank, a variable with its name. -/
inductive WrittenAs : SecretRef → String → Prop
  | credentials {id : String} (hid : ¬ Text.isBlank id) : WrittenAs (.credentials id) ("credentialsJSON:" ++ id)
  | env {name : String} (hne : name ≠ "") (hname : ∀ c ∈ name.toList, IsNameChar c) :
    WrittenAs (.env name) ("env:" ++ name)

theorem WrittenAs.text_eq {r : SecretRef} {value : String} (h : r.WrittenAs value) : r.text = value := by
  cases h <;> rfl

/-! ## Reading -/

/-- After the lead of credentials, an id is read that is not blank. -/
theorem parse?_credentialsLead {id : String} (hid : ¬ Text.isBlank id) :
    parse? (credentialsLead ++ id) = some (.credentials id) := by
  have hrest : afterLead? credentialsLead.toList (credentialsLead ++ id).toList = some id.toList := by
    rw [afterLead?_toList_eq_some_iff, String.ofList_toList]
  rw [Text.isBlank] at hid
  unfold parse?
  rw [hrest]
  dsimp only
  rw [if_neg hid, String.ofList_toList]

/-- After the lead of variables, a name is read that is there and has the characters of names. -/
theorem parse?_envLead {name : String} (hne : name ≠ "") (hname : ∀ c ∈ name.toList, IsNameChar c) :
    parse? (envLead ++ name) = some (.env name) := by
  have hrest : afterLead? envLead.toList (envLead ++ name).toList = some name.toList := by
    rw [afterLead?_toList_eq_some_iff, String.ofList_toList]
  have hchars : (!name.toList.isEmpty && name.toList.all isVariableChar) = true := by
    rw [Bool.and_eq_true, List.all_eq_true]
    refine ⟨by simpa using hne, ?_⟩
    intro c hc
    exact isVariableChar_iff.2 (hname c hc)
  unfold parse?
  rw [afterLead?_credentialsLead_envLead, hrest]
  dsimp only
  rw [if_pos hchars, String.ofList_toList]

/-- What is read from a value is written as that value. -/
theorem writtenAs_of_parse? {value : String} {r : SecretRef} (h : parse? value = some r) : r.WrittenAs value := by
  -- the lead that was found tells which of the two grammars applies
  unfold parse? at h
  split at h
  · next id hid =>
      split_ifs at h with hblank
      cases h
      rw [afterLead?_toList_eq_some_iff.1 hid]
      exact .credentials (by simpa [Text.isBlank] using hblank)
  · split at h
    · next name hname =>
        split_ifs at h with hchars
        cases h
        rw [afterLead?_toList_eq_some_iff.1 hname]
        simp only [Bool.and_eq_true, Bool.not_eq_true', List.isEmpty_eq_false_iff, List.all_eq_true] at hchars
        refine .env (by simpa using hchars.1) ?_
        intro c hc
        rw [String.toList_ofList] at hc
        exact isVariableChar_iff.1 (hchars.2 c hc)
    · cases h

/-- **A reference is read from exactly the values that it is written as.** -/
theorem parse?_eq_some_iff {value : String} {r : SecretRef} : parse? value = some r ↔ r.WrittenAs value := by
  constructor
  · exact writtenAs_of_parse?
  · intro h
    cases h with
    | credentials hid => exact parse?_credentialsLead hid
    | env hne hname => exact parse?_envLead hne hname

/-- A value is a reference if some reference is written as it. -/
theorem isSome_parse?_iff {value : String} : (parse? value).isSome = true ↔ ∃ r : SecretRef, r.WrittenAs value := by
  simp only [Option.isSome_iff_exists, parse?_eq_some_iff]

theorem exists_writtenAs_iff {value : String} :
    (∃ r : SecretRef, r.WrittenAs value) ↔
      (∃ id, value = "credentialsJSON:" ++ id ∧ ¬ Text.isBlank id)
        ∨ ∃ name, value = "env:" ++ name ∧ name ≠ "" ∧ ∀ c ∈ name.toList, IsNameChar c := by
  constructor
  · rintro ⟨r, h⟩
    cases h with
    | @credentials id hid => exact .inl ⟨id, rfl, hid⟩
    | @env name hne hname => exact .inr ⟨name, rfl, hne, hname⟩
  · rintro (⟨id, rfl, hid⟩ | ⟨name, rfl, hne, hname⟩)
    · exact ⟨_, .credentials hid⟩
    · exact ⟨_, .env hne hname⟩

end SecretRef

/-- **Credential references are read back as they are written, over an exact grammar.** A value is accepted exactly if
    it is `credentialsJSON:` and a text that is not all blanks, or `env:` and one or more ASCII letters, ASCII digits
    or underscores. The reference that is read from a value is written as this value and as no other one, and is read
    from it again. -/
theorem references_round_trip (value : String) :
    ((SecretRef.parse? value).isSome = true ↔
        (∃ id, value = "credentialsJSON:" ++ id ∧ ¬ Text.isBlank id)
          ∨ ∃ name, value = "env:" ++ name ∧ name ≠ "" ∧ ∀ c ∈ name.toList, SecretRef.IsNameChar c)
      ∧ ∀ r, SecretRef.parse? value = some r →
        r.text = value ∧ SecretRef.parse? r.text = some r
          ∧ ∀ other, SecretRef.parse? other = some r → other = value := by
  constructor
  · rw [SecretRef.isSome_parse?_iff, SecretRef.exists_writtenAs_iff]
  · intro r h
    have htext : r.text = value := (SecretRef.writtenAs_of_parse? h).text_eq
    refine ⟨htext, by rw [htext, h], ?_⟩
    intro other hother
    calc
      other = r.text := (SecretRef.writtenAs_of_parse? hother).text_eq.symm
      _ = value := htext

/-- The id of a credential starts with a blank, and with the lead of a variable after it. -/
theorem references_round_trip_nested :
    let value := "credentialsJSON:\u00a0env:A B"
    let r : SecretRef := .credentials "\u00a0env:A B"
    SecretRef.parse? value = some r ∧ r.text = value ∧ SecretRef.parse? r.text = some r
      ∧ ∀ other, SecretRef.parse? other = some r → other = value := by
  intro value r
  have hread : SecretRef.parse? value = some r := by decide +kernel
  exact ⟨hread, (references_round_trip value).2 r hread⟩

end GuardedPatch
