import GuardedPatch.Patch.Load
import Mathlib.Data.List.Nodup

set_option autoImplicit false

/-! # Valid documents

A document is valid when its entries pass the checks: each one is complete, and no parameter and no feature is changed
twice (`checkParams_eq_ok_iff`, `checkFeatures_eq_ok_iff`). A document that was loaded from a text is valid. -/

namespace GuardedPatch

/-! ## Steps that may fail -/

section Steps

variable {ε α β : Type} {x : Except ε α} {f : α → Except ε β}

theorem bind_eq_ok_iff {b : β} : x >>= f = .ok b ↔ ∃ a, x = .ok a ∧ f a = .ok b := by
  cases x <;> simp [bind, Except.bind]

theorem bind_eq_error_iff {e : ε} : x >>= f = .error e ↔ x = .error e ∨ ∃ a, x = .ok a ∧ f a = .error e := by
  cases x <;> simp [bind, Except.bind]

end Steps

/-! ## Secret fields -/

/-- A name speaks of a token, a password or a secret, in letters of either case. -/
def NamesSecret (name : String) : Prop :=
  ∃ word ∈ ["token", "password", "secret"], word.toList <:+: name.toList.map Char.toLower

theorem containsRun_iff {run cs : List Char} : containsRun run cs = true ↔ run <:+: cs := by
  induction cs with
  | nil => rw [containsRun, List.isEmpty_iff, List.infix_nil]
  | cons c rest ih => rw [containsRun, Bool.or_eq_true, List.isPrefixOf_iff_prefix, ih, List.infix_cons_iff]

theorem isSecretField_iff {name : String} : isSecretField name = true ↔ NamesSecret name := by
  simp only [isSecretField, NamesSecret, Bool.or_eq_true, containsRun_iff, List.mem_cons, List.not_mem_nil, or_false,
    or_and_right, exists_or, exists_eq_left, or_assoc]

/-- A field may be stored: if its name speaks of a secret, its value is a reference. -/
def SafeField (e : String × String) : Prop :=
  NamesSecret e.1 → (SecretRef.parse? e.2).isSome = true

theorem Document.isSafeField_iff {name value : String} :
    isSafeField name value = true ↔ (isSecretField name = true → (SecretRef.parse? value).isSome = true) := by
  unfold isSafeField
  cases isSecretField name <;> simp

theorem safeField_iff {e : String × String} : SafeField e ↔ Document.isSafeField e.1 e.2 = true := by
  rw [SafeField, Document.isSafeField_iff, isSecretField_iff]

/-! ## Sound entries -/

/-- Nothing is missing in a parameter change. -/
structure ParamChange.Complete (c : ParamChange) : Prop where
  key : ¬ Text.isBlank c.key
  expected : c.expected ≠ ""
  update : c.update ≠ ""

/-- Nothing is missing in a feature change, and it carries no secret. -/
structure FeatureChange.Complete (c : FeatureChange) : Prop where
  id : ¬ Text.isBlank c.id
  type : c.mode = .create → ∃ type, c.type? = some type ∧ ¬ Text.isBlank type
  secrets : ∀ e ∈ c.desired.entries, SafeField e

namespace Document

/-- The entries of a document pass the checks. -/
def Valid (d : Document) : Prop :=
  checkParams d.params = .ok () ∧ checkFeatures d.features = .ok ()

theorem valid_of_of? {project : String} {params : List ParamChange} {features : List FeatureChange} {d : Document}
    (h : Document.of? project params features = .ok d) : d.Valid := by
  rw [Document.of?, bind_eq_ok_iff] at h
  obtain ⟨⟨⟩, hparams, h⟩ := h
  obtain ⟨⟨⟩, hfeatures, h⟩ := bind_eq_ok_iff.1 h
  cases h
  exact ⟨hparams, hfeatures⟩

/-! ## Checks

Both kinds of entries are checked in the same way: one after the other, each against the names seen so far. -/

section Checks

variable {α : Type} (name : α → String) (check : Nat → List String → α → Except LoadError Unit)
  {checkFrom : Nat → List String → List α → Except LoadError Unit}
  (hnil : ∀ index seen, checkFrom index seen [] = .ok ())
  (hcons : ∀ index seen a rest, checkFrom index seen (a :: rest)
    = (do check index seen a; checkFrom (index + 1) (name a :: seen) rest))
include hnil hcons

/-- If a check asks for a property and for a name that is new, entries pass if each has the property and no name occurs
twice. -/
theorem checkFrom_eq_ok_iff {P : α → Prop}
    (hcheck : ∀ index seen a, check index seen a = .ok () ↔ P a ∧ name a ∉ seen) {index : Nat} {seen : List String}
    {as : List α} :
    checkFrom index seen as = .ok () ↔ (∀ a ∈ as, P a) ∧ (as.map name).Nodup ∧ ∀ a ∈ as, name a ∉ seen := by
  induction as generalizing index seen with
  | nil => simp [hnil]
  | cons a rest ih =>
      have hhead : checkFrom index seen (a :: rest) = .ok () ↔
          check index seen a = .ok () ∧ checkFrom (index + 1) (name a :: seen) rest = .ok () := by
        rw [hcons, bind_eq_ok_iff]
        exact ⟨fun ⟨_, h⟩ => h, fun h => ⟨(), h⟩⟩
      rw [hhead, hcheck, ih, List.forall_mem_cons, List.forall_mem_cons, List.map_cons, List.nodup_cons]
      simp only [List.mem_cons, not_or, List.mem_map, not_exists, not_and]
      constructor
      · rintro ⟨⟨hP, hnew⟩, hPs, hnodup, hseen⟩
        exact ⟨⟨hP, hPs⟩, ⟨fun x hx => (hseen x hx).1, hnodup⟩, hnew, fun x hx => (hseen x hx).2⟩
      · rintro ⟨⟨hP, hPs⟩, ⟨hdistinct, hnodup⟩, hnew, hseen⟩
        exact ⟨⟨hP, hnew⟩, hPs, hnodup, fun x hx => ⟨hdistinct x hx, hseen x hx⟩⟩

/-- **The first error is that of an entry whose predecessors pass**, at its own place and after their names. -/
theorem checkFrom_eq_error_iff {index : Nat} {seen : List String} {as : List α} {e : LoadError} :
    checkFrom index seen as = .error e ↔ ∃ before a after, as = before ++ a :: after
      ∧ checkFrom index seen before = .ok ()
      ∧ check (index + before.length) ((before.map name).reverse ++ seen) a = .error e := by
  induction as generalizing index seen with
  | nil =>
      rw [hnil]
      refine iff_of_false nofun ?_
      rintro ⟨before, a, after, hsplit, -⟩
      simp at hsplit
  | cons a rest ih =>
      -- the first entry is the faulty one, or it passes and the faulty one is among the others
      have hhead : (∃ before x after, a :: rest = before ++ x :: after ∧ checkFrom index seen before = .ok ()
            ∧ check (index + before.length) ((before.map name).reverse ++ seen) x = .error e)
          ↔ check index seen a = .error e ∨ check index seen a = .ok () ∧ checkFrom (index + 1) (name a :: seen) rest
            = .error e := by
        rw [ih]
        constructor
        · rintro ⟨before, x, after, hsplit, hbefore, herror⟩
          cases before with
          | nil =>
              obtain ⟨rfl, rfl⟩ := List.cons.inj hsplit
              exact .inl herror
          | cons b before =>
              obtain ⟨rfl, rfl⟩ := List.cons.inj hsplit
              obtain ⟨_, hb, hbefore⟩ := bind_eq_ok_iff.1 (hcons index seen a before ▸ hbefore)
              refine .inr ⟨hb, before, x, after, rfl, hbefore, ?_⟩
              simpa [Nat.add_assoc, Nat.add_comm 1] using herror
        · rintro (herror | ⟨ha, before, x, after, rfl, hbefore, herror⟩)
          · exact ⟨[], a, rest, rfl, hnil index seen, herror⟩
          · refine ⟨a :: before, x, after, rfl, ?_, ?_⟩
            · rw [hcons, ha]
              exact hbefore
            · simpa [Nat.add_assoc, Nat.add_comm 1] using herror
      rw [hcons, hhead, bind_eq_error_iff]
      exact or_congr_right ⟨fun ⟨_, h⟩ => h, fun h => ⟨(), h⟩⟩

end Checks

theorem checkParam_eq_ok_iff {index : Nat} {seen : List String} {c : ParamChange} :
    checkParam index seen c = .ok () ↔ c.Complete ∧ c.key ∉ seen := by
  rw [checkParam]
  split_ifs with hkey hexpected hupdate hseen
  · simpa using fun h : c.Complete => absurd hkey h.key
  · simpa using fun h : c.Complete => absurd hexpected h.expected
  · simpa using fun h : c.Complete => absurd hupdate h.update
  · simpa using fun _ => hseen
  · simpa using ⟨⟨hkey, hexpected, hupdate⟩, hseen⟩

/-- **Parameter changes pass if each one is complete and no parameter is changed twice.** -/
theorem checkParams_eq_ok_iff {cs : List ParamChange} :
    checkParams cs = .ok () ↔ (∀ c ∈ cs, c.Complete) ∧ (cs.map (·.key)).Nodup := by
  rw [checkParams, checkFrom_eq_ok_iff ParamChange.key checkParam (fun _ _ => rfl)
    (fun _ _ _ _ => rfl) fun _ _ _ => checkParam_eq_ok_iff]
  simp

/-- A type is missing exactly if there is none that is not blank. -/
theorem all_isBlank_iff {type? : Option String} :
    type?.all Text.isBlank = true ↔ ¬ ∃ type, type? = some type ∧ ¬ Text.isBlank type := by
  cases type? <;> simp

theorem checkFeature_eq_ok_iff {index : Nat} {seen : List String} {c : FeatureChange} :
    checkFeature index seen c = .ok () ↔ c.Complete ∧ c.id ∉ seen := by
  constructor
  · intro h
    rw [checkFeature] at h
    split_ifs at h with hid hseen htype
    split at h
    · cases h
    · next hsafe =>
        refine ⟨⟨hid, fun hmode => ?_, fun e he => ?_⟩, hseen⟩
        · by_contra hnone
          exact htype ⟨hmode, all_isBlank_iff.2 hnone⟩
        · rw [safeField_iff]
          simpa using List.find?_eq_none.1 hsafe e he
  · rintro ⟨hcomplete, hseen⟩
    have htype : ¬ (c.mode = .create ∧ c.type?.all Text.isBlank = true) := fun h =>
      all_isBlank_iff.1 h.2 (hcomplete.type h.1)
    have hsafe : (c.desired.entries.find? fun e => !isSafeField e.1 e.2) = none :=
      List.find?_eq_none.2 fun e he => by simpa using safeField_iff.1 (hcomplete.secrets e he)
    rw [checkFeature, if_neg hcomplete.id, if_neg hseen, if_neg htype, hsafe]

/-- **Feature changes pass if each one is complete and no feature is changed twice.** -/
theorem checkFeatures_eq_ok_iff {cs : List FeatureChange} :
    checkFeatures cs = .ok () ↔ (∀ c ∈ cs, c.Complete) ∧ (cs.map (·.id)).Nodup := by
  rw [checkFeatures, checkFrom_eq_ok_iff FeatureChange.id checkFeature (fun _ _ => rfl)
    (fun _ _ _ _ => rfl) fun _ _ _ => checkFeature_eq_ok_iff]
  simp

/-- **A document is valid if its entries are complete and none of them is about what another one is about.** -/
theorem valid_iff {d : Document} :
    d.Valid ↔ ((∀ c ∈ d.params, c.Complete) ∧ (d.params.map (·.key)).Nodup)
      ∧ (∀ c ∈ d.features, c.Complete) ∧ (d.features.map (·.id)).Nodup := by
  rw [Valid, checkParams_eq_ok_iff, checkFeatures_eq_ok_iff]

namespace Valid

variable {d : Document}

/-- No parameter is changed twice. -/
theorem keys_nodup (h : d.Valid) : (d.params.map (·.key)).Nodup :=
  (checkParams_eq_ok_iff.1 h.1).2

/-- No feature is changed twice. -/
theorem ids_nodup (h : d.Valid) : (d.features.map (·.id)).Nodup :=
  (checkFeatures_eq_ok_iff.1 h.2).2

end Valid

end Document

theorem RawPatch.valid_of_toDocument {p : RawPatch} {d : Document} (h : p.toDocument = .ok d) : d.Valid := by
  rw [RawPatch.toDocument] at h
  split_ifs at h with hversion
  · cases h
  · obtain ⟨_, _, h⟩ := bind_eq_ok_iff.1 h
    exact Document.valid_of_of? h

/-- **What is loaded is valid.** -/
theorem load_valid {text : String} {d : Document} (h : load text = .ok d) : d.Valid := by
  unfold load at h
  generalize RawPatch.ofText text = raw at h
  cases raw with
  | ok p => exact RawPatch.valid_of_toDocument h
  | error e => simp at h

end GuardedPatch
