import GuardedPatch.Proofs.Document
import GuardedPatch.Proofs.Text.Bytes

set_option autoImplicit false

/-! # The first fault of a document

Entries are sound if each one is complete and no name occurs twice, and exactly the lists of sound entries make a
document. Otherwise the error is about the first entry that is not complete or whose name occurred before: the entries
in front of it are sound, so that it is also the second one of its name (`Document.FirstFault`). What an entry lacks is
told by the first check that it fails, and of several secret fields with a literal the first one in the order of the
bytes of their names is told. -/

namespace GuardedPatch

/-! ## Sound entries -/

/-- Parameter changes are complete, and no parameter is changed twice. -/
structure ParamChange.Sound (cs : List ParamChange) : Prop where
  complete : ∀ c ∈ cs, c.Complete
  distinct : (cs.map (·.key)).Nodup

/-- Feature changes are complete, and no feature is changed twice. -/
structure FeatureChange.Sound (cs : List FeatureChange) : Prop where
  complete : ∀ c ∈ cs, c.Complete
  distinct : (cs.map (·.id)).Nodup

/-! ## Faults of one entry -/

/-- What is wrong with a parameter change after other ones. -/
inductive ParamChange.Fault (before : List ParamChange) (c : ParamChange) : LoadError → Prop
  | blankKey (hkey : Text.isBlank c.key) :
    Fault before c (.missingField ("params[" ++ toString before.length ++ "]") "key")
  | noExpectation (hkey : ¬ Text.isBlank c.key) (hexpected : c.expected = "") :
    Fault before c (.missingField c.key "expect")
  | noUpdate (hkey : ¬ Text.isBlank c.key) (hexpected : c.expected ≠ "") (hupdate : c.update = "") :
    Fault before c (.missingField c.key "update")
  | secondOfKey (hcomplete : c.Complete) (hcount : (before.map (·.key)).count c.key = 1) :
    Fault before c (.duplicateKey c.key)

/-- What is wrong with a feature change after other ones. -/
inductive FeatureChange.Fault (before : List FeatureChange) (c : FeatureChange) : LoadError → Prop
  | blankId (hid : Text.isBlank c.id) :
    Fault before c (.missingField ("features[" ++ toString before.length ++ "]") "id")
  | secondOfId (hid : ¬ Text.isBlank c.id) (hcount : (before.map (·.id)).count c.id = 1) :
    Fault before c (.duplicateFeature c.id)
  | noType (hid : ¬ Text.isBlank c.id) (hnew : c.id ∉ before.map (·.id)) (hmode : c.mode = .create)
    (htype : ¬ ∃ type, c.type? = some type ∧ ¬ Text.isBlank type) :
    Fault before c (.invalidFeatureMode c.id "create requires a feature type")
  | inlineSecret (hid : ¬ Text.isBlank c.id) (hnew : c.id ∉ before.map (·.id))
    (htype : c.mode = .create → ∃ type, c.type? = some type ∧ ¬ Text.isBlank type) {e : String × String}
    (he : e ∈ c.desired.entries) (hliteral : ¬ SafeField e)
    (hleast : ∀ x ∈ c.desired.entries, ¬ SafeField x → Text.bytes e.1 ≤ Text.bytes x.1) :
    Fault before c (.inlineSecret c.id e.1)

/-- What is wrong with the first entry that makes a document impossible. Parameters come before features. -/
inductive Document.FirstFault (params : List ParamChange) (features : List FeatureChange) : LoadError → Prop
  | param {before after : List ParamChange} {c : ParamChange} {e : LoadError} (hsplit : params = before ++ c :: after)
    (hbefore : ParamChange.Sound before) (hfault : c.Fault before e) : FirstFault params features e
  | feature {before after : List FeatureChange} {c : FeatureChange} {e : LoadError}
    (hparams : ParamChange.Sound params) (hsplit : features = before ++ c :: after)
    (hbefore : FeatureChange.Sound before) (hfault : c.Fault before e) : FirstFault params features e

namespace Document

/-! ## Parameters -/

theorem checkParams_ok_iff_sound {cs : List ParamChange} : checkParams cs = .ok () ↔ ParamChange.Sound cs := by
  rw [checkParams_eq_ok_iff]
  exact ⟨fun h => ⟨h.1, h.2⟩, fun h => ⟨h.complete, h.distinct⟩⟩

/-- A name that occurs in a list of distinct names occurs there once. -/
theorem mem_iff_count_eq_one {names : List String} (h : names.Nodup) {name : String} :
    name ∈ names ↔ names.count name = 1 := by
  rw [← List.count_pos_iff]
  have := List.nodup_iff_count_le_one.1 h name
  omega

theorem checkParam_eq_error_iff {before : List ParamChange} (hbefore : (before.map (·.key)).Nodup) {c : ParamChange}
    {e : LoadError} :
    checkParam before.length (before.map (·.key)).reverse c = .error e ↔ c.Fault before e := by
  have hseen : c.key ∈ (before.map (·.key)).reverse ↔ (before.map (·.key)).count c.key = 1 := by
    rw [List.mem_reverse, mem_iff_count_eq_one hbefore]
  constructor
  · intro h
    rw [checkParam] at h
    split_ifs at h with hkey hexpected hupdate hsecond <;> cases h
    · exact .blankKey hkey
    · exact .noExpectation hkey hexpected
    · exact .noUpdate hkey hexpected hupdate
    · exact .secondOfKey ⟨hkey, hexpected, hupdate⟩ (hseen.1 hsecond)
  · rintro (hkey | ⟨hkey, hexpected⟩ | ⟨hkey, hexpected, hupdate⟩ | ⟨hcomplete, hcount⟩)
    · rw [checkParam, if_pos hkey]
    · rw [checkParam, if_neg hkey, if_pos hexpected]
    · rw [checkParam, if_neg hkey, if_neg hexpected, if_pos hupdate]
    · rw [checkParam, if_neg hcomplete.key, if_neg hcomplete.expected, if_neg hcomplete.update,
        if_pos (hseen.2 hcount)]

/-- The error of parameter changes is about the first one that is not sound. -/
theorem checkParams_eq_error_iff {cs : List ParamChange} {e : LoadError} :
    checkParams cs = .error e ↔ ∃ before c after, cs = before ++ c :: after ∧ ParamChange.Sound before
      ∧ c.Fault before e := by
  rw [checkParams, checkFrom_eq_error_iff ParamChange.key checkParam (fun _ _ => rfl)
    (fun _ _ _ _ => rfl)]
  refine exists_congr fun before => exists_congr fun c => exists_congr fun after => and_congr_right fun _ => ?_
  have hsound : checkParamsFrom 0 [] before = .ok () ↔ ParamChange.Sound before := checkParams_ok_iff_sound
  rw [hsound, Nat.zero_add, List.append_nil]
  exact and_congr_right fun h => checkParam_eq_error_iff h.distinct

/-! ## Features -/

/-- The first entry of a kind in a map is the one with the least bytes in its key. -/
theorem find?_entries_eq_some_iff {m : TextMap} {p : String × String → Bool} {e : String × String} :
    m.entries.find? p = some e ↔
      e ∈ m.entries ∧ p e = true ∧ ∀ x ∈ m.entries, p x = true → Text.bytes e.1 ≤ Text.bytes x.1 := by
  have hsorted := m.sorted
  rw [List.find?_eq_some_iff_append]
  constructor
  · rintro ⟨he, before, after, hsplit, hbefore⟩
    rw [hsplit] at hsorted ⊢
    refine ⟨by simp, he, fun x hx hpx => ?_⟩
    rw [Text.bytes_le_iff]
    rcases List.mem_append.1 hx with hx | hx
    · exact absurd hpx (by simpa using hbefore x hx)
    · rcases List.mem_cons.1 hx with rfl | hx
      · exact String.le_refl _
      · have hafter := (List.pairwise_cons.1 (List.pairwise_append.1 hsorted).2.1).1
        exact Std.le_of_lt (hafter x hx)
  · rintro ⟨hmem, he, hleast⟩
    obtain ⟨before, after, hsplit⟩ := List.append_of_mem hmem
    refine ⟨he, before, after, hsplit, fun x hx => ?_⟩
    rw [hsplit] at hsorted
    have hlt : x.1 < e.1 := (List.pairwise_append.1 hsorted).2.2 x hx e List.mem_cons_self
    rw [Bool.not_eq_true']
    by_contra hpx
    have hle := hleast x (hsplit ▸ List.mem_append_left _ hx) (Bool.not_eq_false _ ▸ hpx)
    exact Text.bytes_le_iff.1 hle hlt

theorem isUnsafe_iff {e : String × String} : (!isSafeField e.1 e.2) = true ↔ ¬ SafeField e := by
  rw [Bool.not_eq_true', ← Bool.not_eq_true, safeField_iff]

theorem checkFeature_eq_error_iff {before : List FeatureChange} (hbefore : (before.map (·.id)).Nodup)
    {c : FeatureChange} {e : LoadError} :
    checkFeature before.length (before.map (·.id)).reverse c = .error e ↔ c.Fault before e := by
  have hseen : c.id ∈ (before.map (·.id)).reverse ↔ (before.map (·.id)).count c.id = 1 := by
    rw [List.mem_reverse, mem_iff_count_eq_one hbefore]
  have htyped : ¬ (c.mode = .create ∧ c.type?.all Text.isBlank = true) ↔
      (c.mode = .create → ∃ type, c.type? = some type ∧ ¬ Text.isBlank type) := by
    rw [all_isBlank_iff, not_and, not_not]
  constructor
  · intro h
    rw [checkFeature] at h
    split_ifs at h with hid hsecond htype
    · cases h
      exact .blankId hid
    · cases h
      exact .secondOfId hid (hseen.1 hsecond)
    · cases h
      exact .noType hid (mt List.mem_reverse.2 hsecond) htype.1 (all_isBlank_iff.1 htype.2)
    · split at h
      · next field hfield =>
          cases h
          obtain ⟨hmem, hliteral, hleast⟩ := find?_entries_eq_some_iff.1 hfield
          exact .inlineSecret hid (mt List.mem_reverse.2 hsecond) (htyped.1 htype) hmem (isUnsafe_iff.1 hliteral)
            fun x hx hx' => hleast x hx (isUnsafe_iff.2 hx')
      · cases h
  · rintro (hid | ⟨hid, hcount⟩ | ⟨hid, hnew, hmode, htype⟩ | ⟨hid, hnew, htype, hmem, hliteral, hleast⟩)
    · rw [checkFeature, if_pos hid]
    · rw [checkFeature, if_neg hid, if_pos (hseen.2 hcount)]
    · rw [checkFeature, if_neg hid, if_neg (mt List.mem_reverse.1 hnew), if_pos ⟨hmode, all_isBlank_iff.2 htype⟩]
    · rw [checkFeature, if_neg hid, if_neg (mt List.mem_reverse.1 hnew), if_neg (htyped.2 htype),
        find?_entries_eq_some_iff.2
          ⟨hmem, isUnsafe_iff.2 hliteral, fun x hx hx' => hleast x hx (isUnsafe_iff.1 hx')⟩]

theorem checkFeatures_ok_iff_sound {cs : List FeatureChange} :
    checkFeatures cs = .ok () ↔ FeatureChange.Sound cs := by
  rw [checkFeatures_eq_ok_iff]
  exact ⟨fun h => ⟨h.1, h.2⟩, fun h => ⟨h.complete, h.distinct⟩⟩

/-- The error of feature changes is about the first one that is not sound. -/
theorem checkFeatures_eq_error_iff {cs : List FeatureChange} {e : LoadError} :
    checkFeatures cs = .error e ↔ ∃ before c after, cs = before ++ c :: after ∧ FeatureChange.Sound before
      ∧ c.Fault before e := by
  rw [checkFeatures, checkFrom_eq_error_iff FeatureChange.id checkFeature (fun _ _ => rfl)
    (fun _ _ _ _ => rfl)]
  refine exists_congr fun before => exists_congr fun c => exists_congr fun after => and_congr_right fun _ => ?_
  have hsound : checkFeaturesFrom 0 [] before = .ok () ↔ FeatureChange.Sound before := checkFeatures_ok_iff_sound
  rw [hsound, Nat.zero_add, List.append_nil]
  exact and_congr_right fun h => checkFeature_eq_error_iff h.distinct

/-! ## Documents -/

theorem of?_eq_ok_iff {project : String} {params : List ParamChange} {features : List FeatureChange} {d : Document} :
    Document.of? project params features = .ok d ↔
      ParamChange.Sound params ∧ FeatureChange.Sound features ∧ d = ⟨project, params, features⟩ := by
  rw [← checkParams_ok_iff_sound, ← checkFeatures_ok_iff_sound, of?, bind_eq_ok_iff]
  constructor
  · rintro ⟨_, hparams, h⟩
    obtain ⟨_, hfeatures, h⟩ := bind_eq_ok_iff.1 h
    cases h
    exact ⟨hparams, hfeatures, rfl⟩
  · rintro ⟨hparams, hfeatures, rfl⟩
    exact ⟨(), hparams, bind_eq_ok_iff.2 ⟨(), hfeatures, rfl⟩⟩

theorem of?_eq_error_iff {project : String} {params : List ParamChange} {features : List FeatureChange}
    {e : LoadError} : Document.of? project params features = .error e ↔ FirstFault params features e := by
  rw [of?, bind_eq_error_iff, checkParams_eq_error_iff]
  constructor
  · rintro (⟨before, c, after, hsplit, hbefore, hfault⟩ | ⟨_, hparams, h⟩)
    · exact .param hsplit hbefore hfault
    · rcases bind_eq_error_iff.1 h with hfeatures | ⟨_, _, h⟩
      · obtain ⟨before, c, after, hsplit, hbefore, hfault⟩ := checkFeatures_eq_error_iff.1 hfeatures
        exact .feature (checkParams_ok_iff_sound.1 hparams) hsplit hbefore hfault
      · cases h
  · rintro (⟨hsplit, hbefore, hfault⟩ | ⟨hparams, hsplit, hbefore, hfault⟩)
    · exact .inl ⟨_, _, _, hsplit, hbefore, hfault⟩
    · have hfeatures := checkFeatures_eq_error_iff.2 ⟨_, _, _, hsplit, hbefore, hfault⟩
      exact .inr ⟨(), checkParams_ok_iff_sound.2 hparams, bind_eq_error_iff.2 (.inl hfeatures)⟩

end Document

/-- **Exactly sound entries make a document.** It has them and its project as they are given. Otherwise the error is
about the first entry that is not sound, a parameter before any feature. -/
theorem document_of_sound (project : String) (params : List ParamChange) (features : List FeatureChange) :
    (∀ d, Document.of? project params features = .ok d ↔
        ParamChange.Sound params ∧ FeatureChange.Sound features ∧ d = ⟨project, params, features⟩)
      ∧ ∀ e, Document.of? project params features = .error e ↔ Document.FirstFault params features e :=
  ⟨fun _ => Document.of?_eq_ok_iff, fun _ => Document.of?_eq_error_iff⟩

/-- The second change of a key is first asked for its update. -/
example : Document.of? "p" [⟨"a", "x", "y"⟩, ⟨"a", "x", ""⟩] [] = .error (.missingField "a" "update") := by decide

end GuardedPatch
