import GuardedPatch.Proofs.Faults
import Mathlib.Data.List.Forall2

set_option autoImplicit false

/-! # From a patch as written to its document

What a document has of a patch as written is said entry by entry (`RawPatch.Reads`): entries stay in their order and
their texts as they are, what is absent is empty, a blank project or type counts as absent, and modes are told by their
words. A patch can be read in this way exactly if all of its features have a mode, and it is loaded exactly if what is
read is sound and the schema version is 0.

Whatever else is wrong comes in stages (`RawPatch.Fault`): the version of the whole patch, the modes of all features,
and only then the entries of the document, parameters before features. -/

namespace GuardedPatch

/-! ## What is read -/

/-- A text counts unless it is blank. -/
inductive UnlessBlank (s : Option String) : Option String → Prop
  | kept {t : String} (h : s = some t) (hblank : ¬ Text.isBlank t) : UnlessBlank s (some t)
  | dropped (h : ∀ t, s = some t → Text.isBlank t) : UnlessBlank s none

/-- A feature entry names a mode, perhaps with blanks around it. -/
def RawFeature.Names (f : RawFeature) (mode : FeatureMode) : Prop :=
  ∃ word, f.mode = some word ∧ Text.trim word = mode.name

/-- A parameter entry is read as a change. -/
structure RawParam.Reads (p : RawParam) (c : ParamChange) : Prop where
  key : c.key = p.key.getD ""
  expected : c.expected = p.expect.getD ""
  update : c.update = p.update.getD ""

/-- A feature entry is read as a change. -/
structure RawFeature.Reads (f : RawFeature) (c : FeatureChange) : Prop where
  id : c.id = f.id.getD ""
  type : UnlessBlank f.type? c.type?
  mode : f.Names c.mode
  fields : c.desired = f.fields

/-- A patch is read as a document. -/
structure RawPatch.Reads (p : RawPatch) (d : Document) : Prop where
  project : ∃ name?, UnlessBlank p.project name? ∧ d.project = name?.getD "_Self"
  params : List.Forall₂ RawParam.Reads p.params d.params
  features : List.Forall₂ RawFeature.Reads p.features d.features

/-! ## What is wrong -/

/-- How a complaint names a feature entry: by its id, or else by its place. -/
inductive RawFeature.Labelled (index : Nat) (f : RawFeature) : String → Prop
  | byId {id : String} (hid : f.id = some id) (hne : id ≠ "") : Labelled index f id
  | byPlace (hid : ∀ id, f.id = some id → id = "") : Labelled index f ("features[" ++ toString index ++ "]")

/-- What is wrong with the mode of a feature entry. -/
inductive RawFeature.Fault (index : Nat) (f : RawFeature) : LoadError → Prop
  | noMode {label : String} (hlabel : f.Labelled index label) (hmode : f.mode = none) :
    Fault index f (.invalidFeatureMode label "exactly one of find or create is required")
  | otherMode {label word : String} (hlabel : f.Labelled index label) (hword : f.mode = some word)
    (hmode : ∀ mode : FeatureMode, Text.trim word ≠ mode.name) :
    Fault index f (.invalidFeatureMode label ("mode must be 'find' or 'create', got '" ++ Text.trim word ++ "'"))

/-- What is wrong with a patch that is not loaded. -/
inductive RawPatch.Fault (p : RawPatch) : LoadError → Prop
  | version (hversion : p.schemaVersion ≠ 0) : Fault p (.unsupportedSchemaVersion p.schemaVersion)
  | mode (hversion : p.schemaVersion = 0) {before after : List RawFeature} {f : RawFeature} {e : LoadError}
    (hsplit : p.features = before ++ f :: after) (hbefore : ∀ x ∈ before, ∃ mode, x.Names mode)
    (hfault : f.Fault before.length e) : Fault p e
  | entry (hversion : p.schemaVersion = 0) {d : Document} (hreads : p.Reads d) {e : LoadError}
    (hfault : Document.FirstFault d.params d.features e) : Fault p e

/-! ## One entry -/

theorem unlessBlank_iff {s t : Option String} : unlessBlank s = t ↔ UnlessBlank s t := by
  constructor
  · rintro rfl
    cases s with
    | none => exact .dropped fun _ h => nomatch h
    | some s =>
        by_cases hblank : Text.isBlank s = true
        · rw [unlessBlank, Option.filter_some, hblank]
          exact .dropped fun _ h => Option.some.inj h ▸ hblank
        · rw [unlessBlank, Option.filter_some, Bool.eq_false_iff.2 hblank]
          exact .kept rfl hblank
  · rintro (⟨rfl, hblank⟩ | hblank)
    · rw [unlessBlank, Option.filter_some, Bool.eq_false_iff.2 hblank]
      rfl
    · rw [unlessBlank, Option.filter_eq_none_iff]
      intro s hs
      simp [hblank s hs]

theorem FeatureMode.ofName?_eq_some_iff {s : String} {mode : FeatureMode} :
    FeatureMode.ofName? s = some mode ↔ s = mode.name := by
  rw [ofName?]
  split_ifs with hfind hcreate
  · cases mode <;> simp [hfind, name]
  · cases mode <;> simp [hcreate, name]
  · cases mode <;> simp [hfind, hcreate, name]

theorem FeatureMode.ofName?_eq_none_iff {s : String} :
    FeatureMode.ofName? s = none ↔ ∀ mode : FeatureMode, s ≠ mode.name := by
  simp only [Option.eq_none_iff_forall_not_mem, Option.mem_def, ofName?_eq_some_iff, ne_eq]

theorem RawParam.reads_iff {p : RawParam} {c : ParamChange} : p.Reads c ↔ p.toChange = c := by
  obtain ⟨key, expected, update⟩ := c
  simp only [toChange, ParamChange.mk.injEq]
  exact ⟨fun h => ⟨h.key.symm, h.expected.symm, h.update.symm⟩, fun h => ⟨h.1.symm, h.2.1.symm, h.2.2.symm⟩⟩

namespace RawFeature

variable {index : Nat} {f : RawFeature}

/-- The name of a feature entry in complaints. -/
theorem labelled (index : Nat) (f : RawFeature) :
    f.Labelled index (if f.id.getD "" = "" then "features[" ++ toString index ++ "]" else f.id.getD "") := by
  split_ifs with hid
  · exact .byPlace fun id h => by simpa [h] using hid
  · cases h : f.id with
    | none => exact absurd (by rw [h]; rfl) hid
    | some id => exact .byId h (by simpa [h] using hid)

theorem Labelled.eq {label : String} (h : f.Labelled index label) :
    label = if f.id.getD "" = "" then "features[" ++ toString index ++ "]" else f.id.getD "" := by
  rcases h with ⟨hid, hne⟩ | hid
  · simp [hid, hne]
  · cases h : f.id with
    | none => rfl
    | some id => simp [hid id h]

theorem checkedMode_eq_ok_iff {label : String} {mode : FeatureMode} :
    f.checkedMode label = .ok mode ↔ f.Names mode := by
  rw [checkedMode, Names]
  cases hword : f.mode with
  | none => simp
  | some word =>
      simp only [Option.some.injEq, exists_eq_left', ← FeatureMode.ofName?_eq_some_iff]
      cases FeatureMode.ofName? (Text.trim word) <;> simp

theorem checkedMode_eq_error_iff {label : String} (hlabel : f.Labelled index label) {e : LoadError} :
    f.checkedMode label = .error e ↔ f.Fault index e := by
  constructor
  · intro h
    rw [checkedMode] at h
    split at h
    · next hmode =>
        cases h
        exact .noMode hlabel hmode
    · next word hword =>
        split at h
        · cases h
        · next hnone =>
            cases h
            exact .otherMode hlabel hword (FeatureMode.ofName?_eq_none_iff.1 hnone)
  · rintro (⟨hlabel', hmode⟩ | ⟨hlabel', hword, hmode⟩)
    · rw [checkedMode, hmode, hlabel.eq, hlabel'.eq]
    · rw [checkedMode, hword, hlabel.eq, hlabel'.eq]
      simp only [FeatureMode.ofName?_eq_none_iff.2 hmode]

theorem toChange_eq_ok_iff {c : FeatureChange} : f.toChange index = .ok c ↔ f.Reads c := by
  rw [toChange, bind_eq_ok_iff]
  constructor
  · rintro ⟨mode, hmode, ⟨⟩⟩
    exact ⟨rfl, unlessBlank_iff.1 rfl, checkedMode_eq_ok_iff.1 hmode, rfl⟩
  · intro h
    refine ⟨c.mode, checkedMode_eq_ok_iff.2 h.mode, congrArg Except.ok ?_⟩
    rw [← h.id, ← h.fields, unlessBlank_iff.2 h.type]

theorem toChange_eq_error_iff {e : LoadError} : f.toChange index = .error e ↔ f.Fault index e := by
  rw [toChange, bind_eq_error_iff, checkedMode_eq_error_iff (labelled index f)]
  exact or_iff_left nofun

/-- Whether a feature entry can be read depends on its mode only. -/
theorem exists_reads_iff : (∃ c, f.Reads c) ↔ ∃ mode, f.Names mode := by
  refine ⟨fun ⟨c, h⟩ => ⟨c.mode, h.mode⟩, fun ⟨mode, h⟩ => ?_⟩
  exact ⟨⟨f.id.getD "", unlessBlank f.type?, mode, f.fields⟩, rfl, unlessBlank_iff.1 rfl, h, rfl⟩

/-! ## All entries -/

theorem exists_forall₂_reads_iff {fs : List RawFeature} :
    (∃ cs, List.Forall₂ Reads fs cs) ↔ ∀ f ∈ fs, ∃ mode, f.Names mode := by
  induction fs with
  | nil => simp
  | cons f rest ih =>
      rw [List.forall_mem_cons, ← ih, ← exists_reads_iff]
      simp only [List.forall₂_cons_left_iff]
      constructor
      · rintro ⟨_, c, cs, hc, hcs, rfl⟩
        exact ⟨⟨c, hc⟩, cs, hcs⟩
      · rintro ⟨⟨c, hc⟩, cs, hcs⟩
        exact ⟨c :: cs, c, cs, hc, hcs, rfl⟩

theorem toChangesFrom_eq_ok_iff {fs : List RawFeature} {cs : List FeatureChange} :
    toChangesFrom index fs = .ok cs ↔ List.Forall₂ Reads fs cs := by
  induction fs generalizing index cs with
  | nil => simp [toChangesFrom, eq_comm]
  | cons f rest ih =>
      rw [toChangesFrom, bind_eq_ok_iff, List.forall₂_cons_left_iff]
      constructor
      · rintro ⟨c, hc, h⟩
        obtain ⟨cs, hcs, ⟨⟩⟩ := bind_eq_ok_iff.1 h
        exact ⟨c, cs, toChange_eq_ok_iff.1 hc, ih.1 hcs, rfl⟩
      · rintro ⟨c, cs, hc, hcs, rfl⟩
        exact ⟨c, toChange_eq_ok_iff.2 hc, bind_eq_ok_iff.2 ⟨cs, ih.2 hcs, rfl⟩⟩

/-- The error of feature entries is about the first one without a mode. -/
theorem toChangesFrom_eq_error_iff {fs : List RawFeature} {e : LoadError} :
    toChangesFrom index fs = .error e ↔ ∃ before f after, fs = before ++ f :: after
      ∧ (∀ x ∈ before, ∃ mode, x.Names mode) ∧ f.Fault (index + before.length) e := by
  induction fs generalizing index with
  | nil => simp [toChangesFrom]
  | cons f rest ih =>
      have hhead : toChangesFrom index (f :: rest) = .error e
          ↔ f.Fault index e ∨ (∃ mode, f.Names mode) ∧ toChangesFrom (index + 1) rest = .error e := by
        rw [toChangesFrom, bind_eq_error_iff, toChange_eq_error_iff, ← exists_reads_iff, ← exists_and_right]
        simp only [toChange_eq_ok_iff, bind_eq_error_iff]
        exact or_congr_right (exists_congr fun c => and_congr_right fun _ => or_iff_left nofun)
      rw [hhead, ih]
      constructor
      · rintro (hfault | ⟨hf, before, x, after, rfl, hbefore, hfault⟩)
        · exact ⟨[], f, rest, rfl, by simp, hfault⟩
        · refine ⟨f :: before, x, after, rfl, List.forall_mem_cons.2 ⟨hf, hbefore⟩, ?_⟩
          rwa [List.length_cons, Nat.add_comm before.length, ← Nat.add_assoc]
      · rintro ⟨before, x, after, hsplit, hbefore, hfault⟩
        cases before with
        | nil =>
            obtain ⟨rfl, rfl⟩ := List.cons.inj hsplit
            exact .inl hfault
        | cons y before =>
            obtain ⟨rfl, rfl⟩ := List.cons.inj hsplit
            obtain ⟨hf, hbefore⟩ := List.forall_mem_cons.1 hbefore
            refine .inr ⟨hf, before, x, after, rfl, hbefore, ?_⟩
            rwa [List.length_cons, Nat.add_comm before.length, ← Nat.add_assoc] at hfault

end RawFeature

/-! ## Patches -/

namespace RawPatch

variable {p : RawPatch} {d : Document} {e : LoadError}

/-- A document is what a patch is read as exactly if it comes from the changes of the entries. -/
theorem reads_iff : p.Reads d ↔ ∃ features, RawFeature.toChangesFrom 0 p.features = .ok features
    ∧ d = ⟨(unlessBlank p.project).getD defaultProject, p.params.map RawParam.toChange, features⟩ := by
  have hparams : List.Forall₂ RawParam.Reads p.params d.params ↔ p.params.map RawParam.toChange = d.params := by
    have heq : RawParam.Reads = fun p c => p.toChange = c := funext₂ fun _ _ => propext RawParam.reads_iff
    rw [heq, ← List.forall₂_map_left_iff, List.forall₂_eq_eq_eq]
  constructor
  · rintro ⟨⟨name?, hname, hproject⟩, hentries, hfeatures⟩
    refine ⟨d.features, RawFeature.toChangesFrom_eq_ok_iff.2 hfeatures, ?_⟩
    rw [unlessBlank_iff.2 hname, hparams.1 hentries]
    cases d
    exact congrArg (Document.mk · _ _) hproject
  · rintro ⟨features, hfeatures, rfl⟩
    exact ⟨⟨_, unlessBlank_iff.1 rfl, rfl⟩, hparams.2 rfl, RawFeature.toChangesFrom_eq_ok_iff.1 hfeatures⟩

/-- Whether a patch can be read depends on the modes of its features only. -/
theorem exists_reads_iff : (∃ d, p.Reads d) ↔ ∀ f ∈ p.features, ∃ mode, f.Names mode := by
  rw [← RawFeature.exists_forall₂_reads_iff]
  constructor
  · rintro ⟨d, h⟩
    exact ⟨d.features, h.features⟩
  · rintro ⟨cs, hcs⟩
    exact ⟨_, reads_iff.2 ⟨cs, RawFeature.toChangesFrom_eq_ok_iff.2 hcs, rfl⟩⟩

theorem toDocument_eq_ok_iff : p.toDocument = .ok d ↔
    p.schemaVersion = 0 ∧ p.Reads d ∧ ParamChange.Sound d.params ∧ FeatureChange.Sound d.features := by
  rw [toDocument, reads_iff]
  split_ifs with hversion
  · constructor
    · rintro ⟨⟩
    · rintro ⟨hzero, -⟩
      exact absurd hzero hversion
  · rw [not_ne_iff] at hversion
    rw [bind_eq_ok_iff]
    simp only [Document.of?_eq_ok_iff]
    constructor
    · rintro ⟨_, hfeatures, hsound, hsound', rfl⟩
      exact ⟨hversion, ⟨_, hfeatures, rfl⟩, hsound, hsound'⟩
    · rintro ⟨-, ⟨_, hfeatures, rfl⟩, hsound, hsound'⟩
      exact ⟨_, hfeatures, hsound, hsound', rfl⟩

theorem toDocument_eq_error_iff : p.toDocument = .error e ↔ p.Fault e := by
  rw [toDocument]
  split_ifs with hversion
  · constructor
    · rintro ⟨⟩
      exact .version hversion
    · rintro (_ | ⟨hzero⟩ | ⟨hzero⟩)
      · rfl
      · exact absurd hzero hversion
      · exact absurd hzero hversion
  · rw [not_ne_iff] at hversion
    rw [bind_eq_error_iff, RawFeature.toChangesFrom_eq_error_iff]
    simp only [Document.of?_eq_error_iff, Nat.zero_add]
    constructor
    · rintro (⟨before, f, after, hsplit, hbefore, hfault⟩ | ⟨features, hfeatures, hfault⟩)
      · exact .mode hversion hsplit hbefore hfault
      · exact .entry hversion (reads_iff.2 ⟨features, hfeatures, rfl⟩) hfault
    · rintro (hne | ⟨-, hsplit, hbefore, hfault⟩ | ⟨-, hreads, hfault⟩)
      · exact absurd hversion hne
      · exact .inl ⟨_, _, _, hsplit, hbefore, hfault⟩
      · obtain ⟨features, hfeatures, rfl⟩ := reads_iff.1 hreads
        exact .inr ⟨features, hfeatures, hfault⟩

end RawPatch

/-- **What a text says is loaded exactly if its version is 0, its features have modes and its entries are sound.** The
document has what the text says, entry by entry. Otherwise the error is about the version, else about the first
feature without a mode, else about the first entry that is not sound, a parameter before any feature. -/
theorem load_of_raw {text : String} {p : RawPatch} (h : RawPatch.ofText text = .ok p) :
    (∀ d, load text = .ok d ↔
        p.schemaVersion = 0 ∧ p.Reads d ∧ ParamChange.Sound d.params ∧ FeatureChange.Sound d.features)
      ∧ ((∃ d, p.Reads d) ↔ ∀ f ∈ p.features, ∃ mode, f.Names mode)
      ∧ ∀ e, load text = .error e ↔ p.Fault e := by
  have hload : load text = p.toDocument := by
    unfold load
    generalize RawPatch.ofText text = raw at h
    rw [h]
  rw [hload]
  exact ⟨fun _ => RawPatch.toDocument_eq_ok_iff, RawPatch.exists_reads_iff, fun _ => RawPatch.toDocument_eq_error_iff⟩

/-- Neither the parameter, which lacks an update, nor the good mode in front hides the bad mode of the second feature,
which has no id. -/
theorem load_of_raw_second_mode :
    let text := "params:\n  - key: a\n    expect: 1\nfeatures:\n  - mode: ' find '\n  - mode: drop\nschema_version: 0\n"
    let raw : RawPatch := ⟨0, none, [⟨some "a", some "1", none⟩],
      [⟨none, none, some " find ", .empty⟩, ⟨none, none, some "drop", .empty⟩]⟩
    RawPatch.ofText text = .ok raw
      ∧ load text = .error (.invalidFeatureMode "features[1]" "mode must be 'find' or 'create', got 'drop'") := by
  intro text raw
  have hraw : RawPatch.ofText text = .ok raw := by decide +kernel
  have hmode : ∀ mode : FeatureMode, Text.trim "drop" ≠ mode.name := fun mode => by cases mode <;> decide
  have hbefore : ∃ mode, RawFeature.Names ⟨none, none, some " find ", .empty⟩ mode := ⟨.find, _, rfl, by decide⟩
  have hfault := RawPatch.Fault.mode (p := raw) rfl rfl (List.forall_mem_singleton.2 hbefore)
    (.otherMode (.byPlace nofun) rfl hmode)
  exact ⟨hraw, ((load_of_raw hraw).2.2 _).2 hfault⟩

end GuardedPatch
