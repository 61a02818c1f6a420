import GuardedPatch.Proofs.Document
import GuardedPatch.Proofs.Yaml.Spelling
import Mathlib.Data.List.Induction

set_option autoImplicit false

/-! # Plain scalars that are kept as texts

A plain scalar on one line has exactly the characters that are written; over several lines only the blanks and breaks
between its words change. What it stands for decides whether it is kept: texts, booleans and integers of 64 bits are,
and everything else is refused. What is kept is the text of the scalar, except that a boolean with a capital and an
integer in a foreign spelling are written anew. -/

namespace GuardedPatch

namespace Yaml

/-! ## From the source to the text -/

/-- A character between words. -/
def isSpace (c : Char) : Bool :=
  isBlank c || isBreak c

/-- The gap that characters between words leave. -/
def gapOf (cs : List Char) : Gap :=
  cs.foldl Gap.add .none

theorem gapOf_append_singleton (cs : List Char) (c : Char) : gapOf (cs ++ [c]) = (gapOf cs).add c := by
  rw [gapOf, gapOf, List.foldl_append, List.foldl_cons, List.foldl_nil]

/-- Without a break a gap keeps its blanks. -/
theorem folded_gapOf {cs : List Char} (h : ∀ c ∈ cs, ¬ isBreak c = true) : (gapOf cs).folded = cs.reverse := by
  have hblanks : gapOf cs = .blanks cs.reverse := by
    induction cs using List.reverseRecOn with
    | nil => rfl
    | append_singleton rest c ih =>
        rw [List.forall_mem_append, List.forall_mem_singleton] at h
        rw [gapOf_append_singleton, ih h.1, Gap.add, if_neg h.2, List.reverse_append, List.reverse_singleton,
          List.singleton_append]
  rw [hblanks, Gap.folded]

/-- The characters that a gap holds. -/
def Gap.chars : Gap → List Char
  | .blanks cs => cs
  | .breaks first more => more ++ first.toList

theorem Gap.mem_chars_add {g : Gap} {c x : Char} (h : x ∈ (g.add c).chars) : x ∈ g.chars ∨ x = c := by
  cases g with
  | blanks cs =>
      rw [add] at h
      split_ifs at h
      · exact .inr (by simpa [chars] using h)
      · exact (List.mem_cons.1 h).symm
  | breaks first more =>
      rw [add] at h
      split_ifs at h
      · exact (List.mem_cons.1 h).symm
      · exact .inl h

theorem mem_chars_gapOf {cs : List Char} {x : Char} (h : x ∈ (gapOf cs).chars) : x ∈ cs := by
  induction cs using List.reverseRecOn with
  | nil => exact h
  | append_singleton rest c ih =>
      rw [gapOf_append_singleton] at h
      rw [List.mem_append, List.mem_singleton]
      exact (Gap.mem_chars_add h).imp_left ih

theorem mem_folded {g : Gap} {x : Char} (h : x ∈ g.folded) : x = ' ' ∨ x ∈ g.chars := by
  unfold Gap.folded at h
  split at h <;> simp_all [Gap.chars]

/-- A gap leaves nothing but characters between words. -/
theorem filter_folded_gapOf {cs : List Char} (h : ∀ c ∈ cs, isSpace c = true) :
    (gapOf cs).folded.filter (!isSpace ·) = [] := by
  refine List.filter_eq_nil_iff.2 fun x hx => ?_
  rcases mem_folded hx with rfl | hx
  · decide
  · simp [h x (mem_chars_gapOf hx)]

/-- A plain scalar of which `read` is read already takes what is written of it from a source, and passes a gap. -/
structure Scanned.Takes (s : Scanned) (read source written gap : List Char) : Prop where
  source : source = written ++ gap ++ s.after.rest
  gap : ∀ c ∈ gap, isSpace c = true
  /-- On one line the text is what is written. -/
  line : (∀ c ∈ written, ¬ isBreak c = true) → s.text.toList = read ++ written
  /-- Over several lines the words are. -/
  words : s.text.toList.filter (!isSpace ·) = (read ++ written).filter (!isSpace ·)

theorem plainFrom_takes {flow : Bool} {indent : Int} {text before rest : List Char} {place : Position} {s : Scanned}
    (hbefore : ∀ c ∈ before, isSpace c = true) (h : plainFrom flow indent text (gapOf before) place rest = .ok s) :
    ∃ written gap, s.Takes text.reverse (before ++ rest) written gap := by
  induction rest generalizing text before place with
  | nil =>
      cases h
      exact ⟨[], before, by simp, hbefore, by simp, by simp⟩
  | cons c rest ih =>
      have hdone (h : Except.ok ⟨String.ofList text.reverse, ⟨c :: rest, place⟩, (gapOf before).hasBreak⟩
          = (.ok s : Except SyntaxError Scanned)) :
          ∃ written gap, s.Takes text.reverse (before ++ c :: rest) written gap := by
        cases h
        exact ⟨[], before, by simp, hbefore, by simp, by simp⟩
      rw [plainFrom] at h
      split_ifs at h with hspace htab hend hmarker hcolon hstop
      · -- the gap goes on
        rw [← gapOf_append_singleton] at h
        obtain ⟨written, gap, htakes⟩ :=
          ih (List.forall_mem_append.2 ⟨hbefore, List.forall_mem_singleton.2 hspace⟩) h
        rw [List.append_assoc, List.singleton_append] at htakes
        exact ⟨written, gap, htakes⟩
      · exact hdone h
      · exact hdone h
      · exact hdone h
      · -- the next word comes after what the gap leaves
        have hnone : ∀ x ∈ ([] : List Char), isSpace x = true := nofun
        obtain ⟨written, gap, htakes⟩ := ih hnone h
        refine ⟨before ++ c :: written, gap, ⟨?_, htakes.gap, fun hline => ?_, ?_⟩⟩
        · have hsource : rest = written ++ gap ++ s.after.rest := htakes.source
          rw [hsource]
          simp
        · obtain ⟨hbreak, -, hline⟩ : (∀ x ∈ before, ¬ isBreak x = true) ∧ ¬ isBreak c = true
              ∧ ∀ x ∈ written, ¬ isBreak x = true := by
            simpa only [List.forall_mem_append, List.forall_mem_cons] using hline
          rw [htakes.line hline, folded_gapOf hbreak]
          simp
        · have hgap : before.filter (!isSpace ·) = [] :=
            List.filter_eq_nil_iff.2 fun x hx => by simp [hbefore x hx]
          rw [htakes.words]
          simp [List.filter_append, List.filter_cons, List.filter_reverse, filter_folded_gapOf hbefore, hgap]

/-- **A plain scalar has the characters that are written**, on one line all of them. -/
theorem scanPlain_takes {flow : Bool} {indent : Int} {c : Cursor} {s : Scanned} (h : scanPlain flow indent c = .ok s) :
    ∃ written gap, s.Takes [] c.rest written gap := by
  have hnone : ∀ x ∈ ([] : List Char), isSpace x = true := nofun
  exact plainFrom_takes hnone h

/-! ## From the text to the value -/

/-- A text spells what a scalar stands for. -/
inductive Spells (s : String) : Resolved → Prop
  | null : Spells s .null
  | bool {b : Bool} (h : spelledBool? s = some b) : Spells s (.bool b)
  | int {n : Int} (h : spelledInt? s = some n) : Spells s (.int n)
  | float {x : FloatValue} (h : spelledFloat? s = some x) : Spells s (.float x)
  | text : Spells s (.text s)

theorem spells_resolvePlain (s : String) : Spells s (resolvePlain s) := by
  unfold resolvePlain
  split
  · exact .null
  · split
    · next hbool => exact .bool hbool
    · next hint => exact .int hint
    · split
      · exact .text
      · split
        · next hfloat => exact .float hfloat
        · exact .text

theorem spells_of_orMisspelled {s wanted : String} {value : Option Resolved} (hvalue : ∀ v, value = some v → Spells s v)
    {v : Resolved} (h : orMisspelled s wanted value = .ok v) : Spells s v := by
  unfold orMisspelled at h
  split at h
  · cases h
    exact hvalue _ rfl
  · cases h

/-- **A scalar stands for something that its text spells**, whatever its tag and style. -/
theorem spells_of_resolve {tag : Option Tag} {style : Style} {s : String} {v : Resolved}
    (h : resolve tag style s = .ok v) : Spells s v := by
  have hplain (p : Prop) [Decidable p] : Spells s (if p then resolvePlain s else .text s) := by
    split_ifs
    · exact spells_resolvePlain s
    · exact .text
  cases tag with
  | none =>
      cases h
      exact hplain _
  | some tag =>
      simp only [resolve] at h
      split at h
      · refine spells_of_orMisspelled (fun v hv => ?_) h
        obtain ⟨b, hb, rfl⟩ := Option.map_eq_some_iff.1 hv
        exact .bool hb
      · split at h
        · refine spells_of_orMisspelled (fun v hv => ?_) h
          obtain ⟨n, hn, rfl⟩ := Option.map_eq_some_iff.1 hv
          exact .int hn
        · split at h
          · refine spells_of_orMisspelled (fun v hv => ?_) h
            obtain ⟨x, hx, rfl⟩ := Option.map_eq_some_iff.1 hv
            exact .float hx
          · split at h
            · refine spells_of_orMisspelled (fun v hv => ?_) h
              split at hv <;> cases hv
              exact .null
            · cases h
              exact hplain _

/-! ## From the value to what is kept -/

/-- What a value is kept as: floats, null and integers beyond 64 bits are not. -/
inductive Resolved.KeptAs : Resolved → String → Prop
  | text (s : String) : KeptAs (.text s) s
  | bool (b : Bool) : KeptAs (.bool b) (if b then "true" else "false")
  | int {n : Int} (hlow : -(Nat.pow 2 63 : Int) ≤ n) (hhigh : n < Nat.pow 2 64) : KeptAs (.int n) (toString n)

/-- A value is written anew, since it is spelled in another way than values are written. -/
inductive Resolved.Respelled (s : String) : Resolved → Prop
  | bool {b : Bool} (h : s ∈ foreignWords) : Respelled s (.bool b)
  | int {n : Int} (h : ForeignInt s.toList) : Respelled s (.int n)

/-- **What is kept is what the text was, unless the value is written anew.** -/
theorem Resolved.KeptAs.eq_iff {v : Resolved} {s t : String} (h : v.KeptAs t) (hs : Spells s v) :
    t = s ↔ ¬ v.Respelled s := by
  cases h with
  | text t =>
      cases hs
      exact iff_of_true rfl nofun
  | bool b =>
      cases hs with
      | bool hb =>
          rw [word_eq_iff_of_spelledBool? hb]
          exact not_congr ⟨.bool, fun | .bool h => h⟩
  | int hlow hhigh =>
      cases hs with
      | int hn =>
          rw [toString_eq_iff_of_spelledInt? hn]
          exact not_congr ⟨.int, fun | .int h => h⟩

end Yaml

/-! ## From the place to the answer -/

namespace Read

open Yaml (Node Tag)

/-- A plain scalar is kept as a text. -/
def Keeps (tag : Option Tag) (text t : String) : Prop :=
  Yaml.selectsKind tag = false ∧ ∃ v, Yaml.resolve tag .plain text = .ok v ∧ v.KeptAs t

/-- A plain scalar stands for a value that is written anew. -/
def Respells (tag : Option Tag) (text : String) : Prop :=
  ∃ v, Yaml.resolve tag .plain text = .ok v ∧ v.Respelled text

variable {place : Path} {env : Surroundings} {left : Nat}

theorem keptText_eq_ok_iff {v : Yaml.Resolved} {t : String} {left' : Nat} :
    keptText place v env left = .ok (t, left') ↔ left' = left ∧ v.KeptAs t := by
  cases v with
  | null => exact iff_of_false nofun nofun
  | float x => exact iff_of_false nofun nofun
  | text s => exact ⟨fun | rfl => ⟨rfl, .text s⟩, fun | ⟨rfl, .text _⟩ => rfl⟩
  | bool b =>
      constructor
      · intro h
        cases b <;> cases h
        · exact ⟨rfl, .bool false⟩
        · exact ⟨rfl, .bool true⟩
      · rintro ⟨rfl, ⟨⟩⟩
        cases b <;> rfl
  | int n =>
      rw [keptText]
      split_ifs with hlarge
      · refine iff_of_false nofun fun | ⟨_, .int hlow hhigh⟩ => ?_
        exact hlarge.elim (Int.not_lt.2 hlow) (Int.not_le.2 hhigh)
      · rw [not_or] at hlarge
        exact ⟨fun | rfl => ⟨rfl, .int (Int.not_lt.1 hlarge.1) (Int.not_le.1 hlarge.2)⟩, fun | ⟨rfl, .int _ _⟩ => rfl⟩

/-- What is not kept is refused at its place. -/
theorem keptText_eq_error {v : Yaml.Resolved} {e : ReadError} (h : keptText place v env left = .error e) :
    ∃ fault, e = .schema place fault := by
  cases v with
  | null => exact ⟨_, (Except.error.inj h).symm⟩
  | float x => exact ⟨_, (Except.error.inj h).symm⟩
  | text s => cases h
  | bool b => cases b <;> cases h
  | int n =>
      rw [keptText] at h
      split_ifs at h
      · exact ⟨_, (Except.error.inj h).symm⟩
      · cases h

theorem follow_scalar {tag : Option Tag} {style : Yaml.Style} {text : String} :
    follow (.scalar tag style text) = pure (.scalar tag style text) :=
  rfl

theorem scalarOf_scalar {tag : Option Tag} {style : Yaml.Style} {text : String} :
    scalarOf place (.scalar tag style text) env left =
      if Yaml.selectsKind tag then .error (.schema place (.wrongType "enum" "a string, integer or boolean"))
      else
        match Yaml.resolve tag style text with
        | .ok v => keptText place v env left
        | .error m => .error (.schema place (.wrongValue ("string " ++ Text.quoted m.text) m.wanted)) := by
  rw [scalarOf, follow_scalar]
  simp only [pure_bind]
  split_ifs
  · rfl
  · cases Yaml.resolve tag style text <;> rfl

variable {tag : Option Tag} {text : String}

theorem scalarOf_plain_eq_ok_iff {t : String} {left' : Nat} :
    scalarOf place (.scalar tag .plain text) env left = .ok (t, left') ↔ left' = left ∧ Keeps tag text t := by
  rw [scalarOf_scalar, Keeps]
  split_ifs with hkind
  · simp [hkind]
  · cases hvalue : Yaml.resolve tag .plain text with
    | error m => simp
    | ok v => simp [keptText_eq_ok_iff, hkind]

theorem scalarOf_plain_eq_error {e : ReadError} (h : scalarOf place (.scalar tag .plain text) env left = .error e) :
    ∃ fault, e = .schema place fault := by
  rw [scalarOf_scalar] at h
  split_ifs at h
  · exact ⟨_, (Except.error.inj h).symm⟩
  · split at h
    · exact keptText_eq_error h
    · exact ⟨_, (Except.error.inj h).symm⟩

theorem Keeps.eq_iff {t : String} (h : Keeps tag text t) : t = text ↔ ¬ Respells tag text := by
  obtain ⟨-, v, hvalue, hkept⟩ := h
  rw [hkept.eq_iff (Yaml.spells_of_resolve hvalue), Respells, hvalue]
  simp

theorem bind_run_eq_ok_iff {α β : Type} {x : Read α} {f : α → Read β} {r : β × Nat} :
    (x >>= f) env left = .ok r ↔ ∃ a left', x env left = .ok (a, left') ∧ f a env left' = .ok r := by
  refine (bind_eq_ok_iff (x := x env left) (f := fun p => f p.1 env p.2)).trans ⟨?_, ?_⟩
  · rintro ⟨⟨a, left'⟩, hx, hf⟩
    exact ⟨a, left', hx, hf⟩
  · rintro ⟨a, left', hx, hf⟩
    exact ⟨(a, left'), hx, hf⟩

/-- Whether a value is missing is told by its text, so no alias is followed. -/
theorem isMissing_plain {mapping : Path} {missing : Bool} {left' : Nat}
    (h : isMissing mapping (.scalar tag .plain text) env left = .ok (missing, left')) : left' = left := by
  cases tag with
  | none =>
      cases h
      rfl
  | some tag =>
      simp only [isMissing] at h
      split_ifs at h <;> cases h <;> rfl

/-- A value that may be missing is read in the same way if it is there. -/
theorem scalarOf_of_optional {mapping : Path} {t : String} {left' : Nat}
    (h : optional mapping place scalarOf (.scalar tag .plain text) env left = .ok (some t, left')) :
    scalarOf place (.scalar tag .plain text) env left = .ok (t, left') := by
  rw [optional, follow_scalar, pure_bind] at h
  obtain ⟨missing, between, hmissing, h⟩ := bind_run_eq_ok_iff.1 h
  cases isMissing_plain hmissing
  cases missing with
  | true => cases h
  | false =>
      obtain ⟨s, between, hs, h⟩ := bind_run_eq_ok_iff.1 h
      cases h
      exact hs

end Read

/-- **Plain scalars are kept as written, are written anew, or are refused.** The text of a plain scalar is what is
written, on one line all of it. It is kept exactly if it stands for a text, a boolean or an integer of 64 bits, also
where a value may be missing. Everything else is refused with a complaint about its place, which tells of a float that
it has to be quoted. What a scalar is kept as is its text, unless it is a boolean with a capital or an integer in a
foreign spelling. -/
theorem plain_scalar_kept {flow : Bool} {indent : Int} {c : Yaml.Cursor} {s : Yaml.Scanned}
    (h : Yaml.scanPlain flow indent c = .ok s) :
    ∃ written gap, s.Takes [] c.rest written gap ∧ ∀ (tag : Option Yaml.Tag) (place : Path) (env : Surroundings)
        (left : Nat),
      let n : Yaml.Node := .scalar tag .plain s.text
      (∀ t left', Read.scalarOf place n env left = .ok (t, left') ↔ left' = left ∧ Read.Keeps tag s.text t)
        ∧ (∀ mapping t left', Read.optional mapping place Read.scalarOf n env left = .ok (some t, left') →
            left' = left ∧ Read.Keeps tag s.text t)
        ∧ ((¬ ∃ t, Read.Keeps tag s.text t) → ∃ fault, Read.scalarOf place n env left = .error (.schema place fault))
        ∧ (∀ x, Yaml.selectsKind tag = false → Yaml.resolve tag .plain s.text = .ok (.float x) →
            Read.scalarOf place n env left = .error (.schema place (.unquotedNumber x)))
        ∧ ∀ t, Read.Keeps tag s.text t → (t = s.text ↔ ¬ Read.Respells tag s.text) := by
  obtain ⟨written, gap, htakes⟩ := Yaml.scanPlain_takes h
  refine ⟨written, gap, htakes, fun tag place env left => ⟨fun _ _ => Read.scalarOf_plain_eq_ok_iff, ?_, ?_, ?_, ?_⟩⟩
  · intro mapping t left' hoptional
    exact Read.scalarOf_plain_eq_ok_iff.1 (Read.scalarOf_of_optional hoptional)
  · intro hnone
    cases hread : Read.scalarOf place (.scalar tag .plain s.text) env left with
    | ok r => exact absurd ⟨r.1, (Read.scalarOf_plain_eq_ok_iff.1 hread).2⟩ hnone
    | error e =>
        obtain ⟨fault, rfl⟩ := Read.scalarOf_plain_eq_error hread
        exact ⟨fault, rfl⟩
  · intro x hkind hfloat
    rw [Read.scalarOf_scalar, if_neg (Bool.eq_false_iff.1 hkind), hfloat]
    rfl
  · exact fun t hkept => hkept.eq_iff

/-- A port number before a comment is kept as it is. -/
theorem plain_scalar_kept_port :
    let s : Yaml.Scanned := ⟨"8080", ⟨"# the port".toList, ⟨5, 0, 5⟩⟩, false⟩
    Yaml.scanPlain false 0 ⟨"8080 # the port".toList, ⟨0, 0, 0⟩⟩ = .ok s
      ∧ ∀ place env left, Read.scalarOf place (.scalar none .plain s.text) env left = .ok ("8080", left) := by
  intro s
  have hscan : Yaml.scanPlain false 0 ⟨"8080 # the port".toList, ⟨0, 0, 0⟩⟩ = .ok s := rfl
  have hint : Yaml.resolvePlain "8080" = .int 8080 := by decide +kernel
  have hkept : Read.Keeps none "8080" "8080" := ⟨rfl, .int 8080, congrArg Except.ok hint, .int (by decide) (by decide)⟩
  obtain ⟨_, _, -, hread⟩ := plain_scalar_kept hscan
  exact ⟨hscan, fun place env left => ((hread none place env left).1 _ _).2 ⟨rfl, hkept⟩⟩

/-- A capital and a base are not kept. -/
theorem scalars_rewritten :
    let text := "schema_version: 0\nparams:\n  - key: a\n    expect: True\n    update: 0x1F\n"
    RawPatch.ofText text = .ok ⟨0, none, [⟨some "a", some "true", some "31"⟩], []⟩
      ∧ RawPatch.ofText text ≠ .ok ⟨0, none, [⟨some "a", some "True", some "0x1F"⟩], []⟩ := by
  decide +kernel

end GuardedPatch
