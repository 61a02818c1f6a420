import GuardedPatch.Proofs.Run.Shared

set_option autoImplicit false

/-! # Two runs that find the same record

Two runs on one store each overlay some fields of the same record. In whatever order they have their turns, a field
that neither of them lists keeps its value, and so does what the run that is applied last writes. What the other run
writes stays as well, unless the two overlap: a run that was validated before the other one was applied puts back the
fields that it has read, if it changes the record at all (`fields_after_both`). So the update of the run that is applied
first is lost then (`update_lost`). -/

namespace GuardedPatch

/-! ## Orders of turns -/

/-- An order of the elements of two lists that keeps the order of each list. -/
inductive Interleaves {α : Type} : List α → List α → List α → Prop
  | nil : Interleaves [] [] []
  | left {x : α} {xs ys zs : List α} : Interleaves xs ys zs → Interleaves (x :: xs) ys (x :: zs)
  | right {y : α} {xs ys zs : List α} : Interleaves xs ys zs → Interleaves xs (y :: ys) (y :: zs)

theorem Interleaves.of_nil_left {α : Type} {ys zs : List α} (h : Interleaves [] ys zs) : zs = ys := by
  induction ys generalizing zs with
  | nil =>
      cases h
      rfl
  | cons y rest ih =>
      cases h with
      | right hrest => rw [ih hrest]

theorem Interleaves.of_nil_right {α : Type} {xs zs : List α} (h : Interleaves xs [] zs) : zs = xs := by
  induction xs generalizing zs with
  | nil =>
      cases h
      rfl
  | cons x rest ih =>
      cases h with
      | left hrest => rw [ih hrest]

/-- Two elements and two other ones can be put in six orders. -/
theorem Interleaves.of_pairs {α : Type} {a b c d : α} {zs : List α} (h : Interleaves [a, b] [c, d] zs) :
    zs = [a, b, c, d] ∨ zs = [a, c, b, d] ∨ zs = [a, c, d, b] ∨ zs = [c, a, b, d] ∨ zs = [c, a, d, b]
      ∨ zs = [c, d, a, b] := by
  cases h with
  | left h =>
      cases h with
      | left h => simp [h.of_nil_left]
      | right h =>
          cases h with
          | left h => simp [h.of_nil_left]
          | right h => simp [h.of_nil_right]
  | right h =>
      cases h with
      | left h =>
          cases h with
          | left h => simp [h.of_nil_left]
          | right h => simp [h.of_nil_right]
      | right h => simp [h.of_nil_right]

/-- One of two runs. -/
inductive Side
  | left
  | right
deriving DecidableEq

/-- The turns of a run. -/
def Side.turns (i : Side) : List (Move Side) :=
  [⟨i, .validate⟩, ⟨i, .apply⟩]

/-- In these turns, one run was validated before the other one was applied. -/
def OverlapsAt (moves : List (Move Side)) (first last : Side) : Prop :=
  [⟨last, .validate⟩, ⟨first, .apply⟩].Sublist moves

instance (moves : List (Move Side)) (first last : Side) : Decidable (OverlapsAt moves first last) :=
  inferInstanceAs (Decidable (List.Sublist _ _))

instance (p : Phase) : Decidable (∃ report, p = .applied report) :=
  match p with
  | .applied report => isTrue ⟨report, rfl⟩
  | .loaded => isFalse (by simp)
  | .validated _ => isFalse (by simp)
  | .aborted _ => isFalse (by simp)

/-! ## The record afterwards -/

section Record

variable {d : Document} {c : FeatureChange}

theorem Document.Valid.overwrite_eq (hd : d.Valid) (hc : c ∈ d.features) (read current : Option FeatureRecord) :
    d.overwrite c.id read current = if read = some (c.wanted read) then current else some (c.wanted read) := by
  have hfind : d.features.find? (·.id == c.id) = some c := find?_eq_of_mem hd.ids_nodup hc
  rw [overwrite, hfind]

/-- A record that was not changed in between becomes the wanted one. -/
theorem Document.Valid.overwrite_self (hd : d.Valid) (hc : c ∈ d.features) (record : Option FeatureRecord) :
    d.overwrite c.id record record = some (c.wanted record) := by
  rw [hd.overwrite_eq hc]
  split_ifs with hsame
  · exact hsame
  · rfl

end Record

/-- Where a track comes to in any order of two runs' turns. -/
theorem Track.current_after (d : Side → Document) (id : String) (record : Option FeatureRecord)
    {moves : List (Move Side)} (hmoves : Interleaves Side.left.turns Side.right.turns moves) {first last : Side}
    (hne : first ≠ last) (horder : [⟨first, .apply⟩, ⟨last, .apply⟩].Sublist moves) :
    ((start record).after d id moves).current
      = let written := (d first).overwrite id record record
        if OverlapsAt moves first last then (d last).overwrite id record written
        else (d last).overwrite id written written := by
  cases first <;> cases last <;> try contradiction
  all_goals
    rcases hmoves.of_pairs with rfl | rfl | rfl | rfl | rfl | rfl
    all_goals first | rfl | exact absurd horder (by decide)

/-! ## The fields afterwards -/

theorem FeatureChange.get?_wanted {c : FeatureChange} (h : c.mode = .find) (r : FeatureRecord) (name : String) :
    (c.wanted (some r)).fields.get? name = (c.desired.get? name).or (r.fields.get? name) := by
  rw [wanted_of_find h]
  exact TextMap.get?_overlaid _ _ _

section Fields

variable {s : MemoryStore} {ctx : Side → Context} {d : Side → Document} {c : Side → FeatureChange} {id : String}
  {moves : List (Move Side)} {first last : Side}

theorem unbroken_of_applied (happlied : ∀ i, ∃ report,
    (((Shared.start s ctx d).after moves).run i).phase = .applied report) :
    ((Shared.start s ctx d).after moves).Unbroken := by
  intro i report hbroken
  obtain ⟨report', hphase⟩ := happlied i
  rw [hphase] at hbroken
  cases hbroken

/-- A change that finds its record does not get through validation without it. -/
theorem exists_record (hrecords : DistinctIds s.features) {i : Side} (hc : c i ∈ (d i).features)
    (hmode : (c i).mode = .find) {rest : List (Move Side)}
    (hunbroken : ((Shared.start s ctx d).after (⟨i, .validate⟩ :: rest)).Unbroken) :
    ∃ before, recordAt? s.features (c i).id = some before := by
  have hfirst : ((Shared.start s ctx d).move ⟨i, .validate⟩).Unbroken := Shared.unbroken_of_after hunbroken
  have hrun := hfirst i
  simp only [Shared.move, Function.update_self] at hrun
  have hloaded : (PatchRun.start (ctx i) (d i)).phase = .loaded := rfl
  obtain ⟨report, hreport, -⟩ := PatchRun.take_validate hloaded hrun
  exact Option.isSome_iff_exists.1 (s.reads.found hrecords hreport (c i) hc hmode)

/-- What two runs make of a record. -/
theorem record_after_both (hrecords : DistinctIds s.features) (hd : ∀ i, (d i).Valid)
    (hc : ∀ i, c i ∈ (d i).features) (hid : ∀ i, (c i).id = id)
    (hmoves : Interleaves Side.left.turns Side.right.turns moves) (hne : first ≠ last)
    (horder : [⟨first, .apply⟩, ⟨last, .apply⟩].Sublist moves)
    (hunbroken : ((Shared.start s ctx d).after moves).Unbroken) :
    recordAt? ((Shared.start s ctx d).after moves).store.features id
      = let record := recordAt? s.features id
        some (if OverlapsAt moves first last then
          if (c last).altersIn s.features then (c last).wanted record else (c first).wanted record
        else (c last).wanted (some ((c first).wanted record))) := by
  have hself : ∀ i record, (d i).overwrite id record record = some ((c i).wanted record) := fun i record =>
    hid i ▸ (hd i).overwrite_self (hc i) record
  have halters : (c last).altersIn s.features
      ↔ recordAt? s.features id ≠ some ((c last).wanted (recordAt? s.features id)) := by
    rw [FeatureChange.altersIn, hid, bne_iff_ne]
  rw [((Shared.follows_start hrecords ctx d id).after hd moves hunbroken).current,
    Track.current_after d id _ hmoves hne horder]
  simp only [hself, halters]
  split_ifs with hoverlap hsame
  · exact hid last ▸ (((hd last).overwrite_eq (hc last) _ _).trans (if_neg (hid last ▸ hsame)))
  · exact hid last ▸ (((hd last).overwrite_eq (hc last) _ _).trans (if_pos (hid last ▸ not_not.1 hsame)))
  · rfl

/-- **What two runs make of a record that both of them find.** Take any order of their turns in which both are applied.
    A field that neither run lists is as before, and a field that only the run lists that is applied last has the value
    that this one desires. A field that only the other run lists has the value that the other one desires, unless the
    runs overlap and the last one alters the record as it was before: then that field is as before, too. -/
theorem fields_after_both (hrecords : DistinctIds s.features) (hd : ∀ i, (d i).Valid)
    (hc : ∀ i, c i ∈ (d i).features) (hid : ∀ i, (c i).id = id) (hmode : ∀ i, (c i).mode = .find)
    (hmoves : Interleaves Side.left.turns Side.right.turns moves) (hne : first ≠ last)
    (horder : [⟨first, .apply⟩, ⟨last, .apply⟩].Sublist moves)
    (happlied : ∀ i, ∃ report, (((Shared.start s ctx d).after moves).run i).phase = .applied report) :
    ∃ before after, recordAt? s.features id = some before
      ∧ recordAt? ((Shared.start s ctx d).after moves).store.features id = some after
      ∧ ∀ name,
        ((c first).desired.get? name = none → (c last).desired.get? name = none →
          after.fields.get? name = before.fields.get? name)
        ∧ (∀ value, (c first).desired.get? name = none → (c last).desired.get? name = some value →
          after.fields.get? name = some value)
        ∧ ∀ value, (c first).desired.get? name = some value → (c last).desired.get? name = none →
          after.fields.get? name
            = if OverlapsAt moves first last ∧ (c last).altersIn s.features then before.fields.get? name
              else some value := by
  have hunbroken := unbroken_of_applied happlied
  obtain ⟨before, hbefore⟩ : ∃ before, recordAt? s.features id = some before := by
    obtain ⟨i, rest, rfl⟩ : ∃ i rest, moves = ⟨i, .validate⟩ :: rest := by
      cases hmoves with
      | left h => exact ⟨_, _, rfl⟩
      | right h => exact ⟨_, _, rfl⟩
    exact hid i ▸ exists_record hrecords (hc i) (hmode i) hunbroken
  have hafter := record_after_both hrecords hd hc hid hmoves hne horder hunbroken
  simp only [hbefore] at hafter
  refine ⟨before, _, hbefore, hafter, fun name => ?_⟩
  by_cases hoverlap : OverlapsAt moves first last
  · by_cases halters : (c last).altersIn s.features
    · -- the last run puts what it has made of its own record in the place of what the other one has written
      simp only [if_pos hoverlap, if_pos halters, if_pos (And.intro hoverlap halters),
        FeatureChange.get?_wanted (hmode last)]
      exact ⟨fun _ hlast => by rw [hlast, Option.none_or], fun _ _ hlast => by rw [hlast, Option.some_or],
        fun _ _ hlast => by rw [hlast, Option.none_or]⟩
    · -- the last run leaves the record alone, since what it desires was there from the start
      have hthere : some before = some ((c last).wanted (some before)) := by
        rwa [FeatureChange.altersIn, hid, hbefore, bne_iff_ne, not_not] at halters
      have hown : ∀ name, before.fields.get? name
          = ((c last).desired.get? name).or (before.fields.get? name) := fun name => by
        conv_lhs => rw [Option.some.inj hthere]
        exact FeatureChange.get?_wanted (hmode last) before name
      simp only [if_pos hoverlap, if_neg halters, if_neg (fun h : _ ∧ _ => halters h.2),
        FeatureChange.get?_wanted (hmode first)]
      exact ⟨fun hfirst _ => by rw [hfirst, Option.none_or],
        fun _ hfirst hlast => by rw [hfirst, Option.none_or, hown, hlast, Option.some_or],
        fun _ hfirst _ => by rw [hfirst, Option.some_or]⟩
  · -- the last run has read what the other one has written
    simp only [if_neg hoverlap, if_neg (fun h : _ ∧ _ => hoverlap h.1), FeatureChange.get?_wanted (hmode _)]
    exact ⟨fun hfirst hlast => by rw [hfirst, hlast, Option.none_or, Option.none_or],
      fun _ _ hlast => by rw [hlast, Option.some_or],
      fun _ hfirst hlast => by rw [hfirst, hlast, Option.none_or, Option.some_or]⟩

end Fields

/-- One run after the other, both updates stay. -/
theorem fields_after_both_serial :
    let s : MemoryStore := ⟨.empty, [⟨"f", "t", .ofList [("x", "1"), ("y", "1")]⟩], []⟩
    let c : Side → FeatureChange
      | .left => ⟨"f", none, .find, .ofList [("x", "2")]⟩
      | .right => ⟨"f", none, .find, .ofList [("y", "2")]⟩
    let d : Side → Document := fun i => ⟨"site", [], [c i]⟩
    let ctx : Side → Context := fun _ => ⟨"run", none⟩
    let moves := Side.left.turns ++ Side.right.turns
    ∃ after, recordAt? ((Shared.start s ctx d).after moves).store.features "f" = some after
      ∧ after.fields.get? "x" = some "2" ∧ after.fields.get? "y" = some "2" := by
  intro s c d ctx moves
  have hmoves : Interleaves Side.left.turns Side.right.turns moves := .left (.left (.right (.right .nil)))
  have hvalid : ∀ i, (d i).Valid := fun i => by cases i <;> exact ⟨rfl, by decide +kernel⟩
  have happlied : ∀ i, ∃ report, (((Shared.start s ctx d).after moves).run i).phase = .applied report := fun i => by
    cases i <;> decide +kernel
  obtain ⟨before, after, -, hafter, hfields⟩ := fields_after_both (s := s) (c := c) (by decide) hvalid
    (fun i => List.mem_singleton_self _) (fun i => by cases i <;> rfl) (fun i => by cases i <;> rfl) hmoves
    (show Side.left ≠ Side.right by decide) (by decide) happlied
  have hserial : ¬ OverlapsAt moves .left .right := by decide
  refine ⟨after, hafter, ?_, (hfields "y").2.1 "2" rfl rfl⟩
  rw [(hfields "x").2.2 "2" rfl rfl, if_neg fun h => hserial h.1]

/-- **An update is lost** if both runs are validated before one of them is applied: the field that only the first one
    lists has its old value again. -/
theorem update_lost :
    let s : MemoryStore := ⟨.empty, [⟨"f", "t", .ofList [("x", "1"), ("y", "1")]⟩], []⟩
    let c : Side → FeatureChange
      | .left => ⟨"f", none, .find, .ofList [("x", "2")]⟩
      | .right => ⟨"f", none, .find, .ofList [("y", "2")]⟩
    let d : Side → Document := fun i => ⟨"site", [], [c i]⟩
    let ctx : Side → Context := fun _ => ⟨"run", none⟩
    let moves : List (Move Side) := [⟨.left, .validate⟩, ⟨.right, .validate⟩, ⟨.left, .apply⟩, ⟨.right, .apply⟩]
    DistinctIds s.features ∧ (∀ i, (d i).Valid) ∧ Interleaves Side.left.turns Side.right.turns moves
      ∧ (∀ i, ∃ report, (((Shared.start s ctx d).after moves).run i).phase = .applied report)
      ∧ (c .left).desired.get? "x" = some "2" ∧ (c .right).desired.get? "x" = none
      ∧ ∃ after, recordAt? ((Shared.start s ctx d).after moves).store.features "f" = some after
        ∧ after.fields.get? "x" = some "1" := by
  intro s c d ctx moves
  refine ⟨by decide, fun i => ?_, .left (.right (.left (.right .nil))), fun i => ?_, rfl, rfl,
    ⟨"f", "t", .ofList [("x", "1"), ("y", "2")]⟩, by decide +kernel, rfl⟩
  · cases i <;> exact ⟨rfl, by decide +kernel⟩
  · cases i <;> decide +kernel

end GuardedPatch
