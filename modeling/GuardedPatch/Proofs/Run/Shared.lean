import GuardedPatch.Proofs.Run.Memory
import GuardedPatch.Proofs.Run.Phases

set_option autoImplicit false

/-! # Runs that share a store

Several runs can work on one store by turns, since nothing keeps a run from being validated before another one is
applied. What becomes of a record then is told by what each run takes it for: a run reads the record when it is
validated, and when it is applied it puts what it wants in the place of what it has read, if that is another one,
whatever the record has become meanwhile (`View.take`). As long as no run is aborted, the store holds what this tells
(`Shared.Follows.after`). -/

namespace GuardedPatch

/-! ## Turns -/

/-- What a run does next. -/
inductive Stage
  | validate
  | apply
deriving DecidableEq

/-- A run and its store after the run had its turn. -/
def PatchRun.take (run : PatchRun) (s : MemoryStore) : Stage → PatchRun × MemoryStore
  | .validate => ((run.validate s).1, (run.validate s).2.store)
  | .apply => ((run.apply s).1, (run.apply s).2.store)

/-- The turn of one of several runs. -/
structure Move (ι : Type) where
  who : ι
  stage : Stage
deriving DecidableEq

/-- Several runs on one store. -/
structure Shared (ι : Type) where
  store : MemoryStore
  run : ι → PatchRun

namespace Shared

variable {ι : Type}

/-- Runs that have not looked at their store. -/
def start (s : MemoryStore) (ctx : ι → Context) (d : ι → Document) : Shared ι :=
  ⟨s, fun i => .start (ctx i) (d i)⟩

/-- No run has failed. -/
def Unbroken (p : Shared ι) : Prop :=
  ∀ i report, (p.run i).phase ≠ .aborted report

variable [DecidableEq ι]

/-- The store and the runs after one of them had its turn. -/
def move (p : Shared ι) (m : Move ι) : Shared ι :=
  let (run, s) := (p.run m.who).take p.store m.stage
  ⟨s, Function.update p.run m.who run⟩

/-- The store and the runs after several turns. -/
def after (p : Shared ι) (moves : List (Move ι)) : Shared ι :=
  moves.foldl move p

end Shared

/-! ## What becomes of a record -/

/-- What a run takes a record for. -/
inductive View
  | unread
  | read (record : Option FeatureRecord)
  /-- The run has had its way with the record. -/
  | settled

/-- What a run of a document takes a record for after its turn, and what the record is then. -/
def View.take (d : Document) (id : String) (current : Option FeatureRecord) : View → Stage → View × Option FeatureRecord
  | .unread, .validate => (.read current, current)
  | .read record, .apply => (.settled, d.overwrite id record current)
  | view, _ => (view, current)

/-- A record, and what several runs take it for. -/
structure Track (ι : Type) where
  current : Option FeatureRecord
  view : ι → View

namespace Track

variable {ι : Type}

/-- A record that no run has read. -/
def start (record : Option FeatureRecord) : Track ι :=
  ⟨record, fun _ => .unread⟩

variable [DecidableEq ι]

/-- The record after one of several runs of these documents had its turn. -/
def move (d : ι → Document) (id : String) (t : Track ι) (m : Move ι) : Track ι :=
  let (view, current) := (t.view m.who).take (d m.who) id t.current m.stage
  ⟨current, Function.update t.view m.who view⟩

/-- The record after several turns. -/
def after (d : ι → Document) (id : String) (t : Track ι) (moves : List (Move ι)) : Track ι :=
  moves.foldl (move d id) t

end Track

/-! ## One turn -/

namespace PatchRun

variable {id : String} {run : PatchRun} {view : View} {s : MemoryStore}

/-- A run has come as far with a record as this: if it is validated, then by a store that held what it has read. -/
inductive Views (id : String) (run : PatchRun) : View → Prop
  | unread : run.phase = .loaded → Views id run .unread
  | read (report : Report) (seen : MemoryStore) :
    run.phase = .validated report → DistinctIds seen.features →
      (GuardedPatch.validate run.document seen).answer = .ok report → Views id run (.read (recordAt? seen.features id))
  | settled (report : Report) : run.phase = .applied report → Views id run .settled

/-- A run is validated by the store, or fails. -/
theorem take_validate (hphase : run.phase = .loaded) (hunbroken : ∀ r, (run.take s .validate).1.phase ≠ .aborted r) :
    ∃ report, (GuardedPatch.validate run.document s).answer = .ok report
      ∧ run.take s .validate = ({ run with phase := .validated report }, s) := by
  rcases run.validate_cases s with ⟨-, htraced, ⟨report, hreport, hrun⟩ | ⟨e, -, hrun⟩⟩ | ⟨hother, -⟩
  · refine ⟨report, hreport, ?_⟩
    rw [take, hrun, htraced, s.reads.validate_store]
  · exact absurd (congrArg phase hrun) (hunbroken none)
  · exact absurd hphase hother

/-- A run is applied by its report, or fails. -/
theorem take_apply {report : Report} (hphase : run.phase = .validated report)
    (hunbroken : ∀ r, (run.take s .apply).1.phase ≠ .aborted r) :
    (∃ result, (GuardedPatch.apply run.document report s).answer = .ok result)
      ∧ run.take s .apply
        = ({ run with phase := .applied report }, (GuardedPatch.apply run.document report s).store) := by
  obtain ⟨hanswer, hstore⟩ := MemoryStore.applyBracketed_eq run.document report s
  rw [take, PatchRun.apply, hphase] at hunbroken ⊢
  simp only [hanswer] at hunbroken ⊢
  cases happly : (GuardedPatch.apply run.document report s).answer with
  | ok result =>
      rw [← hstore]
      exact ⟨⟨result, rfl⟩, rfl⟩
  | error e =>
      rw [happly] at hunbroken
      exact absurd rfl (hunbroken (some report))

/-- A run that is asked out of turn does nothing. -/
theorem Views.take_eq (h : run.Views id view) {stage : Stage}
    (hturn : ∀ current, view.take run.document id current stage = (view, current)) : run.take s stage = (run, s) := by
  cases h with
  | unread hphase =>
      cases stage with
      | validate => cases hturn none
      | apply => simp [PatchRun.take, PatchRun.apply, hphase, Traced.fail]
  | read report seen hphase _ _ =>
      cases stage with
      | validate => simp [PatchRun.take, PatchRun.validate, hphase, Traced.fail]
      | apply => cases hturn none
  | settled report hphase =>
      cases stage with
      | validate => simp [PatchRun.take, PatchRun.validate, hphase, Traced.fail]
      | apply => simp [PatchRun.take, PatchRun.apply, hphase, Traced.fail]

/-- **A turn does to the record what the run takes it for.** -/
theorem Views.take (h : run.Views id view) (hd : run.document.Valid) (hrecords : DistinctIds s.features) {stage : Stage}
    (hunbroken : ∀ r, (run.take s stage).1.phase ≠ .aborted r) :
    (run.take s stage).1.document = run.document
      ∧ DistinctIds (run.take s stage).2.features
      ∧ (run.take s stage).1.Views id (view.take run.document id (recordAt? s.features id) stage).1
      ∧ recordAt? (run.take s stage).2.features id
        = (view.take run.document id (recordAt? s.features id) stage).2 := by
  have hidle (hturn : ∀ current, view.take run.document id current stage = (view, current)) :
      (run.take s stage).1.document = run.document
        ∧ DistinctIds (run.take s stage).2.features
        ∧ (run.take s stage).1.Views id (view.take run.document id (recordAt? s.features id) stage).1
        ∧ recordAt? (run.take s stage).2.features id
          = (view.take run.document id (recordAt? s.features id) stage).2 := by
    rw [h.take_eq hturn, hturn]
    exact ⟨rfl, hrecords, h, rfl⟩
  cases h with
  | unread hphase =>
      cases stage with
      | validate =>
          obtain ⟨report, hreport, htake⟩ := take_validate hphase hunbroken
          rw [htake]
          exact ⟨rfl, hrecords, .read report s rfl hrecords hreport, rfl⟩
      | apply => exact hidle fun _ => rfl
  | read report seen hphase hseen hreport =>
      cases stage with
      | validate => exact hidle fun _ => rfl
      | apply =>
          obtain ⟨⟨result, hok⟩, htake⟩ := take_apply hphase hunbroken
          rw [htake, (MemoryStore.apply_of_ok hseen hreport hok).2]
          exact ⟨rfl, hrecords.foldl_replaceOrAppend _, .settled report rfl, MemoryStore.recordAt?_written hd s seen id⟩
  | settled report hphase => cases stage <;> exact hidle fun _ => rfl

end PatchRun

/-! ## All turns -/

/-- The store holds the record of a track, and the runs are as far with it as the track says. -/
structure Shared.Follows {ι : Type} (d : ι → Document) (id : String) (p : Shared ι) (t : Track ι) : Prop where
  distinct : DistinctIds p.store.features
  current : recordAt? p.store.features id = t.current
  document : ∀ i, (p.run i).document = d i
  views : ∀ i, (p.run i).Views id (t.view i)

/-- Runs that have not looked at their store have not read the record yet. -/
theorem Shared.follows_start {ι : Type} {s : MemoryStore} (hrecords : DistinctIds s.features) (ctx : ι → Context)
    (d : ι → Document) (id : String) : (start s ctx d).Follows d id (.start (recordAt? s.features id)) where
  distinct := hrecords
  current := rfl
  document _ := rfl
  views _ := .unread rfl

namespace Shared

variable {ι : Type} [DecidableEq ι] {d : ι → Document} {id : String} {p : Shared ι} {t : Track ι}

/-- A run that has failed stays so. -/
theorem unbroken_of_move {m : Move ι} (h : (p.move m).Unbroken) : p.Unbroken := by
  intro i report hbroken
  refine h i report ?_
  rw [move]
  by_cases hi : i = m.who
  · subst hi
    cases hstage : m.stage with
    | validate => simp [PatchRun.take, PatchRun.validate, hbroken]
    | apply => simp [PatchRun.take, PatchRun.apply, hbroken]
  · simp only [Function.update_of_ne hi, hbroken]

theorem unbroken_of_after {moves : List (Move ι)} (h : (p.after moves).Unbroken) : p.Unbroken := by
  induction moves generalizing p with
  | nil => exact h
  | cons m rest ih => exact unbroken_of_move (ih h)

/-- **The store still holds the record of the track after one more turn.** -/
theorem Follows.move (h : p.Follows d id t) (hd : ∀ i, (d i).Valid) {m : Move ι} (hunbroken : (p.move m).Unbroken) :
    (p.move m).Follows d id (t.move d id m) := by
  have hdocument := h.document m.who
  have hthis := hunbroken m.who
  simp only [Shared.move, Function.update_self] at hthis
  obtain ⟨hsame, hdistinct, hviews, hcurrent⟩ :=
    (h.views m.who).take (hdocument ▸ hd m.who) h.distinct hthis
  rw [hdocument, h.current] at hviews hcurrent
  refine ⟨hdistinct, hcurrent, fun j => ?_, fun j => ?_⟩
  -- the other runs do not notice
  · rw [Shared.move]
    by_cases hj : j = m.who
    · subst hj
      simp only [Function.update_self, hsame, hdocument]
    · simp only [Function.update_of_ne hj, h.document j]
  · rw [Shared.move, Track.move]
    by_cases hj : j = m.who
    · subst hj
      simp only [Function.update_self]
      exact hviews
    · simp only [Function.update_of_ne hj]
      exact h.views j

/-- **As long as no run is aborted, the store holds the record of the track.** -/
theorem Follows.after (h : p.Follows d id t) (hd : ∀ i, (d i).Valid) (moves : List (Move ι))
    (hunbroken : (p.after moves).Unbroken) : (p.after moves).Follows d id (t.after d id moves) := by
  induction moves generalizing p t with
  | nil => exact h
  | cons m rest ih => exact ih (h.move hd (unbroken_of_after hunbroken)) hunbroken

end Shared

end GuardedPatch
