import GuardedPatch.Proofs.Run.Phases
import GuardedPatch.Run.Kept

set_option autoImplicit false

/-! # Runs as they are kept

A run with a phase has its report in the phase, so that it cannot lack one; a run that is kept with a state and a
report apart could. The second kind does as the first one: each run with a phase can be kept (`PatchRun.kept`), and
what is asked of it then gives the same answers and leads to what keeping the other one leads to, for one request
(`KeptRun.validate_kept`, `KeptRun.forecast_kept`, `KeptRun.apply_kept`) and for any number of them
(`KeptRun.asked_start`). So a run that is kept from its start on never misses its report
(`KeptRun.validatedReport_of_asked`). -/

namespace GuardedPatch

/-- The state that a phase is, with its report left out. -/
def Phase.state : Phase → RunState
  | .loaded => .loaded
  | .validated _ => .validated
  | .applied _ => .applied
  | .aborted _ => .aborted

/-- A run with its state and its report apart. -/
def PatchRun.kept (run : PatchRun) : KeptRun :=
  ⟨run.context, run.phase.state, run.document, run.digest, run.phase.report?⟩

namespace KeptRun

theorem kept_start (context : Context) (document : Document) :
    (PatchRun.start context document).kept = start context document := rfl

variable {σ : Type} [ConfigStore σ]

/-! ## One request -/

/-- **Validating a run as it is kept** gives the same and leads to the same. -/
theorem validate_kept (run : PatchRun) (s : σ) :
    run.kept.validate s = ((run.validate s).1.kept, (run.validate s).2) := by
  obtain ⟨context, document, phase⟩ := run
  cases phase with
  | loaded =>
      simp only [validate, PatchRun.validate, PatchRun.kept, expectState, Phase.state, if_true]
      cases (GuardedPatch.validate document s).answer <;> rfl
  | validated report => rfl
  | applied report => rfl
  | aborted report => rfl

/-- **So does planning.** -/
theorem forecast_kept (run : PatchRun) : run.kept.forecast = run.forecast := by
  obtain ⟨context, document, phase⟩ := run
  cases phase <;> rfl

/-- **So does applying.** -/
theorem apply_kept (run : PatchRun) (s : σ) : run.kept.apply s = ((run.apply s).1.kept, (run.apply s).2) := by
  obtain ⟨context, document, phase⟩ := run
  cases phase with
  | validated report =>
      simp only [apply, PatchRun.apply, PatchRun.kept, expectState, validatedReport, Phase.state, Phase.report?, if_true]
      cases (PatchRun.applyBracketed document report s).answer <;> rfl
  | loaded => rfl
  | applied report => rfl
  | aborted report => rfl

/-! ## Any number of requests -/

/-- The run after a request. -/
def after (run : KeptRun) : Ask → KeptRun
  | .validate s => (run.validate s.store).1
  | .plan => run
  | .apply s => (run.apply s.store).1

/-- The error that is answered to a request, if there is one. -/
def complaint? (run : KeptRun) : Ask → Option PatchError
  | .validate s => error? (run.validate s.store).2.answer
  | .plan => error? run.forecast
  | .apply s => error? (run.apply s.store).2.answer

theorem after_kept (run : PatchRun) (ask : Ask) : run.kept.after ask = (Turn.mk run ask).after.kept := by
  cases ask with
  | validate s => exact congrArg Prod.fst (validate_kept run s.store)
  | plan => rfl
  | apply s => exact congrArg Prod.fst (apply_kept run s.store)

theorem complaint?_kept (run : PatchRun) (ask : Ask) : run.kept.complaint? ask = (Turn.mk run ask).complaint? := by
  cases ask with
  | validate s => exact congrArg (fun out => error? out.2.answer) (validate_kept run s.store)
  | plan => exact congrArg error? (forecast_kept run)
  | apply s => exact congrArg (fun out => error? out.2.answer) (apply_kept run s.store)

/-- **Whatever is asked of a run that is kept, it goes as the run with a phase.** -/
theorem asked_start (context : Context) (document : Document) (asks : List Ask) :
    asks.foldl after (start context document) = ((PatchRun.start context document).asked asks).kept := by
  have hasked : ∀ run : PatchRun, asks.foldl after run.kept = (run.asked asks).kept := by
    induction asks with
    | nil => exact fun _ => rfl
    | cons ask rest ih =>
        intro run
        rw [List.foldl_cons, after_kept, ih]
        rfl
  rw [← kept_start]
  exact hasked (.start context document)

/-- **A run that is kept never misses its report.** -/
theorem validatedReport_of_asked (context : Context) (document : Document) (asks : List Ask)
    (h : (asks.foldl after (start context document)).state = .validated) :
    ∃ report, (asks.foldl after (start context document)).validatedReport = .ok report := by
  rw [asked_start] at h ⊢
  generalize (PatchRun.start context document).asked asks = run at h ⊢
  obtain ⟨context, document, phase⟩ := run
  cases phase with
  | validated report => exact ⟨report, rfl⟩
  | loaded => cases h
  | applied report => cases h
  | aborted report => cases h

end KeptRun

end GuardedPatch
