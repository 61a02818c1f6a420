import GuardedPatch.Proofs.Run.Bracketing
import GuardedPatch.Proofs.Run.Forecast

set_option autoImplicit false

/-! # Runs only go forward

A run can be asked to validate, to plan and to apply, in any order, any number of times, and each time with another
store: of any kind, in any state, behind any faults. All that an answer can do to the run is said once for validating
(`PatchRun.validate_cases`) and once for applying (`PatchRun.apply_cases`). The invariant is that the run is still
that of its document and that a report that it goes on with is aligned with it (`PatchRun.Of`); so nothing that is
asked in turn fails for an inner reason (`Turn.orderly`). Since a unit of work is only opened in the one phase that an
apply leaves for good, at most one of all these requests writes anything (`countP_writes_le`). -/

namespace GuardedPatch

/-! ## Requests -/

/-- A store of any kind. -/
structure SomeStore where
  kind : Type
  answers : ConfigStore kind
  store : kind

instance (s : SomeStore) : ConfigStore s.kind := s.answers

/-- What a run can be asked to do. -/
inductive Ask
  | validate (s : SomeStore)
  | plan
  | apply (s : SomeStore)

/-- The word for what is asked. -/
def Ask.word : Ask → String
  | .validate _ => "validate"
  | .plan => "plan"
  | .apply _ => "apply"

/-- A run, and what it is asked to do next. -/
structure Turn where
  run : PatchRun
  ask : Ask

/-- The error that an answer is. -/
def error? {α : Type} : Except PatchError α → Option PatchError
  | .ok _ => none
  | .error e => some e

theorem error?_eq_some_iff {α : Type} {answer : Except PatchError α} {e : PatchError} :
    error? answer = some e ↔ answer = .error e := by
  cases answer <;> simp [error?]

namespace Turn

/-- The run afterwards; planning only looks at it. -/
def after (t : Turn) : PatchRun :=
  match t.ask with
  | .validate s => (t.run.validate s.store).1
  | .plan => t.run
  | .apply s => (t.run.apply s.store).1

/-- The error that is answered, if there is one. -/
def complaint? (t : Turn) : Option PatchError :=
  match t.ask with
  | .validate s => error? (t.run.validate s.store).2.answer
  | .plan => error? t.run.forecast
  | .apply s => error? (t.run.apply s.store).2.answer

/-- The calls that are issued to the store. -/
def calls (t : Turn) : List Issued :=
  match t.ask with
  | .validate s => (t.run.validate (Recorded.start s.store)).2.store.calls
  | .plan => []
  | .apply s => (t.run.apply (Recorded.start s.store)).2.store.calls

/-- Whether the store is written to. -/
def writes (t : Turn) : Bool :=
  t.calls.any (·.call.isWrite)

/-- The store is left as it was. -/
def KeepsStore (t : Turn) : Prop :=
  match t.ask with
  | .validate s => (t.run.validate s.store).2.store = s.store
  | .plan => True
  | .apply s => (t.run.apply s.store).2.store = s.store

/-- Whether the run is in the phase for what it is asked to do. -/
def inTurn (t : Turn) : Bool :=
  match t.ask, t.run.phase with
  | .validate _, .loaded | .plan, .validated _ | .apply _, .validated _ => true
  | _, _ => false

theorem inTurn_validate {run : PatchRun} {s : SomeStore} :
    (Turn.mk run (.validate s)).inTurn = true ↔ run.phase = .loaded := by
  rw [inTurn]
  cases run.phase <;> simp

theorem inTurn_plan {run : PatchRun} : (Turn.mk run .plan).inTurn = true ↔ ∃ report, run.phase = .validated report := by
  rw [inTurn]
  cases run.phase <;> simp

theorem inTurn_apply {run : PatchRun} {s : SomeStore} :
    (Turn.mk run (.apply s)).inTurn = true ↔ ∃ report, run.phase = .validated report := by
  rw [inTurn]
  cases run.phase <;> simp

end Turn

/-- The run after all of these requests. -/
def PatchRun.asked (run : PatchRun) (asks : List Ask) : PatchRun :=
  asks.foldl (fun run ask => (Turn.mk run ask).after) run

/-- A run at each of these requests. -/
def turns (run : PatchRun) : List Ask → List Turn
  | [] => []
  | ask :: rest => ⟨run, ask⟩ :: turns (Turn.mk run ask).after rest

/-! ## What a request can do -/

/-- The ways that a run can go from one phase on, or stay in it. -/
inductive Phase.Leads : Phase → Phase → Prop
  | stays (p : Phase) : Leads p p
  | validated (report : Report) : Leads .loaded (.validated report)
  | unvalidated : Leads .loaded (.aborted none)
  | applied (report : Report) : Leads (.validated report) (.applied report)
  | aborted (report : Report) : Leads (.validated report) (.aborted (some report))

/-- Nothing comes after this phase. -/
def Phase.isFinal : Phase → Bool
  | .loaded | .validated _ => false
  | .applied _ | .aborted _ => true

section Requests

variable {σ : Type} [ConfigStore σ]

/-- A run is validated if it is loaded, and is told off otherwise. -/
theorem PatchRun.validate_cases (run : PatchRun) (s : σ) :
    (run.phase = .loaded ∧ (run.validate s).2 = GuardedPatch.validate run.document s
        ∧ ((∃ report, (GuardedPatch.validate run.document s).answer = .ok report
            ∧ (run.validate s).1 = { run with phase := .validated report })
          ∨ ∃ e, (GuardedPatch.validate run.document s).answer = .error e
            ∧ (run.validate s).1 = { run with phase := .aborted none }))
      ∨ run.phase ≠ .loaded ∧ run.validate s = (run, .fail (run.outOfTurn "validate") s) := by
  rw [PatchRun.validate]
  cases hphase : run.phase with
  | loaded =>
      simp only [true_and, ne_eq, not_true_eq_false, false_and, or_false]
      cases (GuardedPatch.validate run.document s).answer with
      | ok report => exact ⟨rfl, .inl ⟨report, rfl, rfl⟩⟩
      | error e => exact ⟨rfl, .inr ⟨e, rfl, rfl⟩⟩
  | validated report => exact .inr ⟨by simp, rfl⟩
  | applied report => exact .inr ⟨by simp, rfl⟩
  | aborted report => exact .inr ⟨by simp, rfl⟩

/-- A run is applied if it is validated, and is told off otherwise. -/
theorem PatchRun.apply_cases (run : PatchRun) (s : σ) :
    (∃ report, run.phase = .validated report
        ∧ (run.apply s).2.store = (applyBracketed run.document report s).store
        ∧ error? (run.apply s).2.answer = error? (applyBracketed run.document report s).answer
        ∧ ((run.apply s).1 = { run with phase := .applied report }
          ∨ (run.apply s).1 = { run with phase := .aborted (some report) }))
      ∨ (∀ report, run.phase ≠ .validated report) ∧ run.apply s = (run, .fail (run.outOfTurn "apply") s) := by
  rw [PatchRun.apply]
  cases hphase : run.phase with
  | validated report =>
      refine .inl ⟨report, rfl, ?_⟩
      simp only
      cases hanswer : (applyBracketed run.document report s).answer with
      | ok result => exact ⟨rfl, by rw [Traced.map, hanswer]; rfl, .inl rfl⟩
      | error e => exact ⟨rfl, congrArg error? hanswer, .inr rfl⟩
  | loaded => exact .inr ⟨by simp, rfl⟩
  | applied report => exact .inr ⟨by simp, rfl⟩
  | aborted report => exact .inr ⟨by simp, rfl⟩

/-! ## Errors of requests in turn -/

/-- Reading parameters fails only because of the store, -/
theorem ofStore_of_readParams {cs : List ParamChange} {s : σ} {e : PatchError}
    (h : (readParams cs s).answer = .error e) : ∃ err, e = .ofStore err := by
  induction cs generalizing s with
  | nil => cases h
  | cons c rest ih =>
      rw [readParams] at h
      split at h
      · cases h
        exact ⟨_, rfl⟩
      · exact ih (map_eq_error_iff.1 h)

/-- and validating only because of the store, or of a feature that is not there. -/
theorem error_of_validate {d : Document} {s : σ} {e : PatchError} (h : (validate d s).answer = .error e) :
    (∃ err, e = .ofStore err) ∨ ∃ id type?, e = .featureNotFound id type? := by
  rw [validate, Traced.andThen] at h
  split at h
  · simp only [Traced.map, readFeatures] at h
    split_ifs at h
    · cases h
    · split at h
      · cases h
        exact .inl ⟨_, rfl⟩
      · obtain ⟨before, c, after, -, -, -, he⟩ := checkTargets_eq_error_iff.1 (map_eq_error_iff.1 h)
        exact .inr ⟨_, _, he⟩
  · next e' hparams =>
      cases h
      exact .inl (ofStore_of_readParams hparams)

/-- With a report that fits its document, applying fails only because a step is refused. -/
theorem refusal_of_apply_error {d : Document} {report : Report}
    (haligned : Agenda.of? d report = .ok (.ofReport d report)) {s : σ} {stop : PatchError}
    (h : (apply d report s).answer = .error stop) :
    ∃ refusal part rolledBack, (progress (Agenda.ofReport d report).steps s).refusal = some refusal
      ∧ stop = .applyAborted refusal.key refusal.reason part rolledBack := by
  cases hrefusal : (progress (Agenda.ofReport d report).steps s).refusal with
  | none =>
      rw [(apply_eq_ok_iff haligned).2 ⟨hrefusal, rfl⟩] at h
      cases h
  | some refusal =>
      rw [(apply_of_refusal haligned hrefusal).1] at h
      cases h
      exact ⟨refusal, _, _, rfl, rfl⟩

/-- With such a report, a unit of work fails because of the store, or of a step that is refused. -/
theorem kind_of_applyBracketed {d : Document} {report : Report} (haligned : report.AlignedWith d) {s : σ}
    {e : PatchError} (h : (PatchRun.applyBracketed d report s).answer = .error e) :
    e.kind = .persistence ∨ e.kind = .applyAborted := by
  obtain ⟨err, -, rfl⟩ | ⟨-, hstop | ⟨result, err, -, -, rfl⟩⟩ := applyBracketed_error_iff.1 h
  · exact .inl rfl
  · obtain ⟨refusal, part, rolledBack, -, rfl⟩ := refusal_of_apply_error haligned.agenda hstop
    exact .inr rfl
  · exact .inl rfl

end Requests

/-! ## The invariant -/

/-- A run is that of a document, and a report that it goes on with is aligned with that. -/
structure PatchRun.Of (ctx : Context) (d : Document) (run : PatchRun) : Prop where
  context : run.context = ctx
  document : run.document = d
  aligned : ∀ report, run.phase = .validated report → report.AlignedWith d

theorem PatchRun.of_start (ctx : Context) (d : Document) : (PatchRun.start ctx d).Of ctx d :=
  ⟨rfl, rfl, fun _ h => by cases h⟩

section Turn

variable {ctx : Context} {d : Document} {run : PatchRun}

/-- **What is asked out of turn is refused**, and changes neither the run nor the store. -/
theorem Turn.refused {t : Turn} (h : t.inTurn = false) :
    t.complaint? = some (t.run.outOfTurn t.ask.word) ∧ t.after = t.run ∧ t.calls = [] ∧ t.KeepsStore := by
  obtain ⟨run, ask⟩ := t
  rw [← Bool.not_eq_true] at h
  cases ask with
  | validate s =>
      rw [inTurn_validate] at h
      have hrefused : ∀ {σ : Type} [ConfigStore σ] (s : σ),
          run.validate s = (run, .fail (run.outOfTurn "validate") s) := by
        intro σ _ s
        rcases run.validate_cases s with ⟨hin, -⟩ | ⟨-, hrefused⟩
        · exact absurd hin h
        · exact hrefused
      rw [complaint?, after, calls, KeepsStore]
      simp only [hrefused]
      exact ⟨rfl, trivial, rfl, rfl⟩
  | plan =>
      rw [inTurn_plan] at h
      rw [complaint?, after, calls, KeepsStore]
      refine ⟨?_, rfl, rfl, trivial⟩
      show error? run.forecast = some (run.outOfTurn "plan")
      rw [PatchRun.forecast]
      split
      · next report hphase => exact absurd ⟨report, hphase⟩ h
      · rfl
  | apply s =>
      rw [inTurn_apply] at h
      have hrefused : ∀ {σ : Type} [ConfigStore σ] (s : σ),
          run.apply s = (run, .fail (run.outOfTurn "apply") s) := by
        intro σ _ s
        rcases run.apply_cases s with ⟨report, hin, -⟩ | ⟨-, hrefused⟩
        · exact absurd ⟨report, hin⟩ h
        · exact hrefused
      rw [complaint?, after, calls, KeepsStore]
      simp only [hrefused]
      exact ⟨rfl, trivial, rfl, rfl⟩

/-- **A request leaves the run that of its document**, in the same phase or one that comes after it. -/
theorem Turn.goes_on (h : run.Of ctx d) (ask : Ask) :
    (Turn.mk run ask).after.Of ctx d ∧ run.phase.Leads (Turn.mk run ask).after.phase := by
  cases ask with
  | validate s =>
      show (run.validate s.store).1.Of ctx d ∧ run.phase.Leads (run.validate s.store).1.phase
      rcases run.validate_cases s.store with ⟨hloaded, -, ⟨report, hok, hafter⟩ | ⟨e, -, hafter⟩⟩ | ⟨-, hrefused⟩
      · have haligned : report.AlignedWith d := by
          obtain ⟨hkeys, hids, -⟩ := Agenda.of?_eq_ok_iff.1 (validate_aligned hok)
          rw [h.document] at hkeys hids
          exact ⟨hkeys, hids⟩
        rw [hafter, hloaded]
        refine ⟨⟨h.context, h.document, fun report' hreport => ?_⟩, .validated report⟩
        cases hreport
        exact haligned
      · rw [hafter, hloaded]
        exact ⟨⟨h.context, h.document, fun _ hreport => by cases hreport⟩, .unvalidated⟩
      · rw [hrefused]
        exact ⟨h, .stays _⟩
  | plan => exact ⟨h, .stays _⟩
  | apply s =>
      show (run.apply s.store).1.Of ctx d ∧ run.phase.Leads (run.apply s.store).1.phase
      rcases run.apply_cases s.store with ⟨report, hphase, -, -, hafter | hafter⟩ | ⟨-, hrefused⟩
      · rw [hafter, hphase]
        exact ⟨⟨h.context, h.document, fun _ hreport => by cases hreport⟩, .applied report⟩
      · rw [hafter, hphase]
        exact ⟨⟨h.context, h.document, fun _ hreport => by cases hreport⟩, .aborted report⟩
      · rw [hrefused]
        exact ⟨h, .stays _⟩

/-- **What is asked in turn does not fail for an inner reason**, since the report is aligned with the document. -/
theorem Turn.kind_of_complaint (h : run.Of ctx d) {ask : Ask} (hturn : (Turn.mk run ask).inTurn = true)
    {e : PatchError} (he : (Turn.mk run ask).complaint? = some e) : e.kind ≠ .internal := by
  cases ask with
  | validate s =>
      replace he : error? (run.validate s.store).2.answer = some e := he
      obtain ⟨-, htraced, -⟩ := (run.validate_cases s.store).resolve_right fun hout => hout.1 (inTurn_validate.1 hturn)
      rw [htraced, error?_eq_some_iff] at he
      obtain ⟨err, rfl⟩ | ⟨id, type?, rfl⟩ := error_of_validate he <;> nofun
  | plan =>
      obtain ⟨report, hphase⟩ := inTurn_plan.1 hturn
      replace he : error? run.forecast = some e := he
      have hagenda := (h.aligned report hphase).agenda
      rw [← h.document] at hagenda
      rw [PatchRun.forecast, hphase, error?_eq_some_iff] at he
      simp [forecast, hagenda, Except.map] at he
  | apply s =>
      obtain ⟨report, hphase⟩ := inTurn_apply.1 hturn
      replace he : error? (run.apply s.store).2.answer = some e := he
      obtain ⟨report', hphase', -, hanswer, -⟩ :=
        (run.apply_cases s.store).resolve_right fun hout => hout.1 report hphase
      have haligned := h.aligned report' hphase'
      rw [← h.document] at haligned
      rw [hanswer, error?_eq_some_iff] at he
      rcases kind_of_applyBracketed haligned he with hkind | hkind <;> simp [hkind]

/-- **Only an apply in turn writes to a store.** -/
theorem Turn.writes_only {t : Turn} (h : t.writes = true) : t.inTurn = true ∧ ∃ s, t.ask = .apply s := by
  have hin : t.inTurn = true := by
    by_contra hout
    rw [writes, (refused (Bool.not_eq_true _ ▸ hout)).2.2.1] at h
    cases h
  refine ⟨hin, ?_⟩
  obtain ⟨run, ask⟩ := t
  cases ask with
  | validate s =>
      -- in turn, validating issues reads
      exfalso
      obtain ⟨-, htraced, -⟩ :=
        (run.validate_cases (Recorded.start s.store)).resolve_right fun hout => hout.1 (inTurn_validate.1 hin)
      obtain ⟨reads, hcalls, hreads⟩ := calls_validate run.document (Recorded.start s.store)
      replace h : ((run.validate (Recorded.start s.store)).2.store.calls).any (·.call.isWrite) = true := h
      rw [htraced, hcalls, List.any_eq_true] at h
      obtain ⟨i, hi, hwrite⟩ := h
      rw [Call.isWrite_of_isRead (hreads.isRead i hi)] at hwrite
      cases hwrite
  | plan => cases h
  | apply s => exact ⟨s, rfl⟩

end Turn

/-! ## Many requests -/

/-- A run that has come to an end refuses all requests. -/
theorem Turn.inTurn_of_isFinal {t : Turn} (h : t.run.phase.isFinal = true) : t.inTurn = false := by
  rw [inTurn]
  cases hphase : t.run.phase <;> simp [hphase, Phase.isFinal] at h <;> cases t.ask <;> rfl

theorem asked_of_isFinal {run : PatchRun} (h : run.phase.isFinal = true) (asks : List Ask) : run.asked asks = run := by
  induction asks with
  | nil => rfl
  | cons ask rest ih =>
      have hafter : (Turn.mk run ask).after = run := (Turn.refused (Turn.inTurn_of_isFinal h)).2.1
      rw [PatchRun.asked, List.foldl_cons, hafter]
      exact ih

/-- An apply in turn brings a run to its end. -/
theorem Turn.isFinal_after {t : Turn} (hin : t.inTurn = true) {s : SomeStore} (hask : t.ask = .apply s) :
    t.after.phase.isFinal = true := by
  obtain ⟨run, ask⟩ := t
  obtain rfl : ask = .apply s := hask
  obtain ⟨report, hphase⟩ := inTurn_apply.1 hin
  show (run.apply s.store).1.phase.isFinal = true
  rcases run.apply_cases s.store with ⟨report', -, -, -, hafter | hafter⟩ | ⟨hno, -⟩
  · rw [hafter]
    rfl
  · rw [hafter]
    rfl
  · exact absurd hphase (hno report)

/-- **At most one request writes to a store**, and none once the run has come to its end. -/
theorem countP_writes_le (run : PatchRun) (asks : List Ask) :
    (turns run asks).countP Turn.writes ≤ if run.phase.isFinal then 0 else 1 := by
  induction asks generalizing run with
  | nil => exact Nat.zero_le _
  | cons ask rest ih =>
      have hrest := ih (Turn.mk run ask).after
      rw [turns, List.countP_cons]
      by_cases hwrites : (Turn.mk run ask).writes = true
      · -- the run was not at its end before, and is now
        obtain ⟨hin, s, hask⟩ := Turn.writes_only hwrites
        have hnot : run.phase.isFinal = false := by
          by_contra hfinal
          rw [Turn.inTurn_of_isFinal (Bool.not_eq_false _ ▸ hfinal)] at hin
          cases hin
        rw [Turn.isFinal_after hin hask, if_pos rfl] at hrest
        rw [if_pos hwrites, hnot]
        simpa using hrest
      · rw [if_neg hwrites, Nat.add_zero]
        refine Nat.le_trans hrest ?_
        by_cases hfinal : run.phase.isFinal = true
        · have hsame := (Turn.refused (t := ⟨run, ask⟩) (Turn.inTurn_of_isFinal hfinal)).2.1
          exact Nat.le_of_eq (by rw [hsame])
        · rw [if_neg hfinal]
          split <;> omega

/-- What holds of a run, and of what comes of a request to it. -/
structure Turn.Orderly (ctx : Context) (d : Document) (t : Turn) : Prop where
  document : t.run.document = d ∧ t.after.document = d
  digest : t.run.digest = d.digest ∧ t.after.digest = d.digest
  context : t.run.context = ctx ∧ t.after.context = ctx
  leads : t.run.phase.Leads t.after.phase
  planned : t.ask = .plan → t.after = t.run
  /-- In the phase after validation there is a report, and it has an entry for each change of the document. -/
  report : t.run.phase.name = "Validated" → ∃ r, t.run.phase.report? = some r ∧ r.AlignedWith d
  outOfTurn : t.inTurn = false → t.complaint? = some (t.run.outOfTurn t.ask.word) ∧ t.after = t.run
    ∧ t.calls = [] ∧ t.KeepsStore
  inTurn : t.inTurn = true → ∀ e, t.complaint? = some e → e.kind ≠ .internal
  noReport : t.complaint? ≠ some (.internal "validated run has no report")
  noMismatch : ∀ reason, t.complaint? ≠ some (.reportMismatch reason)
  writes : t.writes = true → t.inTurn = true ∧ ∃ s, t.ask = .apply s

theorem outOfTurn_ne (run : PatchRun) (ask : Ask) :
    run.outOfTurn ask.word ≠ .internal "validated run has no report" := by
  rw [PatchRun.outOfTurn, ne_eq, PatchError.internal.injEq, String.append_assoc, String.append_assoc]
  intro h
  -- they differ in their first letter
  have hlist := congrArg String.toList h
  rw [String.toList_append] at hlist
  exact absurd (congrArg List.head? hlist) (by simp)

theorem Turn.orderly {ctx : Context} {d : Document} {run : PatchRun} (h : run.Of ctx d) (ask : Ask) :
    (Turn.mk run ask).Orderly ctx d := by
  obtain ⟨hafter, hleads⟩ := goes_on h ask
  have hcomplaint : ∀ e, (Turn.mk run ask).complaint? = some e → e = run.outOfTurn ask.word ∨ e.kind ≠ .internal := by
    intro e he
    cases hin : (Turn.mk run ask).inTurn with
    | true => exact .inr (kind_of_complaint h hin he)
    | false =>
        rw [(refused hin).1] at he
        exact .inl (Option.some.inj he).symm
  refine ⟨⟨h.document, hafter.document⟩, ⟨congrArg Document.digest h.document, congrArg Document.digest hafter.document⟩,
    ⟨h.context, hafter.context⟩, hleads, fun hplan => ?_, fun hname => ?_, refused,
    fun hin e he => kind_of_complaint h hin he, fun he => ?_, fun reason he => ?_, writes_only⟩
  · obtain rfl : ask = .plan := hplan
    rfl
  · replace hname : run.phase.name = "Validated" := hname
    show ∃ r, run.phase.report? = some r ∧ r.AlignedWith d
    cases hphase : run.phase with
    | validated r => exact ⟨r, rfl, h.aligned r hphase⟩
    | loaded | applied r | aborted r =>
        rw [hphase] at hname
        simp [Phase.name] at hname
  · rcases hcomplaint _ he with heq | hkind
    · exact outOfTurn_ne run ask heq.symm
    · exact hkind rfl
  · rcases hcomplaint _ he with heq | hkind
    · cases heq
    · exact hkind rfl

/-- **A run is a one-way street.** Whatever it is asked, in any order and on any stores: it stays the run of its
    document and its digest, and only goes from loaded to validated or aborted, and from validated to applied or
    aborted (`Phase.Leads`), where it stays for good. What is asked out of turn is refused without touching the run or
    the store; what is asked in turn never fails because a report is missing or is not about the document; and at most
    one of all the requests writes to a store, which is an apply in turn. -/
theorem patchRun_forward_only (ctx : Context) (d : Document) (asks : List Ask) :
    (∀ t ∈ turns (.start ctx d) asks, t.Orderly ctx d)
      ∧ (turns (.start ctx d) asks).countP Turn.writes ≤ 1
      ∧ (((PatchRun.start ctx d).asked asks).phase.isFinal = true →
        ∀ more, (PatchRun.start ctx d).asked (asks ++ more) = (PatchRun.start ctx d).asked asks) := by
  refine ⟨?_, countP_writes_le (.start ctx d) asks, fun hfinal more => ?_⟩
  · -- the induction is on the requests, and the run that they find only has to be of its document
    have hrun := PatchRun.of_start ctx d
    generalize PatchRun.start ctx d = run at hrun ⊢
    induction asks generalizing run with
    | nil => simp [turns]
    | cons ask rest ih =>
        rw [turns, List.forall_mem_cons]
        exact ⟨Turn.orderly hrun ask, ih _ (Turn.goes_on hrun ask).1⟩
  · have hsplit : (PatchRun.start ctx d).asked (asks ++ more) = ((PatchRun.start ctx d).asked asks).asked more :=
      List.foldl_append
    rw [hsplit, asked_of_isFinal hfinal]

/-- A run is planned and applied only between its validation and its end. -/
example :
    let s : SomeStore := ⟨MemoryStore, inferInstance, .ofParams [("a", "x")]⟩
    let d : Document := ⟨"site", [⟨"a", "x", "y"⟩], []⟩
    (turns (.start ⟨"run", none⟩ d) [.plan, .validate s, .plan, .apply s, .apply s]).map
        (fun t => (t.after.phase.name, t.inTurn, t.writes))
      = [("Loaded", false, false), ("Validated", true, false), ("Validated", true, false), ("Applied", true, true),
        ("Applied", false, false)] := rfl

end GuardedPatch
