import GuardedPatch.Proofs.Run.Phases

set_option autoImplicit false

/-! # How a command fails

What can go wrong when a text is applied is said once, stage by stage (`Failure`), and is all that the command answers
with an error (`applyPatch_error_iff`). Each stage fails in a way of its own: loading with what is wrong with the text,
validating with the store's error or with the first change that has no record, opening and keeping a unit of work with
the store's error, and applying with the step that was refused. The report of a validation always fits its document, so
that applying has no other errors (`refusal_of_apply_error`). Hence the kind of an error, and with it the exit status,
tells the stage (`applyPatch_failures`).

Whether a call of a store went well is read off what a recorder in front of the store has noted. -/

namespace GuardedPatch

section AnyStore

variable {σ : Type} [ConfigStore σ] {d : Document} {s : σ}

/-! ## Validating -/

/-- A read fails when a document is validated. -/
def Document.Unread (d : Document) (s : σ) : Prop :=
  ∃ i ∈ (validate d (Recorded.start s)).store.calls, i.ok = false

/-- Gets of all keys went well if each of them did. -/
theorem Gets.all_eq_false_iff {keys : List String} {all : Bool} {issued : List Issued} (h : Gets keys all issued) :
    (∃ i ∈ issued, i.ok = false) ↔ all = false := by
  induction h with
  | none => simp
  | failed key rest => simp
  | next _ ih => simp only [List.exists_mem_cons_iff, Bool.true_eq_false, false_or, ih]

/-- The features are listed for a document that changes any. -/
theorem readFeatures_of_ne_nil {cs : List FeatureChange} (h : cs ≠ []) (s : σ) :
    (readFeatures cs s).answer
        = (match (ConfigStore.listFeatures s).1 with
          | .ok records => checkTargets records cs
          | .error e => .error (.ofStore e))
      ∧ (readFeatures cs s).store = (ConfigStore.listFeatures s).2 := by
  rw [readFeatures, if_neg (mt List.isEmpty_iff.1 h)]
  generalize ConfigStore.listFeatures s = out
  obtain ⟨answer, s'⟩ := out
  cases answer <;> exact ⟨rfl, rfl⟩

/-- Reading parameters fails if one of the gets does, which a recorder does not change. -/
theorem readParams_noted (cs : List ParamChange) (s : σ) :
    (readParams cs (Recorded.start s)).answer = (readParams cs s).answer
      ∧ (readParams cs (Recorded.start s)).store.inner = (readParams cs s).store
      ∧ ((∃ i ∈ (readParams cs (Recorded.start s)).store.calls, i.ok = false)
        ↔ (readParams cs s).answer.isOk = false) := by
  obtain ⟨gets, hcalls, hgets⟩ := calls_readParams cs (Recorded.start s)
  obtain ⟨hsame, -, hinner⟩ := readParams_alike Recorded.runAlike.get cs (s := Recorded.start s) (t := s) rfl
  replace hcalls : (readParams cs (Recorded.start s)).store.calls = gets := hcalls
  rw [hcalls, ← hsame]
  exact ⟨rfl, hinner, hgets.all_eq_false_iff⟩

/-- A recorder notes the one listing for a document that changes any features. -/
theorem readFeatures_noted {cs : List FeatureChange} (h : cs ≠ []) (r : Recorded σ) :
    (readFeatures cs r).store.calls = r.calls ++ [⟨.listFeatures, (ConfigStore.listFeatures r.inner).1.isOk⟩] :=
  congrArg Recorded.calls (readFeatures_of_ne_nil h r).2

/-- A read fails if one of a parameter does, or else the listing that some change needs. -/
theorem Document.unread_iff :
    d.Unread s ↔ (readParams d.params s).answer.isOk = false
      ∨ d.features ≠ [] ∧ (ConfigStore.listFeatures (readParams d.params s).store).1.isOk = false := by
  obtain ⟨hsame, hinner, hgets⟩ := readParams_noted d.params s
  rw [Unread, validate]
  cases hparams : (readParams d.params s).answer with
  | error e =>
      rw [hparams] at hsame hgets
      rw [(andThen_of_error hsame).2, hgets]
      simp [Except.isOk, Except.toBool]
  | ok checks =>
      rw [hparams] at hsame hgets
      rw [(andThen_of_ok hsame).2, Traced.map]
      by_cases hempty : d.features = []
      · simpa [hempty, readFeatures, Traced.pure] using hgets
      · simp only [readFeatures_noted hempty, hinner, List.mem_append, or_and_right, exists_or, hgets,
          List.mem_singleton, exists_eq_left]
        simp [hempty]

/-- **Validating fails with the store if a read fails**, and otherwise comes to checking the targets among the records
    that were listed. -/
theorem validate_cases (d : Document) (s : σ) :
    (d.Unread s ∧ ∃ err, (validate d s).answer = .error (.ofStore err))
      ∨ ¬ d.Unread s ∧ ∃ checks records,
        (d.features = [] ∨ (ConfigStore.listFeatures (readParams d.params s).store).1 = .ok records)
          ∧ (validate d s).answer = (checkTargets records d.features).map (⟨checks, ·⟩) := by
  rw [Document.unread_iff, validate]
  cases hparams : (readParams d.params s).answer with
  | error e =>
      obtain ⟨err, rfl⟩ := ofStore_of_readParams hparams
      exact .inl ⟨.inl rfl, err, (andThen_of_error hparams).1⟩
  | ok checks =>
      rw [(andThen_of_ok hparams).1, Traced.map]
      by_cases hempty : d.features = []
      · -- nothing is listed
        rw [hempty]
        exact .inr ⟨by simp [Except.isOk, Except.toBool], checks, [], .inl rfl, rfl⟩
      · rw [(readFeatures_of_ne_nil hempty _).1]
        cases (ConfigStore.listFeatures (readParams d.params s).store).1 with
        | error err => exact .inl ⟨.inr ⟨hempty, rfl⟩, err, rfl⟩
        | ok records => exact .inr ⟨by simp [Except.isOk, Except.toBool], checks, records, .inr rfl, rfl⟩

/-- **Validating fails with the store** exactly if a read fails, -/
theorem validate_ofStore_iff : (∃ err, (validate d s).answer = .error (.ofStore err)) ↔ d.Unread s := by
  obtain ⟨hunread, hvalidate⟩ | ⟨hread, checks, records, -, hanswer⟩ := validate_cases d s
  · exact iff_of_true hvalidate hunread
  · refine iff_of_false ?_ hread
    rintro ⟨err, hvalidate⟩
    rw [hanswer, map_eq_error_iff, checkTargets_eq_error_iff] at hvalidate
    obtain ⟨_, _, _, -, -, -, he⟩ := hvalidate
    cases he

/-- and **for want of a record** exactly if all reads go well and a change misses its record; it names the first one. -/
theorem validate_notFound_iff {id : String} {type? : Option String} :
    (validate d s).answer = .error (.featureNotFound id type?) ↔
      ¬ d.Unread s ∧ ∃ records, (ConfigStore.listFeatures (readParams d.params s).store).1 = .ok records
        ∧ ∃ before c after, d.features = before ++ c :: after ∧ (∀ x ∈ before, ¬ x.Misses records)
          ∧ c.Misses records ∧ id = c.id ∧ type? = c.type? := by
  obtain ⟨hunread, err, hvalidate⟩ | ⟨hread, checks, records, hlist, hanswer⟩ := validate_cases d s
  · rw [hvalidate]
    exact iff_of_false nofun fun h => h.1 hunread
  · rw [hanswer, map_eq_error_iff, checkTargets_eq_error_iff, and_iff_right hread]
    obtain hnil | hlisted := hlist
    · simp [hnil]
    · simp [hlisted]

/-! ## Commands -/

/-- What can go wrong when a text is applied to a store, and the error that it gives. -/
inductive Failure (text : String) (s : σ) : PatchError → Prop
  /-- The text is no document. -/
  | unloaded {e : LoadError} (hload : load text = .error e) : Failure text s (.load e)
  /-- The store cannot be read. -/
  | unread {d : Document} {err : StoreError} (hload : load text = .ok d)
    (hvalidate : (validate d s).answer = .error (.ofStore err)) : Failure text s (.ofStore err)
  /-- A feature is not there. -/
  | unfound {d : Document} {id : String} {type? : Option String} (hload : load text = .ok d)
    (hvalidate : (validate d s).answer = .error (.featureNotFound id type?)) :
    Failure text s (.featureNotFound id type?)
  /-- The unit of work cannot be opened. -/
  | unopened {d : Document} {report : Report} {err : StoreError} (hload : load text = .ok d)
    (hvalidate : (validate d s).answer = .ok report)
    (hopen : (ConfigStore.beginRun (validate d s).store).1 = .error err) : Failure text s (.ofStore err)
  /-- A step is refused. -/
  | stopped {d : Document} {report : Report} {key reason : String} {part : ApplyResult} {rolledBack : Bool}
    (hload : load text = .ok d) (hvalidate : (validate d s).answer = .ok report)
    (hopen : (ConfigStore.beginRun (validate d s).store).1 = .ok ())
    (hstop : (apply d report (ConfigStore.beginRun (validate d s).store).2).answer
      = .error (.applyAborted key reason part rolledBack)) :
    Failure text s (.applyAborted key reason part rolledBack)
  /-- The writes cannot be kept. -/
  | unkept {d : Document} {report : Report} {result : ApplyResult} {err : StoreError} (hload : load text = .ok d)
    (hvalidate : (validate d s).answer = .ok report)
    (hopen : (ConfigStore.beginRun (validate d s).store).1 = .ok ())
    (hdone : (apply d report (ConfigStore.beginRun (validate d s).store).2).answer = .ok result)
    (hclose : (ConfigStore.endRun true (apply d report (ConfigStore.beginRun (validate d s).store).2).store).1
      = .error err) : Failure text s (.ofStore err)

variable {text : String} {e : PatchError}

/-- A validated document fails with its unit of work. -/
theorem applyPatch_error_of_validated (ctx : Context) {report : Report} (hload : load text = .ok d)
    (hvalidate : (validate d s).answer = .ok report) :
    (applyPatch ctx text s).answer = .error e ↔
      (PatchRun.applyBracketed d report (validate d s).store).answer = .error e := by
  rw [(applyPatch_of_validated ctx hload hvalidate).1, map_eq_error_iff]

/-- **A command answers with an error exactly if something goes wrong**, and tells what. -/
theorem applyPatch_error_iff (ctx : Context) : (applyPatch ctx text s).answer = .error e ↔ Failure text s e := by
  constructor
  · intro h
    cases hload : load text with
    | error err =>
        rw [(commands_of_load_error ctx hload).1] at h
        cases h
        exact .unloaded hload
    | ok d =>
        cases hvalidate : (validate d s).answer with
        | error err =>
            rw [(commands_of_validate_error ctx hload hvalidate).1] at h
            cases h
            obtain ⟨err, rfl⟩ | ⟨id, type?, rfl⟩ := error_of_validate hvalidate
            · exact .unread hload hvalidate
            · exact .unfound hload hvalidate
        | ok report =>
            rw [applyPatch_error_of_validated ctx hload hvalidate, applyBracketed_error_iff] at h
            obtain ⟨err, hopen, rfl⟩ | ⟨hopen, hstop | ⟨result, err, hdone, hclose, rfl⟩⟩ := h
            · exact .unopened hload hvalidate hopen
            · obtain ⟨refusal, part, rolledBack, -, rfl⟩ :=
                refusal_of_apply_error (validate_aligned hvalidate) hstop
              exact .stopped hload hvalidate hopen hstop
            · exact .unkept hload hvalidate hopen hdone hclose
  · intro h
    cases h with
    | unloaded hload => exact (commands_of_load_error ctx hload).1
    | unread hload hvalidate => exact (commands_of_validate_error ctx hload hvalidate).1
    | unfound hload hvalidate => exact (commands_of_validate_error ctx hload hvalidate).1
    | unopened hload hvalidate hopen =>
        rw [applyPatch_error_of_validated ctx hload hvalidate, applyBracketed_error_iff]
        exact .inl ⟨_, hopen, rfl⟩
    | stopped hload hvalidate hopen hstop =>
        rw [applyPatch_error_of_validated ctx hload hvalidate, applyBracketed_error_iff]
        exact .inr ⟨hopen, .inl hstop⟩
    | unkept hload hvalidate hopen hdone hclose =>
        rw [applyPatch_error_of_validated ctx hload hvalidate, applyBracketed_error_iff]
        exact .inr ⟨hopen, .inr ⟨_, _, hdone, hclose, rfl⟩⟩

/-! ## The stage of an error -/

namespace Failure

/-- There are four kinds of errors, which have three exit statuses of their own and share the fourth with the kinds that
    do not occur. -/
theorem kind_exitCode (h : Failure text s e) :
    (e.kind, e.exitCode) ∈ [(.parse, 2), (.featureNotFound, 3), (.applyAborted, 4), (.persistence, 1)] := by
  cases h <;> simp [PatchError.exitCode, PatchError.kind, PatchError.ofStore, ErrorKind.exitCode]

/-- Only loading gives errors about the text. -/
theorem parse_iff : (∃ e, Failure text s e ∧ e.kind = .parse) ↔ ∃ err, load text = .error err := by
  constructor
  · rintro ⟨e, h, hkind⟩
    cases h with
    | unloaded hload => exact ⟨_, hload⟩
    | _ => cases hkind
  · rintro ⟨err, hload⟩
    exact ⟨_, .unloaded hload, rfl⟩

/-- Only validating misses a record. -/
theorem notFound_iff {id : String} {type? : Option String} :
    Failure text s (.featureNotFound id type?) ↔
      ∃ d, load text = .ok d ∧ (validate d s).answer = .error (.featureNotFound id type?) := by
  constructor
  · intro h
    cases h with
    | unfound hload hvalidate => exact ⟨_, hload, hvalidate⟩
  · rintro ⟨d, hload, hvalidate⟩
    exact .unfound hload hvalidate

/-- **Applying is aborted** exactly if there is a validated document and an open unit of work and a step is refused, and
    it is that step's reason that is given. -/
theorem aborted_iff {key reason : String} :
    (∃ part rolledBack, Failure text s (.applyAborted key reason part rolledBack)) ↔
      ∃ d report, load text = .ok d ∧ (validate d s).answer = .ok report
        ∧ (ConfigStore.beginRun (validate d s).store).1 = .ok ()
        ∧ (progress (Agenda.ofReport d report).steps (ConfigStore.beginRun (validate d s).store).2).refusal
          = some ⟨key, reason⟩ := by
  constructor
  · rintro ⟨part, rolledBack, h⟩
    cases h with
    | stopped hload hvalidate hopen hstop =>
        obtain ⟨refusal, _, _, hrefusal, he⟩ := refusal_of_apply_error (validate_aligned hvalidate) hstop
        cases he
        exact ⟨_, _, hload, hvalidate, hopen, hrefusal⟩
  · rintro ⟨d, report, hload, hvalidate, hopen, hrefusal⟩
    exact ⟨_, _, .stopped hload hvalidate hopen (apply_of_refusal (validate_aligned hvalidate) hrefusal).1⟩

end Failure

/-! ## Calls that fail -/

/-- Opening a unit of work is seen to fail exactly if it does. -/
theorem Session.unopened_iff {calls : List Issued} (h : Session text s calls) :
    ⟨.beginRun, false⟩ ∈ calls ↔ ∃ d report err, load text = .ok d ∧ (validate d s).answer = .ok report
      ∧ (ConfigStore.beginRun (validate d s).store).1 = .error err := by
  cases h with
  | unloaded hload => simp [hload]
  | unvalidated hload hreads hvalidate =>
      have hnotread : (⟨.beginRun, false⟩ : Issued) ∉ calls := hreads.not_mem rfl
      simp [hnotread, hload, hvalidate]
  | unopened hload _ hvalidate hopen => simp [hload, hvalidate, hopen]
  | @bracketed _ reads work _ _ hload hreads hvalidate hopen hwork =>
      have hnotread : (⟨.beginRun, false⟩ : Issued) ∉ reads := hreads.not_mem rfl
      have hnotwork : (⟨.beginRun, false⟩ : Issued) ∉ work := fun h => by cases hwork _ h
      simp [hnotread, hnotwork, hload, hvalidate, hopen]

/-- A unit of work is seen not to be kept exactly if its steps are done and keeping it fails. -/
theorem unkept_iff (ctx : Context) :
    ⟨.endRun true, false⟩ ∈ (applyPatch ctx text (Recorded.start s)).store.calls ↔
      ∃ d report result err, load text = .ok d ∧ (validate d s).answer = .ok report
        ∧ (ConfigStore.beginRun (validate d s).store).1 = .ok ()
        ∧ (apply d report (ConfigStore.beginRun (validate d s).store).2).answer = .ok result
        ∧ (ConfigStore.endRun true (apply d report (ConfigStore.beginRun (validate d s).store).2).store).1
          = .error err := by
  obtain ⟨hsession, hkept⟩ := session_of_applyPatch ctx text s
  obtain ⟨hsame, -, -⟩ := Recorded.runAlike.applyPatch ctx text (s := Recorded.start s) (t := s) rfl
  rw [hsame] at hkept
  generalize (applyPatch ctx text (Recorded.start s)).store.calls = calls at hsession hkept ⊢
  cases hsession with
  | unloaded hload => simp [hload]
  | unvalidated hload hreads hvalidate =>
      have hnotread : (⟨.endRun true, false⟩ : Issued) ∉ calls := hreads.not_mem rfl
      simp [hnotread, hload, hvalidate]
  | @unopened _ reads _ _ hload hreads hvalidate hopen =>
      have hnotread : (⟨.endRun true, false⟩ : Issued) ∉ reads := hreads.not_mem rfl
      simp [hnotread, hload, hvalidate, hopen]
  | @bracketed d _ _ report closed hload hreads hvalidate hopen hwork =>
      rw [Session.kept_iff hreads hwork] at hkept ⊢
      simp only [hload, hvalidate, hopen, Except.ok.injEq, exists_and_left, exists_eq_left', true_and]
      cases hdone : (apply d report (ConfigStore.beginRun (validate d s).store).2).answer with
      | error stop => simp [Except.isOk, Except.toBool]
      | ok result =>
          -- of all that can go wrong, only keeping the writes is left
          have hleft : (∃ e, (applyPatch ctx text s).answer = .error e) ↔ ∃ err, (ConfigStore.endRun true
              (apply d report (ConfigStore.beginRun (validate d s).store).2).store).1 = .error err := by
            simp [applyPatch_error_of_validated ctx hload hvalidate, applyBracketed_error_iff, hopen, hdone]
          have hok : (Except.ok result : Except PatchError ApplyResult).isOk = true := rfl
          simp only [hdone, hok, true_and] at hkept
          simp only [hok, true_and, Except.ok.injEq, exists_eq_left', ← hleft]
          rw [← Bool.not_eq_true, ← hkept]
          cases (applyPatch ctx text s).answer <;> simp [Except.isOk, Except.toBool]

/-- Only reads are called if a document is not validated. -/
theorem Session.isRead_of_unvalidated {calls : List Issued} (h : Session text s calls)
    (hload : load text = .ok d) (hvalidate : (validate d s).answer = .error e) :
    ∀ i ∈ calls, i.call.isRead = true := by
  cases h with
  | unloaded _ => simp
  | unvalidated _ hreads _ => exact hreads.isRead
  | unopened hload' _ hvalidate' _ =>
      cases hload.symm.trans hload'
      cases hvalidate.symm.trans hvalidate'
  | bracketed _ hload' _ hvalidate' _ _ =>
      cases hload.symm.trans hload'
      cases hvalidate.symm.trans hvalidate'

/-- **The store is at fault** exactly if a read of the validation fails, or opening the unit of work, or keeping its
    writes. -/
theorem persistence_iff (ctx : Context) :
    (∃ e, Failure text s e ∧ e.kind = .persistence) ↔
      (∃ d, load text = .ok d ∧ d.Unread s)
        ∨ ⟨.beginRun, false⟩ ∈ (applyPatch ctx text (Recorded.start s)).store.calls
        ∨ ⟨.endRun true, false⟩ ∈ (applyPatch ctx text (Recorded.start s)).store.calls := by
  rw [(session_of_applyPatch ctx text s).1.unopened_iff, unkept_iff]
  simp only [← validate_ofStore_iff]
  constructor
  · rintro ⟨e, h, hkind⟩
    cases h with
    | unloaded _ => cases hkind
    | unread hload hvalidate => exact .inl ⟨_, hload, _, hvalidate⟩
    | unfound _ _ => cases hkind
    | unopened hload hvalidate hopen => exact .inr (.inl ⟨_, _, _, hload, hvalidate, hopen⟩)
    | stopped _ _ _ _ => cases hkind
    | unkept hload hvalidate hopen hdone hclose =>
        exact .inr (.inr ⟨_, _, _, _, hload, hvalidate, hopen, hdone, hclose⟩)
  · rintro (⟨d, hload, err, hvalidate⟩ | ⟨d, report, err, hload, hvalidate, hopen⟩ |
      ⟨d, report, result, err, hload, hvalidate, hopen, hdone, hclose⟩)
    · exact ⟨_, .unread hload hvalidate, rfl⟩
    · exact ⟨_, .unopened hload hvalidate hopen, rfl⟩
    · exact ⟨_, .unkept hload hvalidate hopen hdone hclose, rfl⟩

/-! ## All errors of a command -/

/-- **The kind of an error tells what went wrong**, whatever the text and however the store answers. A command that
    fails has one of four kinds of errors, and the exit status of that kind.
    - The text is at fault exactly if it does not load, and then no call is made.
    - A feature is not found exactly if the text loads, all reads of its validation go well and a change misses its
      record among those that were listed; the error names the first one, and nothing but reads was called.
    - Applying is aborted exactly if the document was validated, the unit of work opened and a step refused, for the
      reason that is given.
    - The store is at fault exactly if a read of the validation fails, or opening the unit of work, or keeping its
      writes. -/
theorem applyPatch_failures (ctx : Context) (text : String) (s : σ) :
    let run := applyPatch ctx text (Recorded.start s)
    run.answer = (applyPatch ctx text s).answer
      ∧ (∀ e, run.answer = .error e →
        (e.kind, e.exitCode) ∈ [(.parse, 2), (.featureNotFound, 3), (.applyAborted, 4), (.persistence, 1)])
      ∧ ((∃ e, run.answer = .error e ∧ e.kind = .parse) ↔ ∃ e, load text = .error e)
      ∧ (∀ e, load text = .error e → run.answer = .error (.load e) ∧ run.store.calls = [])
      ∧ (∀ e : LoadError, (PatchError.load e).kind = .parse)
      ∧ (∀ id type?, run.answer = .error (.featureNotFound id type?) ↔
        ∃ d, load text = .ok d ∧ ¬ d.Unread s
          ∧ ∃ records, (ConfigStore.listFeatures (readParams d.params s).store).1 = .ok records
            ∧ ∃ before c after, d.features = before ++ c :: after ∧ (∀ x ∈ before, ¬ x.Misses records)
              ∧ c.Misses records ∧ id = c.id ∧ type? = c.type?)
      ∧ (∀ id type?, run.answer = .error (.featureNotFound id type?) →
        ∀ i ∈ run.store.calls, i.call.isRead = true)
      ∧ (∀ key reason, (∃ part rolledBack, run.answer = .error (.applyAborted key reason part rolledBack)) ↔
        ∃ d report, load text = .ok d ∧ (validate d s).answer = .ok report
          ∧ (ConfigStore.beginRun (validate d s).store).1 = .ok ()
          ∧ (progress (Agenda.ofReport d report).steps (ConfigStore.beginRun (validate d s).store).2).refusal
            = some ⟨key, reason⟩)
      ∧ ((∃ e, run.answer = .error e ∧ e.kind = .persistence) ↔
        (∃ d, load text = .ok d ∧ d.Unread s) ∨ ⟨.beginRun, false⟩ ∈ run.store.calls
          ∨ ⟨.endRun true, false⟩ ∈ run.store.calls) := by
  intro run
  have hsame : run.answer = (applyPatch ctx text s).answer :=
    (Recorded.runAlike.applyPatch ctx text (s := Recorded.start s) rfl).answer
  have herror : ∀ {e}, run.answer = .error e ↔ Failure text s e := fun {e} => by
    rw [hsame]
    exact applyPatch_error_iff ctx
  simp only [herror, ← validate_notFound_iff]
  refine ⟨hsame, fun _ h => h.kind_exitCode, Failure.parse_iff, fun e hload => ⟨.unloaded hload, ?_⟩, fun _ => rfl,
    fun _ _ => Failure.notFound_iff, fun id type? h => ?_, fun _ _ => Failure.aborted_iff, persistence_iff ctx⟩
  · exact congrArg Recorded.calls (commands_of_load_error ctx hload).2.2
  · obtain ⟨d, hload, hvalidate⟩ := Failure.notFound_iff.1 h
    exact (session_of_applyPatch ctx text s).1.isRead_of_unvalidated hload hvalidate

end AnyStore

end GuardedPatch
