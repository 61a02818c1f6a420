import GuardedPatch.Proofs.Run.Command
import GuardedPatch.Proofs.Run.Lockstep
import GuardedPatch.Proofs.Run.Validation
import GuardedPatch.Proofs.Store.Recorded

set_option autoImplicit false

/-! # The calls of a run

Which calls a command issues does not depend on the store but for its answers, so that they are told for any store by
putting a recorder in front of it; the command does not notice (`Recorded.runAlike`). What is issued is said stage by
stage: reading parameters is one get after the other up to the first that fails (`Gets`), validating goes on to list
the features if there is something to look for (`Inspection`), and applying puts all its writes, those of undos
included, between one call that opens a unit of work and one that closes it (`Session`). -/

namespace GuardedPatch

/-! ## Forms of calls -/

/-- Gets of these keys in order, up to the first that fails. The flag tells whether none did. -/
inductive Gets : List String → Bool → List Issued → Prop
  | none : Gets [] true []
  | failed (key : String) (rest : List String) : Gets (key :: rest) false [⟨.get key, false⟩]
  | next {key : String} {rest : List String} {all : Bool} {issued : List Issued} :
    Gets rest all issued → Gets (key :: rest) all (⟨.get key, true⟩ :: issued)

/-- The calls of validating a document. -/
inductive Inspection (d : Document) : List Issued → Prop
  /-- A parameter cannot be read. -/
  | unread {gets : List Issued} : Gets (d.params.map (·.key)) false gets → Inspection d gets
  /-- There are no features to look for. -/
  | unlisted {gets : List Issued} : Gets (d.params.map (·.key)) true gets → d.features = [] → Inspection d gets
  /-- The features are listed, or cannot be. -/
  | listed {gets : List Issued} (ok : Bool) :
    Gets (d.params.map (·.key)) true gets → d.features ≠ [] → Inspection d (gets ++ [⟨.listFeatures, ok⟩])

theorem Gets.isRead {keys : List String} {all : Bool} {issued : List Issued} (h : Gets keys all issued) :
    ∀ i ∈ issued, i.call.isRead = true := by
  induction h with
  | none => simp
  | failed key rest => simp [Call.isRead]
  | next _ ih => exact List.forall_mem_cons.2 ⟨rfl, ih⟩

theorem Inspection.isRead {d : Document} {issued : List Issued} (h : Inspection d issued) :
    ∀ i ∈ issued, i.call.isRead = true := by
  cases h with
  | unread hgets => exact hgets.isRead
  | unlisted hgets _ => exact hgets.isRead
  | listed ok hgets _ =>
      rw [List.forall_mem_append]
      exact ⟨hgets.isRead, by simp [Call.isRead]⟩

/-- What is not a read is not among them. -/
theorem Inspection.not_mem {d : Document} {issued : List Issued} (h : Inspection d issued) {i : Issued}
    (hi : i.call.isRead = false) : i ∉ issued := by
  intro hmem
  rw [h.isRead i hmem] at hi
  cases hi

section Session

variable {σ : Type} [ConfigStore σ]

/-- The calls of applying a text to a store, by how far that comes. -/
inductive Session (text : String) (s : σ) : List Issued → Prop
  | unloaded {e : LoadError} : load text = .error e → Session text s []
  | unvalidated {d : Document} {reads : List Issued} {e : PatchError} :
    load text = .ok d → Inspection d reads → (validate d s).answer = .error e → Session text s reads
  /-- The unit of work cannot be opened. -/
  | unopened {d : Document} {reads : List Issued} {report : Report} {e : StoreError} :
    load text = .ok d → Inspection d reads → (validate d s).answer = .ok report →
      (ConfigStore.beginRun (validate d s).store).1 = .error e →
      Session text s (reads ++ [⟨.beginRun, false⟩])
  /-- The unit of work is opened, and closed in the end: with its writes kept if and only if applying went well. -/
  | bracketed {d : Document} {reads work : List Issued} {report : Report} (closed : Bool) :
    load text = .ok d → Inspection d reads → (validate d s).answer = .ok report →
      (ConfigStore.beginRun (validate d s).store).1 = .ok () → (∀ i ∈ work, i.call.isWork = true) →
      Session text s (reads ++ ⟨.beginRun, true⟩ :: (work
        ++ [⟨.endRun (apply d report (ConfigStore.beginRun (validate d s).store).2).answer.isOk, closed⟩]))

variable {text : String} {s : σ} {calls : List Issued}

/-- **No write is outside of the unit of work.** -/
theorem Session.write_inside (h : Session text s calls) {before after : List Issued} {i : Issued}
    (hcalls : calls = before ++ i :: after) (hi : i.call.isWrite = true) :
    ⟨.beginRun, true⟩ ∈ before ∧ ∃ commit closed, after.getLast? = some ⟨.endRun commit, closed⟩ := by
  have hmem : i ∈ calls := by simp [hcalls]
  have hread : ∀ {reads : List Issued} {d : Document}, Inspection d reads → i ∉ reads := by
    intro reads d hreads hin
    rw [Call.isWrite_of_isRead (hreads.isRead i hin)] at hi
    cases hi
  have hopen : ∀ ok, i ≠ ⟨.beginRun, ok⟩ := by
    rintro ok rfl
    cases hi
  cases h with
  | unloaded _ => cases hmem
  | unvalidated _ hreads _ => exact absurd hmem (hread hreads)
  | unopened _ hreads _ _ =>
      rcases List.mem_append.1 hmem with hin | hin
      · exact absurd hin (hread hreads)
      · exact absurd (List.mem_singleton.1 hin) (hopen false)
  | bracketed closed _ hreads _ _ _ =>
      have hclose : ∀ commit ok, i ≠ ⟨.endRun commit, ok⟩ := by
        rintro commit ok rfl
        cases hi
      -- the write comes after the reads and the opening, and is not the closing
      rcases List.append_eq_append_iff.1 hcalls with ⟨a, hbefore, hrest⟩ | ⟨c, hreads', hrest⟩
      · cases a with
        | nil =>
            rw [List.nil_append] at hrest
            exact absurd (List.cons.inj hrest).1.symm (hopen true)
        | cons x a =>
            rw [List.cons_append, List.cons.injEq] at hrest
            obtain ⟨rfl, htail⟩ := hrest
            refine ⟨by simp [hbefore], ?_⟩
            have hlast := congrArg List.getLast? htail
            rw [List.getLast?_append, List.getLast?_singleton, Option.some_or, List.getLast?_append,
              List.getLast?_cons] at hlast
            cases hafter : after.getLast? with
            | none =>
                rw [hafter] at hlast
                exact absurd (Option.some.inj hlast).symm (hclose _ _)
            | some last =>
                rw [hafter] at hlast
                exact ⟨_, closed, hlast.symm⟩
      · cases c with
        | nil =>
            rw [List.nil_append] at hrest
            exact absurd (List.cons.inj hrest).1 (hopen true)
        | cons x c =>
            obtain ⟨rfl, -⟩ := List.cons.inj hrest
            exact absurd (by simp [hreads']) (hread hreads)

/-- Writes are to be kept, and are or are not, if the unit of work is closed in that way. -/
theorem Session.kept_iff {reads work : List Issued} {d : Document} (hreads : Inspection d reads)
    (hwork : ∀ i ∈ work, i.call.isWork = true) (commit closed ok : Bool) :
    (⟨.endRun true, ok⟩ : Issued) ∈ reads ++ ⟨.beginRun, true⟩ :: (work ++ [⟨.endRun commit, closed⟩])
      ↔ commit = true ∧ closed = ok := by
  have hnotread : (⟨.endRun true, ok⟩ : Issued) ∉ reads := hreads.not_mem rfl
  have hnotwork : (⟨.endRun true, ok⟩ : Issued) ∉ work := fun h => by cases hwork _ h
  simp [hnotread, hnotwork, eq_comm]

end Session

/-! ## Recording -/

section Recorded

variable {σ : Type} [ConfigStore σ]

/-- **A recorder is not noticed.** -/
theorem Recorded.runAlike : RunAlike fun (r : Recorded σ) (s : σ) => r.inner = s where
  get key := by
    rintro r s rfl
    exact ⟨rfl, rfl⟩
  list := by
    rintro r s rfl
    exact ⟨.refl _, rfl⟩
  edit e := by
    rintro r s rfl
    rw [perform_edit]
    exact ⟨rfl, rfl⟩
  beginRun := by
    rintro r s rfl
    exact ⟨rfl, rfl⟩
  endRun commit := by
    rintro r s rfl
    exact ⟨rfl, rfl⟩

theorem calls_readParams (cs : List ParamChange) (r : Recorded σ) :
    ∃ gets, (readParams cs r).store.calls = r.calls ++ gets
      ∧ Gets (cs.map (·.key)) (readParams cs r).answer.isOk gets := by
  induction cs generalizing r with
  | nil => exact ⟨[], (List.append_nil _).symm, .none⟩
  | cons c rest ih =>
      have hget : ConfigStore.get c.key r = Recorded.note (.get c.key) (ConfigStore.get c.key) r := rfl
      rw [readParams, hget, Recorded.note, List.map_cons]
      cases hanswer : (ConfigStore.get c.key r.inner).1 with
      | error e => exact ⟨_, rfl, .failed c.key _⟩
      | ok actual =>
          obtain ⟨gets, hcalls, hgets⟩ := ih ⟨(ConfigStore.get c.key r.inner).2, r.calls ++ [⟨.get c.key, true⟩]⟩
          refine ⟨⟨.get c.key, true⟩ :: gets, ?_, ?_⟩
          · rw [List.append_assoc] at hcalls
            exact hcalls
          · have hok : ∀ (check : ParamCheck) (x : Except PatchError (List ParamCheck)),
                (x.map (check :: ·)).isOk = x.isOk := by
              intro check x
              cases x <;> rfl
            exact (hok _ _).symm ▸ hgets.next

/-- **Validating only issues reads**, in the order of the document. -/
theorem calls_validate (d : Document) (r : Recorded σ) :
    ∃ reads, (validate d r).store.calls = r.calls ++ reads ∧ Inspection d reads := by
  obtain ⟨gets, hcalls, hgets⟩ := calls_readParams d.params r
  rw [validate, Traced.andThen]
  cases hanswer : (readParams d.params r).answer with
  | error e =>
      rw [hanswer] at hgets
      exact ⟨gets, hcalls, .unread hgets⟩
  | ok checks =>
      rw [hanswer] at hgets
      generalize (readParams d.params r).store = r' at hcalls
      have hlist : ConfigStore.listFeatures r' = Recorded.note .listFeatures ConfigStore.listFeatures r' := rfl
      simp only [Traced.map, readFeatures]
      by_cases hempty : d.features = []
      · rw [if_pos (List.isEmpty_iff.2 hempty)]
        exact ⟨gets, hcalls, .unlisted hgets hempty⟩
      · rw [if_neg (mt List.isEmpty_iff.1 hempty), hlist, Recorded.note]
        refine ⟨gets ++ [⟨.listFeatures, (ConfigStore.listFeatures r'.inner).1.isOk⟩], ?_, .listed _ hgets hempty⟩
        cases hlisted : (ConfigStore.listFeatures r'.inner).1 with
        | error e => simp [Traced.fail, hcalls]
        | ok records => simp [hcalls]

/-- **Applying only looks up parameters and writes.** -/
theorem calls_apply (d : Document) (report : Report) (r : Recorded σ) :
    ∃ work, (apply d report r).store.calls = r.calls ++ work ∧ ∀ i ∈ work, i.call.isWork = true := by
  have hnote : ∀ (i : Issued) (r' : Recorded σ), i.call.isWork = true →
      (∃ work, r'.calls = r.calls ++ work ∧ ∀ i ∈ work, i.call.isWork = true) →
      ∃ work, r'.calls ++ [i] = r.calls ++ work ∧ ∀ i ∈ work, i.call.isWork = true := by
    rintro i r' hi ⟨work, hcalls, hwork⟩
    refine ⟨work ++ [i], by rw [hcalls, List.append_assoc], ?_⟩
    rw [List.forall_mem_append]
    exact ⟨hwork, by simpa using hi⟩
  refine apply_invariant (I := fun r' : Recorded σ => ∃ work, r'.calls = r.calls ++ work
    ∧ ∀ i ∈ work, i.call.isWork = true) (fun key r' h => hnote _ r' rfl h) (fun e r' h => ?_) d report
    ⟨[], (List.append_nil _).symm, by simp⟩
  rw [Recorded.perform_edit]
  refine hnote _ r' ?_ h
  cases e <;> rfl

/-- The calls of a unit of work. It ends well when applying goes well and its writes are kept. -/
theorem calls_applyBracketed (d : Document) (report : Report) (r : Recorded σ) :
    (∃ e, (ConfigStore.beginRun r.inner).1 = .error e
        ∧ (PatchRun.applyBracketed d report r).store.calls = r.calls ++ [⟨.beginRun, false⟩]
        ∧ (PatchRun.applyBracketed d report r).answer = .error (.ofStore e))
      ∨ (ConfigStore.beginRun r.inner).1 = .ok ()
        ∧ ∃ work commit closed, commit = (apply d report (ConfigStore.beginRun r.inner).2).answer.isOk
          ∧ (∀ i ∈ work, i.call.isWork = true)
          ∧ (PatchRun.applyBracketed d report r).store.calls
            = r.calls ++ ⟨.beginRun, true⟩ :: (work ++ [⟨.endRun commit, closed⟩])
          ∧ ((PatchRun.applyBracketed d report r).answer.isOk = true ↔ commit = true ∧ closed = true) := by
  have hbegin : ConfigStore.beginRun r = Recorded.note .beginRun ConfigStore.beginRun r := rfl
  have hend : ∀ commit (r' : Recorded σ),
      ConfigStore.endRun commit r' = Recorded.note (.endRun commit) (ConfigStore.endRun commit) r' := fun _ _ => rfl
  rw [PatchRun.applyBracketed, hbegin, Recorded.note]
  cases hopen : (ConfigStore.beginRun r.inner).1 with
  | error e => exact .inl ⟨e, rfl, rfl, rfl⟩
  | ok _ =>
      right
      have hanswer := (Recorded.runAlike.apply d report (s := (⟨(ConfigStore.beginRun r.inner).2,
        r.calls ++ [⟨.beginRun, true⟩]⟩ : Recorded σ)) rfl).answer
      obtain ⟨work, hcalls, hwork⟩ :=
        calls_apply d report ⟨(ConfigStore.beginRun r.inner).2, r.calls ++ [⟨.beginRun, true⟩]⟩
      simp only [Except.isOk, Except.toBool] at hanswer hcalls ⊢
      rw [← hanswer]
      generalize apply d report (⟨(ConfigStore.beginRun r.inner).2, r.calls ++ [⟨.beginRun, true⟩]⟩ : Recorded σ) = t
        at hcalls ⊢
      rw [List.append_assoc] at hcalls
      cases t.answer with
      | ok result =>
          refine ⟨trivial, work, true, (ConfigStore.endRun true t.store.inner).1.isOk, rfl, hwork, ?_⟩
          simp only [hend, Recorded.note, hcalls]
          cases (ConfigStore.endRun true t.store.inner).1 <;> simp [Except.isOk, Except.toBool]
      | error stop =>
          refine ⟨trivial, work, false, (ConfigStore.endRun false t.store.inner).1.isOk, rfl, hwork, ?_⟩
          simp only [hend, Recorded.note, hcalls]
          cases (ConfigStore.endRun false t.store.inner).1 <;> simp [Except.isOk, Except.toBool]

end Recorded

/-! ## Commands -/

section Commands

variable {σ : Type} [ConfigStore σ] {text : String} {d : Document}

/-- The run after it was validated against a store and, if that went well, applied to it. -/
def PatchRun.carriedOut (run : PatchRun) (s : σ) : PatchRun :=
  let (run, t) := run.validate s
  match t.answer with
  | .ok _ => (run.apply t.store).1
  | .error _ => run

/-- A run is carried out when its text is applied. -/
theorem carriedOut_applied_iff (ctx : Context) (hload : load text = .ok d) (s : σ) :
    ((PatchRun.start ctx d).carriedOut s).phase.name = "Applied" ↔ (applyPatch ctx text s).answer.isOk = true := by
  cases hvalidate : (validate d s).answer with
  | error e =>
      rw [(commands_of_validate_error ctx hload hvalidate).1]
      simp [PatchRun.carriedOut, PatchRun.validate, PatchRun.start, hvalidate, Phase.name, Except.isOk, Except.toBool]
  | ok report =>
      rw [(applyPatch_of_validated ctx hload hvalidate).1]
      simp only [PatchRun.carriedOut, PatchRun.validate, PatchRun.start, hvalidate, PatchRun.apply]
      cases (PatchRun.applyBracketed d report (validate d s).store).answer with
      | ok result => exact ⟨fun _ => rfl, fun _ => rfl⟩
      | error e => simp [Phase.name, Except.map, Except.isOk, Except.toBool]

/-- An outcome is that of an applied run. -/
theorem phase_of_applyPatch {ctx : Context} {s : σ} {o : RunOutcome} (h : (applyPatch ctx text s).answer = .ok o) :
    o.phase = "Applied" := by
  rcases commands_cases ctx text s with ⟨e, herror, -⟩ | ⟨d, report, hload, hreport⟩
  · rw [h] at herror
    cases herror
  · rw [(applyPatch_of_validated ctx hload hreport).1] at h
    obtain ⟨result, -, rfl⟩ := map_eq_ok_iff.1 h
    rfl

/-- **The calls of applying a text are a session**, in which the writes are kept if and only if there is an
    outcome. -/
theorem session_of_applyPatch (ctx : Context) (text : String) (s : σ) :
    Session text s (applyPatch ctx text (Recorded.start s)).store.calls
      ∧ ((applyPatch ctx text (Recorded.start s)).answer.isOk = true
        ↔ ⟨.endRun true, true⟩ ∈ (applyPatch ctx text (Recorded.start s)).store.calls) := by
  cases hload : load text with
  | error e =>
      obtain ⟨herror, -, hafter⟩ := commands_of_load_error ctx (s := Recorded.start s) hload
      rw [herror, hafter]
      exact ⟨.unloaded hload, by simp [Recorded.start, Except.isOk, Except.toBool]⟩
  | ok d =>
      obtain ⟨hsame, -, hinner⟩ := Recorded.runAlike.validate d (s := Recorded.start s) rfl
      obtain ⟨reads, hcalls, hreads⟩ := calls_validate d (Recorded.start s)
      replace hcalls : (validate d (Recorded.start s)).store.calls = reads := hcalls
      cases hvalidate : (validate d (Recorded.start s)).answer with
      | error e =>
          rw [hvalidate] at hsame
          obtain ⟨herror, -, hafter⟩ := commands_of_validate_error ctx hload hvalidate
          rw [herror, hafter, hcalls]
          have hno : (⟨.endRun true, true⟩ : Issued) ∉ reads := hreads.not_mem rfl
          exact ⟨.unvalidated hload hreads hsame.symm, by simp [hno, Except.isOk, Except.toBool]⟩
      | ok report =>
          rw [hvalidate] at hsame
          obtain ⟨hanswer, hafter⟩ := applyPatch_of_validated ctx hload hvalidate
          have hok : (applyPatch ctx text (Recorded.start s)).answer.isOk
              = (PatchRun.applyBracketed d report (validate d (Recorded.start s)).store).answer.isOk := by
            rw [hanswer]
            cases (PatchRun.applyBracketed d report (validate d (Recorded.start s)).store).answer <;> rfl
          rw [hok, hafter]
          rcases calls_applyBracketed d report (validate d (Recorded.start s)).store with
            ⟨e, hbegin, hissued, herror⟩ | ⟨hbegin, work, commit, closed, hcommit, hwork, hissued, hends⟩
          · rw [hinner] at hbegin
            rw [hissued, hcalls, herror]
            have hno : (⟨.endRun true, true⟩ : Issued) ∉ reads := hreads.not_mem rfl
            exact ⟨.unopened hload hreads hsame.symm hbegin, by simp [hno, Except.isOk, Except.toBool]⟩
          · rw [hinner] at hbegin hcommit
            rw [hissued, hcalls, hends, Session.kept_iff hreads hwork, hcommit]
            exact ⟨.bracketed closed hload hreads hsame.symm hbegin hwork, Iff.rfl⟩

/-- **Applying a text brackets its writes**, whatever the store answers to each call. The calls are those of a session:
    reads in document order, then, if the document is validated, one call that opens a unit of work, and, if that went
    well, look-ups and writes and one call that closes it, which keeps the writes exactly if applying went well. So no
    write is outside of a unit of work. There is an outcome, and the run ends as applied, exactly if the unit of work
    was closed with its writes kept and that went well. Planning only issues the reads. -/
theorem applyPatch_bracketed (ctx : Context) (text : String) (s : σ) :
    let run := applyPatch ctx text (Recorded.start s)
    let plan := planPatch ctx text (Recorded.start s)
    (run.answer = (applyPatch ctx text s).answer ∧ run.store.inner = (applyPatch ctx text s).store)
      ∧ (plan.answer = (planPatch ctx text s).answer ∧ plan.store.inner = (planPatch ctx text s).store)
      ∧ Session text s run.store.calls
      ∧ (∀ before i after, run.store.calls = before ++ i :: after → i.call.isWrite = true →
        ⟨.beginRun, true⟩ ∈ before ∧ ∃ commit closed, after.getLast? = some ⟨.endRun commit, closed⟩)
      ∧ (run.answer.isOk = true ↔ ⟨.endRun true, true⟩ ∈ run.store.calls)
      ∧ (∀ d, load text = .ok d → (((PatchRun.start ctx d).carriedOut s).phase.name = "Applied"
        ↔ ⟨.endRun true, true⟩ ∈ run.store.calls))
      ∧ (∀ o, run.answer = .ok o → o.phase = "Applied")
      ∧ ((∃ e, load text = .error e ∧ plan.store.calls = [])
        ∨ ∃ d, load text = .ok d ∧ Inspection d plan.store.calls) := by
  intro run plan
  obtain ⟨hrun, -, hrunStore⟩ := Recorded.runAlike.applyPatch ctx text (s := Recorded.start s) rfl
  obtain ⟨hplan, -, hplanStore⟩ := Recorded.runAlike.planPatch ctx text (s := Recorded.start s) rfl
  obtain ⟨hsession, hkept⟩ := session_of_applyPatch ctx text s
  refine ⟨⟨hrun, hrunStore⟩, ⟨hplan, hplanStore⟩, hsession, fun _ _ _ => hsession.write_inside, hkept,
    fun d hload => ?_, fun o => phase_of_applyPatch, ?_⟩
  · rw [carriedOut_applied_iff ctx hload, ← hkept, hrun]
    rfl
  · have hcalls : plan.store.calls = (validatedRun ctx text (Recorded.start s)).store.calls :=
      congrArg Recorded.calls (planPatch_store ctx)
    rw [hcalls]
    cases hload : load text with
    | error e =>
        rw [(validatedRun_of_load_error ctx hload).2]
        exact .inl ⟨e, rfl, rfl⟩
    | ok d =>
        obtain ⟨reads, hreads, hinspection⟩ := calls_validate d (Recorded.start s)
        rw [validatedRun_store ctx hload, hreads]
        exact .inr ⟨d, rfl, hinspection⟩

/-- A commit that fails is still the only closing call. -/
example :
    let s : Faulty MemoryStore := ⟨.ofParams [("a", "x")], [], [.commit], []⟩
    (applyPatch ⟨"run", none⟩ "schema_version: 0\nparams:\n  - key: a\n    expect: x\n    update: y\n"
        (Recorded.start s)).store.calls
      = [⟨.get "a", true⟩, ⟨.beginRun, true⟩, ⟨.get "a", true⟩, ⟨.set "a" "y", true⟩, ⟨.endRun true, false⟩] := by
  decide +kernel

end Commands

end GuardedPatch
