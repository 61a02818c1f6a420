import GuardedPatch.Proofs.Run.Effects
import GuardedPatch.Proofs.Run.Validation

set_option autoImplicit false

/-! # Aborted runs

A run that is stopped takes back what it has done. The invariant of its forward pass is that every step that was done
took its place for what it was at the start (`done_fits`): a parameter is read again right before it is set, records
do not change between validation and application, and no place is written twice. So each undo in the journal holds
what was at its place (`Step.undo_of_edit?`), and replaying the journal from the top restores the contents, down to the
order of the records (`rollback_restores`).

Undos can be refused on their own, when a write budget runs out. Then the places whose undo was refused keep what
the run has written, and no other place is touched (`at?_of_written`, `at?_of_unwritten`). -/

namespace GuardedPatch

/-! ## Undos -/

theorem Step.undo?_of_edit?_none {step : Step} (h : step.edit? = none) : step.undo? = none := by
  cases step with
  | setParam c => cases h
  | putFeature record previous outcome =>
      rw [edit?] at h
      split at h
      · next hsame => rw [undo?, if_pos hsame]
      · cases h

/-- The undo of a step that fits restores what was at its place, and takes back its write. -/
theorem Step.undo_of_edit? {step : Step} {e : Edit} (hedit : step.edit? = some e) {c : Contents}
    (hfits : step.Fits c) :
    ∃ u, step.undo? = some u ∧ u.edit.slot = step.slot ∧ u.edit.content? = c.at? step.slot
      ∧ u.edit.run (e.run c) = c := by
  cases step with
  | setParam change =>
      cases hedit
      have hold : c.params.get? change.key = some change.expected := by
        rw [Fits, slot, Contents.at?, before?, Option.map_eq_some_iff] at hfits
        obtain ⟨old, hget, hold⟩ := hfits
        cases hold
        exact hget
      refine ⟨.param change.key change.expected, rfl, rfl, hfits.symm, ?_⟩
      simp only [Undo.edit, Edit.run, TextMap.insert_insert, TextMap.insert_eq_self hold]
  | putFeature record previous outcome =>
      rw [edit?] at hedit
      split at hedit
      · cases hedit
      · next hdiff =>
          cases hedit
          have hundo : (Step.putFeature record previous outcome).undo? = some (.feature record.id previous) := by
            rw [undo?, if_neg hdiff]
          refine ⟨_, hundo, ?_⟩
          have hold : recordAt? c.features record.id = previous := by
            rw [Fits, slot, Contents.at?, before?] at hfits
            exact Option.map_injective (fun a b hab => Content.record.inj hab) hfits
          cases previous with
          | some old =>
              have hid : Slot.feature old.id = .feature record.id := by rw [id_of_recordAt? hold]
              refine ⟨hid, hfits.symm, ?_⟩
              simp only [Undo.edit, Edit.run, replaceOrAppend_restore hold]
          | none =>
              refine ⟨rfl, hfits.symm, ?_⟩
              simp only [Undo.edit, Edit.run, removed_replaceOrAppend hold]

/-- Writing to one place leaves the steps for other places fitting. -/
theorem fits_after_edit {step : Step} {rest : List Step} (hnot : step.slot ∉ rest.map Step.slot) {e : Edit}
    (hedit : step.edit? = some e) (c : Contents) : ∀ x ∈ rest, x.Fits (e.run c) ↔ x.Fits c := by
  intro x hx
  apply Step.fits_run_iff
  rw [Step.slot_of_edit? hedit]
  intro heq
  exact hnot (heq ▸ List.mem_map_of_mem hx)

/-- **Replaying the journal of steps brings their contents back**, order included, if those that write fit. -/
theorem rollback_restores {done : List Step} {c : Contents} (hslots : (done.map Step.slot).Nodup)
    (hfits : ∀ step ∈ done, step.edit? ≠ none → step.Fits c) :
    ((journalOf done).map Undo.edit).foldl Edit.run ((done.filterMap Step.edit?).foldl Edit.run c) = c := by
  induction done generalizing c with
  | nil => rfl
  | cons step rest ih =>
      rw [List.map_cons, List.nodup_cons] at hslots
      rw [List.forall_mem_cons] at hfits
      rw [journalOf_cons]
      cases hedit : step.edit? with
      | none =>
          rw [Step.undo?_of_edit?_none hedit, List.filterMap_cons_none hedit, Option.toList_none, List.append_nil]
          exact ih hslots.2 hfits.2
      | some e =>
          have hfit : step.Fits c := hfits.1 (hedit ▸ Option.some_ne_none e)
          obtain ⟨u, hundo, -, -, hrestore⟩ := Step.undo_of_edit? hedit hfit
          have hrest : ∀ x ∈ rest, x.edit? ≠ none → x.Fits (e.run c) := fun x hx hwrites =>
            (fits_after_edit hslots.1 hedit c x hx).2 (hfits.2 x hx hwrites)
          -- the newest undos come first, and leave what the first step has made of the contents
          rw [hundo, List.filterMap_cons_some hedit, List.foldl_cons, Option.toList_some, List.map_append,
            List.foldl_append, ih hslots.2 hrest]
          exact hrestore

/-- The places of a journal are those of the steps, from the end. -/
theorem slots_journalOf {done : List Step} {c : Contents} (hfits : ∀ step ∈ done, step.Fits c) :
    ((journalOf done).map fun u => u.edit.slot).Sublist (done.map Step.slot).reverse := by
  induction done with
  | nil => exact .slnil
  | cons step rest ih =>
      rw [List.forall_mem_cons] at hfits
      rw [journalOf_cons, List.map_append, List.map_cons, List.reverse_cons]
      refine (ih hfits.2).append ?_
      cases hedit : step.edit? with
      | none =>
          rw [Step.undo?_of_edit?_none hedit]
          exact List.nil_sublist _
      | some e =>
          obtain ⟨u, hundo, hslot, -⟩ := Step.undo_of_edit? hedit hfits.1
          rw [hundo, Option.toList_some, List.map_cons, hslot]
          exact .refl _

theorem mem_journalOf {done : List Step} {step : Step} (hstep : step ∈ done) {u : Undo} (hu : step.undo? = some u) :
    u ∈ journalOf done := by
  rw [journalOf, List.mem_reverse, List.mem_filterMap]
  exact ⟨step, hstep, hu⟩

/-- An undo in a journal takes back the write of a step. -/
theorem exists_of_mem_journalOf {done : List Step} {c : Contents} (hfits : ∀ step ∈ done, step.Fits c) {u : Undo}
    (hu : u ∈ journalOf done) : ∃ step ∈ done, ∃ e, step.edit? = some e ∧ u.edit.slot = step.slot := by
  rw [journalOf, List.mem_reverse] at hu
  obtain ⟨step, hstep, hundo⟩ := List.mem_filterMap.1 hu
  cases hedit : step.edit? with
  | none =>
      rw [Step.undo?_of_edit?_none hedit] at hundo
      cases hundo
  | some e =>
      obtain ⟨u', hundo', hslot, -⟩ := Step.undo_of_edit? hedit (hfits step hstep)
      obtain rfl : u = u' := Option.some.inj (hundo.symm.trans hundo')
      exact ⟨step, hstep, e, hedit, hslot⟩

/-! ## The forward pass -/

section ContentStore

variable {σ : Type} [ConfigStore σ] [ContentStore σ]

open ContentStore (contents)

/-- Every parameter that was set had the expected value at the start, since it is read again right before. -/
theorem done_setParam_fits {steps : List Step} (hslots : (steps.map Step.slot).Nodup) {s : σ} {c : ParamChange}
    (hc : .setParam c ∈ (progress steps s).done) : (Step.setParam c).Fits (contents s) := by
  induction steps generalizing s with
  | nil => simp [progress] at hc
  | cons step rest ih =>
      rw [List.map_cons, List.nodup_cons] at hslots
      have hcases := step.perform_cases s
      generalize hout : step.perform s = out at hcases
      cases hcases with
      | unwritten refusal _ =>
          rw [progress_cons_error (by rw [hout])] at hc
          simp at hc
      | refused refusal e err _ _ =>
          rw [progress_cons_error (by rw [hout])] at hc
          simp at hc
      | kept hedit =>
          rw [progress_cons_ok (by rw [hout]), hout, List.mem_cons] at hc
          obtain rfl | hc := hc
          · cases hedit
          · exact ih hslots.2 hc
      | written e hedit hexpected hok =>
          have hafter : contents (e.perform (step.seen s)).2 = e.run (contents s) := by
            rw [ContentStore.edit_accepted e _ hok, step.contents_seen]
          rw [progress_cons_ok (by rw [hout]), hout, List.mem_cons] at hc
          obtain rfl | hc := hc
          · exact Step.fits_of_expected (fun _ _ _ heq => by cases heq) hexpected
          · -- the rest fits the contents after the write as it fits those before it
            have hfits := ih hslots.2 hc
            rw [hafter] at hfits
            exact (fits_after_edit hslots.1 hedit _ _ ((isPrefix_done rest _).subset hc)).1 hfits

/-- **Every step that was done fits the contents at the start.** Steps for features have to fit them beforehand, since
    nothing is looked up for them again. -/
theorem done_fits {steps : List Step} (hslots : (steps.map Step.slot).Nodup) {s : σ}
    (hfeatures : ∀ record previous outcome, Step.putFeature record previous outcome ∈ steps →
      (Step.putFeature record previous outcome).Fits (contents s)) :
    ∀ step ∈ (progress steps s).done, step.Fits (contents s)
  | .setParam _, hstep => done_setParam_fits hslots hstep
  | .putFeature record previous outcome, hstep =>
      hfeatures record previous outcome ((isPrefix_done steps s).subset hstep)

/-! ## What is left of a run -/

variable {steps : List Step} {s : σ} {c : Contents}

/-- A place that no step has written to is left as it was. -/
theorem at?_of_unwritten (hslots : (steps.map Step.slot).Nodup)
    (hfits : ∀ step ∈ (progress steps s).done, step.Fits c) {slot : Slot}
    (hslot : ∀ step ∈ (progress steps s).done, step.edit? ≠ none → step.slot ≠ slot) :
    (contents (replay (journalOf (progress steps s).done) (progress steps s).store).2).at? slot
      = (contents s).at? slot := by
  have hdone : ((progress steps s).done.map Step.slot).Nodup := hslots.sublist ((isPrefix_done steps s).map _).sublist
  have hjournal := (List.nodup_reverse.2 hdone).sublist (slots_journalOf hfits)
  -- neither the writes nor the undos are about this place
  have hforward : (((progress steps s).done.filterMap Step.edit?).find? (·.slot == slot)) = none := by
    rw [List.find?_eq_none]
    intro e he heslot
    obtain ⟨step, hstep, hedit⟩ := List.mem_filterMap.1 he
    refine hslot step hstep (by rw [hedit]; exact Option.some_ne_none e) ?_
    rw [← Step.slot_of_edit? hedit]
    exact beq_iff_eq.1 heslot
  have hback : ((journalOf (progress steps s).done).find? (·.edit.slot == slot)) = none := by
    rw [List.find?_eq_none]
    intro u hu huslot
    obtain ⟨step, hstep, e, hedit, hundone⟩ := exists_of_mem_journalOf hfits hu
    refine hslot step hstep (by rw [hedit]; exact Option.some_ne_none e) ?_
    rw [← hundone]
    exact beq_iff_eq.1 huslot
  rw [at?_replay hjournal, hback, contents_progress,
    at?_foldl_run (hdone.sublist (slots_sublist _)), hforward]

/-- A place that a step has written to has what the steps fit, or what was written if the undo failed. -/
theorem at?_of_written (hslots : (steps.map Step.slot).Nodup)
    (hfits : ∀ step ∈ (progress steps s).done, step.Fits c) {step : Step}
    (hstep : step ∈ (progress steps s).done) {e : Edit} (hedit : step.edit? = some e) :
    ∃ u, step.undo? = some u ∧
      (contents (replay (journalOf (progress steps s).done) (progress steps s).store).2).at? step.slot
        = if u ∈ (replay (journalOf (progress steps s).done) (progress steps s).store).1.map (·.1) then e.content?
          else c.at? step.slot := by
  have hdone : ((progress steps s).done.map Step.slot).Nodup := hslots.sublist ((isPrefix_done steps s).map _).sublist
  have hjournal := (List.nodup_reverse.2 hdone).sublist (slots_journalOf hfits)
  obtain ⟨u, hundo, hslot, hcontent, -⟩ := Step.undo_of_edit? hedit (hfits step hstep)
  have hback : (journalOf (progress steps s).done).find? (·.edit.slot == step.slot) = some u := by
    rw [← hslot]
    exact find?_eq_of_mem hjournal (mem_journalOf hstep hundo)
  have hforward : ((progress steps s).done.filterMap Step.edit?).find? (·.slot == step.slot) = some e := by
    rw [← Step.slot_of_edit? hedit]
    exact find?_eq_of_mem (hdone.sublist (slots_sublist _)) (List.mem_filterMap.2 ⟨step, hstep, hedit⟩)
  have hwritten : (contents (progress steps s).store).at? step.slot = e.content? := by
    rw [contents_progress, at?_foldl_run (hdone.sublist (slots_sublist _)), hforward]
  refine ⟨u, hundo, ?_⟩
  rw [at?_replay hjournal, hback, ← hcontent, ← hwritten]

/-- If no undo fails, all contents are as before. -/
theorem contents_of_rolledBack (hslots : (steps.map Step.slot).Nodup)
    (hfits : ∀ step ∈ (progress steps s).done, step.Fits (contents s))
    (h : (replay (journalOf (progress steps s).done) (progress steps s).store).1 = []) :
    contents (replay (journalOf (progress steps s).done) (progress steps s).store).2 = contents s := by
  rw [contents_replay h, contents_progress]
  exact rollback_restores (hslots.sublist ((isPrefix_done steps s).map _).sublist) fun step hstep _ =>
    hfits step hstep

end ContentStore

/-! ## Stores in memory behind faults -/

/-- No key has a budget, and these are the locked ones. -/
def Faulty.Unmetered (locked : List String) (s : Faulty MemoryStore) : Prop :=
  s.budgets = [] ∧ s.inner.locked = locked

namespace Faulty.Unmetered

variable {locked : List String} {s : Faulty MemoryStore}

theorem get (h : Unmetered locked s) (key : String) : Unmetered locked (ConfigStore.get key s).2 := by
  show Unmetered locked (if key ∈ s.unreadable then _ else _ : Except StoreError _ × Faulty MemoryStore).2
  split_ifs
  · exact h
  · exact h

/-- Without budgets, a write is refused only if its name is locked. -/
theorem perform (h : Unmetered locked s) (e : Edit) :
    (e.perform s).1 = (if e.slot.name ∈ locked then .error (lockedError e.slot.name) else .ok ())
      ∧ Unmetered locked (e.perform s).2 := by
  obtain ⟨hbudgets, hlocked⟩ := h
  rw [perform_edit, passWrite, hbudgets, List.lookup_nil]
  simp only [pass, MemoryStore.perform_edit, hlocked]
  split_ifs
  · exact ⟨rfl, hbudgets, hlocked⟩
  · exact ⟨rfl, hbudgets, rfl⟩

/-- Steps that were done have written to no locked name. -/
theorem done_unlocked {steps : List Step} (h : Unmetered locked s) :
    ∀ step ∈ (progress steps s).done, ∀ e, step.edit? = some e → e.slot.name ∉ locked := by
  induction steps generalizing s with
  | nil => simp [progress]
  | cons step rest ih =>
      have hseen : Unmetered locked (step.seen s) := step.seen_invariant (fun key _ hs => hs.get key) h
      have hcases := step.perform_cases s
      generalize hout : step.perform s = out at hcases
      cases hcases with
      | unwritten refusal _ =>
          rw [progress_cons_error (by rw [hout])]
          simp
      | refused refusal e err _ _ =>
          rw [progress_cons_error (by rw [hout])]
          simp
      | kept hedit =>
          rw [progress_cons_ok (by rw [hout]), hout, List.forall_mem_cons]
          refine ⟨fun e he => ?_, ih h⟩
          rw [hedit] at he
          cases he
      | written e hedit _ hok =>
          rw [progress_cons_ok (by rw [hout]), hout, List.forall_mem_cons]
          refine ⟨fun e' he' hmem => ?_, ih (hseen.perform e).2⟩
          obtain rfl : e = e' := Option.some.inj (hedit.symm.trans he')
          rw [(hseen.perform e).1, if_pos hmem] at hok
          cases hok

theorem progress (h : Unmetered locked s) (steps : List Step) :
    Unmetered locked (GuardedPatch.progress steps s).store :=
  progress_invariant (fun key _ hs => hs.get key) (fun e _ hs => (hs.perform e).2) steps h

/-- No undo fails if none is about a locked name. -/
theorem replay {journal : List Undo} (hjournal : ∀ u ∈ journal, u.edit.slot.name ∉ locked) (h : Unmetered locked s) :
    (GuardedPatch.replay journal s).1 = [] := by
  induction journal generalizing s with
  | nil => rfl
  | cons u rest ih =>
      rw [List.forall_mem_cons] at hjournal
      have hok : (u.edit.perform s).1 = .ok () := by rw [(h.perform u.edit).1, if_neg hjournal.1]
      rw [replay_cons_ok hok]
      exact ih hjournal.2 (h.perform u.edit).2

end Faulty.Unmetered

/-- **An aborted run leaves nothing behind but what it could not take back.** Whatever is locked, unreadable or out of
    budget, and however parameters have drifted since validation: a place that no step has written to is as it was;
    one that was written to is as it was if its undo was accepted, and as written if not. The run says that it was
    rolled back exactly when every undo was accepted; then everything is as it was, the order of the records
    included; and without write budgets it always is. -/
theorem apply_aborted_restores {d : Document} {r : Report} {s₀ s : Faulty MemoryStore} {key reason : String}
    {part : ApplyResult} {rolledBack : Bool} (hrecords : DistinctIds s₀.inner.features)
    (hsame : s.inner.features.Perm s₀.inner.features) (hd : d.Valid) (hreport : (validate d s₀).answer = .ok r)
    (h : (apply d r s).answer = .error (.applyAborted key reason part rolledBack)) :
    let run := progress (Agenda.ofReport d r).steps s
    let back := replay (journalOf run.done) run.store
    part = run.done.foldl Step.addTo (Agenda.ofReport d r).initial
      ∧ (apply d r s).store = back.2
      ∧ (∀ slot, (∀ step ∈ run.done, step.edit? ≠ none → step.slot ≠ slot) →
        back.2.inner.contents.at? slot = s.inner.contents.at? slot)
      ∧ (∀ step ∈ run.done, ∀ e, step.edit? = some e → ∃ u, step.undo? = some u ∧
        back.2.inner.contents.at? step.slot
          = if u ∈ back.1.map (·.1) then e.content? else s.inner.contents.at? step.slot)
      ∧ (rolledBack = true ↔ back.1 = [])
      ∧ (rolledBack = true → back.2.inner.params = s.inner.params ∧ back.2.inner.features = s.inner.features)
      ∧ (s.budgets = [] → rolledBack = true) := by
  obtain ⟨agenda, hagenda, hrefusal, hpart, hrolled⟩ := agenda_of_aborted h
  have hstore := (apply_of_refusal hagenda hrefusal).2
  obtain rfl := (Agenda.of?_eq_ok_iff.1 hagenda).2.2
  have hsteps : (Agenda.ofReport d r).steps = d.stepsIn s₀.inner.params s₀.inner.features := by
    have hintent := agenda_of_validated (Faulty.reads s₀.inner.reads) hrecords hreport
    rw [hagenda] at hintent
    exact congrArg Agenda.steps (Except.ok.inj hintent)
  have hslots : ((Agenda.ofReport d r).steps.map Step.slot).Nodup := by
    rw [hsteps]
    exact hd.slots_nodup _ _
  -- the records are those of the validation, so that what the report found is still there
  have hfits : ∀ step ∈ (progress (Agenda.ofReport d r).steps s).done, step.Fits s.inner.contents := by
    refine done_fits hslots fun record previous outcome hmem => ?_
    rw [hsteps] at hmem
    have hfit := d.stepsIn_fit s₀.inner.contents _ hmem
    rw [Step.Fits, Step.slot, Contents.at?] at hfit ⊢
    rw [← hfit]
    exact congrArg _ ((hrecords.perm hsame.symm).recordAt?_perm hsame record.id)
  have hempty : rolledBack = true
      ↔ (replay (journalOf (progress (Agenda.ofReport d r).steps s).done)
        (progress (Agenda.ofReport d r).steps s).store).1 = [] := by
    rw [hrolled, List.isEmpty_iff]
  refine ⟨hpart, hstore, fun slot hslot => at?_of_unwritten hslots hfits hslot,
    fun step hstep e hedit => at?_of_written hslots hfits hstep hedit, hempty, fun hback => ?_, fun hbudgets => ?_⟩
  · have hcontents := contents_of_rolledBack hslots hfits (hempty.1 hback)
    exact ⟨congrArg Contents.params hcontents, congrArg Contents.features hcontents⟩
  · have hunmetered : Faulty.Unmetered s.inner.locked s := ⟨hbudgets, rfl⟩
    refine hempty.2 ((hunmetered.progress _).replay fun u hu => ?_)
    obtain ⟨step, hstep, e, hedit, hslot⟩ := exists_of_mem_journalOf hfits hu
    rw [hslot, ← Step.slot_of_edit? hedit]
    exact hunmetered.done_unlocked step hstep e hedit

/-- A parameter that drifted after validation stops a run, and the one that was set before it is restored within its
    budget of two writes. -/
theorem apply_aborted_restores_drifted :
    let d : Document := ⟨"site", [⟨"a", "1", "2"⟩, ⟨"b", "1", "2"⟩], [⟨"f", some "t", .create, .empty⟩]⟩
    let r : Report := ⟨[⟨"a", .eligible⟩, ⟨"b", .eligible⟩], [⟨"f", .create none⟩]⟩
    let s₀ : Faulty MemoryStore := .ofStore (.ofParams [("a", "1"), ("b", "1")])
    let s : Faulty MemoryStore := ⟨.ofParams [("a", "1"), ("b", "3")], [("a", 2)], [], []⟩
    (validate d s₀).answer = .ok r
      ∧ (apply d r s).answer
        = .error (.applyAborted "b" "value changed between validation and apply" ⟨[⟨"a", "1", "2"⟩], [], [], none⟩ true)
      ∧ (apply d r s).store.inner.params = s.inner.params ∧ (apply d r s).store.inner.features = s.inner.features := by
  intro d r s₀ s
  have hvalid : d.Valid := ⟨rfl, rfl⟩
  have hrecords : DistinctIds s₀.inner.features := List.nodup_nil
  have hsame : s.inner.features.Perm s₀.inner.features := .refl _
  have hreport : (validate d s₀).answer = .ok r := rfl
  have haborted : (apply d r s).answer = .error
      (.applyAborted "b" "value changed between validation and apply" ⟨[⟨"a", "1", "2"⟩], [], [], none⟩ true) := rfl
  obtain ⟨-, hstore, -, -, -, hback, -⟩ := apply_aborted_restores hrecords hsame hvalid hreport haborted
  rw [hstore]
  exact ⟨hreport, haborted, hback rfl⟩

end GuardedPatch
