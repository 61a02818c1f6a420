import GuardedPatch.Proofs.Document
import GuardedPatch.Proofs.Run.Intent
import GuardedPatch.Proofs.Run.Progress
import GuardedPatch.Proofs.Store.Contents

set_option autoImplicit false

/-! # What steps and undos do to a store

A step looks at the store and makes at most one write; an undo is a write. So all that can happen to a store in a
step is said once (`Step.perform_cases`), and what holds of the store before a pass, forward or backward, holds after
it if single reads and writes keep it (`progress_invariant`, `replay_invariant`). On a store with contents, a forward
pass makes the writes of the steps it has done (`contents_progress`), and a replay restores what it is not refused
(`at?_replay`). -/

namespace GuardedPatch

/-- The write of a step; a feature that stays as it is is not written at all. -/
def Step.edit? : Step → Option Edit
  | .setParam c => some (.setParam c.key c.update)
  | .putFeature record _ outcome => if outcome.action = .unchanged then none else some (.putRecord record)

/-- The write of an undo. -/
def Undo.edit : Undo → Edit
  | .param key old => .setParam key old
  | .feature _ (some previous) => .putRecord previous
  | .feature id none => .dropRecord id

/-- The place that a step is about. -/
def Step.slot : Step → Slot
  | .setParam c => .param c.key
  | .putFeature record _ _ => .feature record.id

/-- What a step takes to be at its place. -/
def Step.before? : Step → Option Content
  | .setParam c => some (.value c.expected)
  | .putFeature _ previous _ => previous.map .record

/-- A step fits contents when it takes its place for what it is. -/
def Step.Fits (c : Contents) (step : Step) : Prop :=
  c.at? step.slot = step.before?

theorem Step.slot_of_edit? {step : Step} {e : Edit} (h : step.edit? = some e) : e.slot = step.slot := by
  cases step with
  | setParam c =>
      cases h
      rfl
  | putFeature record previous outcome =>
      rw [edit?] at h
      split at h
      · cases h
      · cases h
        rfl

/-- The places of the writes of steps are among the places of the steps. -/
theorem slots_sublist (steps : List Step) :
    ((steps.filterMap Step.edit?).map Edit.slot).Sublist (steps.map Step.slot) := by
  induction steps with
  | nil => exact .slnil
  | cons step rest ih =>
      rw [List.map_cons]
      cases hedit : step.edit? with
      | none =>
          rw [List.filterMap_cons_none hedit]
          exact ih.cons _
      | some e =>
          rw [List.filterMap_cons_some hedit, List.map_cons, Step.slot_of_edit? hedit]
          exact ih.cons_cons _

/-- A write elsewhere does not matter to whether a step fits. -/
theorem Step.fits_run_iff {step : Step} {e : Edit} (h : e.slot ≠ step.slot) (c : Contents) :
    step.Fits (e.run c) ↔ step.Fits c := by
  rw [Fits, Fits, Edit.at?_run, if_neg h]

section AnyStore

variable {σ : Type} [ConfigStore σ]

theorem Undo.perform_eq (u : Undo) (s : σ) : u.perform s = u.edit.perform s := by
  cases u with
  | param key old => rfl
  | feature id previous => cases previous <;> rfl

/-- The store once a step has looked at it. -/
def Step.seen (s : σ) : Step → σ
  | .setParam c => (ConfigStore.get c.key s).2
  | .putFeature _ _ _ => s

/-- Whether a step sees the value that it expects. -/
def Step.Expected (s : σ) : Step → Prop
  | .setParam c => (ConfigStore.get c.key s).1 = .ok (some c.expected)
  | .putFeature _ _ _ => True

/-- What can come of a step on a store. -/
inductive Step.Ending (step : Step) (s : σ) : Except Refusal Unit × σ → Prop
  /-- It does not see what it expects, and is refused before anything is written. -/
  | unwritten (refusal : Refusal) : ¬ step.Expected s → Ending step s (.error refusal, step.seen s)
  /-- Its write is refused. -/
  | refused (refusal : Refusal) (e : Edit) (err : StoreError) :
    step.edit? = some e → (e.perform (step.seen s)).1 = .error err →
      Ending step s (.error refusal, (e.perform (step.seen s)).2)
  /-- There is nothing to write. -/
  | kept : step.edit? = none → Ending step s (.ok (), s)
  /-- Its write is made. -/
  | written (e : Edit) :
    step.edit? = some e → step.Expected s → (e.perform (step.seen s)).1 = .ok () →
      Ending step s (.ok (), (e.perform (step.seen s)).2)

theorem Step.perform_cases (step : Step) (s : σ) : step.Ending s (step.perform s) := by
  cases step with
  | setParam c =>
      have hedit : (Step.setParam c).edit? = some (.setParam c.key c.update) := rfl
      rw [Step.perform]
      split
      · next err s' hget =>
          have hseen : (Step.setParam c).seen s = s' := by rw [Step.seen, hget]
          rw [← hseen]
          refine .unwritten _ fun hexpected => ?_
          rw [Step.Expected, hget] at hexpected
          cases hexpected
      · next actual s' hget =>
          have hseen : (Step.setParam c).seen s = s' := by rw [Step.seen, hget]
          rw [← hseen]
          split
          · next hactual =>
              refine .unwritten _ fun hexpected => ?_
              rw [Step.Expected, hget] at hexpected
              exact hactual (Except.ok.inj hexpected)
          · next hactual =>
              have hexpected : (Step.setParam c).Expected s := by
                rw [Step.Expected, hget]
                exact congrArg _ (not_not.1 hactual)
              split
              · next err s'' hset =>
                  have hwrite : (Edit.setParam c.key c.update).perform ((Step.setParam c).seen s) = (.error err, s'') :=
                    hset
                  have := Step.Ending.refused ⟨c.key, err.message⟩ _ err hedit (by rw [hwrite])
                  rwa [hwrite] at this
              · next s'' hset =>
                  have hwrite : (Edit.setParam c.key c.update).perform ((Step.setParam c).seen s) = (.ok (), s'') :=
                    hset
                  have := Step.Ending.written _ hedit hexpected (by rw [hwrite])
                  rwa [hwrite] at this
  | putFeature record previous outcome =>
      rw [Step.perform]
      split
      · next hsame => exact .kept (by rw [Step.edit?, if_pos hsame])
      · next hdiff =>
          have hedit : (Step.putFeature record previous outcome).edit? = some (.putRecord record) := by
            rw [Step.edit?, if_neg hdiff]
          split
          · next err s' hput =>
              have hwrite : (Edit.putRecord record).perform s = (.error err, s') := hput
              have := Step.Ending.refused (s := s) ⟨record.id, err.message⟩ _ err hedit (by rw [Step.seen, hwrite])
              rwa [Step.seen, hwrite] at this
          · next s' hput =>
              have hwrite : (Edit.putRecord record).perform s = (.ok (), s') := hput
              have := Step.Ending.written (s := s) _ hedit trivial (by rw [Step.seen, hwrite])
              rwa [Step.seen, hwrite] at this

/-- A step with nothing to write is done. -/
theorem Step.perform_of_kept {step : Step} (h : step.edit? = none) (s : σ) : step.perform s = (.ok (), s) := by
  cases step with
  | setParam c => cases h
  | putFeature record previous outcome =>
      rw [edit?] at h
      split_ifs at h with hsame
      rw [perform, if_pos hsame]

/-- A step that sees what it expects is done if its write is made. -/
theorem Step.perform_of_written {step : Step} {e : Edit} {s : σ} (hedit : step.edit? = some e)
    (hexpected : step.Expected s) (hok : (e.perform (step.seen s)).1 = .ok ()) :
    step.perform s = (.ok (), (e.perform (step.seen s)).2) := by
  have hcases := step.perform_cases s
  generalize step.perform s = out at hcases ⊢
  cases hcases with
  | unwritten refusal hunexpected => exact absurd hexpected hunexpected
  | refused refusal e' err hedit' herr =>
      obtain rfl : e = e' := Option.some.inj (hedit.symm.trans hedit')
      rw [hok] at herr
      cases herr
  | kept hkept =>
      rw [hedit] at hkept
      cases hkept
  | written e' hedit' _ _ =>
      obtain rfl : e = e' := Option.some.inj (hedit.symm.trans hedit')
      rfl

theorem Step.seen_invariant {I : σ → Prop} (hget : ∀ key s, I s → I (ConfigStore.get key s).2) (step : Step) {s : σ}
    (h : I s) : I (step.seen s) := by
  cases step with
  | setParam c => exact hget c.key s h
  | putFeature record previous outcome => exact h

/-- **What single reads and writes keep, a forward pass keeps.** -/
theorem progress_invariant {I : σ → Prop} (hget : ∀ key s, I s → I (ConfigStore.get key s).2)
    (hedit : ∀ (e : Edit) s, I s → I (e.perform s).2) (steps : List Step) {s : σ} (h : I s) :
    I (progress steps s).store := by
  have hseen : ∀ (step : Step) s, I s → I (step.seen s) := fun step _ hs => step.seen_invariant hget hs
  -- a step leaves the store as it has seen it, or as its write has left that
  have hstep : ∀ (step : Step) s, I s → I (step.perform s).2 := by
    intro step s hs
    have hcases := step.perform_cases s
    generalize step.perform s = out at hcases ⊢
    cases hcases with
    | unwritten refusal _ => exact hseen step s hs
    | refused refusal e err _ _ => exact hedit e _ (hseen step s hs)
    | kept _ => exact hs
    | written e _ _ _ => exact hedit e _ (hseen step s hs)
  induction steps generalizing s with
  | nil => exact h
  | cons step rest ih =>
      cases hperform : (step.perform s).1 with
      | error refusal =>
          rw [progress_cons_error hperform]
          exact hstep step s h
      | ok _ =>
          rw [progress_cons_ok hperform]
          exact ih (hstep step s h)

/-- **What single writes keep, a replay keeps.** -/
theorem replay_invariant {I : σ → Prop} (hedit : ∀ (e : Edit) s, I s → I (e.perform s).2) (journal : List Undo)
    {s : σ} (h : I s) : I (replay journal s).2 := by
  induction journal generalizing s with
  | nil => exact h
  | cons u rest ih =>
      have hu := hedit u.edit s h
      rw [← u.perform_eq] at hu
      rw [replay]
      split
      · next s' heq =>
          rw [heq] at hu
          exact ih hu
      · next err s' heq =>
          rw [heq] at hu
          exact ih hu

theorem replay_cons_ok {u : Undo} {rest : List Undo} {s : σ} (h : (u.edit.perform s).1 = .ok ()) :
    replay (u :: rest) s = replay rest (u.edit.perform s).2 := by
  rw [← u.perform_eq] at h ⊢
  rw [replay]
  split
  · next heq => rw [heq]
  · next heq => simp [heq] at h

theorem replay_cons_error {u : Undo} {rest : List Undo} {s : σ} {err : StoreError}
    (h : (u.edit.perform s).1 = .error err) :
    replay (u :: rest) s =
      ((u, err) :: (replay rest (u.edit.perform s).2).1, (replay rest (u.edit.perform s).2).2) := by
  rw [← u.perform_eq] at h ⊢
  rw [replay]
  split
  · next heq => simp [heq] at h
  · next heq =>
      rw [heq] at h ⊢
      cases h
      rfl

/-- The undos that fail are some of the journal, in its order. -/
theorem failures_sublist (journal : List Undo) (s : σ) : ((replay journal s).1.map (·.1)).Sublist journal := by
  induction journal generalizing s with
  | nil => exact .slnil
  | cons u rest ih =>
      cases h : (u.edit.perform s).1 with
      | ok _ =>
          rw [replay_cons_ok h]
          exact (ih _).cons u
      | error err =>
          rw [replay_cons_error h]
          exact (ih _).cons_cons u

/-- **A forward pass makes the writes of the steps it has done**, and no other ones: so it is for whatever a store
    keeps, if reading does not change it and each write does to it what it does or, refused, nothing. -/
theorem kept_progress {κ : Type} {kept : σ → κ} {run : κ → Edit → κ}
    (hget : ∀ key s, kept (ConfigStore.get key s).2 = kept s)
    (haccepted : ∀ (e : Edit) s, (e.perform s).1 = .ok () → kept (e.perform s).2 = run (kept s) e)
    (hrefused : ∀ (e : Edit) s err, (e.perform s).1 = .error err → kept (e.perform s).2 = kept s)
    (steps : List Step) (s : σ) :
    kept (progress steps s).store = ((progress steps s).done.filterMap Step.edit?).foldl run (kept s) := by
  have hseen : ∀ (step : Step) s, kept (step.seen s) = kept s := fun step s =>
    step.seen_invariant (I := (kept · = kept s)) (fun key s' hs => (hget key s').trans hs) rfl
  induction steps generalizing s with
  | nil => rfl
  | cons step rest ih =>
      have hcases := step.perform_cases s
      generalize hout : step.perform s = out at hcases
      cases hcases with
      | unwritten refusal _ =>
          rw [progress_cons_error (by rw [hout]), hout]
          exact hseen step s
      | refused refusal e err hedit herr =>
          rw [progress_cons_error (by rw [hout]), hout]
          exact (hrefused e _ err herr).trans (hseen step s)
      | kept hedit =>
          rw [progress_cons_ok (by rw [hout]), hout]
          rw [ih, List.filterMap_cons_none hedit]
      | written e hedit _ hok =>
          rw [progress_cons_ok (by rw [hout]), hout]
          rw [ih, List.filterMap_cons_some hedit, List.foldl_cons, haccepted e _ hok, hseen]

/-- **What single reads and writes keep, applying keeps**, whether it goes well or not. -/
theorem apply_invariant {I : σ → Prop} (hget : ∀ key s, I s → I (ConfigStore.get key s).2)
    (hedit : ∀ (e : Edit) s, I s → I (e.perform s).2) (d : Document) (r : Report) {s : σ} (h : I s) :
    I (apply d r s).store := by
  cases hagenda : Agenda.of? d r with
  | error e =>
      rw [apply, hagenda]
      exact h
  | ok agenda =>
      have hforward := progress_invariant hget hedit agenda.steps h
      cases hrefusal : (progress agenda.steps s).refusal with
      | none =>
          rw [apply_store_of_ok hagenda hrefusal]
          exact hforward
      | some refusal =>
          rw [(apply_of_refusal hagenda hrefusal).2]
          exact replay_invariant hedit _ hforward

end AnyStore

/-! ## Writes of several places -/

/-- Writes of distinct places do not get in each other's way. -/
theorem at?_foldl_run {es : List Edit} (h : (es.map Edit.slot).Nodup) (c : Contents) (slot : Slot) :
    (es.foldl Edit.run c).at? slot =
      match es.find? (·.slot == slot) with
      | some e => e.content?
      | none => c.at? slot := by
  induction es generalizing c with
  | nil => rfl
  | cons e rest ih =>
      rw [List.map_cons, List.nodup_cons] at h
      rw [List.foldl_cons, ih h.2, Edit.at?_run, List.find?_cons]
      by_cases hslot : e.slot = slot
      · have habsent : rest.find? (·.slot == slot) = none := find?_eq_none_of_not_mem (hslot ▸ h.1)
        simp only [habsent, hslot, beq_self_eq_true, if_true]
      · simp only [beq_false_of_ne hslot, if_neg hslot]

/-! ## Stores with contents -/

section ContentStore

variable {σ : Type} [ConfigStore σ] [ContentStore σ]

open ContentStore (contents)

theorem Step.contents_seen (step : Step) (s : σ) : contents (step.seen s) = contents s :=
  step.seen_invariant (I := (contents · = contents s))
    (fun key s' hs => (ContentStore.get_contents key s').trans hs) rfl

/-- What a forward pass leaves are the contents with the writes of the steps it has done. -/
theorem contents_progress (steps : List Step) (s : σ) :
    contents (progress steps s).store
      = ((progress steps s).done.filterMap Step.edit?).foldl Edit.run (contents s) :=
  kept_progress ContentStore.get_contents ContentStore.edit_accepted ContentStore.edit_refused steps s

/-- **Each place that a journal is about is restored, unless its undo fails**; all others stay as they are. -/
theorem at?_replay {journal : List Undo} (h : (journal.map fun u => u.edit.slot).Nodup) (s : σ) (slot : Slot) :
    (contents (replay journal s).2).at? slot =
      match journal.find? (·.edit.slot == slot) with
      | some u => if u ∈ (replay journal s).1.map (·.1) then (contents s).at? slot else u.edit.content?
      | none => (contents s).at? slot := by
  induction journal generalizing s with
  | nil => rfl
  | cons u rest ih =>
      rw [List.map_cons, List.nodup_cons] at h
      -- places are distinct, so that this undo is not among the later ones and its failure is not theirs
      have hnotin : u ∉ rest := fun hmem => h.1 (List.mem_map_of_mem hmem)
      have hnot : ∀ s : σ, u ∉ (replay rest s).1.map (·.1) := fun s hmem =>
        hnotin ((failures_sublist rest s).subset hmem)
      have habsent : u.edit.slot = slot → rest.find? (·.edit.slot == slot) = none := fun hslot =>
        find?_eq_none_of_not_mem (hslot ▸ h.1)
      rw [List.find?_cons]
      cases hperform : (u.edit.perform s).1 with
      | ok _ =>
          rw [replay_cons_ok hperform, ih h.2, ContentStore.edit_accepted u.edit s hperform, Edit.at?_run]
          by_cases hslot : u.edit.slot = slot
          · simp only [habsent hslot, hslot, beq_self_eq_true, if_true, if_neg (hnot _)]
          · simp only [beq_false_of_ne hslot, if_neg hslot]
      | error err =>
          rw [replay_cons_error hperform, ih h.2, ContentStore.edit_refused u.edit s err hperform]
          by_cases hslot : u.edit.slot = slot
          · simp [habsent hslot, hslot]
          · simp only [beq_false_of_ne hslot, List.map_cons, List.mem_cons]
            cases hfind : rest.find? (·.edit.slot == slot) with
            | none => rfl
            | some x =>
                have hne : x ≠ u := fun heq => hnotin (heq ▸ List.mem_of_find?_eq_some hfind)
                simp only [hne, false_or]

/-- A replay without failures makes all its writes. -/
theorem contents_replay {journal : List Undo} {s : σ} (h : (replay journal s).1 = []) :
    contents (replay journal s).2 = (journal.map Undo.edit).foldl Edit.run (contents s) := by
  induction journal generalizing s with
  | nil => rfl
  | cons u rest ih =>
      cases hperform : (u.edit.perform s).1 with
      | ok _ =>
          rw [replay_cons_ok hperform] at h ⊢
          rw [ih h, List.map_cons, List.foldl_cons, ContentStore.edit_accepted u.edit s hperform]
      | error err =>
          rw [replay_cons_error hperform] at h
          cases h

/-- A step is only done if it fits the contents, unless there is nothing to check about it. -/
theorem Step.fits_of_expected {step : Step} {s : σ} (hfeature : ∀ record previous outcome,
    step = .putFeature record previous outcome → step.Fits (contents s)) (h : step.Expected s) :
    step.Fits (contents s) := by
  cases step with
  | setParam c =>
      have hvalue := ContentStore.get_answer c.key s _ h
      rw [Fits, slot, Contents.at?, ← hvalue]
      rfl
  | putFeature record previous outcome => exact hfeature record previous outcome rfl

end ContentStore

/-! ## The steps of a document -/

/-- A valid document writes to no place twice. -/
theorem Document.Valid.slots_nodup {d : Document} (h : d.Valid) (params : TextMap) (records : List FeatureRecord) :
    ((d.stepsIn params records).map Step.slot).Nodup := by
  have hsets : ((d.params.filter (·.dueIn params)).map Step.setParam).map Step.slot
      = ((d.params.filter (·.dueIn params)).map (·.key)).map Slot.param := by
    simp only [List.map_map]
    rfl
  have hputs : (d.features.map (·.stepIn records)).map Step.slot = (d.features.map (·.id)).map Slot.feature := by
    simp only [List.map_map]
    apply List.map_congr_left
    intro c _
    exact congrArg Slot.feature (c.id_wanted records)
  rw [stepsIn, List.map_append, hsets, hputs]
  refine List.Nodup.append ?_ ?_ ?_
  · have hkeys : ((d.params.filter (·.dueIn params)).map (·.key)).Nodup :=
      h.keys_nodup.sublist (List.filter_sublist.map _)
    exact hkeys.map fun a b hab => Slot.param.inj hab
  · exact h.ids_nodup.map fun a b hab => Slot.feature.inj hab
  · rw [List.disjoint_left]
    intro slot hset hput
    obtain ⟨key, -, rfl⟩ := List.mem_map.1 hset
    obtain ⟨id, -, hid⟩ := List.mem_map.1 hput
    cases hid

/-- The steps that a document comes to fit what it was measured against. -/
theorem Document.stepsIn_fit (d : Document) (c : Contents) : ∀ step ∈ d.stepsIn c.params c.features, step.Fits c := by
  intro step hstep
  rcases List.mem_append.1 hstep with hset | hput
  · obtain ⟨change, hchange, rfl⟩ := List.mem_map.1 hset
    have hdue := (List.mem_filter.1 hchange).2
    rw [ParamChange.dueIn, beq_iff_eq] at hdue
    rw [Step.Fits, Step.slot, Contents.at?, hdue]
    rfl
  · obtain ⟨change, -, rfl⟩ := List.mem_map.1 hput
    rw [Step.Fits, FeatureChange.stepIn, Step.slot, Contents.at?, change.id_wanted]
    rfl

end GuardedPatch
