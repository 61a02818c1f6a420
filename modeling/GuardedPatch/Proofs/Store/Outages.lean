import GuardedPatch.Proofs.Run.Fallible
import GuardedPatch.Proofs.Run.Lockstep
import GuardedPatch.Proofs.Store.Transaction
import GuardedPatch.Store.Outage

set_option autoImplicit false

/-! # Ways to a store over a database

A run on a store over a database is the same whether its calls are made on the store or come to it through a database
with outages. What a run can rely on is said once for both (`OverDatabase`): reads, writes and the opening of a run
go as on the store, or fail and leave it alone; a run that cannot be kept is dropped; and dropping does not fail.
Without outages every call goes as on the store (`UnsteadyStore.steady`). -/

namespace GuardedPatch

/-- A store that is reached as a store over a database. -/
structure OverDatabase {τ : Type} [ConfigStore τ] (view : τ → TableStore) : Prop extends Fallible view where
  beginRun : PassesOrFails view ConfigStore.beginRun TableStore.openRun
  dropRun : ∀ {start : TableStore} {t : τ}, start.Idle → start.Within (view t) →
    (ConfigStore.endRun false t).1 = .ok () ∧ view (ConfigStore.endRun false t).2 = start
  keepRun : ∀ {start : TableStore} {t : τ}, start.Idle → start.Within (view t) →
    ((ConfigStore.endRun true t).1 = .ok () ∧ (view (ConfigStore.endRun true t).2).Idle
        ∧ (view (ConfigStore.endRun true t).2).tables = (view t).tables)
      ∨ ∃ err, (ConfigStore.endRun true t).1 = .error err ∧ view (ConfigStore.endRun true t).2 = start

/-! ## The store itself -/

namespace TableStore

theorem overDatabase : OverDatabase fun s : TableStore => s where
  toFallible := .self
  beginRun _ := .inl ⟨rfl, rfl⟩
  dropRun {start s} hstart hwithin := by
    have hdrop : ConfigStore.endRun false s = (.ok (), start) :=
      (closeRun_of_within hwithin false).trans (abandonRun_of_within hstart hwithin)
    rw [hdrop]
    exact ⟨rfl, rfl⟩
  keepRun {start s} hstart hwithin := by
    have hkeep : ConfigStore.endRun true s = commitRun s := closeRun_of_within hwithin true
    rw [hkeep]
    rcases commitRun_of_within hstart hwithin with hkept | ⟨err, herror⟩
    · exact .inl hkept
    · rw [herror]
      exact .inr ⟨err, rfl, rfl⟩

/-- A run goes on when its commit is bound to fail. -/
theorem Within.spoiled {start s : TableStore} (h : start.Within s) (message : String) :
    start.Within (s.spoiled message) := by
  obtain ⟨t, ht, hsaved⟩ := h.saved
  exact ⟨h.inRun, h.rules, _, congrArg (Option.map _) ht, hsaved⟩

end TableStore

/-! ## With outages -/

namespace UnsteadyStore

variable {α : Type}

/-- A statement goes through, or it meets an outage. -/
theorem statement_cases (call : StoreCall TableStore α) (failing : String → StoreCall TableStore α)
    (s : UnsteadyStore) :
    ((statement call failing s).1 = (call s.store).1 ∧ (statement call failing s).2.store = (call s.store).2)
      ∨ ∃ message, (statement call failing s).1 = (failing message s.store).1
        ∧ (statement call failing s).2.store = (failing message s.store).2 := by
  obtain ⟨store, outages⟩ := s
  match outages with
  | some message :: _ => exact .inr ⟨message, rfl, rfl⟩
  | none :: _ => exact .inl ⟨rfl, rfl⟩
  | [] => exact .inl ⟨rfl, rfl⟩

theorem passesOrFails_statement (call : StoreCall TableStore α) :
    PassesOrFails store (statement call fails) call := by
  intro s
  rcases statement_cases call fails s with hpassed | ⟨message, hfailed⟩
  · exact .inl hpassed
  · exact .inr ⟨_, hfailed⟩

/-- A write to a row fails at the look-up of its lock, or is refused, or is a statement of its own. -/
theorem passesOrFails_unlessLocked (name : String) (locked : TableStore → Bool) (w : Write) :
    PassesOrFails store (unlessLocked name locked w) fun t => TableStore.unlessLocked name (locked t) w t := by
  intro s
  have hlook := passesOrFails_statement (fun t => (.ok (locked t), t)) s
  rw [unlessLocked]
  generalize statement (fun t => (.ok (locked t), t)) fails s = out at hlook
  obtain ⟨answer, s'⟩ := out
  rcases hlook with ⟨hanswer, hsame⟩ | ⟨e, hanswer, hsame⟩
  · obtain rfl : answer = .ok (locked s.store) := hanswer
    replace hsame : s'.store = s.store := hsame
    beta_reduce
    cases locked s.store with
    | true => exact .inl ⟨rfl, hsame⟩
    | false =>
        have hwrite := passesOrFails_statement (TableStore.unlessLocked name false w) s'
        rw [hsame] at hwrite
        exact hwrite
  · obtain rfl : answer = .error e := hanswer
    exact .inr ⟨e, rfl, hsame⟩

theorem perform_edit (e : Edit) (s : UnsteadyStore) :
    e.perform s = unlessLocked e.slot.name (·.lockedAt e.slot) e.toWrite s := by
  cases e <;> rfl

theorem passesOrFails_edit (e : Edit) : PassesOrFails store e.perform e.perform := by
  intro s
  rw [perform_edit, TableStore.perform_edit]
  exact passesOrFails_unlessLocked e.slot.name _ e.toWrite s

theorem passesOrFails_openRun : PassesOrFails store openRun TableStore.openRun := by
  intro s
  rw [openRun]
  split_ifs
  · exact .inl ⟨rfl, rfl⟩
  · exact passesOrFails_statement TableStore.openRun s

theorem closeRun_of_within {start : TableStore} {s : UnsteadyStore} (h : start.Within s.store) (commit : Bool) :
    closeRun commit s = if commit
      then statement TableStore.commitRun (fun message s => TableStore.commitRun (s.spoiled message)) s
      else pass TableStore.abandonRun s := by
  rw [closeRun, h.inRun]
  rfl

theorem overDatabase : OverDatabase UnsteadyStore.store where
  get key := passesOrFails_statement (ConfigStore.get key)
  listFeatures := passesOrFails_statement ConfigStore.listFeatures
  edit := passesOrFails_edit
  beginRun := passesOrFails_openRun
  dropRun {start s} hstart hwithin := by
    have hdrop : ConfigStore.endRun false s = pass TableStore.abandonRun s := closeRun_of_within hwithin false
    have hback := TableStore.abandonRun_of_within hstart hwithin
    rw [hdrop, pass, hback]
    exact ⟨rfl, rfl⟩
  keepRun {start s} hstart hwithin := by
    have hkeep : ConfigStore.endRun true s = _ := closeRun_of_within hwithin true
    rw [hkeep, if_pos rfl]
    -- in an outage the commit fails on a run that could have been kept
    rcases statement_cases TableStore.commitRun (fun message s => TableStore.commitRun (s.spoiled message)) s with
      ⟨hanswer, hstore⟩ | ⟨message, hanswer, hstore⟩
    · rw [hanswer, hstore]
      rcases TableStore.commitRun_of_within hstart hwithin with hkept | ⟨err, herror⟩
      · exact .inl hkept
      · rw [herror]
        exact .inr ⟨err, rfl, rfl⟩
    · rw [hanswer, hstore]
      rcases TableStore.commitRun_of_within hstart (hwithin.spoiled message) with hkept | ⟨err, herror⟩
      · exact .inl hkept
      · rw [herror]
        exact .inr ⟨err, rfl, rfl⟩

theorem unlessLocked_ofStore (name : String) (locked : TableStore → Bool) (w : Write) (s : TableStore) :
    unlessLocked name locked w (ofStore s)
      = ((TableStore.unlessLocked name (locked s) w s).1, ofStore (TableStore.unlessLocked name (locked s) w s).2) := by
  show (if locked s then _ else _ : Except StoreError Unit × UnsteadyStore) = _
  cases locked s <;> rfl

/-- **Without outages, calls go as on the store itself.** -/
theorem steady : RunAlike fun (s : TableStore) (t : UnsteadyStore) => t = ofStore s where
  get key s t hst := by
    obtain rfl := hst
    exact ⟨rfl, rfl⟩
  list s t hst := by
    obtain rfl := hst
    exact ⟨.refl _, rfl⟩
  edit e s t hst := by
    obtain rfl := hst
    rw [perform_edit, TableStore.perform_edit, unlessLocked_ofStore]
    exact ⟨rfl, rfl⟩
  beginRun s t hst := by
    obtain rfl := hst
    show (_ = (openRun (ofStore s)).1) ∧ (openRun (ofStore s)).2 = _
    rw [openRun]
    split_ifs <;> exact ⟨rfl, rfl⟩
  endRun commit s t hst := by
    obtain rfl := hst
    cases hrun : s.inRun <;> cases commit <;>
      simp [ConfigStore.endRun, closeRun, TableStore.closeRun, ofStore, statement, pass, hrun]

end UnsteadyStore

end GuardedPatch
