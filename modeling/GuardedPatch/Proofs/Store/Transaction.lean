import GuardedPatch.Proofs.Store.Contents
import GuardedPatch.Store.Table

set_option autoImplicit false

/-! # Units of work over a database

A run on a store over a database is one transaction, and the flag of the store and the transaction of the database are
in step: both are off between runs (`TableStore.Idle`), and both are on within one, the transaction holding the tables
as they were when the run began (`TableStore.Within`). Reading and writing keep a run going, whatever becomes of a
write. There are two ways out. Dropping the run brings the store back as it was (`TableStore.abandonRun_of_within`);
keeping it either leaves the tables as they have been written, or brings the store back as it was, if the database
does not commit (`TableStore.commitRun_of_within`). -/

namespace GuardedPatch

/-- The write to a database that a write of a run is. -/
def Edit.toWrite : Edit → Write
  | .setParam key value => .putParam key value
  | .putRecord r => .putFeature r
  | .dropRecord id => .removeFeature id

/-- **A write is made, or nothing happens.** The tables that an open transaction has saved stay in either case; all that
    it may learn from a write is that it cannot be committed. -/
theorem Database.execute_cases (w : Write) (db : Database) :
    (∃ transaction, db.execute w = (.ok (), ⟨db.tables.write w, transaction, db.rules⟩)
        ∧ transaction.map (·.saved) = db.transaction.map (·.saved))
      ∨ ∃ message, db.execute w = (.error message, db) := by
  rw [execute]
  cases hjudge : db.rules.judge w with
  | accepted => exact .inl ⟨db.transaction, rfl, rfl⟩
  | refused message => exact .inr ⟨message, rfl⟩
  | deferred message =>
      cases htransaction : db.transaction with
      | some t => exact .inl ⟨some { t with violation := some message }, rfl, rfl⟩
      | none => exact .inr ⟨message, rfl⟩

namespace TableStore

/-- No run is open, neither for the store nor for its database. -/
structure Idle (s : TableStore) : Prop where
  inRun : s.inRun = false
  transaction : s.database.transaction = none

/-- A run is open that began on another store. -/
structure Within (start s : TableStore) : Prop where
  inRun : s.inRun = true
  rules : s.database.rules = start.database.rules
  saved : ∃ t, s.database.transaction = some t ∧ t.saved = start.tables

/-! ## Writing -/

/-- Whether the row at a place is locked. -/
def lockedAt (s : TableStore) : Slot → Bool
  | .param key => (s.paramRow? key).any (·.locked)
  | .feature id => (s.featureRow? id).any (·.locked)

theorem perform_edit (e : Edit) (s : TableStore) :
    e.perform s = unlessLocked e.slot.name (s.lockedAt e.slot) e.toWrite s := by
  cases e <;> rfl

/-- A write that goes well is made; one that fails leaves the store as it is. -/
theorem execute_cases (w : Write) (s : TableStore) :
    ((s.execute w).1 = .ok () ∧ (s.execute w).2.tables = s.tables.write w)
      ∨ ∃ message, s.execute w = (.error message, s) := by
  rw [execute]
  obtain ⟨transaction, hmade, -⟩ | ⟨message, hrefused⟩ := Database.execute_cases w s.database
  · rw [hmade]
    exact .inl ⟨rfl, rfl⟩
  · rw [hrefused]
    exact .inr ⟨message, rfl⟩

theorem perform_cases (e : Edit) (s : TableStore) :
    ((e.perform s).1 = .ok () ∧ (e.perform s).2.tables = s.tables.write e.toWrite)
      ∨ ∃ err, e.perform s = (.error err, s) := by
  rw [perform_edit, unlessLocked]
  split_ifs
  · exact .inr ⟨_, rfl⟩
  · rcases execute_cases e.toWrite s with ⟨hok, htables⟩ | ⟨message, herror⟩
    · refine .inl ⟨?_, htables⟩
      show (s.execute e.toWrite).1.mapError StoreError.backend = .ok ()
      rw [hok]
      rfl
    · refine .inr ⟨.backend message, ?_⟩
      rw [herror]
      rfl

/-- Locking stops at the first of its writes, or goes on from there to the second one. -/
theorem setLocked_cases (key : String) (locked : Bool) (s : TableStore) :
    (∃ message, s.execute (.lockParam key locked) = (.error message, s)
        ∧ s.setLocked key locked = (.error (ownerError message), s))
      ∨ ((s.execute (.lockParam key locked)).1 = .ok ()
        ∧ (s.setLocked key locked).2
          = ((s.execute (.lockParam key locked)).2.execute (.lockFeature key locked)).2) := by
  rcases execute_cases (.lockParam key locked) s with ⟨hok, -⟩ | ⟨message, herror⟩
  · refine .inr ⟨hok, ?_⟩
    rw [setLocked]
    generalize s.execute (.lockParam key locked) = out at hok
    obtain ⟨answer, s'⟩ := out
    obtain rfl : answer = .ok () := hok
    rfl
  · refine .inl ⟨message, herror, ?_⟩
    rw [setLocked, herror]

theorem tables_of_accepted (e : Edit) (s : TableStore) (h : (e.perform s).1 = .ok ()) :
    (e.perform s).2.tables = s.tables.write e.toWrite := by
  rcases perform_cases e s with ⟨-, htables⟩ | ⟨err, herror⟩
  · exact htables
  · rw [herror] at h
    cases h

theorem tables_of_refused (e : Edit) (s : TableStore) (err : StoreError) (h : (e.perform s).1 = .error err) :
    (e.perform s).2.tables = s.tables := by
  rcases perform_cases e s with ⟨hok, -⟩ | ⟨err', herror⟩
  · rw [hok] at h
    cases h
  · rw [herror]

/-! ## Within a run -/

theorem Within.execute {start s : TableStore} (h : Within start s) (w : Write) : Within start (s.execute w).2 := by
  obtain ⟨t, htransaction, hsaved⟩ := h.saved
  rw [TableStore.execute]
  obtain ⟨transaction, hmade, hkept⟩ | ⟨message, hrefused⟩ := Database.execute_cases w s.database
  · rw [htransaction, Option.map_some] at hkept
    obtain ⟨t', ht', hsaved'⟩ := Option.map_eq_some_iff.1 hkept
    rw [hmade]
    exact ⟨h.inRun, h.rules, t', ht', hsaved'.trans hsaved⟩
  · rw [hrefused]
    exact h

/-- **A write keeps a run going**, whether it is made or not. -/
theorem Within.perform {start s : TableStore} (h : Within start s) (e : Edit) : Within start (e.perform s).2 := by
  rw [perform_edit, unlessLocked]
  split_ifs
  · exact h
  · exact h.execute e.toWrite

/-! ## Opening and closing -/

/-- A run that is open is not left for another one. -/
theorem openRun_of_inRun {s : TableStore} (h : s.inRun = true) :
    openRun s = (.error (.backend "a run is already in progress on this store"), s) :=
  if_pos h

theorem openRun_of_idle {s : TableStore} (h : s.Idle) :
    (openRun s).1 = .ok () ∧ Within s (openRun s).2 ∧ (openRun s).2.tables = s.tables := by
  have hopen : openRun s = (.ok (), ⟨{ s.database with transaction := some ⟨s.database.tables, none⟩ }, true⟩) := by
    simp only [openRun, h.inRun, Database.openTransaction, h.transaction]
    rfl
  rw [hopen]
  exact ⟨rfl, ⟨rfl, rfl, _, rfl, rfl⟩, rfl⟩

/-- Without a run there is nothing to close. -/
theorem closeRun_of_not_inRun {s : TableStore} (h : s.inRun = false) (commit : Bool) :
    closeRun commit s = (.ok (), s) := by
  rw [closeRun, h]
  rfl

theorem closeRun_of_within {start s : TableStore} (h : Within start s) (commit : Bool) :
    closeRun commit s = if commit then commitRun s else abandonRun s := by
  rw [closeRun, h.inRun]
  rfl

/-- **Dropping a run brings the store back as it was.** -/
theorem abandonRun_of_within {start s : TableStore} (hstart : start.Idle) (h : Within start s) :
    abandonRun s = (.ok (), start) := by
  obtain ⟨t, htransaction, hsaved⟩ := h.saved
  obtain ⟨⟨tables, transaction, rules⟩, inRun⟩ := start
  obtain rfl : inRun = false := hstart.inRun
  obtain rfl : transaction = none := hstart.transaction
  obtain rfl : t.saved = tables := hsaved
  obtain rfl : s.database.rules = rules := h.rules
  simp only [abandonRun, Database.rollBack, htransaction]

/-- **Keeping a run leaves its tables, or brings the store back as it was.** -/
theorem commitRun_of_within {start s : TableStore} (hstart : start.Idle) (h : Within start s) :
    ((commitRun s).1 = .ok () ∧ (commitRun s).2.Idle ∧ (commitRun s).2.tables = s.tables)
      ∨ ∃ err, commitRun s = (.error err, start) := by
  obtain ⟨t, htransaction, hsaved⟩ := h.saved
  cases hviolation : t.violation with
  | none =>
      have hcommit : commitRun s = (.ok (), ⟨{ s.database with transaction := none }, false⟩) := by
        simp only [commitRun, Database.commit, htransaction, hviolation]
      rw [hcommit]
      exact .inl ⟨rfl, ⟨rfl, rfl⟩, rfl⟩
  | some message =>
      have hback := abandonRun_of_within hstart h
      refine .inr ⟨.backend message, ?_⟩
      cases hends : s.database.rules.failedCommitEnds with
      | true =>
          -- the failed commit has ended the transaction
          have hrolled : (⟨s.database.rollBack.2, false⟩ : TableStore) = start := by
            simp only [abandonRun, Database.rollBack, htransaction, Prod.mk.injEq, true_and] at hback
            simp only [Database.rollBack, htransaction, hback]
          have hended : s.database.rollBack.2.transaction.isNone = true := by
            simp only [Database.rollBack, htransaction, Option.isNone_none]
          simp only [commitRun, Database.commit, htransaction, hviolation, hends, if_true, hended, hrolled]
      | false =>
          -- the transaction is still open, and rolled back after all
          simp only [commitRun, Database.commit, htransaction, hviolation, hends, Bool.false_eq_true, if_false,
            Option.isNone_some, hback]

end TableStore

end GuardedPatch
