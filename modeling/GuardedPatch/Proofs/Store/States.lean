import GuardedPatch.Proofs.Store.Transaction

set_option autoImplicit false

/-! # States of a database

A database has its tables, and while a transaction is open it can bring back those that were saved (`Database.Keeps`).
Opening a transaction saves the present tables, and ending it leaves the present or the saved ones, whichever way it
ends. So a call makes no state that was not there before, but for a write that goes through, which makes one; and a
write of a run only goes through at a place that is not locked (`TableStore.keeps_edit`). What holds of all states of
a database before a run, and is not touched by such writes, then holds of all states afterwards. -/

namespace GuardedPatch

namespace Database

/-- The tables are these, or would be once the open transaction is rolled back. -/
def Keeps (db : Database) (t : Tables) : Prop :=
  t = db.tables ∨ ∃ transaction, db.transaction = some transaction ∧ t = transaction.saved

variable {db : Database} {t : Tables}

theorem keeps_tables (db : Database) : db.Keeps db.tables :=
  .inl rfl

/-- **A write makes one state**, if it goes through. -/
theorem keeps_execute {w : Write} (h : (db.execute w).2.Keeps t) : db.Keeps t ∨ t = db.tables.write w := by
  obtain ⟨transaction, hmade, hkept⟩ | ⟨message, hrefused⟩ := execute_cases w db
  · rw [hmade] at h
    obtain hwritten | ⟨after, hafter, hsaved⟩ := h
    · exact .inr hwritten
    · obtain rfl : transaction = some after := hafter
      obtain ⟨before, hbefore, heq⟩ := Option.map_eq_some_iff.1 hkept.symm
      exact .inl (.inr ⟨before, hbefore, hsaved.trans heq.symm⟩)
  · rw [hrefused] at h
    exact .inl h

theorem keeps_openTransaction (h : db.openTransaction.2.Keeps t) : db.Keeps t := by
  unfold openTransaction at h
  cases htransaction : db.transaction with
  | some transaction =>
      simp only [htransaction] at h
      exact h
  | none =>
      simp only [htransaction] at h
      obtain hpresent | ⟨transaction, hopened, hsaved⟩ := h
      · exact .inl hpresent
      · cases hopened
        exact .inl hsaved

theorem keeps_rollBack (h : db.rollBack.2.Keeps t) : db.Keeps t := by
  unfold rollBack at h
  cases htransaction : db.transaction with
  | none =>
      simp only [htransaction] at h
      exact h
  | some transaction =>
      simp only [htransaction] at h
      obtain hback | ⟨transaction', hended, -⟩ := h
      · exact .inr ⟨transaction, htransaction, hback⟩
      · cases hended

theorem keeps_commit (h : db.commit.2.Keeps t) : db.Keeps t := by
  unfold commit at h
  cases htransaction : db.transaction with
  | none =>
      simp only [htransaction] at h
      exact h
  | some transaction =>
      simp only [htransaction] at h
      cases hviolation : transaction.violation with
      | none =>
          simp only [hviolation] at h
          obtain hpresent | ⟨transaction', hended, -⟩ := h
          · exact .inl hpresent
          · cases hended
      | some message =>
          simp only [hviolation] at h
          split_ifs at h
          · exact keeps_rollBack h
          · exact h

end Database

namespace TableStore

variable {s : TableStore} {t : Tables}

theorem keeps_abandonRun (h : (abandonRun s).2.database.Keeps t) : s.database.Keeps t := by
  have hback : (abandonRun s).2.database = s.database.rollBack.2 := by
    unfold abandonRun
    split <;> next heq => rw [heq]
  rw [hback] at h
  exact Database.keeps_rollBack h

theorem keeps_openRun (h : (openRun s).2.database.Keeps t) : s.database.Keeps t := by
  unfold openRun at h
  split_ifs at h
  · exact h
  · have hopen := @Database.keeps_openTransaction s.database t
    generalize s.database.openTransaction = out at h hopen
    obtain ⟨answer, db⟩ := out
    cases answer <;> exact hopen h

theorem keeps_commitRun (h : (commitRun s).2.database.Keeps t) : s.database.Keeps t := by
  have hcommit := @Database.keeps_commit s.database t
  unfold commitRun at h
  generalize s.database.commit = out at h hcommit
  obtain ⟨answer, db⟩ := out
  cases answer with
  | ok _ => exact hcommit h
  | error message =>
      simp only at h
      split_ifs at h
      · exact hcommit h
      · have hback := @keeps_abandonRun { s with database := db } t
        generalize abandonRun { s with database := db } = out at h hback
        obtain ⟨answer, s'⟩ := out
        cases answer <;> exact hcommit (hback h)

theorem keeps_closeRun {commit : Bool} (h : (closeRun commit s).2.database.Keeps t) : s.database.Keeps t := by
  unfold closeRun at h
  split_ifs at h
  · exact h
  · exact keeps_commitRun h
  · exact keeps_abandonRun h

/-- **A write of a run makes one state, at a place that is not locked.** -/
theorem keeps_edit {e : Edit} (h : (e.perform s).2.database.Keeps t) :
    s.database.Keeps t ∨ (s.lockedAt e.slot = false ∧ t = s.tables.write e.toWrite) := by
  rw [perform_edit, unlessLocked] at h
  split_ifs at h with hlocked
  · exact .inl h
  · exact (Database.keeps_execute h).imp_right fun hwritten => ⟨Bool.eq_false_iff.2 hlocked, hwritten⟩

end TableStore

end GuardedPatch
