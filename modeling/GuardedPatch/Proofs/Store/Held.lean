import GuardedPatch.Proofs.Store.Rows
import GuardedPatch.Proofs.Store.States
import Mathlib.Data.Set.Defs

set_option autoImplicit false

/-! # Records that a store holds

A store gives back what was put into it. It may lose records, refuse them, or bring back older ones when a run is
dropped, but it never makes one up (`RecordStore`): what it holds after a call it held before, or the call has put it
in. Stores in memory are of this kind, and stores over a database, whatever its rules are, and both of them behind
faults.

Over a database, what is held is what can be read from the rows of any of its states, the saved ones included
(`Database.yields_iff`). A row may also be unreadable; a write leaves no such row that was not there before. -/

namespace GuardedPatch

/-! ## Rows -/

/-- What reading the feature rows gives, row by row. -/
def Tables.readings (t : Tables) : List (Except StoreError FeatureRecord) :=
  t.features.map TableStore.readRecord

theorem Tables.readings_write {t : Tables} {w : Write} {a : Except StoreError FeatureRecord}
    (h : a ∈ (t.write w).readings) : a ∈ t.readings ∨ ∃ r, w = .putFeature r ∧ a = .ok r := by
  obtain ⟨row, hrow, rfl⟩ := List.mem_map.1 h
  cases w with
  | putParam key value => exact .inl h
  | putFeature r =>
      replace hrow : row ∈ putFeatureRow r t.features := hrow
      rw [putFeatureRow_eq] at hrow
      rcases mem_putKeyed hrow with rfl | ⟨old, -, hid, rfl⟩ | hold
      · exact .inr ⟨r, rfl, readRecord_rowAt r _⟩
      · refine .inr ⟨r, rfl, ?_⟩
        rw [readRecord_holding, hid]
      · exact .inl (List.mem_map_of_mem hold)
  | removeFeature id => exact .inl (List.mem_map_of_mem (List.mem_filter.1 hrow).1)
  | lockParam key locked => exact .inl h
  | lockFeature id locked =>
      -- a lock is not part of the record
      obtain ⟨old, hold, rfl⟩ := List.mem_map.1 hrow
      refine .inl (List.mem_map.2 ⟨old, hold, ?_⟩)
      split <;> rfl

/-! ## Databases -/

namespace Database

/-- A row gives this when it is read, now or once the open transaction is rolled back. -/
def Yields (db : Database) (a : Except StoreError FeatureRecord) : Prop :=
  a ∈ db.tables.readings ∨ ∃ t, db.transaction = some t ∧ a ∈ t.saved.readings

variable {db : Database} {a : Except StoreError FeatureRecord}

/-- What can be read is in some state of the database. -/
theorem yields_iff : db.Yields a ↔ ∃ t, db.Keeps t ∧ a ∈ t.readings := by
  constructor
  · rintro (h | ⟨transaction, htransaction, h⟩)
    · exact ⟨_, db.keeps_tables, h⟩
    · exact ⟨_, .inr ⟨transaction, htransaction, rfl⟩, h⟩
  · rintro ⟨_, rfl | ⟨transaction, htransaction, rfl⟩, h⟩
    · exact .inl h
    · exact .inr ⟨transaction, htransaction, h⟩

/-- A database that has no more states has no more to be read. -/
theorem Yields.of_keeps {before : Database} (h : db.Yields a) (hkeeps : ∀ t, db.Keeps t → before.Keeps t) :
    before.Yields a := by
  obtain ⟨t, hstate, ha⟩ := yields_iff.1 h
  exact yields_iff.2 ⟨t, hkeeps t hstate, ha⟩

theorem yields_of_durable (h : a ∈ db.durable.readings) : db.Yields a := by
  rw [durable] at h
  split at h
  · next t htransaction => exact .inr ⟨t, htransaction, h⟩
  · exact .inl h

/-- **A write gives nothing new to read but the record that it puts in.** -/
theorem yields_execute {w : Write} (h : (db.execute w).2.Yields a) :
    db.Yields a ∨ ∃ r, w = .putFeature r ∧ a = .ok r := by
  obtain ⟨t, hkeeps, ha⟩ := yields_iff.1 h
  obtain hold | rfl := keeps_execute hkeeps
  · exact .inl (yields_iff.2 ⟨t, hold, ha⟩)
  · exact (Tables.readings_write ha).imp_left .inl

end Database

namespace TableStore

variable {s : TableStore} {a : Except StoreError FeatureRecord}

theorem yields_openRun (h : (openRun s).2.database.Yields a) : s.database.Yields a :=
  h.of_keeps fun _ => keeps_openRun

theorem yields_closeRun {commit : Bool} (h : (closeRun commit s).2.database.Yields a) : s.database.Yields a :=
  h.of_keeps fun _ => keeps_closeRun

/-- **A write of a run gives nothing new to read but the record that it puts in.** -/
theorem yields_edit {e : Edit} (h : (e.perform s).2.database.Yields a) :
    s.database.Yields a ∨ ∃ r, e = .putRecord r ∧ a = .ok r := by
  obtain ⟨t, hkeeps, ha⟩ := Database.yields_iff.1 h
  obtain hold | ⟨-, rfl⟩ := keeps_edit hkeeps
  · exact .inl (Database.yields_iff.2 ⟨t, hold, ha⟩)
  · obtain hold | ⟨r, hput, rfl⟩ := Tables.readings_write ha
    · exact .inl (.inl hold)
    · cases e with
      | putRecord r' =>
          cases hput
          exact .inr ⟨r, rfl, rfl⟩
      | setParam key value => cases hput
      | dropRecord id => cases hput

/-- What is listed was read from rows. -/
theorem yields_of_features {records : List FeatureRecord} (h : s.features = .ok records) :
    ∀ r ∈ records, s.database.Yields (.ok r) := by
  intro r hr
  obtain ⟨row, hrow, hread⟩ := (readRecords_eq_ok_iff.1 h).row_of_mem hr
  exact .inl (List.mem_map.2 ⟨row, (listed_perm _).mem_iff.1 hrow, hread⟩)

end TableStore

/-! ## Stores -/

/-- A store that holds records, and holds none after a call that it did not hold before, except for the one that was
put in. -/
class RecordStore (σ : Type) [ConfigStore σ] where
  /-- The records that the store holds, those included that it would bring back if its run was dropped. -/
  held : σ → Set FeatureRecord
  get_held : ∀ key s, ∀ r ∈ held (ConfigStore.get key s).2, r ∈ held s
  list_held : ∀ s, ∀ r ∈ held (ConfigStore.listFeatures s).2, r ∈ held s
  listed_held : ∀ s records, (ConfigStore.listFeatures s).1 = .ok records → ∀ r ∈ records, r ∈ held s
  edit_held : ∀ (e : Edit) s, ∀ r ∈ held (e.perform s).2, r ∈ held s ∨ e = .putRecord r
  beginRun_held : ∀ s, ∀ r ∈ held (ConfigStore.beginRun s).2, r ∈ held s
  endRun_held : ∀ commit s, ∀ r ∈ held (ConfigStore.endRun commit s).2, r ∈ held s

instance : RecordStore MemoryStore where
  held s := {r | r ∈ s.features}
  get_held _ _ _ h := h
  list_held _ _ h := h
  listed_held s records hlist r hr := by
    cases hlist
    exact hr
  edit_held e s r h := by
    rw [MemoryStore.perform_edit] at h
    split_ifs at h
    · exact .inl h
    · cases e with
      | setParam key value => exact .inl h
      | putRecord r' =>
          replace h : r ∈ replaceOrAppend r' s.features := h
          rw [replaceOrAppend_eq] at h
          rcases mem_putKeyed h with rfl | ⟨-, -, -, rfl⟩ | hold
          · exact .inr rfl
          · exact .inr rfl
          · exact .inl hold
      | dropRecord id => exact .inl (List.mem_filter.1 h).1
  beginRun_held _ _ h := h
  endRun_held _ _ _ h := h

instance : RecordStore TableStore where
  held s := {r | s.database.Yields (.ok r)}
  get_held _ _ _ h := h
  list_held _ _ h := h
  listed_held _ _ h := TableStore.yields_of_features h
  edit_held e s r h := by
    rcases TableStore.yields_edit h with hold | ⟨r', rfl, hput⟩
    · exact .inl hold
    · cases hput
      exact .inr rfl
  beginRun_held _ _ h := TableStore.yields_openRun h
  endRun_held _ _ _ h := TableStore.yields_closeRun h

namespace Faulty

variable {σ : Type}

/-- A call that may fail reaches the store behind the faults, or it does not. -/
theorem inner_passUnless {α : Type} (f : FailingCall) (call : StoreCall σ α) (s : Faulty σ) :
    (passUnless f call s).2.inner = s.inner ∨ (passUnless f call s).2.inner = (call s.inner).2 := by
  unfold passUnless
  split_ifs
  · exact .inl rfl
  · exact .inr rfl

/-- So does a write. -/
theorem inner_passWrite (key : String) (call : StoreCall σ Unit) (s : Faulty σ) :
    (passWrite key call s).2.inner = s.inner ∨ (passWrite key call s).2.inner = (call s.inner).2 := by
  unfold passWrite
  split
  · exact .inl rfl
  · exact .inr rfl
  · exact .inr rfl

variable [ConfigStore σ] [RecordStore σ]

theorem held_of_passUnless {α : Type} {f : FailingCall} {call : StoreCall σ α}
    (hcall : ∀ s, ∀ r ∈ RecordStore.held (call s).2, r ∈ RecordStore.held s) (s : Faulty σ) :
    ∀ r ∈ RecordStore.held (passUnless f call s).2.inner, r ∈ RecordStore.held s.inner := by
  intro r hr
  rcases inner_passUnless f call s with heq | heq <;> rw [heq] at hr
  · exact hr
  · exact hcall s.inner r hr

instance : RecordStore (Faulty σ) where
  held s := RecordStore.held s.inner
  get_held key s r h := by
    replace h : r ∈ RecordStore.held (if key ∈ s.unreadable then _ else _ : Except StoreError _ × Faulty σ).2.inner := h
    split_ifs at h
    · exact h
    · exact RecordStore.get_held key s.inner r h
  list_held := held_of_passUnless RecordStore.list_held
  listed_held s records h := by
    replace h : (if _ ∈ s.failing then _ else _ : Except StoreError _ × Faulty σ).1 = .ok records := h
    split_ifs at h
    exact RecordStore.listed_held s.inner records h
  edit_held e s r h := by
    rw [perform_edit] at h
    rcases inner_passWrite e.slot.name e.perform s with heq | heq <;> rw [heq] at h
    · exact .inl h
    · exact RecordStore.edit_held e s.inner r h
  beginRun_held := held_of_passUnless RecordStore.beginRun_held
  endRun_held commit := held_of_passUnless (RecordStore.endRun_held commit)

end Faulty

end GuardedPatch
