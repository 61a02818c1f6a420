import GuardedPatch.Store.Table

set_option autoImplicit false

/-! # Databases with outages

A statement can fail for a reason that is not in the database: the file cannot be read, the disk is full, another
connection holds a lock. Then nothing of it is done, and its error is passed on. The rules of a database do not tell
of this, since the same statement may go well at one time and fail at another one; so here the statements to come meet
outages in the order of a list.

A write through the calls of a run is two statements, the look-up of the lock and the write itself, and either one
may fail. A commit that fails may leave its transaction open, as one that fails by the rules may. Rolling back does not
fail. -/

namespace GuardedPatch

/-- A store whose open transaction, if there is one, cannot be committed. -/
def TableStore.spoiled (message : String) (s : TableStore) : TableStore :=
  { s with database.transaction := s.database.transaction.map ({ · with violation := some message }) }

/-- A store over a database whose statements may meet outages. -/
structure UnsteadyStore where
  store : TableStore
  /-- What the statements to come meet, in order. Those after the last one meet nothing. -/
  outages : List (Option String)

namespace UnsteadyStore

/-- A store without outages. -/
def ofStore (s : TableStore) : UnsteadyStore := ⟨s, []⟩

/-- Makes a call that takes no statement, or one that does not fail. -/
def pass {α : Type} (call : StoreCall TableStore α) : StoreCall UnsteadyStore α := fun s =>
  let (a, store) := call s.store
  (a, { s with store })

/-- Makes a call that is one statement, or what becomes of it in an outage. -/
def statement {α : Type} (call : StoreCall TableStore α) (failing : String → StoreCall TableStore α) :
    StoreCall UnsteadyStore α := fun s =>
  match s.outages with
  | some message :: outages => pass (failing message) { s with outages }
  | outages => pass call { s with outages := outages.tail }

/-- What becomes of most statements in an outage: nothing but the error. -/
def fails {α : Type} (message : String) : StoreCall TableStore α := fun s => (.error (.backend message), s)

/-- Looks up whether a row is locked, and does a write to it if it is not. -/
def unlessLocked (name : String) (locked : TableStore → Bool) (w : Write) : StoreCall UnsteadyStore Unit := fun s =>
  match statement (fun t => (.ok (locked t), t)) fails s with
  | (.error e, s) => (.error e, s)
  | (.ok isLocked, s) =>
    if isLocked then (.error (lockedError name), s)
    else statement (TableStore.unlessLocked name false w) fails s

/-- Opens a run, if there is none. -/
def openRun : StoreCall UnsteadyStore Unit := fun s =>
  if s.store.inRun then pass TableStore.openRun s else statement TableStore.openRun fails s

/-- Closes the run, if there is one. -/
def closeRun (commit : Bool) : StoreCall UnsteadyStore Unit := fun s =>
  if !s.store.inRun then (.ok (), s)
  else if commit then
    statement TableStore.commitRun (fun message s => TableStore.commitRun (s.spoiled message)) s
  else pass TableStore.abandonRun s

instance : ConfigStore UnsteadyStore where
  get key := statement (ConfigStore.get key) fails
  set key value := unlessLocked key (fun t => (t.paramRow? key).any (·.locked)) (.putParam key value)
  listParams := statement ConfigStore.listParams fails
  listFeatures := statement ConfigStore.listFeatures fails
  upsertFeature r := unlessLocked r.id (fun t => (t.featureRow? r.id).any (·.locked)) (.putFeature r)
  removeFeature id := unlessLocked id (fun t => (t.featureRow? id).any (·.locked)) (.removeFeature id)
  beginRun := openRun
  endRun := closeRun

end UnsteadyStore

end GuardedPatch
