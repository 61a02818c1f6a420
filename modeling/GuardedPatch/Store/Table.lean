import GuardedPatch.Store.Basic
import GuardedPatch.Store.Database

set_option autoImplicit false

/-! # Stores in a database

A store over a database refuses writes to locked rows. A parameter is guarded by the lock of its own row and a
feature by that of its own; a name without a row is not locked. A run is one transaction, and there is one run at a
time. The owner of the store writes past the locks. -/

namespace GuardedPatch

/-- A store over a database. -/
structure TableStore where
  database : Database
  /-- Whether a run is in progress. -/
  inRun : Bool

namespace TableStore

/-- A store with these contents and no run. -/
def ofTables (tables : Tables) (rules : Rules) : TableStore := ⟨.ofTables tables rules, false⟩

/-- The rows of the store. -/
def tables (s : TableStore) : Tables := s.database.tables

/-! ## Reading -/

/-- The row of a parameter. -/
def paramRow? (s : TableStore) (key : String) : Option ParamRow :=
  s.tables.params.find? (·.key == key)

/-- The row of a feature. -/
def featureRow? (s : TableStore) (id : String) : Option FeatureRow :=
  s.tables.features.find? (·.id == id)

/-- Parameters with their values, by key. -/
def params (s : TableStore) : TextMap :=
  .ofList (s.tables.params.map fun r => (r.key, r.value))

/-- The record in a row. -/
def readRecord (r : FeatureRow) : Except StoreError FeatureRecord :=
  match Json.readFields r.fields with
  | .ok fields => .ok ⟨r.id, r.type, fields⟩
  | .error message => .error (.backend ("corrupt fields for feature " ++ r.id ++ ": " ++ message))

/-- The records in rows; the first one that cannot be read is reported. -/
def readRecords : List FeatureRow → Except StoreError (List FeatureRecord)
  | [] => .ok []
  | r :: rest => do
    let record ← readRecord r
    return record :: (← readRecords rest)

/-- All records in the order of the listing. -/
def features (s : TableStore) : Except StoreError (List FeatureRecord) :=
  readRecords (listed s.tables.features)

/-! ## Writing -/

/-- Does a write, whatever is locked. -/
def execute (w : Write) (s : TableStore) : Except String Unit × TableStore :=
  let (a, database) := s.database.execute w
  (a, { s with database })

/-- Does a write to a name, unless its row is locked. -/
def unlessLocked (name : String) (locked : Bool) (w : Write) : StoreCall TableStore Unit := fun s =>
  if locked then (.error (lockedError name), s)
  else
    let (a, s) := s.execute w
    (a.mapError .backend, s)

/-- Opens a run, if there is none. -/
def openRun : StoreCall TableStore Unit := fun s =>
  if s.inRun then (.error (.backend "a run is already in progress on this store"), s)
  else
    match s.database.openTransaction with
    | (.ok _, database) => (.ok (), ⟨database, true⟩)
    | (.error message, database) => (.error (.backend message), ⟨database, false⟩)

/-- Takes back what the run wrote. -/
def abandonRun : StoreCall TableStore Unit := fun s =>
  match s.database.rollBack with
  | (.ok _, database) => (.ok (), ⟨database, false⟩)
  | (.error message, database) => (.error (.backend message), { s with database })

/-- Keeps what the run wrote; if that fails, it is taken back. -/
def commitRun : StoreCall TableStore Unit := fun s =>
  match s.database.commit with
  | (.ok _, database) => (.ok (), ⟨database, false⟩)
  | (.error message, database) =>
    if database.transaction.isNone then (.error (.backend message), ⟨database, false⟩)
    else
      match abandonRun { s with database } with
      | (.ok _, s) => (.error (.backend message), s)
      | (.error e, s) => (.error e, s)

/-- Closes the run, if there is one. -/
def closeRun (commit : Bool) : StoreCall TableStore Unit := fun s =>
  if !s.inRun then (.ok (), s) else if commit then commitRun s else abandonRun s

instance : ConfigStore TableStore where
  get key := fun s => (.ok ((s.paramRow? key).map (·.value)), s)
  set key value := fun s => unlessLocked key ((s.paramRow? key).any (·.locked)) (.putParam key value) s
  listParams := fun s => (.ok s.params.entries, s)
  listFeatures := fun s => (s.features, s)
  upsertFeature r := fun s => unlessLocked r.id ((s.featureRow? r.id).any (·.locked)) (.putFeature r) s
  removeFeature id := fun s => unlessLocked id ((s.featureRow? id).any (·.locked)) (.removeFeature id) s
  beginRun := openRun
  endRun := closeRun

/-! ## The owner's calls -/

/-- The error of a write that does not go through the calls of a run. -/
def ownerError (message : String) : PatchError :=
  .persistence ("sqlite: " ++ message)

/-- Gives a parameter a value, whether it is locked or not. -/
def putParam (key value : String) (s : TableStore) : Except PatchError Unit × TableStore :=
  let (a, s) := s.execute (.putParam key value)
  (a.mapError ownerError, s)

/-- Inserts or replaces a feature, whether it is locked or not. -/
def putFeature (r : FeatureRecord) (s : TableStore) : Except PatchError Unit × TableStore :=
  let (a, s) := s.execute (.putFeature r)
  (a.mapError ownerError, s)

/-- Locks or unlocks the parameter of a name, and then its feature; answers whether there is any. These are two writes,
so that the first one may be made although the second one fails. -/
def setLocked (key : String) (locked : Bool) (s : TableStore) : Except PatchError Bool × TableStore :=
  let found := (s.paramRow? key).isSome || (s.featureRow? key).isSome
  match s.execute (.lockParam key locked) with
  | (.error message, s) => (.error (ownerError message), s)
  | (.ok _, s) =>
    let (a, s) := s.execute (.lockFeature key locked)
    ((a.map fun _ => found).mapError ownerError, s)

end TableStore

end GuardedPatch
