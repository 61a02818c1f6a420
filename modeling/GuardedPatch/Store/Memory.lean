import GuardedPatch.Store.Basic

set_option autoImplicit false

/-! # Stores in memory

A store in memory keeps parameters by key, feature records in the order in which their ids came, and a set of locked
keys. A locked key refuses every write, whether it names a parameter or a feature. Units of work have no effect
here: what is written is written. -/

namespace GuardedPatch

/-- Puts a record in the place of the first one with its id, or at the end if there is none. -/
def replaceOrAppend (r : FeatureRecord) : List FeatureRecord → List FeatureRecord
  | [] => [r]
  | x :: rest => if x.id = r.id then r :: rest else x :: replaceOrAppend r rest

/-- A store in memory. -/
structure MemoryStore where
  params : TextMap
  features : List FeatureRecord
  locked : List String
deriving DecidableEq

namespace MemoryStore

/-- The store with nothing in it. -/
def empty : MemoryStore := ⟨.empty, [], []⟩

/-- A store with these parameters. -/
def ofParams (params : List (String × String)) : MemoryStore :=
  ⟨.ofList params, [], []⟩

/-- Puts a feature record into the store, whatever is locked. -/
def insertFeature (s : MemoryStore) (r : FeatureRecord) : MemoryStore :=
  { s with features := replaceOrAppend r s.features }

/-- Locks a key. -/
def lock (s : MemoryStore) (key : String) : MemoryStore :=
  { s with locked := key :: s.locked }

/-- Does a write to a key, unless it is locked. -/
def unlessLocked (key : String) (write : MemoryStore → MemoryStore) : StoreCall MemoryStore Unit := fun s =>
  if key ∈ s.locked then (.error (lockedError key), s) else (.ok (), write s)

instance : ConfigStore MemoryStore where
  get key := fun s => (.ok (s.params.get? key), s)
  set key value := unlessLocked key fun s => { s with params := s.params.insert key value }
  listParams := fun s => (.ok s.params.entries, s)
  listFeatures := fun s => (.ok s.features, s)
  upsertFeature r := unlessLocked r.id fun s => s.insertFeature r
  removeFeature id := unlessLocked id fun s => { s with features := s.features.filter (·.id != id) }
  beginRun := fun s => (.ok (), s)
  endRun _ := fun s => (.ok (), s)

end MemoryStore

end GuardedPatch
