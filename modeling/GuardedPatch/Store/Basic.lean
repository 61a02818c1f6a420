import GuardedPatch.Error
import GuardedPatch.Patch.Change

set_option autoImplicit false

/-! # Stores

A store holds parameters and feature records. Everything that is done to it goes through a few calls, each of which
gives an answer and the store after it; a call that fails may still have changed the store. A run brackets its
writes by `beginRun` and `endRun`, so that a store can keep them as one unit of work. -/

namespace GuardedPatch

/-- A call to a store: its answer, and the store after it. -/
abbrev StoreCall (σ α : Type) := σ → Except StoreError α × σ

/-- The calls that every store answers. -/
class ConfigStore (σ : Type) where
  /-- The value of a parameter, if there is one. -/
  get : String → StoreCall σ (Option String)
  /-- Gives a parameter a value, whether it had one or not. -/
  set : String → String → StoreCall σ Unit
  /-- All parameters by key. -/
  listParams : StoreCall σ (List (String × String))
  /-- All feature records in the store's order. -/
  listFeatures : StoreCall σ (List FeatureRecord)
  /-- Inserts a record, or puts it in the place of the one with its id. -/
  upsertFeature : FeatureRecord → StoreCall σ Unit
  /-- Removes the record with an id. -/
  removeFeature : String → StoreCall σ Unit
  /-- Opens a unit of work. -/
  beginRun : StoreCall σ Unit
  /-- Closes the unit of work, keeping its writes or dropping them. -/
  endRun : Bool → StoreCall σ Unit

/-- The error of a write to a locked key. -/
def lockedError (key : String) : StoreError :=
  .rejected key "key is locked"

/-- A store of either of two kinds. -/
instance {α β : Type} [ConfigStore α] [ConfigStore β] : ConfigStore (α ⊕ β) :=
  let either {γ : Type} (f : StoreCall α γ) (g : StoreCall β γ) : StoreCall (α ⊕ β) γ
    | .inl a => (f a).map id .inl
    | .inr b => (g b).map id .inr
  { get := fun key => either (ConfigStore.get key) (ConfigStore.get key)
    set := fun key value => either (ConfigStore.set key value) (ConfigStore.set key value)
    listParams := either ConfigStore.listParams ConfigStore.listParams
    listFeatures := either ConfigStore.listFeatures ConfigStore.listFeatures
    upsertFeature := fun r => either (ConfigStore.upsertFeature r) (ConfigStore.upsertFeature r)
    removeFeature := fun id => either (ConfigStore.removeFeature id) (ConfigStore.removeFeature id)
    beginRun := either ConfigStore.beginRun ConfigStore.beginRun
    endRun := fun commit => either (ConfigStore.endRun commit) (ConfigStore.endRun commit) }

end GuardedPatch
