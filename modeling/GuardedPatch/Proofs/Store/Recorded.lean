import GuardedPatch.Proofs.Store.Contents

set_option autoImplicit false

/-! # Recorded stores

Any store can be put behind a recorder, which passes every call on and writes down what was called and whether it
went well. The calls of a run on a store are what a recorder in front of that store has in the end. -/

namespace GuardedPatch

/-- A call to a store. -/
inductive Call
  | get (key : String)
  | set (key value : String)
  | listParams
  | listFeatures
  | upsertFeature (r : FeatureRecord)
  | removeFeature (id : String)
  | beginRun
  | endRun (commit : Bool)
deriving DecidableEq

namespace Call

/-- Whether a call reads parameters or features. -/
def isRead : Call → Bool
  | .get _ | .listParams | .listFeatures => true
  | _ => false

/-- Whether a call writes parameters or features. -/
def isWrite : Call → Bool
  | .set _ _ | .upsertFeature _ | .removeFeature _ => true
  | _ => false

/-- Whether a call looks up a parameter or writes, which is all that is done within a run. -/
def isWork : Call → Bool
  | .get _ => true
  | c => c.isWrite

theorem isWrite_of_isRead {c : Call} (h : c.isRead = true) : c.isWrite = false := by
  cases c <;> first | rfl | cases h

end Call

/-- A call that was issued. -/
structure Issued where
  call : Call
  /-- Whether the store's answer was no error. -/
  ok : Bool
deriving DecidableEq

/-- A store behind a recorder. -/
structure Recorded (σ : Type) where
  inner : σ
  /-- What was issued so far, in order. -/
  calls : List Issued

namespace Recorded

variable {σ α : Type}

/-- A store with nothing recorded yet. -/
def start (s : σ) : Recorded σ := ⟨s, []⟩

/-- Passes a call on and records it. -/
def note (call : Call) (pass : StoreCall σ α) : StoreCall (Recorded σ) α := fun s =>
  ((pass s.inner).1, ⟨(pass s.inner).2, s.calls ++ [⟨call, (pass s.inner).1.isOk⟩]⟩)

instance [ConfigStore σ] : ConfigStore (Recorded σ) where
  get key := note (.get key) (ConfigStore.get key)
  set key value := note (.set key value) (ConfigStore.set key value)
  listParams := note .listParams ConfigStore.listParams
  listFeatures := note .listFeatures ConfigStore.listFeatures
  upsertFeature r := note (.upsertFeature r) (ConfigStore.upsertFeature r)
  removeFeature id := note (.removeFeature id) (ConfigStore.removeFeature id)
  beginRun := note .beginRun ConfigStore.beginRun
  endRun commit := note (.endRun commit) (ConfigStore.endRun commit)

end Recorded

/-- The call that makes a write. -/
def Edit.call : Edit → Call
  | .setParam key value => .set key value
  | .putRecord r => .upsertFeature r
  | .dropRecord id => .removeFeature id

theorem Recorded.perform_edit {σ : Type} [ConfigStore σ] (e : Edit) (s : Recorded σ) :
    e.perform s = note e.call e.perform s := by
  cases e <;> rfl

end GuardedPatch
