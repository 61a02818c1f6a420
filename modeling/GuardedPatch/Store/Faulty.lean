import GuardedPatch.Store.Basic

set_option autoImplicit false

/-! # Stores with faults

Any store can be put behind faults: keys that cannot be read, calls that always fail, and keys that take only so
many writes. A write budget counts attempts, also those that the store behind it would refuse, and is checked
first. This is how the ways out of a failing run are exercised. -/

namespace GuardedPatch

/-- Calls that can be made to fail as a whole. -/
inductive FailingCall
  | listFeatures
  | beginRun
  | commit
  | rollback
deriving DecidableEq

/-- The word for a failing call. -/
def FailingCall.name : FailingCall → String
  | .listFeatures => "list_features"
  | .beginRun => "begin_run"
  | .commit => "commit"
  | .rollback => "rollback"

/-- The failing call that a word stands for. -/
def FailingCall.ofName? (s : String) : Option FailingCall :=
  [FailingCall.listFeatures, .beginRun, .commit, .rollback].find? (·.name == s)

/-- A store behind faults. -/
structure Faulty (σ : Type) where
  inner : σ
  /-- How many writes each of these keys still takes. -/
  budgets : List (String × Nat)
  failing : List FailingCall
  /-- Keys that cannot be read. -/
  unreadable : List String

/-- Spends one write of a key's budget. -/
def spend (key : String) : List (String × Nat) → List (String × Nat)
  | [] => []
  | (k, n) :: rest => if k = key then (k, n - 1) :: rest else (k, n) :: spend key rest

namespace Faulty

variable {σ : Type}

/-- A store behind no faults. -/
def ofStore (s : σ) : Faulty σ := ⟨s, [], [], []⟩

/-- Passes a call on to the store behind the faults. -/
def pass {α : Type} (call : StoreCall σ α) : StoreCall (Faulty σ) α := fun s =>
  let (a, inner) := call s.inner
  (a, { s with inner })

/-- Passes a call on, unless it is one that fails. -/
def passUnless {α : Type} (f : FailingCall) (call : StoreCall σ α) : StoreCall (Faulty σ) α := fun s =>
  if f ∈ s.failing then (.error (.backend (f.name ++ " failed")), s) else pass call s

/-- Passes a write on, if the key's budget allows it. -/
def passWrite (key : String) (call : StoreCall σ Unit) : StoreCall (Faulty σ) Unit := fun s =>
  match s.budgets.lookup key with
  | some 0 => (.error (.rejected key "write budget exhausted"), s)
  | some _ => pass call { s with budgets := spend key s.budgets }
  | none => pass call s

instance [ConfigStore σ] : ConfigStore (Faulty σ) where
  get key := fun s =>
    if key ∈ s.unreadable then (.error (.backend "get failed"), s) else pass (ConfigStore.get key) s
  set key value := passWrite key (ConfigStore.set key value)
  listParams := pass ConfigStore.listParams
  listFeatures := passUnless .listFeatures ConfigStore.listFeatures
  upsertFeature r := passWrite r.id (ConfigStore.upsertFeature r)
  removeFeature id := passWrite id (ConfigStore.removeFeature id)
  beginRun := passUnless .beginRun ConfigStore.beginRun
  endRun commit := passUnless (if commit then .commit else .rollback) (ConfigStore.endRun commit)

end Faulty

end GuardedPatch
