import GuardedPatch.Proofs.Records
import GuardedPatch.Proofs.TextMap
import GuardedPatch.Store.Faulty
import GuardedPatch.Store.Memory

set_option autoImplicit false

/-! # Contents of a store

What a store is there to keep are its parameters and its records in their order. Of each write that a run makes we
say what it does to such contents (`Edit.run`), and that it does it at one place only (`Edit.at?_run`).

Stores differ in what they refuse. All that is asked of one here is that a write that it accepts does to its contents
what the write says, and that a write that it refuses does nothing to them (`ContentStore`). A store in memory is of
this kind, and so is such a store behind faults, however its write budgets are spent. -/

namespace GuardedPatch

/-- What a store is there to keep. -/
structure Contents where
  params : TextMap
  features : List FeatureRecord

/-- A place in the contents of a store. -/
inductive Slot
  | param (key : String)
  | feature (id : String)
deriving DecidableEq

/-- The key or the id of a place. -/
def Slot.name : Slot → String
  | .param key => key
  | .feature id => id

/-- What there can be at a place. -/
inductive Content
  | value (text : String)
  | record (r : FeatureRecord)
deriving DecidableEq

/-- What there is at a place. -/
def Contents.at? (c : Contents) : Slot → Option Content
  | .param key => (c.params.get? key).map .value
  | .feature id => (recordAt? c.features id).map .record

/-! ## Edits -/

/-- A write that a run makes. -/
inductive Edit
  | setParam (key value : String)
  | putRecord (r : FeatureRecord)
  | dropRecord (id : String)

namespace Edit

/-- The place that a write is about. -/
def slot : Edit → Slot
  | .setParam key _ => .param key
  | .putRecord r => .feature r.id
  | .dropRecord id => .feature id

/-- What a write leaves at its place. -/
def content? : Edit → Option Content
  | .setParam _ value => some (.value value)
  | .putRecord r => some (.record r)
  | .dropRecord _ => none

/-- What a write does to contents. -/
def run (c : Contents) : Edit → Contents
  | .setParam key value => { c with params := c.params.insert key value }
  | .putRecord r => { c with features := replaceOrAppend r c.features }
  | .dropRecord id => { c with features := c.features.filter (·.id != id) }

/-- The call that makes a write. -/
def perform {σ : Type} [ConfigStore σ] : Edit → StoreCall σ Unit
  | .setParam key value => ConfigStore.set key value
  | .putRecord r => ConfigStore.upsertFeature r
  | .dropRecord id => ConfigStore.removeFeature id

/-- **A write changes its own place and no other one.** -/
theorem at?_run (c : Contents) (e : Edit) (slot : Slot) :
    (e.run c).at? slot = if e.slot = slot then e.content? else c.at? slot := by
  cases e with
  | setParam key value =>
      cases slot with
      | param k =>
          simp only [run, Contents.at?, Edit.slot, content?, TextMap.get?_insert, Slot.param.injEq]
          by_cases h : k = key
          · rw [if_pos h, if_pos h.symm, Option.map_some]
          · rw [if_neg h, if_neg (Ne.symm h)]
      | feature id => rfl
  | putRecord r =>
      cases slot with
      | param k => rfl
      | feature id =>
          simp only [run, Contents.at?, Edit.slot, content?, recordAt?_replaceOrAppend, Slot.feature.injEq]
          split <;> rfl
  | dropRecord id' =>
      cases slot with
      | param k => rfl
      | feature id =>
          simp only [run, Contents.at?, Edit.slot, content?, recordAt?_removed, Slot.feature.injEq]
          split <;> rfl

end Edit

/-! ## Stores with contents -/

/-- A store whose writes do to its contents what they say, or nothing if they are refused; reading changes nothing
    and does not lie. -/
class ContentStore (σ : Type) [ConfigStore σ] where
  contents : σ → Contents
  get_contents : ∀ key s, contents (ConfigStore.get key s).2 = contents s
  get_answer : ∀ key s value, (ConfigStore.get key s).1 = .ok value → value = (contents s).params.get? key
  edit_accepted : ∀ (e : Edit) s, (e.perform s).1 = .ok () → contents (e.perform s).2 = e.run (contents s)
  edit_refused : ∀ (e : Edit) s err, (e.perform s).1 = .error err → contents (e.perform s).2 = contents s

namespace MemoryStore

/-- The contents of a store in memory. -/
def contents (s : MemoryStore) : Contents := ⟨s.params, s.features⟩

/-- A store in memory refuses the writes to its locked names and makes all others. -/
theorem perform_edit (e : Edit) (s : MemoryStore) :
    e.perform s =
      if e.slot.name ∈ s.locked then (.error (lockedError e.slot.name), s)
      else (.ok (), { s with params := (e.run s.contents).params, features := (e.run s.contents).features }) := by
  cases e <;> rfl

instance : ContentStore MemoryStore where
  contents := contents
  get_contents _ _ := rfl
  get_answer _ _ _ h := (Except.ok.inj h).symm
  edit_accepted e s h := by
    rw [perform_edit] at h ⊢
    split_ifs at h ⊢
    rfl
  edit_refused e s err h := by
    rw [perform_edit] at h ⊢
    split_ifs at h ⊢
    rfl

end MemoryStore

namespace Faulty

variable {σ : Type} [ConfigStore σ]

/-- Behind faults, a write is made if its name's budget allows it. -/
theorem perform_edit (e : Edit) (s : Faulty σ) : e.perform s = passWrite e.slot.name e.perform s := by
  cases e <;> rfl

instance [ContentStore σ] : ContentStore (Faulty σ) where
  contents s := ContentStore.contents s.inner
  get_contents key s := by
    show ContentStore.contents (if key ∈ s.unreadable then _ else _ : Except StoreError _ × Faulty σ).2.inner = _
    split_ifs
    · rfl
    · exact ContentStore.get_contents key s.inner
  get_answer key s value h := by
    replace h : (if key ∈ s.unreadable then _ else _ : Except StoreError _ × Faulty σ).1 = .ok value := h
    split_ifs at h
    exact ContentStore.get_answer key s.inner value h
  edit_accepted e s h := by
    rw [perform_edit, passWrite] at h ⊢
    split at h
    · cases h
    · exact ContentStore.edit_accepted e s.inner h
    · exact ContentStore.edit_accepted e s.inner h
  edit_refused e s err h := by
    rw [perform_edit, passWrite] at h ⊢
    split at h
    · rfl
    · exact ContentStore.edit_refused e s.inner err h
    · exact ContentStore.edit_refused e s.inner err h

end Faulty

end GuardedPatch
