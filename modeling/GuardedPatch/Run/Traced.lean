import GuardedPatch.Log.Event

set_option autoImplicit false

/-! # Traced activities

Working on a store gives three things at once: an answer, the store after it, and the events that happened
meanwhile. A failing activity gives all three as well, so that nothing that was done to the store is lost sight of. -/

namespace GuardedPatch

/-- What an activity on a store gave. -/
structure Traced (σ α : Type) where
  answer : Except PatchError α
  store : σ
  events : List Log.Event

namespace Traced

variable {σ α β : Type}

/-- An answer that took nothing. -/
def pure (a : α) (s : σ) : Traced σ α := ⟨.ok a, s, []⟩

/-- A failure that took nothing. -/
def fail (e : PatchError) (s : σ) : Traced σ α := ⟨.error e, s, []⟩

/-- Goes on after an activity that went well. -/
def andThen (t : Traced σ α) (next : α → σ → Traced σ β) : Traced σ β :=
  match t.answer with
  | .ok a =>
    let u := next a t.store
    { u with events := t.events ++ u.events }
  | .error e => ⟨.error e, t.store, t.events⟩

/-- Puts events in front. -/
def after (events : List Log.Event) (t : Traced σ α) : Traced σ α :=
  { t with events := events ++ t.events }

/-- Changes the answer. -/
def map (f : α → β) (t : Traced σ α) : Traced σ β :=
  { t with answer := t.answer.map f }

end Traced

end GuardedPatch
