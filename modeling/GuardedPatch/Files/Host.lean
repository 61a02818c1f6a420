import GuardedPatch.Files.Fault
import GuardedPatch.Patch.Load
import GuardedPatch.Store.Image

set_option autoImplicit false

/-! # Hosts

What a command needs from the machine it runs on: reading texts, keeping stores, the environment, and a fresh id for
a run. Commands are written for any host, so that they can be run on real files and looked at on a described world
alike. -/

namespace GuardedPatch

open Files (Fault)

/-- The machine that commands run on. -/
class Host (m : Type → Type) where
  /-- The text in a file. -/
  readText : String → m (Except Fault String)
  /-- The text given to the command itself. -/
  readInput : m (Except Fault String)
  /-- Whether there is anything at a path. -/
  isThere : String → m Bool
  /-- Makes a directory and all directories above it, unless they are there. -/
  makeDirectories : String → m (Except Fault Unit)
  /-- Opens the store at a path, which is an empty one if there is nothing yet. -/
  openStore : String → m (Except String StoreImage)
  /-- Puts an image into the store at a path that was opened. -/
  saveStore : String → StoreImage → m Unit
  /-- The value of an environment variable. -/
  environment : String → m (Option String)
  /-- An id that no other run has. -/
  newRunId : m String

variable {m : Type → Type} [Monad m] [Host m]

/-- The document in a file. -/
def loadFile (path : String) : m (Except PatchError Document) := do
  match ← Host.readText path with
  | .ok text => return (load text).mapError .load
  | .error fault => return .error (.io path fault.message)

end GuardedPatch
