import GuardedPatch.Files.Host
import GuardedPatch.Files.Path
import GuardedPatch.Store.DatabaseFile

set_option autoImplicit false

/-! # Described worlds

A world is everything that a command can see and change, as a value: a tree of files, the text given to the command,
the environment, and the id of the next run. Files are bytes, which may be those of a database, or stores that were
opened before. A path is followed part by part, and whatever it goes on from has to be a directory; only where a store
is kept is read off the path's text. -/

namespace GuardedPatch

open Files (Fault)

/-- What can be at a place. -/
inductive Node
  | file (bytes : ByteArray)
  | directory
  | store (image : StoreImage)

/-- The files below a directory, each at the names that lead to it. -/
abbrev Tree := List (List String × Node)

/-- The text in bytes. -/
def readBytes (bytes : ByteArray) : Except Fault String :=
  match String.fromUTF8? bytes with
  | some text => .ok text
  | none => .error .notText

namespace Tree

/-- What is at a place. -/
def node? (t : Tree) (place : List String) : Option Node :=
  if place.isEmpty then some .directory else t.lookup place

/-- Puts something at a place. -/
def put (t : Tree) (place : List String) (node : Node) : Tree :=
  (place, node) :: t.filter (·.1 != place)

/-- Whether there is a directory at a place. -/
def isDirectory (t : Tree) (place : List String) : Bool :=
  match t.node? place with
  | some .directory => true
  | _ => false

/-- The place that the parts of a path lead to from a place, whether there is anything or not. -/
def follow (t : Tree) (place : List String) : List String → Except Fault (List String)
  | [] => .ok place
  | p :: rest =>
    match t.node? place with
    | none => .error .absent
    | some .directory =>
      t.follow (if p = "" ∨ p = "." then place else if p = ".." then place.dropLast else place ++ [p]) rest
    | some _ => .error .notDirectory

/-- The text in the file at a path. -/
def readText (t : Tree) (path : String) : Except Fault String := do
  match t.node? (← t.follow [] (Files.parts path)) with
  | none => .error .absent
  | some .directory => .error .isDirectory
  | some (.store _) => .error .notText
  | some (.file bytes) => readBytes bytes

/-- Whether there is anything at a path. -/
def isThere (t : Tree) (path : String) : Bool :=
  match t.follow [] (Files.parts path) with
  | .ok place => (t.node? place).isSome
  | .error _ => false

/-- Makes a directory in one that is there. -/
def makeDirectory (t : Tree) (steps : List String) : Except Fault Tree := do
  let place ← t.follow [] steps
  match t.node? place with
  | some _ => .error .present
  | none => .ok (t.put place .directory)

/-- Whether the parts of a path lead to a directory. -/
def leadsToDirectory (t : Tree) (steps : List String) : Bool :=
  match t.follow [] steps with
  | .ok place => t.isDirectory place
  | .error _ => false

/-- Makes a directory, and all directories above it unless they are there. The parts of the path are given from the
last one on. -/
def makeDirectories (t : Tree) : List String → Except Fault Tree
  | [] => .ok t
  | p :: above =>
    let steps := (p :: above).reverse
    let settle (t : Tree) : Except Fault Tree → Except Fault Tree
      | .ok t => .ok t
      | .error e => if t.leadsToDirectory steps then .ok t else .error e
    match t.makeDirectory steps with
    | .error .absent => do
      let t ← t.makeDirectories above
      settle t (t.makeDirectory steps)
    | result => settle t result

/-- Opens the store at a path. -/
def openStore (t : Tree) (path : String) : Except String (StoreImage × Tree) :=
  let place := Files.settled path
  let refusal := "unable to open database file: " ++ path
  match t.node? place with
  | some (.store image) => .ok (image, t)
  | some (.file bytes) =>
    if bytes.isEmpty then .ok (.empty, t)
    else match DatabaseFile.image? bytes with
      | some image => .ok (image, t)
      | none => .error "file is not a database"
  | some .directory => .error refusal
  | none => if t.isDirectory place.dropLast then .ok (.empty, t.put place (.store .empty)) else .error refusal

end Tree

/-- All that a command can see and change. -/
structure World where
  tree : Tree
  input : ByteArray
  environment : List (String × String)
  runId : String

instance : Host (StateM World) where
  readText path := do return (← get).tree.readText path
  readInput := do return readBytes (← get).input
  isThere path := do return (← get).tree.isThere path
  makeDirectories path := do
    match (← get).tree.makeDirectories (Files.steps path).reverse with
    | .ok tree => do
      modify ({ · with tree })
      return .ok ()
    | .error fault => return .error fault
  openStore path := do
    match (← get).tree.openStore path with
    | .ok (image, tree) => do
      modify ({ · with tree })
      return .ok image
    | .error message => return .error message
  saveStore path image := modify fun w => { w with tree := w.tree.put (Files.settled path) (.store image) }
  environment name := do return (← get).environment.lookup name
  newRunId := do return (← get).runId

end GuardedPatch
