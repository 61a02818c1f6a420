import GuardedPatch.TextMap

set_option autoImplicit false

/-! # Changes and the records they change

A parameter change says which value a parameter must have, and which one it gets then. A feature change either
overlays fields of a record that must exist already, or creates a record with exactly its fields. -/

namespace GuardedPatch

/-- Give the parameter a new value if it has the expected one. -/
structure ParamChange where
  key : String
  expected : String
  update : String
deriving DecidableEq, Repr

/-- How a feature change comes to its record. -/
inductive FeatureMode
  /-- The record exists; only the listed fields are overwritten. -/
  | find
  /-- A record with exactly the listed fields is inserted, in the place of one with its id. -/
  | create
deriving DecidableEq, Repr

/-- The word for a mode. -/
def FeatureMode.name : FeatureMode → String
  | .find => "find"
  | .create => "create"

/-- The mode that a word stands for. -/
def FeatureMode.ofName? (s : String) : Option FeatureMode :=
  if s = "find" then some .find else if s = "create" then some .create else none

/-- The state that one feature is to have. -/
structure FeatureChange where
  id : String
  /-- Narrows down what `find` accepts; needed to create. -/
  type? : Option String
  mode : FeatureMode
  desired : TextMap
deriving DecidableEq

/-- A feature as a store holds it. -/
structure FeatureRecord where
  id : String
  type : String
  fields : TextMap
deriving DecidableEq

/-- Whether a record is the one that a change looks for. -/
def FeatureChange.selects (c : FeatureChange) (r : FeatureRecord) : Bool :=
  r.id == c.id && c.type?.all (r.type == ·)

/-- Overlays entries on a map, and lists the keys whose value was absent or another one. -/
def overlay (m : TextMap) : List (String × String) → TextMap × List String
  | [] => (m, [])
  | (name, value) :: rest =>
    if m.get? name = some value then overlay m rest
    else
      let (merged, changed) := overlay (m.insert name value) rest
      (merged, name :: changed)

/-- The record with desired values laid over its fields, and the names of the fields that change. -/
def FeatureRecord.mergedWith (r : FeatureRecord) (desired : TextMap) : FeatureRecord × List String :=
  let (fields, changed) := overlay r.fields desired.entries
  ({ r with fields }, changed)

end GuardedPatch
