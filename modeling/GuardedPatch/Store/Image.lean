import GuardedPatch.Store.Migration
import GuardedPatch.Store.Table

set_option autoImplicit false

/-! # Store images

An image is all that is kept of a store between two programs: its catalog and its rows. As a file it is a first line
that tells what it is, and then a line for each thing in it, which is a JSON object. -/

namespace GuardedPatch

/-- What is kept of a store. -/
structure StoreImage where
  catalog : Catalog
  tables : Tables
deriving DecidableEq, Repr

namespace StoreImage

/-- The image of a new database. -/
def empty : StoreImage := ⟨.ofTables [], .empty⟩

/-- The image, brought to the current schema. -/
def migrate (image : StoreImage) : Except PatchError Unit × StoreImage :=
  let (answer, catalog) := image.catalog.migrate
  (answer, { image with catalog })

/-- A store with the contents of an image. -/
def toStore (image : StoreImage) : TableStore := .ofTables image.tables .none

/-- The image with the contents of a store. What an open transaction wrote is not part of it. -/
def withStore (image : StoreImage) (s : TableStore) : StoreImage :=
  { image with tables := s.database.durable }

/-! ## As a file -/

/-- The first line of a file. -/
def signature : String := "guarded-patch-store"

/-- The text for a flag. -/
def flagText (b : Bool) : String := if b then "yes" else "no"

/-- The line for a thing of some kind. -/
def line (kind : String) (fields : List (String × String)) : String :=
  Json.writeFields (.ofList (("kind", kind) :: fields))

/-- The lines of an image. -/
def lines (image : StoreImage) : List String :=
  signature :: image.catalog.tables.map (fun name => line "table" [("name", name)])
    ++ image.catalog.indexes.map (fun name => line "index" [("name", name)])
    ++ (if image.catalog.recorded.isSome then [line "recording" []] else [])
    ++ (image.catalog.recorded.getD []).map (fun (id, sum) => line "migration" [("id", id), ("checksum", sum)])
    ++ image.tables.params.map (fun r =>
      line "param" [("key", r.key), ("value", r.value), ("locked", flagText r.locked)])
    ++ image.tables.features.map fun r =>
      line "feature" [("id", r.id), ("type", r.type), ("position", toString r.position), ("fields", r.fields),
        ("locked", flagText r.locked)]

/-- An image as a text. -/
def text (image : StoreImage) : String :=
  String.intercalate "\n" image.lines ++ "\n"

/-- The image with what a line says. -/
def addLine (image : StoreImage) (fields : TextMap) : Option StoreImage := do
  match ← fields.get? "kind" with
  | "table" =>
    let name ← fields.get? "name"
    return { image with catalog.tables := image.catalog.tables ++ [name] }
  | "index" =>
    let name ← fields.get? "name"
    return { image with catalog.indexes := image.catalog.indexes ++ [name] }
  | "recording" => return { image with catalog.recorded := some [] }
  | "migration" =>
    let row := (← fields.get? "id", ← fields.get? "checksum")
    return { image with catalog.recorded := some ((← image.catalog.recorded) ++ [row]) }
  | "param" =>
    let row : ParamRow := ⟨← fields.get? "key", ← fields.get? "value", (← fields.get? "locked") == flagText true⟩
    return { image with tables.params := image.tables.params ++ [row] }
  | "feature" =>
    let row : FeatureRow := ⟨← fields.get? "id", ← fields.get? "type", ← (← fields.get? "position").toInt?,
      ← fields.get? "fields", (← fields.get? "locked") == flagText true⟩
    return { image with tables.features := image.tables.features ++ [row] }
  | _ => none

/-- The image with what lines say. -/
def addLines (image : StoreImage) : List String → Option StoreImage
  | [] => some image
  | line :: rest =>
    match Json.readFields line with
    | .ok fields => do (← image.addLine fields).addLines rest
    | .error _ => none

/-- The image that a text is of; an empty text is that of a new database. -/
def ofText? (text : String) : Option StoreImage :=
  match (textLines text.toList).map String.ofList with
  | [] => some empty
  | first :: rest => if first = signature then empty.addLines rest else none

end StoreImage

end GuardedPatch
