import GuardedPatch.Error
import GuardedPatch.Hash.Sha256

set_option autoImplicit false

/-! # Migrations

A database says which migrations it has gone through, each with a checksum of its text, so that a migration that was
edited afterwards is noticed. Migrating records itself in a table of its own, which is made first. Each migration
that is not recorded yet is run as a unit: either everything that it creates is there and it is recorded, or nothing
of it is.

The checksum is taken over the lines of the text, each ended by a line feed, so that it does not depend on how
lines are ended or on whether the last one is. -/

namespace GuardedPatch

/-! ## Checksums -/

/-- The lines of a text without their ends. A line is ended by a line feed, with or without a carriage return
before it. -/
def textLines : List Char → List (List Char)
  | [] => []
  | '\n' :: rest => [] :: textLines rest
  | '\r' :: '\n' :: rest => [] :: textLines rest
  | c :: rest =>
    match textLines rest with
    | [] => [[c]]
    | line :: lines => (c :: line) :: lines

/-- What the checksum of a text is taken over. -/
def checksummed (text : String) : String :=
  String.ofList ((textLines text.toList).flatMap (· ++ ['\n']))

/-- The checksum of a text. -/
def checksum (text : String) : String :=
  Hash.sha256 (checksummed text)

/-! ## Statements -/

/-- What a statement creates. -/
inductive CatalogKind
  | table
  | index
deriving DecidableEq, Repr

/-- A statement that creates something, with the text up to the name and the text after it. -/
structure CreateStatement where
  kind : CatalogKind
  before : String
  name : String
  after : String
deriving DecidableEq, Repr

/-- The text of a statement. -/
def CreateStatement.text (s : CreateStatement) : String :=
  s.before ++ s.name ++ s.after

/-- A change of the schema. -/
structure Migration where
  id : String
  statements : List CreateStatement
deriving DecidableEq, Repr

/-- The text of statements. -/
def scriptText (statements : List CreateStatement) : String :=
  statements.foldr (fun s rest => s.text ++ rest) "\n"

/-- The text of a migration. -/
def Migration.text (m : Migration) : String :=
  scriptText m.statements

/-- The first schema: parameters, features, and an index for listing features. -/
def initialSchema : Migration where
  id := "001_initial_schema"
  statements := [
    { kind := .table
      before := "-- Project parameters owned by the host CI system\nCREATE TABLE "
      name := "params"
      after := " (\n    key TEXT PRIMARY KEY NOT NULL,\n    value TEXT NOT NULL,\n"
        ++ "    locked INTEGER NOT NULL DEFAULT 0,\n    updated_at INTEGER NOT NULL\n);" },
    { kind := .table
      before := "\n\n-- Project features (issue trackers, VCS roots, ...) in listing order\nCREATE TABLE "
      name := "features"
      after := " (\n    id TEXT PRIMARY KEY NOT NULL,\n    feature_type TEXT NOT NULL,\n"
        ++ "    position INTEGER NOT NULL,\n    fields TEXT NOT NULL,\n"
        ++ "    locked INTEGER NOT NULL DEFAULT 0,\n    updated_at INTEGER NOT NULL\n);" },
    { kind := .index
      before := "\n\nCREATE INDEX "
      name := "idx_features_position"
      after := " ON features(position);" }]

/-- All migrations in order. -/
def migrations : List Migration := [initialSchema]

/-! ## Catalogs -/

/-- What is in a database by name. -/
structure Catalog where
  tables : List String
  indexes : List String
  /-- The migrations that are recorded, with their checksums. There is nothing here as long as the table for them is
  not there, or is a table that was made for something else. -/
  recorded : Option (List (String × String))
deriving DecidableEq, Repr

namespace Catalog

/-- A database with these tables, in which nothing was migrated. -/
def ofTables (tables : List String) : Catalog := ⟨tables, [], none⟩

/-- Whether two names mean the same: ASCII letters count in either case. -/
def sameName (a b : String) : Bool :=
  a.toList.map Char.toLower == b.toList.map Char.toLower

/-- Whether there is a table with this name. -/
def hasTable (c : Catalog) (name : String) : Bool :=
  c.tables.any (sameName name)

/-- Whether there is an index with this name. -/
def hasIndex (c : Catalog) (name : String) : Bool :=
  c.indexes.any (sameName name)

/-- Runs a statement at the start of a script; on failure tells why. -/
def create (c : Catalog) (s : CreateStatement) (script : String) : Except String Catalog :=
  match s.kind with
  | .table =>
    if c.hasTable s.name then
      .error ("table " ++ s.name ++ " already exists in " ++ script ++ " at offset "
        ++ toString s.before.utf8ByteSize)
    else if c.hasIndex s.name then .error ("there is already an index named " ++ s.name)
    else .ok { c with tables := c.tables ++ [s.name] }
  | .index =>
    if c.hasTable s.name then .error ("there is already a table named " ++ s.name)
    else if c.hasIndex s.name then .error ("index " ++ s.name ++ " already exists")
    else .ok { c with indexes := c.indexes ++ [s.name] }

/-- Runs the statements of a script, up to the first that fails; what those before it have created stays. -/
def run (c : Catalog) : List CreateStatement → Except String Unit × Catalog
  | [] => (.ok (), c)
  | s :: rest =>
    match c.create s (scriptText (s :: rest)) with
    | .error message => (.error message, c)
    | .ok c => c.run rest

/-- Works on a database in a transaction. If the work fails, the database is again what it was when the transaction was
opened. -/
def inTransaction (work : Catalog → Except PatchError Unit × Catalog) (c : Catalog) : Except PatchError Unit × Catalog :=
  match work c with
  | (.ok _, after) => (.ok (), after)
  | (.error e, _) => (.error e, c)

/-- The name of the table of recorded migrations. -/
def versionTable : String := "schema_version"

/-- Makes the table of recorded migrations, unless there is a table of this name. -/
def withVersionTable (c : Catalog) : Catalog :=
  if c.hasTable versionTable then c else { c with tables := c.tables ++ [versionTable], recorded := some [] }

/-- What the look-up of a recorded checksum says in a table that was made for something else. -/
def foreignVersionTable : String :=
  "sqlite: no such column: checksum in SELECT checksum FROM schema_version WHERE migration_id = ?1 at offset 7"

/-- Runs the statements of a migration and records it. -/
def install (m : Migration) (c : Catalog) : Except PatchError Unit × Catalog :=
  match c.run m.statements with
  | (.error message, c) => (.error (.persistence ("Migration " ++ m.id ++ " failed: " ++ message)), c)
  | (.ok _, c) => (.ok (), { c with recorded := c.recorded.map (· ++ [(m.id, checksum m.text)]) })

/-- Installs a migration that is not recorded; checks the checksum of one that is. -/
def apply (c : Catalog) (m : Migration) : Except PatchError Unit × Catalog :=
  match c.recorded with
  | none => (.error (.persistence foreignVersionTable), c)
  | some recorded =>
    match recorded.lookup m.id with
    | some found =>
      if found = checksum m.text then (.ok (), c)
      else
        (.error (.persistence ("Checksum mismatch for migration " ++ m.id ++ ": recorded " ++ found
          ++ ", embedded " ++ checksum m.text)), c)
    | none => inTransaction (install m) c

/-- Applies migrations in order, up to the first that fails. -/
def applyAll (c : Catalog) : List Migration → Except PatchError Unit × Catalog
  | [] => (.ok (), c)
  | m :: rest =>
    match c.apply m with
    | (.ok _, c) => c.applyAll rest
    | (.error e, c) => (.error e, c)

/-- Brings a database to the current schema. -/
def migrate (c : Catalog) : Except PatchError Unit × Catalog :=
  c.withVersionTable.applyAll migrations

/-- Overwrites all recorded checksums. -/
def overwriteChecksums (c : Catalog) (text : String) : Catalog :=
  { c with recorded := c.recorded.map fun rows => rows.map fun row => (row.1, text) }

end Catalog

end GuardedPatch
