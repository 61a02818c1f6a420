import GuardedPatch.Store.Image

set_option autoImplicit false

/-! # Database files

A database is kept in a file of pages, all of one size. A table is a tree of pages: its rows are in the leaves, and the
bytes of a row that find no room there are on a chain of other pages. A row is a record, which begins with the types of
its values. The first page begins with a header, and is the root of the table that describes what else is in the file.

Read are files in which there is nothing but what migrating creates. Only the table of recorded migrations may have been
made by someone else, with plain columns. Other files are not read, even if they are those of a database. -/

namespace GuardedPatch.DatabaseFile

/-! ## Numbers -/

/-- The number in bytes, of which the first one counts most. -/
def number (bytes : List UInt8) : Nat :=
  bytes.foldl (fun n b => n * 256 + b.toNat) 0

/-- The integer in bytes, which is negative if the first bit is set. -/
def integer (bytes : List UInt8) : Int :=
  let n := number bytes
  let limit := Nat.pow 256 bytes.length
  if 2 * n < limit then n else (n : Int) - limit

/-- A number that tells its own length, and the bytes behind it. Bytes that are not the last one have their first bit
set, and the last one of nine has all of its bits for the number. -/
def varintFrom? (n : Nat) : Nat → List UInt8 → Option (Nat × List UInt8)
  | _, [] => none
  | 0, b :: rest => some (n * 256 + b.toNat, rest)
  | more + 1, b :: rest =>
    if b.toNat < 128 then some (n * 128 + b.toNat, rest)
    else varintFrom? (n * 128 + (b.toNat - 128)) more rest

/-- The number at the start of bytes, and the bytes behind it. -/
def varint? (bytes : List UInt8) : Option (Nat × List UInt8) :=
  varintFrom? 0 8 bytes

/-- The numbers in bytes, of which there are at most so many. -/
def varints? : Nat → List UInt8 → Option (List Nat)
  | _, [] => some []
  | 0, _ :: _ => none
  | count + 1, bytes => do
    let (n, rest) ← varint? bytes
    return n :: (← varints? count rest)

/-! ## Records -/

/-- A value of a record. -/
inductive Value
  | null
  | int (n : Int)
  | text (s : String)
  /-- A floating-point number, or bytes. -/
  | other

/-- How many bytes a value of a type takes. -/
def width (type : Nat) : Nat :=
  if type < 5 then type
  else if type = 5 then 6
  else if type < 8 then 8
  else (type - 12) / 2

/-- The value of a type in its bytes. -/
def value? (type : Nat) (bytes : List UInt8) : Option Value :=
  if type = 0 then some .null
  else if type < 7 then some (.int (integer bytes))
  else if type = 7 then some .other
  else if type < 10 then some (.int (type - 8 : Nat))
  else if type < 12 then none
  else if type % 2 = 0 then some .other
  else (String.fromUTF8? ⟨bytes.toArray⟩).map .text

/-- The values of some types, one behind the other. -/
def values? : List Nat → List UInt8 → Option (List Value)
  | [], _ => some []
  | type :: rest, bytes =>
    if bytes.length < width type then none
    else do return (← value? type (bytes.take (width type))) :: (← values? rest (bytes.drop (width type)))

/-- The values of a record. It begins with the size of its head, which is followed by the types. -/
def record? (bytes : List UInt8) : Option (List Value) := do
  let (size, _) ← varint? bytes
  values? ((← varints? size (bytes.take size)).drop 1) (bytes.drop size)

/-! ## Pages -/

/-- The pages of a file. -/
structure Pages where
  bytes : ByteArray
  /-- The size of a page. -/
  size : Nat
  /-- How much of a page is in use. -/
  usable : Nat

/-- How a file begins. -/
def signature : List UInt8 :=
  "SQLite format 3\x00".toUTF8.toList

/-- The pages of a file of texts in UTF-8. -/
def pages? (bytes : ByteArray) : Option Pages :=
  let header := (bytes.extract 0 100).toList
  let field (start count : Nat) : Nat := number ((header.drop start).take count)
  let size := if field 16 2 = 1 then 65536 else field 16 2
  if header.take 16 = signature ∧ field 56 4 = 1 then some ⟨bytes, size, size - field 20 1⟩ else none

namespace Pages

/-- The page with a number. The first one has the number 1. -/
def page? (f : Pages) (n : Nat) : Option (List UInt8) :=
  if n = 0 ∨ f.bytes.size < n * f.size then none
  else some (f.bytes.extract ((n - 1) * f.size) (n * f.size)).toList

/-- How many bytes of a record stand in the leaf. -/
def sizeInLeaf (f : Pages) (size : Nat) : Nat :=
  let least := (f.usable - 12) * 32 / 255 - 23
  let fitting := least + (size - least) % (f.usable - 4)
  if size ≤ f.usable - 35 then size
  else if fitting ≤ f.usable - 35 then fitting
  else least

/-- The bytes on a chain of pages that begins with a page and has at most so many. Each one names the next one. -/
def chained? (f : Pages) : Nat → Nat → Nat → Option (List UInt8)
  | 0, _, _ => none
  | count + 1, n, size => do
    let page ← f.page? n
    let room := f.usable - 4
    let here := (page.drop 4).take (min size room)
    if size ≤ room then return here
    else return here ++ (← f.chained? count (number (page.take 4)) (size - room))

/-- The row in a cell of a leaf: the size of its record, its own number, and as much of the record as stands here. -/
def row? (f : Pages) (cell : List UInt8) : Option (List Value) := do
  let (size, rest) ← varint? cell
  let (_, rest) ← varint? rest
  let here := f.sizeInLeaf size
  if here = size then record? (rest.take size)
  else
    let next := number ((rest.drop here).take 4)
    record? (rest.take here ++ (← f.chained? f.bytes.size next (size - here)))

/-- The rows of a table, in a tree of at most so many levels below the page with a number. -/
def rowsBelow? (f : Pages) : Nat → Nat → Option (List (List Value))
  | 0, _ => none
  | depth + 1, n => do
    let page ← f.page? n
    let header := page.drop (if n = 1 then 100 else 0)
    let field (start count : Nat) : Nat := number ((header.drop start).take count)
    let cells (start : Nat) : List (List UInt8) :=
      (List.range (field 3 2)).map fun i => page.drop (field (start + 2 * i) 2)
    match header.head? with
    | some 13 => (cells 8).mapM f.row?
    | some 5 =>
      let below := (cells 12).map (fun cell => number (cell.take 4)) ++ [field 8 4]
      return (← below.mapM (f.rowsBelow? depth)).flatten
    | _ => none

/-- The rows of the table with its root at a page. No tree has more levels than these. -/
def rows? (f : Pages) (root : Nat) : Option (List (List Value)) :=
  f.rowsBelow? 20 root

end Pages

/-! ## What is in a file -/

/-- What the first page tells of a table or an index. -/
structure Entry where
  name : String
  root : Nat
  statement : String

/-- The entry in a row of the first table. An index that is part of a table has no statement and is not listed. -/
def entry? : List Value → Option (List Entry)
  | [.text "index", .text _, .text _, .int _, .null] => some []
  | [.text _, .text name, .text _, .int root, .text statement] => some [⟨name, root.toNat, statement⟩]
  | _ => none

/-- A statement as it is kept: from its keyword on, and without its end. -/
def keptText (s : CreateStatement) : String :=
  let keyword := match s.kind with
    | .table => "CREATE TABLE "
    | .index => "CREATE INDEX "
  keyword ++ s.name ++ String.ofList s.after.toList.dropLast

/-- The statement that makes the table of recorded migrations. -/
def versionStatement : CreateStatement where
  kind := .table
  before := "CREATE TABLE IF NOT EXISTS "
  name := Catalog.versionTable
  after := " (\n            id INTEGER PRIMARY KEY,\n            migration_id TEXT NOT NULL UNIQUE,\n"
    ++ "            applied_at INTEGER NOT NULL,\n            checksum TEXT NOT NULL\n        );"

/-- The columns of a table that a statement makes, if they are plain ones: texts and integers without conditions. -/
def plainColumns? (statement : String) : Option (List String) :=
  match statement.splitOn "(" with
  | [_, rest] =>
    match rest.splitOn ")" with
    | [columns, ""] =>
      (columns.splitOn ",").mapM fun column =>
        match (column.splitOn " ").filter (· ≠ "") with
        | [name, "TEXT"] => some name
        | [name, "INTEGER"] => some name
        | _ => none
    | _ => none
  | _ => none

/-- The columns of the table of recorded migrations. -/
def versionColumns? (e : Entry) : Option (List String) :=
  if e.statement = keptText versionStatement then some ["id", "migration_id", "applied_at", "checksum"]
  else plainColumns? e.statement

/-- The text in the column with a name. -/
def textIn? (columns : List String) (name : String) (row : List Value) : Option String := do
  match row[← columns.idxOf? name]? with
  | some (.text s) => some s
  | _ => none

/-- The migrations that a table with some columns records. Without checksums it is no table for them. -/
def recorded? (f : Pages) (root : Nat) (columns : List String) : Option (Option (List (String × String))) := do
  if "checksum" ∈ columns then
    return some (← (← f.rows? root).mapM fun row =>
      do return (← textIn? columns "migration_id" row, ← textIn? columns "checksum" row))
  else return none

/-- The parameter in a row. -/
def paramRow? : List Value → Option ParamRow
  | [.text key, .text value, .int locked, _] => some ⟨key, value, locked ≠ 0⟩
  | _ => none

/-- The feature in a row. -/
def featureRow? : List Value → Option FeatureRow
  | [.text id, .text type, .int position, .text fields, .int locked, _] => some ⟨id, type, position, fields, locked ≠ 0⟩
  | _ => none

/-- The rows of the table with a name, if there is one. -/
def rowsOf? {α : Type} (f : Pages) (entries : List Entry) (name : String) (row? : List Value → Option α) :
    Option (List α) :=
  match entries.find? (·.name = name) with
  | some e => do (← f.rows? e.root).mapM row?
  | none => some []

/-- Whether a migration finds in a file what it takes to be there: all that it creates, if it is recorded with its
checksum, and columns to record it in, if it is not recorded. -/
def isReady (entries : List Entry) (columns : List String) (recorded : List (String × String)) (m : Migration) : Bool :=
  match recorded.lookup m.id with
  | some sum => sum ≠ checksum m.text || m.statements.all fun s => entries.any (·.name = s.name)
  | none => ["migration_id", "applied_at", "checksum"].all columns.contains

/-- What is in a file by name, if nothing else is there than what migrating creates. -/
def catalog? (f : Pages) (entries : List Entry) : Option Catalog := do
  let created := (migrations.flatMap (·.statements)).filter fun s => entries.any (·.statement = keptText s)
  let names (kind : CatalogKind) : List String := (created.filter (·.kind = kind)).map (·.name)
  if entries.any fun e => e.name ≠ Catalog.versionTable && created.all (·.name ≠ e.name) then none
  else match entries.find? (·.name = Catalog.versionTable) with
    | none => return ⟨names .table, names .index, none⟩
    | some e =>
      let columns ← versionColumns? e
      let recorded ← recorded? f e.root columns
      if recorded.all fun rows => migrations.all (isReady entries columns rows) then
        return ⟨names .table ++ [e.name], names .index, recorded⟩
      else none

/-- The image of the store in a file. -/
def image? (bytes : ByteArray) : Option StoreImage := do
  let f ← pages? bytes
  let entries := (← (← f.rows? 1).mapM entry?).flatten
  return {
    catalog := ← catalog? f entries
    tables := ⟨← rowsOf? f entries "params" paramRow?, ← rowsOf? f entries "features" featureRow?⟩ }

end GuardedPatch.DatabaseFile
