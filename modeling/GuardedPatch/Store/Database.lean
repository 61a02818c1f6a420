import GuardedPatch.Json.Fields
import GuardedPatch.Patch.Change

set_option autoImplicit false

/-! # Databases

A database keeps two tables: a row per parameter, and a row per feature with its place in the listing. Rows carry a
lock, which this level only records. Writes are values, so that what a write does to the tables can be told apart
from whether it is accepted.

A transaction remembers the tables as they were when it was opened. The database may have rules of its own: a write
can be refused, which undoes that write alone, or it can break a constraint that is only checked when the transaction
is committed. A commit that fails for this reason may leave the transaction open. -/

namespace GuardedPatch

/-! ## Rows -/

/-- The row of a parameter. -/
structure ParamRow where
  key : String
  value : String
  locked : Bool
deriving DecidableEq, Repr

/-- The row of a feature, whose fields are kept as a JSON text. -/
structure FeatureRow where
  id : String
  type : String
  /-- The place in the listing; of rows at the same place, the one with the smaller id comes first. -/
  position : Int
  fields : String
  locked : Bool
deriving DecidableEq, Repr

/-- Gives a parameter a value: in its row, which keeps its lock, or else in a new row that is not locked. -/
def putParamRow (key value : String) : List ParamRow → List ParamRow
  | [] => [⟨key, value, false⟩]
  | r :: rest => if r.key = key then { r with value } :: rest else r :: putParamRow key value rest

/-- Positions end here. -/
def positionLimit : Int := Nat.pow 2 63

/-- The position after all others. -/
def nextPosition (rows : List FeatureRow) : Int :=
  match (rows.map (·.position)).max? with
  | some p => min (p + 1) positionLimit
  | none => 0

/-- Puts a record into its row, which keeps its position and its lock, or else into the given new row. -/
def replaceFeatureRow (record : FeatureRecord) (new : FeatureRow) : List FeatureRow → List FeatureRow
  | [] => [new]
  | r :: rest =>
    if r.id = record.id then { r with type := record.type, fields := Json.writeFields record.fields } :: rest
    else r :: replaceFeatureRow record new rest

/-- Puts a record into its row, or else into a new row at the end of the listing that is not locked. -/
def putFeatureRow (record : FeatureRecord) (rows : List FeatureRow) : List FeatureRow :=
  replaceFeatureRow record ⟨record.id, record.type, nextPosition rows, Json.writeFields record.fields, false⟩ rows

/-- Whether a row is listed before another one. -/
def FeatureRow.precedes (a b : FeatureRow) : Bool :=
  a.position < b.position || (a.position == b.position && a.id < b.id)

/-- Puts a row at its place in a listing. -/
def insertListed (r : FeatureRow) : List FeatureRow → List FeatureRow
  | [] => [r]
  | x :: rest => if x.precedes r then x :: insertListed r rest else r :: x :: rest

/-- Rows in the order of the listing. -/
def listed (rows : List FeatureRow) : List FeatureRow :=
  rows.foldr insertListed []

/-! ## Tables and writes -/

/-- The contents of a database. -/
structure Tables where
  params : List ParamRow
  features : List FeatureRow
deriving DecidableEq, Repr

/-- Tables without rows. -/
def Tables.empty : Tables := ⟨[], []⟩

/-- A write to a database. -/
inductive Write
  | putParam (key value : String)
  | putFeature (record : FeatureRecord)
  | removeFeature (id : String)
  /-- Locks or unlocks a parameter. -/
  | lockParam (key : String) (locked : Bool)
  /-- Locks or unlocks a feature. -/
  | lockFeature (id : String) (locked : Bool)
deriving DecidableEq

/-- The tables after a write. -/
def Tables.write (t : Tables) : Write → Tables
  | .putParam key value => { t with params := putParamRow key value t.params }
  | .putFeature record => { t with features := putFeatureRow record t.features }
  | .removeFeature id => { t with features := t.features.filter (·.id != id) }
  | .lockParam key locked => { t with params := t.params.map fun r => if r.key = key then { r with locked } else r }
  | .lockFeature id locked => { t with features := t.features.map fun r => if r.id = id then { r with locked } else r }

/-! ## Rules -/

/-- What the rules of a database say about a write. -/
inductive Ruling
  | accepted
  /-- The write fails with this message. -/
  | refused (message : String)
  /-- The write is done, and the commit of its transaction fails with this message. -/
  | deferred (message : String)
deriving DecidableEq

/-- The rules of a database. -/
structure Rules where
  judge : Write → Ruling
  /-- Whether a commit that fails ends the transaction by itself. -/
  failedCommitEnds : Bool

/-- No rules. -/
def Rules.none : Rules := ⟨fun _ => .accepted, false⟩

/-! ## Transactions -/

/-- An open transaction. -/
structure Transaction where
  /-- The tables when it was opened. -/
  saved : Tables
  /-- Why it cannot be committed, if so. -/
  violation : Option String
deriving DecidableEq

/-- A database, with the transaction that is open on it, if there is one. -/
structure Database where
  tables : Tables
  transaction : Option Transaction
  rules : Rules

namespace Database

/-- A database with these contents and no open transaction. -/
def ofTables (tables : Tables) (rules : Rules) : Database := ⟨tables, none, rules⟩

/-- What would be left of the contents if the database was closed now. -/
def durable (db : Database) : Tables :=
  match db.transaction with
  | some t => t.saved
  | none => db.tables

/-- Does a write. Outside of a transaction it is committed at once, so that whatever the rules hold against it makes
it fail. -/
def execute (db : Database) (w : Write) : Except String Unit × Database :=
  match db.rules.judge w with
  | .accepted => (.ok (), { db with tables := db.tables.write w })
  | .refused message => (.error message, db)
  | .deferred message =>
    match db.transaction with
    | some t =>
      (.ok (), { db with
        tables := db.tables.write w
        transaction := some { t with violation := some message } })
    | none => (.error message, db)

/-- Opens a transaction. -/
def openTransaction (db : Database) : Except String Unit × Database :=
  match db.transaction with
  | some _ => (.error "cannot start a transaction within a transaction", db)
  | none => (.ok (), { db with transaction := some ⟨db.tables, none⟩ })

/-- Ends the transaction and takes back its writes. -/
def rollBack (db : Database) : Except String Unit × Database :=
  match db.transaction with
  | some t => (.ok (), { db with tables := t.saved, transaction := none })
  | none => (.error "cannot rollback - no transaction is active", db)

/-- Ends the transaction and keeps its writes. -/
def commit (db : Database) : Except String Unit × Database :=
  match db.transaction with
  | none => (.error "cannot commit - no transaction is active", db)
  | some t =>
    match t.violation with
    | none => (.ok (), { db with transaction := none })
    | some message => (.error message, if db.rules.failedCommitEnds then db.rollBack.2 else db)

end Database

end GuardedPatch
