import BillingQuery.Store.Database

/-!
# Insertions

A row is inserted by the values of some of its columns. It is refused if a name is no column's, if
its id is no integer or in use, if a required column is null, if its tenant has a row with its
number, or if it refers to a row that is not there. Whatever is wrong first, in this order, is
reported.
-/

namespace BillingQuery

open Sql (Cell)

/-- Why a row is not stored. -/
inductive Refusal
  | noSuchTable (name : String)
  | noSuchColumn (table name : String)
  | keyMismatch
  | missing (table column : String)
  | repeatedKey (table : String)
  | repeatedNumber (table column : String)
  | dangling
deriving DecidableEq

namespace Refusal

def code : Refusal → Nat
  | noSuchTable _ | noSuchColumn .. => 1
  | keyMismatch => 20
  | missing .. => 1299
  | repeatedKey _ => 1555
  | repeatedNumber .. => 2067
  | dangling => 787

def reason : Refusal → String
  | noSuchTable name => "no such table: " ++ name
  | noSuchColumn table name => "table " ++ table ++ " has no column named " ++ name
  | keyMismatch => "datatype mismatch"
  | missing table column => "NOT NULL constraint failed: " ++ table ++ "." ++ column
  | repeatedKey table => "UNIQUE constraint failed: " ++ table ++ ".id"
  | repeatedNumber table column =>
    "UNIQUE constraint failed: " ++ table ++ ".tenant_id, " ++ table ++ "." ++ column
  | dangling => "FOREIGN KEY constraint failed"

def message (e : Refusal) : String := storeMessage e.code e.reason

end Refusal

namespace Row

def hasKey (row : Row) : Bool :=
  match row.cell "id" with
  | .integer _ => true
  | _ => false

/-- Whether the rows are of one tenant and have one number. -/
def sharesNumber (r : Resource) (a b : Row) : Bool :=
  r.numbering.any fun column =>
    a.cell "tenant_id" = b.cell "tenant_id" && a.cell column = b.cell column

end Row

namespace Database

def nextId (rows : List Row) : Int :=
  match rows.getLast? with
  | some row => row.id + 1
  | none => 1

/-- The value given for a column, whose name may be written in either case. -/
def valueFor (values : List (String × Cell)) (c : Column) : Cell :=
  match values.find? fun (name, _) => Text.sameFold name c.name with
  | some (_, value) => value
  | none => c.default

/-- The row that an insertion of these values adds. Each value is stored by the affinity of its
column; an id that is left out is the next one. -/
def newRow (db : Database) (r : Resource) (values : List (String × Cell)) : Row :=
  ⟨r.layout.map fun c =>
    let stored := (valueFor values c).store c.affinity
    (c.name, if c.name = "id" && stored = .null then .integer (nextId (db.rows r)) else stored)⟩

/-- Whether there is the row to which the column refers, if it refers to one. -/
def hasTarget (db : Database) (row : Row) (c : Column) : Bool :=
  c.target?.all fun r => (db.rows r).any fun other => other.cell "id" = row.cell c.name

/-- What stands against the row. -/
def refusal? (db : Database) (r : Resource) (row : Row) : Option Refusal :=
  if !row.hasKey then some .keyMismatch else
  match r.layout.find? fun c => c.isRequired && row.cell c.name = .null with
  | some c => some (.missing r.schema.table c.name)
  | none =>
    if (db.rows r).any fun other => other.id = row.id then some (.repeatedKey r.schema.table)
    else if (db.rows r).any (row.sharesNumber r) then
      some (.repeatedNumber r.schema.table (r.numbering.getD ""))
    else if r.layout.all (db.hasTarget row) then none
    else some .dangling

/-- Puts a row behind those with smaller ids. -/
def place (row : Row) : List Row → List Row
  | [] => [row]
  | first :: rest => if row.id < first.id then row :: first :: rest else first :: place row rest

/-- Adds a row with these values to the table with this name. -/
def insert (db : Database) (table : String) (values : List (String × Cell)) :
    Except Refusal Database := do
  let some r := Resource.ofTable? table | throw (.noSuchTable table)
  if let some (name, _) := values.find? fun (name, _) => (r.column? name).isNone then
    throw (.noSuchColumn table name)
  let row := db.newRow r values
  if let some refusal := db.refusal? r row then throw refusal
  return db.withRows r (place row (db.rows r))

end Database
end BillingQuery
