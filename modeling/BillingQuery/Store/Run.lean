import BillingQuery.Store.Allowance
import BillingQuery.Store.Database

/-!
# Running a SELECT

The rows of a table on which every condition is true, in the requested order, and of these the page
between the bounds. Rows are found in the order of the scan; an ordering by a column keeps that
order among equal cells, whichever its direction.
-/

namespace BillingQuery

namespace Sql

inductive RunError
  | noSuchTable (name : String)
  | noSuchColumn (name : String)
  | tooManyConditions
  | tooManyColumns
  | longPattern
  | unreadable
deriving DecidableEq

def RunError.reason : RunError → String
  | noSuchTable name => "no such table: " ++ name
  | noSuchColumn name => "no such column: " ++ name
  | tooManyConditions => "Expression tree is too large (maximum depth 1000)"
  | tooManyColumns => "too many columns in result set"
  | longPattern => "LIKE or GLOB pattern too complex"
  | unreadable => "syntax error"

def RunError.message (e : RunError) : String := storeMessage 1 e.reason

/-- A row of a result: the cells under the names of the result's columns. -/
abbrev ResultRow := List (String × Cell)

/-- The row as a JSON object. A name that occurs twice has the last of its values. -/
def recordOf (row : ResultRow) : Json :=
  .object (row.foldl (fun members (name, c) => Json.setMember members name c.toJson) [])

end Sql

namespace Resource

def scope (r : Resource) (values : List Sql.Value) (row : Row) : Sql.Scope where
  affinity := r.affinity
  cell := row.cell
  parameter := Sql.parameterCell values
  seen := Sql.seenChar

end Resource

namespace Sql

/-- Whether every condition is true on a row. -/
def selects (r : Resource) (values : List Value) (conditions : List Predicate) (row : Row) : Bool :=
  conditions.all fun p => p.truth (r.scope values row) == some true

/-- Whether `a` may stand before `b`. -/
def Order.permits (o : Order) (a b : Row) : Bool :=
  match o.direction with
  | .asc => (a.cell o.column).compare (b.cell o.column) != .gt
  | .desc => (b.cell o.column).compare (a.cell o.column) != .gt

def ordered (order : Option Order) (rows : List Row) : List Row :=
  match order with
  | some o => rows.mergeSort o.permits
  | none => rows

/-- At most `limit` rows from `offset` on. A negative limit is none, a negative offset is zero. -/
def page (limit offset : Option Int) (rows : List α) : List α :=
  let rest := rows.drop (offset.getD 0).toNat
  match limit with
  | some n => if n < 0 then rest else rest.take n.toNat
  | none => rest

def boundOf (values : List Value) : Term → Option Int
  | .parameter n =>
    match parameterCell values n with
    | .integer i => some i
    | _ => none
  | .integer i => some i
  | _ => none

/-- The column and the name of its value in the result. -/
def resolveColumn (r : Resource) (c : ResultColumn) : Except RunError (String × String) :=
  match r.column? c.column with
  | some column => .ok (column.name, c.alias?.getD column.name)
  | none => .error (.noSuchColumn c.column)

def project (columns : List (String × String)) (row : Row) : ResultRow :=
  columns.map fun (column, name) => (name, row.cell column)

/-- Whether a pattern that is too long is met on one of the rows. -/
def Statement.meetsLongPattern (s : Statement) (r : Resource) (rows : List Row) : Bool :=
  s.values.any Value.isLongPattern && rows.any fun row =>
    Predicate.conjunctionMeets (r.scope s.values row) (s.select.evaluated r)

def Statement.run (s : Statement) (db : Database) : Except RunError (List ResultRow) := do
  if maxConditions < s.select.conditions.length then throw .tooManyConditions
  let some r := Resource.ofTable? s.select.table | throw (.noSuchTable s.select.table)
  if maxResultColumns < s.select.columns.length then throw .tooManyColumns
  let columns ← s.select.columns.mapM (resolveColumn r)
  if s.meetsLongPattern r (db.rows r) then throw .longPattern
  let found := ordered (s.select.scanOrder r)
    ((db.rows r).filter (selects r s.values s.select.conditions))
  let bound (t : Option Term) := t.bind (boundOf s.values)
  return (page (bound s.select.limit) (bound s.select.offset)
    (ordered s.select.order found)).map (project columns)

end Sql
end BillingQuery
