import BillingQuery.Sql.Cell
import BillingQuery.Sql.Predicate

/-!
# SQL statements

A statement is a SELECT over one table together with the values bound to its parameters. Its
conditions are joined by AND at the top; each is a predicate that keeps its own AND and OR in
parentheses.
-/

namespace BillingQuery

inductive SortDirection
  | asc
  | desc
deriving DecidableEq

def SortDirection.sql : SortDirection → String
  | asc => "ASC"
  | desc => "DESC"

namespace Sql

/-- A value bound to a parameter. -/
inductive Value
  | text (s : String)
  | integer (n : Int)
  | real (x : Binary64)
  | bool (b : Bool)
deriving DecidableEq

/-- The cell that a bound value is read as; a flag is 0 or 1. -/
def Value.cell : Value → Cell
  | text s => .text s
  | integer n => .integer n
  | real x => .real x
  | bool b => .integer (if b then 1 else 0)

def parameterCell (values : List Value) (n : Nat) : Cell :=
  if n = 0 then .null else ((values[n - 1]?).map Value.cell).getD .null

structure ResultColumn where
  column : String
  alias? : Option String
deriving DecidableEq

namespace ResultColumn

def sql (c : ResultColumn) : String :=
  match c.alias? with
  | some name => c.column ++ " AS \"" ++ name ++ "\""
  | none => c.column

def name (c : ResultColumn) : String := c.alias?.getD c.column

end ResultColumn

structure Order where
  column : String
  direction : SortDirection
deriving DecidableEq

def Order.sql (o : Order) : String := "ORDER BY " ++ o.column ++ " " ++ o.direction.sql

/-- A SELECT. The bounds are terms, so that they may be parameters. -/
structure Select where
  columns : List ResultColumn
  table : String
  conditions : List Predicate
  order : Option Order
  limit : Option Term
  offset : Option Term

/-- Conditions joined by AND. -/
def whereSql (conditions : List Predicate) : String := Predicate.joined " AND " conditions

namespace Select

def clause (keyword : String) : Option String → String
  | some s => keyword ++ s
  | none => ""

def sql (s : Select) : String :=
  "SELECT " ++ ", ".intercalate (s.columns.map ResultColumn.sql) ++ " FROM " ++ s.table ++
    clause " WHERE " (if s.conditions.isEmpty then none else some (whereSql s.conditions)) ++
    clause " " (s.order.map Order.sql) ++
    clause " LIMIT " (s.limit.map Term.sql) ++
    clause " OFFSET " (s.offset.map Term.sql)

end Select

/-- A SELECT and the values of its parameters, in order. -/
structure Statement where
  select : Select
  values : List Value

def Statement.sql (s : Statement) : String := s.select.sql

end Sql
end BillingQuery
