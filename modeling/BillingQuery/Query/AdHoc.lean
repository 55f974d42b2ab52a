import BillingQuery.Json.Basic
import BillingQuery.Query.AllowList
import BillingQuery.Query.Limits
import BillingQuery.Sql.Statement

/-!
# Ad-hoc queries

A flat query over one table: some columns, tests joined by AND, an ordering and a limit. Its names
are those of the allow list, and its values, the tenant and the limit are bound to parameters.
Null has no comparison: equality with it asks whether the column is null, and binds nothing.

Names and values are checked in a fixed order, so of several faults the first is reported: table,
columns, ordering, then each test by column, operator and value.
-/

namespace BillingQuery

inductive AdHocOperator
  | equals
  | notEquals
  | greater
  | less
  | like
deriving DecidableEq

namespace AdHocOperator

def all : List AdHocOperator := [.equals, .notEquals, .greater, .less, .like]

def name : AdHocOperator → String
  | equals => "equals"
  | notEquals => "not_equals"
  | greater => "greater"
  | less => "less"
  | like => "like"

def sql : AdHocOperator → String
  | equals => "="
  | notEquals => "!="
  | greater => ">"
  | less => "<"
  | like => "LIKE"

def ofName? (name : String) : Option AdHocOperator := all.find? (·.name == name)

def ofName (name : String) : Except QueryError AdHocOperator :=
  match ofName? name with
  | some op => .ok op
  | none => .error (.unsupportedOperator name (all.map AdHocOperator.name))

/-- The test of a column against a parameter. -/
def predicate (op : AdHocOperator) (column parameter : Sql.Term) : Sql.Predicate :=
  match op with
  | equals => .compare .eq column parameter
  | notEquals => .compare .ne column parameter
  | greater => .compare .gt column parameter
  | less => .compare .lt column parameter
  | like => .like column parameter none

end AdHocOperator

structure AdHocFilter where
  column : String
  operator : String
  value : Json

structure AdHocQuery where
  table : String
  columns : List String
  filters : List AdHocFilter
  orderBy : Option String
  orderDirection : Option SortDirection
  limit : Option Int

/-- A test whose names and value have been checked. -/
inductive AdHocTest
  | isNull (column : String)
  | isNotNull (column : String)
  | compare (column : String) (operator : AdHocOperator) (value : Sql.Value)
deriving DecidableEq

namespace AdHocTest

/-- The values that the test binds. -/
def values : AdHocTest → List Sql.Value
  | isNull _ | isNotNull _ => []
  | compare _ _ value => [value]

/-- The test, where `bound` parameters are bound before its own. -/
def predicate (bound : Nat) : AdHocTest → Sql.Predicate
  | isNull column => .isNull (.column column)
  | isNotNull column => .isNotNull (.column column)
  | compare column operator _ => operator.predicate (.column column) (.parameter (bound + 1))

/-- The tests in order, each after the parameters of those before it. -/
def predicates (bound : Nat) : List AdHocTest → List Sql.Predicate
  | [] => []
  | t :: ts => t.predicate bound :: predicates (bound + t.values.length) ts

end AdHocTest

/-! ## Checking -/

def adHocTest (column : String) (operator : AdHocOperator) (value : Json) :
    Except QueryError AdHocTest :=
  let invalid (reason : String) := .error (.invalidFilterValue column reason)
  let bind (v : Sql.Value) := .ok (.compare column operator v)
  match value, operator with
  | .null, .equals => .ok (.isNull column)
  | .null, .notEquals => .ok (.isNotNull column)
  | .null, _ => invalid "null is only valid with equals or not_equals"
  | .string s, _ => bind (.text s)
  | _, .like => invalid "like requires a string pattern"
  | .bool b, _ => bind (.bool b)
  | .number n, _ =>
    match n.toInt64?, n.toBinary64? with
    | some i, _ => bind (.integer i)
    | none, some x => bind (.real x)
    | none, none => invalid "number out of range"
  | .array _, _ | .object _, _ => invalid "value must be a string, number, boolean or null"

/-- Checks the column, then the operator, then the value. -/
def AdHocFilter.test (f : AdHocFilter) (table : AllowedTable) : Except QueryError AdHocTest := do
  let column ← table.column f.column
  let operator ← AdHocOperator.ofName f.operator
  adHocTest column operator f.value

namespace AdHocQuery

/-- The columns to return: those requested, or all that are allowed. -/
def selected (q : AdHocQuery) (table : AllowedTable) : Except QueryError (List String) :=
  if q.columns.isEmpty then .ok table.columns else table.columnsNamed q.columns

def assemble (q : AdHocQuery) (tenant : String) (limits : QueryLimits) :
    Except QueryError Sql.Statement := do
  let table ← AllowedTable.ofName q.table
  let columns ← q.selected table
  let orderColumn ← q.orderBy.mapM table.column
  let tests ← q.filters.mapM fun f => f.test table
  let values := .text tenant :: tests.flatMap AdHocTest.values
  let scope := Sql.Predicate.compare .eq (.column table.tenantColumn) (.parameter 1)
  return {
    select :=
      { columns := columns.map fun c => ⟨c, none⟩
        table := table.name
        conditions := scope :: AdHocTest.predicates 1 tests
        order := orderColumn.map fun c => ⟨c, q.orderDirection.getD .asc⟩
        limit := some (.parameter (values.length + 1))
        offset := none }
    values := values ++ [.integer (limits.clamp q.limit)] }

end AdHocQuery
end BillingQuery
