import BillingQuery.Filter.Plan
import BillingQuery.Json.Writer
import BillingQuery.Query.Sort
import BillingQuery.Sql.Like

/-!
# Compiling filters

A filter compiles to the conditions of a SELECT: the first is always that the tenant column equals
`$1`, the second, if the plan is not plainly true, is the predicate of the plan. The values of the
plan's tests are bound to `$2`, `$3` and so on, from left to right; no value is ever part of the
text.
-/

namespace BillingQuery

/-- The bound pattern for a needle. -/
def PatternKind.likePattern (k : PatternKind) (needle : String) : String :=
  match k with
  | contains => "%" ++ Sql.escapeLike needle ++ "%"
  | startsWith => Sql.escapeLike needle ++ "%"
  | endsWith => "%" ++ Sql.escapeLike needle

def Comparison.relation : Comparison → Sql.Relation
  | eq => .eq
  | gt => .gt
  | lt => .lt
  | gte => .gte
  | lte => .lte

namespace Operand

/-- The values that the test binds, in order. -/
def values : Operand → List Sql.Value
  | text s => [.text s]
  | textSet items => [.text (Json.array (items.map Json.string)).write]
  | pattern kind needle => [.text (kind.likePattern needle)]
  | flag b => [.bool b]
  | number _ x => [.real x]
  | numberRange low high => [.real low, .real high]
  | day d => [.text d.text]
  | dayRange low high => [.text low.text, .text high.text]

/-- The stored value is a number; text never compares as one. -/
def isNumeric (column : Sql.Term) : Sql.Predicate :=
  .among (.className column) ["integer", "real"]

/-- The first ten characters are a day of the calendar. -/
def isDay (column : Sql.Term) : Sql.Predicate :=
  .compare .eq (.date (.leading column 10)) (.leading column 10)

/-- The test on a column, where `bound` parameters are bound before its own. Equality with a day
already implies that the stored text starts with one. -/
def predicate (column : String) (bound : Nat) (operand : Operand) : Sql.Predicate :=
  let c := Sql.Term.column column
  let leadingTen := Sql.Term.leading c 10
  let first := Sql.Term.parameter (bound + 1)
  let second := Sql.Term.parameter (bound + 2)
  match operand with
  | text _ => .compare .eq (.lower c) first
  | textSet _ => .amongItems (.lower c) first
  | pattern _ _ => .like (.lower c) first (some '\\')
  | flag _ => .compare .eq c first
  | number comparison _ => .all [isNumeric c, .compare comparison.relation c first]
  | numberRange _ _ => .all [isNumeric c, .compare .gte c first, .compare .lte c second]
  | day _ => .compare .eq leadingTen first
  | dayRange _ _ =>
    .all [isDay c, .compare .gte leadingTen first, .compare .lte leadingTen second]

end Operand

namespace Plan

mutual

/-- The values that the tests bind, from left to right. -/
def values : Plan → List Sql.Value
  | const _ => []
  | test _ operand => operand.values
  | all parts => valuesOfAll parts
  | any parts => valuesOfAll parts

def valuesOfAll : List Plan → List Sql.Value
  | [] => []
  | p :: ps => values p ++ valuesOfAll ps

end

mutual

/-- The predicate of a plan, where `bound` parameters are bound before its own. -/
def predicate (bound : Nat) : Plan → Sql.Predicate
  | const true => .always
  | const false => .never
  | test field operand => operand.predicate field.column bound
  | all parts => .all (predicates bound parts)
  | any parts => .any (predicates bound parts)

def predicates (bound : Nat) : List Plan → List Sql.Predicate
  | [] => []
  | p :: ps => predicate bound p :: predicates (bound + (values p).length) ps

end

end Plan

/-- A filter compiled for a tenant. -/
structure CompiledFilter where
  schema : Schema
  conditions : List Sql.Predicate
  values : List Sql.Value
  order : Option Sql.Order
  issues : List FilterIssue

namespace CompiledFilter

def whereSql (c : CompiledFilter) : String := Sql.whereSql c.conditions

/-- The listing from `offset` on, of at most `limit` rows. Columns are returned under the keys of
their fields, so that a row has the shape of a record. -/
def select (c : CompiledFilter) (limit offset : Int) : Sql.Statement :=
  let n := c.values.length
  { select :=
      { columns := c.schema.fields.map fun f => ⟨f.column, some f.key⟩
        table := c.schema.table
        conditions := c.conditions
        order := c.order
        limit := some (.parameter (n + 1))
        offset := some (.parameter (n + 2)) }
    values := c.values ++ [.integer limit, .integer offset] }

end CompiledFilter

def Schema.order? (s : Schema) (sort : SortSpec) : Except QueryError Sql.Order :=
  match s.field? sort.field with
  | some field => .ok ⟨field.column, sort.direction⟩
  | none => .error (.invalidSortField sort.field s.keys)

/-- Compiles a filter for a tenant: its complexity is checked first, then the ordering. -/
def compile (g : FilterGroup) (schema : Schema) (tenant : String) (sort : Option SortSpec) :
    Except QueryError CompiledFilter := do
  g.checkComplexity
  let order ← sort.mapM schema.order?
  let plan := g.plan schema.fields
  let scope := Sql.Predicate.compare .eq (.column schema.tenantColumn) (.parameter 1)
  return {
    schema
    conditions := if plan.isConst true then [scope] else [scope, plan.predicate 1]
    values := .text tenant :: plan.values
    order
    issues := g.issues schema.fields }

end BillingQuery
