import BillingQuery.Sql.Statement
import BillingQuery.Store.Layout

/-!
# The order of a scan

The rows of a table are kept in order of their ids, and those of invoices also in order of their
numbers, of which no tenant has one twice. A statement that says nothing about the order of its rows
gets them as they are found, and one that orders by another column keeps that order among equal
cells. The numbers are followed where the statement gains more by them than by the ids.
-/

namespace BillingQuery

namespace Sql

def Predicate.isLowerBound (column : String) : Predicate → Bool
  | .compare .gt (.column c) _ | .compare .gte (.column c) _ => c == column
  | _ => false

def Predicate.isUpperBound (column : String) : Predicate → Bool
  | .compare .lt (.column c) _ | .compare .lte (.column c) _ => c == column
  | _ => false

namespace Select

def namedColumns (s : Select) : List String :=
  s.columns.map ResultColumn.column ++ s.conditions.flatMap Predicate.columns ++
    (s.order.map Order.column).toList

/-- The statement names the column, and no other but those that are kept with it. -/
def isCoveredBy (column : String) (s : Select) : Bool :=
  s.namedColumns.contains column &&
    s.namedColumns.all fun c => [column, "id", "tenant_id"].contains c

/-- What following a column gains: the rows outside a bound, on either side, are never reached, and
if the column covers the statement, nothing else need be looked at. -/
def gainBy (column : String) (s : Select) : Nat :=
  (s.conditions.any (·.isLowerBound column)).toNat +
    (s.conditions.any (·.isUpperBound column)).toNat + (s.isCoveredBy column).toNat

def gainById (s : Select) : Nat :=
  (s.conditions.any fun p => p.isLowerBound "id" || p.isUpperBound "id").toNat

/-- The order in which the rows are found, if it is not that of their ids. -/
def scanOrder (r : Resource) (s : Select) : Option Order :=
  (r.numbering.filter fun column => s.gainById < s.gainBy column).map fun column => ⟨column, .asc⟩

end Select
end Sql
end BillingQuery
