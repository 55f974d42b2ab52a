import BillingQuery.Sql.Truth
import BillingQuery.Store.Scan

/-!
# What the store can run

A statement may have so many columns in its result and so many conditions, and a pattern may have so
many bytes. The length of a pattern is only noticed when a row is held against it. The conditions of
a row are evaluated one after the other until one is not true: first those that the scan decides,
then those that need no column but its own, then the others. Within a condition AND stops at the
first part that is not true, and OR at the first that is.
-/

namespace BillingQuery.Sql

def maxResultColumns : Nat := 2000
def maxConditions : Nat := 999

def maxPatternSize : Nat := 50000

def Value.isLongPattern : Value → Bool
  | text s => maxPatternSize < s.utf8ByteSize
  | integer _ | real _ | bool _ => false

/-! ## The order of evaluation -/

/-- The columns by which a scan finds its rows. -/
def Select.scanColumns (r : Resource) (s : Select) : List String :=
  "tenant_id" :: "id" :: ((s.scanOrder r).map Order.column).toList

/-- The condition compares one of the columns, so that a scan by them decides it. -/
def Predicate.isDecidedBy (columns : List String) : Predicate → Bool
  | .compare .ne _ _ => false
  | .compare _ (.column c) _ => columns.contains c
  | _ => false

/-- The conditions in the order in which they are evaluated. -/
def Select.evaluated (r : Resource) (s : Select) : List Predicate :=
  let own := s.scanColumns r
  let (decided, left) := s.conditions.partition (·.isDecidedBy own)
  let (covered, others) := left.partition fun p => p.columns.all own.contains
  decided ++ covered ++ others

/-! ## Long patterns -/

namespace Predicate

mutual

/-- Evaluating the predicate comes to a pattern that is too long. -/
def meetsLongPattern (s : Scope) : Predicate → Bool
  | like _ pattern _ =>
    match pattern.value s with
    | .text t => maxPatternSize < t.utf8ByteSize
    | _ => false
  | all parts => conjunctionMeets s parts
  | any parts => disjunctionMeets s parts
  | compare _ _ _ | among _ _ | amongItems _ _ | isNull _ | isNotNull _ => false

def conjunctionMeets (s : Scope) : List Predicate → Bool
  | [] => false
  | p :: ps => p.meetsLongPattern s || (p.truth s == some true && conjunctionMeets s ps)

def disjunctionMeets (s : Scope) : List Predicate → Bool
  | [] => false
  | p :: ps => p.meetsLongPattern s || (p.truth s != some true && disjunctionMeets s ps)

end

end Predicate
end BillingQuery.Sql
