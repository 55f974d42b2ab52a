import BillingQuery.Json.Basic
import BillingQuery.Query.Error

/-!
# Filter trees

A filter is a group of nodes joined by AND or OR; a node is a condition on one field or a group
again. Trees are values: an edit gives a new tree.

`depth` counts the groups on the longest path, `size` all nodes; a tree over the limits of either is
too complex to be used.
-/

namespace BillingQuery

inductive Logical
  | and
  | or
deriving DecidableEq

/-- A condition on a field. The operator is kept as written, so that an unknown one can be
reported and dropped on its own. -/
structure Condition where
  id : String
  field : String
  operator : String
  value : Option Json
  value2 : Option Json

inductive FilterNode
  | cond (c : Condition)
  | group (id : String) (logical : Logical) (children : List FilterNode)

/-- A node that is a group. -/
structure FilterGroup where
  id : String
  logical : Logical
  children : List FilterNode

namespace Condition

/-- A condition on one value. -/
def on (id field operator : String) (value : Json) : Condition :=
  ⟨id, field, operator, some value, none⟩

def between (id field : String) (low high : Json) : Condition :=
  ⟨id, field, "between", some low, some high⟩

end Condition

/-! ## Measures -/

namespace FilterNode

mutual

/-- The groups on the longest path from this node down. -/
def depth : FilterNode → Nat
  | .cond _ => 0
  | .group _ _ children => 1 + maxDepth children

def maxDepth : List FilterNode → Nat
  | [] => 0
  | n :: ns => max n.depth (maxDepth ns)

end

mutual

/-- The nodes in this subtree. -/
def size : FilterNode → Nat
  | .cond _ => 1
  | .group _ _ children => 1 + totalSize children

def totalSize : List FilterNode → Nat
  | [] => 0
  | n :: ns => n.size + totalSize ns

end

end FilterNode

namespace FilterGroup

def toNode (g : FilterGroup) : FilterNode := .group g.id g.logical g.children

/-- The group that matches everything. -/
def empty : FilterGroup := ⟨"root", .and, []⟩

def depth (g : FilterGroup) : Nat := 1 + FilterNode.maxDepth g.children
def size (g : FilterGroup) : Nat := 1 + FilterNode.totalSize g.children

/-! ## Edits -/

def withLogical (g : FilterGroup) (logical : Logical) : FilterGroup := { g with logical := logical }

def withChild (g : FilterGroup) (child : FilterNode) : FilterGroup :=
  { g with children := g.children ++ [child] }

def wrap (g : FilterGroup) (id : String) (logical : Logical) : FilterGroup :=
  ⟨id, logical, [g.toNode]⟩

/-! ## Complexity -/

def maxAllowedDepth : Nat := 16
def maxAllowedSize : Nat := 256

/-- Rejects a tree over either limit. -/
def checkComplexity (g : FilterGroup) : Except QueryError Unit :=
  if maxAllowedDepth < g.depth || maxAllowedSize < g.size then
    .error (.filterTooComplex g.depth g.size)
  else .ok ()

end FilterGroup
end BillingQuery
