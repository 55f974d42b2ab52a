import BillingQuery.Filter.Issue
import BillingQuery.Filter.Operand

/-!
# Plans

Resolving a filter against a list of fields gives a plan and the issues met on the way. A plan is a
constant, or tests joined by "all" and "any" with no constant among them: a condition on an unknown
field or with an illegal operator is dropped, one that can match nothing counts as false, and a
group without parts counts as true.
-/

namespace BillingQuery

inductive Plan
  | const (b : Bool)
  | test (field : Field) (operand : Operand)
  | all (parts : List Plan)
  | any (parts : List Plan)

namespace Plan

def isConst (b : Bool) : Plan → Bool
  | const c => c == b
  | _ => false

/-- The plan of a group with these parts. A constant decides the group (false under AND, true under
OR) or drops out of it, and a part that is left alone stands for the group. -/
def join (logical : Logical) (parts : List Plan) : Plan :=
  let deciding := logical == .or
  if parts.isEmpty then const true
  else if parts.any (isConst deciding) then const deciding
  else
    match parts.filter fun p => !p.isConst !deciding with
    | [] => const !deciding
    | [p] => p
    | ps =>
      match logical with
      | .and => all ps
      | .or => any ps

end Plan

/-- What becomes of a condition. -/
inductive Verdict
  | unknownField
  | illegalOperator
  | unmatchable (field : Field) (reason : Unmatchable)
  | test (field : Field) (operand : Operand)

namespace Condition

/-- Looks up the field, then the operator, then reads the value. -/
def verdict (c : Condition) (fields : List Field) : Verdict :=
  match findField? fields c.field with
  | none => .unknownField
  | some field =>
    let rule? := ((Operator.ofName? c.operator).filter field.allows).bind (operandRule? field.type)
    match rule? with
    | none => .illegalOperator
    | some rule =>
      match rule c with
      | .ok operand => .test field operand
      | .error reason => .unmatchable field reason

/-- The part that the condition adds to its group; a dropped one adds none. -/
def plan? (c : Condition) (fields : List Field) : Option Plan :=
  match c.verdict fields with
  | .unknownField | .illegalOperator => none
  | .unmatchable _ _ => some (.const false)
  | .test field operand => some (.test field operand)

def issue? (c : Condition) (fields : List Field) : Option FilterIssue :=
  match c.verdict fields with
  | .unknownField => some (.unknownField c.id c.field)
  | .illegalOperator => some (.illegalOperator c.id c.field c.operator)
  | .unmatchable _ .missingBound => some (.malformedBetween c.id c.field)
  | .unmatchable _ _ | .test _ _ => none

end Condition

namespace FilterNode

mutual

/-- The part that the node adds to its group. A group always adds one. -/
def plan? (fields : List Field) : FilterNode → Option Plan
  | .cond c => c.plan? fields
  | .group _ logical children => some (Plan.join logical (plans fields children))

def plans (fields : List Field) : List FilterNode → List Plan
  | [] => []
  | n :: ns => (plan? fields n).toList ++ plans fields ns

end

mutual

def issues (fields : List Field) : FilterNode → List FilterIssue
  | .cond c => (c.issue? fields).toList
  | .group _ _ children => issuesOfAll fields children

def issuesOfAll (fields : List Field) : List FilterNode → List FilterIssue
  | [] => []
  | n :: ns => issues fields n ++ issuesOfAll fields ns

end

end FilterNode

namespace FilterGroup

def plan (g : FilterGroup) (fields : List Field) : Plan :=
  Plan.join g.logical (FilterNode.plans fields g.children)

def issues (g : FilterGroup) (fields : List Field) : List FilterIssue :=
  FilterNode.issuesOfAll fields g.children

end FilterGroup
end BillingQuery
