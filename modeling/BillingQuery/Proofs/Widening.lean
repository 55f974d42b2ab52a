import BillingQuery.Proofs.Meaning
import BillingQuery.Schema.Resource
import Mathlib.Data.List.Forall2

/-!
# Widening a filter

A group that AND joins asks for all that counts in it, and one that OR joins for some of it.

**Widening (`FilterNode.WidensTo`).** The same tree, but any of the groups that AND joins, at any
depth, are joined by OR.

**Main result (`FilterGroup.accepts_of_widensTo`).** A record that passes a filter passes each
filter that it widens to.

The two plans may have quite different shapes: a part that is plainly false decides a group under
AND and drops out of it under OR, and a group may be left with one part or with none. So parts are
compared by what they accept alone (`Plan.AtMost`), before they are joined. Both sides have the same
number of parts, because whether a node counts does not depend on how groups are joined.
-/

namespace BillingQuery

namespace FilterNode

mutual

/-- The other node has the same conditions in the same groups, of which some that AND joins here are
joined by OR there. -/
inductive WidensTo : FilterNode → FilterNode → Prop
  | cond (c : Condition) : WidensTo (.cond c) (.cond c)
  | keep (id : String) (logical : Logical) {children others : List FilterNode}
      (parts : AllWidenTo children others) :
      WidensTo (.group id logical children) (.group id logical others)
  | widen (id : String) {children others : List FilterNode} (parts : AllWidenTo children others) :
      WidensTo (.group id .and children) (.group id .or others)

inductive AllWidenTo : List FilterNode → List FilterNode → Prop
  | nil : AllWidenTo [] []
  | cons {n m : FilterNode} {ns ms : List FilterNode} (first : WidensTo n m)
      (rest : AllWidenTo ns ms) : AllWidenTo (n :: ns) (m :: ms)

end

mutual

theorem widensTo_refl (n : FilterNode) : n.WidensTo n := by
  cases n with
  | cond c => exact .cond c
  | group id logical children => exact .keep id logical (allWidenTo_refl children)

theorem allWidenTo_refl (ns : List FilterNode) : AllWidenTo ns ns := by
  cases ns with
  | nil => exact .nil
  | cons n ns => exact .cons (widensTo_refl n) (allWidenTo_refl ns)

end

end FilterNode

/-! ## Parts -/

namespace Plan

variable {record : Json}

/-- The other plan accepts the record if this one does. -/
def AtMost (record : Json) (p q : Plan) : Prop :=
  p.accepts record = true → q.accepts record = true

variable {ps qs : List Plan}

theorem all_of_atMost (h : List.Forall₂ (AtMost record) ps qs)
    (hall : ps.all (accepts record) = true) : qs.all (accepts record) = true := by
  induction h with
  | nil => rfl
  | cons hp _ ih =>
    rw [List.all_cons, Bool.and_eq_true] at hall ⊢
    exact ⟨hp hall.1, ih hall.2⟩

theorem any_of_atMost (h : List.Forall₂ (AtMost record) ps qs)
    (hany : ps.any (accepts record) = true) : qs.any (accepts record) = true := by
  induction h with
  | nil => exact hany
  | cons hp _ ih =>
    rw [List.any_cons, Bool.or_eq_true] at hany ⊢
    exact hany.imp hp ih

/-- All of some parts are some of them, unless there are none. -/
theorem any_of_all (hne : ps ≠ []) (hall : ps.all (accepts record) = true) :
    ps.any (accepts record) = true := by
  obtain ⟨p, rest, rfl⟩ := List.exists_cons_of_ne_nil hne
  rw [List.all_cons, Bool.and_eq_true] at hall
  rw [List.any_cons, hall.1, Bool.true_or]

/-- **Joining.** What accepts more makes a group that accepts more, under AND, under OR, and from
the one to the other. -/
theorem atMost_join {logical other : Logical} (hor : logical = .or → other = .or)
    (h : List.Forall₂ (AtMost record) ps qs) :
    AtMost record (join logical ps) (join other qs) := by
  intro haccepts
  rw [accepts_join] at haccepts ⊢
  -- Without parts both groups are true; with a part, all of them are also some of them.
  by_cases hempty : ps = []
  · subst hempty
    cases h
    rfl
  · have hparts : ps.isEmpty = false := by
      rw [List.isEmpty_eq_false_iff]
      exact hempty
    rw [hparts, Bool.false_or] at haccepts
    rw [Bool.or_eq_true]
    refine Or.inr ?_
    cases logical with
    | and =>
      have hall := all_of_atMost h haccepts
      cases other with
      | and => exact hall
      | or => exact any_of_atMost h (any_of_all hempty haccepts)
    | or =>
      rw [hor rfl]
      exact any_of_atMost h haccepts

end Plan

/-! ## Trees -/

namespace FilterNode

variable {fields : List Field} {record : Json}

mutual

/-- What the wider node adds to its group accepts more, and it adds something if the other does. -/
theorem WidensTo.atMost_plan? {n m : FilterNode} (h : n.WidensTo m) :
    List.Forall₂ (Plan.AtMost record) (n.plan? fields).toList (m.plan? fields).toList := by
  cases h with
  | cond c => exact List.forall₂_same.2 fun p _ haccepts => haccepts
  | keep id logical parts =>
    have hjoin := Plan.atMost_join (fun hor : logical = .or => hor) parts.atMost_plans
    exact .cons hjoin .nil
  | widen id parts =>
    have hjoin := Plan.atMost_join (fun _ : Logical.and = .or => rfl) parts.atMost_plans
    exact .cons hjoin .nil

theorem AllWidenTo.atMost_plans {ns ms : List FilterNode} (h : AllWidenTo ns ms) :
    List.Forall₂ (Plan.AtMost record) (plans fields ns) (plans fields ms) := by
  cases h with
  | nil => exact .nil
  | cons first rest => exact List.rel_append first.atMost_plan? rest.atMost_plans

end

end FilterNode

namespace FilterGroup

/-- The other filter is this one, with some of its groups joined by OR instead of AND. -/
def WidensTo (g wider : FilterGroup) : Prop := g.toNode.WidensTo wider.toNode

/-- The root alone may be widened. -/
theorem widensTo_withLogical {g : FilterGroup} (h : g.logical = .and) :
    g.WidensTo (g.withLogical .or) := by
  obtain ⟨id, logical, children⟩ := g
  obtain rfl : logical = .and := h
  exact .widen id (FilterNode.allWidenTo_refl children)

/-- **Widening.** A wider filter loses no record, whatever the fields and whatever the two trees
drop or make constant. -/
theorem accepts_of_widensTo {g wider : FilterGroup} (h : g.WidensTo wider) (fields : List Field)
    (record : Json) (haccepts : g.accepts fields record = true) :
    wider.accepts fields record = true := by
  have hplans : List.Forall₂ (Plan.AtMost record) [g.plan fields] [wider.plan fields] :=
    FilterNode.WidensTo.atMost_plan? h
  cases hplans with
  | cons hplan _ => exact hplan haccepts

end FilterGroup

/-- A filter with a nested group, in which a condition is dropped and one can match nothing. -/
def sampleNested (outer inner : Logical) : FilterGroup :=
  ⟨"root", outer, [
    .cond (.on "1" "name" "contains" (.string "ACME")),
    .group "2" inner [
      .cond (.on "3" "status" "equals" (.string "active")),
      .cond (.on "4" "shoeSize" "equals" (Json.int 42)),
      .group "5" inner []],
    .group "6" .or [
      .cond (.on "7" "monthlyValue" "gt" (.string "many")),
      .cond (.on "8" "plan" "in" (.array [.string "basic", .string "pro"]))]]⟩

def sampleRecord : Json :=
  .object [("name", .string "Acme Ltd"), ("status", .string "Active"), ("plan", .string "pro")]

theorem accepts_of_widensTo_sample :
    (sampleNested .and .and).WidensTo (sampleNested .or .or) ∧
      (sampleNested .and .and).accepts Resource.clients.fields sampleRecord = true ∧
      (sampleNested .or .or).accepts Resource.clients.fields sampleRecord = true := by
  have hwider : (sampleNested .and .and).WidensTo (sampleNested .or .or) := by
    refine .widen "root" (.cons (.cond _) (.cons (.widen "2" ?_) ?_))
    · exact .cons (.cond _) (.cons (.cond _) (.cons (.widen "5" .nil) .nil))
    · exact FilterNode.allWidenTo_refl _
  have haccepts : (sampleNested .and .and).accepts Resource.clients.fields sampleRecord = true := by
    decide +kernel
  exact ⟨hwider, haccepts, FilterGroup.accepts_of_widensTo hwider _ _ haccepts⟩

end BillingQuery
