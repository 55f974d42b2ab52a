import BillingQuery.Proofs.Issues
import BillingQuery.Schema.Resource

/-!
# Dropped conditions

A condition on an unknown field or with an illegal operator is dropped (`Condition.IsDropped`): it
adds nothing to its group.

**Padding (`FilterNode.PadsTo`).** The same tree with any number of dropped conditions more,
anywhere in any of its groups. Read backwards, some are deleted.

**Main result (`FilterGroup.differInIssues_of_padsTo`).** Filters that differ in dropped conditions
alone have one plan. So they compile to the same text with the same values, and the same records
pass. Each dropped condition more is reported once, and nothing else that is reported changes.

A group whose last condition is deleted becomes an empty one. Both have no parts, so both are true,
under AND and under OR.
-/

namespace BillingQuery

/-! ## Conditions -/

/-- The condition names a field that is not listed, or an operator that is illegal on its field. -/
inductive Condition.IsDropped (fields : List Field) (c : Condition) : Prop
  | unknownField (unknown : ∀ f ∈ fields, f.key ≠ c.field) : IsDropped fields c
  | illegalOperator {field : Field} (found : findField? fields c.field = some field)
      (unusable : ∀ op : Operator, op.name = c.operator →
        field.allows op = false ∨ operandRule? field.type op = none) : IsDropped fields c

/-- An operator that the field does not allow is illegal, however it is named. -/
theorem Field.unusable_of_allows_eq_false {field : Field} (op : Operator)
    (h : field.allows op = false) (other : Operator) (hname : other.name = op.name) :
    field.allows other = false ∨ operandRule? field.type other = none := by
  obtain rfl : op = other := Option.some.inj
    ((Operator.ofName?_eq_some.2 rfl).symm.trans (Operator.ofName?_eq_some.2 hname))
  exact Or.inl h

/-- The issue says that a condition was dropped. -/
def FilterIssue.IsOfDropped : FilterIssue → Prop
  | .unknownField _ _ | .illegalOperator _ _ _ => True
  | .malformedBetween _ _ => False

namespace Condition

variable {fields : List Field} {c : Condition}

/-- These are the conditions that add nothing, and no others. -/
theorem plan?_eq_none_iff : c.plan? fields = none ↔ c.IsDropped fields := by
  constructor
  · intro h
    cases hfound : findField? fields c.field with
    | none =>
      exact .unknownField fun f hf hkey => List.find?_eq_none.1 hfound f hf (beq_iff_eq.2 hkey)
    | some field =>
      cases hrule : c.rule? field with
      | none => exact .illegalOperator hfound (rule?_eq_none_iff.1 hrule)
      | some rule =>
        rw [plan?, verdict_of_rule hfound hrule] at h
        cases hoperand : rule c <;> simp [hoperand] at h
  · intro h
    cases h with
    | unknownField hunknown =>
      have hfound : findField? fields c.field = none :=
        List.find?_eq_none.2 fun f hf hkey => hunknown f hf (beq_iff_eq.1 hkey)
      rw [plan?, verdict_of_unknown hfound]
    | illegalOperator hfound hunusable =>
      rw [plan?, verdict_of_unusable hfound (rule?_eq_none_iff.2 hunusable)]

/-- A dropped condition is reported, as what it is. -/
theorem IsDropped.exists_issue (h : c.IsDropped fields) :
    ∃ issue, (c.issue? fields).toList = [issue] ∧ issue.IsOfDropped := by
  cases h with
  | unknownField hunknown => exact ⟨_, (Reports.unknownField hunknown).eq.symm, trivial⟩
  | illegalOperator hfound hunusable =>
    exact ⟨_, (Reports.illegalOperator hfound hunusable).eq.symm, trivial⟩

end Condition

/-! ## Issues -/

/-- The other list has so many issues more, here and there, and each of them is of a dropped
condition. -/
inductive FilterIssue.Gains : Nat → List FilterIssue → List FilterIssue → Prop
  | nil : Gains 0 [] []
  | same {more : Nat} {is js : List FilterIssue} (issue : FilterIssue) (rest : Gains more is js) :
      Gains more (issue :: is) (issue :: js)
  | gained {more : Nat} {is js : List FilterIssue} {issue : FilterIssue}
      (dropped : issue.IsOfDropped) (rest : Gains more is js) : Gains (more + 1) is (issue :: js)

namespace FilterIssue.Gains

theorem refl (is : List FilterIssue) : Gains 0 is is := by
  induction is with
  | nil => exact .nil
  | cons issue is ih => exact .same issue ih

theorem append {more more' : Nat} {is js is' js' : List FilterIssue} (h : Gains more is js)
    (h' : Gains more' is' js') : Gains (more + more') (is ++ is') (js ++ js') := by
  induction h with
  | nil => rwa [Nat.zero_add]
  | same issue _ ih => exact .same issue ih
  | gained dropped _ ih =>
    rw [Nat.add_right_comm]
    exact .gained dropped ih

end FilterIssue.Gains

/-! ## Trees -/

namespace FilterNode

variable {fields : List Field}

mutual

/-- The other node has the same conditions in the same groups, and dropped ones between them. -/
inductive PadsTo (fields : List Field) : FilterNode → FilterNode → Prop
  | cond (c : Condition) : PadsTo fields (.cond c) (.cond c)
  | group (id : String) (logical : Logical) {children others : List FilterNode}
      (parts : AllPadTo fields children others) :
      PadsTo fields (.group id logical children) (.group id logical others)

inductive AllPadTo (fields : List Field) : List FilterNode → List FilterNode → Prop
  | nil : AllPadTo fields [] []
  | cons {n m : FilterNode} {ns ms : List FilterNode} (first : PadsTo fields n m)
      (rest : AllPadTo fields ns ms) : AllPadTo fields (n :: ns) (m :: ms)
  | insert {c : Condition} {ns ms : List FilterNode} (dropped : c.IsDropped fields)
      (rest : AllPadTo fields ns ms) : AllPadTo fields ns (.cond c :: ms)

end

mutual

theorem padsTo_refl (n : FilterNode) : n.PadsTo fields n := by
  cases n with
  | cond c => exact .cond c
  | group id logical children => exact .group id logical (allPadTo_refl children)

theorem allPadTo_refl (ns : List FilterNode) : AllPadTo fields ns ns := by
  cases ns with
  | nil => exact .nil
  | cons n ns => exact .cons (padsTo_refl n) (allPadTo_refl ns)

end

mutual

/-- **Padding.** The node adds the same part to its group. -/
theorem PadsTo.plan?_eq {n m : FilterNode} (h : n.PadsTo fields m) :
    m.plan? fields = n.plan? fields := by
  cases h with
  | cond c => rfl
  | group id logical parts => rw [plan?, plan?, parts.plans_eq]

theorem AllPadTo.plans_eq {ns ms : List FilterNode} (h : AllPadTo fields ns ms) :
    plans fields ms = plans fields ns := by
  cases h with
  | nil => rfl
  | cons first rest => rw [plans, plans, first.plan?_eq, rest.plans_eq]
  | insert dropped rest =>
    rw [plans, plan?, Condition.plan?_eq_none_iff.2 dropped, rest.plans_eq]
    rfl

end

mutual

/-- Each node more is reported once. -/
theorem PadsTo.exists_gains {n m : FilterNode} (h : n.PadsTo fields m) :
    ∃ more, m.size = n.size + more ∧
      FilterIssue.Gains more (n.issues fields) (m.issues fields) := by
  cases h with
  | cond c => exact ⟨0, rfl, .refl _⟩
  | group id logical parts =>
    obtain ⟨more, hsize, hgains⟩ := parts.exists_gains
    exact ⟨more, by rw [size, size, hsize, Nat.add_assoc], hgains⟩

theorem AllPadTo.exists_gains {ns ms : List FilterNode} (h : AllPadTo fields ns ms) :
    ∃ more, totalSize ms = totalSize ns + more ∧
      FilterIssue.Gains more (issuesOfAll fields ns) (issuesOfAll fields ms) := by
  cases h with
  | nil => exact ⟨0, rfl, .nil⟩
  | cons first rest =>
    obtain ⟨more, hsize, hgains⟩ := first.exists_gains
    obtain ⟨more', hsize', hgains'⟩ := rest.exists_gains
    exact ⟨more + more', by rw [totalSize, totalSize]; omega, hgains.append hgains'⟩
  | @insert c ns ms dropped rest =>
    obtain ⟨more, hsize, hgains⟩ := rest.exists_gains
    obtain ⟨issue, hissue, hdropped⟩ := dropped.exists_issue
    refine ⟨more + 1, by rw [totalSize, size]; omega, ?_⟩
    rw [issuesOfAll, issues, hissue]
    exact .gained hdropped hgains

end

end FilterNode

/-! ## Filters -/

namespace FilterGroup

variable {core g h : FilterGroup} {fields : List Field}

/-- The other filter is this one with dropped conditions inserted. -/
def PadsTo (fields : List Field) (g padded : FilterGroup) : Prop :=
  g.toNode.PadsTo fields padded.toNode

theorem PadsTo.plan_eq (hg : core.PadsTo fields g) : g.plan fields = core.plan fields :=
  Option.some.inj (FilterNode.PadsTo.plan?_eq hg)

/-- What is compiled depends on the plan, the issues apart. -/
theorem compile_eq_of_plan_eq {schema : Schema}
    (hplan : h.plan schema.fields = g.plan schema.fields) (hg : g.IsWithinLimits)
    (hh : h.IsWithinLimits) (tenant : String) (sort : Option SortSpec) :
    compile h schema tenant sort =
      (compile g schema tenant sort).map fun c => { c with issues := h.issues schema.fields } := by
  have hcompiled (order : Option Sql.Order) : h.compiledFor schema tenant order =
      { g.compiledFor schema tenant order with issues := h.issues schema.fields } := by
    simp only [compiledFor, hplan]
  rw [compile_eq, compile_eq, checkComplexity_eq, checkComplexity_eq, if_pos hg, if_pos hh]
  cases sort.mapM schema.order? with
  | error e => rfl
  | ok order => exact congrArg Except.ok (hcompiled order)

/-- Two filters, of which each is a third one with dropped conditions inserted, differ in what is
reported and in nothing else. -/
structure DifferInIssues (fields : List Field) (core g h : FilterGroup) : Prop where
  plan : h.plan fields = g.plan fields
  accepts : ∀ record, h.accepts fields record = g.accepts fields record
  /-- If both are within the limits, they compile to the same, the issues apart, or fail alike. -/
  compiled : ∀ schema tenant sort, schema.fields = fields → g.IsWithinLimits → h.IsWithinLimits →
    compile h schema tenant sort =
      (compile g schema tenant sort).map fun c => { c with issues := h.issues fields }
  /-- So the text and the values are the same. -/
  text : ∀ schema tenant sort, schema.fields = fields → g.IsWithinLimits → h.IsWithinLimits →
    (compile h schema tenant sort).map (fun c => (c.whereSql, c.values)) =
      (compile g schema tenant sort).map fun c => (c.whereSql, c.values)
  /-- Each inserted condition is reported, as unknown or illegal, and all other issues stay. -/
  issues : ∀ padded ∈ [g, h], ∃ more, padded.size = core.size + more ∧
    FilterIssue.Gains more (core.issues fields) (padded.issues fields)

/-- **Dropped conditions contribute nothing.** With `core` for one of the two, this says what
inserting or deleting some does; otherwise some are deleted and others inserted. -/
theorem differInIssues_of_padsTo (hg : core.PadsTo fields g) (hh : core.PadsTo fields h) :
    DifferInIssues fields core g h := by
  have hplan : h.plan fields = g.plan fields := hh.plan_eq.trans hg.plan_eq.symm
  exact {
    plan := hplan
    accepts := fun record => by rw [accepts, accepts, hplan]
    compiled := by
      rintro schema tenant sort rfl hlimits hlimits'
      exact compile_eq_of_plan_eq hplan hlimits hlimits' tenant sort
    text := by
      rintro schema tenant sort rfl hlimits hlimits'
      rw [compile_eq_of_plan_eq hplan hlimits hlimits']
      cases compile g schema tenant sort with
      | error e => rfl
      | ok c => rfl
    issues := by
      intro padded hpadded
      rw [List.mem_pair] at hpadded
      rcases hpadded with rfl | rfl
      · exact FilterNode.PadsTo.exists_gains hg
      · exact FilterNode.PadsTo.exists_gains hh }

end FilterGroup

/-- A choice in which the first group has these nodes. -/
def samplePadded (before parts : List FilterNode) : FilterGroup :=
  ⟨"root", .or, before ++ [.group "1" .and parts,
    .cond (.on "2" "plan" "equals" (.string "basic"))]⟩

theorem differInIssues_of_padsTo_sample :
    (samplePadded [] [.cond (.on "3" "shoeSize" "equals" (Json.int 42))]).plan
        Resource.clients.fields = .const true ∧
      FilterGroup.DifferInIssues Resource.clients.fields (samplePadded [] [])
        (samplePadded [] [.cond (.on "3" "shoeSize" "equals" (Json.int 42))])
        (samplePadded [.cond (.on "4" "name" "gt" (.string "a"))] []) := by
  have hunknown : (Condition.on "3" "shoeSize" "equals" (Json.int 42)).IsDropped
      Resource.clients.fields := .unknownField (by decide)
  have hillegal : (Condition.on "4" "name" "gt" (.string "a")).IsDropped
      Resource.clients.fields :=
    .illegalOperator rfl (Field.unusable_of_allows_eq_false .gt (by decide))
  refine ⟨rfl, FilterGroup.differInIssues_of_padsTo ?_ ?_⟩
  · exact .group _ _ (.cons (.group _ _ (.insert hunknown .nil)) (FilterNode.allPadTo_refl _))
  · exact .group _ _ (.insert hillegal (FilterNode.allPadTo_refl _))

end BillingQuery
