import BillingQuery.Proofs.Meaning
import BillingQuery.Proofs.PlanShape
import Mathlib.Data.List.Forall2

/-!
# The form of a plan

**Main result (`FilterGroup.isFormed_plan`).** The plan of a filter is a constant or free of
constants; its tests come from conditions of the filter, in order; and it is nested no deeper than
the filter. Each test is on the field that its condition names, by an operator that the field
allows, and has an operand of a legal kind that is ready to be compared (`Operand.IsReady`): text is
in lower case, a range is in order, and a list is not empty and says nothing twice.

Nothing of this depends on the list of fields. A field may allow operators that do not suit its
type; conditions that use them are dropped.
-/

namespace BillingQuery

/-! ## Operands -/

/-- No ASCII letter is a capital. -/
def Text.IsLower (s : String) : Prop := ∀ c ∈ s.toList, ¬ ('A' ≤ c ∧ c ≤ 'Z')

/-- The magnitude is below `2^1024`. -/
def Binary64.IsFinite (x : Binary64) : Prop := x.magnitude < 2 ^ (1024 + 1074)

/-- The kinds of operands that tests on a field of the type may have. -/
def Operand.IsLegalFor (type : FieldType) : Operand → Prop
  | .text _ | .textSet _ => type ∈ [.string, .id, .enum]
  | .pattern _ _ => type ∈ [.string, .id]
  | .flag _ => type = .boolean
  | .number _ _ | .numberRange _ _ => type = .number
  | .day _ | .dayRange _ _ => type = .date

/-- What is compared needs no more care. -/
def Operand.IsReady : Operand → Prop
  | .text s => Text.IsLower s
  | .textSet items => items ≠ [] ∧ items.Nodup ∧ ∀ s ∈ items, Text.IsLower s
  | .pattern _ needle => Text.IsLower needle
  | .number _ x => x.IsFinite
  | .numberRange low high => low ≤ high ∧ low.IsFinite ∧ high.IsFinite
  | .dayRange low high => low ≤ high
  | .flag _ | .day _ => True

theorem mul_two_pow_lt {m n a b : Nat} (hm : m < 2 ^ a) (hn : n ≤ b) : m * 2 ^ n < 2 ^ (a + b) := by
  rw [Nat.pow_add]
  exact Nat.mul_lt_mul_of_lt_of_le hm (Nat.pow_le_pow_right (by decide) hn) (Nat.two_pow_pos _)

theorem Binary64.isFinite (x : Binary64) : x.IsFinite := by
  have hexponent : 1024 + 1074 = 53 + 2045 := rfl
  unfold IsFinite magnitude
  rw [hexponent]
  exact @mul_two_pow_lt x.coefficient x.shift 53 2045 x.coefficient_lt x.shift_le

theorem Text.isLower_of_fold {s : String} (h : Text.fold s = s) : IsLower s := by
  intro c hc hupper
  rw [← h] at hc
  have hsame := toLower_of_mem_fold hc
  have hnat := toNat_toLower_of_upper ⟨hupper.1, hupper.2⟩
  rw [hsame] at hnat
  omega

theorem Text.fold_of_isLower {s : String} (h : IsLower s) : fold s = s := by
  apply String.toList_injective
  rw [toList_fold]
  conv_rhs => rw [← List.map_id s.toList]
  exact List.map_congr_left fun c hc => toLower_of_not_upper fun hupper => h c hc hupper

namespace Json

variable {j : Json} {s : String}

theorem isLower_of_foldedText? (h : j.foldedText? = some s) : Text.IsLower s :=
  Text.isLower_of_fold (fold_of_foldedText? h)

theorem isLower_of_mem_foldedTexts (h : s ∈ j.foldedTexts) : Text.IsLower s := by
  have hnames := mem_foldedTexts.1 h
  cases j with
  | array items =>
    obtain ⟨item, -, hitem⟩ := hnames
    exact isLower_of_foldedText? hitem
  | string t =>
    obtain ⟨piece, -, rfl⟩ := hnames
    exact Text.isLower_of_fold (Text.fold_fold piece)
  | null | bool b | number n | object members => exact isLower_of_foldedText? hnames

end Json

theorem Text.nodup_dedup [DecidableEq α] (as : List α) : (dedup as).Nodup := by
  induction as with
  | nil => exact List.nodup_nil
  | cons a as ih =>
    rw [dedup, List.nodup_cons]
    exact ⟨by simp, ih.filter _⟩

theorem Json.nodup_foldedTexts (j : Json) : j.foldedTexts.Nodup := Text.nodup_dedup _

namespace Condition

variable {c : Condition} {operand : Operand}

/-- The rule for a type and an operator gives operands that are legal for the type and ready. -/
theorem ready_of_operandRule? {type : FieldType} {op : Operator}
    {rule : Condition → Except Unmatchable Operand} (hrule : operandRule? type op = some rule)
    (h : rule c = .ok operand) : operand.IsLegalFor type ∧ operand.IsReady := by
  have htext (htype : type ∈ [.string, .id, .enum]) (h : c.textOperand = .ok operand) :
      operand.IsLegalFor type ∧ operand.IsReady := by
    obtain ⟨s, ⟨j, -, hs⟩, rfl⟩ := textOperand_eq_ok.1 h
    exact ⟨htype, Json.isLower_of_foldedText? hs⟩
  have hset (htype : type ∈ [.string, .id, .enum]) (h : c.textSetOperand = .ok operand) :
      operand.IsLegalFor type ∧ operand.IsReady := by
    obtain ⟨j, -, hne, rfl⟩ := textSetOperand_eq_ok.1 h
    exact ⟨htype, hne, j.nodup_foldedTexts, fun s => Json.isLower_of_mem_foldedTexts⟩
  have hpattern (kind : PatternKind) (htype : type ∈ [.string, .id])
      (h : c.patternOperand kind = .ok operand) : operand.IsLegalFor type ∧ operand.IsReady := by
    obtain ⟨s, ⟨j, -, hs⟩, rfl⟩ := patternOperand_eq_ok.1 h
    exact ⟨htype, Json.isLower_of_foldedText? hs⟩
  have hnumber (comparison : Comparison) (htype : type = .number)
      (h : c.numberOperand comparison = .ok operand) :
      operand.IsLegalFor type ∧ operand.IsReady := by
    obtain ⟨x, -, rfl⟩ := map_eq_ok.1 h
    exact ⟨htype, x.isFinite⟩
  -- The 21 rules read their value in six ways; four of those serve more than one type or operator.
  unfold operandRule? at hrule
  split at hrule <;> cases hrule
  case h_1 | h_2 | h_3 => exact htext (by decide) h
  case h_4 | h_5 | h_6 => exact hset (by decide) h
  case h_7 | h_8 => exact hpattern .contains (by decide) h
  case h_9 | h_10 => exact hpattern .startsWith (by decide) h
  case h_11 | h_12 => exact hpattern .endsWith (by decide) h
  case h_13 =>
    obtain ⟨b, -, rfl⟩ := map_eq_ok.1 h
    exact ⟨rfl, trivial⟩
  case h_14 => exact hnumber .eq rfl h
  case h_15 => exact hnumber .gt rfl h
  case h_16 => exact hnumber .lt rfl h
  case h_17 => exact hnumber .gte rfl h
  case h_18 => exact hnumber .lte rfl h
  case h_19 =>
    obtain ⟨low, high, hle, rfl⟩ := numberRangeOperand_eq_ok h
    exact ⟨rfl, hle, low.isFinite, high.isFinite⟩
  case h_20 =>
    obtain ⟨d, -, rfl⟩ := map_eq_ok.1 h
    exact ⟨rfl, trivial⟩
  case h_21 =>
    obtain ⟨low, high, hle, rfl⟩ := dayRangeOperand_eq_ok h
    exact ⟨rfl, hle⟩

/-- A condition whose field, operator and value are found good is a test. -/
theorem verdict_of_operand {fields : List Field} {field : Field} {op : Operator}
    {rule : Condition → Except Unmatchable Operand}
    (hfound : findField? fields c.field = some field)
    (hname : Operator.ofName? c.operator = some op) (hallowed : field.allows op = true)
    (hrule : operandRule? field.type op = some rule) (hoperand : rule c = .ok operand) :
    c.verdict fields = .test field operand := by
  have hread : c.rule? field = some rule := by
    rw [rule?, hname, Option.filter_some, if_pos hallowed, Option.bind_some, hrule]
  rw [verdict_of_rule hfound hread, hoperand]

/-- The test is the condition's: on the first field with its key, by its operator. -/
structure Gives (c : Condition) (fields : List Field) (t : Field × Operand) : Prop where
  uses : ∃ op, c.Uses fields t.1 op
  legal : t.2.IsLegalFor t.1.type
  ready : t.2.IsReady

theorem gives_of_verdict {fields : List Field} {field : Field}
    (h : c.verdict fields = .test field operand) : c.Gives fields (field, operand) := by
  obtain ⟨hfound, op, rule, hname, hallowed, hrule, hoperand⟩ := verdict_eq_test h
  obtain ⟨hlegal, hready⟩ := ready_of_operandRule? hrule hoperand
  have hsuitable : op ∈ field.type.operators := by
    rw [← isSome_operandRule?, hrule, Option.isSome_some]
  exact ⟨⟨op, hfound, Operator.ofName?_eq_some.1 hname, by simpa [Field.allows] using hallowed,
    hsuitable⟩, hlegal, hready⟩

end Condition

/-! ## Tests of conditions -/

/-- The tests come from some of the conditions, in order, one from each. -/
def TestsComeFrom (fields : List Field) (cs : List Condition) (ts : List (Field × Operand)) :
    Prop :=
  ∃ used, used.Sublist cs ∧ List.Forall₂ (fun c t => c.Gives fields t) used ts

namespace TestsComeFrom

variable {fields : List Field} {cs ds : List Condition} {ts us : List (Field × Operand)}

theorem nil (cs : List Condition) : TestsComeFrom fields cs [] := ⟨[], List.nil_sublist cs, .nil⟩

theorem append (h : TestsComeFrom fields cs ts) (h' : TestsComeFrom fields ds us) :
    TestsComeFrom fields (cs ++ ds) (ts ++ us) := by
  obtain ⟨used, hsub, hgives⟩ := h
  obtain ⟨used', hsub', hgives'⟩ := h'
  exact ⟨used ++ used', hsub.append hsub', List.rel_append hgives hgives'⟩

/-- Tests may be dropped. -/
theorem of_sublist (h : TestsComeFrom fields cs ts) (hsub : us.Sublist ts) :
    TestsComeFrom fields cs us := by
  obtain ⟨used, hused, hgives⟩ := h
  induction hgives generalizing cs us with
  | nil =>
    rw [List.sublist_nil.1 hsub]
    exact nil cs
  | @cons c t used ts hfirst _ ih =>
    cases hsub with
    | cons _ hsub => exact ih hsub ((List.sublist_cons_self c used).trans hused)
    | @cons_cons us _ _ hsub =>
      obtain ⟨before, after, rfl, hmem, hafter⟩ := List.cons_sublist_iff.1 hused
      have hone : TestsComeFrom fields before [t] :=
        ⟨[c], List.singleton_sublist.2 hmem, .cons hfirst .nil⟩
      exact hone.append (ih hsub hafter)

theorem length_le (h : TestsComeFrom fields cs ts) : ts.length ≤ cs.length := by
  obtain ⟨used, hsub, hgives⟩ := h
  rw [← hgives.length_eq]
  exact hsub.length_le

end TestsComeFrom

namespace FilterNode

mutual

theorem testsComeFrom_conditions (fields : List Field) (n : FilterNode) :
    TestsComeFrom fields n.conditions (Plan.testsOfAll (plan? fields n).toList) := by
  cases n with
  | cond c =>
    rw [plan?, Condition.plan?]
    cases hv : c.verdict fields with
    | unknownField | illegalOperator | unmatchable field reason => exact .nil [c]
    | test field operand =>
      exact ⟨[c], List.Sublist.refl _, .cons (Condition.gives_of_verdict hv) .nil⟩
  | group id logical children =>
    rw [plan?, Option.toList_some, Plan.testsOfAll, Plan.testsOfAll, List.append_nil]
    exact (testsComeFrom_conditionsOfAll fields children).of_sublist (Plan.tests_join_sublist _ _)

theorem testsComeFrom_conditionsOfAll (fields : List Field) (ns : List FilterNode) :
    TestsComeFrom fields (conditionsOfAll ns) (Plan.testsOfAll (plans fields ns)) := by
  cases ns with
  | nil => exact .nil []
  | cons n ns =>
    rw [plans, Plan.testsOfAll_append, conditionsOfAll]
    exact (testsComeFrom_conditions fields n).append (testsComeFrom_conditionsOfAll fields ns)

end

end FilterNode

/-! ## Nesting -/

namespace Plan

mutual

/-- The "all" and "any" on the longest path down. -/
def nesting : Plan → Nat
  | const _ | test _ _ => 0
  | all parts | any parts => 1 + maxNesting parts

def maxNesting : List Plan → Nat
  | [] => 0
  | p :: ps => max p.nesting (maxNesting ps)

end

theorem maxNesting_le_iff {ps : List Plan} {k : Nat} :
    maxNesting ps ≤ k ↔ ∀ p ∈ ps, p.nesting ≤ k := by
  induction ps with
  | nil => simp [maxNesting]
  | cons p ps ih => rw [maxNesting, Nat.max_le, ih, List.forall_mem_cons]

/-- Joining adds one level at most. -/
theorem nesting_join_le {logical : Logical} {parts : List Plan} {k : Nat}
    (h : ∀ p ∈ parts, p.nesting ≤ k) : (join logical parts).nesting ≤ 1 + k := by
  unfold join
  dsimp only
  split_ifs
  · exact Nat.zero_le _
  · exact Nat.zero_le _
  · have hkept : ∀ p ∈ parts.filter fun p => !p.isConst !(logical == .or), p.nesting ≤ k :=
      fun p hp => h p (List.mem_filter.1 hp).1
    split
    · exact Nat.zero_le _
    · next p heq =>
      rw [heq] at hkept
      exact Nat.le_add_left_of_le (hkept p (List.mem_singleton_self p))
    · cases logical with
      | and | or => exact Nat.add_le_add_left (maxNesting_le_iff.2 hkept) 1

end Plan

namespace FilterNode

mutual

theorem nesting_le_depth {fields : List Field} (n : FilterNode) {p : Plan}
    (h : n.plan? fields = some p) : p.nesting ≤ n.depth := by
  cases n with
  | cond c =>
    rw [plan?, Condition.plan?] at h
    split at h <;> cases h <;> exact Nat.zero_le _
  | group id logical children =>
    cases h
    exact Plan.nesting_join_le (nesting_le_maxDepth children)

theorem nesting_le_maxDepth {fields : List Field} (ns : List FilterNode) :
    ∀ p ∈ plans fields ns, p.nesting ≤ maxDepth ns := by
  cases ns with
  | nil => exact fun _ h => absurd h List.not_mem_nil
  | cons n ns =>
    intro p hp
    rw [maxDepth]
    rcases List.mem_append.1 hp with hp | hp
    · exact Nat.le_trans (nesting_le_depth n (Option.mem_toList.1 hp)) (Nat.le_max_left _ _)
    · exact Nat.le_trans (nesting_le_maxDepth ns p hp) (Nat.le_max_right _ _)

end

end FilterNode

/-! ## Plans -/

/-- The plan has the form that the plan of the filter has. -/
structure Plan.IsFormedBy (p : Plan) (g : FilterGroup) (fields : List Field) : Prop where
  /-- It is a constant, or has none, and then all "all" and "any" have at least two parts. -/
  normal : p.IsNormal
  /-- The tests come from conditions of the filter, in order. -/
  tests : TestsComeFrom fields g.conditions p.tests
  /-- There are no more tests than conditions. -/
  length_le : p.tests.length ≤ g.conditions.length
  /-- It is nested no deeper than the filter. -/
  nesting_le : p.nesting ≤ g.depth

/-- **Form.** -/
theorem FilterGroup.isFormed_plan (g : FilterGroup) (fields : List Field) :
    (g.plan fields).IsFormedBy g fields := by
  have htests : TestsComeFrom fields g.conditions (g.plan fields).tests :=
    (FilterNode.testsComeFrom_conditionsOfAll fields g.children).of_sublist
      (Plan.tests_join_sublist _ _)
  exact {
    normal := g.isNormal_plan fields
    tests := htests
    length_le := htests.length_le
    nesting_le := Plan.nesting_join_le (FilterNode.nesting_le_maxDepth g.children) }

end BillingQuery
