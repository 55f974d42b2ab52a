import BillingQuery.Filter.Record
import BillingQuery.Proofs.NumberText
import BillingQuery.Query.Compile
import Mathlib.Data.List.Flatten
import Mathlib.Tactic.SplitIfs

/-!
# The tests of a plan

**Main result (`exists_condition_of_mem_tests`).** Every test of the plan of a filter comes from a
condition of the filter, on a listed field, by the rule for the field's type. So the operand is of a
kind that suits the type (`Operand.suits`), and its texts are folded texts of the condition's value.

Joining parts into a plan makes no test, and the values that a plan binds are those of its tests
from left to right.
-/

namespace BillingQuery

namespace Plan

theorem isConst_iff {p : Plan} {b : Bool} : p.isConst b = true ↔ p = .const b := by
  cases p with
  | const c => simp [isConst]
  | test field operand | all parts | any parts => simp [isConst]

mutual

/-- The tests of the plan, from left to right. -/
def tests : Plan → List (Field × Operand)
  | const _ => []
  | test field operand => [(field, operand)]
  | all parts => testsOfAll parts
  | any parts => testsOfAll parts

def testsOfAll : List Plan → List (Field × Operand)
  | [] => []
  | p :: ps => tests p ++ testsOfAll ps

end

theorem testsOfAll_eq (parts : List Plan) : testsOfAll parts = parts.flatMap tests := by
  induction parts with
  | nil => rfl
  | cons p ps ih => rw [testsOfAll, ih, List.flatMap_cons]

theorem testsOfAll_append (ps qs : List Plan) :
    testsOfAll (ps ++ qs) = testsOfAll ps ++ testsOfAll qs := by
  rw [testsOfAll_eq, List.flatMap_append, testsOfAll_eq, testsOfAll_eq]

/-- Joining drops tests, and makes none. -/
theorem tests_join_sublist (logical : Logical) (parts : List Plan) :
    (join logical parts).tests.Sublist (testsOfAll parts) := by
  have hfilter (keep : Plan → Bool) :
      (testsOfAll (parts.filter keep)).Sublist (testsOfAll parts) := by
    rw [testsOfAll_eq, testsOfAll_eq]
    exact (List.filter_sublist (l := parts)).flatMap tests
  unfold join
  dsimp only
  split_ifs
  · exact List.nil_sublist _
  · exact List.nil_sublist _
  · have hkept := hfilter fun p => !p.isConst !(logical == .or)
    split
    · exact List.nil_sublist _
    · next p heq =>
      rw [heq, testsOfAll, testsOfAll, List.append_nil] at hkept
      exact hkept
    · cases logical with
      | and => exact hkept
      | or => exact hkept

theorem tests_join_subset (logical : Logical) (parts : List Plan) :
    (join logical parts).tests ⊆ testsOfAll parts :=
  (tests_join_sublist logical parts).subset

mutual

/-- The values are those of the tests. -/
theorem values_eq (p : Plan) : p.values = p.tests.flatMap fun t => t.2.values := by
  cases p with
  | const b => rfl
  | test field operand => simp [values, tests]
  | all parts => exact valuesOfAll_eq parts
  | any parts => exact valuesOfAll_eq parts

theorem valuesOfAll_eq (ps : List Plan) :
    valuesOfAll ps = (testsOfAll ps).flatMap fun t => t.2.values := by
  cases ps with
  | nil => rfl
  | cons p ps =>
    rw [valuesOfAll, testsOfAll, List.flatMap_append, values_eq p, valuesOfAll_eq ps]

end

end Plan

/-- Values that stand at a place among others are found there. -/
theorem getElem?_of_part {values own : List α} {bound i : Nat} (h : own <+: values.drop bound)
    (hi : i < own.length) : values[bound + i]? = own[i]? := by
  obtain ⟨rest, hrest⟩ := h
  rw [← List.getElem?_drop, ← hrest, List.getElem?_append_left hi]

/-! ## The columns of a plan -/

/-- A test names its own column, and no other. -/
theorem Operand.columns_predicate (operand : Operand) (column : String) (bound : Nat) :
    (operand.predicate column bound).columns ⊆ [column] := by
  cases operand <;>
    simp [predicate, isNumeric, isDay, Sql.Predicate.columns, Sql.Predicate.columnsOfAll,
      Sql.Term.columns]

namespace Plan

mutual

/-- The predicate of a plan names the columns of its tests, and no others. -/
theorem columns_predicate (p : Plan) (bound : Nat) :
    (p.predicate bound).columns ⊆ p.tests.map fun t => t.1.column := by
  cases p with
  | const b => cases b <;> exact List.nil_subset _
  | test field operand => exact operand.columns_predicate field.column bound
  | all parts => exact columnsOfAll_predicates parts bound
  | any parts => exact columnsOfAll_predicates parts bound

theorem columnsOfAll_predicates (ps : List Plan) (bound : Nat) :
    Sql.Predicate.columnsOfAll (predicates bound ps) ⊆
      (testsOfAll ps).map fun t => t.1.column := by
  cases ps with
  | nil => exact List.nil_subset _
  | cons p ps =>
    rw [testsOfAll, List.map_append]
    exact List.append_subset.2
      ⟨List.Subset.trans (columns_predicate p bound) (List.subset_append_left _ _),
        List.Subset.trans (columnsOfAll_predicates ps _) (List.subset_append_right _ _)⟩

end

end Plan

/-! ## The conditions of a filter -/

namespace FilterNode

mutual

/-- The conditions in this subtree, in order. -/
def conditions : FilterNode → List Condition
  | .cond c => [c]
  | .group _ _ children => conditionsOfAll children

def conditionsOfAll : List FilterNode → List Condition
  | [] => []
  | n :: ns => conditions n ++ conditionsOfAll ns

end

mutual

theorem exists_condition_of_mem_tests {fields : List Field} {t : Field × Operand}
    (n : FilterNode) (h : t ∈ Plan.testsOfAll (plan? fields n).toList) :
    ∃ c ∈ n.conditions, c.verdict fields = .test t.1 t.2 := by
  cases n with
  | cond c =>
    refine ⟨c, List.mem_singleton_self c, ?_⟩
    rw [plan?, Condition.plan?] at h
    cases hv : c.verdict fields with
    | unknownField | illegalOperator => simp [hv, Plan.testsOfAll] at h
    | unmatchable field reason => simp [hv, Plan.testsOfAll, Plan.tests] at h
    | test field operand =>
      obtain rfl : t = (field, operand) := by simpa [hv, Plan.testsOfAll, Plan.tests] using h
      rfl
  | group id logical children =>
    rw [plan?, Option.toList_some, Plan.testsOfAll, Plan.testsOfAll, List.append_nil] at h
    exact exists_condition_of_mem_testsOfAll children (Plan.tests_join_subset _ _ h)

theorem exists_condition_of_mem_testsOfAll {fields : List Field} {t : Field × Operand}
    (ns : List FilterNode) (h : t ∈ Plan.testsOfAll (plans fields ns)) :
    ∃ c ∈ conditionsOfAll ns, c.verdict fields = .test t.1 t.2 := by
  cases ns with
  | nil => cases h
  | cons n ns =>
    rw [plans, Plan.testsOfAll_append, List.mem_append] at h
    rcases h with h | h
    · obtain ⟨c, hc, hv⟩ := exists_condition_of_mem_tests n h
      exact ⟨c, List.mem_append_left _ hc, hv⟩
    · obtain ⟨c, hc, hv⟩ := exists_condition_of_mem_testsOfAll ns h
      exact ⟨c, List.mem_append_right _ hc, hv⟩

end

end FilterNode

namespace FilterGroup

/-- The conditions of the filter, in order. -/
def conditions (g : FilterGroup) : List Condition := FilterNode.conditionsOfAll g.children

theorem exists_condition_of_mem_tests {g : FilterGroup} {fields : List Field}
    {t : Field × Operand} (h : t ∈ (g.plan fields).tests) :
    ∃ c ∈ g.conditions, c.verdict fields = .test t.1 t.2 :=
  FilterNode.exists_condition_of_mem_testsOfAll g.children (Plan.tests_join_subset _ _ h)

end FilterGroup

/-! ## Operands of conditions -/

/-- The types whose values compare as text. -/
def FieldType.isText (type : FieldType) : Bool := type == .string || type == .id || type == .enum

/-- The types on which a test may have the operand. -/
def Operand.suits (operand : Operand) (type : FieldType) : Bool :=
  match operand with
  | .text _ | .textSet _ | .pattern _ _ => type.isText
  | .flag _ => type == .boolean
  | .number _ _ | .numberRange _ _ => type == .number
  | .day _ | .dayRange _ _ => type == .date

namespace Condition

theorem coerced_eq_ok {c : Condition} {coerce : Json → Option α} {a : α} :
    c.coerced coerce = .ok a ↔ ∃ j, c.value = some j ∧ coerce j = some a := by
  unfold coerced
  cases c.value with
  | none => simp
  | some j =>
    dsimp only
    cases h : coerce j <;> simp [h]

theorem map_eq_ok {f : α → β} {x : Except ε α} {b : β} :
    f <$> x = .ok b ↔ ∃ a, x = .ok a ∧ f a = b := by
  cases x with
  | error e => simp [Functor.map, Except.map]
  | ok a => simp [Functor.map, Except.map]

theorem textOperand_eq_ok {c : Condition} {operand : Operand} :
    c.textOperand = .ok operand ↔
      ∃ s, (∃ j, c.value = some j ∧ j.foldedText? = some s) ∧ .text s = operand := by
  rw [textOperand, map_eq_ok]
  simp only [coerced_eq_ok]

theorem patternOperand_eq_ok {kind : PatternKind} {c : Condition} {operand : Operand} :
    c.patternOperand kind = .ok operand ↔
      ∃ s, (∃ j, c.value = some j ∧ j.foldedText? = some s) ∧ .pattern kind s = operand := by
  rw [patternOperand, map_eq_ok]
  simp only [coerced_eq_ok]

theorem textSetOperand_eq_ok {c : Condition} {operand : Operand} :
    c.textSetOperand = .ok operand ↔
      ∃ j, c.value = some j ∧ j.foldedTexts ≠ [] ∧ .textSet j.foldedTexts = operand := by
  unfold textSetOperand
  cases c.value with
  | none => simp
  | some j =>
    dsimp only
    split_ifs with h <;> simp_all

theorem numberRangeOperand_eq_ok {c : Condition} {operand : Operand}
    (h : c.numberRangeOperand = .ok operand) :
    ∃ low high, low ≤ high ∧ operand = .numberRange low high := by
  unfold numberRangeOperand at h
  cases hb : c.coercedBounds Json.toNumber? with
  | error e => simp [hb, bind, Except.bind] at h
  | ok bounds =>
    obtain ⟨low, high⟩ := bounds
    simp only [hb, bind, Except.bind] at h
    split_ifs at h with hlt
    obtain rfl := Except.ok.inj h
    exact ⟨low, high, Int.not_lt.1 hlt, rfl⟩

theorem dayRangeOperand_eq_ok {c : Condition} {operand : Operand}
    (h : c.dayRangeOperand = .ok operand) :
    ∃ low high, low ≤ high ∧ operand = .dayRange low high := by
  unfold dayRangeOperand at h
  cases hb : c.coercedBounds Json.toDay? with
  | error e => simp [hb, bind, Except.bind] at h
  | ok bounds =>
    obtain ⟨low, high⟩ := bounds
    simp only [hb, bind, Except.bind] at h
    split_ifs at h with hlt
    obtain rfl := Except.ok.inj h
    exact ⟨low, high, Nat.not_lt.1 hlt, rfl⟩

/-- The rule for a type gives operands that suit it. -/
theorem suits_of_operandRule? {type : FieldType} {op : Operator} {c : Condition}
    {rule : Condition → Except Unmatchable Operand} {operand : Operand}
    (hrule : operandRule? type op = some rule) (h : rule c = .ok operand) :
    operand.suits type = true := by
  unfold operandRule? at hrule
  split at hrule <;> cases hrule
  all_goals first
    | (obtain ⟨s, -, rfl⟩ := textOperand_eq_ok.1 h; rfl)
    | (obtain ⟨j, -, -, rfl⟩ := textSetOperand_eq_ok.1 h; rfl)
    | (obtain ⟨s, -, rfl⟩ := patternOperand_eq_ok.1 h; rfl)
    | (obtain ⟨a, -, rfl⟩ := map_eq_ok.1 h; rfl)
    | (obtain ⟨low, high, -, rfl⟩ := numberRangeOperand_eq_ok h; rfl)
    | (obtain ⟨low, high, -, rfl⟩ := dayRangeOperand_eq_ok h; rfl)

/-! ### Verdicts -/

section
variable {c : Condition} {fields : List Field} {field : Field}
  {rule : Condition → Except Unmatchable Operand}

/-- The rule by which the condition is read on a field, if its operator is a legal one there. -/
def rule? (c : Condition) (field : Field) : Option (Condition → Except Unmatchable Operand) :=
  ((Operator.ofName? c.operator).filter field.allows).bind (operandRule? field.type)

theorem verdict_of_unknown (hfound : findField? fields c.field = none) :
    c.verdict fields = .unknownField := by
  rw [verdict, hfound]

theorem verdict_of_unusable (hfound : findField? fields c.field = some field)
    (hrule : c.rule? field = none) : c.verdict fields = .illegalOperator := by
  rw [rule?] at hrule
  simp only [verdict, hfound, hrule]

theorem verdict_of_rule (hfound : findField? fields c.field = some field)
    (hrule : c.rule? field = some rule) :
    c.verdict fields = match rule c with
      | .ok operand => .test field operand
      | .error reason => .unmatchable field reason := by
  rw [rule?] at hrule
  cases hoperand : rule c with
  | ok operand => simp only [verdict, hfound, hrule, hoperand]
  | error reason => simp only [verdict, hfound, hrule, hoperand]

/-- What it takes for a condition to become a test. -/
theorem verdict_eq_test {operand : Operand} (h : c.verdict fields = .test field operand) :
    findField? fields c.field = some field ∧ ∃ op rule,
      Operator.ofName? c.operator = some op ∧ field.allows op = true ∧
      operandRule? field.type op = some rule ∧ rule c = .ok operand := by
  cases hfound : findField? fields c.field with
  | none =>
    rw [verdict_of_unknown hfound] at h
    cases h
  | some found =>
    cases hrule : c.rule? found with
    | none =>
      rw [verdict_of_unusable hfound hrule] at h
      cases h
    | some rule =>
      rw [verdict_of_rule hfound hrule] at h
      cases hoperand : rule c with
      | error reason =>
        rw [hoperand] at h
        cases h
      | ok o =>
        rw [hoperand] at h
        obtain ⟨rfl, rfl⟩ := Verdict.test.inj h
        obtain ⟨op, hop, hoprule⟩ := Option.bind_eq_some_iff.1 hrule
        rw [Option.filter_eq_some_iff] at hop
        exact ⟨rfl, op, rule, hop.1, hop.2, hoprule, hoperand⟩

end

end Condition

theorem mem_of_findField? {fields : List Field} {key : String} {field : Field}
    (h : findField? fields key = some field) : field ∈ fields :=
  List.mem_of_find?_eq_some h

/-- **Tests of a plan.** The field of a test is a listed one, and the operand suits its type. -/
theorem FilterGroup.suits_of_mem_tests {g : FilterGroup} {fields : List Field} {field : Field}
    {operand : Operand} (h : (field, operand) ∈ (g.plan fields).tests) :
    field ∈ fields ∧ operand.suits field.type = true := by
  obtain ⟨c, -, hv⟩ := exists_condition_of_mem_tests h
  obtain ⟨hf, op, rule, -, -, hrule, ho⟩ := Condition.verdict_eq_test hv
  exact ⟨mem_of_findField? hf, Condition.suits_of_operandRule? hrule ho⟩

/-- A filter names the columns of listed fields, and no others. -/
theorem FilterGroup.columns_predicate (g : FilterGroup) (fields : List Field) (bound : Nat) :
    ((g.plan fields).predicate bound).columns ⊆ fields.map Field.column := by
  intro c hc
  obtain ⟨⟨field, operand⟩, ht, rfl⟩ := List.mem_map.1 ((g.plan fields).columns_predicate bound hc)
  exact List.mem_map_of_mem (suits_of_mem_tests ht).1

/-! ## Needles -/

/-- The texts that a condition may read from the value: itself, or the items of a list. -/
def Json.texts : Json → List String
  | .string s => [s]
  | .array items => items.filterMap fun
    | .string s => some s
    | _ => none
  | _ => []

/-- The texts in the values of the condition. -/
def Condition.texts (c : Condition) : List String :=
  (c.value.toList ++ c.value2.toList).flatMap Json.texts

/-- The texts in the values of all conditions. -/
def FilterGroup.texts (g : FilterGroup) : List String := g.conditions.flatMap Condition.texts

/-- No value of a condition has a NUL. -/
def FilterGroup.IsNulFree (g : FilterGroup) : Prop := ∀ s ∈ g.texts, Text.IsNulFree s

instance (g : FilterGroup) : Decidable g.IsNulFree :=
  inferInstanceAs (Decidable (∀ s ∈ g.texts, Text.IsNulFree s))

theorem Json.fold_of_foldedText? {j : Json} {s : String} (h : j.foldedText? = some s) :
    Text.fold s = s := by
  cases j with
  | string t =>
    obtain rfl := Option.some.inj h
    exact Text.fold_fold t
  | number n =>
    obtain rfl := Option.some.inj h
    exact Text.fold_fold n.text
  | null | bool b | array items | object members => cases h

/-- A folded text is made of characters of the value's texts, or of those of numbers. -/
theorem Json.exists_of_mem_foldedText? {j : Json} {s : String} {c : Char}
    (h : j.foldedText? = some s) (hc : c ∈ s.toList) :
    ∃ d : Char, d.toLower = c ∧ (isNumberChar d = true ∨ ∃ t ∈ j.texts, d ∈ t.toList) := by
  cases j with
  | string t =>
    obtain rfl := Option.some.inj h
    rw [Text.toList_fold, List.mem_map] at hc
    obtain ⟨d, hd, rfl⟩ := hc
    exact ⟨d, rfl, Or.inr ⟨t, List.mem_singleton_self t, hd⟩⟩
  | number n =>
    obtain rfl := Option.some.inj h
    rw [Text.toList_fold, List.mem_map] at hc
    obtain ⟨d, hd, rfl⟩ := hc
    exact ⟨d, rfl, Or.inl (n.isNumberChar_of_mem_text hd)⟩
  | null | bool b | array items | object members => cases h

/-- A needle is the folded text of a condition's value. -/
theorem Condition.exists_value_of_pattern {c : Condition} {fields : List Field} {field : Field}
    {kind : PatternKind} {needle : String}
    (h : c.verdict fields = .test field (.pattern kind needle)) :
    ∃ j, c.value = some j ∧ j.foldedText? = some needle := by
  obtain ⟨-, op, rule, -, -, hrule, ho⟩ := verdict_eq_test h
  unfold operandRule? at hrule
  split at hrule <;> cases hrule
  all_goals first
    | (obtain ⟨s, hj, heq⟩ := patternOperand_eq_ok.1 ho; cases heq; exact hj)
    | (obtain ⟨s, -, heq⟩ := textOperand_eq_ok.1 ho; cases heq)
    | (obtain ⟨j, -, -, heq⟩ := textSetOperand_eq_ok.1 ho; cases heq)
    | (obtain ⟨a, -, heq⟩ := map_eq_ok.1 ho; cases heq)
    | (obtain ⟨low, high, -, heq⟩ := numberRangeOperand_eq_ok ho; cases heq)
    | (obtain ⟨low, high, -, heq⟩ := dayRangeOperand_eq_ok ho; cases heq)

namespace FilterGroup

variable {g : FilterGroup} {fields : List Field} {field : Field} {kind : PatternKind}
  {needle : String}

theorem fold_needle (h : (field, .pattern kind needle) ∈ (g.plan fields).tests) :
    Text.fold needle = needle := by
  obtain ⟨c, -, hv⟩ := exists_condition_of_mem_tests h
  obtain ⟨j, -, hneedle⟩ := Condition.exists_value_of_pattern hv
  exact Json.fold_of_foldedText? hneedle

/-- The characters of needles are those of the filter's texts and of numbers, in lower case. -/
theorem exists_of_mem_needle {c : Char}
    (h : (field, .pattern kind needle) ∈ (g.plan fields).tests) (hc : c ∈ needle.toList) :
    ∃ d : Char, d.toLower = c ∧ (isNumberChar d = true ∨ ∃ t ∈ g.texts, d ∈ t.toList) := by
  obtain ⟨condition, hcondition, hv⟩ := exists_condition_of_mem_tests h
  obtain ⟨j, hj, hneedle⟩ := Condition.exists_value_of_pattern hv
  obtain ⟨d, hd, horigin⟩ := Json.exists_of_mem_foldedText? hneedle hc
  refine ⟨d, hd, horigin.imp_right ?_⟩
  rintro ⟨t, ht, hdt⟩
  refine ⟨t, List.mem_flatMap.2 ⟨condition, hcondition, ?_⟩, hdt⟩
  exact List.mem_flatMap.2 ⟨j, by simp [hj], ht⟩

theorem isNulFree_needle (hg : g.IsNulFree)
    (h : (field, .pattern kind needle) ∈ (g.plan fields).tests) : Text.IsNulFree needle := by
  intro hnul
  obtain ⟨d, hd, hnumber | ⟨t, ht, hdt⟩⟩ := exists_of_mem_needle h hnul
  · rw [Text.toLower_eq_nul] at hd
    rw [hd] at hnumber
    cases hnumber
  · rw [Text.toLower_eq_nul] at hd
    exact hg t ht (hd ▸ hdt)

end FilterGroup

end BillingQuery
