import BillingQuery.Proofs.Days
import BillingQuery.Proofs.JsonTexts
import BillingQuery.Proofs.LikePattern
import BillingQuery.Proofs.TenantClause
import Mathlib.Data.List.Forall2

/-!
# Placeholders and the values bound to them

The text of a statement has placeholders and its values are a list apart, so that all depends on the
two being in step.

**Main result (`compile_bindsInOrder`).** In the text of a compiled filter the placeholders are
`$1`, `$2` and so on from left to right, one for each value: the tenant first, then the values of
the tests in the order of the tests. The text reads as a predicate in which each test finds its own.
A listing adds its limit and offset at the end, and binds few values, because a test binds two at
most and a tree has few conditions.
-/

namespace BillingQuery

/-! ## Placeholders of a text -/

namespace Sql

/-- The number of a placeholder. -/
def Token.number? : Token → Option Nat
  | .parameter n => some n
  | _ => none

/-- The numbers of the placeholders among some tokens, from left to right. -/
def numbers (ts : List Token) : List Nat := ts.filterMap Token.number?

/-- The numbers of the placeholders of a text, from left to right. -/
def placeholders? (sql : String) : Option (List Nat) := (tokens? sql.toList).map numbers

theorem placeholders?_of_lexes {sql : String} {ts : List Token} (h : Lexes sql.toList ts) :
    placeholders? sql = some (numbers ts) := by
  rw [placeholders?, h.eq_some, Option.map_some]

@[simp] theorem numbers_nil : numbers [] = [] := rfl

@[simp] theorem numbers_cons (t : Token) (ts : List Token) :
    numbers (t :: ts) = t.number?.toList ++ numbers ts := by
  cases t <;> rfl

@[simp] theorem numbers_append (ts us : List Token) :
    numbers (ts ++ us) = numbers ts ++ numbers us := List.filterMap_append

/-- Commas between lists of tokens are no placeholders. -/
theorem numbers_intercalate (tss : List (List Token)) :
    numbers ([.comma].intercalate tss) = tss.flatMap numbers := by
  induction tss with
  | nil => rfl
  | cons ts tss ih =>
    cases tss with
    | nil => simp
    | cons us tss =>
      rw [List.intercalate_cons_cons, numbers_append, numbers_append, ih]
      simp [Token.number?]

theorem numbers_joinedTokens (keyword : String) (ps : List Predicate) :
    numbers (Predicate.joinedTokens keyword ps) = ps.flatMap fun p => numbers p.tokens := by
  induction ps with
  | nil => rfl
  | cons p ps ih =>
    cases ps with
    | nil => simp [Predicate.joinedTokens]
    | cons q ps =>
      rw [Predicate.joinedTokens, numbers_append, numbers_cons, ih, List.flatMap_cons]
      rfl

end Sql

open Sql (numbers placeholders?)

/-- The placeholders of a test are those after the bound ones, one for each of its values. -/
theorem Operand.numbers_predicate (operand : Operand) (column : String) (bound : Nat) :
    numbers (operand.predicate column bound).tokens =
      List.range' (bound + 1) operand.values.length := by
  cases operand <;>
    simp [predicate, isNumeric, isDay, values, Sql.Predicate.tokens, Sql.Predicate.joinedTokens,
      Sql.Term.tokens, Sql.Token.number?, List.range']

namespace Plan

mutual

/-- **Numbering.** The placeholders of a plan are those after the bound ones, one for each value. -/
theorem numbers_predicate (p : Plan) (bound : Nat) :
    numbers (p.predicate bound).tokens = List.range' (bound + 1) p.values.length := by
  cases p with
  | const b => cases b <;> rfl
  | test field operand => exact operand.numbers_predicate field.column bound
  | all parts =>
    simp [predicate, values, Sql.Predicate.tokens, Sql.Token.number?, Sql.numbers_joinedTokens,
      numbers_predicates parts bound]
  | any parts =>
    simp [predicate, values, Sql.Predicate.tokens, Sql.Token.number?, Sql.numbers_joinedTokens,
      numbers_predicates parts bound]

theorem numbers_predicates (ps : List Plan) (bound : Nat) :
    ((predicates bound ps).flatMap fun p => numbers p.tokens) =
      List.range' (bound + 1) (valuesOfAll ps).length := by
  cases ps with
  | nil => rfl
  | cons p ps =>
    rw [predicates, List.flatMap_cons, numbers_predicate p bound, numbers_predicates ps _,
      valuesOfAll, List.length_append, ← List.range'_append_1, Nat.add_right_comm]

end

/-! ## Values of a plan -/

mutual

/-- Each test finds its own values, in order, at the placeholders of its predicate. -/
def FindsValues (values : List Sql.Value) : Plan → Sql.Predicate → Prop
  | const _, _ => True
  | test _ operand, p => ((numbers p.tokens).map fun n => values[n - 1]?) = operand.values.map some
  | all parts, .all ps => AllFindValues values parts ps
  | any parts, .any ps => AllFindValues values parts ps
  | all _, _ | any _, _ => False

def AllFindValues (values : List Sql.Value) : List Plan → List Sql.Predicate → Prop
  | [], [] => True
  | plan :: plans, p :: ps => plan.FindsValues values p ∧ AllFindValues values plans ps
  | [], _ :: _ | _ :: _, [] => False

end

theorem map_range'_of_prefix {values own : List Sql.Value} {bound : Nat}
    (h : own <+: values.drop bound) :
    ((List.range' (bound + 1) own.length).map fun n => values[n - 1]?) = own.map some := by
  apply List.ext_getElem
  · simp
  · intro i hi _
    rw [List.length_map, List.length_range'] at hi
    have hvalue : values[bound + i]? = own[i]? := getElem?_of_part h hi
    have hindex : bound + 1 + i - 1 = bound + i := by omega
    simp [hindex, hvalue, hi]

mutual

theorem findsValues_predicate {values : List Sql.Value} (p : Plan) {bound : Nat}
    (h : p.values <+: values.drop bound) : p.FindsValues values (p.predicate bound) := by
  cases p with
  | const b => trivial
  | test field operand =>
    rw [predicate, FindsValues, operand.numbers_predicate]
    exact map_range'_of_prefix h
  | all parts => exact allFindValues_predicates parts h
  | any parts => exact allFindValues_predicates parts h

theorem allFindValues_predicates {values : List Sql.Value} (ps : List Plan) {bound : Nat}
    (h : valuesOfAll ps <+: values.drop bound) :
    AllFindValues values ps (predicates bound ps) := by
  cases ps with
  | nil => trivial
  | cons p ps =>
    obtain ⟨rest, hrest⟩ := h
    rw [valuesOfAll, List.append_assoc] at hrest
    refine ⟨findsValues_predicate p ⟨_, hrest⟩, allFindValues_predicates ps ⟨rest, ?_⟩⟩
    rw [← List.drop_drop, ← hrest, List.drop_left]

end

end Plan

/-- The text is the ten characters `YYYY-MM-DD` of the day. -/
def Day.IsWritten (d : Day) (s : String) : Prop :=
  s.toList.length = 10 ∧ Day.ofLeading? s.toList = some d

theorem Day.isWritten_text (d : Day) : d.IsWritten d.text := by
  rw [IsWritten, text, String.toList_ofList]
  exact ⟨d.length_chars, Day.ofLeading?_eq_some.2 (List.prefix_refl _)⟩

/-- What a test binds: one value, or the lower bound and then the upper one. A list of texts is one
JSON array, a needle is escaped and has `%` where other characters may stand, and a day has ten
characters. -/
def Operand.IsBoundTo (operand : Operand) (bound : List Sql.Value) : Prop :=
  match operand with
  | text s => bound = [.text s]
  | textSet items => ∃ array, bound = [.text array] ∧
      ∀ depth, 0 < depth → Json.read? depth array = some (.array (items.map .string))
  | pattern kind needle => ∃ pattern, bound = [.text pattern] ∧
      pattern.toList = Sql.patternChars kind needle.toList
  | flag b => bound = [.bool b]
  | number _ x => bound = [.real x]
  | numberRange low high => bound = [.real low, .real high]
  | day d => ∃ s, bound = [.text s] ∧ d.IsWritten s
  | dayRange low high => ∃ s t, bound = [.text s, .text t] ∧ low.IsWritten s ∧ high.IsWritten t

theorem Operand.isBoundTo_values (operand : Operand) : operand.IsBoundTo operand.values := by
  cases operand with
  | text s | flag b | number comparison x | numberRange low high => rfl
  | textSet items => exact ⟨_, rfl, fun _ hdepth => Json.read?_write_texts items hdepth⟩
  | pattern kind needle => exact ⟨_, rfl, Sql.toList_likePattern kind needle⟩
  | day d => exact ⟨_, rfl, d.isWritten_text⟩
  | dayRange low high => exact ⟨_, _, rfl, low.isWritten_text, high.isWritten_text⟩

/-! ## How many values -/

theorem length_flatMap_le {f : α → List β} {k : Nat} (h : ∀ a, (f a).length ≤ k) (as : List α) :
    (as.flatMap f).length ≤ k * as.length := by
  induction as with
  | nil => simp
  | cons a as ih =>
    have ha := h a
    rw [List.flatMap_cons, List.length_append, List.length_cons, Nat.mul_succ]
    omega

theorem Operand.length_values_le (operand : Operand) : operand.values.length ≤ 2 := by
  cases operand <;> simp [values]

namespace FilterNode

mutual

theorem length_tests_le (fields : List Field) (n : FilterNode) :
    (Plan.testsOfAll (plan? fields n).toList).length ≤ n.conditions.length := by
  cases n with
  | cond c =>
    rw [plan?, Condition.plan?, conditions]
    split <;> simp [Plan.testsOfAll, Plan.tests]
  | group id logical children =>
    rw [plan?, Option.toList_some, Plan.testsOfAll, Plan.testsOfAll, List.append_nil]
    exact Nat.le_trans (Plan.tests_join_sublist _ _).length_le
      (length_testsOfAll_le fields children)

theorem length_testsOfAll_le (fields : List Field) (ns : List FilterNode) :
    (Plan.testsOfAll (plans fields ns)).length ≤ (conditionsOfAll ns).length := by
  cases ns with
  | nil => simp [plans, Plan.testsOfAll]
  | cons n ns =>
    have hn := length_tests_le fields n
    have hns := length_testsOfAll_le fields ns
    rw [plans, Plan.testsOfAll_append, conditionsOfAll, List.length_append, List.length_append]
    exact Nat.add_le_add hn hns

end

mutual

theorem length_conditions_le (n : FilterNode) : n.conditions.length ≤ n.size := by
  cases n with
  | cond c => exact Nat.le_refl 1
  | group id logical children =>
    exact Nat.le_trans (length_conditionsOfAll_le children) (Nat.le_add_left _ 1)

theorem length_conditionsOfAll_le (ns : List FilterNode) :
    (conditionsOfAll ns).length ≤ totalSize ns := by
  cases ns with
  | nil => exact Nat.le_refl 0
  | cons n ns =>
    rw [conditionsOfAll, totalSize, List.length_append]
    exact Nat.add_le_add (length_conditions_le n) (length_conditionsOfAll_le ns)

end

end FilterNode

namespace FilterGroup

variable (g : FilterGroup) (fields : List Field)

/-- A plan has no more tests than the filter has conditions. -/
theorem length_tests_le : (g.plan fields).tests.length ≤ g.conditions.length :=
  Nat.le_trans (Plan.tests_join_sublist _ _).length_le
    (FilterNode.length_testsOfAll_le fields g.children)

/-- The root is a node and no condition. -/
theorem length_conditions_lt : g.conditions.length < g.size := by
  rw [size, Nat.add_comm]
  exact Nat.lt_succ_of_le (FilterNode.length_conditionsOfAll_le g.children)

variable {g fields}

/-- A tree within the limits binds 510 values at most, whatever the lists in it. -/
theorem length_values_le (h : g.IsWithinLimits) : (g.plan fields).values.length ≤ 510 := by
  have hvalues : (g.plan fields).values.length ≤ 2 * (g.plan fields).tests.length := by
    rw [Plan.values_eq]
    exact length_flatMap_le (fun t => t.2.length_values_le) _
  have htests := g.length_tests_le fields
  have hconditions := g.length_conditions_lt
  have hsize : g.size ≤ 256 := h.2
  omega

end FilterGroup

/-! ## Compiled filters -/

/-- The placeholders of a compiled filter and the values bound to them are in step. -/
structure CompiledFilter.BindsInOrder (c : CompiledFilter) (plan : Plan) (tenant : String) :
    Prop where
  /-- The placeholders of the conditions are `$1` to `$n`, from left to right, one per value. -/
  conditions : placeholders? c.whereSql = some (List.range' 1 c.values.length)
  /-- The tenant is bound first, and then the values of the tests, from left to right. -/
  values : ∃ bound, c.values = .text tenant :: bound.flatten ∧
    List.Forall₂ (fun t own => t.2.IsBoundTo own) plan.tests bound
  /-- The conditions are the tenant clause and the predicate of the plan, if the plan needs one, -/
  clauses : c.conditions =
    c.schema.tenantScope :: if plan.isConst true then [] else [plan.predicate 1]
  /-- and they are what the text reads as. -/
  reading : Sql.read? c.whereSql = some (Sql.joinAll c.conditions)
  /-- In this predicate each test finds its own values. -/
  tests : plan.FindsValues c.values (plan.predicate 1)
  /-- A listing has the conditions as they are, and the limit and the offset at its end. -/
  text : ∀ limit offset, ∃ before after, (c.select limit offset).sql =
    before ++ c.whereSql ++ after ++ " LIMIT $" ++ natText (c.values.length + 1) ++
      " OFFSET $" ++ natText (c.values.length + 2)
  /-- It has no other placeholders. -/
  listing : ∀ limit offset,
    placeholders? (c.select limit offset).sql = some (List.range' 1 (c.values.length + 2))
  /-- Two more values are bound, the limit and the offset. -/
  bounds : ∀ limit offset,
    (c.select limit offset).values = c.values ++ [.integer limit, .integer offset]
  few : ∀ limit offset, (c.select limit offset).values.length ≤ 513

section
variable {g : FilterGroup} {schema : Schema} {tenant : String} {order : Option Sql.Order}

theorem FilterGroup.numbers_conditions :
    numbers (Sql.Predicate.joinedTokens "AND" (g.compiledFor schema tenant order).conditions) =
      List.range' 1 (g.compiledFor schema tenant order).values.length := by
  have hscope : numbers schema.tenantScope.tokens = [1] := rfl
  rw [Sql.numbers_joinedTokens]
  rcases g.conditions_compiledFor schema tenant order with ⟨hconst, h⟩ | h
  · rw [h]
    simp [compiledFor, hscope, hconst, Plan.values]
  · rw [h]
    simp [compiledFor, hscope, Plan.numbers_predicate, List.range'_succ]

theorem FilterGroup.placeholders?_whereSql (hplain : schema.HasPlainColumns) :
    placeholders? (g.compiledFor schema tenant order).whereSql =
      some (List.range' 1 (g.compiledFor schema tenant order).values.length) := by
  have hconditions : Sql.Predicate.ArePlain (g.compiledFor schema tenant order).conditions :=
    arePlain_conditions hplain
  have hlexes := Sql.Predicate.lexes_joined (by decide : isIdentifier "AND" = true) _ hconditions
  exact (Sql.placeholders?_of_lexes hlexes).trans (congrArg some numbers_conditions)

/-- What is written before the conditions and after them has no placeholders but the last two. -/
theorem FilterGroup.placeholders?_select (hplain : schema.HasPlainColumns)
    (hlist : schema.IsListable)
    (horder : ∀ o, order = some o → o.column ∈ schema.fields.map Field.column)
    (limit offset : Int) :
    placeholders? ((g.compiledFor schema tenant order).select limit offset).sql =
      some (List.range' 1 ((g.compiledFor schema tenant order).values.length + 2)) := by
  have hcolumns (columns : List Sql.ResultColumn) :
      (columns.map Sql.ResultColumn.tokens).flatMap numbers = [] := by
    rw [List.flatMap_map, List.flatMap_eq_nil_iff]
    intro c _
    unfold Sql.ResultColumn.tokens
    split <;> rfl
  have hend : numbers ((g.compiledFor schema tenant order).select limit offset).select.endTokens =
      [(g.compiledFor schema tenant order).values.length + 1,
        (g.compiledFor schema tenant order).values.length + 2] := by
    cases order <;> rfl
  have hconditions : numbers (Sql.Predicate.joinedTokens "AND"
      ((g.compiledFor schema tenant order).select limit offset).select.conditions) =
        List.range' 1 (g.compiledFor schema tenant order).values.length := numbers_conditions
  have hrange (n : Nat) : List.range' 1 (n + 2) = List.range' 1 n ++ [n + 1, n + 2] := by
    rw [← List.range'_append_1, Nat.add_comm 1 n]
    rfl
  rw [Sql.Statement.sql, Sql.placeholders?_of_lexes
    (Sql.Select.lexes (isPlain_select hplain hlist horder limit offset))]
  simp only [Sql.numbers_cons, Sql.numbers_append, Sql.numbers_intercalate, hcolumns, hconditions,
    hend, hrange, Sql.Token.number?, Option.toList_none, List.nil_append]

/-- The text of a listing, around its conditions. -/
theorem CompiledFilter.sql_select (c : CompiledFilter) (hconditions : c.conditions ≠ [])
    (limit offset : Int) :
    ∃ before after, (c.select limit offset).sql = before ++ c.whereSql ++ after ++
      " LIMIT $" ++ natText (c.values.length + 1) ++
      " OFFSET $" ++ natText (c.values.length + 2) := by
  have hlimit (s : String) : " LIMIT " ++ ("$" ++ s) = " LIMIT $" ++ s := String.append_assoc.symm
  have hoffset (s : String) : " OFFSET " ++ ("$" ++ s) = " OFFSET $" ++ s :=
    String.append_assoc.symm
  refine ⟨"SELECT " ++ ", ".intercalate ((c.select limit offset).select.columns.map
    Sql.ResultColumn.sql) ++ " FROM " ++ c.schema.table ++ " WHERE ",
    Sql.Select.clause " " (c.order.map Sql.Order.sql), ?_⟩
  simp [Sql.Statement.sql, Sql.Select.sql, select, hconditions, Sql.Select.clause, Sql.Term.sql,
    whereSql, String.append_assoc, hlimit, hoffset]

end

/-- **Placeholders and values.** Whatever the filter, the ordering and the tenant, the placeholders
of the text are in step with the bound values. -/
theorem compile_bindsInOrder {r : Resource} {g : FilterGroup} {tenant : String}
    {sort : Option SortSpec} {c : CompiledFilter} (h : compile g r.schema tenant sort = .ok c) :
    c.BindsInOrder (g.plan r.schema.fields) tenant := by
  obtain ⟨hlimits, -, rfl⟩ := compile_eq_ok_iff.1 h
  have hvalues : (g.plan r.schema.fields).values.length ≤ 510 :=
    FilterGroup.length_values_le hlimits
  have horder : ∀ o, r.schema.orderOf? sort = some o →
      o.column ∈ r.schema.fields.map Field.column :=
    fun o ho => Schema.column_of_orderOf? ho
  have hbound : List.Forall₂ (fun t own => Operand.IsBoundTo (Prod.snd t) own)
      (g.plan r.schema.fields).tests ((g.plan r.schema.fields).tests.map fun t => t.2.values) := by
    rw [List.forall₂_map_right_iff, List.forall₂_same]
    exact fun t _ => t.2.isBoundTo_values
  exact {
    conditions := FilterGroup.placeholders?_whereSql r.hasPlainColumns
    values := by
      refine ⟨_, ?_, hbound⟩
      rw [FilterGroup.compiledFor, Plan.values_eq, List.flatMap_def]
    clauses := by
      rw [FilterGroup.compiledFor]
      split <;> rfl
    reading := FilterGroup.read?_whereSql r.hasPlainColumns
    tests := Plan.findsValues_predicate _ (List.prefix_refl _)
    text := CompiledFilter.sql_select _
      (List.ne_nil_of_mem (g.tenantScope_mem_conditions r.schema tenant _))
    listing := FilterGroup.placeholders?_select r.hasPlainColumns r.isListable horder
    bounds := fun _ _ => rfl
    few := fun limit offset => by
      simp only [CompiledFilter.select, FilterGroup.compiledFor, List.length_append,
        List.length_cons, List.length_nil]
      omega }

theorem compile_bindsInOrder_sample :
    (sampleDisjunction.compiledFor Resource.clients.schema "t1"
      (Resource.clients.schema.orderOf? (some ⟨"name", .desc⟩))).BindsInOrder
        (sampleDisjunction.plan Resource.clients.schema.fields) "t1" := by
  have hsort : Resource.clients.schema.Sorts (some ⟨"name", .desc⟩) := by
    rintro _ ⟨⟩
    decide
  exact compile_bindsInOrder (compile_of_sorts (by decide) hsort)

end BillingQuery
