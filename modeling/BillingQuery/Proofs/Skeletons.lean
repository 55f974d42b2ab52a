import BillingQuery.Proofs.Assembled
import BillingQuery.Proofs.Compiled
import BillingQuery.Schema.Resource

/-!
# Text without values

What a client sends as a value is bound and never written, so that two requests which differ in
their values alone have the same text.

**Main result (`text_ignores_values`).** Two compiled filters have one text if their plans have one
skeleton: the same joins, fields and kinds of operands. Two ad-hoc queries have one text if they
have the same names and the same nulls. The tenant, the values, their number in a list, and the
limits make no difference.
-/

namespace BillingQuery

/-! ## Skeletons -/

/-- The operands are of one kind. Numbers must also be compared in the same way; where a pattern has
its `%` is part of what is bound. -/
inductive Operand.SameKind : Operand → Operand → Prop
  | text (s t : String) : SameKind (.text s) (.text t)
  | textSet (items others : List String) : SameKind (.textSet items) (.textSet others)
  | pattern (k l : PatternKind) (s t : String) : SameKind (.pattern k s) (.pattern l t)
  | flag (b c : Bool) : SameKind (.flag b) (.flag c)
  | number (comparison : Comparison) (x y : Binary64) :
      SameKind (.number comparison x) (.number comparison y)
  | numberRange (low high low' high' : Binary64) :
      SameKind (.numberRange low high) (.numberRange low' high')
  | day (d e : Day) : SameKind (.day d) (.day e)
  | dayRange (low high low' high' : Day) : SameKind (.dayRange low high) (.dayRange low' high')

namespace Plan

mutual

/-- The plans join the same fields in the same way, with operands of the same kinds. -/
inductive SameSkeleton : Plan → Plan → Prop
  | const (b : Bool) : SameSkeleton (.const b) (.const b)
  | test (field : Field) {o o' : Operand} (kind : o.SameKind o') :
      SameSkeleton (.test field o) (.test field o')
  | all {ps qs : List Plan} (parts : AllSameSkeleton ps qs) : SameSkeleton (.all ps) (.all qs)
  | any {ps qs : List Plan} (parts : AllSameSkeleton ps qs) : SameSkeleton (.any ps) (.any qs)

inductive AllSameSkeleton : List Plan → List Plan → Prop
  | nil : AllSameSkeleton [] []
  | cons {p q : Plan} {ps qs : List Plan} (first : SameSkeleton p q)
      (rest : AllSameSkeleton ps qs) : AllSameSkeleton (p :: ps) (q :: qs)

end

end Plan

namespace Operand.SameKind

variable {o o' : Operand} (h : o.SameKind o')
include h

theorem length_values : o.values.length = o'.values.length := by
  cases h <;> rfl

theorem predicate_eq (column : String) (bound : Nat) :
    o.predicate column bound = o'.predicate column bound := by
  cases h <;> rfl

end Operand.SameKind

namespace Plan

mutual

/-- As many values are bound, so that what stands after a part has the same numbers. -/
theorem SameSkeleton.length_values {p q : Plan} (h : p.SameSkeleton q) :
    p.values.length = q.values.length := by
  cases h with
  | const b => rfl
  | test field kind => exact kind.length_values
  | all parts => exact parts.length_valuesOfAll
  | any parts => exact parts.length_valuesOfAll

theorem AllSameSkeleton.length_valuesOfAll {ps qs : List Plan} (h : AllSameSkeleton ps qs) :
    (valuesOfAll ps).length = (valuesOfAll qs).length := by
  cases h with
  | nil => rfl
  | cons first rest =>
    rw [valuesOfAll, valuesOfAll, List.length_append, List.length_append, first.length_values,
      rest.length_valuesOfAll]

end

mutual

/-- **Skeletons.** The skeleton of a plan decides its predicate. -/
theorem SameSkeleton.predicate_eq {p q : Plan} (h : p.SameSkeleton q) (bound : Nat) :
    p.predicate bound = q.predicate bound := by
  cases h with
  | const b => rfl
  | test field kind => exact kind.predicate_eq field.column bound
  | all parts => exact congrArg Sql.Predicate.all (parts.predicates_eq bound)
  | any parts => exact congrArg Sql.Predicate.any (parts.predicates_eq bound)

theorem AllSameSkeleton.predicates_eq {ps qs : List Plan} (h : AllSameSkeleton ps qs)
    (bound : Nat) : predicates bound ps = predicates bound qs := by
  cases h with
  | nil => rfl
  | cons first rest =>
    rw [predicates, predicates, first.predicate_eq bound, first.length_values,
      rest.predicates_eq]

end

theorem SameSkeleton.isConst_eq {p q : Plan} (h : p.SameSkeleton q) (b : Bool) :
    p.isConst b = q.isConst b := by
  cases h <;> rfl

end Plan

/-! ## Compiled filters -/

/-- The texts of the compiled filters are equal, and those of their listings with any limits. -/
structure CompiledFilter.SameText (c c' : CompiledFilter) : Prop where
  conditions : c.whereSql = c'.whereSql
  order : c.order.map Sql.Order.sql = c'.order.map Sql.Order.sql
  listing : ∀ limit limit' offset offset',
    (c.select limit offset).sql = (c'.select limit' offset').sql

section
variable {g g' : FilterGroup} {schema : Schema}

theorem FilterGroup.conditions_compiledFor_eq
    (h : (g.plan schema.fields).SameSkeleton (g'.plan schema.fields)) (tenant tenant' : String)
    (order : Option Sql.Order) :
    (g.compiledFor schema tenant order).conditions =
      (g'.compiledFor schema tenant' order).conditions := by
  simp only [compiledFor, h.isConst_eq true, h.predicate_eq 1]

/-- Limit and offset are bound too, after as many values. -/
theorem FilterGroup.select_compiledFor_eq
    (h : (g.plan schema.fields).SameSkeleton (g'.plan schema.fields)) (tenant tenant' : String)
    (order : Option Sql.Order) (limit limit' offset offset' : Int) :
    ((g.compiledFor schema tenant order).select limit offset).select =
      ((g'.compiledFor schema tenant' order).select limit' offset').select := by
  have hconditions := conditions_compiledFor_eq h tenant tenant' order
  have hlength : (g.compiledFor schema tenant order).values.length =
      (g'.compiledFor schema tenant' order).values.length := congrArg (· + 1) h.length_values
  simp only [CompiledFilter.select, hconditions, hlength]
  rfl

theorem sameText_of_sameSkeleton {tenant tenant' : String} {sort : Option SortSpec}
    {c c' : CompiledFilter} (hc : compile g schema tenant sort = .ok c)
    (hc' : compile g' schema tenant' sort = .ok c')
    (h : (g.plan schema.fields).SameSkeleton (g'.plan schema.fields)) : c.SameText c' := by
  obtain ⟨-, -, rfl⟩ := compile_eq_ok_iff.1 hc
  obtain ⟨-, -, rfl⟩ := compile_eq_ok_iff.1 hc'
  exact {
    conditions := congrArg Sql.whereSql (FilterGroup.conditions_compiledFor_eq h _ _ _)
    order := rfl
    listing := fun limit limit' offset offset' => congrArg Sql.Select.sql
      (FilterGroup.select_compiledFor_eq h _ _ _ limit limit' offset offset') }

end

/-! ## Ad-hoc queries -/

/-- The filters have the same names, and both values are null or neither is. -/
structure AdHocFilter.SameButValue (f f' : AdHocFilter) : Prop where
  column : f.column = f'.column
  operator : f.operator = f'.operator
  null : f.value = .null ↔ f'.value = .null

/-- The queries differ in their limits and in the values of their filters only. -/
structure AdHocQuery.SameButValues (q q' : AdHocQuery) : Prop where
  table : q.table = q'.table
  columns : q.columns = q'.columns
  filters : List.Forall₂ AdHocFilter.SameButValue q.filters q'.filters
  orderBy : q.orderBy = q'.orderBy
  orderDirection : q.orderDirection = q'.orderDirection

/-- The tests are of one kind, on one column. -/
inductive AdHocTest.SameKind : AdHocTest → AdHocTest → Prop
  | isNull (column : String) : SameKind (.isNull column) (.isNull column)
  | isNotNull (column : String) : SameKind (.isNotNull column) (.isNotNull column)
  | compare (column : String) (operator : AdHocOperator) (v w : Sql.Value) :
      SameKind (.compare column operator v) (.compare column operator w)

theorem AdHocFilter.SameButValue.sameKind {f f' : AdHocFilter} {table : AllowedTable}
    {t t' : AdHocTest} (h : f.SameButValue f') (ht : f.test table = .ok t)
    (ht' : f'.test table = .ok t') : t.SameKind t' := by
  obtain ⟨column, operator, hcolumn, hoperator, htest⟩ := AdHocFilter.test_eq_ok_iff.1 ht
  obtain ⟨column', operator', hcolumn', hoperator', htest'⟩ := AdHocFilter.test_eq_ok_iff.1 ht'
  obtain rfl : column = column' := Except.ok.inj (hcolumn.symm.trans (h.column ▸ hcolumn'))
  obtain rfl : operator = operator' :=
    Except.ok.inj (hoperator.symm.trans (h.operator ▸ hoperator'))
  rcases adHocTest_cases htest with ⟨hnull, rfl, rfl⟩ | ⟨hnull, rfl, rfl⟩ | ⟨hnull, v, rfl⟩ <;>
    rcases adHocTest_cases htest' with ⟨hnull', hop, rfl⟩ | ⟨hnull', hop, rfl⟩ | ⟨hnull', w, rfl⟩
  -- Two tests of different kinds would need two operators, or a null on one side only.
  case inl.inl => exact .isNull column
  case inr.inl.inr.inl => exact .isNotNull column
  case inr.inr.inr.inr => exact .compare column operator v w
  case inl.inr.inl | inr.inl.inl => cases hop
  case inl.inr.inr | inr.inl.inr.inr => exact absurd (h.null.1 hnull) hnull'
  case inr.inr.inl | inr.inr.inr.inl => exact absurd (h.null.2 hnull') hnull

namespace AdHocTest

theorem SameKind.length_values {t t' : AdHocTest} (h : t.SameKind t') :
    t.values.length = t'.values.length := by
  cases h <;> rfl

theorem SameKind.predicate_eq {t t' : AdHocTest} (h : t.SameKind t') (bound : Nat) :
    t.predicate bound = t'.predicate bound := by
  cases h <;> rfl

theorem length_values_eq {ts ts' : List AdHocTest} (h : List.Forall₂ SameKind ts ts') :
    (ts.flatMap values).length = (ts'.flatMap values).length := by
  induction h with
  | nil => rfl
  | cons first _ ih =>
    rw [List.flatMap_cons, List.flatMap_cons, List.length_append, List.length_append,
      first.length_values, ih]

theorem predicates_eq {ts ts' : List AdHocTest} (h : List.Forall₂ SameKind ts ts') (bound : Nat) :
    predicates bound ts = predicates bound ts' := by
  induction h generalizing bound with
  | nil => rfl
  | cons first _ ih =>
    rw [predicates, predicates, first.predicate_eq, first.length_values, ih]

/-- Filters that differ in their values only give tests of one kind, one after the other. -/
theorem forall₂_sameKind {table : AllowedTable} {fs fs' : List AdHocFilter}
    {ts ts' : List AdHocTest} (h : List.Forall₂ AdHocFilter.SameButValue fs fs')
    (hts : List.Forall₂ (fun f t => AdHocFilter.test f table = .ok t) fs ts)
    (hts' : List.Forall₂ (fun f t => AdHocFilter.test f table = .ok t) fs' ts') :
    List.Forall₂ SameKind ts ts' := by
  induction h generalizing ts ts' with
  | nil =>
    cases hts
    cases hts'
    exact .nil
  | cons hf _ ih =>
    cases hts with
    | cons ht hts =>
      cases hts' with
      | cons ht' hts' => exact .cons (hf.sameKind ht ht') (ih hts hts')

end AdHocTest

theorem AdHocQuery.SameButValues.sql_eq {q q' : AdHocQuery} {tenant tenant' : String}
    {limits limits' : QueryLimits} {s s' : Sql.Statement} (h : q.SameButValues q')
    (hs : q.assemble tenant limits = .ok s) (hs' : q'.assemble tenant' limits' = .ok s') :
    s.sql = s'.sql := by
  obtain ⟨table, columns, orderColumn, tests, htable, hcolumns, horder, htests, rfl⟩ :=
    assemble_eq_ok_iff.1 hs
  obtain ⟨table', columns', orderColumn', tests', htable', hcolumns', horder', htests', rfl⟩ :=
    assemble_eq_ok_iff.1 hs'
  obtain rfl : table = table' := Except.ok.inj (htable.symm.trans (h.table ▸ htable'))
  have hselected : q.selected table = q'.selected table := by rw [selected, selected, h.columns]
  obtain rfl : columns = columns' :=
    Except.ok.inj (hcolumns.symm.trans (hselected.trans hcolumns'))
  obtain rfl : orderColumn = orderColumn' :=
    Except.ok.inj (horder.symm.trans (h.orderBy ▸ horder'))
  have hkinds := AdHocTest.forall₂_sameKind h.filters (forall₂_of_mapM_eq_ok htests)
    (forall₂_of_mapM_eq_ok htests')
  have hselect : (q.statementOf tenant limits table columns orderColumn tests).select =
      (q'.statementOf tenant' limits' table columns orderColumn tests').select := by
    simp only [statementOf, AdHocTest.predicates_eq hkinds, AdHocTest.length_values_eq hkinds,
      h.orderDirection]
  exact congrArg Sql.Select.sql hselect

/-- **Text without values.** Requests that differ in values only have one text. -/
theorem text_ignores_values :
    (∀ (schema : Schema) (sort : Option SortSpec) (g g' : FilterGroup) (tenant tenant' : String)
      (c c' : CompiledFilter), compile g schema tenant sort = .ok c →
        compile g' schema tenant' sort = .ok c' →
        (g.plan schema.fields).SameSkeleton (g'.plan schema.fields) → c.SameText c') ∧
    ∀ (q q' : AdHocQuery) (tenant tenant' : String) (limits limits' : QueryLimits)
      (s s' : Sql.Statement), q.assemble tenant limits = .ok s →
        q'.assemble tenant' limits' = .ok s' → q.SameButValues q' → s.sql = s'.sql :=
  ⟨fun _ _ _ _ _ _ _ _ hc hc' h => sameText_of_sameSkeleton hc hc' h,
    fun _ _ _ _ _ _ _ _ hs hs' h => h.sql_eq hs hs'⟩

/-- Clients of a name on one of some plans. -/
def sampleSearch (name : String) (plans : List String) : FilterGroup :=
  ⟨"root", .and, [
    .cond (.on "1" "name" "equals" (.string name)),
    .cond (.on "2" "plan" "in" (.array (plans.map .string)))]⟩

/-- Clients with a status and without a plan. -/
def sampleAdHoc (status : Json) (limit : Option Int) : AdHocQuery :=
  ⟨"clients", ["id"], [⟨"status", "not_equals", status⟩, ⟨"plan", "equals", .null⟩],
    some "name", none, limit⟩

theorem text_ignores_values_sample :
    ((sampleSearch "acme" ["basic"]).compiledFor Resource.clients.schema "t1" none).SameText
      ((sampleSearch "x' OR 1=1 --" ["$9", ") OR ("]).compiledFor Resource.clients.schema "t2"
        none) ∧
    ∃ s s', (sampleAdHoc (.string "'; --") (some 5)).assemble "t1" .standard = .ok s ∧
      (sampleAdHoc (Json.int 7) none).assemble "t2" ⟨1, 2⟩ = .ok s' ∧ s.sql = s'.sql := by
  have hsort : Resource.clients.schema.Sorts none := nofun
  have hplans : ((sampleSearch "acme" ["basic"]).plan Resource.clients.schema.fields).SameSkeleton
      ((sampleSearch "x' OR 1=1 --" ["$9", ") OR ("]).plan Resource.clients.schema.fields) :=
    .all (.cons (.test _ (.text _ _)) (.cons (.test _ (.textSet _ _)) .nil))
  have hfilters : (sampleAdHoc (.string "'; --") (some 5)).SameButValues
      (sampleAdHoc (Json.int 7) none) :=
    ⟨rfl, rfl, .cons ⟨rfl, rfl, iff_of_false nofun nofun⟩ (.cons ⟨rfl, rfl, Iff.rfl⟩ .nil), rfl,
      rfl⟩
  obtain ⟨s, hs⟩ : ∃ s, (sampleAdHoc (.string "'; --") (some 5)).assemble "t1" .standard = .ok s :=
    ⟨_, rfl⟩
  obtain ⟨s', hs'⟩ : ∃ s', (sampleAdHoc (Json.int 7) none).assemble "t2" ⟨1, 2⟩ = .ok s' :=
    ⟨_, rfl⟩
  exact ⟨text_ignores_values.1 _ none _ _ "t1" "t2" _ _ (compile_of_sorts (by decide) hsort)
      (compile_of_sorts (by decide) hsort) hplans,
    s, s', hs, hs', text_ignores_values.2 _ _ "t1" "t2" .standard ⟨1, 2⟩ s s' hs hs' hfilters⟩

end BillingQuery
