import BillingQuery.Proofs.Compiled
import BillingQuery.Proofs.PlanShape
import BillingQuery.Proofs.SqlStatements

/-!
# The tenant clause in the text of a statement

A compiled filter is sent to the store as text, so that what protects the rows of other tenants is
how that text is read.

**Main result (`compile_keepsTenant`).** Read by the precedence of SQL, the conditions are the
tenant clause and, joined to it by AND, the predicate of the plan as a whole. No OR of a filter gets
out of its parentheses, whatever the shape of the filter, and no column is named but the tenant's
and those of fields.
-/

namespace BillingQuery

open Sql (Predicate)

namespace Schema

/-- The columns are plain names. -/
structure HasPlainColumns (s : Schema) : Prop where
  tenantColumn : Sql.isName s.tenantColumn = true
  fields : ∀ f ∈ s.fields, Sql.isName f.column = true

/-- The table is a plain name too, and there are fields, whose keys can be put in quotes. -/
structure IsListable (s : Schema) : Prop where
  table : Sql.isName s.table = true
  fields_ne : s.fields ≠ []
  keys : ∀ f ∈ s.fields, '"' ∉ f.key.toList

end Schema

theorem Resource.hasPlainColumns (r : Resource) : r.schema.HasPlainColumns := by
  have hall : Sql.isName r.schema.tenantColumn = true ∧
      ∀ f ∈ r.schema.fields, Sql.isName f.column = true := by
    cases r <;> decide +kernel
  exact ⟨hall.1, hall.2⟩

theorem Resource.isListable (r : Resource) : r.schema.IsListable := by
  have hall : Sql.isName r.schema.table = true ∧ r.schema.fields ≠ [] ∧
      ∀ f ∈ r.schema.fields, '"' ∉ f.key.toList := by
    cases r <;> decide +kernel
  exact ⟨hall.1, hall.2.1, hall.2.2⟩

/-- The text of a compiled filter, read by the grammar of SQL, keeps to the rows of the tenant. -/
structure CompiledFilter.KeepsTenant (c : CompiledFilter) (plan : Plan) (tenant : String) :
    Prop where
  /-- The first parameter is the tenant. -/
  tenant : c.values.head? = some (.text tenant)
  /-- The text is the tenant clause, alone if the plan is plainly true, or before an expression that
  reads as the predicate of the plan, and that is one operand beside the clause. -/
  text :
    (plan = .const true ∧ c.whereSql = c.schema.tenantColumn ++ " = $1" ∧
        Sql.read? c.whereSql = some c.schema.tenantScope) ∨
      ∃ e, c.whereSql = c.schema.tenantColumn ++ " = $1 AND " ++ e ∧
        Sql.read? e = some (plan.predicate 1) ∧
        Sql.read? c.whereSql = some (.all [c.schema.tenantScope, plan.predicate 1])
  /-- The predicate has the AND and OR of the plan, and its tests in order. -/
  shape : plan.IsMirroredBy (plan.predicate 1)
  /-- Parentheses balance, and each OR is inside of some. -/
  parentheses : ∃ ts, Sql.tokens? c.whereSql.toList = some ts ∧ Sql.nesting 0 ts = some 0 ∧
    ∀ before t after, ts = before ++ t :: after → t.isKeyword "OR" = true →
      ∃ n, Sql.nesting 0 before = some (n + 1)
  /-- The expression names columns of fields. -/
  columns : (plan.predicate 1).columns ⊆ c.schema.fields.map Field.column
  /-- The rows are ordered by the column of a field. -/
  order : ∀ o, c.order = some o → o.column ∈ c.schema.fields.map Field.column
  /-- The whole statement names no other columns. -/
  select : ∀ limit offset, (c.select limit offset).select.namedColumns ⊆
    c.schema.tenantColumn :: c.schema.fields.map Field.column
  /-- What it returns are columns of fields, so that the tenant column stands in the clause only. -/
  returned : ∀ limit offset,
    (c.select limit offset).select.columns.map Sql.ResultColumn.column =
      c.schema.fields.map Field.column
  /-- And that is how its text is read. -/
  statement : c.schema.IsListable → ∀ limit offset,
    Sql.readSelect? (c.select limit offset).sql =
      some { (c.select limit offset).select with conditions := [Sql.joinAll c.conditions] }

section
variable {g : FilterGroup} {schema : Schema} {tenant : String} {order : Option Sql.Order}

/-- The conditions of a filter can be read back. -/
theorem FilterGroup.arePlain_conditions (hplain : schema.HasPlainColumns) :
    Predicate.ArePlain (g.compiledFor schema tenant order).conditions := by
  have hscope : schema.tenantScope.IsPlain := ⟨hplain.tenantColumn, trivial⟩
  have hplan : ((g.plan schema.fields).predicate 1).IsPlain :=
    Plan.isPlain_predicate _ (g.isNormal_plan schema.fields)
      (fun t ht => hplain.fields t.1 (suits_of_mem_tests ht).1) 1
  rcases g.conditions_compiledFor schema tenant order with ⟨-, h⟩ | h <;> rw [h]
  · exact ⟨hscope, trivial⟩
  · exact ⟨hscope, hplan, trivial⟩

theorem Schema.sql_tenantScope (s : Schema) : s.tenantScope.sql = s.tenantColumn ++ " = $1" := by
  have hone : natText 1 = "1" := rfl
  simp [tenantScope, Predicate.sql, Sql.Term.sql, Sql.Relation.sql, hone, String.append_assoc]

/-- The text reads as the conditions. -/
theorem FilterGroup.read?_whereSql (hplain : schema.HasPlainColumns) :
    Sql.read? (g.compiledFor schema tenant order).whereSql =
      some (Sql.joinAll (g.compiledFor schema tenant order).conditions) :=
  Sql.read?_joined (List.ne_nil_of_mem (g.tenantScope_mem_conditions schema tenant order))
    (arePlain_conditions hplain)

/-- The text, by whether the plan is plainly true. -/
theorem FilterGroup.text_compiledFor (hplain : schema.HasPlainColumns) :
    (g.plan schema.fields = .const true ∧
        (g.compiledFor schema tenant order).whereSql = schema.tenantColumn ++ " = $1" ∧
        Sql.read? (g.compiledFor schema tenant order).whereSql = some schema.tenantScope) ∨
      ∃ e, (g.compiledFor schema tenant order).whereSql = schema.tenantColumn ++ " = $1 AND " ++ e ∧
        Sql.read? e = some ((g.plan schema.fields).predicate 1) ∧
        Sql.read? (g.compiledFor schema tenant order).whereSql =
          some (.all [schema.tenantScope, (g.plan schema.fields).predicate 1]) := by
  have hplan : Predicate.ArePlain (g.compiledFor schema tenant order).conditions :=
    arePlain_conditions hplain
  have hread := @read?_whereSql g schema tenant order hplain
  rw [CompiledFilter.whereSql, Sql.whereSql] at hread ⊢
  rcases g.conditions_compiledFor schema tenant order with ⟨hconst, h⟩ | h
  · rw [h] at hread ⊢
    exact Or.inl ⟨hconst, schema.sql_tenantScope, hread⟩
  · rw [h] at hplan hread ⊢
    refine Or.inr ⟨((g.plan schema.fields).predicate 1).sql, ?_, Sql.read?_sql hplan.2.1, hread⟩
    rw [Predicate.joined, Predicate.joined, schema.sql_tenantScope]
    simp [String.append_assoc]

theorem FilterGroup.nesting_compiledFor (hplain : schema.HasPlainColumns) :
    ∃ ts, Sql.tokens? (g.compiledFor schema tenant order).whereSql.toList = some ts ∧
      Sql.nesting 0 ts = some 0 := by
  have hplan : Predicate.ArePlain (g.compiledFor schema tenant order).conditions :=
    arePlain_conditions hplain
  have hand (ts : List Sql.Token) : Sql.nesting 0 (.word "AND" :: ts) = Sql.nesting 0 ts :=
    Sql.nesting_word 0 ts (by decide)
  have hnesting := Predicate.nesting_joinedTokens hand _ hplan []
  rw [List.append_nil] at hnesting
  exact ⟨_, (Predicate.lexes_joined (by decide : isIdentifier "AND" = true) _ hplan).eq_some,
    hnesting⟩

/-- The text of the whole statement can be read back. -/
theorem FilterGroup.isPlain_select (hplain : schema.HasPlainColumns) (hlist : schema.IsListable)
    (horder : ∀ o, order = some o → o.column ∈ schema.fields.map Field.column)
    (limit offset : Int) :
    ((g.compiledFor schema tenant order).select limit offset).select.IsPlain where
  columns_ne := by
    rw [CompiledFilter.select, ne_eq, List.map_eq_nil_iff]
    exact hlist.fields_ne
  columns := by
    intro c hc
    obtain ⟨f, hf, rfl⟩ := List.mem_map.1 hc
    refine ⟨hplain.fields f hf, ?_⟩
    rintro _ ⟨⟩
    exact hlist.keys f hf
  table := hlist.table
  conditions_ne := List.ne_nil_of_mem (g.tenantScope_mem_conditions schema tenant order)
  conditions := @arePlain_conditions g schema tenant order hplain
  order := by
    intro o ho
    obtain ⟨f, hf, hcolumn⟩ := List.mem_map.1 (horder o ho)
    rw [← hcolumn]
    exact hplain.fields f hf
  limit := by
    rintro _ ⟨⟩
    trivial
  offset := by
    rintro _ ⟨⟩
    trivial

/-- The statement names what the filter, the fields and the ordering name. -/
theorem FilterGroup.namedColumns_select
    (horder : ∀ o, order = some o → o.column ∈ schema.fields.map Field.column)
    (limit offset : Int) :
    ((g.compiledFor schema tenant order).select limit offset).select.namedColumns ⊆
      schema.tenantColumn :: schema.fields.map Field.column := by
  have hfields := List.subset_cons_self schema.tenantColumn (schema.fields.map Field.column)
  refine List.append_subset.2 ⟨List.append_subset.2 ⟨?_, ?_⟩, ?_⟩
  · intro c hc
    obtain ⟨_, hcolumn, rfl⟩ := List.mem_map.1 hc
    obtain ⟨f, hf, rfl⟩ := List.mem_map.1 hcolumn
    exact hfields (List.mem_map_of_mem hf)
  · intro c hc
    obtain ⟨p, hp, hc⟩ := List.mem_flatMap.1 hc
    rcases @mem_conditions g schema tenant order p hp with rfl | rfl
    · exact List.mem_cons.2 (Or.inl (List.mem_singleton.1 hc))
    · exact hfields (g.columns_predicate schema.fields 1 hc)
  · intro c hc
    obtain ⟨o, ho, rfl⟩ := Option.map_eq_some_iff.1 (Option.mem_toList.1 hc)
    exact hfields (horder o ho)

end

/-- **The tenant clause.** Whatever the filter and the ordering, the text of the compiled filter
keeps to the tenant. -/
theorem compile_keepsTenant {g : FilterGroup} {schema : Schema} {tenant : String}
    {sort : Option SortSpec} {c : CompiledFilter} (hplain : schema.HasPlainColumns)
    (h : compile g schema tenant sort = .ok c) : c.KeepsTenant (g.plan schema.fields) tenant := by
  obtain ⟨-, -, rfl⟩ := compile_eq_ok_iff.1 h
  have horder : ∀ o, schema.orderOf? sort = some o → o.column ∈ schema.fields.map Field.column :=
    fun o ho => Schema.column_of_orderOf? ho
  obtain ⟨ts, htokens, hnesting⟩ :=
    @FilterGroup.nesting_compiledFor g schema tenant (schema.orderOf? sort) hplain
  exact {
    tenant := rfl
    text := FilterGroup.text_compiledFor hplain
    shape := (g.plan schema.fields).isMirroredBy_predicate 1
    parentheses := ⟨ts, htokens, hnesting, fun before t after heq ht =>
      Sql.exists_nesting_of_or (heq ▸ hnesting) ht⟩
    columns := g.columns_predicate schema.fields 1
    order := horder
    select := FilterGroup.namedColumns_select horder
    returned := fun _ _ => List.map_map
    statement := fun hlist limit offset =>
      Sql.Select.readSelect?_sql (FilterGroup.isPlain_select hplain hlist horder limit offset) }

/-- Any of two conditions, of which one is on two bounds. -/
def sampleDisjunction : FilterGroup :=
  ⟨"root", .or, [
    .cond (.on "1" "plan" "equals" (.string "basic")),
    .cond (.between "2" "monthlyValue" (Json.int 200) (Json.int 300))]⟩

theorem compile_keepsTenant_sample :
    (sampleDisjunction.compiledFor Resource.clients.schema "t1"
      (Resource.clients.schema.orderOf? (some ⟨"name", .desc⟩))).KeepsTenant
        (sampleDisjunction.plan Resource.clients.schema.fields) "t1" := by
  have hsort : Resource.clients.schema.Sorts (some ⟨"name", .desc⟩) := by
    rintro _ ⟨⟩
    decide
  exact compile_keepsTenant Resource.clients.hasPlainColumns
    (compile_of_sorts (by decide) hsort)

end BillingQuery
