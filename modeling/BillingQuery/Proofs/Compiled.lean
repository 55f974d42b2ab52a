import BillingQuery.Proofs.PlanTests

/-!
# What compiling gives

**Main result (`compile_eq_ok_iff`).** Compiling succeeds iff the tree is within the limits and the
ordering, if there is one, names a field; and then the result is `FilterGroup.compiledFor`: the
tenant clause, and the predicate of the plan unless the plan is plainly true.
-/

namespace BillingQuery

/-- The tenant clause: the tenant column equals the first parameter. -/
def Schema.tenantScope (s : Schema) : Sql.Predicate :=
  .compare .eq (.column s.tenantColumn) (.parameter 1)

namespace FilterGroup

/-- The compiled filter of a tree that is not rejected. -/
def compiledFor (g : FilterGroup) (schema : Schema) (tenant : String) (order : Option Sql.Order) :
    CompiledFilter where
  schema := schema
  conditions :=
    if (g.plan schema.fields).isConst true then [schema.tenantScope]
    else [schema.tenantScope, (g.plan schema.fields).predicate 1]
  values := .text tenant :: (g.plan schema.fields).values
  order := order
  issues := g.issues schema.fields

section
variable (g : FilterGroup) (schema : Schema) (tenant : String) (order : Option Sql.Order)

/-- The tenant clause stands alone if the plan is plainly true, and else before the predicate. -/
theorem conditions_compiledFor :
    (g.plan schema.fields = .const true ∧
        (g.compiledFor schema tenant order).conditions = [schema.tenantScope]) ∨
      (g.compiledFor schema tenant order).conditions =
        [schema.tenantScope, (g.plan schema.fields).predicate 1] := by
  by_cases hconst : (g.plan schema.fields).isConst true = true
  · exact Or.inl ⟨Plan.isConst_iff.1 hconst, if_pos hconst⟩
  · exact Or.inr (if_neg hconst)

theorem tenantScope_mem_conditions :
    schema.tenantScope ∈ (g.compiledFor schema tenant order).conditions := by
  rcases g.conditions_compiledFor schema tenant order with ⟨-, h⟩ | h <;> rw [h] <;>
    exact List.mem_cons_self

theorem length_conditions : (g.compiledFor schema tenant order).conditions.length ≤ 2 := by
  rcases g.conditions_compiledFor schema tenant order with ⟨-, h⟩ | h <;> rw [h] <;> simp

variable {g schema tenant order}

theorem mem_conditions {p : Sql.Predicate}
    (hp : p ∈ (g.compiledFor schema tenant order).conditions) :
    p = schema.tenantScope ∨ p = (g.plan schema.fields).predicate 1 := by
  rcases g.conditions_compiledFor schema tenant order with ⟨-, h⟩ | h <;> rw [h] at hp
  · exact Or.inl (List.mem_singleton.1 hp)
  · simpa using hp

end

/-- The tree is within both limits. -/
def IsWithinLimits (g : FilterGroup) : Prop := g.depth ≤ maxAllowedDepth ∧ g.size ≤ maxAllowedSize

instance (g : FilterGroup) : Decidable g.IsWithinLimits := by
  unfold IsWithinLimits
  infer_instance

theorem checkComplexity_eq (g : FilterGroup) :
    g.checkComplexity =
      if g.IsWithinLimits then .ok () else .error (.filterTooComplex g.depth g.size) := by
  unfold checkComplexity IsWithinLimits
  by_cases hd : g.depth ≤ maxAllowedDepth
  · by_cases hs : g.size ≤ maxAllowedSize <;> simp [hd, hs, Nat.not_lt.2, Nat.not_le.1]
  · simp [hd, Nat.not_le.1 hd]

theorem checkComplexity_eq_ok_iff {g : FilterGroup} :
    g.checkComplexity = .ok () ↔ g.IsWithinLimits := by
  rw [checkComplexity_eq]
  split_ifs with hlimits
  · exact iff_of_true rfl hlimits
  · exact iff_of_false nofun hlimits

end FilterGroup

/-- The ordering, if there is one, names a field. -/
def Schema.Sorts (s : Schema) (sort : Option SortSpec) : Prop :=
  ∀ spec, sort = some spec → spec.field ∈ s.keys

/-- The order of a request, where it names a field. -/
def Schema.orderOf? (s : Schema) (sort : Option SortSpec) : Option Sql.Order :=
  sort.bind fun spec => (s.field? spec.field).map fun f => ⟨f.column, spec.direction⟩

theorem exists_findField? {fields : List Field} {key : String}
    (h : key ∈ fields.map Field.key) : ∃ f, findField? fields key = some f := by
  obtain ⟨f, hf, rfl⟩ := List.mem_map.1 h
  cases hfound : findField? fields f.key with
  | some found => exact ⟨found, rfl⟩
  | none => exact absurd (List.find?_eq_none.1 hfound f hf) (by simp)

theorem key_of_findField? {fields : List Field} {key : String} {f : Field}
    (h : findField? fields key = some f) : f.key = key := by
  simpa using List.find?_some h

/-- Rows are ordered by the column of a field. -/
theorem Schema.column_of_orderOf? {s : Schema} {sort : Option SortSpec} {o : Sql.Order}
    (h : s.orderOf? sort = some o) : o.column ∈ s.fields.map Field.column := by
  obtain ⟨spec, -, hspec⟩ := Option.bind_eq_some_iff.1 h
  obtain ⟨f, hf, rfl⟩ := Option.map_eq_some_iff.1 hspec
  exact List.mem_map_of_mem (mem_of_findField? hf)

/-- Ordering is refused iff the request names no field. -/
theorem Schema.mapM_order? (s : Schema) (sort : Option SortSpec) :
    (s.Sorts sort ∧ sort.mapM s.order? = .ok (s.orderOf? sort)) ∨
      ∃ spec, sort = some spec ∧ spec.field ∉ s.keys ∧
        sort.mapM s.order? = .error (.invalidSortField spec.field s.keys) := by
  cases sort with
  | none => exact Or.inl ⟨nofun, rfl⟩
  | some spec =>
    by_cases hkey : spec.field ∈ s.keys
    · obtain ⟨f, hf⟩ := exists_findField? hkey
      have hsort : s.Sorts (some spec) := by
        rintro _ ⟨⟩
        exact hkey
      refine Or.inl ⟨hsort, ?_⟩
      have horder : s.order? spec = .ok ⟨f.column, spec.direction⟩ := by
        rw [order?, field?, hf]
      show some <$> s.order? spec = _
      rw [horder, orderOf?, Option.bind_some, field?, hf]
      rfl
    · have hnone : s.field? spec.field = none := by
        cases hf : s.field? spec.field with
        | none => rfl
        | some f =>
          have hmem : f.key ∈ s.keys := List.mem_map_of_mem (mem_of_findField? hf)
          exact absurd (key_of_findField? hf ▸ hmem) hkey
      refine Or.inr ⟨spec, rfl, hkey, ?_⟩
      have horder : s.order? spec = .error (.invalidSortField spec.field s.keys) := by
        rw [order?, hnone]
      show some <$> s.order? spec = _
      rw [horder]
      rfl

section
variable {g : FilterGroup} {schema : Schema} {tenant : String} {sort : Option SortSpec}

/-- What compiling does, one cause of failure after the other. -/
theorem compile_eq (g : FilterGroup) (schema : Schema) (tenant : String) (sort : Option SortSpec) :
    compile g schema tenant sort =
      g.checkComplexity.bind fun _ =>
        (sort.mapM schema.order?).map fun order => g.compiledFor schema tenant order := by
  unfold compile
  cases g.checkComplexity with
  | error e => rfl
  | ok _ =>
    cases sort.mapM schema.order? with
    | error e => rfl
    | ok order => rfl

theorem compile_of_sorts (hlimits : g.IsWithinLimits) (hsort : schema.Sorts sort) :
    compile g schema tenant sort = .ok (g.compiledFor schema tenant (schema.orderOf? sort)) := by
  rw [compile_eq, FilterGroup.checkComplexity_eq, if_pos hlimits]
  rcases schema.mapM_order? sort with ⟨-, h⟩ | ⟨spec, hspec, hkey, -⟩
  · rw [h]
    rfl
  · exact absurd (hsort spec hspec) hkey

/-- **Compiling.** It succeeds iff the tree is within the limits and the ordering names a field. -/
theorem compile_eq_ok_iff {c : CompiledFilter} :
    compile g schema tenant sort = .ok c ↔
      g.IsWithinLimits ∧ schema.Sorts sort ∧
        c = g.compiledFor schema tenant (schema.orderOf? sort) := by
  constructor
  · intro h
    rw [compile_eq, FilterGroup.checkComplexity_eq] at h
    by_cases hlimits : g.IsWithinLimits
    · rw [if_pos hlimits] at h
      rcases schema.mapM_order? sort with ⟨hsort, horder⟩ | ⟨spec, -, -, horder⟩
      · rw [horder] at h
        exact ⟨hlimits, hsort, (Except.ok.inj h).symm⟩
      · rw [horder] at h
        cases h
    · rw [if_neg hlimits] at h
      cases h
  · rintro ⟨hlimits, hsort, rfl⟩
    exact compile_of_sorts hlimits hsort

end

end BillingQuery
