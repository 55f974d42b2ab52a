import BillingQuery.Proofs.PlanForm
import BillingQuery.Proofs.TenantClause

/-!
# The text of a plan

**Main result (`FilterGroup.writesPlan_of_compile`).** A constant is written in a compiled filter
only if it is the whole plan: then the text is the tenant clause, with "1 = 0" after it for false.
Otherwise every comparison in it names a column, and neither "1 = 1" nor "1 = 0" is in the text,
unless the name of a column has the sign "=". No column of a resource has such a name.

**Shape of the proof.** Each "=" that is written, other than in names, has a space and the start of
a term behind it, and no term starts with 1 or 0 (`IsGuarded`). That is kept when texts are put one
after the other.
-/

namespace BillingQuery

/-! ## Texts without comparisons to 1 and 0 -/

/-- Each "=" has a space behind it, and then no 0 and no 1. -/
def IsGuarded (cs : List Char) : Prop :=
  ∀ before after, cs = before ++ '=' :: after →
    ∃ c rest, after = ' ' :: c :: rest ∧ c ≠ '0' ∧ c ≠ '1'

namespace IsGuarded

variable {cs ds : List Char}

theorem of_notMem (h : '=' ∉ cs) : IsGuarded cs := by
  rintro before after rfl
  exact absurd (List.mem_append_right _ List.mem_cons_self) h

theorem append (hcs : IsGuarded cs) (hds : IsGuarded ds) : IsGuarded (cs ++ ds) := by
  intro before after h
  rcases List.append_eq_append_iff.1 h with ⟨middle, rfl, hds'⟩ | ⟨middle, hcs', hafter⟩
  · exact hds middle after hds'
  · cases middle with
    | nil =>
      rw [List.append_nil] at hcs'
      exact hds [] after hafter.symm
    | cons c middle =>
      obtain ⟨rfl, rfl⟩ := List.cons.inj hafter
      obtain ⟨d, rest, rfl, hd⟩ := hcs before middle hcs'
      exact ⟨d, rest ++ ds, rfl, hd⟩

theorem equals {c : Char} (h : c ∉ ['=', '0', '1']) (hcs : '=' ∉ cs) :
    IsGuarded ('=' :: ' ' :: c :: cs) := by
  simp only [List.mem_cons, List.not_mem_nil, or_false, not_or] at h
  intro before after heq
  cases before with
  | nil =>
    obtain rfl := (List.cons.inj heq).2
    exact ⟨c, cs, rfl, h.2⟩
  | cons b before =>
    have hmem : '=' ∈ ' ' :: c :: cs := by
      rw [(List.cons.inj heq).2]
      exact List.mem_append_right _ List.mem_cons_self
    simp [hcs, Ne.symm h.1] at hmem

/-- No comparison of the number 1 with 1 or 0 is in the text. -/
theorem not_infix (h : IsGuarded cs) {digit : Char} (hdigit : digit = '0' ∨ digit = '1') :
    ¬ ['1', ' ', '=', ' ', digit] <:+: cs := by
  rintro ⟨before, after, rfl⟩
  obtain ⟨c, rest, heq, hzero, hone⟩ := h (before ++ ['1', ' ']) (' ' :: digit :: after) (by simp)
  obtain rfl := (List.cons.inj (List.cons.inj heq).2).1
  exact hdigit.elim hzero hone

end IsGuarded

/-! ## Predicates -/

namespace Sql

theorem notMem_natText (n : Nat) : '=' ∉ (natText n).toList := by
  rw [natText, String.toList_ofList]
  exact fun h => absurd (isNumberChar_of_mem_toDigits h) (by decide)

/-- A term has no "=" but in the names of columns. -/
theorem Term.notMem_sql {t : Term} (h : ∀ column ∈ t.columns, '=' ∉ column.toList) :
    '=' ∉ t.sql.toList := by
  induction t with
  | column name => exact h name (List.mem_singleton_self name)
  | parameter n => simp [sql, notMem_natText]
  | integer n => exact fun hmem => absurd (isNumberChar_of_mem_intText hmem) (by decide)
  | lower t ih | date t ih | className t ih => simp [sql, ih h]
  | leading t length ih => simp [sql, ih h, notMem_natText]

theorem Term.notMem_sql_parameter (n : Nat) : '=' ∉ (Term.parameter n).sql.toList :=
  notMem_sql (List.forall_mem_nil _)

namespace Predicate

/-- A comparison is guarded if its right side does not start with a digit. -/
theorem isGuarded_compare (relation : Relation) {left right : Term} (c : Char)
    (hleft : '=' ∉ left.sql.toList) (hright : '=' ∉ right.sql.toList)
    (hhead : right.sql.toList.head? = some c) (hc : c ∉ ['0', '1']) :
    IsGuarded (compare relation left right).sql.toList := by
  obtain ⟨cs, hstart⟩ := List.head?_eq_some_iff.1 hhead
  rw [hstart, List.mem_cons, not_or] at hright
  have hequals : IsGuarded ('=' :: ' ' :: c :: cs) :=
    IsGuarded.equals (mt List.mem_cons.1 (not_or.2 ⟨Ne.symm hright.1, hc⟩)) hright.2
  have hsql : (compare relation left right).sql.toList =
      left.sql.toList ++ ' ' :: (relation.sql.toList ++ ' ' :: c :: cs) := by
    simp [sql, hstart]
  rw [hsql]
  cases relation with
  | gt | lt => exact .of_notMem (by simp [Relation.sql, hleft, hright.1, hright.2])
  | eq =>
    have hspace : IsGuarded (left.sql.toList ++ [' ']) := .of_notMem (by simp [hleft])
    simpa [Relation.sql] using hspace.append hequals
  | ne =>
    have hspace : IsGuarded (left.sql.toList ++ [' ', '!']) := .of_notMem (by simp [hleft])
    simpa [Relation.sql] using hspace.append hequals
  | gte =>
    have hspace : IsGuarded (left.sql.toList ++ [' ', '>']) := .of_notMem (by simp [hleft])
    simpa [Relation.sql] using hspace.append hequals
  | lte =>
    have hspace : IsGuarded (left.sql.toList ++ [' ', '<']) := .of_notMem (by simp [hleft])
    simpa [Relation.sql] using hspace.append hequals

theorem isGuarded_joined {separator : String} (hseparator : '=' ∉ separator.toList)
    {ps : List Predicate} (h : ∀ p ∈ ps, IsGuarded p.sql.toList) :
    IsGuarded (joined separator ps).toList := by
  induction ps with
  | nil => exact .of_notMem (by simp [joined])
  | cons p ps ih =>
    rw [List.forall_mem_cons] at h
    cases ps with
    | nil => exact h.1
    | cons q ps =>
      rw [joined, String.toList_append, String.toList_append, List.append_assoc]
      exact h.1.append ((IsGuarded.of_notMem hseparator).append (ih h.2))

theorem isGuarded_parenthesized {separator : String} (hseparator : '=' ∉ separator.toList)
    {ps : List Predicate} (h : ∀ p ∈ ps, IsGuarded p.sql.toList) :
    IsGuarded ("(" ++ joined separator ps ++ ")").toList := by
  rw [String.toList_append, String.toList_append]
  have hopen : IsGuarded "(".toList := .of_notMem (by decide)
  have hclose : IsGuarded ")".toList := .of_notMem (by decide)
  exact (hopen.append (isGuarded_joined hseparator h)).append hclose

mutual

/-- The predicates that are joined, without the AND and OR between them. -/
def leaves : Predicate → List Predicate
  | all parts | any parts => leavesOfAll parts
  | p => [p]

def leavesOfAll : List Predicate → List Predicate
  | [] => []
  | p :: ps => p.leaves ++ leavesOfAll ps

end

/-- Every comparison names a column. -/
def TestsColumns (p : Predicate) : Prop := ∀ leaf ∈ p.leaves, leaf.columns ≠ []

/-- Every comparison in them names a column. -/
def AllTestColumns (ps : List Predicate) : Prop := ∀ leaf ∈ leavesOfAll ps, leaf.columns ≠ []

theorem allTestColumns_cons {p : Predicate} {ps : List Predicate} :
    AllTestColumns (p :: ps) ↔ p.TestsColumns ∧ AllTestColumns ps := by
  simp [AllTestColumns, TestsColumns, leavesOfAll, or_imp, forall_and]

end Predicate
end Sql

/-! ## Operands and plans -/

open Sql (Predicate Term)

theorem Operand.testsColumns_predicate (operand : Operand) (column : String) (bound : Nat) :
    (operand.predicate column bound).TestsColumns := by
  cases operand <;>
    simp [predicate, isNumeric, isDay, Predicate.TestsColumns, Predicate.leaves,
      Predicate.leavesOfAll, Predicate.columns, Term.columns]

theorem Operand.isGuarded_predicate (operand : Operand) {column : String}
    (hcolumn : '=' ∉ column.toList) (bound : Nat) :
    IsGuarded (operand.predicate column bound).sql.toList := by
  have hterm (t : Term) (ht : t.columns = [column]) : '=' ∉ t.sql.toList :=
    Term.notMem_sql fun name hname => by
      rw [ht, List.mem_singleton] at hname
      rwa [hname]
  have hbound (relation : Sql.Relation) (t : Term) (ht : t.columns = [column]) (n : Nat) :
      IsGuarded (Predicate.compare relation t (.parameter n)).sql.toList :=
    Predicate.isGuarded_compare relation '$' (hterm t ht) (Term.notMem_sql_parameter n)
      (by simp [Term.sql]) (by decide)
  have hnumeric : IsGuarded (isNumeric (.column column)).sql.toList :=
    .of_notMem (by simp [isNumeric, Predicate.sql, Predicate.quotedLiteral, Term.sql, hcolumn])
  have hday : IsGuarded (isDay (.column column)).sql.toList :=
    Predicate.isGuarded_compare .eq 'S' (hterm _ rfl) (hterm _ rfl) (by simp [Term.sql]) (by decide)
  cases operand with
  | text s | flag b | day d => exact hbound .eq _ rfl _
  | textSet items =>
    exact .of_notMem (by simp [predicate, Predicate.sql, Term.sql, hcolumn, Sql.notMem_natText])
  | pattern kind needle =>
    exact .of_notMem (by
      simp [predicate, Predicate.sql, Predicate.quotedLiteral, Term.sql, hcolumn,
        Sql.notMem_natText])
  | number comparison x =>
    refine Predicate.isGuarded_parenthesized (by decide) ?_
    simp only [List.forall_mem_cons]
    exact ⟨hnumeric, hbound _ _ rfl _, List.forall_mem_nil _⟩
  | numberRange low high =>
    refine Predicate.isGuarded_parenthesized (by decide) ?_
    simp only [List.forall_mem_cons]
    exact ⟨hnumeric, hbound _ _ rfl _, hbound _ _ rfl _, List.forall_mem_nil _⟩
  | dayRange low high =>
    refine Predicate.isGuarded_parenthesized (by decide) ?_
    simp only [List.forall_mem_cons]
    exact ⟨hday, hbound _ _ rfl _, hbound _ _ rfl _, List.forall_mem_nil _⟩

namespace Plan

mutual

/-- Without constants, every comparison names a column. -/
theorem testsColumns_predicate (p : Plan) (hnormal : p.IsNormal) (hconst : ∀ b, p ≠ const b)
    (bound : Nat) : (p.predicate bound).TestsColumns := by
  cases p with
  | const b => exact absurd rfl (hconst b)
  | test field operand => exact operand.testsColumns_predicate field.column bound
  | all parts | any parts => exact allTestColumns_predicates parts hnormal.2 bound

theorem allTestColumns_predicates (ps : List Plan) (hparts : AreNormalParts ps) (bound : Nat) :
    Predicate.AllTestColumns (predicates bound ps) := by
  cases ps with
  | nil => exact fun _ h => absurd h List.not_mem_nil
  | cons p ps =>
    obtain ⟨hconst, hnormal, hparts⟩ := hparts
    exact Predicate.allTestColumns_cons.2 ⟨testsColumns_predicate p hnormal hconst bound,
      allTestColumns_predicates ps hparts _⟩

end

mutual

theorem isGuarded_predicate (p : Plan) (hnormal : p.IsNormal) (hconst : ∀ b, p ≠ const b)
    (hcolumns : ∀ t ∈ p.tests, '=' ∉ t.1.column.toList) (bound : Nat) :
    IsGuarded (p.predicate bound).sql.toList := by
  cases p with
  | const b => exact absurd rfl (hconst b)
  | test field operand =>
    exact operand.isGuarded_predicate (hcolumns _ (List.mem_singleton_self _)) bound
  | all parts =>
    exact Predicate.isGuarded_parenthesized (by decide)
      (areGuarded_predicates parts hnormal.2 hcolumns bound)
  | any parts =>
    exact Predicate.isGuarded_parenthesized (by decide)
      (areGuarded_predicates parts hnormal.2 hcolumns bound)

theorem areGuarded_predicates (ps : List Plan) (hparts : AreNormalParts ps)
    (hcolumns : ∀ t ∈ testsOfAll ps, '=' ∉ t.1.column.toList) (bound : Nat) :
    ∀ q ∈ predicates bound ps, IsGuarded q.sql.toList := by
  cases ps with
  | nil => exact fun _ h => absurd h List.not_mem_nil
  | cons p ps =>
    obtain ⟨hconst, hnormal, hparts⟩ := hparts
    rw [predicates, List.forall_mem_cons]
    exact ⟨isGuarded_predicate p hnormal hconst
        (fun t ht => hcolumns t (List.mem_append_left _ ht)) bound,
      areGuarded_predicates ps hparts (fun t ht => hcolumns t (List.mem_append_right _ ht)) _⟩

end

end Plan

/-! ## Compiled filters -/

/-- How a compiled filter shows the constants of its plan. -/
structure CompiledFilter.WritesPlan (c : CompiledFilter) (plan : Plan) : Prop where
  /-- Of a true plan nothing is written. -/
  ofTrue : plan = .const true → c.whereSql = c.schema.tenantColumn ++ " = $1"
  /-- A false plan is written alone beside the tenant clause. -/
  ofFalse : plan = .const false → c.whereSql = c.schema.tenantColumn ++ " = $1 AND 1 = 0"
  /-- Of any other plan, every comparison names a column. -/
  comparisons : (∀ b, plan ≠ .const b) → Predicate.AllTestColumns c.conditions
  /-- So neither constant is in the text, unless a name that is in it has the sign "=". -/
  text : (∀ b, plan ≠ .const b) → '=' ∉ c.schema.tenantColumn.toList →
    (∀ t ∈ plan.tests, '=' ∉ t.1.column.toList) →
    ¬ "1 = 1".toList <:+: c.whereSql.toList ∧ ¬ "1 = 0".toList <:+: c.whereSql.toList

section
variable {g : FilterGroup} {schema : Schema} {tenant : String} {order : Option Sql.Order}

theorem FilterGroup.whereSql_of_true (h : g.plan schema.fields = .const true) :
    (g.compiledFor schema tenant order).whereSql = schema.tenantColumn ++ " = $1" := by
  rw [CompiledFilter.whereSql, Sql.whereSql, compiledFor, h]
  exact schema.sql_tenantScope

theorem FilterGroup.conditions_of_ne_true (h : g.plan schema.fields ≠ .const true) :
    (g.compiledFor schema tenant order).conditions =
      [schema.tenantScope, (g.plan schema.fields).predicate 1] := by
  rcases g.conditions_compiledFor schema tenant order with ⟨htrue, -⟩ | hconditions
  · exact absurd htrue h
  · exact hconditions

theorem FilterGroup.whereSql_of_ne_true (h : g.plan schema.fields ≠ .const true) :
    (g.compiledFor schema tenant order).whereSql =
      schema.tenantScope.sql ++ " AND " ++ ((g.plan schema.fields).predicate 1).sql := by
  rw [CompiledFilter.whereSql, Sql.whereSql, conditions_of_ne_true h]
  rfl

end

/-- **Constants.** They are written alone, as the whole plan, or not at all. -/
theorem FilterGroup.writesPlan_of_compile {g : FilterGroup} {schema : Schema} {tenant : String}
    {sort : Option SortSpec} {c : CompiledFilter} (h : compile g schema tenant sort = .ok c) :
    c.WritesPlan (g.plan schema.fields) := by
  obtain ⟨-, -, rfl⟩ := compile_eq_ok_iff.1 h
  exact {
    ofTrue := fun htrue => whereSql_of_true htrue
    ofFalse := by
      intro hfalse
      have hne : g.plan schema.fields ≠ .const true := by
        simp [hfalse]
      rw [whereSql_of_ne_true hne, hfalse, schema.sql_tenantScope]
      simp only [String.append_assoc]
      rfl
    comparisons := by
      intro hconst
      rw [conditions_of_ne_true (hconst true)]
      refine Predicate.allTestColumns_cons.2
        ⟨?_, Predicate.allTestColumns_cons.2 ⟨?_, List.forall_mem_nil _⟩⟩
      · simp [Schema.tenantScope, Predicate.TestsColumns, Predicate.leaves, Predicate.columns,
          Term.columns]
      · exact (g.plan schema.fields).testsColumns_predicate (g.isNormal_plan _) hconst 1
    text := by
      intro hconst htenant hcolumns
      have hscope : IsGuarded schema.tenantScope.sql.toList :=
        Predicate.isGuarded_compare .eq '$' htenant (Term.notMem_sql_parameter 1)
          (by simp [Term.sql]) (by decide)
      have hplan := (g.plan schema.fields).isGuarded_predicate (g.isNormal_plan _) hconst hcolumns 1
      have hguarded :
          IsGuarded (g.compiledFor schema tenant (schema.orderOf? sort)).whereSql.toList := by
        rw [whereSql_of_ne_true (hconst true), String.toList_append, String.toList_append]
        exact (hscope.append (.of_notMem (by decide))).append hplan
      exact ⟨hguarded.not_infix (Or.inr rfl), hguarded.not_infix (Or.inl rfl)⟩ }

/-- No name of a column of a resource has the sign "=". -/
theorem Resource.notMem_columns (r : Resource) :
    '=' ∉ r.schema.tenantColumn.toList ∧ ∀ f ∈ r.fields, '=' ∉ f.column.toList := by
  cases r <;> decide

/-- **The form of plans.** Whatever the filter and the fields, the plan has its form, and a filter
that is compiled with these fields shows no constant beside a test. -/
theorem FilterGroup.plan_isWellFormed (g : FilterGroup) (fields : List Field) :
    (g.plan fields).IsFormedBy g fields ∧
      (∀ (schema : Schema) (tenant : String) (sort : Option SortSpec) (c : CompiledFilter),
        schema.fields = fields → compile g schema tenant sort = .ok c →
        c.WritesPlan (g.plan fields)) ∧
      ∀ (r : Resource) (tenant : String) (sort : Option SortSpec) (c : CompiledFilter),
        r.fields = fields → compile g r.schema tenant sort = .ok c →
        (∀ b, g.plan fields ≠ .const b) →
        ¬ "1 = 1".toList <:+: c.whereSql.toList ∧ ¬ "1 = 0".toList <:+: c.whereSql.toList := by
  refine ⟨g.isFormed_plan fields, ?_, ?_⟩
  · rintro schema tenant sort c rfl h
    exact writesPlan_of_compile h
  · rintro r tenant sort c rfl h hconst
    have hwrites := writesPlan_of_compile h
    obtain ⟨-, -, rfl⟩ := compile_eq_ok_iff.1 h
    refine hwrites.text hconst r.notMem_columns.1 ?_
    rintro ⟨field, operand⟩ htest
    exact r.notMem_columns.2 field (suits_of_mem_tests htest).1

theorem plan_isWellFormed_sample :
    (sampleDisjunction.plan Resource.clients.fields).IsFormedBy sampleDisjunction
        Resource.clients.fields ∧
      ¬ "1 = 1".toList <:+: (sampleDisjunction.compiledFor Resource.clients.schema "t1"
        none).whereSql.toList ∧
      ¬ "1 = 0".toList <:+: (sampleDisjunction.compiledFor Resource.clients.schema "t1"
        none).whereSql.toList := by
  have hform := sampleDisjunction.plan_isWellFormed Resource.clients.fields
  have hconst (b : Bool) : sampleDisjunction.plan Resource.clients.fields ≠ .const b :=
    mt Plan.isConst_iff.2 (by cases b <;> decide +kernel)
  exact ⟨hform.1, hform.2.2 .clients "t1" none _ rfl (compile_of_sorts (by decide) nofun) hconst⟩

end BillingQuery
