import BillingQuery.Proofs.Compiled
import BillingQuery.Proofs.RowRecord

/-!
# The two evaluations of a filter

A filter is evaluated by the store, as a compiled predicate on a row, or here, as a plan on the
record of the row.

**Main result (`exists_compile_truth_iff_accepts`).** On a row of the tenant whose cells fit their
fields, the compiled filter is true iff the filter accepts the record.

**Shape of the proof.** Both evaluations recurse over the same plan, so they agree as soon as they
agree on its tests (`Plan.truth_predicate`), which is `Operand.truth_predicate`. Unknown is no more
than false there, because plans have no negation.
-/

namespace BillingQuery

open Sql (Scope Predicate)

/-! ## From tests to plans -/

namespace Plan

variable {s : Scope} {record : Json}

/-- The compiled test agrees with the operand on the record, wherever its values are bound. -/
def TestAgrees (s : Scope) (record : Json) (t : Field × Operand) : Prop :=
  ∀ bound, Operand.IsBound s bound t.2.values →
    ((t.2.predicate t.1.column bound).truth s = some true ↔
      (record.get? t.1.key).any t.2.accepts = true)

theorem isBound_append {bound : Nat} {values more : List Sql.Value}
    (h : Operand.IsBound s bound (values ++ more)) :
    Operand.IsBound s bound values ∧ Operand.IsBound s (bound + values.length) more := by
  constructor
  · intro i v hi
    have hlt : i < values.length := (List.getElem?_eq_some_iff.1 hi).1
    exact h i v (by rw [List.getElem?_append_left hlt, hi])
  · intro i v hi
    have := h (values.length + i) v (by rw [List.getElem?_append_right (by omega)]; simpa using hi)
    rw [← this]
    congr 1
    omega

mutual

/-- **Plans agree as their tests do.** -/
theorem truth_predicate (p : Plan) {bound : Nat} (hbound : Operand.IsBound s bound p.values)
    (htests : ∀ t ∈ p.tests, TestAgrees s record t) :
    (p.predicate bound).truth s = some true ↔ p.accepts record = true := by
  cases p with
  | const b =>
    cases b with
    | true => simp [predicate, accepts, Predicate.truth_always]
    | false => simp [predicate, accepts, Predicate.truth_never]
  | test field operand =>
    rw [predicate, accepts]
    exact htests (field, operand) (List.mem_singleton_self _) bound hbound
  | all parts =>
    rw [predicate, accepts, Predicate.truth]
    exact truthOfAll_predicates parts hbound htests
  | any parts =>
    rw [predicate, accepts, Predicate.truth]
    exact truthOfAny_predicates parts hbound htests

theorem truthOfAll_predicates (ps : List Plan) {bound : Nat}
    (hbound : Operand.IsBound s bound (valuesOfAll ps))
    (htests : ∀ t ∈ testsOfAll ps, TestAgrees s record t) :
    Predicate.truthOfAll s (predicates bound ps) = some true ↔ acceptsAll record ps = true := by
  cases ps with
  | nil => simp [predicates, acceptsAll, Predicate.truthOfAll]
  | cons p ps =>
    obtain ⟨hp, hps⟩ := isBound_append hbound
    rw [predicates, acceptsAll, Predicate.truthOfAll, Sql.Truth.and_eq_true, Bool.and_eq_true,
      truth_predicate p hp fun t ht => htests t (List.mem_append_left _ ht),
      truthOfAll_predicates ps hps fun t ht => htests t (List.mem_append_right _ ht)]

theorem truthOfAny_predicates (ps : List Plan) {bound : Nat}
    (hbound : Operand.IsBound s bound (valuesOfAll ps))
    (htests : ∀ t ∈ testsOfAll ps, TestAgrees s record t) :
    Predicate.truthOfAny s (predicates bound ps) = some true ↔ acceptsAny record ps = true := by
  cases ps with
  | nil => simp [predicates, acceptsAny, Predicate.truthOfAny]
  | cons p ps =>
    obtain ⟨hp, hps⟩ := isBound_append hbound
    rw [predicates, acceptsAny, Predicate.truthOfAny, Sql.Truth.or_eq_true, Bool.or_eq_true,
      truth_predicate p hp fun t ht => htests t (List.mem_append_left _ ht),
      truthOfAny_predicates ps hps fun t ht => htests t (List.mem_append_right _ ht)]

end

end Plan

/-! ### Other bound values -/

theorem Operand.truth_parameter {s : Scope} {parameter : Nat → Sql.Cell} {column : String}
    {bound : Nat} {operand : Operand} (h : IsBound s bound operand.values)
    (h' : IsBound { s with parameter } bound operand.values) :
    (operand.predicate column bound).truth { s with parameter } =
      (operand.predicate column bound).truth s := by
  have hvalue (i : Nat) (v : Sql.Value) (hi : operand.values[i]? = some v) :
      parameter (bound + 1 + i) = s.parameter (bound + 1 + i) := (h' i v hi).trans (h i v hi).symm
  cases operand with
  | text w | textSet items | pattern kind needle | flag b | number comparison x | day d =>
    have hfirst : parameter (bound + 1) = s.parameter (bound + 1) := hvalue 0 _ rfl
    simp [predicate, isNumeric, Predicate.truth, Predicate.truthOfAll, Sql.Term.value,
      Sql.Term.affinity?, hfirst]
  | numberRange low high | dayRange low high =>
    have hfirst : parameter (bound + 1) = s.parameter (bound + 1) := hvalue 0 _ rfl
    have hsecond : parameter (bound + 2) = s.parameter (bound + 2) := hvalue 1 _ rfl
    simp [predicate, isNumeric, isDay, Predicate.truth, Predicate.truthOfAll, Sql.Term.value,
      Sql.Term.affinity?, hfirst, hsecond]

namespace Plan

variable {s : Scope} {parameter : Nat → Sql.Cell}

mutual

/-- No more matters of the bound values than those of the plan. -/
theorem truth_parameter (p : Plan) {bound : Nat} (h : Operand.IsBound s bound p.values)
    (h' : Operand.IsBound { s with parameter } bound p.values) :
    (p.predicate bound).truth { s with parameter } = (p.predicate bound).truth s := by
  cases p with
  | const b => cases b <;> rfl
  | test field operand => exact Operand.truth_parameter h h'
  | all parts =>
    rw [predicate, Predicate.truth, Predicate.truth]
    exact (truthOfParts_parameter parts h h').1
  | any parts =>
    rw [predicate, Predicate.truth, Predicate.truth]
    exact (truthOfParts_parameter parts h h').2

theorem truthOfParts_parameter (ps : List Plan) {bound : Nat}
    (h : Operand.IsBound s bound (valuesOfAll ps))
    (h' : Operand.IsBound { s with parameter } bound (valuesOfAll ps)) :
    Predicate.truthOfAll { s with parameter } (predicates bound ps) =
        Predicate.truthOfAll s (predicates bound ps) ∧
      Predicate.truthOfAny { s with parameter } (predicates bound ps) =
        Predicate.truthOfAny s (predicates bound ps) := by
  cases ps with
  | nil => exact ⟨rfl, rfl⟩
  | cons p ps =>
    obtain ⟨hp, hps⟩ := isBound_append h
    obtain ⟨hp', hps'⟩ := isBound_append h'
    have hrest := truthOfParts_parameter ps hps hps'
    rw [predicates, Predicate.truthOfAll, Predicate.truthOfAll, Predicate.truthOfAny,
      Predicate.truthOfAny, truth_parameter p hp hp', hrest.1, hrest.2]
    exact ⟨rfl, rfl⟩

end

end Plan

/-! ## Rows of a table -/

/-- Patterns are matched as documented on the row: ASCII is read as it is, and a needle is found in
a text only where it stands. -/
structure Plan.IsReadOn (p : Plan) (row : Row) (seen : Char → Char) : Prop where
  readsAscii : Sql.ReadsAscii seen
  findsOnly : ∀ f kind needle, (f, .pattern kind needle) ∈ p.tests →
    ∀ t, (row.cell f.column).lower = .text t → Sql.FindsOnly seen kind needle t

/-- An engine that reads every character as it is matches every row as documented. -/
theorem Plan.isReadOn_id (p : Plan) (row : Row) : p.IsReadOn row id :=
  ⟨Sql.readsAscii_id, fun _ kind needle _ t _ => (Sql.tellsApart_id needle t).findsOnly kind⟩

/-- No text of the filter has a character that the store merges with others. -/
def FilterGroup.IsUnmerged (g : FilterGroup) : Prop :=
  ∀ s ∈ g.texts, ∀ c ∈ s.toList, Sql.isMerged c = false

instance (g : FilterGroup) : Decidable g.IsUnmerged :=
  decidable_of_iff (g.texts.all fun s => s.toList.all fun c => !Sql.isMerged c)
    (by simp [FilterGroup.IsUnmerged])

/-- Then the store matches every row as documented. -/
theorem FilterGroup.IsUnmerged.isReadOn {g : FilterGroup} (h : g.IsUnmerged) (fields : List Field)
    (row : Row) : (g.plan fields).IsReadOn row Sql.seenChar := by
  refine ⟨Sql.readsAscii_seenChar, fun f kind needle ht t _ => ?_⟩
  refine Sql.TellsApart.findsOnly (Sql.tellsApart_seenChar (fun c hc => ?_) t) kind
  by_contra hc'
  obtain ⟨d, rfl, hnumber | ⟨s, hs, hd⟩⟩ := exists_of_mem_needle ht hc
  · have hmerged : Sql.isMerged d = true := Sql.isMerged_toLower (by simpa using hc')
    rcases Sql.isMerged_iff.1 hmerged with rfl | rfl | rfl <;> cases hnumber
  · have hmerged : Sql.isMerged d = true := Sql.isMerged_toLower (by simpa using hc')
    rw [h s hs d hd] at hmerged
    cases hmerged

namespace Resource

/-- The row has a fitting cell for each field. -/
def Fits (r : Resource) (row : Row) : Prop := ∀ f ∈ r.fields, f.type.Fits (row.cell f.column)

/-- Numbers and flags are in columns of a numeric affinity. -/
theorem isNumeric_affinity {r : Resource} {f : Field} (hf : f ∈ r.fields)
    (htype : f.type = .number ∨ f.type = .boolean) : (r.affinity f.column).isNumeric = true := by
  have hall : ∀ f ∈ r.fields, f.type = .number ∨ f.type = .boolean →
      (r.affinity f.column).isNumeric = true := by
    cases r <;> decide
  exact hall f hf htype

theorem affinity_tenantColumn (r : Resource) : r.affinity r.schema.tenantColumn = .text := by
  cases r <;> decide

/-- The scope of a row for an engine that reads characters by `seen`. -/
def scopeReadBy (r : Resource) (seen : Char → Char) (values : List Sql.Value) (row : Row) : Scope :=
  { r.scope values row with seen := seen }

theorem scopeReadBy_seenChar (r : Resource) (values : List Sql.Value) (row : Row) :
    r.scopeReadBy Sql.seenChar values row = r.scope values row := rfl

variable {r : Resource} {row : Row} {values : List Sql.Value} {seen : Char → Char}

/-- Where the first value is a tenant, the tenant clause is true on its rows, and on no others. -/
theorem truth_tenantScope {tenant : String} (htenant : Sql.parameterCell values 1 = .text tenant) :
    r.schema.tenantScope.truth (r.scopeReadBy seen values row) = some true ↔
      row.cell r.schema.tenantColumn = .text tenant := by
  have hparameter : Sql.convertFor none (some .text) (Sql.parameterCell values 1) =
      .text tenant := by
    rw [htenant]
    rfl
  rw [Schema.tenantScope, Predicate.truth]
  simp only [Sql.Term.affinity?, Sql.Term.value, Sql.convertFor_none, scopeReadBy,
    scope, affinity_tenantColumn]
  rw [hparameter, Sql.compareCells_eq_text]

/-- Past the tenant, values are bound from the second parameter on. -/
theorem isBound_scope {tenant : Sql.Value} {more : List Sql.Value} :
    Operand.IsBound (r.scopeReadBy seen (tenant :: values ++ more) row) 1 values := by
  intro i v hi
  show Sql.parameterCell (tenant :: values ++ more) (1 + 1 + i) = v.cell
  have hlt : i < values.length := (List.getElem?_eq_some_iff.1 hi).1
  have hget : (tenant :: values ++ more)[1 + 1 + i - 1]? = some v := by
    rw [show 1 + 1 + i - 1 = i + 1 from by omega, List.cons_append, List.getElem?_cons_succ,
      List.getElem?_append_left hlt, hi]
  rw [Sql.parameterCell, if_neg (by omega), hget]
  rfl

/-- The compiled tests of a filter agree with its operands on the record of a fitting row. -/
theorem testAgrees {g : FilterGroup} (hg : g.IsNulFree) (hfits : r.Fits row)
    (hread : (g.plan r.fields).IsReadOn row seen) {t : Field × Operand}
    (ht : t ∈ (g.plan r.fields).tests) :
    Plan.TestAgrees (r.scopeReadBy seen values row) (r.recordOf row) t := by
  obtain ⟨f, operand⟩ := t
  intro bound hbound
  obtain ⟨hf, hsuits⟩ := FilterGroup.suits_of_mem_tests ht
  have hfound : Operand.IsFound (r.scopeReadBy seen values row) (row.cell f.column) operand := by
    rintro kind needle rfl
    exact ⟨FilterGroup.isNulFree_needle hg ht, FilterGroup.fold_needle ht, hread.readsAscii,
      hread.findsOnly f kind needle ht⟩
  rw [get?_recordOf hf, Option.any_some]
  exact Operand.truth_predicate hsuits (hfits f hf) (isNumeric_affinity hf) hbound hfound

end Resource

namespace FilterGroup

/-- The predicate of the filter is true on the row for an engine that reads characters by `seen`. -/
def isTrueOn (g : FilterGroup) (r : Resource) (tenant : String) (seen : Char → Char) (row : Row) :
    Bool :=
  ((g.plan r.fields).predicate 1).truth
    (r.scopeReadBy seen (.text tenant :: (g.plan r.fields).values) row) == some true

variable {g : FilterGroup} {r : Resource} {tenant : String} {seen : Char → Char} {row : Row}

theorem isTrueOn_iff (more : List Sql.Value) :
    g.isTrueOn r tenant seen row = true ↔
      ((g.plan r.fields).predicate 1).truth
        (r.scopeReadBy seen (.text tenant :: (g.plan r.fields).values ++ more) row) =
          some true := by
  have hbound : Operand.IsBound
      (r.scopeReadBy seen (.text tenant :: (g.plan r.fields).values) row) 1
      (g.plan r.fields).values := by
    have := @Resource.isBound_scope r row (g.plan r.fields).values seen (.text tenant) []
    rwa [List.append_nil] at this
  have htruth := (g.plan r.fields).truth_parameter hbound
    (@Resource.isBound_scope r row (g.plan r.fields).values seen (.text tenant) more)
  rw [isTrueOn, beq_iff_eq, ← htruth]
  rfl

/-- On a fitting row that is read as documented, the predicate is true iff the filter accepts the
record of the row. -/
theorem isTrueOn_eq_accepts (hg : g.IsNulFree) (hfits : r.Fits row)
    (hread : (g.plan r.fields).IsReadOn row seen) :
    g.isTrueOn r tenant seen row = g.accepts r.fields (r.recordOf row) := by
  rw [Bool.eq_iff_iff, isTrueOn_iff []]
  exact Plan.truth_predicate _ Resource.isBound_scope fun t ht =>
    Resource.testAgrees hg hfits hread ht

/-- The compiled conditions hold of a row iff it is the tenant's and the predicate is true on it,
whatever else is bound after the values of the filter. -/
theorem truthOfAll_conditions (order : Option Sql.Order) (more : List Sql.Value) :
    Predicate.truthOfAll
        (r.scopeReadBy seen ((g.compiledFor r.schema tenant order).values ++ more) row)
        (g.compiledFor r.schema tenant order).conditions = some true ↔
      row.cell r.schema.tenantColumn = .text tenant ∧ g.isTrueOn r tenant seen row = true := by
  have hscope : r.schema.tenantScope.truth
      (r.scopeReadBy seen ((g.compiledFor r.schema tenant order).values ++ more) row) =
        some true ↔ row.cell r.schema.tenantColumn = .text tenant := Resource.truth_tenantScope rfl
  rw [Predicate.truthOfAll_eq_true]
  rcases g.conditions_compiledFor r.schema tenant order with ⟨hplan, hconditions⟩ | hconditions
  · have htrue : g.isTrueOn r tenant seen row = true := by
      rw [isTrueOn, Resource.fields, hplan]
      rfl
    rw [hconditions, List.forall_mem_singleton, htrue]
    exact hscope.trans (and_iff_left rfl).symm
  · rw [hconditions, List.forall_mem_cons, List.forall_mem_singleton]
    exact and_congr hscope (isTrueOn_iff more).symm

end FilterGroup

/-- A filter without merged characters means the same to the store as to an engine that reads every
character as it is. -/
theorem Resource.isTrueOn_seenChar {r : Resource} {g : FilterGroup} {tenant : String} {row : Row}
    (hg : g.IsNulFree) (hfits : r.Fits row) (h : g.IsUnmerged) :
    g.isTrueOn r tenant Sql.seenChar row = g.isTrueOn r tenant id row := by
  rw [FilterGroup.isTrueOn_eq_accepts hg hfits (h.isReadOn _ row),
    FilterGroup.isTrueOn_eq_accepts hg hfits (Plan.isReadOn_id _ row)]

/-- **The store and the evaluator agree.** On a row of the tenant whose cells fit their fields, the
compiled filter, which there is one of, is true iff the filter accepts the record of the row. -/
theorem exists_compile_truth_iff_accepts {r : Resource} {g : FilterGroup} {tenant : String}
    {sort : Option SortSpec} {row : Row} {seen : Char → Char} (hlimits : g.IsWithinLimits)
    (hsort : r.schema.Sorts sort) (hg : g.IsNulFree)
    (htenant : row.cell r.schema.tenantColumn = .text tenant) (hfits : r.Fits row)
    (hread : (g.plan r.fields).IsReadOn row seen) :
    ∃ c, compile g r.schema tenant sort = .ok c ∧
      (Predicate.truthOfAll (r.scopeReadBy seen c.values row) c.conditions = some true ↔
        g.accepts r.fields (r.recordOf row) = true) := by
  refine ⟨_, compile_of_sorts hlimits hsort, ?_⟩
  have htruth := @FilterGroup.truthOfAll_conditions g r tenant seen row (r.schema.orderOf? sort) []
  rw [List.append_nil] at htruth
  rw [htruth, FilterGroup.isTrueOn_eq_accepts hg hfits hread]
  exact and_iff_right htenant

/-- A client whose name has the special characters of patterns. -/
def sampleClient : Row where
  cells := [("id", .integer 7), ("tenant_id", .text "t1"), ("name", .text "100%_Acme\\"),
    ("email", .null), ("status", .text "Active"), ("plan", .integer 3),
    ("monthly_value", .integer 250), ("auto_renew", .integer 1),
    ("created_at", .text "2024-02-29T10:00:00Z")]

/-- A name with a special character, and either a flag or a range and a day. -/
def sampleFilter : FilterGroup :=
  ⟨"root", .and, [
    .cond (.on "1" "name" "contains" (.string "%_ACME")),
    .group "2" .or [
      .cond (.on "3" "autoRenew" "equals" (.string "no")),
      .group "4" .and [
        .cond (.between "5" "monthlyValue" (Json.int 200) (.string " 300 ")),
        .cond (.on "6" "createdAt" "equals" (.string "2024-02-29")),
        .cond (.on "7" "status" "in" (.string "trial, ACTIVE"))]]]⟩

theorem sampleClient_fits : Resource.clients.Fits sampleClient := by
  have hflag : Sql.Cell.integer 1 = (Sql.Cell.integer 1).store .numeric := rfl
  simp only [Resource.Fits, Resource.fields, Resource.schema, Resource.clientFields,
    List.forall_mem_cons]
  refine ⟨?_, ?_, ?_, ?_, ?_, ?_, ?_, ?_, by simp⟩
  · exact Or.inr (Or.inl ⟨7, rfl⟩)
  · exact Or.inr (Or.inr ⟨"100%_Acme\\", rfl, by decide⟩)
  · exact Or.inl rfl
  · exact Or.inr (Or.inr ⟨"Active", rfl, by decide⟩)
  · exact Or.inr (Or.inl ⟨3, rfl⟩)
  · exact Or.inr (Or.inr (Or.inr ⟨250, rfl, by decide⟩))
  · exact ⟨_, hflag⟩
  · exact Or.inr ⟨"2024-02-29T10:00:00Z", rfl⟩

theorem sampleFilter_isUnmerged : sampleFilter.IsUnmerged := by decide

theorem exists_compile_truth_iff_accepts_sample :
    ∃ c, compile sampleFilter Resource.clients.schema "t1" (some ⟨"name", .desc⟩) = .ok c ∧
      (Predicate.truthOfAll (Resource.clients.scopeReadBy Sql.seenChar c.values sampleClient)
          c.conditions = some true ↔
        sampleFilter.accepts Resource.clients.fields (Resource.clients.recordOf sampleClient) =
          true) := by
  have hsort : Resource.clients.schema.Sorts (some ⟨"name", .desc⟩) := by
    rintro _ ⟨⟩
    decide
  exact exists_compile_truth_iff_accepts (by decide) hsort (by decide) rfl sampleClient_fits
    (sampleFilter_isUnmerged.isReadOn _ _)

end BillingQuery
