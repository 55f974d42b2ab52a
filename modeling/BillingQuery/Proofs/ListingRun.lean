import BillingQuery.Proofs.Backends
import BillingQuery.Proofs.RowOrder
import BillingQuery.Proofs.Running

/-!
# Running a listing

**Main result (`Database.search_eq`).** While patterns are within the engine's limit, a listing
fails only where compiling does, and else gives a page of the tenant's rows on which the filter is
true, in the requested order.

The statement of a listing names more columns than any index keeps, so its rows are found in the
order of the table; and no tenant's rows are reached but the caller's.
-/

namespace BillingQuery

open Sql (Predicate Value)

/-! ## Long patterns -/

/-- No needle of the plan makes a pattern over the engine's limit. -/
def Plan.HasShortPatterns (p : Plan) : Prop :=
  ∀ f kind needle, (f, .pattern kind needle) ∈ p.tests →
    (kind.likePattern needle).utf8ByteSize ≤ Sql.maxPatternSize

theorem Operand.meetsLongPattern_predicate {s : Sql.Scope} {column : String} {bound : Nat}
    {operand : Operand} (hbound : IsBound s bound operand.values)
    (hshort : ∀ kind needle, operand = .pattern kind needle →
      (kind.likePattern needle).utf8ByteSize ≤ Sql.maxPatternSize) :
    (operand.predicate column bound).meetsLongPattern s = false := by
  cases operand with
  | pattern kind needle =>
    have hfirst : s.parameter (bound + 1) = .text (kind.likePattern needle) := hbound 0 _ rfl
    have hsize := hshort kind needle rfl
    rw [predicate, Predicate.meetsLongPattern, Sql.Term.value, hfirst]
    simpa using hsize
  | text w | textSet items | flag b | day d => rfl
  | number comparison x | numberRange low high | dayRange low high =>
    simp [predicate, isNumeric, isDay, Predicate.meetsLongPattern, Predicate.conjunctionMeets]

namespace Plan

variable {s : Sql.Scope}

mutual

theorem meetsLongPattern_predicate (p : Plan) {bound : Nat}
    (hbound : Operand.IsBound s bound p.values) (hshort : p.HasShortPatterns) :
    (p.predicate bound).meetsLongPattern s = false := by
  cases p with
  | const b => cases b <;> rfl
  | test field operand =>
    refine Operand.meetsLongPattern_predicate hbound fun kind needle heq => ?_
    exact hshort field kind needle (by rw [heq]; exact List.mem_singleton_self _)
  | all parts =>
    rw [predicate, Predicate.meetsLongPattern]
    exact (meets_predicates parts hbound hshort).1
  | any parts =>
    rw [predicate, Predicate.meetsLongPattern]
    exact (meets_predicates parts hbound hshort).2

theorem meets_predicates (ps : List Plan) {bound : Nat}
    (hbound : Operand.IsBound s bound (valuesOfAll ps))
    (hshort : ∀ f kind needle, (f, .pattern kind needle) ∈ testsOfAll ps →
      (kind.likePattern needle).utf8ByteSize ≤ Sql.maxPatternSize) :
    Predicate.conjunctionMeets s (predicates bound ps) = false ∧
      Predicate.disjunctionMeets s (predicates bound ps) = false := by
  cases ps with
  | nil => exact ⟨rfl, rfl⟩
  | cons p ps =>
    obtain ⟨hp, hps⟩ := isBound_append hbound
    have hfirst := meetsLongPattern_predicate p hp fun f kind needle h =>
      hshort f kind needle (List.mem_append_left _ h)
    have hrest := meets_predicates ps hps fun f kind needle h =>
      hshort f kind needle (List.mem_append_right _ h)
    simp [predicates, Predicate.conjunctionMeets, Predicate.disjunctionMeets, hfirst, hrest]

end

end Plan

namespace Sql

theorem conjunctionMeets_eq_false {s : Scope} {ps : List Predicate}
    (h : ∀ p ∈ ps, p.meetsLongPattern s = false) : Predicate.conjunctionMeets s ps = false := by
  induction ps with
  | nil => rfl
  | cons p ps ih =>
    rw [List.forall_mem_cons] at h
    simp [Predicate.conjunctionMeets, h.1, ih h.2]

end Sql

/-! ## The statement of a listing -/

namespace Plan

/-- No plan is a bound of a column by itself: comparisons of numbers stand behind a check of the
class. -/
theorem not_isBound_predicate (p : Plan) (bound : Nat) (column : String) :
    (p.predicate bound).isLowerBound column = false ∧
      (p.predicate bound).isUpperBound column = false := by
  cases p with
  | const b => cases b <;> exact ⟨rfl, rfl⟩
  | test field operand => cases operand <;> exact ⟨rfl, rfl⟩
  | all parts | any parts => exact ⟨rfl, rfl⟩

end Plan

section
variable {r : Resource} {g : FilterGroup} {tenant : String} {order : Option Sql.Order}
  {limit offset : Int}

/-- No condition of a listing is a bound of a column. -/
theorem not_isBound_condition (column : String) {p : Predicate}
    (h : p ∈ (g.compiledFor r.schema tenant order).conditions) :
    p.isLowerBound column = false ∧ p.isUpperBound column = false := by
  rcases FilterGroup.mem_conditions h with rfl | rfl
  · exact ⟨rfl, rfl⟩
  · exact (g.plan r.fields).not_isBound_predicate 1 column

theorem not_isBound_conditions (column : String) :
    (g.compiledFor r.schema tenant order).conditions.any (·.isLowerBound column) = false ∧
      (g.compiledFor r.schema tenant order).conditions.any (·.isUpperBound column) = false := by
  simp only [List.any_eq_false, Bool.not_eq_true]
  exact ⟨fun p hp => (not_isBound_condition column hp).1,
    fun p hp => (not_isBound_condition column hp).2⟩

/-- Rows of a listing are found in the order of the table. -/
theorem scanOrder_select :
    ((g.compiledFor r.schema tenant order).select limit offset).select.scanOrder r = none := by
  cases r with
  | clients | licenses | cashAccounts | cashTransactions => rfl
  | invoices =>
    obtain ⟨hlower, hupper⟩ :=
      @not_isBound_conditions .invoices g tenant order "invoice_number"
    have hcovered : ((g.compiledFor Resource.invoices.schema tenant order).select limit
        offset).select.isCoveredBy "invoice_number" = false := by
      have hamount : "amount" ∈ ((g.compiledFor Resource.invoices.schema tenant order).select limit
          offset).select.namedColumns :=
        List.mem_append_left _ (List.mem_append_left _
          (show "amount" ∈ ["id", "invoice_number", "client_id", "status", "amount", "currency",
            "issue_date", "due_date"] by decide))
      rw [Sql.Select.isCoveredBy, Bool.and_eq_false_iff]
      refine Or.inr (List.all_eq_false.2 ⟨"amount", hamount, by decide⟩)
    have hgain : ((g.compiledFor Resource.invoices.schema tenant order).select limit
        offset).select.gainBy "invoice_number" = 0 := by
      rw [Sql.Select.gainBy, hcovered]
      show (List.any _ _).toNat + (List.any _ _).toNat + 0 = 0
      rw [CompiledFilter.select, hlower, hupper]
      rfl
    simp [Sql.Select.scanOrder, Resource.numbering, hgain]

/-- Patterns within the limit are never in the way. -/
theorem meetsLongPattern_select (hshort : (g.plan r.fields).HasShortPatterns) (rows : List Row) :
    ((g.compiledFor r.schema tenant order).select limit offset).meetsLongPattern r rows =
      false := by
  rw [Sql.Statement.meetsLongPattern, Bool.and_eq_false_iff]
  refine Or.inr (List.any_eq_false.2 fun row _ => ?_)
  rw [Bool.not_eq_true]
  refine Sql.conjunctionMeets_eq_false fun p hp => ?_
  have hcondition : p ∈ (g.compiledFor r.schema tenant order).conditions :=
    Sql.mem_of_mem_evaluated hp
  rcases FilterGroup.mem_conditions hcondition with rfl | rfl
  · rfl
  · exact Plan.meetsLongPattern_predicate _ Resource.isBound_scope hshort

/-- A listing is over the table of its resource, and names no column that the table lacks. -/
theorem resolve_select :
    ((g.compiledFor r.schema tenant order).select limit offset).resolve =
      .ok (r, r.schema.listed) := by
  have hwidth : (r.fields.map fun f => (⟨f.column, some f.key⟩ : Sql.ResultColumn)).length ≤
      Sql.maxResultColumns := by
    cases r <;> decide
  exact Sql.Statement.resolve_eq_ok
    (Nat.le_trans (g.length_conditions r.schema tenant order) (by decide)) r.ofTable?_table hwidth
    r.mapM_resolveColumn

/-- The rows of a listing: a page of those that its conditions select. -/
theorem result_select (rows : List Row) :
    ((g.compiledFor r.schema tenant order).select limit offset).result r r.schema.listed rows =
      (Sql.page (some limit) (some offset) (Sql.ordered order (rows.filter (Sql.selects r
        ((g.compiledFor r.schema tenant order).values ++ [.integer limit, .integer offset])
        (g.compiledFor r.schema tenant order).conditions)))).map (Sql.project r.schema.listed) := by
  have hscan : ((g.compiledFor r.schema tenant order).select limit offset).select.scanOrder r =
      none := scanOrder_select
  have hlimit : Sql.boundOf ((g.compiledFor r.schema tenant order).values ++
      [.integer limit, .integer offset])
      (.parameter ((g.compiledFor r.schema tenant order).values.length + 1)) = some limit := by
    simp [Sql.boundOf, Sql.parameterCell, Value.cell]
  have hoffset : Sql.boundOf ((g.compiledFor r.schema tenant order).values ++
      [.integer limit, .integer offset])
      (.parameter ((g.compiledFor r.schema tenant order).values.length + 2)) = some offset := by
    simp [Sql.boundOf, Sql.parameterCell, Value.cell]
  rw [Sql.Statement.result, hscan]
  simp only [CompiledFilter.select, Option.bind_some, hlimit, hoffset]
  rfl

theorem run_select (db : Database) (hshort : (g.plan r.fields).HasShortPatterns) :
    ((g.compiledFor r.schema tenant order).select limit offset).run db =
      .ok (((g.compiledFor r.schema tenant order).select limit offset).result r r.schema.listed
        (db.rows r)) := by
  rw [Sql.Statement.run_eq, resolve_select]
  show (if _ then _ else _) = _
  rw [meetsLongPattern_select hshort]
  rfl

end

/-! ## Listings -/

/-- The rows of a tenant, in the order of the table. -/
def Database.rowsOf (db : Database) (r : Resource) (tenant : String) : List Row :=
  (db.rows r).filter fun row => row.cell r.schema.tenantColumn = .text tenant

/-- The page of those of the rows that are chosen, unless the query is rejected. -/
def ListingQuery.pageOf (q : ListingQuery) (r : Resource) (limits : QueryLimits) (rows : List Row)
    (chosen : Row → Bool) : Except QueryError RecordPage :=
  q.filter.checkComplexity.bind fun _ =>
    (q.sort.mapM r.schema.order?).map fun order =>
      { records := (Sql.page (some (limits.clamp q.limit)) (some (effectiveOffset q.offset))
          (Sql.ordered order (rows.filter chosen))).map r.recordOf
        issues := (q.filter.issues r.fields).map FilterIssue.message
        limit := limits.clamp q.limit
        offset := effectiveOffset q.offset }

theorem ListingQuery.pageOf_congr {q : ListingQuery} {r : Resource} {limits : QueryLimits}
    {rows : List Row} {chosen chosen' : Row → Bool} (h : ∀ row ∈ rows, chosen row = chosen' row) :
    q.pageOf r limits rows chosen = q.pageOf r limits rows chosen' := by
  rw [pageOf, pageOf, List.filter_congr h]

namespace Database

variable {db : Database} {r : Resource} {tenant : String} {q : ListingQuery} {limits : QueryLimits}

/-- The conditions of a listing select the tenant's rows on which the filter is true. -/
theorem filter_selects {g : FilterGroup} {order : Option Sql.Order} (more : List Value) :
    (db.rows r).filter (Sql.selects r ((g.compiledFor r.schema tenant order).values ++ more)
        (g.compiledFor r.schema tenant order).conditions) =
      (db.rowsOf r tenant).filter (g.isTrueOn r tenant Sql.seenChar) := by
  rw [rowsOf, List.filter_filter]
  refine List.filter_congr fun row _ => ?_
  have hselects : Sql.selects r ((g.compiledFor r.schema tenant order).values ++ more)
      (g.compiledFor r.schema tenant order).conditions row = true ↔
        Predicate.truthOfAll (r.scopeReadBy Sql.seenChar
          ((g.compiledFor r.schema tenant order).values ++ more) row)
          (g.compiledFor r.schema tenant order).conditions = some true := by
    rw [Predicate.truthOfAll_eq_true, Sql.selects, List.all_eq_true]
    simp only [beq_iff_eq, Resource.scopeReadBy_seenChar]
  rw [Bool.eq_iff_iff, hselects, Bool.and_eq_true, decide_eq_true_iff,
    FilterGroup.truthOfAll_conditions]
  exact and_comm

/-- **Listing.** It fails where compiling does, and else gives a page of the tenant's rows on which
the filter is true. -/
theorem search_eq (hshort : (q.filter.plan r.fields).HasShortPatterns) :
    db.search r tenant q limits =
      q.pageOf r limits (db.rowsOf r tenant) (q.filter.isTrueOn r tenant Sql.seenChar) := by
  have hrecord : r.schema.recordOf ∘ Sql.project r.schema.listed = r.recordOf := rfl
  rw [search, compile_eq, ListingQuery.pageOf]
  cases q.filter.checkComplexity with
  | error e => rfl
  | ok _ =>
    cases q.sort.mapM r.schema.order? with
    | error e => rfl
    | ok order =>
      have hrun : ((q.filter.compiledFor r.schema tenant order).select (limits.clamp q.limit)
          (effectiveOffset q.offset)).run db = .ok (((q.filter.compiledFor r.schema tenant
            order).select (limits.clamp q.limit) (effectiveOffset q.offset)).result r
            r.schema.listed (db.rows r)) := run_select db hshort
      simp only [Except.bind, Except.map, bind]
      rw [hrun, result_select, filter_selects]
      simp only [Except.mapError, List.map_map, hrecord]
      rfl

end Database
end BillingQuery
