import BillingQuery.Proofs.ListingRun
import BillingQuery.Proofs.Views
import BillingQuery.Query.AllowList

/-!
# Confined statements

A statement is confined to a tenant if the tenant clause is one of its conditions and if it names
only columns that are open to callers (`Statement.IsConfined`).

**Main result (`Statement.IsConfined.run_congr`).** A confined statement gives the same on databases
that agree on the tenant's rows, as far as the open columns show.

**Shape of the proof.** Rows of other tenants are not selected, and no pattern is held against them,
because the scan decides the tenant clause before any pattern is reached. So only the tenant's rows
matter, and of these the view on the named columns (`Statement.result_map_restrict`). The tenant
column is no open one, but on the tenant's rows its cell is known.
-/

namespace BillingQuery

open Sql (Predicate Statement)

/-! ## Open columns -/

/-- The columns of the table that a caller can name: those of the fields and of the allow list. -/
def Resource.openColumns (r : Resource) : List String :=
  r.fields.map Field.column ++
    (AllowedTable.all.filter fun t => t.name == r.schema.table).flatMap AllowedTable.columns

/-- The tenant, and what else is kept from callers, is in no open column. -/
example : ∀ r ∈ Resource.all,
    ∀ c ∈ ["tenant_id", "tax_id", "internal_notes", "pdf_blob", "signing_secret"],
      c ∉ r.openColumns := by
  decide

theorem Resource.resolveColumn_of_mem {r : Resource} {c : Sql.ResultColumn}
    (h : c.column ∈ r.openColumns) :
    Sql.resolveColumn r c = .ok (c.column, c.alias?.getD c.column) := by
  have hall : ∀ name ∈ r.openColumns, (r.column? name).map Column.name = some name := by
    cases r <;> decide +kernel
  obtain ⟨column, hcolumn, hname⟩ := Option.map_eq_some_iff.1 (hall c.column h)
  rw [Sql.resolveColumn, hcolumn, ← hname]

theorem Resource.mapM_resolveColumn_of_mem {r : Resource} {columns : List Sql.ResultColumn}
    (h : ∀ c ∈ columns, c.column ∈ r.openColumns) :
    columns.mapM (Sql.resolveColumn r) =
      .ok (columns.map fun c => (c.column, c.alias?.getD c.column)) := by
  induction columns with
  | nil => rfl
  | cons c columns ih =>
    rw [List.forall_mem_cons] at h
    rw [List.mapM_cons, resolveColumn_of_mem h.1, ih h.2]
    rfl

theorem AllowedTable.exists_resource {t : AllowedTable} (h : t ∈ all) :
    ∃ r, Resource.ofTable? t.name = some r ∧ r.schema.tenantColumn = t.tenantColumn ∧
      t.columns ⊆ r.openColumns := by
  have hall : ∀ t ∈ all, ∃ r ∈ Resource.all, Resource.ofTable? t.name = some r ∧
      r.schema.tenantColumn = t.tenantColumn ∧ ∀ c ∈ t.columns, c ∈ r.openColumns := by
    decide
  obtain ⟨r, -, hr⟩ := hall t h
  exact ⟨r, hr⟩

/-- The rows of a scan are kept in order of an open column. -/
theorem Sql.Select.scanOrder_mem {r : Resource} {s : Sql.Select} {o : Sql.Order}
    (h : s.scanOrder r = some o) : o.column ∈ r.openColumns := by
  obtain ⟨column, hcolumn, rfl⟩ := Option.map_eq_some_iff.1 h
  have hnumbering := (Option.filter_eq_some_iff.1 hcolumn).1
  cases r with
  | invoices =>
    cases hnumbering
    decide
  | clients | licenses | cashAccounts | cashTransactions => cases hnumbering

/-! ## Agreement -/

/-- The databases have the same rows of the tenant, as far as the open columns show, in the same
order. Rows of other tenants and cells of other columns may differ. -/
def Database.AgreesFor (tenant : String) (db db' : Database) : Prop :=
  ∀ r, (db.rowsOf r tenant).map (Row.restrict r.openColumns) =
    (db'.rowsOf r tenant).map (Row.restrict r.openColumns)

/-- The columns that a confined statement can name. -/
def Resource.scopedColumns (r : Resource) : List String :=
  r.schema.tenantColumn :: r.openColumns

/-- On the tenant's rows the tenant column is known, so that agreement extends to it. -/
theorem Database.AgreesFor.map_restrict {tenant : String} {db db' : Database}
    (h : Database.AgreesFor tenant db db') (r : Resource) :
    (db.rowsOf r tenant).map (Row.restrict r.scopedColumns) =
      (db'.rowsOf r tenant).map (Row.restrict r.scopedColumns) := by
  have hextend (db : Database) : (db.rowsOf r tenant).map (Row.restrict r.scopedColumns) =
      ((db.rowsOf r tenant).map (Row.restrict r.openColumns)).map fun view =>
        ⟨(r.schema.tenantColumn, .text tenant) :: view.cells⟩ := by
    rw [List.map_map]
    refine List.map_congr_left fun row hrow => ?_
    have htenant : row.cell r.schema.tenantColumn = .text tenant :=
      of_decide_eq_true (List.mem_filter.1 hrow).2
    rw [Row.restrict, Resource.scopedColumns, List.map_cons, htenant]
    rfl
  rw [hextend db, hextend db', h r]

namespace Sql

/-! ## Rows of other tenants -/

/-- A comparison has no pattern. -/
theorem Predicate.meetsLongPattern_of_isDecidedBy {columns : List String} {p : Predicate}
    (h : p.isDecidedBy columns = true) (s : Scope) : p.meetsLongPattern s = false := by
  cases p with
  | compare relation left right => rfl
  | like _ _ _ | among _ _ | amongItems _ _ | isNull _ | isNotNull _ | all _ | any _ => cases h

/-- Nothing is evaluated after a condition that is not true. -/
theorem Predicate.conjunctionMeets_append {s : Scope} {first rest : List Predicate}
    (hfirst : ∀ p ∈ first, p.meetsLongPattern s = false)
    (hfalse : ∃ p ∈ first, p.truth s ≠ some true) :
    conjunctionMeets s (first ++ rest) = false := by
  induction first with
  | nil =>
    obtain ⟨p, hp, -⟩ := hfalse
    cases hp
  | cons q first ih =>
    rw [List.forall_mem_cons] at hfirst
    rw [List.cons_append, conjunctionMeets, hfirst.1, Bool.false_or]
    by_cases hq : q.truth s = some true
    · have hlater : ∃ p ∈ first, p.truth s ≠ some true := by
        obtain ⟨p, hp, h⟩ := hfalse
        rcases List.mem_cons.1 hp with rfl | hp
        · exact absurd hq h
        · exact ⟨p, hp, h⟩
      rw [ih hfirst.2 hlater, Bool.and_false]
    · rw [beq_false_of_ne hq, Bool.false_and]

namespace Statement

/-- The statement reads the tenant's rows only, by open columns only. -/
structure IsConfined (s : Statement) (r : Resource) (tenant : String) : Prop where
  table : Resource.ofTable? s.select.table = some r
  scope : r.schema.tenantScope ∈ s.select.conditions
  tenant : parameterCell s.values 1 = .text tenant
  names : s.NamesOnly r r.scopedColumns
  returns : ∀ c ∈ s.select.columns, c.column ∈ r.openColumns

namespace IsConfined

variable {s : Statement} {r : Resource} {tenant : String}

theorem truth_tenantScope_iff (h : s.IsConfined r tenant) (row : Row) :
    r.schema.tenantScope.truth (r.scope s.values row) = some true ↔
      row.cell r.schema.tenantColumn = .text tenant :=
  r.scopeReadBy_seenChar s.values row ▸ Resource.truth_tenantScope h.tenant

theorem tenant_of_selects (h : s.IsConfined r tenant) {row : Row}
    (hrow : selects r s.values s.select.conditions row = true) :
    row.cell r.schema.tenantColumn = .text tenant := by
  have hscope := List.all_eq_true.1 hrow _ h.scope
  exact (h.truth_tenantScope_iff row).1 (beq_iff_eq.1 hscope)

theorem conjunctionMeets_of_ne (h : s.IsConfined r tenant) {row : Row}
    (hrow : row.cell r.schema.tenantColumn ≠ .text tenant) :
    Predicate.conjunctionMeets (r.scope s.values row) (s.select.evaluated r) = false := by
  have hdecided : r.schema.tenantScope.isDecidedBy (s.select.scanColumns r) = true := by
    have hcolumn : r.schema.tenantColumn = "tenant_id" := by cases r <;> rfl
    rw [Schema.tenantScope, Predicate.isDecidedBy, hcolumn]
    · exact List.elem_eq_true_of_mem List.mem_cons_self
    · intro heq
      cases heq
  simp only [Select.evaluated, List.partition_eq_filter_filter, List.append_assoc]
  refine Predicate.conjunctionMeets_append (fun p hp => ?_)
    ⟨_, List.mem_filter.2 ⟨h.scope, hdecided⟩, fun htrue => ?_⟩
  · exact Predicate.meetsLongPattern_of_isDecidedBy (List.mem_filter.1 hp).2 _
  · exact hrow ((h.truth_tenantScope_iff row).1 htrue)

theorem result_rowsOf (h : s.IsConfined r tenant) (db : Database)
    (columns : List (String × String)) :
    s.result r columns (db.rows r) = s.result r columns (db.rowsOf r tenant) := by
  have hfilter : (db.rowsOf r tenant).filter (selects r s.values s.select.conditions) =
      (db.rows r).filter (selects r s.values s.select.conditions) := by
    rw [Database.rowsOf, List.filter_filter]
    refine List.filter_congr fun row _ => ?_
    rw [Bool.eq_iff_iff, Bool.and_eq_true, decide_eq_true_iff]
    exact and_iff_left_of_imp h.tenant_of_selects
  rw [result, result, hfilter]

/-- A pattern is too long for one of the tenant's rows, or for none. -/
theorem meetsLongPattern_rowsOf (h : s.IsConfined r tenant) (db : Database) :
    s.meetsLongPattern r (db.rows r) = s.meetsLongPattern r (db.rowsOf r tenant) := by
  rw [meetsLongPattern, meetsLongPattern]
  congr 1
  rw [Database.rowsOf, List.any_filter]
  congr 1
  funext row
  by_cases hrow : row.cell r.schema.tenantColumn = .text tenant
  · rw [decide_eq_true hrow, Bool.true_and]
  · rw [decide_eq_false hrow, Bool.false_and, h.conjunctionMeets_of_ne hrow]

/-- The statement is over the table of its resource, if it is not too large. -/
theorem of_resolve_eq_ok (h : s.IsConfined r tenant) {r' : Resource}
    {columns : List (String × String)} (hresolve : s.resolve = .ok (r', columns)) :
    r' = r ∧ ∀ c ∈ columns, c.1 ∈ r.openColumns := by
  unfold resolve at hresolve
  rw [h.table] at hresolve
  dsimp only at hresolve
  split at hresolve
  · cases hresolve
  · split at hresolve
    · cases hresolve
    · rw [Resource.mapM_resolveColumn_of_mem h.returns] at hresolve
      cases hresolve
      refine ⟨rfl, fun c hc => ?_⟩
      obtain ⟨column, hcolumn, rfl⟩ := List.mem_map.1 hc
      exact h.returns column hcolumn

/-- **Confined statements.** What they give depends on the tenant's rows alone, and of these on the
open columns alone. -/
theorem run_congr (h : s.IsConfined r tenant) {db db' : Database}
    (hagree : Database.AgreesFor tenant db db') : s.run db = s.run db' := by
  rw [run_eq, run_eq]
  cases hresolve : s.resolve with
  | error e => rfl
  | ok resolved =>
    obtain ⟨r', columns⟩ := resolved
    obtain ⟨rfl, hcolumns⟩ := h.of_resolve_eq_ok hresolve
    have hscoped : ∀ c ∈ columns, c.1 ∈ r'.scopedColumns :=
      fun c hc => List.mem_cons_of_mem _ (hcolumns c hc)
    have hresult : s.result r' columns (db.rows r') = s.result r' columns (db'.rows r') := by
      rw [h.result_rowsOf, h.result_rowsOf, ← result_map_restrict h.names hscoped,
        hagree.map_restrict, result_map_restrict h.names hscoped]
    have hlong : s.meetsLongPattern r' (db.rows r') = s.meetsLongPattern r' (db'.rows r') := by
      rw [h.meetsLongPattern_rowsOf, h.meetsLongPattern_rowsOf,
        ← meetsLongPattern_map_restrict h.names, hagree.map_restrict,
        meetsLongPattern_map_restrict h.names]
    show (if _ then _ else _) = (if _ then _ else _)
    rw [hlong, hresult]

end IsConfined
end Statement
end Sql
end BillingQuery
