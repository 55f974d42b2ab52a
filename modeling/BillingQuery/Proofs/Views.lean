import BillingQuery.Proofs.Running

/-!
# Statements see rows through columns

**Main result (`Statement.result_map_restrict`).** What a statement gives depends only on the cells
of the columns that it names, and on the order in which the table has its rows. So a table may be
replaced by its view on those columns.

**Views** (`Row.restrict`). A view of a row is again a row, with fewer columns, and everything that
is run on rows is run on views by the same definitions.
-/

namespace BillingQuery

/-- The row with these columns only. -/
def Row.restrict (columns : List String) (row : Row) : Row :=
  ⟨columns.map fun c => (c, row.cell c)⟩

theorem Row.cell_restrict {columns : List String} {c : String} (h : c ∈ columns) (row : Row) :
    (row.restrict columns).cell c = row.cell c := by
  have hlookup : (columns.map fun c => (c, row.cell c)).lookup c = some (row.cell c) := by
    induction columns with
    | nil => cases h
    | cons first columns ih =>
      rw [List.map_cons, List.lookup_cons]
      by_cases hc : c = first
      · rw [hc, beq_self_eq_true]
      · rw [beq_false_of_ne hc]
        exact ih ((List.mem_cons.1 h).resolve_left hc)
  show ((columns.map fun c => (c, row.cell c)).lookup c).getD .null = row.cell c
  rw [hlookup, Option.getD_some]

namespace Sql

/-! ## Predicates -/

/-- The scopes differ at most in the cells of other columns. -/
structure Scope.AgreesOn (columns : List String) (s s' : Scope) : Prop where
  affinity : s.affinity = s'.affinity
  parameter : s.parameter = s'.parameter
  seen : s.seen = s'.seen
  cell : ∀ c ∈ columns, s.cell c = s'.cell c

theorem Scope.AgreesOn.mono {columns more : List String} {s s' : Scope}
    (h : Scope.AgreesOn more s s') (hsub : columns ⊆ more) : Scope.AgreesOn columns s s' :=
  ⟨h.affinity, h.parameter, h.seen, fun c hc => h.cell c (hsub hc)⟩

variable {s s' : Scope}

theorem Term.value_congr {t : Term} (h : Scope.AgreesOn t.columns s s') :
    t.value s = t.value s' := by
  induction t with
  | column name => exact h.cell name (List.mem_singleton_self name)
  | parameter n => exact congrFun h.parameter n
  | integer n => rfl
  | lower t ih => exact congrArg Cell.lower (ih h)
  | leading t length ih => exact congrArg (Cell.leading length) (ih h)
  | date t ih => exact congrArg Cell.dayNamed (ih h)
  | className t ih => exact congrArg (fun c => Cell.text c.className) (ih h)

theorem Term.affinity?_congr (t : Term) (h : s.affinity = s'.affinity) :
    t.affinity? s = t.affinity? s' := by
  cases t with
  | column name => exact congrArg some (congrFun h name)
  | parameter n | integer n | lower t | leading t n | date t | className t => rfl

namespace Predicate

mutual

theorem truth_congr (p : Predicate) (h : Scope.AgreesOn p.columns s s') :
    p.truth s = p.truth s' := by
  cases p with
  | compare relation left right =>
    have hleft := Term.value_congr (h.mono (List.subset_append_left _ _))
    have hright := Term.value_congr (h.mono (List.subset_append_right _ _))
    simp only [truth, hleft, hright, left.affinity?_congr h.affinity,
      right.affinity?_congr h.affinity]
  | like text pattern escape =>
    have htext := Term.value_congr (h.mono (List.subset_append_left _ _))
    have hpattern := Term.value_congr (h.mono (List.subset_append_right _ _))
    simp only [truth, htext, hpattern, h.seen]
  | among t texts => simp only [truth, Term.value_congr h]
  | amongItems t array =>
    have ht := Term.value_congr (h.mono (List.subset_append_left _ _))
    have harray := Term.value_congr (h.mono (List.subset_append_right _ _))
    simp only [truth, ht, harray]
  | isNull t => simp only [truth, Term.value_congr h]
  | isNotNull t => simp only [truth, Term.value_congr h]
  | all parts => exact (truthOfParts_congr parts h).1
  | any parts => exact (truthOfParts_congr parts h).2

theorem truthOfParts_congr (ps : List Predicate) (h : Scope.AgreesOn (columnsOfAll ps) s s') :
    truthOfAll s ps = truthOfAll s' ps ∧ truthOfAny s ps = truthOfAny s' ps := by
  cases ps with
  | nil => exact ⟨rfl, rfl⟩
  | cons p ps =>
    have hp := truth_congr p (h.mono (List.subset_append_left _ _))
    have hps := truthOfParts_congr ps (h.mono (List.subset_append_right _ _))
    exact ⟨by rw [truthOfAll, truthOfAll, hp, hps.1], by rw [truthOfAny, truthOfAny, hp, hps.2]⟩

end

mutual

theorem meetsLongPattern_congr (p : Predicate) (h : Scope.AgreesOn p.columns s s') :
    p.meetsLongPattern s = p.meetsLongPattern s' := by
  cases p with
  | like text pattern escape =>
    have hpattern := Term.value_congr (h.mono (List.subset_append_right _ _))
    simp only [meetsLongPattern, hpattern]
  | all parts => exact (meets_congr parts h).1
  | any parts => exact (meets_congr parts h).2
  | compare _ _ _ | among _ _ | amongItems _ _ | isNull _ | isNotNull _ => rfl

theorem meets_congr (ps : List Predicate) (h : Scope.AgreesOn (columnsOfAll ps) s s') :
    conjunctionMeets s ps = conjunctionMeets s' ps ∧
      disjunctionMeets s ps = disjunctionMeets s' ps := by
  cases ps with
  | nil => exact ⟨rfl, rfl⟩
  | cons p ps =>
    have hp := h.mono (List.subset_append_left _ _)
    have hps := meets_congr ps (h.mono (List.subset_append_right _ _))
    constructor
    · rw [conjunctionMeets, conjunctionMeets, meetsLongPattern_congr p hp, truth_congr p hp, hps.1]
    · rw [disjunctionMeets, disjunctionMeets, meetsLongPattern_congr p hp, truth_congr p hp, hps.2]

end

theorem columnsOfAll_subset {ps : List Predicate} {columns : List String}
    (h : ∀ p ∈ ps, p.columns ⊆ columns) : columnsOfAll ps ⊆ columns := by
  induction ps with
  | nil => exact List.nil_subset _
  | cons p ps ih =>
    rw [List.forall_mem_cons] at h
    exact List.append_subset.2 ⟨h.1, ih h.2⟩

end Predicate

/-! ## Tables -/

variable {r : Resource} {columns : List String}

/-- A row and its view give the same values to the columns of the view. -/
theorem scope_restrict (r : Resource) (values : List Value) (columns : List String) (row : Row) :
    Scope.AgreesOn columns (r.scope values (row.restrict columns)) (r.scope values row) :=
  ⟨rfl, rfl, rfl, fun _ hc => Row.cell_restrict hc row⟩

theorem selects_restrict {values : List Value} {conditions : List Predicate}
    (h : ∀ p ∈ conditions, p.columns ⊆ columns) (row : Row) :
    selects r values conditions (row.restrict columns) = selects r values conditions row := by
  rw [selects, selects, Bool.eq_iff_iff, List.all_eq_true, List.all_eq_true]
  refine forall₂_congr fun p hp => ?_
  rw [Predicate.truth_congr p ((scope_restrict r values columns row).mono (h p hp))]

theorem ordered_map_restrict {order : Option Order} (h : ∀ o, order = some o → o.column ∈ columns)
    (rows : List Row) :
    ordered order (rows.map (Row.restrict columns)) =
      (ordered order rows).map (Row.restrict columns) := by
  cases order with
  | none => rfl
  | some o =>
    have hcell (row : Row) : (row.restrict columns).cell o.column = row.cell o.column :=
      Row.cell_restrict (h o rfl) row
    refine (List.map_mergeSort fun a _ b _ => ?_).symm
    simp only [Order.permits, hcell]

theorem page_map (f : α → β) (limit offset : Option Int) (rows : List α) :
    page limit offset (rows.map f) = (page limit offset rows).map f := by
  cases limit with
  | none => simp [page, List.map_drop]
  | some n =>
    by_cases hn : n < 0
    · simp [page, hn, List.map_drop]
    · simp [page, hn, List.map_drop, List.map_take]

theorem project_restrict {projected : List (String × String)}
    (h : ∀ c ∈ projected, c.1 ∈ columns) (row : Row) :
    project projected (row.restrict columns) = project projected row :=
  List.map_congr_left fun c hc => congrArg (Prod.mk c.2) (Row.cell_restrict (h c hc) row)

namespace Statement

/-- The statement names these columns at most. The rows are found by one of them too. -/
structure NamesOnly (s : Statement) (r : Resource) (columns : List String) : Prop where
  conditions : ∀ p ∈ s.select.conditions, p.columns ⊆ columns
  order : ∀ o, s.select.order = some o → o.column ∈ columns
  scanOrder : ∀ o, s.select.scanOrder r = some o → o.column ∈ columns

variable {s : Statement}

/-- **Results of views.** A statement gives the same rows on a view of the table. -/
theorem result_map_restrict (hnames : s.NamesOnly r columns) {projected : List (String × String)}
    (hprojected : ∀ c ∈ projected, c.1 ∈ columns) (rows : List Row) :
    s.result r projected (rows.map (Row.restrict columns)) = s.result r projected rows := by
  have hselects : selects r s.values s.select.conditions ∘ Row.restrict columns =
      selects r s.values s.select.conditions := by
    funext row
    exact selects_restrict hnames.conditions row
  have hproject : project projected ∘ Row.restrict columns = project projected := by
    funext row
    exact project_restrict hprojected row
  simp only [result]
  rw [List.filter_map, hselects, ordered_map_restrict hnames.scanOrder,
    ordered_map_restrict hnames.order, page_map, List.map_map, hproject]

/-- A long pattern is met on a view of the table iff it is met on the table. -/
theorem meetsLongPattern_map_restrict (hnames : s.NamesOnly r columns) (rows : List Row) :
    s.meetsLongPattern r (rows.map (Row.restrict columns)) = s.meetsLongPattern r rows := by
  have hevaluated : Predicate.columnsOfAll (s.select.evaluated r) ⊆ columns :=
    Predicate.columnsOfAll_subset fun p hp => hnames.conditions p (mem_of_mem_evaluated hp)
  have hmeets (row : Row) :
      Predicate.conjunctionMeets (r.scope s.values (row.restrict columns))
          (s.select.evaluated r) =
        Predicate.conjunctionMeets (r.scope s.values row) (s.select.evaluated r) :=
    (Predicate.meets_congr _ ((scope_restrict r s.values columns row).mono hevaluated)).1
  rw [meetsLongPattern, meetsLongPattern, List.any_map]
  congr 2
  funext row
  exact hmeets row

end Statement

end Sql
end BillingQuery
