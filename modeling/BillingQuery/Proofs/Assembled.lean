import BillingQuery.Query.AdHoc
import Mathlib.Data.List.Forall2
import Mathlib.Tactic.SplitIfs

/-!
# What assembling gives

A query is assembled iff its checks pass, one after the other (`AdHocQuery.assemble_eq_ok_iff`).

**Main result (`AdHocQuery.assemble_eq_ok`).** An assembled statement is over an allowed table,
names columns of that table alone, and has the tenant clause as its first condition.
-/

namespace BillingQuery

theorem bind_eq_ok {x : Except ε α} {f : α → Except ε β} {b : β} :
    x.bind f = .ok b ↔ ∃ a, x = .ok a ∧ f a = .ok b := by
  cases x with
  | error e => simp [Except.bind]
  | ok a => simp [Except.bind]

theorem map_eq_ok_iff {f : α → β} {x : Except ε α} {b : β} :
    x.map f = .ok b ↔ ∃ a, x = .ok a ∧ f a = b := by
  cases x with
  | error e => simp [Except.map]
  | ok a => simp [Except.map]

/-- A failure under another name is a failure. -/
theorem mapError_eq_ok {f : ε → ε'} {x : Except ε α} {a : α} (h : x.mapError f = .ok a) :
    x = .ok a := by
  cases x with
  | error e => cases h
  | ok b =>
    cases h
    rfl

theorem forall₂_of_mapM_eq_ok {f : α → Except ε β} {as : List α} {bs : List β}
    (h : as.mapM f = .ok bs) : List.Forall₂ (fun a b => f a = .ok b) as bs := by
  induction as generalizing bs with
  | nil =>
    cases h
    exact .nil
  | cons a as ih =>
    rw [List.mapM_cons] at h
    obtain ⟨first, hfirst, h⟩ := bind_eq_ok.1 h
    obtain ⟨rest, hrest, h⟩ := bind_eq_ok.1 h
    cases h
    exact .cons hfirst (ih hrest)

theorem mem_of_mapM_eq_ok {f : α → Except ε β} {as : List α} {bs : List β} {b : β}
    (h : as.mapM f = .ok bs) (hb : b ∈ bs) : ∃ a ∈ as, f a = .ok b := by
  obtain ⟨i, rfl⟩ := List.mem_iff_get.1 hb
  have hmapped := forall₂_of_mapM_eq_ok h
  have hi : i < as.length := hmapped.length_eq.symm ▸ i.isLt
  exact ⟨as.get ⟨i, hi⟩, List.get_mem as _, hmapped.get hi i.isLt⟩

theorem exists_of_mapM_eq_some {f : α → Except ε β} {o : Option α} {b : β}
    (h : o.mapM f = .ok (some b)) : ∃ a, o = some a ∧ f a = .ok b := by
  cases o with
  | none => cases h
  | some a =>
    cases ha : f a with
    | error e => simp [Option.mapM_some, ha, Functor.map, Except.map] at h
    | ok b' =>
      obtain rfl : b' = b := by simpa [Option.mapM_some, ha, Functor.map, Except.map] using h
      exact ⟨a, rfl, ha⟩

namespace AllowedTable

theorem mem_of_ofName {name : String} {t : AllowedTable} (h : ofName name = .ok t) : t ∈ all := by
  unfold ofName at h
  split at h
  · next found hfound =>
    cases h
    exact List.mem_of_find?_eq_some hfound
  · cases h

theorem mem_of_column {t : AllowedTable} {name c : String} (h : t.column name = .ok c) :
    c ∈ t.columns := by
  unfold column at h
  split at h
  · next found hfound =>
    cases h
    exact List.mem_of_find?_eq_some hfound
  · cases h

end AllowedTable

/-- The column that a test is about. -/
def AdHocTest.column : AdHocTest → String
  | isNull column | isNotNull column | compare column _ _ => column

/-- A null asks whether the column is null, and any other value is compared with the column. -/
theorem adHocTest_cases {column : String} {operator : AdHocOperator} {value : Json} {t : AdHocTest}
    (h : adHocTest column operator value = .ok t) :
    (value = .null ∧ operator = .equals ∧ t = .isNull column) ∨
      (value = .null ∧ operator = .notEquals ∧ t = .isNotNull column) ∨
      (value ≠ .null ∧ ∃ v, t = .compare column operator v) := by
  unfold adHocTest at h
  dsimp only at h
  split at h
  case h_1 => exact Or.inl ⟨rfl, rfl, (Except.ok.inj h).symm⟩
  case h_2 => exact Or.inr (Or.inl ⟨rfl, rfl, (Except.ok.inj h).symm⟩)
  case h_3 | h_5 | h_8 | h_9 => cases h
  case h_4 | h_6 => exact Or.inr (Or.inr ⟨nofun, _, (Except.ok.inj h).symm⟩)
  case h_7 =>
    split at h
    · exact Or.inr (Or.inr ⟨nofun, _, (Except.ok.inj h).symm⟩)
    · exact Or.inr (Or.inr ⟨nofun, _, (Except.ok.inj h).symm⟩)
    · cases h

theorem adHocTest_column {column : String} {operator : AdHocOperator} {value : Json} {t : AdHocTest}
    (h : adHocTest column operator value = .ok t) : t.column = column := by
  rcases adHocTest_cases h with ⟨-, -, rfl⟩ | ⟨-, -, rfl⟩ | ⟨-, v, rfl⟩ <;> rfl

namespace AdHocFilter

/-- A test is made iff its column and its operator have the names and its value suits them. -/
theorem test_eq_ok_iff {f : AdHocFilter} {table : AllowedTable} {t : AdHocTest} :
    f.test table = .ok t ↔ ∃ column operator, table.column f.column = .ok column ∧
      AdHocOperator.ofName f.operator = .ok operator ∧
      adHocTest column operator f.value = .ok t := by
  show (table.column f.column).bind (fun column =>
    (AdHocOperator.ofName f.operator).bind fun operator => adHocTest column operator f.value) =
      .ok t ↔ _
  simp only [bind_eq_ok]
  constructor
  · rintro ⟨column, hcolumn, operator, hoperator, h⟩
    exact ⟨column, operator, hcolumn, hoperator, h⟩
  · rintro ⟨column, operator, hcolumn, hoperator, h⟩
    exact ⟨column, hcolumn, operator, hoperator, h⟩

theorem mem_column {f : AdHocFilter} {table : AllowedTable} {t : AdHocTest}
    (h : f.test table = .ok t) : t.column ∈ table.columns := by
  obtain ⟨column, operator, hcolumn, -, htest⟩ := test_eq_ok_iff.1 h
  rw [adHocTest_column htest]
  exact AllowedTable.mem_of_column hcolumn

end AdHocFilter

namespace AdHocQuery

/-- The statement made of checked parts. -/
def statementOf (q : AdHocQuery) (tenant : String) (limits : QueryLimits) (table : AllowedTable)
    (columns : List String) (orderColumn : Option String) (tests : List AdHocTest) :
    Sql.Statement where
  select :=
    { columns := columns.map fun c => ⟨c, none⟩
      table := table.name
      conditions :=
        .compare .eq (.column table.tenantColumn) (.parameter 1) :: AdHocTest.predicates 1 tests
      order := orderColumn.map fun c => ⟨c, q.orderDirection.getD .asc⟩
      limit := some (.parameter ((tests.flatMap AdHocTest.values).length + 2))
      offset := none }
  values := .text tenant :: tests.flatMap AdHocTest.values ++ [.integer (limits.clamp q.limit)]

/-- What assembling does, one check after the other. -/
theorem assemble_eq (q : AdHocQuery) (tenant : String) (limits : QueryLimits) :
    q.assemble tenant limits =
      (AllowedTable.ofName q.table).bind fun table =>
        (q.selected table).bind fun columns =>
          (q.orderBy.mapM table.column).bind fun orderColumn =>
            (q.filters.mapM fun (f : AdHocFilter) => f.test table).map fun tests =>
              q.statementOf tenant limits table columns orderColumn tests := by
  unfold assemble
  cases AllowedTable.ofName q.table with
  | error e => rfl
  | ok table =>
    cases hcolumns : q.selected table with
    | error e => simp [hcolumns, bind, Except.bind]
    | ok columns =>
      cases horder : q.orderBy.mapM table.column with
      | error e => simp [hcolumns, horder, bind, Except.bind]
      | ok orderColumn =>
        cases htests : q.filters.mapM fun (f : AdHocFilter) => f.test table with
        | error e => simp [hcolumns, horder, htests, bind, Except.bind, Except.map]
        | ok tests =>
          simp [hcolumns, horder, htests, bind, Except.bind, Except.map, statementOf, pure,
            Except.pure]

theorem mem_of_selected {q : AdHocQuery} {table : AllowedTable} {columns : List String}
    (h : q.selected table = .ok columns) : columns ⊆ table.columns := by
  unfold selected at h
  split_ifs at h
  · cases h
    exact List.Subset.refl _
  · intro c hc
    obtain ⟨name, -, hname⟩ := mem_of_mapM_eq_ok h hc
    exact AllowedTable.mem_of_column hname

/-- A query is assembled iff each of its checks passes. -/
theorem assemble_eq_ok_iff {q : AdHocQuery} {tenant : String} {limits : QueryLimits}
    {s : Sql.Statement} :
    q.assemble tenant limits = .ok s ↔ ∃ table columns orderColumn tests,
      AllowedTable.ofName q.table = .ok table ∧ q.selected table = .ok columns ∧
      q.orderBy.mapM table.column = .ok orderColumn ∧
      (q.filters.mapM fun (f : AdHocFilter) => f.test table) = .ok tests ∧
      q.statementOf tenant limits table columns orderColumn tests = s := by
  rw [assemble_eq]
  simp only [bind_eq_ok, map_eq_ok_iff]
  constructor
  · rintro ⟨table, htable, columns, hcolumns, orderColumn, horder, tests, htests, rfl⟩
    exact ⟨table, columns, orderColumn, tests, htable, hcolumns, horder, htests, rfl⟩
  · rintro ⟨table, columns, orderColumn, tests, htable, hcolumns, horder, htests, rfl⟩
    exact ⟨table, htable, columns, hcolumns, orderColumn, horder, tests, htests, rfl⟩

/-- **Assembling.** The parts of an assembled statement are those of an allowed table. -/
theorem assemble_eq_ok {q : AdHocQuery} {tenant : String} {limits : QueryLimits} {s : Sql.Statement}
    (h : q.assemble tenant limits = .ok s) :
    ∃ table columns orderColumn tests,
      s = q.statementOf tenant limits table columns orderColumn tests ∧
      table ∈ AllowedTable.all ∧ columns ⊆ table.columns ∧
      (∀ c, orderColumn = some c → c ∈ table.columns) ∧
      ∀ t ∈ tests, t.column ∈ table.columns := by
  obtain ⟨table, columns, orderColumn, tests, htable, hcolumns, horder, htests, rfl⟩ :=
    assemble_eq_ok_iff.1 h
  refine ⟨table, columns, orderColumn, tests, rfl, AllowedTable.mem_of_ofName htable,
    mem_of_selected hcolumns, ?_, ?_⟩
  · rintro c rfl
    obtain ⟨name, -, hname⟩ := exists_of_mapM_eq_some horder
    exact AllowedTable.mem_of_column hname
  · intro t ht
    obtain ⟨f, -, hf⟩ := mem_of_mapM_eq_ok htests ht
    exact AdHocFilter.mem_column hf

end AdHocQuery
end BillingQuery
