import BillingQuery.Proofs.Assembled
import BillingQuery.Proofs.Isolation
import BillingQuery.Proofs.Placeholders

/-!
# The statement of an ad-hoc query

**Main result (`AdHocQuery.writesFlat_of_assemble`).** An assembled statement is written in one way:
the columns, the table, the tenant clause, one clause for each filter, the ordering and the limit.
Its names are those of the allow list, and the tenant column is named in the tenant clause alone.
Its values are the tenant, then those of the filters that have one, then the limit, each under its
own placeholder.

A filter by null binds nothing, so the number of a placeholder depends on all filters before it. The
clauses are related to the filters one by one, with the number of the values that are bound so far
(`AdHocFilter.Write`).
-/

namespace BillingQuery

open Sql (Predicate numbers placeholders?)

/-! ## What filters write and bind -/

/-- The value is bound as the other one: an integer that has 64 bits as itself, and a wider one as
the nearest double. -/
inductive Json.IsBoundAs : Json → Sql.Value → Prop
  | text (s : String) : IsBoundAs (.string s) (.text s)
  | bool (b : Bool) : IsBoundAs (.bool b) (.bool b)
  | real (x : Binary64) : IsBoundAs (.number (.real x)) (.real x)
  | integer {n : Int} (low : -2 ^ 63 ≤ n) (high : n < 2 ^ 63) :
      IsBoundAs (.number (.integer n)) (.integer n)
  | wide {n : Int} {x : Binary64} (outside : n < -2 ^ 63 ∨ 2 ^ 63 ≤ n)
      (nearest : Binary64.ofInt? n = some x) : IsBoundAs (.number (.integer n)) (.real x)

namespace AdHocFilter

/-- The filters write the text and bind the values `own`, after `n` values that are bound before
theirs. The values of the whole statement are `values`. -/
inductive Write (table : AllowedTable) (values : List Sql.Value) :
    Nat → List AdHocFilter → List Sql.Value → String → Prop
  | nil (n : Nat) : Write table values n [] [] ""
  | isNull {n : Nat} {column text : String} {fs : List AdHocFilter} {own : List Sql.Value}
      (allowed : column ∈ table.columns) (rest : Write table values n fs own text) :
      Write table values n (⟨column, "equals", .null⟩ :: fs) own
        (" AND " ++ column ++ " IS NULL" ++ text)
  | isNotNull {n : Nat} {column text : String} {fs : List AdHocFilter} {own : List Sql.Value}
      (allowed : column ∈ table.columns) (rest : Write table values n fs own text) :
      Write table values n (⟨column, "not_equals", .null⟩ :: fs) own
        (" AND " ++ column ++ " IS NOT NULL" ++ text)
  | compare {n : Nat} {column text : String} {operator : AdHocOperator} {value : Json}
      {v : Sql.Value} {fs : List AdHocFilter} {own : List Sql.Value}
      (allowed : column ∈ table.columns) (bound : value.IsBoundAs v) (found : values[n]? = some v)
      (rest : Write table values (n + 1) fs own text) :
      Write table values n (⟨column, operator.name, value⟩ :: fs) (v :: own)
        (" AND " ++ column ++ " " ++ operator.sql ++ " $" ++ natText (n + 1) ++ text)

end AdHocFilter

/-! ## Lists of predicates -/

namespace Sql

/-- What follows the first of some conditions. -/
def clauses : List Predicate → String
  | [] => ""
  | p :: ps => " AND " ++ p.sql ++ clauses ps

theorem whereSql_cons (p : Predicate) (ps : List Predicate) :
    whereSql (p :: ps) = p.sql ++ clauses ps := by
  induction ps generalizing p with
  | nil => simp [whereSql, Predicate.joined, clauses]
  | cons q ps ih =>
    have hrest : Predicate.joined " AND " (q :: ps) = q.sql ++ clauses ps := ih q
    rw [whereSql, Predicate.joined, hrest, clauses, String.append_assoc, String.append_assoc]

theorem joinedTokens_cons (keyword : String) (p : Predicate) (ps : List Predicate) :
    Predicate.joinedTokens keyword (p :: ps) =
      p.tokens ++ ps.flatMap fun q => .word keyword :: q.tokens := by
  induction ps generalizing p with
  | nil => rw [Predicate.joinedTokens, List.flatMap_nil, List.append_nil]
  | cons q ps ih => rw [Predicate.joinedTokens, ih, List.flatMap_cons, List.cons_append]

theorem arePlain_of_forall {ps : List Predicate} (h : ∀ p ∈ ps, p.IsPlain) :
    Predicate.ArePlain ps := by
  induction ps with
  | nil => trivial
  | cons p ps ih =>
    rw [List.forall_mem_cons] at h
    exact ⟨h.1, ih h.2⟩

/-- A word, or a name in double quotes. -/
def Token.name? : Token → Option String
  | .word s | .quoted s => some s
  | _ => none

/-- The words and names of a text, from left to right. -/
def names? (sql : String) : Option (List String) :=
  (tokens? sql.toList).map (List.filterMap Token.name?)

theorem names_columns (columns : List String) :
    ([.comma].intercalate (columns.map fun c => [.word c])).filterMap Token.name? = columns := by
  induction columns with
  | nil => rfl
  | cons c columns ih =>
    cases columns with
    | nil => rfl
    | cons d columns =>
      rw [List.map_cons] at ih
      rw [List.map_cons, List.map_cons, List.intercalate_cons_cons, List.filterMap_append,
        List.filterMap_append, ih]
      rfl

end Sql

/-! ## The allow list -/

/-- The words of an ad-hoc statement after its tenant clause that are no names. -/
def clauseKeywords : List String :=
  ["AND", "IS", "NOT", "NULL", "LIKE", "ORDER", "BY", "ASC", "DESC", "LIMIT"]

namespace AllowedTable

variable {t : AllowedTable}

theorem isName_of_mem (h : t ∈ all) : Sql.isName t.name = true ∧
    Sql.isName t.tenantColumn = true ∧ ∀ c ∈ t.columns, Sql.isName c = true := by
  revert t
  decide +kernel

theorem columns_ne_nil (h : t ∈ all) : t.columns ≠ [] := by
  revert t
  decide +kernel

/-- The tenant column is no keyword and no table. -/
theorem tenantColumn_notMem (h : t ∈ all) :
    t.tenantColumn ∉ "SELECT" :: "FROM" :: t.name :: "WHERE" :: clauseKeywords := by
  revert t
  decide +kernel

theorem name_of_ofName {name : String} (h : ofName name = .ok t) : t.name = name := by
  unfold ofName at h
  split at h
  · next found hfound =>
    cases h
    have hname := List.find?_some hfound
    exact beq_iff_eq.1 hname
  · cases h

/-- The entry that a name finds is the name. -/
theorem eq_of_column {name c : String} (h : t.column name = .ok c) : c = name := by
  unfold column at h
  split at h
  · next found hfound =>
    cases h
    have hname := List.find?_some hfound
    exact beq_iff_eq.1 hname
  · cases h

end AllowedTable

theorem AdHocOperator.name_of_ofName {name : String} {op : AdHocOperator}
    (h : ofName name = .ok op) : op.name = name := by
  unfold ofName at h
  split at h
  · next found hfound =>
    cases h
    have hfind : all.find? (·.name == name) = some op := hfound
    have hname := List.find?_some hfind
    exact beq_iff_eq.1 hname
  · cases h

/-! ## Tests -/

theorem AdHocOperator.sql_predicate (op : AdHocOperator) (column : String) (n : Nat) :
    (op.predicate (.column column) (.parameter n)).sql =
      column ++ " " ++ op.sql ++ " $" ++ natText n := by
  refine String.toList_inj.1 ?_
  cases op <;> simp [predicate, Predicate.sql, Sql.Term.sql, Sql.Relation.sql, sql]

theorem JsonNumber.toInt64?_integer (n : Int) :
    (integer n).toInt64? = if -2 ^ 63 ≤ n ∧ n < 2 ^ 63 then some n else none := by
  rw [toInt64?]
  simp only [Bool.and_eq_true, decide_eq_true_eq]

/-- The value of a comparison is bound as it was given. -/
theorem isBoundAs_of_adHocTest {column : String} {op : AdHocOperator} {value : Json} {v : Sql.Value}
    (h : adHocTest column op value = .ok (.compare column op v)) : value.IsBoundAs v := by
  unfold adHocTest at h
  dsimp only at h
  split at h
  case h_1 | h_2 | h_3 | h_5 | h_8 | h_9 => cases h
  case h_4 _ s =>
    cases h
    exact .text s
  case h_6 _ b _ =>
    cases h
    exact .bool b
  case h_7 _ m _ =>
    cases m with
    | real x =>
      cases h
      exact .real x
    | integer n =>
      rw [JsonNumber.toInt64?_integer] at h
      by_cases hn : -2 ^ 63 ≤ n ∧ n < 2 ^ 63
      · rw [if_pos hn] at h
        cases h
        exact .integer hn.1 hn.2
      · rw [if_neg hn] at h
        cases hx : Binary64.ofInt? n with
        | none =>
          rw [JsonNumber.toBinary64?, hx] at h
          cases h
        | some x =>
          rw [JsonNumber.toBinary64?, hx] at h
          cases h
          exact .wide (by omega) hx

/-- What a filter that passes its checks asks for. -/
theorem AdHocFilter.test_cases {f : AdHocFilter} {table : AllowedTable} {t : AdHocTest}
    (h : f.test table = .ok t) :
    (f.operator = "equals" ∧ f.value = .null ∧ t = .isNull f.column) ∨
      (f.operator = "not_equals" ∧ f.value = .null ∧ t = .isNotNull f.column) ∨
      ∃ operator v, f.operator = AdHocOperator.name operator ∧ f.value.IsBoundAs v ∧
        t = .compare f.column operator v := by
  obtain ⟨column, operator, hcolumn, hoperator, htest⟩ := test_eq_ok_iff.1 h
  obtain rfl := AllowedTable.eq_of_column hcolumn
  have hname := AdHocOperator.name_of_ofName hoperator
  rcases adHocTest_cases htest with ⟨hnull, rfl, rfl⟩ | ⟨hnull, rfl, rfl⟩ | ⟨-, v, rfl⟩
  · exact Or.inl ⟨hname.symm, hnull, rfl⟩
  · exact Or.inr (Or.inl ⟨hname.symm, hnull, rfl⟩)
  · exact Or.inr (Or.inr ⟨operator, v, hname.symm, isBoundAs_of_adHocTest htest, rfl⟩)

theorem AdHocFilter.column_mem {f : AdHocFilter} {table : AllowedTable} {t : AdHocTest}
    (h : f.test table = .ok t) : f.column ∈ table.columns := by
  obtain ⟨column, -, hcolumn, -, -⟩ := test_eq_ok_iff.1 h
  have hallowed := AllowedTable.mem_of_column hcolumn
  rwa [AllowedTable.eq_of_column hcolumn] at hallowed

/-- The clauses of some tests are what their filters write, if the values are bound at their
places. -/
theorem AdHocFilter.write_of_tests {table : AllowedTable} {values : List Sql.Value}
    {fs : List AdHocFilter} {ts : List AdHocTest}
    (h : List.Forall₂ (fun f t => AdHocFilter.test f table = .ok t) fs ts) {n : Nat}
    (hfound : ts.flatMap AdHocTest.values <+: values.drop n) :
    Write table values n fs (ts.flatMap AdHocTest.values)
      (Sql.clauses (AdHocTest.predicates n ts)) := by
  -- A filter by null leaves the count of bound values as it is, and any other moves it by one.
  induction h generalizing n with
  | nil => exact .nil n
  | @cons f t fs ts hf _ ih =>
    have hcases := test_cases hf
    have hallowed := column_mem hf
    obtain ⟨column, name, value⟩ := f
    dsimp only at hcases hallowed
    rcases hcases with ⟨rfl, rfl, rfl⟩ | ⟨rfl, rfl, rfl⟩ | ⟨operator, v, rfl, hbound, rfl⟩
    · rw [AdHocTest.predicates, Sql.clauses, AdHocTest.predicate, Predicate.sql, Sql.Term.sql,
        ← String.append_assoc]
      exact .isNull hallowed (ih hfound)
    · rw [AdHocTest.predicates, Sql.clauses, AdHocTest.predicate, Predicate.sql, Sql.Term.sql,
        ← String.append_assoc]
      exact .isNotNull hallowed (ih hfound)
    · obtain ⟨rest, hrest⟩ := hfound
      have hfirst : values[n]? = some v := by
        rw [← List.head?_drop, ← hrest]
        rfl
      have hothers : ts.flatMap AdHocTest.values <+: values.drop (n + 1) := by
        refine ⟨rest, ?_⟩
        rw [← List.tail_drop, ← hrest]
        rfl
      rw [AdHocTest.predicates, Sql.clauses, AdHocTest.predicate, AdHocOperator.sql_predicate]
      simp only [← String.append_assoc]
      exact .compare hallowed hbound hfirst (ih hothers)

namespace AdHocTest

variable (ts : List AdHocTest) (n : Nat)

/-- The placeholders of some tests are those after the bound ones, one for each value. -/
theorem numbers_predicates : ((predicates n ts).flatMap fun p => numbers p.tokens) =
    List.range' (n + 1) (ts.flatMap values).length := by
  induction ts generalizing n with
  | nil => rfl
  | cons t ts ih =>
    have hfirst : numbers (t.predicate n).tokens = List.range' (n + 1) t.values.length := by
      cases t with
      | isNull column | isNotNull column => rfl
      | compare column operator v => cases operator <;> rfl
    rw [predicates, List.flatMap_cons, hfirst, ih, List.flatMap_cons, List.length_append,
      ← List.range'_append_1, Nat.add_right_comm]

variable {ts}

theorem isPlain_predicate {t : AdHocTest} (h : Sql.isName t.column = true) :
    (t.predicate n).IsPlain := by
  cases t with
  | isNull column | isNotNull column => exact h
  | compare column operator v =>
    cases operator with
    | equals | notEquals | greater | less => exact ⟨h, trivial⟩
    | like =>
      refine ⟨h, trivial, ?_⟩
      intro c hc
      cases hc

theorem isTest_predicate (t : AdHocTest) : (t.predicate n).IsTest := by
  cases t with
  | isNull column | isNotNull column => trivial
  | compare column operator v => cases operator <;> trivial

/-- A test names its column. -/
theorem names_predicate (t : AdHocTest) :
    (t.predicate n).tokens.filterMap Sql.Token.name? ⊆ t.column :: clauseKeywords := by
  cases t with
  | isNull column | isNotNull column =>
    simp [predicate, Predicate.tokens, Sql.Term.tokens, Sql.Token.name?, clauseKeywords,
      AdHocTest.column]
  | compare column operator v =>
    cases operator <;>
      simp [predicate, AdHocOperator.predicate, Predicate.tokens, Sql.Term.tokens, Sql.Token.name?,
        clauseKeywords, AdHocTest.column, List.filterMap_cons]

end AdHocTest

/-- An ordering names its column. -/
theorem names_orderTokens (order : Option Sql.Order) :
    (Sql.orderTokens order).filterMap Sql.Token.name? ⊆
      clauseKeywords ++ (order.map Sql.Order.column).toList := by
  cases order with
  | none => exact List.nil_subset _
  | some o =>
    obtain ⟨column, direction⟩ := o
    cases direction <;>
      simp [Sql.orderTokens, Sql.Token.name?, clauseKeywords, SortDirection.sql]

/-! ## Statements -/

namespace AdHocQuery

/-- The columns to return: all of the table, if the query names none. -/
def returned (q : AdHocQuery) (table : AllowedTable) : List String :=
  if q.columns.isEmpty then table.columns else q.columns

/-- The words before the tenant clause. -/
def headNames (q : AdHocQuery) (table : AllowedTable) : List String :=
  "SELECT" :: q.returned table ++ ["FROM", table.name, "WHERE"]

/-- The ordering that is asked for. -/
def order (q : AdHocQuery) : Option Sql.Order :=
  q.orderBy.map fun c => ⟨c, q.orderDirection.getD .asc⟩

def orderText (q : AdHocQuery) : String :=
  match q.orderBy with
  | some c => " ORDER BY " ++ c ++ " " ++ (q.orderDirection.getD .asc).sql
  | none => ""

/-- The statement is the one way to write the query over the table. -/
structure WritesFlat (q : AdHocQuery) (table : AllowedTable) (tenant : String)
    (limits : QueryLimits) (s : Sql.Statement) : Prop where
  name : table.name = q.table
  /-- The columns to return may be named. -/
  columns : q.returned table ⊆ table.columns
  /-- The column to order by may be named. -/
  order : ∀ c, q.orderBy = some c → c ∈ table.columns
  /-- The tenant clause is followed by what the filters write, the ordering and the limit. The
  tenant is bound first, then what the filters bind, and the limit last. -/
  text : ∃ own written, AdHocFilter.Write table s.values 1 q.filters own written ∧
    s.values = .text tenant :: own ++ [.integer (limits.clamp q.limit)] ∧
    s.sql = "SELECT " ++ ", ".intercalate (q.returned table) ++ " FROM " ++ table.name ++
      " WHERE " ++ table.tenantColumn ++ " = $1" ++ written ++ q.orderText ++
      " LIMIT $" ++ natText s.values.length
  /-- The placeholders are `$1`, `$2` and so on, one for each value. -/
  placeholders : placeholders? s.sql = some (List.range' 1 s.values.length)
  /-- The words of the text are keywords, the table and its columns. The tenant column is named
  once, in the tenant clause. -/
  names : ∃ after, Sql.names? s.sql = some (q.headNames table ++ table.tenantColumn :: after) ∧
    after ⊆ clauseKeywords ++ table.columns ∧ table.tenantColumn ∉ q.headNames table ++ after
  /-- Read by the grammar of SQL, the conditions are the tenant clause and tests, joined by AND. -/
  reading : ∃ tests, (∀ p ∈ tests, p.IsTest) ∧
    Sql.readSelect? s.sql = some
      { columns := (q.returned table).map fun c => ⟨c, none⟩
        table := table.name
        conditions :=
          [Sql.joinAll (.compare .eq (.column table.tenantColumn) (.parameter 1) :: tests)]
        order := q.order
        limit := some (.parameter s.values.length)
        offset := none }

section
variable {q : AdHocQuery} {table : AllowedTable} {tenant : String} {limits : QueryLimits}

theorem eq_returned_of_selected {columns : List String} (h : q.selected table = .ok columns) :
    columns = q.returned table := by
  unfold selected at h
  rw [returned]
  split_ifs at h ⊢
  · cases h
    rfl
  · have hsame : List.Forall₂ (· = ·) q.columns columns :=
      (forall₂_of_mapM_eq_ok h).imp fun _ _ hc => (AllowedTable.eq_of_column hc).symm
    exact (List.forall₂_eq_eq_eq ▸ hsame).symm

theorem eq_of_mapM_column {name found : Option String} (h : name.mapM table.column = .ok found) :
    found = name := by
  cases name with
  | none =>
    cases h
    rfl
  | some name =>
    rw [Option.mapM_some] at h
    obtain ⟨c, hc, rfl⟩ := map_eq_ok_iff.1 h
    rw [AllowedTable.eq_of_column hc]

/-- The statement of a query over a table, with tests for its filters. -/
def flatStatement (q : AdHocQuery) (tenant : String) (limits : QueryLimits) (table : AllowedTable)
    (tests : List AdHocTest) : Sql.Statement :=
  q.statementOf tenant limits table (q.returned table) q.orderBy tests

/-- The table is of the allow list, and the names of the query are among its columns. -/
structure IsAllowed (q : AdHocQuery) (table : AllowedTable) (tests : List AdHocTest) : Prop where
  listed : table ∈ AllowedTable.all
  columns : q.returned table ⊆ table.columns
  order : ∀ c, q.orderBy = some c → c ∈ table.columns
  tests : ∀ t ∈ tests, t.column ∈ table.columns

/-- What is assembled, by the parts of the query. -/
theorem exists_of_assemble {s : Sql.Statement} (h : q.assemble tenant limits = .ok s) :
    ∃ table tests, table.name = q.table ∧ q.IsAllowed table tests ∧
      List.Forall₂ (fun f t => AdHocFilter.test f table = .ok t) q.filters tests ∧
      s = q.flatStatement tenant limits table tests := by
  obtain ⟨table, columns, orderColumn, tests, htable, hcolumns, horder, htests, rfl⟩ :=
    assemble_eq_ok_iff.1 h
  obtain rfl := eq_returned_of_selected hcolumns
  obtain rfl := eq_of_mapM_column horder
  have hallowed : q.IsAllowed table tests := {
    listed := AllowedTable.mem_of_ofName htable
    columns := mem_of_selected hcolumns
    order := by
      intro c hc
      rw [hc] at horder
      obtain ⟨found, hfound, hcolumn⟩ := exists_of_mapM_eq_some horder
      exact AllowedTable.mem_of_column hcolumn
    tests := by
      intro t ht
      obtain ⟨f, -, hf⟩ := mem_of_mapM_eq_ok htests ht
      exact AdHocFilter.mem_column hf }
  exact ⟨table, tests, AllowedTable.name_of_ofName htable, hallowed, forall₂_of_mapM_eq_ok htests,
    rfl⟩

/-! ### The parts of a statement -/

variable {tests : List AdHocTest}

/-- The tenant and the limit are bound beside the values of the tests. -/
theorem length_values_flatStatement :
    (q.flatStatement tenant limits table tests).values.length =
      (tests.flatMap AdHocTest.values).length + 2 := by
  simp [flatStatement, statementOf]

theorem sql_flatStatement :
    (q.flatStatement tenant limits table tests).sql =
      "SELECT " ++ ", ".intercalate (q.returned table) ++ " FROM " ++ table.name ++
        " WHERE " ++ table.tenantColumn ++ " = $1" ++
        Sql.clauses (AdHocTest.predicates 1 tests) ++ q.orderText ++
        " LIMIT $" ++ natText ((tests.flatMap AdHocTest.values).length + 2) := by
  have hcolumns : ((q.returned table).map fun c => (⟨c, none⟩ : Sql.ResultColumn)).map
      Sql.ResultColumn.sql = q.returned table := by
    rw [List.map_map]
    exact List.map_id _
  have horder : Sql.Select.clause " " (q.order.map Sql.Order.sql) = q.orderText := by
    rw [order, orderText]
    cases q.orderBy with
    | none => rfl
    | some c =>
      refine String.toList_inj.1 ?_
      simp [Sql.Select.clause, Sql.Order.sql]
  have hparts : (q.flatStatement tenant limits table tests).sql =
      "SELECT " ++ ", ".intercalate (((q.returned table).map fun c => ⟨c, none⟩).map
        Sql.ResultColumn.sql) ++ " FROM " ++ table.name ++ (" WHERE " ++ Sql.whereSql
          (.compare .eq (.column table.tenantColumn) (.parameter 1) ::
            AdHocTest.predicates 1 tests)) ++
        Sql.Select.clause " " (q.order.map Sql.Order.sql) ++
        (" LIMIT " ++ ("$" ++ natText ((tests.flatMap AdHocTest.values).length + 2))) ++ "" := rfl
  have hone : natText 1 = "1" := rfl
  rw [hparts, hcolumns, horder, Sql.whereSql_cons]
  -- The two texts are cut into literals at different places, so they are compared as characters.
  refine String.toList_inj.1 ?_
  simp [Predicate.sql, Sql.Term.sql, Sql.Relation.sql, hone]

theorem isPlain_flatStatement (h : q.IsAllowed table tests) :
    (q.flatStatement tenant limits table tests).select.IsPlain := by
  obtain ⟨hname, htenant, hnames⟩ := AllowedTable.isName_of_mem h.listed
  have hpredicates : ∀ p ∈ AdHocTest.predicates 1 tests, p.IsPlain := by
    intro p hp
    obtain ⟨t, ht, n, rfl⟩ := AdHocTest.exists_of_mem_predicates hp
    exact AdHocTest.isPlain_predicate n (hnames _ (h.tests t ht))
  exact {
    columns_ne := by
      rw [flatStatement, statementOf, ne_eq, List.map_eq_nil_iff, returned]
      split_ifs with hempty
      · exact AllowedTable.columns_ne_nil h.listed
      · rwa [List.isEmpty_iff] at hempty
    columns := by
      intro c hc
      obtain ⟨column, hcolumn, rfl⟩ := List.mem_map.1 hc
      refine ⟨hnames column (h.columns hcolumn), ?_⟩
      intro key hkey
      cases hkey
    table := hname
    conditions_ne := List.cons_ne_nil _ _
    conditions := ⟨⟨htenant, trivial⟩, Sql.arePlain_of_forall hpredicates⟩
    order := by
      intro o ho
      obtain ⟨c, hc, rfl⟩ := Option.map_eq_some_iff.1 ho
      exact hnames c (h.order c hc)
    limit := by
      intro t ht
      cases ht
      trivial
    offset := by
      intro t ht
      cases ht }

/-- The tokens after the tenant clause. -/
def laterTokens (q : AdHocQuery) (tests : List AdHocTest) : List Sql.Token :=
  ((AdHocTest.predicates 1 tests).flatMap fun p => .word "AND" :: p.tokens) ++
    (Sql.orderTokens q.order ++
      [.word "LIMIT", .parameter ((tests.flatMap AdHocTest.values).length + 2)])

theorem lexes_flatStatement (h : q.IsAllowed table tests) :
    Sql.Lexes (q.flatStatement tenant limits table tests).sql.toList
      (.word "SELECT" :: ([.comma].intercalate ((q.returned table).map fun c => [.word c]) ++
        .word "FROM" :: .word table.name :: .word "WHERE" :: .word table.tenantColumn ::
          .relation .eq :: .parameter 1 :: q.laterTokens tests)) := by
  have hlexes := Sql.Select.lexes (@isPlain_flatStatement q table tenant limits tests h)
  have hcolumns : (q.flatStatement tenant limits table tests).select.columns.map
      Sql.ResultColumn.tokens = (q.returned table).map fun c => [.word c] := List.map_map
  have hconditions : Predicate.joinedTokens "AND"
      (q.flatStatement tenant limits table tests).select.conditions =
        .word table.tenantColumn :: .relation .eq :: .parameter 1 ::
          (AdHocTest.predicates 1 tests).flatMap fun p => .word "AND" :: p.tokens :=
    Sql.joinedTokens_cons "AND" _ _
  rw [hcolumns, hconditions] at hlexes
  exact hlexes

/-- The tests and the limit take the numbers after the tenant's. -/
theorem numbers_laterTokens : numbers (q.laterTokens tests) =
    List.range' 2 ((tests.flatMap AdHocTest.values).length + 1) := by
  have htests : numbers ((AdHocTest.predicates 1 tests).flatMap fun p => .word "AND" :: p.tokens) =
      List.range' 2 (tests.flatMap AdHocTest.values).length := by
    rw [numbers, List.filterMap_flatMap]
    exact AdHocTest.numbers_predicates tests 1
  have horder : numbers (Sql.orderTokens q.order) = [] := by
    cases q.order <;> rfl
  rw [laterTokens, Sql.numbers_append, Sql.numbers_append, htests, horder, List.range'_concat,
    Nat.one_mul, Nat.add_comm 2]
  rfl

theorem placeholders?_flatStatement (h : q.IsAllowed table tests) :
    placeholders? (q.flatStatement tenant limits table tests).sql =
      some (List.range' 1 ((tests.flatMap AdHocTest.values).length + 2)) := by
  have hcolumns : numbers ([.comma].intercalate ((q.returned table).map fun c => [.word c])) =
      [] := by
    rw [Sql.numbers_intercalate, List.flatMap_map, List.flatMap_eq_nil_iff]
    exact fun _ _ => rfl
  rw [Sql.placeholders?_of_lexes (lexes_flatStatement h), List.range'_succ]
  simp [hcolumns, numbers_laterTokens, Sql.Token.number?]

/-- The tests and the ordering name columns of the table. -/
theorem names_laterTokens (h : q.IsAllowed table tests) :
    (q.laterTokens tests).filterMap Sql.Token.name? ⊆ clauseKeywords ++ table.columns := by
  have hkeyword {word : String} (hword : word ∈ clauseKeywords) :
      word ∈ clauseKeywords ++ table.columns := List.mem_append_left _ hword
  rw [laterTokens, List.filterMap_append, List.filterMap_append, List.filterMap_flatMap]
  refine List.append_subset.2 ⟨?_, List.append_subset.2 ⟨?_, ?_⟩⟩
  · intro word hword
    obtain ⟨p, hp, hword⟩ := List.mem_flatMap.1 hword
    obtain ⟨t, ht, n, rfl⟩ := AdHocTest.exists_of_mem_predicates hp
    rcases List.mem_cons.1 hword with rfl | hword
    · exact hkeyword (by decide)
    · rcases List.mem_cons.1 (AdHocTest.names_predicate n t hword) with rfl | hword
      · exact List.mem_append_right _ (h.tests t ht)
      · exact hkeyword hword
  · intro word hword
    rcases List.mem_append.1 (names_orderTokens q.order hword) with hword | hcolumn
    · exact hkeyword hword
    · rw [order, Option.map_map, Option.mem_toList, Option.map_eq_some_iff] at hcolumn
      obtain ⟨c, hc, rfl⟩ := hcolumn
      exact List.mem_append_right _ (h.order c hc)
  · exact List.cons_subset.2 ⟨hkeyword (by decide), List.nil_subset _⟩

theorem names?_flatStatement (h : q.IsAllowed table tests) :
    Sql.names? (q.flatStatement tenant limits table tests).sql =
      some (q.headNames table ++
        table.tenantColumn :: (q.laterTokens tests).filterMap Sql.Token.name?) := by
  rw [Sql.names?, (lexes_flatStatement h).eq_some, Option.map_some, headNames]
  simp [Sql.names_columns, Sql.Token.name?, List.filterMap_cons]

theorem tenantColumn_notMem_names (h : q.IsAllowed table tests) : table.tenantColumn ∉
    q.headNames table ++ (q.laterTokens tests).filterMap Sql.Token.name? := by
  have hwords := AllowedTable.tenantColumn_notMem h.listed
  have hcolumns := AllowedTable.tenantColumn_notMem_columns h.listed
  simp only [List.mem_cons, not_or] at hwords
  obtain ⟨hselect, hfrom, htable, hwhere, hkeywords⟩ := hwords
  rw [List.mem_append, not_or]
  refine ⟨?_, ?_⟩
  · have hreturned : table.tenantColumn ∉ q.returned table := fun hc => hcolumns (h.columns hc)
    simp [headNames, hselect, hfrom, htable, hwhere, hreturned]
  · intro hlater
    rcases List.mem_append.1 (names_laterTokens h hlater) with hword | hcolumn
    · exact hkeywords hword
    · exact hcolumns hcolumn

theorem readSelect?_flatStatement (h : q.IsAllowed table tests) :
    Sql.readSelect? (q.flatStatement tenant limits table tests).sql = some
      { columns := (q.returned table).map fun c => ⟨c, none⟩
        table := table.name
        conditions := [Sql.joinAll (.compare .eq (.column table.tenantColumn) (.parameter 1) ::
          AdHocTest.predicates 1 tests)]
        order := q.order
        limit := some (.parameter ((tests.flatMap AdHocTest.values).length + 2))
        offset := none } :=
  Sql.Select.readSelect?_sql (isPlain_flatStatement h)

end

/-- **The flat statement.** Whatever is asked for, by whom and under which limits, an assembled
statement is the one way to write it. -/
theorem writesFlat_of_assemble {q : AdHocQuery} {tenant : String} {limits : QueryLimits}
    {s : Sql.Statement} (h : q.assemble tenant limits = .ok s) :
    ∃ table ∈ AllowedTable.all, q.WritesFlat table tenant limits s := by
  obtain ⟨table, tests, hname, hallowed, htests, rfl⟩ := exists_of_assemble h
  have hfound : tests.flatMap AdHocTest.values <+:
      (q.flatStatement tenant limits table tests).values.drop 1 :=
    ⟨[.integer (limits.clamp q.limit)], rfl⟩
  refine ⟨table, hallowed.listed, ?_⟩
  exact {
    name := hname
    columns := hallowed.columns
    order := hallowed.order
    text := by
      refine ⟨_, _, AdHocFilter.write_of_tests htests hfound, rfl, ?_⟩
      rw [sql_flatStatement, length_values_flatStatement]
    placeholders := by rw [placeholders?_flatStatement hallowed, length_values_flatStatement]
    names := ⟨_, names?_flatStatement hallowed, names_laterTokens hallowed,
      tenantColumn_notMem_names hallowed⟩
    reading := by
      refine ⟨AdHocTest.predicates 1 tests, ?_, ?_⟩
      · intro p hp
        obtain ⟨t, -, n, rfl⟩ := AdHocTest.exists_of_mem_predicates hp
        exact AdHocTest.isTest_predicate n t
      · rw [readSelect?_flatStatement hallowed, length_values_flatStatement] }

end AdHocQuery

/-- Filters by null before, between and after filters that bind a value. -/
def sampleInterleaved : AdHocQuery where
  table := "clients"
  columns := ["name", "plan", "name"]
  filters := [
    ⟨"email", "not_equals", .null⟩, ⟨"name", "like", .string "A%"⟩, ⟨"plan", "equals", .null⟩,
    ⟨"monthly_value", "less", Json.int 200⟩, ⟨"auto_renew", "equals", .bool true⟩,
    ⟨"status", "equals", .null⟩]
  orderBy := some "created_at"
  orderDirection := none
  limit := some 5000

theorem writesFlat_of_assemble_sample : ∃ s, sampleInterleaved.assemble "t1" .standard = .ok s ∧
    s.sql = "SELECT name, plan, name FROM clients WHERE tenant_id = $1 AND email IS NOT NULL " ++
      "AND name LIKE $2 AND plan IS NULL AND monthly_value < $3 AND auto_renew = $4 " ++
      "AND status IS NULL ORDER BY created_at ASC LIMIT $5" ∧
    s.values = [.text "t1", .text "A%", .integer 200, .bool true, .integer 1000] ∧
    ∃ table ∈ AllowedTable.all, sampleInterleaved.WritesFlat table "t1" .standard s := by
  refine ⟨_, rfl, ?_, ?_, AdHocQuery.writesFlat_of_assemble rfl⟩
  · decide +kernel
  · decide +kernel

end BillingQuery
