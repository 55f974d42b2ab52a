import BillingQuery.Proofs.FlatStatement
import BillingQuery.Proofs.NearestDoubles

/-!
# The order of checks

An ad-hoc query is checked at its table, at its columns from left to right, at its ordering, and
then at each filter by column, operator and value (`AdHocQuery.checks`).

**Main result (`AdHocQuery.rejectsInOrder`).** A query is assembled iff everything in it is allowed,
and else its error is that of the first check that fails.

Each part of assembling is related to the checks that it makes (`ReportsFirst`). Parts that follow
one another make their checks one after the other, so that no combination of faults is looked at.
-/

namespace BillingQuery

/-! ## Values -/

/-- The number is one that a JSON text can give: an integer of 64 bits, with a sign or without, or a
double. -/
def JsonNumber.HasWidth : JsonNumber → Prop
  | integer n => -2 ^ 63 ≤ n ∧ n < 2 ^ 64
  | real _ => True

namespace AdHocOperator

/-- The value may be tested by the operator. Of numbers, those beyond all doubles may not, which no
JSON text can give (`allows_number`). -/
def Allows (op : AdHocOperator) : Json → Prop
  | .null => op = .equals ∨ op = .notEquals
  | .string _ => True
  | .bool _ => op ≠ .like
  | .number n => op ≠ .like ∧ n.toBinary64? ≠ none
  | .array _ | .object _ => False

/-- Why a value may not be tested by an operator. -/
inductive Refuses : AdHocOperator → Json → String → Prop
  | null {op : AdHocOperator} (equals : op ≠ .equals) (notEquals : op ≠ .notEquals) :
      Refuses op .null "null is only valid with equals or not_equals"
  | pattern {value : Json} (notNull : value ≠ .null) (noText : ∀ s, value ≠ .string s) :
      Refuses .like value "like requires a string pattern"
  | number {op : AdHocOperator} {n : JsonNumber} (noPattern : op ≠ .like)
      (range : n.toBinary64? = none) : Refuses op (.number n) "number out of range"
  | array {op : AdHocOperator} {items : List Json} (noPattern : op ≠ .like) :
      Refuses op (.array items) "value must be a string, number, boolean or null"
  | object {op : AdHocOperator} {members : List (String × Json)} (noPattern : op ≠ .like) :
      Refuses op (.object members) "value must be a string, number, boolean or null"

variable {op : AdHocOperator} {value : Json}

theorem allows_iff : op.Allows value ↔ ∀ reason, ¬ op.Refuses value reason := by
  constructor
  · intro hallows reason hrefuses
    cases hrefuses with
    | null equals notEquals => exact hallows.elim equals notEquals
    | pattern notNull noText =>
      cases value with
      | null => exact notNull rfl
      | string s => exact noText s rfl
      | bool b => exact hallows rfl
      | number n => exact hallows.1 rfl
      | array items | object members => exact hallows
    | number _ range => exact hallows.2 range
    | array _ | object _ => exact hallows
  · intro hnone
    by_cases hlike : op = .like
    · subst hlike
      cases value with
      | string s => trivial
      | null => exact absurd (.null nofun nofun) (hnone _)
      | bool b | number n | array items | object members =>
        exact absurd (.pattern nofun nofun) (hnone _)
    · cases value with
      | string s => trivial
      | bool b => exact hlike
      | number n => exact ⟨hlike, fun hrange => hnone _ (.number hlike hrange)⟩
      | array items => exact hnone _ (.array hlike)
      | object members => exact hnone _ (.object hlike)
      | null =>
        by_contra hneither
        rw [Allows, not_or] at hneither
        exact hnone _ (.null hneither.1 hneither.2)

/-- Every number of a JSON text is in the range of doubles. -/
theorem allows_number {n : JsonNumber} (h : n.HasWidth) : op.Allows (.number n) ↔ op ≠ .like := by
  refine and_iff_left ?_
  cases n with
  | real x =>
    intro hnone
    cases hnone
  | integer n =>
    obtain ⟨hlow, hhigh⟩ := h
    have hlength : Binary64.bitLength (n.natAbs * 2 ^ 1074) ≤ 64 + 1074 :=
      @Binary64.bitLength_mul_two_pow_le n.natAbs 64 1074 (by omega)
    obtain ⟨x, hx, -⟩ := Binary64.exists_ofRatio?_nearest (decide (n < 0)) n.natAbs
      (by unfold Binary64.nearestShift; omega)
    rw [JsonNumber.toBinary64?, Binary64.ofInt?, hx]
    intro hnone
    cases hnone

theorem name_injective {op op' : AdHocOperator} (h : op.name = op'.name) : op = op' := by
  revert h
  cases op <;> cases op' <;> decide

end AdHocOperator

/-- A number beyond the doubles is no integer of 64 bits either. -/
theorem JsonNumber.toInt64?_of_range {n : JsonNumber} (h : n.toBinary64? = none) :
    n.toInt64? = none := by
  cases n with
  | real x => cases h
  | integer n =>
    rw [toInt64?_integer, if_neg]
    rintro ⟨hlow, hhigh⟩
    have hwidth : (integer n).HasWidth := ⟨hlow, by omega⟩
    have hallows : AdHocOperator.equals.Allows (.number (.integer n)) :=
      (AdHocOperator.allows_number hwidth).2 nofun
    exact hallows.2 h

/-- A test fails iff the operator refuses the value. -/
theorem adHocTest_eq_error_iff {column : String} {op : AdHocOperator} {value : Json}
    {e : QueryError} :
    adHocTest column op value = .error e ↔
      ∃ reason, op.Refuses value reason ∧ e = .invalidFilterValue column reason := by
  constructor
  · intro h
    unfold adHocTest at h
    dsimp only at h
    split at h
    case h_1 | h_2 | h_4 | h_6 => cases h
    case h_3 hequals hnotEquals =>
      exact ⟨_, .null hequals hnotEquals, (Except.error.inj h).symm⟩
    case h_5 hnull htext =>
      exact ⟨_, .pattern hnull htext, (Except.error.inj h).symm⟩
    case h_7 n hlike =>
      split at h
      · cases h
      · cases h
      · next hrange => exact ⟨_, .number hlike hrange, (Except.error.inj h).symm⟩
    case h_8 items hlike => exact ⟨_, .array hlike, (Except.error.inj h).symm⟩
    case h_9 members hlike => exact ⟨_, .object hlike, (Except.error.inj h).symm⟩
  · rintro ⟨reason, hrefuses, rfl⟩
    -- What the faults exclude leaves the branch of the function that reports them.
    cases hrefuses with
    | null equals notEquals =>
      cases op with
      | equals => exact absurd rfl equals
      | notEquals => exact absurd rfl notEquals
      | greater | less | like => rfl
    | pattern notNull noText =>
      cases value with
      | null => exact absurd rfl notNull
      | string s => exact absurd rfl (noText s)
      | bool b | number n | array items | object members => rfl
    | number noPattern range =>
      cases op with
      | like => exact absurd rfl noPattern
      | equals | notEquals | greater | less =>
        simp [adHocTest, JsonNumber.toInt64?_of_range range, range]
    | array noPattern | object noPattern =>
      cases op with
      | like => exact absurd rfl noPattern
      | equals | notEquals | greater | less => rfl

/-! ## Checks -/

/-- What is checked in a query. -/
inductive AdHocCheck
  | table
  | column (name : String)
  | operator (name : String)
  | value (f : AdHocFilter)

namespace AdHocCheck

/-- The check fails with the error, in a query over the table of this name. -/
inductive Fails (table : String) : AdHocCheck → QueryError → Prop
  | table (unknown : table ∉ AllowedTable.all.map AllowedTable.name) :
      Fails table .table (.invalidName .table table (AllowedTable.all.map AllowedTable.name))
  | column {t : AllowedTable} {name : String} (listed : t ∈ AllowedTable.all)
      (named : t.name = table) (unknown : name ∉ t.columns) :
      Fails table (.column name) (.invalidName .column name t.columns)
  | operator {name : String} (unknown : name ∉ AdHocOperator.all.map AdHocOperator.name) :
      Fails table (.operator name)
        (.unsupportedOperator name (AdHocOperator.all.map AdHocOperator.name))
  | value {f : AdHocFilter} {op : AdHocOperator} {reason : String} (named : op.name = f.operator)
      (refused : op.Refuses f.value reason) :
      Fails table (.value f) (.invalidFilterValue f.column reason)

def Passes (table : String) (c : AdHocCheck) : Prop := ∀ e, ¬ c.Fails table e

end AdHocCheck

/-- The error is that of the first of the checks that fails. -/
inductive IsFirstFault (table : String) : List AdHocCheck → QueryError → Prop
  | here {c : AdHocCheck} {cs : List AdHocCheck} {e : QueryError} (fails : c.Fails table e) :
      IsFirstFault table (c :: cs) e
  | later {c : AdHocCheck} {cs : List AdHocCheck} {e : QueryError} (passes : c.Passes table)
      (rest : IsFirstFault table cs e) : IsFirstFault table (c :: cs) e

section
variable {table : String} {c : AdHocCheck} {cs ds : List AdHocCheck} {e : QueryError}

theorem isFirstFault_cons : IsFirstFault table (c :: cs) e ↔
    c.Fails table e ∨ c.Passes table ∧ IsFirstFault table cs e := by
  constructor
  · rintro (hfails | ⟨hpasses, hrest⟩)
    · exact Or.inl hfails
    · exact Or.inr ⟨hpasses, hrest⟩
  · rintro (hfails | ⟨hpasses, hrest⟩)
    · exact .here hfails
    · exact .later hpasses hrest

theorem isFirstFault_singleton : IsFirstFault table [c] e ↔ c.Fails table e := by
  have hnil : ¬ IsFirstFault table [] e := nofun
  rw [isFirstFault_cons, or_iff_left fun h => hnil h.2]

theorem isFirstFault_append : IsFirstFault table (cs ++ ds) e ↔
    IsFirstFault table cs e ∨ (∀ c ∈ cs, c.Passes table) ∧ IsFirstFault table ds e := by
  induction cs with
  | nil =>
    have hnil : ¬ IsFirstFault table [] e := nofun
    simp [hnil]
  | cons c cs ih =>
    rw [List.cons_append, isFirstFault_cons, isFirstFault_cons, ih, List.forall_mem_cons, or_assoc,
      and_or_left, and_assoc]

/-- All checks pass iff none is the first to fail. -/
theorem forall_passes_iff :
    (∀ c ∈ cs, c.Passes table) ↔ ∀ e, ¬ IsFirstFault table cs e := by
  induction cs with
  | nil => exact iff_of_true nofun nofun
  | cons c cs ih =>
    rw [List.forall_mem_cons, ih]
    simp only [isFirstFault_cons, not_or, not_and, forall_and]
    exact and_congr_right fun hpasses => ⟨fun h e _ => h e, fun h e => h e hpasses⟩

end

/-! ## Parts of assembling -/

/-- The errors of the part are those of the checks, the first that fails deciding. -/
def ReportsFirst (table : String) (x : Except QueryError α) (cs : List AdHocCheck) : Prop :=
  ∀ e, x = .error e ↔ IsFirstFault table cs e

namespace ReportsFirst

variable {table : String} {x : Except QueryError α} {cs ds : List AdHocCheck}

theorem ok (a : α) : ReportsFirst table (.ok a) [] := fun _ => iff_of_false nofun nofun

/-- There is a result iff all checks pass. -/
theorem exists_ok_iff (h : ReportsFirst table x cs) :
    (∃ a, x = .ok a) ↔ ∀ c ∈ cs, c.Passes table := by
  rw [forall_passes_iff]
  simp only [← h _]
  cases x with
  | error e => exact iff_of_false nofun fun hnone => hnone e rfl
  | ok a => exact iff_of_true ⟨a, rfl⟩ nofun

/-- **One part after the other** makes the checks of the one after those of the other. -/
theorem bind {f : α → Except QueryError β} (h : ReportsFirst table x cs)
    (hf : ∀ a, x = .ok a → ReportsFirst table (f a) ds) :
    ReportsFirst table (x.bind f) (cs ++ ds) := by
  intro e
  rw [isFirstFault_append, ← h.exists_ok_iff, ← h e]
  cases x with
  | error e' => simp [Except.bind]
  | ok a => simpa [Except.bind] using hf a rfl e

theorem map (h : ReportsFirst table x cs) (f : α → β) : ReportsFirst table (x.map f) cs := by
  intro e
  rw [← h e]
  cases x <;> simp [Except.map]

/-- Parts from left to right. -/
theorem mapM {f : α → Except QueryError β} {as : List α} {checks : α → List AdHocCheck}
    (h : ∀ a ∈ as, ReportsFirst table (f a) (checks a)) :
    ReportsFirst table (as.mapM f) (as.flatMap checks) := by
  induction as with
  | nil => exact .ok []
  | cons a as ih =>
    rw [List.forall_mem_cons] at h
    rw [List.mapM_cons, List.flatMap_cons]
    exact h.1.bind fun b _ => (ih h.2).map (b :: ·)

end ReportsFirst

section
variable {table name : String} {t : AllowedTable}

theorem AllowedTable.eq_of_name {t t' : AllowedTable} (h : t ∈ all) (h' : t' ∈ all)
    (hname : t.name = t'.name) : t = t' := by
  have hall : ∀ t ∈ all, ∀ t' ∈ all, t.name = t'.name → t = t' := by decide +kernel
  exact hall t h t' h' hname

theorem reportsFirst_table : ReportsFirst table (AllowedTable.ofName table) [.table] := by
  intro e
  rw [isFirstFault_singleton]
  unfold AllowedTable.ofName
  cases hfind : AllowedTable.all.find? (·.name == table) with
  | some t =>
    have hmem : t.name ∈ AllowedTable.all.map AllowedTable.name :=
      List.mem_map_of_mem (List.mem_of_find?_eq_some hfind)
    have hname : t.name = table := by simpa using List.find?_some hfind
    rw [hname] at hmem
    refine iff_of_false nofun ?_
    rintro ⟨hunknown⟩
    exact hunknown hmem
  | none =>
    have hunknown : table ∉ AllowedTable.all.map AllowedTable.name := by
      simpa using hfind
    constructor
    · rintro ⟨⟩
      exact .table hunknown
    · rintro ⟨⟩
      rfl

theorem reportsFirst_column (ht : t ∈ AllowedTable.all) (hname : t.name = table) :
    ReportsFirst table (t.column name) [.column name] := by
  intro e
  rw [isFirstFault_singleton]
  unfold AllowedTable.column
  cases hfind : t.columns.find? (· == name) with
  | some c =>
    have hmem : c ∈ t.columns := List.mem_of_find?_eq_some hfind
    obtain rfl : c = name := by simpa using List.find?_some hfind
    refine iff_of_false nofun ?_
    rintro ⟨⟩
    next t' hlisted hnamed hunknown =>
    rw [AllowedTable.eq_of_name hlisted ht (hnamed.trans hname.symm)] at hunknown
    exact hunknown hmem
  | none =>
    have hunknown : name ∉ t.columns := fun hmem =>
      List.find?_eq_none.1 hfind name hmem (beq_self_eq_true name)
    constructor
    · rintro ⟨⟩
      exact .column ht hname hunknown
    · rintro ⟨⟩
      next t' hlisted hnamed _ =>
      rw [AllowedTable.eq_of_name hlisted ht (hnamed.trans hname.symm)]

theorem reportsFirst_operator :
    ReportsFirst table (AdHocOperator.ofName name) [.operator name] := by
  intro e
  rw [isFirstFault_singleton]
  unfold AdHocOperator.ofName AdHocOperator.ofName?
  cases hfind : AdHocOperator.all.find? (·.name == name) with
  | some op =>
    have hmem : op.name ∈ AdHocOperator.all.map AdHocOperator.name :=
      List.mem_map_of_mem (List.mem_of_find?_eq_some hfind)
    have hname : op.name = name := by simpa using List.find?_some hfind
    rw [hname] at hmem
    refine iff_of_false nofun ?_
    rintro ⟨⟩
    next hunknown => exact hunknown hmem
  | none =>
    have hunknown : name ∉ AdHocOperator.all.map AdHocOperator.name := by
      simpa using hfind
    constructor
    · rintro ⟨⟩
      exact .operator hunknown
    · rintro ⟨⟩
      rfl

theorem reportsFirst_value {f : AdHocFilter} {op : AdHocOperator} (hname : op.name = f.operator) :
    ReportsFirst table (adHocTest f.column op f.value) [.value f] := by
  intro e
  rw [isFirstFault_singleton, adHocTest_eq_error_iff]
  constructor
  · rintro ⟨reason, hrefuses, rfl⟩
    exact .value hname hrefuses
  · rintro ⟨⟩
    next op' reason hnamed hrefuses =>
    obtain rfl := AdHocOperator.name_injective (hnamed.trans hname.symm)
    exact ⟨reason, hrefuses, rfl⟩

end

/-! ## Queries -/

/-- The checks of a filter, in order. -/
def AdHocFilter.checks (f : AdHocFilter) : List AdHocCheck :=
  [.column f.column, .operator f.operator, .value f]

namespace AdHocQuery

/-- The checks of a query, in order. -/
def checks (q : AdHocQuery) : List AdHocCheck :=
  .table :: q.columns.map .column ++ q.orderBy.toList.map .column ++
    q.filters.flatMap AdHocFilter.checks

/-- The columns that a query names, at whichever place. -/
def namedColumns (q : AdHocQuery) : List String :=
  q.columns ++ q.orderBy.toList ++ q.filters.map AdHocFilter.column

/-- What the query asks for is allowed by the table. -/
structure IsLegal (q : AdHocQuery) (t : AllowedTable) : Prop where
  listed : t ∈ AllowedTable.all
  name : t.name = q.table
  columns : ∀ c ∈ q.columns, c ∈ t.columns
  order : ∀ c, q.orderBy = some c → c ∈ t.columns
  filters : ∀ f ∈ q.filters, f.column ∈ t.columns ∧
    ∃ op : AdHocOperator, op.name = f.operator ∧ op.Allows f.value

end AdHocQuery

section
variable {table : String} {t : AllowedTable}

theorem reportsFirst_test (f : AdHocFilter) (ht : t ∈ AllowedTable.all) (hname : t.name = table) :
    ReportsFirst table (f.test t) f.checks := by
  refine (reportsFirst_column ht hname).bind fun column hcolumn => ?_
  obtain rfl := AllowedTable.eq_of_column hcolumn
  exact reportsFirst_operator.bind fun op hop =>
    reportsFirst_value (AdHocOperator.name_of_ofName hop)

variable {q : AdHocQuery}

theorem reportsFirst_selected (ht : t ∈ AllowedTable.all) (hname : t.name = table) :
    ReportsFirst table (q.selected t) (q.columns.map .column) := by
  unfold AdHocQuery.selected
  split_ifs with hempty
  · rw [List.isEmpty_iff.1 hempty]
    exact .ok t.columns
  · rw [← List.flatMap_singleton' (q.columns.map AdHocCheck.column), List.flatMap_map]
    exact .mapM fun name _ => reportsFirst_column ht hname

theorem reportsFirst_order (ht : t ∈ AllowedTable.all) (hname : t.name = table) :
    ReportsFirst table (q.orderBy.mapM t.column) (q.orderBy.toList.map .column) := by
  cases q.orderBy with
  | none => exact .ok none
  | some name => exact (reportsFirst_column ht hname).map some

/-- **Assembling** reports the first check of the query that fails. -/
theorem reportsFirst_assemble (q : AdHocQuery) (tenant : String) (limits : QueryLimits) :
    ReportsFirst q.table (q.assemble tenant limits) q.checks := by
  rw [AdHocQuery.assemble_eq, AdHocQuery.checks, List.append_assoc, List.cons_append]
  refine reportsFirst_table.bind fun t htable => ?_
  have ht := AllowedTable.mem_of_ofName htable
  have hname := AllowedTable.name_of_ofName htable
  refine (reportsFirst_selected ht hname).bind fun columns _ => ?_
  refine (reportsFirst_order ht hname).bind fun orderColumn _ => ?_
  exact (ReportsFirst.mapM fun f _ => reportsFirst_test f ht hname).map _

end

/-! ## What passes -/

section
variable {table : String} {t : AllowedTable} {name : String}

theorem passes_table_iff :
    AdHocCheck.table.Passes table ↔ ∃ t ∈ AllowedTable.all, t.name = table := by
  rw [← List.mem_map]
  constructor
  · intro hpasses
    by_contra hunknown
    exact hpasses _ (.table hunknown)
  · rintro hknown e ⟨hunknown⟩
    exact hunknown hknown

theorem passes_column_iff (ht : t ∈ AllowedTable.all) (hname : t.name = table) :
    (AdHocCheck.column name).Passes table ↔ name ∈ t.columns := by
  constructor
  · intro hpasses
    by_contra hunknown
    exact hpasses _ (.column ht hname hunknown)
  · rintro hknown e ⟨⟩
    next t' hlisted hnamed hunknown =>
    rw [AllowedTable.eq_of_name hlisted ht (hnamed.trans hname.symm)] at hunknown
    exact hunknown hknown

theorem passes_operator_iff :
    (AdHocCheck.operator name).Passes table ↔ ∃ op : AdHocOperator, op.name = name := by
  constructor
  · intro hpasses
    by_contra hnone
    refine hpasses _ (.operator fun hknown => ?_)
    obtain ⟨op, -, hop⟩ := List.mem_map.1 hknown
    exact hnone ⟨op, hop⟩
  · rintro ⟨op, rfl⟩ e ⟨⟩
    next hunknown => exact hunknown (by cases op <;> decide)

theorem passes_value_iff {f : AdHocFilter} {op : AdHocOperator} (hname : op.name = f.operator) :
    (AdHocCheck.value f).Passes table ↔ op.Allows f.value := by
  rw [AdHocOperator.allows_iff]
  constructor
  · exact fun hpasses reason hrefuses => hpasses _ (.value hname hrefuses)
  · rintro hnone e ⟨⟩
    next op' reason hnamed hrefuses =>
    obtain rfl := AdHocOperator.name_injective (hnamed.trans hname.symm)
    exact hnone reason hrefuses

theorem forall_passes_filter_iff {f : AdHocFilter} (ht : t ∈ AllowedTable.all)
    (hname : t.name = table) : (∀ c ∈ f.checks, c.Passes table) ↔
      f.column ∈ t.columns ∧ ∃ op : AdHocOperator, op.name = f.operator ∧ op.Allows f.value := by
  simp only [AdHocFilter.checks, List.forall_mem_cons, passes_column_iff ht hname,
    passes_operator_iff]
  refine and_congr_right fun _ => ?_
  constructor
  · rintro ⟨⟨op, hop⟩, hvalue, -⟩
    exact ⟨op, hop, (passes_value_iff hop).1 hvalue⟩
  · rintro ⟨op, hop, hallows⟩
    exact ⟨⟨op, hop⟩, (passes_value_iff hop).2 hallows, List.forall_mem_nil _⟩

theorem forall_passes_checks_iff {q : AdHocQuery} :
    (∀ c ∈ q.checks, c.Passes q.table) ↔ ∃ t, q.IsLegal t := by
  simp only [AdHocQuery.checks, List.cons_append, List.forall_mem_cons, List.forall_mem_append,
    List.forall_mem_map, List.forall_mem_flatMap, passes_table_iff, Option.mem_toList]
  constructor
  · rintro ⟨⟨t, ht, hname⟩, ⟨hcolumns, horder⟩, hfilters⟩
    exact ⟨t, {
      listed := ht
      name := hname
      columns := fun c hc => (passes_column_iff ht hname).1 (hcolumns c hc)
      order := fun c hc => (passes_column_iff ht hname).1 (horder c hc)
      filters := fun f hf => (forall_passes_filter_iff ht hname).1 (hfilters f hf) }⟩
  · rintro ⟨t, h⟩
    exact ⟨⟨t, h.listed, h.name⟩,
      ⟨fun c hc => (passes_column_iff h.listed h.name).2 (h.columns c hc),
        fun c hc => (passes_column_iff h.listed h.name).2 (h.order c hc)⟩,
      fun f hf => (forall_passes_filter_iff h.listed h.name).2 (h.filters f hf)⟩

end

namespace AdHocQuery

/-- A legal query names columns of its table alone. -/
theorem IsLegal.namedColumns_subset {q : AdHocQuery} {t : AllowedTable} (h : q.IsLegal t) :
    q.namedColumns ⊆ t.columns := by
  refine List.append_subset.2 ⟨List.append_subset.2 ⟨h.columns, ?_⟩, ?_⟩
  · exact fun c hc => h.order c (Option.mem_toList.1 hc)
  · intro c hc
    obtain ⟨f, hf, rfl⟩ := List.mem_map.1 hc
    exact (h.filters f hf).1

/-- What is accepted, and what is reported of the rest. -/
structure RejectsInOrder (q : AdHocQuery) (tenant : String) (limits : QueryLimits) : Prop where
  accepted : (∃ s, q.assemble tenant limits = .ok s) ↔ ∃ t, q.IsLegal t
  /-- The error is that of the first check that fails. -/
  rejected : ∀ e, q.assemble tenant limits = .error e ↔ IsFirstFault q.table q.checks e
  /-- A column outside of the list is rejected wherever it stands, whatever else is asked for. -/
  unlisted : ∀ t ∈ AllowedTable.all, t.name = q.table → ∀ c ∈ q.namedColumns, c ∉ t.columns →
    ∃ e, q.assemble tenant limits = .error e
  /-- Of the numbers of JSON texts, each may be tested by every operator but that of patterns. -/
  numbers : ∀ (op : AdHocOperator) (n : JsonNumber), n.HasWidth →
    (op.Allows (.number n) ↔ op ≠ .like)

/-- **The order of checks.** A query is assembled iff it is legal, and else the first check that
fails is reported. -/
theorem rejectsInOrder (q : AdHocQuery) (tenant : String) (limits : QueryLimits) :
    q.RejectsInOrder tenant limits := by
  have hreports := reportsFirst_assemble q tenant limits
  have haccepted : (∃ s, q.assemble tenant limits = .ok s) ↔ ∃ t, q.IsLegal t :=
    hreports.exists_ok_iff.trans forall_passes_checks_iff
  exact {
    accepted := haccepted
    rejected := hreports
    unlisted := by
      intro t ht hname c hc hunlisted
      cases hassemble : q.assemble tenant limits with
      | error e => exact ⟨e, rfl⟩
      | ok s =>
        obtain ⟨t', hlegal⟩ := haccepted.1 ⟨s, hassemble⟩
        obtain rfl := AllowedTable.eq_of_name ht hlegal.listed (hname.trans hlegal.name.symm)
        exact absurd (hlegal.namedColumns_subset hc) hunlisted
    numbers := fun _ _ => AdHocOperator.allows_number }

/-- Of a hidden column in the ordering, an unknown operator and a list as a value, the column is
reported. -/
example : (assemble ⟨"clients", ["name"], [⟨"plan", "matches", .array []⟩], some "tax_id", none,
    none⟩ "t1" .standard).map Sql.Statement.sql =
      .error (.invalidName .column "tax_id" ["id", "name", "email", "status", "plan",
        "monthly_value", "auto_renew", "created_at"]) := by
  rfl

end AdHocQuery
end BillingQuery
