import BillingQuery.Store.Run

/-!
# Running a statement

**Main result (`Statement.run_eq`).** Whether a statement can be run is decided by the statement
alone, except that a pattern may be too long for a row that it is held against; and the rows that it
gives are a page of those that its conditions select.
-/

namespace BillingQuery.Sql

/-- The rows of the result, of a table with these rows. -/
def Statement.result (s : Statement) (r : Resource) (columns : List (String × String))
    (rows : List Row) : List ResultRow :=
  let found := ordered (s.select.scanOrder r) (rows.filter (selects r s.values s.select.conditions))
  (page (s.select.limit.bind (boundOf s.values)) (s.select.offset.bind (boundOf s.values))
    (ordered s.select.order found)).map (project columns)

/-- The table of a statement and its columns, unless the statement cannot be run on any rows. -/
def Statement.resolve (s : Statement) : Except RunError (Resource × List (String × String)) :=
  if maxConditions < s.select.conditions.length then .error .tooManyConditions
  else
    match Resource.ofTable? s.select.table with
    | none => .error (.noSuchTable s.select.table)
    | some r =>
      if maxResultColumns < s.select.columns.length then .error .tooManyColumns
      else (s.select.columns.mapM (resolveColumn r)).map fun columns => (r, columns)

theorem Statement.resolve_eq_ok {s : Statement} {r : Resource} {columns : List (String × String)}
    (hconditions : s.select.conditions.length ≤ maxConditions)
    (htable : Resource.ofTable? s.select.table = some r)
    (hwidth : s.select.columns.length ≤ maxResultColumns)
    (hcolumns : s.select.columns.mapM (resolveColumn r) = .ok columns) :
    s.resolve = .ok (r, columns) := by
  rw [resolve, if_neg (Nat.not_lt.2 hconditions), htable]
  dsimp only
  rw [if_neg (Nat.not_lt.2 hwidth), hcolumns]
  rfl

/-- **Running.** After the statement is resolved, only a long pattern stops it. -/
theorem Statement.run_eq (s : Statement) (db : Database) :
    s.run db = s.resolve.bind fun (r, columns) =>
      if s.meetsLongPattern r (db.rows r) then .error .longPattern
      else .ok (s.result r columns (db.rows r)) := by
  unfold run resolve
  by_cases hconditions : maxConditions < s.select.conditions.length
  · simp only [hconditions, if_true]
    rfl
  · simp only [hconditions, if_false]
    cases Resource.ofTable? s.select.table with
    | none => rfl
    | some r =>
      by_cases hwidth : maxResultColumns < s.select.columns.length
      · simp only [hwidth, if_true]
        rfl
      · simp only [hwidth, if_false]
        cases s.select.columns.mapM (resolveColumn r) with
        | error e => rfl
        | ok columns =>
          cases hlong : s.meetsLongPattern r (db.rows r) with
          | true =>
            simp [hlong, bind, Except.bind, Except.map, throw, throwThe, MonadExceptOf.throw]
          | false => simp [hlong, bind, Except.bind, Except.map, pure, Except.pure, result]

/-- Conditions are evaluated in another order, but no others are. -/
theorem mem_of_mem_evaluated {r : Resource} {s : Select} {p : Predicate}
    (h : p ∈ s.evaluated r) : p ∈ s.conditions := by
  simp only [Select.evaluated, List.mem_append, List.partition_eq_filter_filter] at h
  rcases h with (h | h) | h
  · exact (List.mem_filter.1 h).1
  · exact (List.mem_filter.1 (List.mem_filter.1 h).1).1
  · exact (List.mem_filter.1 (List.mem_filter.1 h).1).1

end BillingQuery.Sql
