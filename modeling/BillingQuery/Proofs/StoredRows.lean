import BillingQuery.Proofs.Assembled
import BillingQuery.Store.Wire

/-!
# What the tables hold

**Sound databases (`Database.IsSound`).** In every table the rows are complete and in order of their
ids, no tenant has a number twice, and whatever a row refers to is there.

**Main result (`Database.isSound_ofJson`).** Whatever tables are loaded, a row is refused or the
database is sound. A row is stored iff nothing stands against it, and then its table has one more
row and no other table changes (`Database.insert_eq_ok_iff`). So one insertion keeps a database
sound: the new row is checked against the rows that are there, and none of them loses its target.
-/

namespace BillingQuery

/-- The row has an integer as its id, and a value in every required column. -/
structure Row.IsComplete (r : Resource) (row : Row) : Prop where
  key : row.hasKey = true
  required : ∀ c ∈ r.layout, c.isRequired = true → row.cell c.name ≠ .null

theorem Row.sharesNumber_comm (r : Resource) (a b : Row) :
    a.sharesNumber r b = b.sharesNumber r a := by
  unfold sharesNumber
  simp only [eq_comm]

namespace Database

/-- Nothing stands against a new row. -/
structure Admits (db : Database) (r : Resource) (row : Row) : Prop where
  complete : row.IsComplete r
  newKey : ∀ other ∈ db.rows r, other.id ≠ row.id
  newNumber : ∀ other ∈ db.rows r, row.sharesNumber r other = false
  targets : ∀ c ∈ r.layout, db.hasTarget row c = true

/-- What the tables are made to hold. -/
structure IsSound (db : Database) : Prop where
  complete : ∀ r, ∀ row ∈ db.rows r, row.IsComplete r
  ascending : ∀ r, (db.rows r).Pairwise fun a b => a.id < b.id
  numbers : ∀ r, (db.rows r).Pairwise fun a b => a.sharesNumber r b = false
  targets : ∀ r, ∀ row ∈ db.rows r, ∀ c ∈ r.layout, db.hasTarget row c = true

variable {db db' : Database} {r : Resource} {row : Row} {rows : List Row} {table : String}
  {values : List (String × Sql.Cell)}

/-! ## One row -/

theorem refusal?_eq_none_iff : db.refusal? r row = none ↔ db.Admits r row := by
  have hrequired : (r.layout.find? fun c => c.isRequired && row.cell c.name = .null) = none ↔
      ∀ c ∈ r.layout, c.isRequired = true → row.cell c.name ≠ .null := by
    simp [List.find?_eq_none]
  unfold refusal?
  constructor
  · intro h
    split at h
    · cases h
    next hkey =>
    split at h
    · cases h
    next hfound =>
    split_ifs at h with hsame hnumber htargets
    exact {
      complete := ⟨by simpa using hkey, hrequired.1 hfound⟩
      newKey := by simpa using hsame
      newNumber := by simpa using hnumber
      targets := by simpa using htargets }
  · rintro ⟨⟨hkey, hfound⟩, hsame, hnumber, htargets⟩
    rw [hkey, hrequired.2 hfound]
    simp only [Bool.not_true, Bool.false_eq_true, if_false]
    rw [if_neg (by simpa using hsame), if_neg (by simpa using hnumber),
      if_pos (by simpa using htargets)]

theorem place_perm (row : Row) (rows : List Row) : (place row rows).Perm (row :: rows) := by
  induction rows with
  | nil => exact .refl _
  | cons first rest ih =>
    rw [place]
    split_ifs
    · exact .refl _
    · exact (ih.cons first).trans (.swap row first rest)

theorem ascending_place (hrows : rows.Pairwise fun a b => a.id < b.id)
    (hnew : ∀ other ∈ rows, other.id ≠ row.id) :
    (place row rows).Pairwise fun a b => a.id < b.id := by
  induction rows with
  | nil => exact List.pairwise_singleton _ row
  | cons first rest ih =>
    obtain ⟨hfirst, hrest⟩ := List.pairwise_cons.1 hrows
    obtain ⟨hne, hnew⟩ := List.forall_mem_cons.1 hnew
    rw [place]
    split_ifs with hlt
    · refine List.pairwise_cons.2 ⟨List.forall_mem_cons.2 ⟨hlt, fun b hb => ?_⟩, hrows⟩
      exact Int.lt_trans hlt (hfirst b hb)
    · refine List.pairwise_cons.2 ⟨fun b hb => ?_, ih hrest hnew⟩
      rcases List.mem_cons.1 ((place_perm row rest).mem_iff.1 hb) with rfl | hb
      · omega
      · exact hfirst b hb

/-- Rows that are added take no target away. -/
theorem hasTarget_mono (hrows : ∀ r, db.rows r ⊆ db'.rows r) {c : Column}
    (h : db.hasTarget row c = true) : db'.hasTarget row c = true := by
  unfold hasTarget at h ⊢
  cases htarget : c.target? with
  | none => rfl
  | some r =>
    rw [htarget] at h
    obtain ⟨other, hother, hid⟩ := List.any_eq_true.1 h
    exact List.any_eq_true.2 ⟨other, hrows r hother, hid⟩

/-- **Insertion.** When a row is stored, and what has changed then. -/
theorem insert_eq_ok_iff :
    db.insert table values = .ok db' ↔ ∃ r, Resource.ofTable? table = some r ∧
      (∀ value ∈ values, (r.column? value.1).isSome = true) ∧
      db.Admits r (db.newRow r values) ∧
      db' = db.withRows r (place (db.newRow r values) (db.rows r)) := by
  unfold insert
  cases htable : Resource.ofTable? table with
  | none => exact iff_of_false nofun nofun
  | some r =>
    have hnames : (values.find? fun value => (r.column? value.1).isNone) = none ↔
        ∀ value ∈ values, (r.column? value.1).isSome = true := by
      simp [List.find?_eq_none, Option.isSome_iff_ne_none]
    simp only [bind, Except.bind, pure, Except.pure, throw, throwThe, MonadExceptOf.throw,
      Option.some.injEq, exists_eq_left', ← hnames, ← refusal?_eq_none_iff]
    cases values.find? fun value => (r.column? value.1).isNone with
    | some value => exact iff_of_false nofun nofun
    | none =>
      cases db.refusal? r (db.newRow r values) with
      | some refusal => exact iff_of_false nofun nofun
      | none => simp [eq_comm]

/-! ## All rows -/

theorem isSound_empty : empty.IsSound where
  complete r := by cases r <;> exact List.forall_mem_nil _
  ascending r := by cases r <;> exact .nil
  numbers r := by cases r <;> exact .nil
  targets r := by cases r <;> exact List.forall_mem_nil _

theorem mem_rows_place {s : Resource} {other : Row} :
    other ∈ (db.withRows r (place row (db.rows r))).rows s ↔
      s = r ∧ other = row ∨ other ∈ db.rows s := by
  rw [rows_withRows]
  split_ifs with hs
  · subst hs
    rw [(place_perm row (db.rows s)).mem_iff, List.mem_cons, and_iff_right rfl]
  · exact (or_iff_right fun h => hs h.1).symm

/-- **One step.** The table of the new row is as sound as it was, and so are the others. -/
theorem IsSound.withRows_place (hdb : db.IsSound) (hrow : db.Admits r row) :
    (db.withRows r (place row (db.rows r))).IsSound := by
  have hmore (s : Resource) : db.rows s ⊆ (db.withRows r (place row (db.rows r))).rows s :=
    fun other hother => mem_rows_place.2 (Or.inr hother)
  exact {
    complete := by
      intro s other hother
      rcases mem_rows_place.1 hother with ⟨rfl, rfl⟩ | hother
      · exact hrow.complete
      · exact hdb.complete s other hother
    ascending := by
      intro s
      rw [rows_withRows]
      split_ifs with hs
      · exact ascending_place (hdb.ascending r) hrow.newKey
      · exact hdb.ascending s
    numbers := by
      intro s
      rw [rows_withRows]
      split_ifs with hs
      · subst hs
        -- The new row stands first here and elsewhere in the table: the order must play no part.
        have hcomm {a b : Row} (h : a.sharesNumber s b = false) : b.sharesNumber s a = false :=
          (Row.sharesNumber_comm s b a).trans h
        have hnew := List.pairwise_cons.2 ⟨hrow.newNumber, hdb.numbers s⟩
        exact ((place_perm row (db.rows s)).pairwise_iff hcomm).2 hnew
      · exact hdb.numbers s
    targets := by
      intro s other hother c hc
      apply hasTarget_mono hmore
      rcases mem_rows_place.1 hother with ⟨rfl, rfl⟩ | hother
      · exact hrow.targets c hc
      · exact hdb.targets s other hother c hc }

theorem IsSound.of_insert (hdb : db.IsSound) (h : db.insert table values = .ok db') :
    db'.IsSound := by
  obtain ⟨r, -, -, hrow, rfl⟩ := insert_eq_ok_iff.1 h
  exact hdb.withRows_place hrow

/-- What every step keeps is kept by all of them. -/
theorem IsSound.of_foldlM {α : Type} {step : Database → α → Except Refusal Database}
    (hstep : ∀ db a db', db.IsSound → step db a = .ok db' → db'.IsSound) {as : List α}
    (hdb : db.IsSound) (h : as.foldlM step db = .ok db') : db'.IsSound := by
  induction as generalizing db with
  | nil =>
    cases h
    exact hdb
  | cons a as ih =>
    obtain ⟨next, hnext, h⟩ := bind_eq_ok.1 h
    exact ih (hstep db a next hdb hnext) h

/-- **Loading.** Every database that is made of tables is sound. -/
theorem isSound_ofJson {tables : Json} (h : ofJson tables = .ok db) : db.IsSound := by
  have hrow (table : String) (db : Database) (j : Json) (db' : Database) (hdb : db.IsSound)
      (h : db.insertJson table j = .ok db') : db'.IsSound := by
    cases j with
    | object cells => exact hdb.of_insert h
    | null | bool b | number n | string s | array items =>
      cases h
      exact hdb
  have htable (db : Database) (entry : String × Json) (db' : Database) (hdb : db.IsSound)
      (h : db.insertTable entry.1 entry.2 = .ok db') : db'.IsSound := by
    obtain ⟨table, rows⟩ := entry
    cases rows with
    | array items => exact hdb.of_foldlM (hrow table) h
    | null | bool b | number n | string s | object members =>
      cases h
      exact hdb
  cases tables with
  | object tables => exact isSound_empty.of_foldlM htable h
  | null | bool b | number n | string s | array items =>
    cases h
    exact isSound_empty

end Database
end BillingQuery
