import BillingQuery.Proofs.RowTests
import BillingQuery.Store.Run
import Mathlib.Data.List.Nodup

/-!
# Records of rows

**Main result (`Resource.get?_recordOf`).** The record of a row has, under the key of each field,
the cell of the field's column as JSON, with the flag of a boolean field restored.

A listing returns the columns of the fields under the fields' keys, and no two fields of a resource
share a key, so no member of a record hides another.
-/

namespace BillingQuery

/-! ## Members under distinct names -/

theorem Json.setMember_of_notMem {members : List (String × Json)} {name : String} {v : Json}
    (h : name ∉ members.map Prod.fst) : setMember members name v = members ++ [(name, v)] := by
  induction members with
  | nil => rfl
  | cons m members ih =>
    rw [List.map_cons, List.mem_cons, not_or] at h
    rw [setMember, if_neg fun heq => h.1 heq.symm, ih h.2]
    rfl

theorem Json.foldl_setMember (seen members : List (String × Json))
    (h : ((seen ++ members).map Prod.fst).Nodup) :
    members.foldl (fun ms (name, v) => setMember ms name v) seen = seen ++ members := by
  induction members generalizing seen with
  | nil => simp
  | cons m members ih =>
    obtain ⟨name, v⟩ := m
    have hnew : name ∉ seen.map Prod.fst := by
      rw [List.map_append, List.map_cons, List.nodup_append] at h
      exact fun hm => h.2.2 _ hm _ List.mem_cons_self rfl
    rw [List.foldl_cons]
    dsimp only
    rw [setMember_of_notMem hnew, ih _ (by simpa using h)]
    simp

/-- A list of pairs under the distinct keys of some fields gives each field its own value. -/
theorem lookup_map_key {fields : List Field} (hkeys : (fields.map Field.key).Nodup)
    (value : Field → α) {f : Field} (hf : f ∈ fields) :
    (fields.map fun f => (f.key, value f)).lookup f.key = some (value f) := by
  induction fields with
  | nil => cases hf
  | cons first fields ih =>
    rw [List.map_cons, List.nodup_cons] at hkeys
    rw [List.map_cons, List.lookup_cons]
    rcases List.mem_cons.1 hf with rfl | hf
    · rw [beq_self_eq_true]
    · have hne : f.key ≠ first.key := fun heq => hkeys.1 (heq ▸ List.mem_map_of_mem hf)
      rw [beq_false_of_ne hne]
      exact ih hkeys.2 hf

namespace Schema

theorem isFlag_key {s : Schema} (hkeys : s.keys.Nodup) {f : Field} (hf : f ∈ s.fields) :
    s.isFlag f.key = (f.type == .boolean) := by
  rw [Bool.eq_iff_iff, isFlag, List.any_eq_true]
  constructor
  · rintro ⟨e, he, h⟩
    rw [Bool.and_eq_true, beq_iff_eq] at h
    rw [← List.inj_on_of_nodup_map hkeys he hf h.1]
    exact h.2
  · intro h
    exact ⟨f, hf, by simpa using h⟩

/-- The columns of a listing, each with the key under which it is returned. -/
def listed (s : Schema) : List (String × String) := s.fields.map fun f => (f.column, f.key)

/-- A listed row becomes an object with a member for each field. -/
theorem recordOf_project {s : Schema} (hkeys : s.keys.Nodup) (row : Row) :
    s.recordOf (Sql.project s.listed row) =
      .object (s.fields.map fun f => (f.key, f.jsonOf (row.cell f.column))) := by
  have hproject : Sql.project s.listed row = s.fields.map fun f => (f.key, row.cell f.column) := by
    rw [Sql.project, listed, List.map_map]
    rfl
  have hmembers : Sql.recordOf (Sql.project s.listed row) =
      .object (s.fields.map fun f => (f.key, (row.cell f.column).toJson)) := by
    have hfold := Json.foldl_setMember []
      (s.fields.map fun f => (f.key, (row.cell f.column).toJson))
      (by rw [List.nil_append, List.map_map]; exact hkeys)
    rw [List.foldl_map] at hfold
    rw [Sql.recordOf, hproject, List.foldl_map, hfold, List.nil_append]
  rw [recordOf, hmembers, restoreFlags, List.map_map]
  congr 1
  refine List.map_congr_left fun f hf => ?_
  simp only [Function.comp_apply, isFlag_key hkeys hf, beq_iff_eq, Field.jsonOf]

end Schema

namespace Resource

theorem nodup_keys (r : Resource) : r.schema.keys.Nodup := by
  cases r <;> decide

/-- The record of a row. -/
def recordOf (r : Resource) (row : Row) : Json :=
  r.schema.recordOf (Sql.project r.schema.listed row)

/-- **Records of rows.** The record has each field's cell under the field's key. -/
theorem get?_recordOf {r : Resource} {f : Field} (hf : f ∈ r.fields) (row : Row) :
    (r.recordOf row).get? f.key = some (f.jsonOf (row.cell f.column)) := by
  rw [recordOf, Schema.recordOf_project r.nodup_keys]
  exact lookup_map_key r.nodup_keys (fun f => f.jsonOf (row.cell f.column)) hf

/-- The columns that a listing asks for are those of the table, under the fields' keys. -/
theorem mapM_resolveColumn (r : Resource) :
    (r.fields.map fun f => (⟨f.column, some f.key⟩ : Sql.ResultColumn)).mapM
      (Sql.resolveColumn r) = .ok r.schema.listed := by
  cases r <;> rfl

theorem ofTable?_table (r : Resource) : ofTable? r.schema.table = some r := by
  cases r <;> decide

end Resource
end BillingQuery
