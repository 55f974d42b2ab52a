import BillingQuery.Proofs.Compiled
import BillingQuery.Proofs.NearestDoubles
import BillingQuery.Proofs.RangeConditions
import Mathlib.Data.List.Nodup

/-!
# Stored values

A field's type says which values of a record it can compare (`Json.Fits`): texts and numbers
as text, flags and the integers 0 and 1 as flags, numbers as numbers, and texts that start with a
day as days.

**Main result (`Field.judgesStored`).** A value that fits equals itself: a filter for it lets the
record pass. A value that does not fit passes no condition on the field at all, whatever its
operator and its values are, and neither does a record without the field.

The value of a condition is read more leniently than the value of a record, so equality with itself
needs that both readings agree on what fits (`Condition.compares_self`). That a misfit passes
nothing concerns the reading of records alone: every operator that suits a type reads the record in
the one way of the type (`Condition.Compares.fits`).
-/

namespace BillingQuery

/-- The field can compare the value. -/
def Json.Fits (v : Json) (type : FieldType) : Prop :=
  match type with
  | .string | .id | .enum => (∃ s, v = .string s) ∨ ∃ n, v = .number n
  | .boolean => (∃ b, v = .bool b) ∨ v = .int 0 ∨ v = .int 1
  | .number => ∃ n x, v = .number n ∧ n.toBinary64? = some x
  | .date => ∃ (s : String) (d : Day), v = .string s ∧ d.chars <+: s.toList

/-- Every integer of 64 bits fits a field of numbers. -/
theorem Json.fits_int {n : Int} (h : n.natAbs ≤ 2 ^ 63) : (int n).Fits .number := by
  obtain ⟨x, hx, -⟩ := Binary64.exists_ofInt?_of_int64 h
  exact ⟨.integer n, x, rfl, hx⟩

/-! ## Reading what is stored -/

namespace Json

variable {v : Json}

theorem foldedText?_cases :
    ((∃ s, v = .string s) ∨ ∃ n, v = .number n) ↔ ∃ s, v.foldedText? = some s := by
  cases v with
  | string s => exact iff_of_true (Or.inl ⟨s, rfl⟩) ⟨_, rfl⟩
  | number n => exact iff_of_true (Or.inr ⟨n, rfl⟩) ⟨_, rfl⟩
  | null | bool b | array items | object members => simp [foldedText?]

theorem storedFlag?_cases :
    ((∃ b, v = .bool b) ∨ v = .int 0 ∨ v = .int 1) ↔ ∃ b, v.storedFlag? = some b := by
  cases v with
  | bool b => exact iff_of_true (Or.inl ⟨b, rfl⟩) ⟨b, rfl⟩
  | number n =>
    cases n with
    | integer n =>
      by_cases h₁ : n = 1 <;> by_cases h₀ : n = 0 <;> simp [storedFlag?, flagOfInt?, int, h₁, h₀]
    | real x => simp [storedFlag?, int]
  | null | string s | array items | object members => simp [storedFlag?, int]

theorem storedNumber?_cases :
    (∃ n x, v = .number n ∧ n.toBinary64? = some x) ↔ ∃ x, v.storedNumber? = some x := by
  cases v <;> simp [storedNumber?]

theorem toDay?_cases :
    (∃ (s : String) (d : Day), v = .string s ∧ d.chars <+: s.toList) ↔ ∃ d, v.toDay? = some d := by
  cases v <;> simp [toDay?, Day.ofLeading?_eq_some]

/-- A flag is read from a condition as it is stored. -/
theorem toFlag?_of_storedFlag? {b : Bool} (h : v.storedFlag? = some b) : v.toFlag? = some b := by
  cases v with
  | string s => cases h
  | null | bool _ | number _ | array _ | object _ => exact h

/-- So is a number. -/
theorem toNumber?_of_storedNumber? {x : Binary64} (h : v.storedNumber? = some x) :
    v.toNumber? = some x := by
  cases v with
  | number n => exact h
  | null | bool _ | string _ | array _ | object _ => cases h

end Json

/-! ## Comparing what is stored -/

namespace Condition

variable {c : Condition} {type : FieldType} {op : Operator} {actual v : Json}

theorem Relates.exists_stored {α β : Type} {read : Json → Option α} {stored : Json → Option β}
    {related : α → β → Prop} (h : c.Relates actual read stored related) :
    ∃ b, stored actual = some b := by
  obtain ⟨-, -, b, -, -, hb, -⟩ := h
  exact ⟨b, hb⟩

theorem Encloses.exists_stored {α : Type} [LE α] {read stored : Json → Option α}
    (h : c.Encloses actual read stored) : ∃ b, stored actual = some b := by
  obtain ⟨-, -, -, -, b, -, -, -, -, -, hb, -⟩ := h
  exact ⟨b, hb⟩

/-- **Misfits.** No operator of the type compares a value that does not fit. -/
theorem Compares.fits (hop : op ∈ type.operators) (h : c.Compares type op actual) :
    actual.Fits type := by
  cases type with
  | string | id | enum =>
    refine Json.foldedText?_cases.2 ?_
    cases op with
    | equals | contains | startsWith | endsWith | oneOf => exact Relates.exists_stored h
    | gt | lt | gte | lte | between => simp [FieldType.operators] at hop
  | boolean =>
    obtain rfl := List.mem_singleton.1 hop
    exact Json.storedFlag?_cases.2 (Relates.exists_stored h)
  | number =>
    refine Json.storedNumber?_cases.2 ?_
    cases op with
    | equals | gt | lt | gte | lte => exact Relates.exists_stored h
    | between => exact Encloses.exists_stored h
    | contains | startsWith | endsWith | oneOf => simp [FieldType.operators] at hop
  | date =>
    refine Json.toDay?_cases.2 ?_
    cases op with
    | equals => exact Relates.exists_stored h
    | between => exact Encloses.exists_stored h
    | contains | startsWith | endsWith | oneOf | gt | lt | gte | lte =>
      simp [FieldType.operators] at hop

/-- **Itself.** A value that fits is read from a condition as it is stored. -/
theorem compares_self (hv : v.Fits type) (hvalue : c.value = some v) :
    c.Compares type .equals v := by
  cases type with
  | string | id | enum =>
    obtain ⟨s, hs⟩ := Json.foldedText?_cases.1 hv
    exact ⟨v, s, s, hvalue, hs, hs, rfl⟩
  | boolean =>
    obtain ⟨b, hb⟩ := Json.storedFlag?_cases.1 hv
    exact ⟨v, b, b, hvalue, Json.toFlag?_of_storedFlag? hb, hb, rfl⟩
  | number =>
    obtain ⟨x, hx⟩ := Json.storedNumber?_cases.1 hv
    exact ⟨v, x, x, hvalue, Json.toNumber?_of_storedNumber? hx, hx, rfl⟩
  | date =>
    obtain ⟨d, hd⟩ := Json.toDay?_cases.1 hv
    exact ⟨v, d, d, hvalue, hd, hd, rfl⟩

end Condition

/-! ## Fields -/

theorem findField?_of_mem {fields : List Field} {field : Field}
    (hkeys : (fields.map Field.key).Nodup) (h : field ∈ fields) :
    findField? fields field.key = some field := by
  obtain ⟨found, hfound⟩ := exists_findField? (List.mem_map_of_mem h)
  have hmem := mem_of_findField? hfound
  rw [hfound, List.inj_on_of_nodup_map hkeys hmem h (key_of_findField? hfound)]

/-- What a field makes of the value that a record holds under its key. -/
structure Field.JudgesStored (field : Field) (fields : List Field) : Prop where
  /-- A value that fits equals itself. -/
  itself : .equals ∈ field.operators → ∀ (record v : Json), record.get? field.key = some v →
    v.Fits field.type → ∀ c : Condition, c.field = field.key → c.operator = "equals" →
      c.value = some v →
        ∀ id logical, FilterGroup.accepts ⟨id, logical, [.cond c]⟩ fields record = true
  /-- A value that does not fit passes no condition that is kept, as part of a filter or as a
  filter. Nor does a record without the key, or a value that is no record. -/
  misfit : ∀ record : Json, (∀ v, record.get? field.key = some v → ¬ v.Fits field.type) →
    ∀ (c : Condition) (part : Plan), c.field = field.key → c.plan? fields = some part →
      part.accepts record = false ∧
        ∀ id logical, FilterGroup.accepts ⟨id, logical, [.cond c]⟩ fields record = false

/-- **Stored values**, on every field of a list whose keys are distinct. -/
theorem Field.judgesStored {fields : List Field} {field : Field}
    (hkeys : (fields.map Field.key).Nodup) (hmem : field ∈ fields) :
    field.JudgesStored fields where
  itself hequals record v hv hfits c hfield hoperator hvalue id logical := by
    have hsuitable : Operator.equals ∈ field.type.operators := by
      cases field.type <;> decide
    have huses : c.Uses fields field .equals :=
      ⟨hfield ▸ findField?_of_mem hkeys hmem, hoperator.symm, hequals, hsuitable⟩
    have halone := FilterNode.equivalent_alone id logical huses.counts
    rw [FilterGroup.accepts_iff_of_equivalent halone.symm]
    exact .cond huses hv (Condition.compares_self hfits hvalue)
  misfit record hmisfit c part hfield hpart := by
    have hnot : ¬ FilterNode.Holds fields record (.cond c) := by
      rintro (@⟨_, found, op, actual, huses, hactual, hcompares⟩)
      obtain rfl : found = field :=
        Option.some.inj (huses.found.symm.trans (hfield ▸ findField?_of_mem hkeys hmem))
      exact hmisfit actual hactual (hcompares.fits huses.suitable)
    refine ⟨?_, fun id logical => ?_⟩
    · rwa [Bool.eq_false_iff, ne_eq, Condition.accepts_plan? hpart]
    · have hcounts := (FilterNode.counts_iff (.cond c)).2 ⟨part, hpart⟩
      have halone := FilterNode.equivalent_alone id logical hcounts
      rwa [Bool.eq_false_iff, ne_eq, FilterGroup.accepts_iff_of_equivalent halone.symm]

/-- A client with an integer that is no double, and with a text in place of a flag. -/
def sampleStored : Json :=
  .object [("monthlyValue", .int (2 ^ 53 + 1)), ("autoRenew", .string "true")]

/-- The clients that have this value in a field. -/
def sampleEquals (key : String) (value : Json) : FilterGroup :=
  ⟨"root", .and, [.cond (.on "1" key "equals" value)]⟩

theorem judgesStored_sample :
    ((Resource.clients.fields.map Field.key).Nodup ∧
      ∃ field ∈ Resource.clients.fields, field.key = "monthlyValue" ∧
        field.JudgesStored Resource.clients.fields) ∧
      (sampleEquals "monthlyValue" (.int (2 ^ 53 + 1))).accepts Resource.clients.fields
        sampleStored = true ∧
      (sampleEquals "autoRenew" (.string "true")).accepts Resource.clients.fields
        sampleStored = false := by
  have hkeys : (Resource.clients.fields.map Field.key).Nodup := by decide
  obtain ⟨value, hvalue, hkey, htype, hequals⟩ : ∃ field ∈ Resource.clients.fields,
      field.key = "monthlyValue" ∧ field.type = .number ∧ .equals ∈ field.operators := by decide
  obtain ⟨flag, hflag, hkey', htype'⟩ : ∃ field ∈ Resource.clients.fields,
      field.key = "autoRenew" ∧ field.type = .boolean := by decide
  have hjudges := Field.judgesStored hkeys hvalue
  have hfits : (Json.int (2 ^ 53 + 1)).Fits value.type := htype ▸ Json.fits_int (by decide)
  have hitself := hjudges.itself hequals sampleStored (.int (2 ^ 53 + 1)) (hkey ▸ rfl) hfits
    (.on "1" "monthlyValue" "equals" (.int (2 ^ 53 + 1))) hkey.symm rfl rfl
  have hmisfit (v : Json) (hv : sampleStored.get? flag.key = some v) : ¬ v.Fits flag.type := by
    rw [hkey'] at hv
    rw [htype']
    cases hv
    simp [Json.Fits, Json.int]
  obtain ⟨part, hpart⟩ := Option.isSome_iff_exists.1 (by decide +kernel :
    ((Condition.on "1" "autoRenew" "equals" (.string "true")).plan?
      Resource.clients.fields).isSome = true)
  have hnever := (Field.judgesStored hkeys hflag).misfit sampleStored hmisfit _ part hkey'.symm
    hpart
  exact ⟨⟨hkeys, value, hvalue, hkey, hjudges⟩, hitself "root" .and, hnever.2 "root" .and⟩

/-- A day is found with its time, and a text is no number. -/
example :
    (sampleEquals "createdAt" (.string "2024-02-29T23:59:59Z")).accepts Resource.clients.fields
        (.object [("createdAt", .string "2024-02-29T23:59:59Z")]) = true ∧
      (sampleEquals "monthlyValue" (.string "1000")).accepts Resource.clients.fields
        (.object [("monthlyValue", .string "1000")]) = false := by
  decide +kernel

end BillingQuery
