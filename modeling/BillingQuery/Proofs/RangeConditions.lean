import BillingQuery.Proofs.Days
import BillingQuery.Proofs.OneOf

/-!
# Ranges

A range of numbers may be written with `between`, or as a group joined by AND of a condition with
`gte` and one with `lte`. A range whose bounds are the same value may be written with `equals`.

**Main result (`rangesAreComparisons`).** Either spelling lets the same records pass, whatever the
bounds are: numbers, numeric text, values that cannot be read, or left out. A range whose bounds are
not in order lets no record pass.

`between` reads both bounds before it looks at the record, and rejects bounds that are not in order.
The group reads one bound at a time and knows nothing of their order. But a number between the two
puts them in order (`Condition.encloses_iff`), so the rejection only forestalls comparisons that
would fail anyway.
-/

namespace BillingQuery

/-! ## Types with an order -/

/-- The type compares by an order what is read from conditions and from records. -/
structure FieldType.IsOrderedBy {α : Type} [LE α] (type : FieldType)
    (read stored : Json → Option α) : Prop where
  null : read .null = none
  trans : ∀ x y z : α, x ≤ y → y ≤ z → x ≤ z
  suitable : [.equals, .between] ⊆ type.operators
  equals : ∀ (c : Condition) (actual : Json), c.Compares type .equals actual ↔
    c.Relates actual read stored fun x b => x ≤ b ∧ b ≤ x
  between : ∀ (c : Condition) (actual : Json),
    c.Compares type .between actual ↔ c.Encloses actual read stored

theorem FieldType.isOrderedBy_number :
    IsOrderedBy .number Json.toNumber? Json.storedNumber? where
  null := rfl
  trans _ _ _ := Int.le_trans
  suitable := by decide
  equals c actual := by
    have hsame (x b : Binary64) : b.units = x.units ↔ x ≤ b ∧ b ≤ x := by
      rw [Binary64.le_def, Binary64.le_def]
      omega
    simp only [Condition.Compares, Condition.Relates, hsame]
  between _ _ := Iff.rfl

theorem Day.eq_iff_le_and_le {d e : Day} : d = e ↔ d ≤ e ∧ e ≤ d := by
  constructor
  · rintro rfl
    exact ⟨Nat.le_refl _, Nat.le_refl _⟩
  · rintro ⟨h, h'⟩
    exact key_injective (Nat.le_antisymm h h')

theorem FieldType.isOrderedBy_date : IsOrderedBy .date Json.toDay? Json.toDay? where
  null := rfl
  trans _ _ _ := Nat.le_trans
  suitable := by decide
  equals c actual := by simp only [Condition.Compares, Condition.Relates, Day.eq_iff_le_and_le]
  between _ _ := Iff.rfl

/-! ## Conditions -/

/-- The key is that of a field that allows these operators. -/
structure AllowsOperators (fields : List Field) (key : String) (field : Field)
    (operators : List Operator) : Prop where
  found : findField? fields key = some field
  allowed : operators ⊆ field.operators

namespace Condition

/-- The condition asks for a range. A bound is null if it is left out. -/
structure AsksRange (c : Condition) (key : String) (low high : Json) : Prop extends
    c.Asks key .between low where
  value2 : c.value2.getD .null = high

variable {α β : Type} {fields : List Field} {field : Field} {key : String} {c : Condition}
  {op : Operator} {operators : List Operator} {value actual : Json} {read : Json → Option α}

theorem Asks.uses (hc : c.Asks key op value) (h : AllowsOperators fields key field operators)
    (hop : op ∈ operators) (hsuitable : op ∈ field.type.operators) : c.Uses fields field op where
  found := hc.field ▸ h.found
  named := hc.operator.symm
  allowed := h.allowed hop
  suitable := hsuitable

theorem Uses.counts (h : c.Uses fields field op) : FilterNode.Counts fields (.cond c) :=
  ⟨field, op, h⟩

/-- A condition that looks at nothing but what is stored in its field. -/
theorem holds_iff_stored {stored : Json → Option β} {passes : β → Prop}
    (record : Json) (huses : c.Uses fields field op)
    (hcompares : ∀ actual, c.Compares field.type op actual ↔
      ∃ b, stored actual = some b ∧ passes b) :
    FilterNode.Holds fields record (.cond c) ↔
      ∃ b, (record.get? field.key).bind stored = some b ∧ passes b := by
  simp only [holds_iff huses, hcompares, Option.bind_eq_some_iff]
  constructor
  · rintro ⟨actual, hactual, b, hb, hpasses⟩
    exact ⟨b, ⟨actual, hactual, hb⟩, hpasses⟩
  · rintro ⟨b, ⟨actual, hactual, hb⟩, hpasses⟩
    exact ⟨actual, hactual, b, hb, hpasses⟩

/-- A value that cannot be read is related to nothing, and so is one that is left out. -/
theorem relates_iff_stored {stored : Json → Option β} {related : α → β → Prop}
    (hnull : read .null = none) (hvalue : c.value.getD .null = value) :
    c.Relates actual read stored related ↔
      ∃ b, stored actual = some b ∧ ∃ a, read value = some a ∧ related a b := by
  have hread (a : α) (b : β) (h : read .null = some a) : ¬ related a b := by
    rw [hnull] at h
    cases h
  rw [relates_iff hread, hvalue]
  constructor
  · rintro ⟨a, b, ha, hb, hrelated⟩
    exact ⟨b, hb, a, ha, hrelated⟩
  · rintro ⟨b, hb, a, ha, hrelated⟩
    exact ⟨a, b, ha, hb, hrelated⟩

/-- What lies between the bounds puts them in order. -/
theorem encloses_iff [LE α] {stored : Json → Option α} {low high : Json}
    (hnull : read .null = none) (htrans : ∀ x y z : α, x ≤ y → y ≤ z → x ≤ z)
    (hlow : c.value.getD .null = low) (hhigh : c.value2.getD .null = high) :
    c.Encloses actual read stored ↔
      ∃ b, stored actual = some b ∧
        ∃ x y, read low = some x ∧ read high = some y ∧ x ≤ b ∧ b ≤ y := by
  subst hlow hhigh
  constructor
  · rintro ⟨j, k, x, y, b, hj, hk, hx, hy, -, hb, hxb, hby⟩
    exact ⟨b, hb, x, y, by rwa [hj], by rwa [hk], hxb, hby⟩
  · rintro ⟨b, hb, x, y, hx, hy, hxb, hby⟩
    cases hj : c.value with
    | none =>
      rw [hj, Option.getD_none, hnull] at hx
      cases hx
    | some j =>
      cases hk : c.value2 with
      | none =>
        rw [hk, Option.getD_none, hnull] at hy
        cases hy
      | some k =>
        rw [hj] at hx
        rw [hk] at hy
        exact ⟨j, k, x, y, b, hj, hk, hx, hy, htrans x b y hxb hby, hb, hxb, hby⟩

end Condition

/-! ## Ranges of an ordered type -/

namespace FieldType.IsOrderedBy

open FilterNode (Holds Equivalent)

variable {α : Type} [LE α] {fields : List Field} {field : Field} {key : String}
  {c d : Condition} {operators : List Operator} {value low high record : Json}
  {read stored : Json → Option α}

theorem holds_equals (h : field.type.IsOrderedBy read stored) (huses : c.Uses fields field .equals)
    (hvalue : c.value.getD .null = value) :
    Holds fields record (.cond c) ↔
      ∃ b, (record.get? field.key).bind stored = some b ∧
        ∃ x, read value = some x ∧ x ≤ b ∧ b ≤ x :=
  Condition.holds_iff_stored _ huses fun actual =>
    (h.equals c actual).trans (Condition.relates_iff_stored h.null hvalue)

/-- **Ranges.** A range holds of what is between its bounds. -/
theorem holds_between (h : field.type.IsOrderedBy read stored)
    (huses : c.Uses fields field .between) (hlow : c.value.getD .null = low)
    (hhigh : c.value2.getD .null = high) :
    Holds fields record (.cond c) ↔
      ∃ b, (record.get? field.key).bind stored = some b ∧
        ∃ x y, read low = some x ∧ read high = some y ∧ x ≤ b ∧ b ≤ y :=
  Condition.holds_iff_stored _ huses fun actual =>
    (h.between c actual).trans (Condition.encloses_iff h.null h.trans hlow hhigh)

/-- A range whose bounds are the same value. -/
theorem equivalent_point (h : field.type.IsOrderedBy read stored)
    (hallows : AllowsOperators fields key field [.equals, .between])
    (hc : c.AsksRange key value value) (hd : d.Asks key .equals value) :
    Equivalent fields (.cond c) (.cond d) := by
  have hrange := hc.uses hallows (by decide) (h.suitable (by decide))
  have hequals := hd.uses hallows (by decide) (h.suitable (by decide))
  refine ⟨iff_of_true hrange.counts hequals.counts, fun record => ?_⟩
  rw [h.holds_between hrange hc.value hc.value2, h.holds_equals hequals hd.value]
  constructor
  · rintro ⟨b, hb, x, y, hx, hy, hxb, hby⟩
    obtain rfl := Option.some.inj (hx.symm.trans hy)
    exact ⟨b, hb, x, hx, hxb, hby⟩
  · rintro ⟨b, hb, x, hx, hxb, hbx⟩
    exact ⟨b, hb, x, x, hx, hx, hxb, hbx⟩

/-- Bounds that cannot be read, or are not in order, enclose nothing. -/
theorem accepts_eq_false (h : field.type.IsOrderedBy read stored)
    (hallows : AllowsOperators fields key field [.between]) (hc : c.AsksRange key low high)
    (hbounds : ∀ x y, read low = some x → read high = some y → ¬ x ≤ y) (id : String)
    (logical : Logical) (record : Json) :
    FilterGroup.accepts ⟨id, logical, [.cond c]⟩ fields record = false := by
  have hrange := hc.uses hallows (by decide) (h.suitable (by decide))
  have halone := FilterNode.equivalent_alone id logical hrange.counts
  rw [Bool.eq_false_iff, ne_eq, FilterGroup.accepts_iff_of_equivalent halone.symm,
    h.holds_between hrange hc.value hc.value2]
  rintro ⟨b, -, x, y, hx, hy, hxb, hby⟩
  exact hbounds x y hx hy (h.trans x b y hxb hby)

end FieldType.IsOrderedBy

/-! ## Ranges of numbers -/

/-- Two nodes that count, joined by AND. -/
theorem FilterNode.holds_and_iff {fields : List Field} {record : Json} {id : String}
    {n m : FilterNode} (hn : n.Counts fields) (hm : m.Counts fields) :
    Holds fields record (.group id .and [n, m]) ↔
      Holds fields record n ∧ Holds fields record m := by
  simp [holds_group_iff, hn, hm]

/-- **Ranges of numbers.** Each of the two comparisons asks for one bound. -/
theorem Condition.AsksRange.equivalent_both {fields : List Field} {field : Field} {key : String}
    {c d e : Condition} {low high : Json} (htype : field.type = .number)
    (hallows : AllowsOperators fields key field [.gte, .lte, .between])
    (hc : c.AsksRange key low high) (hd : d.Asks key .gte low) (he : e.Asks key .lte high)
    (id : String) :
    FilterNode.Equivalent fields (.cond c) (.group id .and [.cond d, .cond e]) := by
  have hrange := hc.uses hallows (by decide) (htype ▸ by decide)
  have hgte := hd.uses hallows (by decide) (htype ▸ by decide)
  have hlte := he.uses hallows (by decide) (htype ▸ by decide)
  refine ⟨iff_of_true hrange.counts trivial, fun record => ?_⟩
  have hordered : field.type.IsOrderedBy Json.toNumber? Json.storedNumber? :=
    htype ▸ FieldType.isOrderedBy_number
  have hleast := Condition.holds_iff_stored record hgte fun actual =>
    Condition.relates_iff_stored rfl hd.value
  have hgreatest := Condition.holds_iff_stored record hlte fun actual =>
    Condition.relates_iff_stored rfl he.value
  rw [hordered.holds_between hrange hc.value hc.value2,
    FilterNode.holds_and_iff hgte.counts hlte.counts, hleast, hgreatest]
  constructor
  · rintro ⟨b, hb, x, y, hx, hy, hxb, hby⟩
    exact ⟨⟨b, hb, x, hx, hxb⟩, b, hb, y, hy, hby⟩
  · rintro ⟨⟨b, hb, x, hx, hxb⟩, b', hb', y, hy, hby⟩
    obtain rfl := Option.some.inj (hb.symm.trans hb')
    exact ⟨b, hb, x, y, hx, hy, hxb, hby⟩

/-! ## Filters -/

/-- On fields that allow the operators, a range is what comparisons make of its bounds. -/
structure RangesAreComparisons (fields : List Field) : Prop where
  /-- A range of numbers is a group of two conditions, within a filter and as a filter. -/
  both : ∀ (key : String) (field : Field), field.type = .number →
    AllowsOperators fields key field [.gte, .lte, .between] →
    ∀ (c d e : Condition) (low high : Json), c.AsksRange key low high → d.Asks key .gte low →
      e.Asks key .lte high → ∀ id : String,
        FilterNode.Interchangeable fields (.cond c) (.group id .and [.cond d, .cond e]) ∧
          ∀ id' logical record, FilterGroup.accepts ⟨id', logical, [.cond c]⟩ fields record =
            FilterGroup.accepts ⟨id, .and, [.cond d, .cond e]⟩ fields record
  /-- A range of numbers or days whose bounds are one value asks for this value. -/
  point : ∀ (key : String) (field : Field), field.type = .number ∨ field.type = .date →
    AllowsOperators fields key field [.equals, .between] →
    ∀ (c d : Condition) (value : Json), c.AsksRange key value value → d.Asks key .equals value →
      FilterNode.Interchangeable fields (.cond c) (.cond d)
  /-- A range of numbers lets no record pass unless both bounds are numbers and in order. -/
  noNumber : ∀ (key : String) (field : Field), field.type = .number →
    AllowsOperators fields key field [.between] →
    ∀ (c : Condition) (low high : Json), c.AsksRange key low high →
      (∀ x y, low.toNumber? = some x → high.toNumber? = some y → ¬ x ≤ y) →
        ∀ id logical record, FilterGroup.accepts ⟨id, logical, [.cond c]⟩ fields record = false
  /-- A range of days lets no record pass unless both bounds are days and in order. -/
  noDay : ∀ (key : String) (field : Field), field.type = .date →
    AllowsOperators fields key field [.between] →
    ∀ (c : Condition) (low high : Json), c.AsksRange key low high →
      (∀ d e, low.toDay? = some d → high.toDay? = some e → ¬ d ≤ e) →
        ∀ id logical record, FilterGroup.accepts ⟨id, logical, [.cond c]⟩ fields record = false

/-- **Ranges**, on every list of fields. -/
theorem rangesAreComparisons (fields : List Field) : RangesAreComparisons fields where
  both key field htype hallows c d e low high hc hd he id := by
    have heq := hc.equivalent_both htype hallows hd he id
    have hrange : c.Uses fields field .between :=
      hc.uses hallows (by decide) (htype ▸ by decide)
    refine ⟨heq.interchangeable, fun id' logical record => ?_⟩
    have halone := FilterNode.equivalent_alone id' logical hrange.counts
    exact FilterGroup.accepts_eq_of_equivalent (heq.symm.trans halone) record
  point key field htype hallows c d value hc hd := by
    rcases htype with htype | htype
    · have hordered := htype ▸ FieldType.isOrderedBy_number
      exact (hordered.equivalent_point hallows hc hd).interchangeable
    · have hordered := htype ▸ FieldType.isOrderedBy_date
      exact (hordered.equivalent_point hallows hc hd).interchangeable
  noNumber key field htype hallows c low high hc := by
    have hordered := htype ▸ FieldType.isOrderedBy_number
    exact hordered.accepts_eq_false hallows hc
  noDay key field htype hallows c low high hc := by
    have hordered := htype ▸ FieldType.isOrderedBy_date
    exact hordered.accepts_eq_false hallows hc

/-- The clients with a monthly value in this range. -/
def sampleRange (low high : Json) : FilterGroup :=
  ⟨"root", .or, [.cond (.between "1" "monthlyValue" low high)]⟩

/-- The same by two comparisons. -/
def sampleComparisons (low high : Json) : FilterGroup :=
  ⟨"root", .and,
    [.cond (.on "2" "monthlyValue" "gte" low), .cond (.on "3" "monthlyValue" "lte" high)]⟩

theorem rangesAreComparisons_sample :
    (∃ field, field.type = .number ∧ AllowsOperators Resource.clients.fields "monthlyValue" field
        [.gte, .lte, .between]) ∧
      (sampleComparisons (.string " 1e3 ") (Json.int 1000)).accepts Resource.clients.fields
        (.object [("monthlyValue", Json.int 1000)]) = true ∧
      (sampleRange (Json.int 3) (.string "2.5")).accepts Resource.clients.fields
        (.object [("monthlyValue", Json.int 3)]) = false := by
  obtain ⟨field, htype, hallows⟩ : ∃ field, field.type = .number ∧
      AllowsOperators Resource.clients.fields "monthlyValue" field [.gte, .lte, .between] :=
    ⟨_, rfl, rfl, by decide⟩
  have hranges := rangesAreComparisons Resource.clients.fields
  have hrange : (sampleRange (.string " 1e3 ") (Json.int 1000)).accepts Resource.clients.fields
      (.object [("monthlyValue", Json.int 1000)]) = true := by decide +kernel
  have hboth := hranges.both "monthlyValue" field htype hallows
    (.between "1" "monthlyValue" (.string " 1e3 ") (Json.int 1000))
    (.on "2" "monthlyValue" "gte" (.string " 1e3 ")) (.on "3" "monthlyValue" "lte" (Json.int 1000))
    (.string " 1e3 ") (Json.int 1000) ⟨⟨rfl, rfl, rfl⟩, rfl⟩ ⟨rfl, rfl, rfl⟩ ⟨rfl, rfl, rfl⟩ "root"
  have hinverted : ((Json.int 3).toNumber?.any fun x => (Json.string "2.5").toNumber?.any fun y =>
      decide (x ≤ y)) = false := by decide +kernel
  have hnone := hranges.noNumber "monthlyValue" field htype
    ⟨hallows.found, List.Subset.trans (by decide) hallows.allowed⟩
    (.between "1" "monthlyValue" (Json.int 3) (.string "2.5")) (Json.int 3) (.string "2.5")
    ⟨⟨rfl, rfl, rfl⟩, rfl⟩ fun x y hx hy => by simpa [hx, hy] using hinverted
  exact ⟨⟨field, htype, hallows⟩, (hboth.2 "root" .or _).symm.trans hrange,
    hnone "root" .or _⟩

/-- A bound that cannot be read. As a condition of its own the other one is met. -/
example :
    (sampleRange (Json.int 3) (.string "many")).accepts Resource.clients.fields
        (.object [("monthlyValue", Json.int 3)]) = false ∧
      ((sampleComparisons (Json.int 3) (.string "many")).withLogical .or).accepts
        Resource.clients.fields (.object [("monthlyValue", Json.int 3)]) = true := by
  decide +kernel

end BillingQuery
