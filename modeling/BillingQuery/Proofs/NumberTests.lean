import BillingQuery.Proofs.Backends
import BillingQuery.Proofs.NearestDoubles
import BillingQuery.Proofs.PlanForm

/-!
# Tests on all stored numbers

The store compares an integer with a bound double exactly; a record has the integer, and the
evaluator compares the double nearest to it. Beyond `2^53` the two may differ.

**Main result (`Condition.number_agrees_iff`).** On every value that a number column can hold, the
compiled test and the evaluator agree unless the integer is *blurred* by the test: it is rounded to
the double that it is compared with, and the comparison tells the two apart. In particular, a filter
for the integer that is stored is passed in process always, and in the store only if the integer is
a double.
-/

namespace BillingQuery

open Sql (Cell Scope Predicate)

/-! ## Blurred integers -/

/-- The comparison with `y` tells the value from `y` itself. -/
def Comparison.SetsApart (comparison : Comparison) (value y : Int) : Prop :=
  match comparison with
  | .eq => value ≠ y
  | .gt | .lte => y < value
  | .lt | .gte => value < y

/-- The cell is an integer that is rounded to `y`, and compares with `y` otherwise than by being
equal. -/
def Comparison.Blurs (comparison : Comparison) (c : Cell) (y : Binary64) : Prop :=
  ∃ n x, c = .integer n ∧ Binary64.ofInt? n = some x ∧ x.units = y.units ∧
    comparison.SetsApart (n * 2 ^ 1074) y.units

/-- A comparison that the test makes blurs the cell. -/
def Operand.Blurs (c : Cell) : Operand → Prop
  | .number comparison y => comparison.Blurs c y
  | .numberRange low high => Comparison.gte.Blurs c low ∨ Comparison.lte.Blurs c high
  | _ => False

theorem Comparison.relation_holds_ne_iff {comparison : Comparison} {value target : Int} :
    comparison.relation.holds (compare value target) ≠ comparison.relation.holds .eq ↔
      comparison.SetsApart value target := by
  rcases Int.lt_trichotomy value target with h | h | h
  · rw [Int.compare_eq_lt.2 h]
    cases comparison <;> simp [relation, Sql.Relation.holds, SetsApart, bne] <;> omega
  · rw [Int.compare_eq_eq.2 h]
    cases comparison <;> simp [relation, Sql.Relation.holds, SetsApart, bne] <;> omega
  · rw [Int.compare_eq_gt.2 h]
    cases comparison <;> simp [relation, Sql.Relation.holds, SetsApart, bne] <;> omega

/-! ## Cells -/

namespace Sql.Cell

/-- Integers have 64 bits, and reals are finite. -/
def IsInRange : Cell → Prop
  | integer n => -2 ^ 63 ≤ n ∧ n < 2 ^ 63
  | infinity _ => False
  | null | real _ | text _ | blob _ => True

/-- An integer in range is recorded as its nearest double. -/
theorem isNearestTo_of_isInRange {n : Int} {x : Binary64} (h : (integer n).IsInRange)
    (hx : Binary64.ofInt? n = some x) : x.IsNearestTo n := by
  obtain ⟨y, hy, hnearest⟩ :=
    @Binary64.exists_ofInt?_of_int64 n (by have := h.1; have := h.2; omega)
  obtain rfl := Option.some.inj (hx.symm.trans hy)
  exact hnearest

/-- A cell is a real, or an integer that is recorded as its nearest double, or no number. -/
theorem inRange_cases {c : Cell} (h : c.IsInRange) :
    (c.className ∉ ["integer", "real"] ∧ c.toJson.storedNumber? = none ∧ ∀ n, c ≠ .integer n) ∨
      c.className ∈ ["integer", "real"] ∧ c ≠ .null ∧
        ∃ x, c.toJson.storedNumber? = some x ∧
          (c = .real x ∨ ∃ n, c = .integer n ∧ Binary64.ofInt? n = some x ∧ x.IsNearestTo n) := by
  cases c with
  | null => exact Or.inl ⟨by decide, rfl, by simp⟩
  | text s => exact Or.inl ⟨by simp [className], rfl, by simp⟩
  | blob bytes => exact Or.inl ⟨by simp [className], rfl, by simp⟩
  | infinity negative => exact h.elim
  | real x => exact Or.inr ⟨by simp [className], by simp, x, rfl, Or.inl rfl⟩
  | integer n =>
    obtain ⟨x, hx, hnearest⟩ :=
      @Binary64.exists_ofInt?_of_int64 n (by have := h.1; have := h.2; omega)
    exact Or.inr ⟨by simp [className], by simp, x, hx, Or.inr ⟨n, rfl, hx, hnearest⟩⟩

end Sql.Cell

namespace Comparison

variable {comparison : Comparison} {c : Cell} {x y : Binary64}

/-- The cell compares as the double that is recorded, unless it is blurred. -/
theorem relation_holds_eq_iff
    (h : c = .real x ∨ ∃ n, c = .integer n ∧ Binary64.ofInt? n = some x ∧ x.IsNearestTo n) :
    comparison.relation.holds (c.compare (.real y)) = comparison.holds x y ↔
      ¬ comparison.Blurs c y := by
  rw [← comparison.relation_holds]
  rcases h with rfl | ⟨n, rfl, hx, hnearest⟩
  · exact iff_of_true rfl (by rintro ⟨n, x', hn, -⟩; cases hn)
  · by_cases hunits : x.units = y.units
    · have hblurs : comparison.Blurs (.integer n) y ↔
          comparison.SetsApart (n * 2 ^ 1074) y.units := by
        constructor
        · rintro ⟨_, x', ⟨⟩, -, -, hapart⟩
          exact hapart
        · exact fun hapart => ⟨n, x, rfl, hx, hunits, hapart⟩
      rw [hblurs, ← relation_holds_ne_iff, not_not, Int.compare_eq_eq.2 hunits]
      rfl
    · rw [hnearest.compare_of_ne hunits]
      refine iff_of_true rfl ?_
      rintro ⟨_, x', ⟨⟩, hx', hunits', -⟩
      obtain rfl := Option.some.inj (hx.symm.trans hx')
      exact hunits hunits'

/-- A blurred cell is recorded as the double that it is compared with. -/
theorem Blurs.units_eq (h : comparison.Blurs c y) (hx : c.toJson.storedNumber? = some x) :
    x.units = y.units := by
  obtain ⟨n, x', rfl, hx', hunits, -⟩ := h
  obtain rfl := Option.some.inj (hx.symm.trans hx')
  exact hunits

/-- Each bound of a range is in the range. -/
theorem holds_of_units_eq {low high : Binary64} (hle : low ≤ high)
    (hunits : x.units = low.units ∨ x.units = high.units) :
    gte.holds x low = true ∧ lte.holds x high = true := by
  have hbounds : low.units ≤ high.units := hle
  simp only [holds, Binary64.le_def, decide_eq_true_eq]
  omega

end Comparison

/-! ## Tests -/

namespace Operand

variable {s : Scope} {column : String} {bound : Nat}
  (haffinity : (s.affinity column).isNumeric = true) (hcell : (s.cell column).IsInRange)
include haffinity hcell

theorem comparison_agrees_iff {comparison : Comparison} {y : Binary64}
    (hbound : IsBound s bound (number comparison y).values) :
    (((number comparison y).predicate column bound).truth s = some true ↔
        (number comparison y).accepts (s.cell column).toJson = true) ↔
      ¬ (number comparison y).Blurs (s.cell column) := by
  have hfirst : s.parameter (bound + 1) = .real y := hbound 0 _ rfl
  rw [predicate, Predicate.truth, Predicate.truthOfAll_eq_true]
  simp only [List.forall_mem_cons, List.not_mem_nil, false_imp_iff, implies_true, and_true,
    truth_isNumeric, accepts, Blurs]
  rcases Sql.Cell.inRange_cases hcell with ⟨hclass, hnone, hno⟩ | ⟨hclass, hne, x, hx, hc⟩
  · refine iff_of_true (by simp [hclass, hnone]) ?_
    rintro ⟨n, -, hn, -⟩
    exact hno n hn
  · rw [truth_compare_real comparison haffinity hfirst hne, ← Comparison.relation_holds_eq_iff hc,
      Bool.eq_iff_iff, hx]
    simp [hclass]

theorem range_agrees_iff {low high : Binary64} (hle : low ≤ high)
    (hbound : IsBound s bound (numberRange low high).values) :
    (((numberRange low high).predicate column bound).truth s = some true ↔
        (numberRange low high).accepts (s.cell column).toJson = true) ↔
      ¬ (numberRange low high).Blurs (s.cell column) := by
  have hfirst : s.parameter (bound + 1) = .real low := hbound 0 _ rfl
  have hsecond : s.parameter (bound + 2) = .real high := hbound 1 _ rfl
  rw [predicate, Predicate.truth, Predicate.truthOfAll_eq_true]
  simp only [List.forall_mem_cons, List.not_mem_nil, false_imp_iff, implies_true, and_true,
    truth_isNumeric, accepts, Blurs]
  rcases Sql.Cell.inRange_cases hcell with ⟨hclass, hnone, hno⟩ | ⟨hclass, hne, x, hx, hc⟩
  · refine iff_of_true (by simp [hclass, hnone]) ?_
    rintro (⟨n, -, hn, -⟩ | ⟨n, -, hn, -⟩) <;> exact hno n hn
  · have hgte := truth_compare_real .gte haffinity hfirst hne
    have hlte := truth_compare_real .lte haffinity hsecond hne
    have hlow := @Comparison.relation_holds_eq_iff .gte _ x low hc
    have hhigh := @Comparison.relation_holds_eq_iff .lte _ x high hc
    simp only [Comparison.relation] at hgte hlte
    have haccepts : (some x).any (fun a => decide (low ≤ a) && decide (a ≤ high)) = true ↔
        Comparison.gte.holds x low = true ∧ Comparison.lte.holds x high = true := by
      rw [Option.any_some, Bool.and_eq_true]
      rfl
    rw [hgte, hlte, hx, haccepts, and_iff_right hclass]
    by_cases hblurs : Comparison.gte.Blurs (s.cell column) low ∨
        Comparison.lte.Blurs (s.cell column) high
    · -- A bound that blurs the integer is met by the double, and so is the other bound.
      have hmet := Comparison.holds_of_units_eq hle
        (hblurs.imp (fun h => h.units_eq hx) (fun h => h.units_eq hx))
      refine iff_of_false ?_ (not_not.2 hblurs)
      intro hagree
      obtain ⟨hfirst', hsecond'⟩ := hagree.2 hmet
      rcases hblurs with h | h
      · exact hlow.1 (hfirst'.trans hmet.1.symm) h
      · exact hhigh.1 (hsecond'.trans hmet.2.symm) h
    · rw [not_or] at hblurs
      refine iff_of_true ?_ (not_or.2 hblurs)
      rw [← hlow.2 hblurs.1, ← hhigh.2 hblurs.2]
      rfl

omit haffinity hcell

theorem accepts_nearest {n : Int} {y : Binary64} (hy : Binary64.ofInt? n = some y) :
    (number .eq y).accepts (Cell.integer n).toJson = true := by
  have hstored : (Cell.integer n).toJson.storedNumber? = some y := hy
  rw [accepts, hstored]
  simp [Comparison.holds, Binary64.sameValue]

theorem blurs_nearest_iff {n : Int} {y : Binary64} (hy : Binary64.ofInt? n = some y) :
    (number .eq y).Blurs (.integer n) ↔ n * 2 ^ 1074 ≠ y.units := by
  constructor
  · rintro ⟨_, x, ⟨⟩, -, -, hapart⟩
    exact hapart
  · exact fun hapart => ⟨n, y, rfl, hy, rfl, hapart⟩

end Operand

/-! ## Conditions -/

namespace Condition

variable {c : Condition} {fields : List Field} {f : Field} {operand : Operand}

/-- A condition on a number compares with a number or with a range in order. -/
theorem number_cases (hverdict : c.verdict fields = .test f operand) (htype : f.type = .number) :
    (∃ comparison y, operand = .number comparison y) ∨
      ∃ low high, low ≤ high ∧ operand = .numberRange low high := by
  obtain ⟨-, hlegal, hready⟩ := gives_of_verdict hverdict
  cases operand with
  | number comparison y => exact Or.inl ⟨comparison, y, rfl⟩
  | numberRange low high => exact Or.inr ⟨low, high, hready.1, rfl⟩
  | text | textSet | pattern | flag | day | dayRange =>
    simp only [Operand.IsLegalFor, htype] at hlegal
    exact absurd hlegal (by decide)

theorem operand_of_equals (hverdict : c.verdict fields = .test f operand) (htype : f.type = .number)
    {n : Int} (hvalue : c.value = some (.int n)) (hname : c.operator = "equals") :
    ∃ y, Binary64.ofInt? n = some y ∧ operand = .number .eq y := by
  obtain ⟨-, op, rule, hop, -, hrule, hoperand⟩ := verdict_eq_test hverdict
  obtain rfl : op = .equals := by
    rw [hname] at hop
    exact (Option.some.inj hop).symm
  rw [htype] at hrule
  obtain rfl := Option.some.inj hrule
  obtain ⟨y, hy, rfl⟩ := map_eq_ok.1 hoperand
  obtain ⟨j, hj, hnumber⟩ := coerced_eq_ok.1 hy
  obtain rfl := Option.some.inj (hvalue.symm.trans hj)
  exact ⟨y, hnumber, rfl⟩

/-- **Number tests.** The compiled test of a condition on a number and the evaluator agree on a
value iff the test does not blur it. Of filters for the very integer that is stored, the evaluator
passes all, and the store those for doubles. -/
theorem number_agrees_iff {s : Scope} {bound : Nat} (hverdict : c.verdict fields = .test f operand)
    (htype : f.type = .number) (haffinity : (s.affinity f.column).isNumeric = true)
    (hcell : (s.cell f.column).IsInRange) (hbound : Operand.IsBound s bound operand.values) :
    (((operand.predicate f.column bound).truth s = some true ↔
        operand.accepts (f.jsonOf (s.cell f.column)) = true) ↔
      ¬ operand.Blurs (s.cell f.column)) ∧
    ∀ n, s.cell f.column = .integer n → c.value = some (.int n) → c.operator = "equals" →
      operand.accepts (f.jsonOf (s.cell f.column)) = true ∧
      ((operand.predicate f.column bound).truth s = some true ↔
        ∃ y : Binary64, y.units = n * 2 ^ 1074) := by
  have hjson : f.jsonOf (s.cell f.column) = (s.cell f.column).toJson := by
    rw [Field.jsonOf, htype, if_neg (by decide)]
  rw [hjson]
  have hagree : ((operand.predicate f.column bound).truth s = some true ↔
      operand.accepts (s.cell f.column).toJson = true) ↔ ¬ operand.Blurs (s.cell f.column) := by
    rcases number_cases hverdict htype with ⟨comparison, y, rfl⟩ | ⟨low, high, hle, rfl⟩
    · exact Operand.comparison_agrees_iff haffinity hcell hbound
    · exact Operand.range_agrees_iff haffinity hcell hle hbound
  refine ⟨hagree, ?_⟩
  intro n hn hvalue hname
  obtain ⟨y, hy, rfl⟩ := operand_of_equals hverdict htype hvalue hname
  rw [hn] at hcell hagree ⊢
  have haccepts := Operand.accepts_nearest hy
  rw [Operand.blurs_nearest_iff hy, not_not, iff_true_right haccepts] at hagree
  refine ⟨haccepts, hagree.trans ⟨fun h => ⟨y, h.symm⟩, ?_⟩⟩
  -- A double with the value of the integer is the nearest one, so nothing is lost on the way.
  rintro ⟨x, hx⟩
  rw [(Sql.Cell.isNearestTo_of_isInRange hcell hy).units_eq hx, hx]

end Condition

/-! ## The first integer that is no double -/

/-- A license with one seat more than `2^53`. -/
def sampleLicense : Row where
  cells := [("id", .integer 3), ("tenant_id", .text "t1"), ("license_key", .text "K-1"),
    ("client_id", .integer 7), ("product", .text "Basic"), ("status", .text "active"),
    ("seats", .integer (2 ^ 53 + 1)), ("auto_renew", .integer 0)]

def seatsCondition : Condition := .on "1" "seats" "equals" (.int (2 ^ 53 + 1))

/-- The store does not find the number that it has, and the evaluator does. -/
theorem store_misses_large_integer :
    FilterGroup.isTrueOn ⟨"root", .and, [.cond seatsCondition]⟩ .licenses "t1" Sql.seenChar
        sampleLicense = false ∧
      FilterGroup.accepts ⟨"root", .and, [.cond seatsCondition]⟩ Resource.licenses.fields
        (Resource.licenses.recordOf sampleLicense) = true := by
  decide +kernel

def largeDouble : Binary64 := ⟨false, 2 ^ 52, 1075, by decide, by decide, Or.inr (Nat.le_refl _)⟩

theorem number_agrees_iff_sample :
    ((((Operand.number .eq largeDouble).predicate "seats" 1).truth
          (Resource.licenses.scope [.text "t1", .real largeDouble] sampleLicense) = some true ↔
        (Operand.number .eq largeDouble).accepts (.int (2 ^ 53 + 1)) = true) ↔
      ¬ (Operand.number .eq largeDouble).Blurs (.integer (2 ^ 53 + 1))) ∧
    (Operand.number .eq largeDouble).accepts (.int (2 ^ 53 + 1)) = true := by
  have hlarge : (Json.int (2 ^ 53 + 1)).toNumber? = some largeDouble := by decide +kernel
  have hoperand : seatsCondition.numberOperand .eq = .ok (.number .eq largeDouble) :=
    Condition.map_eq_ok.2 ⟨largeDouble, Condition.coerced_eq_ok.2 ⟨_, rfl, hlarge⟩, rfl⟩
  have hverdict : seatsCondition.verdict Resource.licenses.fields =
      .test (.plain "seats" "Seats" "seats" .number) (.number .eq largeDouble) :=
    Condition.verdict_of_operand rfl rfl rfl rfl hoperand
  have hbound : Operand.IsBound
      (Resource.licenses.scope [.text "t1", .real largeDouble] sampleLicense) 1
      (Operand.number .eq largeDouble).values := by
    intro i v hi
    cases i with
    | zero =>
      cases hi
      rfl
    | succ i => cases hi
  have hcell : (Cell.integer (2 ^ 53 + 1)).IsInRange := ⟨by decide, by decide⟩
  have hagree := Condition.number_agrees_iff hverdict rfl (by decide) hcell hbound
  exact ⟨hagree.1, (hagree.2 _ rfl rfl rfl).1⟩

end BillingQuery
