import BillingQuery.Proofs.Days
import Mathlib.Order.Monotone.Basic

/-!
# Counting days

**The count (`Day.number`).** Days are counted from the first of January of the year 0000, which is
day 1: the days of the years before, of the months before in the same year, and of the month.

**Main results (`Day.number_lt_number`, `Day.exists_number_eq`).** One day is before another iff its
number is smaller, and every number from 1 to 3652425 is that of a day. So the order by year, month
and day is the order in time, and no day is left out or counted twice.
-/

namespace BillingQuery

/-- The length of a year. -/
def daysInYear (year : Nat) : Nat := if isLeapYear year then 366 else 365

/-- The days of all years before this one. -/
def daysBeforeYear : Nat → Nat
  | 0 => 0
  | year + 1 => daysBeforeYear year + daysInYear year

/-- The days of this year in all months before this one. -/
def daysBeforeMonth (year : Nat) : Nat → Nat
  | 0 => 0
  | month + 1 => daysBeforeMonth year month + daysInMonth year month

/-- The place of a day among all days, from 1 on. -/
def Day.number (d : Day) : Nat :=
  daysBeforeYear d.year + daysBeforeMonth d.year d.month + d.day

/-! ## Years and months -/

theorem isLeapYear_eq_true {year : Nat} :
    isLeapYear year = true ↔ year % 4 = 0 ∧ (year % 100 ≠ 0 ∨ year % 400 = 0) := by
  simp [isLeapYear]

/-- The twelve months make up the year. -/
theorem daysBeforeMonth_thirteen (year : Nat) : daysBeforeMonth year 13 = daysInYear year := by
  simp only [daysBeforeMonth, daysInMonth, daysInYear]
  split_ifs <;> rfl

theorem daysBeforeYear_mono : Monotone daysBeforeYear :=
  monotone_nat_of_le_succ fun year => Nat.le_add_right _ (daysInYear year)

theorem daysBeforeMonth_mono (year : Nat) : Monotone (daysBeforeMonth year) :=
  monotone_nat_of_le_succ fun month => Nat.le_add_right _ (daysInMonth year month)

/-- Below `n` there are `(n + k) / (k + 1)` multiples of `k + 1`; `n` itself may be one more. -/
theorem multiples_succ (n k : Nat) :
    (n + 1 + k) / (k + 1) = (n + k) / (k + 1) + if n % (k + 1) = 0 then 1 else 0 := by
  have hdvd : k + 1 ∣ n + k + 1 ↔ n % (k + 1) = 0 := by
    rw [Nat.add_assoc, Nat.dvd_add_self_right, Nat.dvd_iff_mod_eq_zero]
  rw [Nat.add_right_comm, Nat.succ_div]
  simp only [hdvd]

/-- A leap day in every fourth year, but not in the centuries that 400 does not divide. Year 0 has
one. -/
theorem daysBeforeYear_eq (year : Nat) :
    daysBeforeYear year + (year + 99) / 100 =
      365 * year + (year + 3) / 4 + (year + 399) / 400 := by
  induction year with
  | zero => rfl
  | succ year ih =>
    have hfour : (year + 1 + 3) / 4 = (year + 3) / 4 + if year % 4 = 0 then 1 else 0 :=
      multiples_succ year 3
    have hhundred : (year + 1 + 99) / 100 = (year + 99) / 100 + if year % 100 = 0 then 1 else 0 :=
      multiples_succ year 99
    have hmost : (year + 1 + 399) / 400 = (year + 399) / 400 + if year % 400 = 0 then 1 else 0 :=
      multiples_succ year 399
    have hlength : daysInYear year + (if year % 100 = 0 then 1 else 0) =
        365 + (if year % 4 = 0 then 1 else 0) + if year % 400 = 0 then 1 else 0 := by
      rw [daysInYear]
      simp only [isLeapYear_eq_true]
      split_ifs <;> omega
    rw [daysBeforeYear, hfour, hhundred, hmost]
    omega

theorem daysBeforeYear_tenThousand : daysBeforeYear 10000 = 3652425 := by
  have h := daysBeforeYear_eq 10000
  omega

/-- A number up to the last sum belongs to one of the summands. -/
theorem exists_between_sums (sum : Nat → Nat) (hzero : sum 0 = 0) {n k : Nat} (hpos : 1 ≤ n)
    (hle : n ≤ sum k) : ∃ i < k, sum i < n ∧ n ≤ sum (i + 1) := by
  induction k with
  | zero => omega
  | succ k ih =>
    by_cases hlast : sum k < n
    · exact ⟨k, Nat.lt_succ_self k, hlast, hle⟩
    · obtain ⟨i, hi, hn⟩ := ih (Nat.le_of_not_lt hlast)
      exact ⟨i, Nat.lt_succ_of_lt hi, hn⟩

namespace Day

/-! ## The order of days -/

theorem number_le_daysBeforeYear_succ (d : Day) : d.number ≤ daysBeforeYear (d.year + 1) := by
  have hmonths : daysBeforeMonth d.year (d.month + 1) ≤ daysBeforeMonth d.year 13 :=
    daysBeforeMonth_mono d.year (Nat.succ_le_succ d.month_bounds.2)
  have hday := d.day_le
  rw [daysBeforeMonth_thirteen, daysBeforeMonth] at hmonths
  rw [number, daysBeforeYear]
  omega

theorem number_lt_number_of_year_lt {d e : Day} (h : d.year < e.year) : d.number < e.number := by
  have hd := d.number_le_daysBeforeYear_succ
  have hyears : daysBeforeYear (d.year + 1) ≤ daysBeforeYear e.year := daysBeforeYear_mono h
  have hday := e.day_pos
  rw [number.eq_def e]
  omega

theorem number_lt_number_of_month_lt {d e : Day} (hyear : d.year = e.year)
    (h : d.month < e.month) : d.number < e.number := by
  have hmonths : daysBeforeMonth e.year (d.month + 1) ≤ daysBeforeMonth e.year e.month :=
    daysBeforeMonth_mono e.year h
  have hd := d.day_le
  have he := e.day_pos
  rw [daysBeforeMonth] at hmonths
  rw [number, number, hyear] at *
  omega

theorem number_lt_number_of_lt {d e : Day} (h : d < e) : d.number < e.number := by
  have hkey : 10000 * d.year + 100 * d.month + d.day < 10000 * e.year + 100 * e.month + e.day := h
  have hd := d.day_le_31
  have he := e.day_le_31
  have hdm := d.month_bounds
  have hem := e.month_bounds
  by_cases hyear : d.year < e.year
  · exact number_lt_number_of_year_lt hyear
  · have hsame : d.year = e.year := by omega
    by_cases hmonth : d.month < e.month
    · exact number_lt_number_of_month_lt hsame hmonth
    · have hsameMonth : d.month = e.month := by omega
      rw [number, number, hsame, hsameMonth]
      omega

theorem number_le_number_of_le {d e : Day} (h : d ≤ e) : d.number ≤ e.number := by
  by_cases hlt : d < e
  · exact Nat.le_of_lt (number_lt_number_of_lt hlt)
  · have hkey : d.key = e.key := Nat.le_antisymm h (Nat.le_of_not_lt hlt)
    rw [key_injective hkey]

/-- **The order of days is the order in time.** -/
theorem number_lt_number {d e : Day} : d.number < e.number ↔ d < e := by
  constructor
  · intro h
    by_contra hlt
    exact Nat.not_lt.2 (number_le_number_of_le (not_lt.1 hlt)) h
  · exact number_lt_number_of_lt

/-! ## All days -/

/-- **No day is left out.** The years 0000 to 9999 have 3652425 days. -/
theorem exists_number_eq {n : Nat} (hpos : 1 ≤ n) (hle : n ≤ 3652425) :
    ∃ d : Day, d.number = n := by
  rw [← daysBeforeYear_tenThousand] at hle
  obtain ⟨year, hyear, hafterYear, hinYear⟩ :=
    exists_between_sums daysBeforeYear rfl hpos hle
  have hrest : n - daysBeforeYear year ≤ daysBeforeMonth year 13 := by
    rw [daysBeforeYear] at hinYear
    rw [daysBeforeMonth_thirteen]
    omega
  obtain ⟨month, _, hafterMonth, hinMonth⟩ :=
    exists_between_sums (daysBeforeMonth year) rfl (by omega) hrest
  rw [daysBeforeMonth] at hinMonth
  let d : Day := ⟨year, month, n - daysBeforeYear year - daysBeforeMonth year month, by omega,
    by omega, by omega⟩
  have hnumber : d.number = daysBeforeYear year + daysBeforeMonth year month +
      (n - daysBeforeYear year - daysBeforeMonth year month) := rfl
  exact ⟨d, by omega⟩

end Day
end BillingQuery
