import BillingQuery.Proofs.WholeDoubles

/-!
# The double nearest to an integer

**Main result (`Binary64.exists_ofInt?_of_int64`).** A 64-bit integer has a nearest double, and no
double is strictly between the two. So rounding an integer may make it equal to a double, but never
takes it past one (`Binary64.IsNearestTo.compare_of_ne`).

**Shape of the proof.** The integer is rounded to a multiple of a power of two, and it has 53 digits
above that power. A double is a multiple of the power too, and then rounding stops at it, or it is
smaller than all numbers with so many digits.
-/

namespace BillingQuery.Binary64

/-! ## Rounding to multiples -/

variable {m n den k : Nat}

theorem le_roundHalfEven (hden : 0 < den) (h : k * den ≤ n) : k ≤ roundHalfEven n den := by
  have hquotient : k ≤ n / den := (Nat.le_div_iff_mul_le hden).2 h
  unfold roundHalfEven
  dsimp only
  split_ifs <;> omega

theorem roundHalfEven_le (hden : 0 < den) (h : n ≤ k * den) : roundHalfEven n den ≤ k := by
  have hquotient : n / den ≤ k := Nat.div_le_of_le_mul (Nat.mul_comm k den ▸ h)
  rcases Nat.eq_or_lt_of_le hquotient with heq | hlt
  · have hsplit := Nat.div_add_mod n den
    rw [heq, Nat.mul_comm] at hsplit
    have hremainder : n % den = 0 := by omega
    have hround : roundHalfEven n den = n / den := by
      unfold roundHalfEven
      dsimp only
      rw [hremainder, if_pos (by omega)]
    rw [hround]
    exact hquotient
  · unfold roundHalfEven
    dsimp only
    split_ifs <;> omega

theorem lt_two_pow_bitLength (n : Nat) : n < 2 ^ bitLength n := by
  unfold bitLength
  split_ifs with h
  · rw [h]
    exact Nat.one_pos
  · exact Nat.lt_log2_self

theorem two_pow_le_of_lt_bitLength (h : k < bitLength n) : 2 ^ k ≤ n := by
  unfold bitLength at h
  split_ifs at h with hn
  · exact absurd h (Nat.not_lt_zero k)
  · exact Nat.le_trans (Nat.pow_le_pow_right (by decide) (Nat.le_of_lt_succ h))
      (Nat.log2_self_le hn)

/-! ## Magnitudes -/

/-- The shift of the double nearest to `m` units. -/
def nearestShift (m : Nat) : Nat := bitLength m - 53

/-- The magnitude of the double nearest to `m` units. -/
def nearestMagnitude (m : Nat) : Nat :=
  roundHalfEven m (2 ^ nearestShift m) * 2 ^ nearestShift m

/-- A double is a multiple of the power to which `m` is rounded, or below all that are rounded to
it. -/
theorem magnitude_cases (x : Binary64) (m : Nat) :
    (∃ k, x.magnitude = k * 2 ^ nearestShift m) ∨
      x.magnitude < 2 ^ (52 + nearestShift m) ∧ 2 ^ (52 + nearestShift m) ≤ m := by
  by_cases hshift : nearestShift m ≤ x.shift
  · refine Or.inl ⟨x.coefficient * 2 ^ (x.shift - nearestShift m), ?_⟩
    rw [magnitude, Nat.mul_assoc, ← Nat.pow_add, Nat.sub_add_cancel hshift]
  · refine Or.inr ⟨?_, two_pow_le_of_lt_bitLength (by unfold nearestShift at hshift ⊢; omega)⟩
    calc x.magnitude < 2 ^ 53 * 2 ^ x.shift :=
          Nat.mul_lt_mul_of_pos_right x.coefficient_lt (Nat.two_pow_pos _)
      _ = 2 ^ (53 + x.shift) := (Nat.pow_add 2 53 x.shift).symm
      _ ≤ 2 ^ (52 + nearestShift m) := Nat.pow_le_pow_right (by decide) (by omega)

theorem nearestMagnitude_le {x : Binary64} (h : m ≤ x.magnitude) :
    nearestMagnitude m ≤ x.magnitude := by
  rcases magnitude_cases x m with ⟨k, hk⟩ | ⟨hlt, hle⟩
  · rw [hk] at h ⊢
    exact Nat.mul_le_mul_right _ (roundHalfEven_le (Nat.two_pow_pos _) h)
  · omega

theorem le_nearestMagnitude {x : Binary64} (h : x.magnitude ≤ m) :
    x.magnitude ≤ nearestMagnitude m := by
  rcases magnitude_cases x m with ⟨k, hk⟩ | ⟨hlt, hle⟩
  · rw [hk] at h ⊢
    exact Nat.mul_le_mul_right _ (le_roundHalfEven (Nat.two_pow_pos _) h)
  · rw [Nat.pow_add] at hle
    have hround := Nat.mul_le_mul_right (2 ^ nearestShift m)
      (le_roundHalfEven (Nat.two_pow_pos _) hle)
    rw [← Nat.pow_add] at hround
    exact Nat.le_trans (Nat.le_of_lt hlt) hround

/-- Rounded to nearest, a magnitude has the digits of a coefficient. -/
theorem coefficient_cases (m : Nat) :
    roundHalfEven m (2 ^ nearestShift m) ≤ 2 ^ 53 ∧
      (nearestShift m = 0 ∨ 2 ^ 52 ≤ roundHalfEven m (2 ^ nearestShift m)) := by
  have hpos := Nat.two_pow_pos (nearestShift m)
  constructor
  · refine roundHalfEven_le hpos ?_
    rw [← Nat.pow_add]
    exact Nat.le_trans (Nat.le_of_lt (lt_two_pow_bitLength m))
      (Nat.pow_le_pow_right (by decide) (by unfold nearestShift; omega))
  · rcases Nat.eq_zero_or_pos (nearestShift m) with hzero | hshift
    · exact Or.inl hzero
    · refine Or.inr (le_roundHalfEven hpos ?_)
      rw [← Nat.pow_add]
      exact two_pow_le_of_lt_bitLength (by unfold nearestShift at hshift ⊢; omega)

theorem ofParts?_eq_some {negative : Bool} {coefficient shift : Nat} (hc : coefficient < 2 ^ 53)
    (hs : shift ≤ 2045) (hn : shift = 0 ∨ 2 ^ 52 ≤ coefficient) :
    ∃ x, ofParts? negative coefficient shift = some x ∧ x.negative = negative ∧
      x.magnitude = coefficient * 2 ^ shift :=
  ⟨⟨negative, coefficient, shift, hc, hs, hn⟩, dif_pos ⟨hc, hs, hn⟩, rfl, rfl⟩

/-- A number well inside of the range has a nearest double. -/
theorem exists_ofRatio?_nearest (negative : Bool) (num : Nat)
    (hrange : nearestShift (num * 2 ^ 1074) < 2045) :
    ∃ x, ofRatio? negative num 1 = some x ∧ x.negative = negative ∧
      x.magnitude = nearestMagnitude (num * 2 ^ 1074) := by
  unfold ofRatio? nearestMagnitude
  dsimp only
  rw [Nat.div_one, Nat.one_mul]
  generalize num * 2 ^ 1074 = m at hrange ⊢
  obtain ⟨hle, hnormal⟩ := coefficient_cases m
  rw [← nearestShift]
  by_cases hfull : roundHalfEven m (2 ^ nearestShift m) = 2 ^ 53
  · obtain ⟨x, hx, hsign, hmagnitude⟩ := @ofParts?_eq_some negative (2 ^ 52) (nearestShift m + 1)
      (by decide) hrange (Or.inr (Nat.le_refl _))
    refine ⟨x, by rw [if_pos hfull, hx], hsign, ?_⟩
    rw [hmagnitude, hfull, Nat.pow_succ 2 52, Nat.mul_assoc, Nat.pow_succ 2 (nearestShift m),
      Nat.mul_comm 2]
  · rw [if_neg hfull]
    exact ofParts?_eq_some (Nat.lt_of_le_of_ne hle hfull) (Nat.le_of_lt hrange) hnormal

/-! ## Integers -/

/-- No double is strictly between the integer and `x`. -/
structure IsNearestTo (x : Binary64) (n : Int) : Prop where
  le : ∀ y : Binary64, n * 2 ^ 1074 ≤ y.units → x.units ≤ y.units
  ge : ∀ y : Binary64, y.units ≤ n * 2 ^ 1074 → y.units ≤ x.units

theorem bitLength_mul_two_pow_le {a b : Nat} (h : n < 2 ^ a) : bitLength (n * 2 ^ b) ≤ a + b := by
  by_contra hlong
  have hle := two_pow_le_of_lt_bitLength (Nat.not_le.1 hlong)
  rw [Nat.pow_add] at hle
  exact absurd (Nat.le_of_mul_le_mul_right hle (Nat.two_pow_pos b)) (Nat.not_le.2 h)

/-- The value of a double has its magnitude, and so has the value of an integer. -/
theorem units_cases (x : Binary64) :
    (x.negative = true ∧ x.units = -(x.magnitude : Int)) ∨
      (x.negative = false ∧ x.units = x.magnitude) := by
  unfold units
  cases x.negative with
  | false => exact Or.inr ⟨rfl, rfl⟩
  | true => exact Or.inl ⟨rfl, rfl⟩

theorem mul_unit_cases (n : Int) :
    (n < 0 ∧ n * 2 ^ 1074 = -((n.natAbs * 2 ^ 1074 : Nat) : Int)) ∨
      (¬ n < 0 ∧ n * 2 ^ 1074 = ((n.natAbs * 2 ^ 1074 : Nat) : Int)) := by
  have hunit : ((2 ^ 1074 : Nat) : Int) = 2 ^ 1074 := Int.natCast_pow 2 1074
  rewrite [Int.natCast_mul, hunit, ← Int.neg_mul]
  by_cases h : n < 0
  · have habs : -(n.natAbs : Int) = n := by clear hunit; omega
    exact Or.inl ⟨h, by rw [habs]⟩
  · have habs : (n.natAbs : Int) = n := by clear hunit; omega
    exact Or.inr ⟨h, by rw [habs]⟩

/-- **Rounding.** A 64-bit integer has a nearest double. -/
theorem exists_ofInt?_of_int64 {n : Int} (hn : n.natAbs ≤ 2 ^ 63) :
    ∃ x, ofInt? n = some x ∧ x.IsNearestTo n := by
  have hlength : bitLength (n.natAbs * 2 ^ 1074) ≤ 64 + 1074 :=
    @bitLength_mul_two_pow_le n.natAbs 64 1074 (Nat.lt_of_le_of_lt hn (by decide))
  obtain ⟨x, hx, hnegative, hmagnitude⟩ :=
    exists_ofRatio?_nearest (decide (n < 0)) n.natAbs (by unfold nearestShift; omega)
  have hsides (y : Binary64) : (n * 2 ^ 1074 ≤ y.units → x.units ≤ y.units) ∧
      (y.units ≤ n * 2 ^ 1074 → y.units ≤ x.units) := by
    have hle : n.natAbs * 2 ^ 1074 ≤ y.magnitude → x.magnitude ≤ y.magnitude :=
      hmagnitude ▸ nearestMagnitude_le
    have hge : y.magnitude ≤ n.natAbs * 2 ^ 1074 → y.magnitude ≤ x.magnitude :=
      hmagnitude ▸ le_nearestMagnitude
    have hinteger := mul_unit_cases n
    have hunits := x.units_cases
    have hother := y.units_cases
    rw [hnegative, decide_eq_true_eq, decide_eq_false_iff_not] at hunits
    clear hmagnitude hlength
    generalize n.natAbs * 2 ^ 1074 = m at hle hge hinteger
    generalize n * 2 ^ 1074 = value at hinteger ⊢
    -- Of a negative integer the magnitudes are ordered the other way.
    omega
  exact ⟨x, hx, fun y => (hsides y).1, fun y => (hsides y).2⟩

/-- Unless the integer is rounded to the double, the two comparisons with it are one. -/
theorem IsNearestTo.compare_of_ne {x y : Binary64} {n : Int} (h : x.IsNearestTo n)
    (hne : x.units ≠ y.units) : Ord.compare x.units y.units = compareInt n y := by
  have hle := h.le y
  have hge := h.ge y
  unfold compareInt
  generalize n * 2 ^ 1074 = value at hle hge ⊢
  rcases Int.lt_trichotomy value y.units with hlt | heq | hgt
  · rw [Int.compare_eq_lt.2 hlt, Int.compare_eq_lt]
    omega
  · omega
  · rw [Int.compare_eq_gt.2 hgt, Int.compare_eq_gt]
    omega

/-- An integer that is a double is rounded to that double. -/
theorem IsNearestTo.units_eq {x y : Binary64} {n : Int} (h : x.IsNearestTo n)
    (hy : y.units = n * 2 ^ 1074) : x.units = y.units :=
  Int.le_antisymm (h.le y (Int.le_of_eq hy.symm)) (h.ge y (Int.le_of_eq hy))

end BillingQuery.Binary64
