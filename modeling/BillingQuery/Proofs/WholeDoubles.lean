import BillingQuery.Query.Compile
import BillingQuery.Sql.Truth
import Mathlib.Tactic.ByContra
import Mathlib.Tactic.SplitIfs

/-!
# Whole numbers among the doubles

**Main result (`exists_ofInt?`).** An integer of magnitude at most `2^53` is a double: the nearest
one has its value exactly. Hence the store, which compares an integer with a double exactly, and a
comparison of doubles agree on such integers.
-/

namespace BillingQuery

namespace Binary64

/-! ## Rounding what needs none -/

theorem roundHalfEven_mul (n : Nat) {den : Nat} (h : 0 < den) :
    roundHalfEven (n * den) den = n := by
  simp [roundHalfEven, Nat.mul_div_cancel n h, Nat.mul_mod_left, h]

theorem bitLength_of_bounds {n k : Nat} (hlow : 2 ^ k ≤ n) (hhigh : n < 2 ^ (k + 1)) :
    bitLength n = k + 1 := by
  have hpos : 0 < 2 ^ k := Nat.two_pow_pos k
  have hn : n ≠ 0 := by omega
  rw [bitLength, if_neg hn, (Nat.log2_eq_iff hn).2 ⟨hlow, hhigh⟩]

/-- A ratio that is a full coefficient shifted left is that double. -/
theorem ofRatio?_of_shifted {negative : Bool} {num coefficient shift : Nat}
    (hnum : num * 2 ^ 1074 = coefficient * 2 ^ shift) (hlow : 2 ^ 52 ≤ coefficient)
    (hhigh : coefficient < 2 ^ 53) (hshift : shift ≤ 2045) :
    ofRatio? negative num 1 =
      some ⟨negative, coefficient, shift, hhigh, hshift, Or.inr hlow⟩ := by
  have hlength : bitLength (coefficient * 2 ^ shift) = 52 + shift + 1 := by
    apply bitLength_of_bounds
    · rw [Nat.pow_add]
      exact Nat.mul_le_mul_right _ hlow
    · rw [show 52 + shift + 1 = 53 + shift from by clear hnum; omega, Nat.pow_add]
      exact Nat.mul_lt_mul_of_pos_right hhigh (Nat.two_pow_pos shift)
  have hexcess : 52 + shift + 1 - 53 = shift := by clear hnum; omega
  have hround : roundHalfEven (coefficient * 2 ^ shift) (2 ^ shift) = coefficient :=
    roundHalfEven_mul _ (Nat.two_pow_pos shift)
  unfold ofRatio?
  rw [hnum]
  dsimp only
  rw [Nat.div_one, Nat.one_mul, hlength, hexcess, hround, if_neg (Nat.ne_of_lt hhigh), ofParts?,
    dif_pos ⟨hhigh, hshift, Or.inr hlow⟩]

/-- A positive natural number up to `2^53`, shifted to a full coefficient. -/
theorem exists_shifted {n : Nat} (places : Nat) (hpos : 0 < n) (hn : n ≤ 2 ^ 53)
    (hplaces : 52 ≤ places) :
    ∃ coefficient shift, n * 2 ^ places = coefficient * 2 ^ shift ∧ 2 ^ 52 ≤ coefficient ∧
      coefficient < 2 ^ 53 ∧ shift ≤ places + 1 := by
  have hne : n ≠ 0 := by omega
  have hlow : 2 ^ n.log2 ≤ n := Nat.log2_self_le hne
  have hhigh : n < 2 ^ (n.log2 + 1) := Nat.lt_log2_self
  by_cases hk : n.log2 ≤ 52
  · refine ⟨n * 2 ^ (52 - n.log2), n.log2 + (places - 52), ?_, ?_, ?_, by omega⟩
    · rw [Nat.mul_assoc, ← Nat.pow_add]
      congr 2
      omega
    · calc 2 ^ 52 = 2 ^ n.log2 * 2 ^ (52 - n.log2) := by
            rw [← Nat.pow_add]
            congr 1
            omega
        _ ≤ n * 2 ^ (52 - n.log2) := Nat.mul_le_mul_right _ hlow
    · calc n * 2 ^ (52 - n.log2) < 2 ^ (n.log2 + 1) * 2 ^ (52 - n.log2) :=
            Nat.mul_lt_mul_of_pos_right hhigh (Nat.two_pow_pos _)
        _ = 2 ^ 53 := by
            rw [← Nat.pow_add]
            congr 1
            omega
  · -- Only the greatest number has more than 53 digits.
    have h53 : 2 ^ 53 ≤ n :=
      Nat.le_trans (Nat.pow_le_pow_right (by decide) (by omega)) hlow
    obtain rfl : n = 2 ^ 53 := Nat.le_antisymm hn h53
    refine ⟨2 ^ 52, places + 1, ?_, Nat.le_refl _, by decide, Nat.le_refl _⟩
    have hpow : 2 ^ 53 = 2 ^ 52 * 2 := Nat.pow_succ 2 52
    rw [Nat.pow_succ 2 places, Nat.mul_comm (2 ^ places) 2, ← Nat.mul_assoc, ← hpow]

theorem exists_ofRatio? (negative : Bool) {n : Nat} (hn : n ≤ 2 ^ 53) :
    ∃ x, ofRatio? negative n 1 = some x ∧ x.negative = negative ∧ x.magnitude = n * 2 ^ 1074 := by
  rcases Nat.eq_zero_or_pos n with rfl | hpos
  · refine ⟨⟨negative, 0, 0, by decide, by decide, Or.inl rfl⟩, ?_, rfl, ?_⟩
    · simp only [ofRatio?, Nat.zero_mul]
      rfl
    · simp only [magnitude, Nat.zero_mul]
  · obtain ⟨coefficient, shift, heq, hlow, hhigh, hshift⟩ :=
      exists_shifted 1074 hpos hn (by decide)
    have hshift' : shift ≤ 2045 := Nat.le_trans hshift (by decide)
    exact ⟨_, ofRatio?_of_shifted heq hlow hhigh hshift', rfl, heq.symm⟩

/-- **Small integers are doubles.** The nearest double to an integer of magnitude at most `2^53` has
the integer's value. -/
theorem exists_ofInt? {n : Int} (hn : n.natAbs ≤ 2 ^ 53) :
    ∃ x, ofInt? n = some x ∧ x.units = n * 2 ^ 1074 := by
  obtain ⟨x, hx, hnegative, hmagnitude⟩ := exists_ofRatio? (decide (n < 0)) hn
  refine ⟨x, hx, ?_⟩
  have hunit : ((2 ^ 1074 : Nat) : Int) = 2 ^ 1074 := Int.natCast_pow 2 1074
  rewrite [units, hnegative, hmagnitude, Int.natCast_mul, hunit]
  by_cases h : n < 0
  · have habs : (n.natAbs : Int) = -n := by clear hmagnitude; omega
    rw [if_pos (decide_eq_true h), habs, Int.neg_mul, Int.neg_neg]
  · have habs : (n.natAbs : Int) = n := by clear hmagnitude; omega
    rw [if_neg (by simpa using h), habs]

/-- A double whose value is an integer is recognised as one. -/
theorem toInt?_of_units {x : Binary64} {n : Int} (h : x.units = n * 2 ^ 1074) :
    x.toInt? = some n := by
  unfold toInt?
  unfold units at h
  have hunit : ((2 ^ 1074 : Nat) : Int) = 2 ^ 1074 := Int.natCast_pow 2 1074
  rewrite [← hunit] at h
  have hpos : 0 < 2 ^ 1074 := Nat.two_pow_pos 1074
  -- The power is a name from here on, so that nothing computes it.
  generalize 2 ^ 1074 = unit at h hpos
  have hmagnitude : x.magnitude = n.natAbs * unit := by
    have habs := congrArg Int.natAbs h
    rw [Int.natAbs_mul, Int.natAbs_natCast] at habs
    split_ifs at habs
    · rwa [Int.natAbs_neg, Int.natAbs_natCast] at habs
    · rwa [Int.natAbs_natCast] at habs
  have hsign : (if x.negative then -(n.natAbs : Int) else n.natAbs) = n := by
    have hunit : (0 : Int) < unit := Int.natCast_pos.2 hpos
    split_ifs at h ⊢
    · have hn : n ≤ 0 := by
        by_contra hn
        have := Int.mul_pos (Int.not_le.1 hn) hunit
        omega
      omega
    · have hn : 0 ≤ n := by
        by_contra hn
        have := Int.mul_neg_of_neg_of_pos (Int.not_le.1 hn) hunit
        omega
      omega
  rw [hmagnitude, Nat.mul_mod_left, if_pos rfl, Nat.mul_div_cancel _ hpos]
  exact congrArg some hsign

end Binary64

/-! ## Comparing -/

/-- A relation of the order of two values is the comparison of the values. -/
theorem Comparison.relation_holds (c : Comparison) (x y : Binary64) :
    c.relation.holds (compare x.units y.units) = c.holds x y := by
  rw [Bool.eq_iff_iff]
  cases c with
  | eq => simp [relation, holds, Sql.Relation.holds, Binary64.sameValue]
  | gt => simp [relation, holds, Sql.Relation.holds, Binary64.lt_def, Int.compare_eq_gt]
  | lt => simp [relation, holds, Sql.Relation.holds, Binary64.lt_def, Int.compare_eq_lt]
  | gte => simp [relation, holds, Sql.Relation.holds, Binary64.le_def, Int.compare_eq_lt]
  | lte => simp [relation, holds, Sql.Relation.holds, Binary64.le_def, Int.compare_eq_gt]

end BillingQuery
