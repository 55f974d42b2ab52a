/-!
# Finite doubles

Every finite 64-bit float is an integer number of units of `2^-1074`, namely a coefficient below
`2^53` shifted left by at most 2045 places. A double is kept in that form, with the sign apart
because zero has two. Comparing doubles is then comparing integers (`Binary64.units`), and
rounding is division of natural numbers with a half going to the even neighbour (`roundHalfEven`).

Infinities and NaN are no values here: a function that would leave the range answers `none`.
-/

namespace BillingQuery

-- The programs run without Mathlib and the proofs with it. Mathlib prefers its power in a monoid to
-- the power of the core library; here `2 ^ n` is the core library's in both.
attribute [instance (high), default_instance (high + 1)] instPowNat

/-- A finite double: `± coefficient * 2^(shift - 1074)`, in the one form where only the least shift
takes a coefficient below `2^52`. -/
structure Binary64 where
  negative : Bool
  coefficient : Nat
  shift : Nat
  coefficient_lt : coefficient < 2 ^ 53
  shift_le : shift ≤ 2045
  normal : shift = 0 ∨ 2 ^ 52 ≤ coefficient
deriving DecidableEq

namespace Binary64

/-- The double with these parts, if they are in normal form and in range. -/
def ofParts? (negative : Bool) (coefficient shift : Nat) : Option Binary64 :=
  if h : coefficient < 2 ^ 53 ∧ shift ≤ 2045 ∧ (shift = 0 ∨ 2 ^ 52 ≤ coefficient) then
    some ⟨negative, coefficient, shift, h.1, h.2.1, h.2.2⟩
  else
    none

def zero : Binary64 := ⟨false, 0, 0, by decide, by decide, .inl rfl⟩

instance : Inhabited Binary64 := ⟨zero⟩

/-- The absolute value in units of `2^-1074`. -/
def magnitude (x : Binary64) : Nat := x.coefficient * 2 ^ x.shift

/-- The value in units of `2^-1074`. Both zeros have none. -/
def units (x : Binary64) : Int := if x.negative then -(x.magnitude : Int) else x.magnitude

def withSign (x : Binary64) (negative : Bool) : Binary64 := { x with negative := negative }

/-! ## Order -/

instance : LE Binary64 := ⟨fun x y => x.units ≤ y.units⟩
instance : LT Binary64 := ⟨fun x y => x.units < y.units⟩

theorem le_def (x y : Binary64) : x ≤ y ↔ x.units ≤ y.units := Iff.rfl
theorem lt_def (x y : Binary64) : x < y ↔ x.units < y.units := Iff.rfl

instance (x y : Binary64) : Decidable (x ≤ y) := inferInstanceAs (Decidable (x.units ≤ y.units))
instance (x y : Binary64) : Decidable (x < y) := inferInstanceAs (Decidable (x.units < y.units))

def sameValue (x y : Binary64) : Bool := x.units == y.units

/-! ## Rounding -/

/-- The natural number nearest to `num / den`; of two, the even one. -/
def roundHalfEven (num den : Nat) : Nat :=
  let q := num / den
  let r := num % den
  if 2 * r < den then q
  else if den < 2 * r then q + 1
  else if q % 2 = 0 then q else q + 1

/-- The number of binary digits of `n`, none for zero. -/
def bitLength (n : Nat) : Nat := if n = 0 then 0 else n.log2 + 1

/-- The double nearest to `num / den`, or `none` from half a step above the largest double on. -/
def ofRatio? (negative : Bool) (num den : Nat) : Option Binary64 :=
  let scaled := num * 2 ^ 1074
  let shift := bitLength (scaled / den) - 53
  let coefficient := roundHalfEven scaled (den * 2 ^ shift)
  -- Rounding up may give one bit too many.
  if coefficient = 2 ^ 53 then ofParts? negative (2 ^ 52) (shift + 1)
  else ofParts? negative coefficient shift

def ofNat? (n : Nat) : Option Binary64 := ofRatio? false n 1

/-- The double nearest to `n`; zero is positive. -/
def ofInt? (n : Int) : Option Binary64 := ofRatio? (decide (n < 0)) n.natAbs 1

def mul? (x y : Binary64) : Option Binary64 :=
  -- Both magnitudes are in units of `2^-1074`.
  ofRatio? (x.negative != y.negative) (x.magnitude * y.magnitude) (2 ^ 2148)

def div? (x y : Binary64) : Option Binary64 :=
  if y.magnitude = 0 then none else ofRatio? (x.negative != y.negative) x.magnitude y.magnitude

def toInt? (x : Binary64) : Option Int :=
  if x.magnitude % 2 ^ 1074 = 0 then
    let n : Int := (x.magnitude / 2 ^ 1074 : Nat)
    some (if x.negative then -n else n)
  else none

/-- The order of `n` and a double, exact for every integer. -/
def compareInt (n : Int) (x : Binary64) : Ordering := compare (n * 2 ^ 1074) x.units

end Binary64
end BillingQuery
