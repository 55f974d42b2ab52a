import BillingQuery.Number.Numeral

/-!
# Doubles in decimal

`Decimal.shortest` gives the fewest decimal digits that read back as the same double, of several
the nearest to it. It looks at one decimal grid after the other, from one digit up, and on each
only at the two neighbours of the value: if any point of a grid rounds to the double, one of these
does.

How digits are laid out as text (where positional notation ends, how an exponent is written) is a
`DecimalLayout`.
-/

namespace BillingQuery

/-- The number `0.d₁d₂…dₙ * 10^point`. -/
structure Decimal where
  digits : List Char
  point : Int
deriving DecidableEq

namespace Decimal

def zero : Decimal := ⟨['0'], 1⟩

def ofNat (n : Nat) (k : Int) : Decimal :=
  let ds := Nat.toDigits 10 n
  ⟨(ds.reverse.dropWhile (· == '0')).reverse, k + ds.length⟩

/-- The `point` of a double other than zero: the value is at least `10^(point - 1)` and below
`10^point`. -/
def pointOf (x : Binary64) : Int :=
  Numeral.digitCount (x.magnitude * 10 ^ 324 / 2 ^ 1074) - 324

/-- The multiple of `10^k` nearest to `x` that rounds to `x`, if one does, as a number of steps.
Distances are taken in quarters of `2^-1074`, in which the halfway points between neighbouring
doubles are whole. -/
def onGrid? (x : Binary64) (k : Int) : Option Nat :=
  let step := 2 ^ 1076 * 10 ^ k.toNat
  let scale := 10 ^ (-k).toNat
  let value := 4 * x.magnitude * scale
  -- Below a power of two the doubles are twice as dense.
  let gapBelow := if x.coefficient = 2 ^ 52 && x.shift != 0 then 1 else 2
  let low := value - gapBelow * 2 ^ x.shift * scale
  let high := value + 2 * 2 ^ x.shift * scale
  let inside (n : Nat) : Bool :=
    -- A halfway point is read as the double with the even coefficient.
    if x.coefficient % 2 = 0 then low ≤ n * step && n * step ≤ high
    else low < n * step && n * step < high
  let below := value / step
  let rest := value % step
  let above := below + 1
  match inside below, inside above with
  | true, true =>
    some (if 2 * rest < step || (2 * rest = step && below % 2 = 0) then below else above)
  | true, false => some below
  | false, true => some above
  | false, false => none

/-- The fewest digits that read back as `x`, of those the nearest. -/
def shortest (x : Binary64) : Decimal :=
  if x.coefficient = 0 then zero
  else
    -- Seventeen digits always read back.
    let point := pointOf x
    let grids := (List.range 17).map fun i => point - (i + 1 : Nat)
    (grids.findSome? fun k => (onGrid? x k).map fun n => ofNat n k).getD zero

end Decimal

/-- How a decimal is written: positionally while the point is in the given range, else with an
exponent. A positional text always has a fraction. -/
structure DecimalLayout where
  leastPoint : Int
  greatestPoint : Int
  /-- A lone digit before an exponent is written with `.0`. -/
  fullFraction : Bool
  /-- The least count of exponent digits. -/
  exponentWidth : Nat

namespace DecimalLayout

def positional (d : Decimal) : List Char :=
  if d.point ≤ 0 then '0' :: '.' :: (List.replicate (-d.point).toNat '0' ++ d.digits)
  else
    let n := d.point.toNat
    let fraction := d.digits.drop n
    d.digits.take n ++ List.replicate (n - d.digits.length) '0' ++
      '.' :: (if fraction.isEmpty then ['0'] else fraction)

/-- One digit before the point, and an exponent with its sign. -/
def scientific (l : DecimalLayout) (d : Decimal) : List Char :=
  let exponent := d.point - 1
  let fraction := d.digits.drop 1
  let ds := Nat.toDigits 10 exponent.natAbs
  d.digits.take 1 ++
    (if fraction.isEmpty then (if l.fullFraction then ['.', '0'] else []) else '.' :: fraction) ++
    'e' :: (if exponent < 0 then '-' else '+') ::
      (List.replicate (l.exponentWidth - ds.length) '0' ++ ds)

def render (l : DecimalLayout) (negative : Bool) (d : Decimal) : String :=
  let body := if l.leastPoint ≤ d.point && d.point ≤ l.greatestPoint then positional d
    else l.scientific d
  String.ofList (if negative then '-' :: body else body)

end DecimalLayout

/-- The layout of numbers in JSON: positional from `0.00001` up to 16 digits before the point. -/
def DecimalLayout.json : DecimalLayout := ⟨-4, 16, false, 1⟩

def Binary64.text (x : Binary64) : String := DecimalLayout.json.render x.negative (.shortest x)

end BillingQuery
