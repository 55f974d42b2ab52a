import BillingQuery.Number.Binary64

/-!
# Numbers of 64 significant bits

A working number is a natural number below `2^64` times a power of two. What does not fit is rounded
to 64 bits, a half going to the even neighbour; the exponent has no bounds. Eleven bits more than a
double has are room for a few roundings on the way between a double and a decimal, but not for all
of them: a result that is reached in such steps may be a neighbour of the nearest double.
-/

namespace BillingQuery

/-- The number `significand * 2^exponent`. -/
structure Extended where
  significand : Nat
  exponent : Int
  significand_lt : significand < 2 ^ 64
deriving DecidableEq

namespace Extended

/-! ## Rounding -/

def ofScaled (n : Nat) (exponent : Int) : Extended :=
  let excess := Binary64.bitLength n - 64
  let rounded := Binary64.roundHalfEven n (2 ^ excess)
  -- Rounding up may give a number of 65 bits, which is then the power of two.
  if h : rounded < 2 ^ 64 then ⟨rounded, exponent + excess, h⟩
  else ⟨2 ^ 63, exponent + excess + 1, by decide⟩

/-- The number nearest to `10^places`. -/
def powerOfTen : Int → Extended
  | .ofNat n => ofScaled (10 ^ n) 0
  | .negSucc n =>
    let power := 10 ^ (n + 1)
    let shift := Binary64.bitLength power + 63
    ofScaled (Binary64.roundHalfEven (2 ^ shift) power) (-shift)

def mul (x y : Extended) : Extended :=
  ofScaled (x.significand * y.significand) (x.exponent + y.exponent)

def toBinary64? (x : Extended) (negative : Bool) : Option Binary64 :=
  Binary64.ofRatio? negative (x.significand * 2 ^ x.exponent.toNat) (2 ^ (-x.exponent).toNat)

/-! ## Exact functions -/

def ofBinary64 (x : Binary64) : Extended := ofScaled x.coefficient ((x.shift : Int) - 1074)

def isBelow (x y : Extended) : Bool :=
  x.significand * 2 ^ (x.exponent - y.exponent).toNat <
    y.significand * 2 ^ (y.exponent - x.exponent).toNat

def floor (x : Extended) : Nat :=
  x.significand * 2 ^ x.exponent.toNat / 2 ^ (-x.exponent).toNat

/-! ## Moving the decimal point -/

/-- The product with `10^places` as often as said, rounded each time. -/
def shiftTimes (places : Int) (count : Nat) (x : Extended) : Extended :=
  let power := powerOfTen places
  Nat.repeat (·.mul power) count x

/-- The point moved by so many places, a hundred at a time, then ten, then one. -/
def movePoint (places : Int) (x : Extended) : Extended :=
  let n := places.natAbs
  let sign := places.sign
  shiftTimes sign (n % 10) (shiftTimes (10 * sign) (n / 10 % 10)
    (shiftTimes (100 * sign) (n / 100) x))

/-- Moves the point by `places` while the number satisfies `p`, at most `fuel` times, and says by
how many places it has moved in all. -/
def shiftWhile (p : Extended → Bool) (places : Int) : Nat → Extended → Extended × Int
  | 0, x => (x, 0)
  | fuel + 1, x =>
    if p x then
      let (y, moved) := shiftWhile p places fuel (x.mul (powerOfTen places))
      (y, moved + places)
    else (x, 0)

end Extended
end BillingQuery
