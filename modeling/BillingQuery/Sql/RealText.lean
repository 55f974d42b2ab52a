import BillingQuery.Number.Decimal
import BillingQuery.Number.Extended

/-!
# Reals in text

The store reads a real from the text of a number, and writes one, by way of numbers of 64
significant bits. Reading keeps the leading digits that fit 64 bits and then moves the point; every
move is rounded. Writing moves the point until 18 or 19 digits stand before it, cuts off the rest,
and rounds to 15 digits. Neither gives the nearest value in every case.
-/

namespace BillingQuery.Sql

/-! ## Reading -/

def significandBound : Nat := (2 ^ 64 - 10) / 10

/-- A significand with as many of the digits after it as it takes, and their count added to
another. -/
def takeDigits (significand count : Nat) : List Char → Nat × Nat
  | [] => (significand, count)
  | c :: cs =>
    if significand < significandBound then
      takeDigits (10 * significand + Numeral.digitValue c) (count + 1) cs
    else (significand, count)

def exponentSize (cs : List Char) : Nat :=
  -- The value no longer matters from here on: it is out of range with any digits.
  cs.foldl (fun e c => if e < 10000 then 10 * e + Numeral.digitValue c else 10000) 0

/-- What follows the digits: nothing, or an exponent. -/
def readExponent? : List Char → Option Int
  | [] => some 0
  | c :: cs =>
    let (negative, ds) := Numeral.splitSign cs
    if (c = 'e' || c = 'E') && !ds.isEmpty && ds.all Char.isDigit then
      some (if negative then -exponentSize ds else exponentSize ds)
    else none

/-- The number that a text writes, with the digits that fit 64 bits. A digit that is left out
before the point raises the exponent, one after it is dropped. -/
def leadingNumeral? (cs : List Char) : Option Numeral :=
  let (negative, cs) := Numeral.splitSign cs
  let (whole, fraction, rest) := Numeral.splitPoint cs
  if whole.isEmpty && fraction.isEmpty then none
  else (readExponent? rest).map fun exponent =>
    let (significand, taken) := takeDigits 0 0 whole
    let (significand, decimals) := takeDigits significand 0 fraction
    ⟨negative, significand, exponent + (whole.length - taken : Nat) - decimals⟩

/-- Moves powers of ten from an exponent into a significand while 64 bits hold it. -/
def fillSignificand : Nat → Nat → Nat × Nat
  | 0, significand => (significand, 0)
  | exponent + 1, significand =>
    if significand < (2 ^ 64 - 1) / 10 then fillSignificand exponent (10 * significand)
    else (significand, exponent + 1)

/-- Drops at most so many zeros at the end of a significand, and says how many could not be. -/
def dropZeros : Nat → Nat → Nat × Nat
  | 0, significand => (significand, 0)
  | count + 1, significand =>
    if significand % 10 = 0 then dropZeros count (significand / 10) else (significand, count + 1)

/-- The significand, as long as can be or as short as can be, and what is left of the exponent. -/
def balance (significand : Nat) (exponent : Int) : Nat × Int :=
  if 0 ≤ exponent then
    let (s, e) := fillSignificand exponent.toNat significand
    (s, e)
  else
    let (s, e) := dropZeros exponent.natAbs significand
    (s, -e)

def largestReal : Extended := .ofScaled (2 ^ 53 - 1) 971

/-- The real as which a number is read, or `none` if it is above the largest double. -/
def readReal? (n : Numeral) : Option Binary64 :=
  if n.digits = 0 then some (Binary64.zero.withSign n.negative)
  else
    let (significand, exponent) := balance n.digits n.exponent
    let x := (Extended.ofScaled significand 0).movePoint exponent
    if largestReal.isBelow x then none else x.toBinary64? n.negative

/-! ## Writing -/

/-- The moves that bring a large number below `10^19`: places, and the power of ten down to which
the move is made. -/
def movesDown : List (Int × Int) := [(-100, 119), (-10, 29), (-1, 19)]

/-- The moves that bring a small number up to `10^17`: places, and the power of ten up to which the
move is made. -/
def movesUp : List (Int × Int) := [(100, -97), (10, 7), (1, 17)]

/-- Makes the moves in order, each while the number stands to its bound as `p` says; also the places
moved in all. No move is made more than eleven times. -/
def makeMoves (p : Extended → Extended → Bool) (moves : List (Int × Int)) (x : Extended) :
    Extended × Int :=
  moves.foldl (fun (y, moved) (places, bound) =>
    let (z, more) := Extended.shiftWhile (p · (.powerOfTen bound)) places 16 y
    (z, moved + more)) (x, 0)

/-- A number with its point moved to between `10^17` and `10^19`, and the places moved. -/
def atLargeScale (x : Extended) : Extended × Int :=
  let (y, down) := makeMoves (fun y bound => !y.isBelow bound) movesDown x
  let (z, up) := makeMoves Extended.isBelow movesUp y
  (z, down + up)

/-- The leading digits of a real, rounded to so many, a half upwards. -/
def writtenDigits (count : Nat) (x : Binary64) : Decimal :=
  if x.coefficient = 0 then .zero
  else
    let (y, moved) := atLargeScale (.ofBinary64 x)
    let n := y.floor
    let excess := Numeral.digitCount n - count
    .ofNat ((n + 10 ^ excess / 2) / 10 ^ excess) (excess - moved)

/-- The layout of reals as text: up to 15 digits before the point, always a fraction, and two
exponent digits at least. -/
def realLayout : DecimalLayout := ⟨-3, 15, true, 2⟩

/-- The text of a real has 15 significant digits. Zero has no sign. -/
def realText (x : Binary64) : String :=
  realLayout.render (x.negative && x.coefficient != 0) (writtenDigits 15 x)

def infinityText (negative : Bool) : String := if negative then "-Inf" else "Inf"

end BillingQuery.Sql
