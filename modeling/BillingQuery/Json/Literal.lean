import BillingQuery.Json.Basic

/-!
# Number literals

A literal without fraction and exponent is an integer if it fits 64 bits, with a sign below zero
and without one above; `-0` is a double. Every other literal is a double, computed in two roundings:
the leading digits that fit 64 bits are rounded to a double, which is then multiplied or divided
once by a power of ten. A literal beyond the doubles is refused.
-/

namespace BillingQuery.Json

/-- The parts of a literal: digits before the point, digits after it, and the exponent. -/
structure Literal where
  negative : Bool
  whole : List Char
  fraction : Option (List Char)
  exponent : Option Int

namespace Literal

/-- Digits before a point: `0`, or a first digit other than zero and any others. -/
def readWhole : List Char → Option (List Char × List Char)
  | '0' :: c :: rest => if c.isDigit then none else some (['0'], c :: rest)
  | cs =>
    let ds := cs.takeWhile Char.isDigit
    if ds.isEmpty then none else some (ds, cs.dropWhile Char.isDigit)

/-- A point must be followed by a digit. -/
def readFraction : List Char → Option (Option (List Char) × List Char)
  | '.' :: cs =>
    let ds := cs.takeWhile Char.isDigit
    if ds.isEmpty then none else some (some ds, cs.dropWhile Char.isDigit)
  | cs => some (none, cs)

/-- An exponent mark must be followed by a digit, perhaps after a sign. -/
def readExponent : List Char → Option (Option Int × List Char)
  | [] => some (none, [])
  | c :: cs =>
    if c = 'e' || c = 'E' then
      let (negative, cs) := Numeral.splitSign cs
      let ds := cs.takeWhile Char.isDigit
      if ds.isEmpty then none
      else
        let n : Int := Numeral.ofDigits ds
        some (some (if negative then -n else n), cs.dropWhile Char.isDigit)
    else some (none, c :: cs)

def read (cs : List Char) : Option (Literal × List Char) := do
  let (negative, cs) := match cs with
    | '-' :: cs => (true, cs)
    | cs => (false, cs)
  let (whole, cs) ← readWhole cs
  let (fraction, cs) ← readFraction cs
  let (exponent, cs) ← readExponent cs
  return (⟨negative, whole, fraction, exponent⟩, cs)

/-- Appends digits to `n` while the number stays below `2^64`; also the digits left out. -/
def significand (n : Nat) : List Char → Nat × List Char
  | [] => (n, [])
  | c :: cs =>
    let m := 10 * n + Numeral.digitValue c
    if m < 2 ^ 64 then significand m cs else (n, c :: cs)

def powerOfTen? (k : Nat) : Option Binary64 := Binary64.ofNat? (10 ^ k)

/-- The double nearest to `10^308`, the largest power of ten among the doubles, is the largest
factor used. A smaller exponent divides by it first; after two such steps nothing is left. -/
def scale? (x : Binary64) (e : Int) : Option Binary64 :=
  if x.coefficient = 0 then some x
  else if 0 ≤ e then
    if e ≤ 308 then do x.mul? (← powerOfTen? e.toNat) else none
  else if -308 ≤ e then do x.div? (← powerOfTen? (-e).toNat)
  else if -616 ≤ e then do
    (← x.div? (← powerOfTen? 308)).div? (← powerOfTen? (-e - 308).toNat)
  else some Binary64.zero

def toBinary64? (l : Literal) : Option Binary64 := do
  let (n, left) := significand 0 l.whole
  let fraction := l.fraction.getD []
  let (n, unused) := significand n fraction
  let e : Int := left.length - (fraction.length - unused.length : Nat) + l.exponent.getD 0
  let x ← scale? (← Binary64.ofNat? n) e
  return x.withSign l.negative

def toNumber? (l : Literal) : Option JsonNumber :=
  let n := Numeral.ofDigits l.whole
  if l.fraction.isNone && l.exponent.isNone && !l.negative && n < 2 ^ 64 then
    some (.integer n)
  else if l.fraction.isNone && l.exponent.isNone && l.negative && n ≠ 0 && n ≤ 2 ^ 63 then
    some (.integer (-n))
  else l.toBinary64?.map .real

end Literal
end BillingQuery.Json
