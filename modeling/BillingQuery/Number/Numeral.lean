import BillingQuery.Number.Binary64

/-!
# Decimal numerals

A numeral is an optional sign, digits with an optional point among them, and an optional exponent.
`Numeral.ofText?` reads exactly these texts, and `Numeral.toBinary64?` gives the double nearest to
the number written. The texts `inf`, `infinity` and `nan` name no finite number and are no numerals.
-/

namespace BillingQuery

/-- The number `± digits * 10^exponent`. -/
structure Numeral where
  negative : Bool
  digits : Nat
  exponent : Int
deriving DecidableEq

namespace Numeral

def digitValue (c : Char) : Nat := c.toNat - 48

def ofDigits (cs : List Char) : Nat := cs.foldl (fun n c => 10 * n + digitValue c) 0

/-- The decimal digits of `n`, after a minus sign if it is negative. -/
def ofInt (n : Int) : List Char :=
  if n < 0 then '-' :: Nat.toDigits 10 n.natAbs else Nat.toDigits 10 n.natAbs

def splitSign : List Char → Bool × List Char
  | '-' :: cs => (true, cs)
  | '+' :: cs => (false, cs)
  | cs => (false, cs)

def digits? (cs : List Char) : Option Nat :=
  if cs.isEmpty || !cs.all Char.isDigit then none else some (ofDigits cs)

/-- An optional sign and at least one digit. -/
def integer? (cs : List Char) : Option Int :=
  let (negative, ds) := splitSign cs
  (digits? ds).map fun n => if negative then -(n : Int) else n

/-- At least one digit, perhaps after a plus sign. -/
def natural? : List Char → Option Nat
  | '+' :: ds => digits? ds
  | ds => digits? ds

/-- What follows the digits: nothing, or an exponent. -/
def exponent? : List Char → Option Int
  | [] => some 0
  | c :: cs => if c = 'e' || c = 'E' then integer? cs else none

/-- The digits before the point, those after it, and the rest. -/
def splitPoint (cs : List Char) : List Char × List Char × List Char :=
  let whole := cs.takeWhile Char.isDigit
  match cs.dropWhile Char.isDigit with
  | '.' :: r => (whole, r.takeWhile Char.isDigit, r.dropWhile Char.isDigit)
  | r => (whole, [], r)

def ofText? (cs : List Char) : Option Numeral :=
  let (negative, cs) := splitSign cs
  let (whole, fraction, rest) := splitPoint cs
  if whole.isEmpty && fraction.isEmpty then none
  else (exponent? rest).map fun e => ⟨negative, ofDigits (whole ++ fraction), e - fraction.length⟩

def digitCount (n : Nat) : Nat := (Nat.toDigits 10 n).length

/-- The double nearest to the number, or `none` if it is too large. Magnitudes of `10^310` and more
and those below `10^-330` are decided by their size alone, so that an exponent of any length costs
nothing. -/
def toBinary64? (n : Numeral) : Option Binary64 :=
  let size := digitCount n.digits + n.exponent
  if n.digits = 0 || size < -330 then some (Binary64.zero.withSign n.negative)
  else if 310 < size then none
  else Binary64.ofRatio? n.negative (n.digits * 10 ^ n.exponent.toNat) (10 ^ (-n.exponent).toNat)

end Numeral

def intText (n : Int) : String := String.ofList (Numeral.ofInt n)

def natText (n : Nat) : String := String.ofList (Nat.toDigits 10 n)

end BillingQuery
