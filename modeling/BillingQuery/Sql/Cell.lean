import BillingQuery.Json.Basic
import BillingQuery.Sql.RealText
import BillingQuery.Text.Blank
import BillingQuery.Text.Utf8

/-!
# Stored values

A cell holds null, an integer, a real, a text or bytes. A real is a finite double, or an infinity
if it was written as a number beyond the doubles. The affinity of a column says how a value
is converted when it is stored, and how the other side of a comparison is converted before it is
compared. Cells are ordered by class first: null, then numbers by value, then text, then bytes.
-/

namespace BillingQuery.Sql

inductive Cell
  | null
  | integer (n : Int)
  | real (x : Binary64)
  | infinity (negative : Bool)
  | text (s : String)
  | blob (bytes : List UInt8)
deriving DecidableEq

inductive Affinity
  | text
  | numeric
  | integer
  | real
  | blob
deriving DecidableEq

def Affinity.isNumeric : Affinity → Bool
  | .numeric | .integer | .real => true
  | .text | .blob => false

/-- Bytes read as UTF-8, or loosely if they are none. -/
def bytesText (bytes : List UInt8) : String :=
  (Text.ofUtf8? bytes).getD (String.ofList (Text.looseChars bytes))

/-- Two lower-case hexadecimal digits for each byte. -/
def hexText (bytes : List UInt8) : String :=
  String.ofList (bytes.flatMap fun b =>
    [Nat.digitChar (b.toNat / 16), Nat.digitChar (b.toNat % 16)])

namespace Cell

def asText? : Cell → Option String
  | null => none
  | integer n => some (intText n)
  | real x => some (realText x)
  | infinity negative => some (infinityText negative)
  | text s => some s
  | blob bytes => some (bytesText bytes)

def className : Cell → String
  | null => "null"
  | integer _ => "integer"
  | real _ | infinity _ => "real"
  | text _ => "text"
  | blob _ => "blob"

/-! ## Affinity -/

def isAsciiSpace (c : Char) : Bool := c = ' ' || (9 ≤ c.toNat && c.toNat ≤ 13)

/-- The number that a text writes, with ASCII white space around it or not: an integer if it is
written as one and fits 64 bits, else a real, which is infinite beyond the doubles. -/
def numberOfText? (s : String) : Option Cell :=
  let cs := Text.trimWhile isAsciiSpace s.toList
  let asInteger := (Numeral.integer? cs).filter fun n => -2 ^ 63 ≤ n && n < 2 ^ 63
  match asInteger with
  | some n => some (integer n)
  | none => (leadingNumeral? cs).map fun n =>
    match readReal? n with
    | some x => real x
    | none => infinity n.negative

def toNumber : Cell → Cell
  | text s => (numberOfText? s).getD (text s)
  | c => c

def toText : Cell → Cell
  | integer n => text (intText n)
  | real x => text (realText x)
  | infinity negative => text (infinityText negative)
  | c => c

/-- A real becomes an integer if it is one that fits 64 bits, the two extremes excepted. -/
def toIntegral : Cell → Cell
  | real x =>
    match x.toInt? with
    | some n => if -2 ^ 63 < n && n < 2 ^ 63 - 1 then integer n else real x
    | none => real x
  | c => c

/-- An integer becomes a real, and a negative zero a positive one. -/
def toReal : Cell → Cell
  | integer n =>
    match Binary64.ofInt? n with
    | some x => real x
    | none => integer n
  | real x => if x.coefficient = 0 then real .zero else real x
  | c => c

/-- The value as a column of this affinity stores it. -/
def store (a : Affinity) (c : Cell) : Cell :=
  match a with
  | .text => c.toText
  | .numeric | .integer => c.toNumber.toIntegral
  | .real => c.toNumber.toReal
  | .blob => c

/-! ## Order -/

def rank : Cell → Nat
  | null => 0
  | integer _ | real _ | infinity _ => 1
  | text _ => 2
  | blob _ => 3

/-- Integers and reals are compared exactly, text and bytes from the left. The infinities are below
and above every other number. -/
def compare (a b : Cell) : Ordering :=
  match a, b with
  | integer m, integer n => Ord.compare m n
  | integer m, real y => Binary64.compareInt m y
  | real x, integer n => (Binary64.compareInt n x).swap
  | real x, real y => Ord.compare x.units y.units
  | infinity s, infinity t => Ord.compare t s
  | infinity s, integer _ | infinity s, real _ => if s then .lt else .gt
  | integer _, infinity t | real _, infinity t => if t then .gt else .lt
  | text s, text t => Ord.compare s t
  | blob s, blob t => Ord.compare (s.map UInt8.toNat) (t.map UInt8.toNat)
  | a, b => Ord.compare a.rank b.rank

/-! ## JSON -/

/-- The value as JSON: bytes are hexadecimal text, and JSON has no infinities. -/
def toJson : Cell → Json
  | null | infinity _ => .null
  | integer n => .int n
  | real x => .number (.real x)
  | text s => .string s
  | blob bytes => .string (hexText bytes)

end Cell
end BillingQuery.Sql
