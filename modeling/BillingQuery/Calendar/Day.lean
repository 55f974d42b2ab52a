import BillingQuery.Number.Numeral

/-!
# Calendar days

A `Day` is a day of the proleptic Gregorian calendar in the years 0000 to 9999. Its text is the
zero-padded `YYYY-MM-DD`; `Day.ofLeading?` takes a day from the first ten characters of a text and
ignores what follows, so that a timestamp names its day. Days are ordered by year, month and day of
the month.
-/

namespace BillingQuery

def isLeapYear (year : Nat) : Bool := year % 4 == 0 && (year % 100 != 0 || year % 400 == 0)

def daysInMonth (year month : Nat) : Nat :=
  match month with
  | 1 | 3 | 5 | 7 | 8 | 10 | 12 => 31
  | 4 | 6 | 9 | 11 => 30
  | 2 => if isLeapYear year then 29 else 28
  | _ => 0

/-- A day of the years 0000 to 9999. -/
structure Day where
  year : Nat
  month : Nat
  day : Nat
  year_le : year ≤ 9999
  day_pos : 1 ≤ day
  day_le : day ≤ daysInMonth year month
deriving DecidableEq

namespace Day

def ofParts? (year month day : Nat) : Option Day :=
  if h : year ≤ 9999 ∧ 1 ≤ day ∧ day ≤ daysInMonth year month then
    some ⟨year, month, day, h.1, h.2.1, h.2.2⟩
  else
    none

/-- Year, month and day as one number, which orders the days. -/
def key (d : Day) : Nat := 10000 * d.year + 100 * d.month + d.day

instance : LE Day := ⟨fun d e => d.key ≤ e.key⟩
instance : LT Day := ⟨fun d e => d.key < e.key⟩
instance (d e : Day) : Decidable (d ≤ e) := inferInstanceAs (Decidable (d.key ≤ e.key))
instance (d e : Day) : Decidable (d < e) := inferInstanceAs (Decidable (d.key < e.key))

/-! ## Text -/

/-- The last `width` decimal digits of `n`. -/
def padded : Nat → Nat → List Char
  | 0, _ => []
  | width + 1, n => padded width (n / 10) ++ [Nat.digitChar (n % 10)]

def chars (d : Day) : List Char :=
  padded 4 d.year ++ '-' :: padded 2 d.month ++ '-' :: padded 2 d.day

def text (d : Day) : String := String.ofList d.chars

/-- Year, month and day of a text that starts with `YYYY-MM-DD`, whether or not the calendar has
that day. -/
def leadingParts? : List Char → Option (Nat × Nat × Nat)
  | y₁ :: y₂ :: y₃ :: y₄ :: '-' :: m₁ :: m₂ :: '-' :: d₁ :: d₂ :: _ =>
    if [y₁, y₂, y₃, y₄, m₁, m₂, d₁, d₂].all Char.isDigit then
      some (Numeral.ofDigits [y₁, y₂, y₃, y₄], Numeral.ofDigits [m₁, m₂],
        Numeral.ofDigits [d₁, d₂])
    else none
  | _ => none

def ofLeading? (cs : List Char) : Option Day := do
  let (year, month, day) ← leadingParts? cs
  ofParts? year month day

/-- The day with these numbers, where a day past the end of its month, but not past the 31st,
counts on into the next month. -/
def rollOver? (year month day : Nat) : Option Day :=
  if 31 < day then none
  else if daysInMonth year month < day && month < 12 then
    ofParts? year (month + 1) (day - daysInMonth year month)
  else ofParts? year month day

end Day
end BillingQuery
