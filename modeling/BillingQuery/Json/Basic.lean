import BillingQuery.Number.Decimal

/-!
# JSON values

Numbers are integers or doubles, and the two stay apart: `1` and `1.0` are different values. The
members of an object keep the order in which they were written. A text may repeat a member's name;
`Json.collapse` gives each object one member per name, at the place of the first and with the value
of the last.
-/

namespace BillingQuery

/-- A number written without fraction or exponent, or a double. -/
inductive JsonNumber
  | integer (n : Int)
  | real (x : Binary64)
deriving DecidableEq

inductive Json
  | null
  | bool (b : Bool)
  | number (n : JsonNumber)
  | string (s : String)
  | array (items : List Json)
  | object (members : List (String × Json))

instance : Inhabited Json := ⟨.null⟩

namespace JsonNumber

def toBinary64? : JsonNumber → Option Binary64
  | .integer n => Binary64.ofInt? n
  | .real x => some x

/-- The integer, if the number is one that fits 64 bits with a sign. -/
def toInt64? : JsonNumber → Option Int
  | .integer n => if -2 ^ 63 ≤ n && n < 2 ^ 63 then some n else none
  | .real _ => none

/-- Digits for an integer, the shortest digits that read back for a double. -/
def text : JsonNumber → String
  | .integer n => intText n
  | .real x => x.text

end JsonNumber

namespace Json

def int (n : Int) : Json := .number (.integer n)

/-- The value of the first member with this name; other values than objects have no members. -/
def get? (j : Json) (name : String) : Option Json :=
  match j with
  | .object members => members.lookup name
  | _ => none

/-- Adds a member, or gives a present one a new value at its place. -/
def setMember (members : List (String × Json)) (name : String) (value : Json) :
    List (String × Json) :=
  match members with
  | [] => [(name, value)]
  | (n, v) :: rest =>
    if n = name then (name, value) :: rest else (n, v) :: setMember rest name value

mutual

/-- The value with one member per name in every object. -/
def collapse : Json → Json
  | .array items => .array (collapseItems items)
  | .object members => .object (collapseMembers [] members)
  | j => j

def collapseItems : List Json → List Json
  | [] => []
  | j :: js => collapse j :: collapseItems js

/-- Adds the members to those already seen. -/
def collapseMembers (seen : List (String × Json)) :
    List (String × Json) → List (String × Json)
  | [] => seen
  | (name, v) :: rest => collapseMembers (setMember seen name (collapse v)) rest

end

end Json
end BillingQuery
