import BillingQuery.Json.Basic
import BillingQuery.Text.Quoted

/-!
# Decoding JSON

The causes for which a value does not have the wanted shape, their wording, and the decoders for
the shapes without members: texts, integers, lists and variants. A variant is named by a text, or by
the only member of an object whose value is the unit.
-/

namespace BillingQuery

/-- Why a value could not be decoded. Names of shapes and fields are those of the wire format. -/
inductive DecodeError
  | wrongType (found : Json) (wanted : String)
  | outOfRange (n : Int) (wanted : String)
  | notOneMember
  | missingField (name : String)
  | duplicateField (name : String)
  | unknownVariant (name : String) (known : List String)
  /-- A list that should give the fields of `shape` in order ends after `length` of them. -/
  | tooShort (length : Nat) (shape : String) (arity : Nat)
  | tooLong (length : Nat)
  /-- A list gives more items than the `arity` fields of a node. -/
  | tooLongNode (length arity : Nat)

namespace DecodeError

def describe : Json → String
  | .null => "null"
  | .bool true => "boolean `true`"
  | .bool false => "boolean `false`"
  | .number (.integer n) => "integer `" ++ intText n ++ "`"
  | .number (.real x) => "floating point `" ++ x.text ++ "`"
  | .string s => "string " ++ Text.quoted s
  | .array _ => "sequence"
  | .object _ => "map"

/-- A count of elements, with its noun. -/
def elements (n : Nat) : String := natText n ++ (if n = 1 then " element" else " elements")

def alternatives : List String → String
  | [] => "nothing"
  | [a] => "`" ++ a ++ "`"
  | [a, b] => "`" ++ a ++ "` or `" ++ b ++ "`"
  | names => "one of " ++ ", ".intercalate (names.map fun n => "`" ++ n ++ "`")

def message : DecodeError → String
  | wrongType found wanted => "invalid type: " ++ describe found ++ ", expected " ++ wanted
  | outOfRange n wanted => "invalid value: integer `" ++ intText n ++ "`, expected " ++ wanted
  | notOneMember => "invalid value: map, expected map with a single key"
  | missingField name => "missing field `" ++ name ++ "`"
  | duplicateField name => "duplicate field `" ++ name ++ "`"
  | unknownVariant name known =>
    "unknown variant `" ++ name ++ "`, expected " ++ alternatives known
  | tooShort length shape arity =>
    "invalid length " ++ natText length ++ ", expected " ++ shape ++ " with " ++ elements arity
  | tooLong length =>
    "invalid length " ++ natText length ++ ", expected fewer elements in array"
  | tooLongNode length arity =>
    "invalid length " ++ natText length ++ ", expected " ++ elements arity ++ " in sequence"

end DecodeError

namespace Json

def asString : Json → Except DecodeError String
  | .string s => .ok s
  | j => .error (.wrongType j "a string")

def asInt64 : Json → Except DecodeError Int
  | .number (.integer n) =>
    if -2 ^ 63 ≤ n && n < 2 ^ 63 then .ok n else .error (.outOfRange n "i64")
  | j => .error (.wrongType j "i64")

def asItems : Json → Except DecodeError (List Json)
  | .array items => .ok items
  | j => .error (.wrongType j "a sequence")

/-- An optional value: null stands for none. -/
def asOption (decode : Json → Except DecodeError α) : Json → Except DecodeError (Option α)
  | .null => .ok none
  | j => some <$> decode j

/-- Any value, with one member per name; null stands for none. -/
def asOptionalValue : Json → Option Json
  | .null => none
  | j => some j.collapse

/-- The value that a variant's name stands for. -/
def variantNamed (variants : List (String × α)) (name : String) : Except DecodeError α :=
  match variants.lookup name with
  | some a => .ok a
  | none => .error (.unknownVariant name (variants.map (·.1)))

/-- The unit is null; inside a node an empty object stands for it too. -/
def asUnit (inner : Bool) : Json → Except DecodeError Unit
  | .null => .ok ()
  | .object [] => if inner then .ok () else .error (.wrongType (.object []) "unit")
  | j => .error (.wrongType j "unit")

/-- A variant without content. -/
def asVariant (inner : Bool) (variants : List (String × α)) : Json → Except DecodeError α
  | .string s => variantNamed variants s
  | .object [(name, unit)] => do
    let a ← variantNamed variants name
    unit.asUnit inner
    return a
  | .object _ => .error .notOneMember
  | j => .error (.wrongType j "string or map")

/-- The first of the known names that occurs twice among the members. -/
def repeatedName? (known : List String) (members : List (String × Json)) : Option String :=
  known.find? fun name => 1 < members.countP (·.1 == name)

/-- The item at position `i` of a list that gives the fields of `shape` in order. -/
def itemAt (items : List Json) (i : Nat) (shape : String) (arity : Nat) :
    Except DecodeError Json :=
  match items[i]? with
  | some j => .ok j
  | none => .error (.tooShort i shape arity)

end Json

def required (name : String) : Option α → Except DecodeError α
  | some a => .ok a
  | none => .error (.missingField name)

end BillingQuery
