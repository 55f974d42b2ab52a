import BillingQuery.Json.Literal
import BillingQuery.Json.Token

/-!
# Reading past a value

A value that nobody needs is only read past: it must be well formed, but its numbers may be of any
size, its texts may hold any four hexadecimal digits as an escape, and its arrays and objects may be
nested without bound. The open ones are therefore kept in a list and not in a recursion.
-/

namespace BillingQuery.Json

def skipString : List Char → Option (List Char)
  | [] => none
  | '"' :: rest => some rest
  | '\\' :: 'u' :: a :: b :: c :: d :: rest => (hex4? a b c d).bind fun _ => skipString rest
  | '\\' :: c :: rest => (escaped? c).bind fun _ => skipString rest
  | c :: rest => if c = '\\' || c.toNat < 32 then none else skipString rest

inductive Bracket
  | array
  | object
deriving DecidableEq

/-- What may come next. -/
inductive Expected
  | value
  | name
  /-- The first item of an array, or its end. -/
  | itemOrEnd
  /-- The first name of an object, or its end. -/
  | nameOrEnd
  /-- A comma, or the end of what is open. -/
  | commaOrEnd
deriving DecidableEq

/-- What may come next, what is open, and the rest of the text. -/
structure SkipState where
  expected : Expected
  opened : List Bracket
  rest : List Char

namespace SkipState

/-- Reads past a value, or past the opening bracket of one. -/
def value (opened : List Bracket) (cs : List Char) : Option SkipState :=
  match cs with
  | [] => none
  | '[' :: cs => some ⟨.itemOrEnd, .array :: opened, cs⟩
  | '\x7b' :: cs => some ⟨.nameOrEnd, .object :: opened, cs⟩
  | '"' :: cs => (skipString cs).map fun r => ⟨.commaOrEnd, opened, r⟩
  | 'n' :: cs => (expect? "ull".toList cs).map fun r => ⟨.commaOrEnd, opened, r⟩
  | 't' :: cs => (expect? "rue".toList cs).map fun r => ⟨.commaOrEnd, opened, r⟩
  | 'f' :: cs => (expect? "alse".toList cs).map fun r => ⟨.commaOrEnd, opened, r⟩
  | cs => (Literal.read cs).map fun (_, r) => ⟨.commaOrEnd, opened, r⟩

def name (opened : List Bracket) : List Char → Option SkipState
  | '"' :: cs =>
    (skipString cs).bind fun r =>
      match skipSpace r with
      | ':' :: r => some ⟨.value, opened, r⟩
      | _ => none
  | _ => none

def step (s : SkipState) : Option SkipState :=
  match s.expected, s.opened, skipSpace s.rest with
  | .itemOrEnd, .array :: opened, ']' :: cs => some ⟨.commaOrEnd, opened, cs⟩
  | .nameOrEnd, .object :: opened, '\x7d' :: cs => some ⟨.commaOrEnd, opened, cs⟩
  | .commaOrEnd, .array :: opened, ']' :: cs => some ⟨.commaOrEnd, opened, cs⟩
  | .commaOrEnd, .object :: opened, '\x7d' :: cs => some ⟨.commaOrEnd, opened, cs⟩
  | .commaOrEnd, .array :: opened, ',' :: cs => some ⟨.value, .array :: opened, cs⟩
  | .commaOrEnd, .object :: opened, ',' :: cs => some ⟨.name, .object :: opened, cs⟩
  | .commaOrEnd, _, _ => none
  | .value, opened, cs | .itemOrEnd, opened, cs => value opened cs
  | .name, opened, cs | .nameOrEnd, opened, cs => name opened cs

def isDone (s : SkipState) : Bool := s.expected = .commaOrEnd && s.opened.isEmpty

/-- Reads on until the value has been read past. -/
def run : Nat → SkipState → Option (List Char)
  | 0, _ => none
  | fuel + 1, s =>
    if s.isDone then some s.rest
    else
      match s.step with
      | some s => run fuel s
      | none => none

end SkipState

/-- What follows the value at the start of a text. Every step takes at least one character. -/
def skipValue (cs : List Char) : Option (List Char) :=
  SkipState.run (cs.length + 2) ⟨.value, [], cs⟩

end BillingQuery.Json
