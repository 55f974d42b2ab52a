import BillingQuery.Json.Decode
import BillingQuery.Json.Reader

/-!
# Embedded texts

A value may be given as a text. An object whose first member has a reserved name stands for the
value that the text of this member writes; any other content of such an object is an error. In any
other object the reserved name is an ordinary one. The text may embed texts again, and has an
allowance of nesting of its own.

Only texts embed: a value that has been resolved is taken as it is.
-/

namespace BillingQuery.Json

def embeddedName : String := "$serde_json::private::RawValue"

def maxNesting : Nat := 127

def isEmbedding : List (String × Json) → Bool
  | (name, _) :: _ => name == embeddedName
  | [] => false

/-- The embedded text: that of the only member. -/
def embeddedText? : List (String × Json) → Option String
  | [(_, .string s)] => some s
  | _ => none

mutual

/-- Puts values in the places of embedded texts, if each of them writes one. -/
def resolveBy (valueOf? : String → Option Json) : Json → Option Json
  | .array items => (resolveItems valueOf? items).map .array
  | .object members =>
    if isEmbedding members then (embeddedText? members).bind valueOf?
    else (resolveMembers valueOf? members).map .object
  | j => some j

def resolveItems (valueOf? : String → Option Json) : List Json → Option (List Json)
  | [] => some []
  | j :: js => do return (← resolveBy valueOf? j) :: (← resolveItems valueOf? js)

def resolveMembers (valueOf? : String → Option Json) :
    List (String × Json) → Option (List (String × Json))
  | [] => some []
  | (name, j) :: rest => do
    return (name, ← resolveBy valueOf? j) :: (← resolveMembers valueOf? rest)

end

/-- The value of an embedded text, in which texts may be embedded `fuel` times inside each other. -/
def embeddedValue? (fuel : Nat) (s : String) : Option Json :=
  match fuel with
  | 0 => none
  | fuel + 1 => (read? maxNesting s).bind (resolveBy (embeddedValue? fuel))

/-- The value without embedded texts. The fuel never runs out: an embedded text is shorter than the
text around it. -/
def resolve? (j : Json) : Option Json := resolveBy (fun s => embeddedValue? (s.length + 1) s) j

/-- The value that a whole text writes, without embedded texts and with one member per name. -/
def valueOfText? (depth : Nat) (s : String) : Option Json :=
  ((read? depth s).bind resolve?).map collapse

def asValue (j : Json) : Except DecodeError Json :=
  match j.resolve? with
  | some v => .ok v.collapse
  | none => .error (.wrongType j "any valid JSON value")

end BillingQuery.Json
