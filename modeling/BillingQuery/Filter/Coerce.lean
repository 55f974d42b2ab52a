import BillingQuery.Calendar.Day
import BillingQuery.Json.Basic
import BillingQuery.Text.Blank
import BillingQuery.Text.Fold
import BillingQuery.Text.Search

/-!
# Coercions

What a JSON value stands for where a text, a number, a flag or a day is wanted. The value of a
condition is read leniently: numeric text is a number, `"true"` is a flag. The value of a record is
read as it is stored: text is never a number or a flag.
-/

namespace BillingQuery.Json

/-- A string or the text of a number, with ASCII letters in lower case. -/
def foldedText? : Json → Option String
  | .string s => some (Text.fold s)
  | .number n => some (Text.fold n.text)
  | _ => none

def commaPieces (s : String) : List String :=
  (((Text.splitWhere (· == ',') s.toList).map Text.trimChars).filter fun p => !p.isEmpty).map
    String.ofList

/-- The folded texts of a list, of the pieces of a text between commas, or of a single value, each
once and in order of first occurrence. -/
def foldedTexts (j : Json) : List String :=
  Text.dedup <| match j with
    | .array items => items.filterMap foldedText?
    | .string s => (commaPieces s).map Text.fold
    | j => j.foldedText?.toList

/-- A finite number, or a text that writes one, with white space around it or not. -/
def toNumber? : Json → Option Binary64
  | .number n => n.toBinary64?
  | .string s => (Numeral.ofText? (Text.trimChars s.toList)).bind Numeral.toBinary64?
  | _ => none

def storedNumber? : Json → Option Binary64
  | .number n => n.toBinary64?
  | _ => none

def flagOfInt? (n : Int) : Option Bool :=
  if n = 1 then some true else if n = 0 then some false else none

/-- A flag held by a record: a boolean, or the integer 0 or 1. -/
def storedFlag? : Json → Option Bool
  | .bool b => some b
  | .number (.integer n) => flagOfInt? n
  | _ => none

/-- A stored flag, or a text that names one, in any case and with white space around it or not. -/
def toFlag? : Json → Option Bool
  | .string s =>
    let t := Text.fold (Text.trim s)
    if t = "true" || t = "1" then some true
    else if t = "false" || t = "0" then some false
    else none
  | j => j.storedFlag?

/-- The day that a text starts with. -/
def toDay? : Json → Option Day
  | .string s => Day.ofLeading? s.toList
  | _ => none

end BillingQuery.Json
