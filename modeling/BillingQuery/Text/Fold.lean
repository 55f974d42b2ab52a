/-!
# ASCII case

Case is folded for the ASCII letters alone; every other character is left as it is. Also here: the
pieces of a text between separators.
-/

namespace BillingQuery.Text

/-- The text with its ASCII letters in lower case. -/
def fold (s : String) : String := String.ofList (s.toList.map Char.toLower)

def upper (s : String) : String := String.ofList (s.toList.map Char.toUpper)

def sameFold (s t : String) : Bool := fold s == fold t

/-- The pieces between the characters that satisfy `p`: one more than there are such characters. -/
def splitWhere (p : Char → Bool) : List Char → List (List Char)
  | [] => [[]]
  | c :: cs =>
    if p c then [] :: splitWhere p cs
    else match splitWhere p cs with
      | piece :: pieces => (c :: piece) :: pieces
      | [] => [[c]]

end BillingQuery.Text
