import BillingQuery.Json.Basic

/-!
# Writing JSON

`Json.write` gives the compact text of a value. In a string, quotes and backslashes are escaped,
the controls below U+0020 have their short escape or four hexadecimal digits, and every other
character stands for itself.
-/

namespace BillingQuery.Json

def escapeChar (c : Char) : List Char :=
  if c = '"' then ['\\', '"']
  else if c = '\\' then ['\\', '\\']
  else if c.toNat = 8 then ['\\', 'b']
  else if c.toNat = 9 then ['\\', 't']
  else if c.toNat = 10 then ['\\', 'n']
  else if c.toNat = 12 then ['\\', 'f']
  else if c.toNat = 13 then ['\\', 'r']
  else if c.toNat < 32 then
    ['\\', 'u', '0', '0', Nat.digitChar (c.toNat / 16), Nat.digitChar (c.toNat % 16)]
  else [c]

def stringChars (s : String) : List Char := '"' :: s.toList.flatMap escapeChar ++ ['"']

mutual

/-- The text of a value, followed by `rest`. -/
def chars (j : Json) (rest : List Char) : List Char :=
  match j with
  | .null => "null".toList ++ rest
  | .bool true => "true".toList ++ rest
  | .bool false => "false".toList ++ rest
  | .number n => n.text.toList ++ rest
  | .string s => stringChars s ++ rest
  | .array [] => '[' :: ']' :: rest
  | .array (j :: js) => '[' :: chars j (itemChars js (']' :: rest))
  | .object [] => '\x7b' :: '\x7d' :: rest
  | .object ((name, j) :: ms) =>
    '\x7b' :: (stringChars name ++ ':' :: chars j (memberChars ms ('\x7d' :: rest)))

/-- Each further item after a comma. -/
def itemChars (js : List Json) (rest : List Char) : List Char :=
  match js with
  | [] => rest
  | j :: js => ',' :: chars j (itemChars js rest)

/-- Each further member after a comma. -/
def memberChars (ms : List (String × Json)) (rest : List Char) : List Char :=
  match ms with
  | [] => rest
  | (name, j) :: ms => ',' :: (stringChars name ++ ':' :: chars j (memberChars ms rest))

end

def write (j : Json) : String := String.ofList (chars j [])

end BillingQuery.Json
