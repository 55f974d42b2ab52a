/-!
# Tokens of JSON

The white space between tokens, texts with their escapes, and the words `null`, `true` and `false`.
-/

namespace BillingQuery.Json

/-- The white space between tokens. -/
def isSpace (c : Char) : Bool := c = ' ' || c = '\n' || c = '\t' || c = '\r'

def skipSpace (cs : List Char) : List Char := cs.dropWhile isSpace

def hexValue? (c : Char) : Option Nat :=
  if c.isDigit then some (c.toNat - 48)
  else if 'a' ≤ c && c ≤ 'f' then some (c.toNat - 87)
  else if 'A' ≤ c && c ≤ 'F' then some (c.toNat - 55)
  else none

def hex4? (a b c d : Char) : Option Nat := do
  return ((← hexValue? a) * 16 + (← hexValue? b)) * 256 + (← hexValue? c) * 16 + (← hexValue? d)

/-- The character of a UTF-16 unit that is no half of a pair. -/
def unitChar? (n : Nat) : Option Char :=
  if 0xd800 ≤ n && n < 0xe000 then none else some (Char.ofNat n)

/-- The character of a pair of UTF-16 units. -/
def pairChar? (high low : Nat) : Option Char :=
  if 0xd800 ≤ high && high < 0xdc00 && 0xdc00 ≤ low && low < 0xe000 then
    some (Char.ofNat (0x10000 + (high - 0xd800) * 1024 + (low - 0xdc00)))
  else none

def escaped? (c : Char) : Option Char :=
  match c with
  | '"' => some '"'
  | '\\' => some '\\'
  | '/' => some '/'
  | 'b' => some '\x08'
  | 'f' => some '\x0c'
  | 'n' => some '\n'
  | 'r' => some '\r'
  | 't' => some '\t'
  | _ => none

/-- The rest of a string after its opening quote, and what follows the closing one. -/
def readString : List Char → Option (List Char × List Char)
  | [] => none
  | '"' :: rest => some ([], rest)
  | '\\' :: 'u' :: a :: b :: c :: d :: rest =>
    (hex4? a b c d).bind fun n =>
      match unitChar? n with
      | some ch => (readString rest).map fun (s, r) => (ch :: s, r)
      | none =>
        match rest with
        | '\\' :: 'u' :: e :: f :: g :: h :: rest' =>
          ((hex4? e f g h).bind (pairChar? n)).bind fun ch =>
            (readString rest').map fun (s, r) => (ch :: s, r)
        | _ => none
  | '\\' :: c :: rest =>
    (escaped? c).bind fun ch => (readString rest).map fun (s, r) => (ch :: s, r)
  | c :: rest =>
    if c = '\\' || c.toNat < 32 then none
    else (readString rest).map fun (s, r) => (c :: s, r)

def expect? : List Char → List Char → Option (List Char)
  | [], cs => some cs
  | _ :: _, [] => none
  | w :: word, c :: cs => if w = c then expect? word cs else none

end BillingQuery.Json
