/-!
# UTF-8

`ofUtf8?` gives the text that bytes write. Bytes that write none can still be searched:
`looseChars` reads a character from any bytes, taking a first byte together with all the bytes that
continue it.
-/

namespace BillingQuery.Text

def ofUtf8? (bytes : List UInt8) : Option String := String.fromUTF8? bytes.toByteArray

/-! ## Any bytes -/

def isContinuation (b : UInt8) : Bool := 0x80 ≤ b && b < 0xc0

def leadingBits (b : UInt8) : UInt8 :=
  -- Forms of five and six bytes name no character, but their bits count all the same.
  if b < 0xe0 then b % 32
  else if b < 0xf0 then b % 16
  else if b < 0xf8 then b % 8
  else if b < 0xfc then b % 4
  else if b < 0xfe then b % 2
  else 0

/-- What stands for every code beyond the last character. Loose reading gives it to nothing else. -/
def beyondChar : Char := '\uffff'

/-- The character of a first byte and those that continue it, of whose bits 32 count. What is no
character, or an ASCII one in a longer form, is read as U+FFFD. -/
def looseChar (first : UInt8) (more : List UInt8) : Char :=
  let n := more.foldl (fun n b => (64 * n + b.toNat % 64) % UInt32.size) (leadingBits first).toNat
  if 0x10ffff < n then beyondChar
  else if 0x80 ≤ n && n.isValidChar && n ≠ 0xfffe && n ≠ 0xffff then Char.ofNat n
  else '\ufffd'

def byteChar (b : UInt8) : Char := Char.ofNat b.toNat

/-- Adds a byte in front of the characters read so far, of which the first are bytes that continue
a character whose first byte has not come yet. -/
def addByte (b : UInt8) : List UInt8 × List Char → List UInt8 × List Char
  | (more, cs) =>
    if isContinuation b then (b :: more, cs)
    else if b < 0x80 then ([], byteChar b :: (more.map byteChar ++ cs))
    else ([], looseChar b more :: cs)

/-- The characters of any bytes. A byte that continues no character stands for the character with
its code. -/
def looseChars (bytes : List UInt8) : List Char :=
  let (more, cs) := bytes.foldr addByte ([], [])
  more.map byteChar ++ cs

end BillingQuery.Text
