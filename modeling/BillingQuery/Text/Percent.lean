import BillingQuery.Text.Utf8

/-!
# Percent encoding

In a path, `%` and two hexadecimal digits stand for a byte. The bytes of a part of a path must be
UTF-8; a part whose bytes are not stands for no text.
-/

namespace BillingQuery.Text

def hexDigitValue? (b : UInt8) : Option UInt8 :=
  if 48 ≤ b && b ≤ 57 then some (b - 48)
  else if 65 ≤ b && b ≤ 70 then some (b - 55)
  else if 97 ≤ b && b ≤ 102 then some (b - 87)
  else none

/-- The bytes that a list of bytes stands for. A `%` without two digits stands for itself. -/
def unescapeBytes : List UInt8 → List UInt8
  | [] => []
  | b :: rest =>
    if b = 37 then
      match rest with
      | high :: low :: rest' =>
        match hexDigitValue? high, hexDigitValue? low with
        | some h, some l => (16 * h + l) :: unescapeBytes rest'
        | _, _ => b :: unescapeBytes (high :: low :: rest')
      | rest => b :: unescapeBytes rest
    else b :: unescapeBytes rest

def percentDecode? (s : String) : Option String := ofUtf8? (unescapeBytes s.toUTF8.toList)

end BillingQuery.Text
