import BillingQuery.Text.Ranges

/-!
# White space

`Text.trim` removes characters with the Unicode property White_Space from both ends. The property
holds of U+0085 and U+00A0, and not of the zero-width space U+200B or the separators U+001C to
U+001F.
-/

namespace BillingQuery.Text

/-- The characters with property White_Space, as ascending ranges of code points. -/
def blankRanges : List (Nat × Nat) := [
  (0x9, 0xd), (0x20, 0x20), (0x85, 0x85), (0xa0, 0xa0), (0x1680, 0x1680), (0x2000, 0x200a),
  (0x2028, 0x2029), (0x202f, 0x202f), (0x205f, 0x205f), (0x3000, 0x3000)]

def isBlank (c : Char) : Bool := inRanges blankRanges c

/-- The list without the longest tail whose characters all satisfy `p`. -/
def dropEndWhile (p : Char → Bool) (cs : List Char) : List Char :=
  (cs.reverse.dropWhile p).reverse

/-- The list without the characters satisfying `p` at its two ends. -/
def trimWhile (p : Char → Bool) (cs : List Char) : List Char := dropEndWhile p (cs.dropWhile p)

def trimChars (cs : List Char) : List Char := trimWhile isBlank cs

def trim (s : String) : String := String.ofList (trimChars s.toList)

end BillingQuery.Text
