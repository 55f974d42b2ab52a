/-!
# Character classes by ranges

A property of characters is given as a list of ranges of code points, both ends included.
-/

namespace BillingQuery.Text

def inRanges (ranges : List (Nat × Nat)) (c : Char) : Bool :=
  ranges.any fun (low, high) => low ≤ c.toNat && c.toNat ≤ high

end BillingQuery.Text
