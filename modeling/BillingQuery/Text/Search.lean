/-!
# Searching text

Where a text stands inside another, over lists of characters, and lists without repetitions.
-/

namespace BillingQuery.Text

/-- Every tail of a list, the list itself first and the empty one last. -/
def suffixes : List α → List (List α)
  | [] => [[]]
  | a :: as => (a :: as) :: suffixes as

@[simp] theorem head?_suffixes (as : List α) : (suffixes as).head? = some as := by
  cases as <;> rfl

def isInfix (needle cs : List Char) : Bool := (suffixes cs).any needle.isPrefixOf

/-- The items without those that came before, in order of first occurrence. -/
def dedup [DecidableEq α] : List α → List α
  | [] => []
  | a :: as => a :: (dedup as).filter (· ≠ a)

end BillingQuery.Text
