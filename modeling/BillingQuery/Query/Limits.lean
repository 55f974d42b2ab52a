/-!
# Result limits

The bounds on the size of a result, whatever the caller asks for.
-/

namespace BillingQuery

structure QueryLimits where
  defaultLimit : Int
  maxLimit : Int
deriving DecidableEq

namespace QueryLimits

def standard : QueryLimits := ⟨100, 1000⟩

/-- The requested limit, or the default, brought into the range from 1 to the greatest limit; a
greatest limit below 1 counts as 1. -/
def clamp (l : QueryLimits) (requested : Option Int) : Int :=
  max 1 (min (requested.getD l.defaultLimit) (max 1 l.maxLimit))

end QueryLimits

/-- The offset to use for a requested one: none and negative ones mean zero. -/
def effectiveOffset (requested : Option Int) : Int := max 0 (requested.getD 0)

end BillingQuery
