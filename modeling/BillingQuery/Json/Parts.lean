/-!
# Parts of a value

Whoever reads a value for a purpose may say which of its parts the purpose needs. Members that are
not needed are not kept, and are read by fewer rules.
-/

namespace BillingQuery.Json

/-- Which parts of a value are needed. -/
inductive Parts
  /-- Every part. -/
  | whole
  /-- The members with these names, or the items of a list in the same order. -/
  | fields (named : List (String × Parts))
  /-- Every item of a list. -/
  | items (each : Parts)

namespace Parts

def ofNames (names : List String) : Parts := .fields (names.map fun name => (name, .whole))

/-- What is needed of a member, if it is needed. -/
def member? (parts : Parts) (name : String) : Option Parts :=
  match parts with
  | whole | items _ => some whole
  | fields named => named.lookup name

/-- What is needed of the first item of a list, and of the others. -/
def splitItem : Parts → Parts × Parts
  | whole => (whole, whole)
  | items each => (each, items each)
  | fields [] => (whole, whole)
  | fields ((_, first) :: others) => (first, fields others)

end Parts
end BillingQuery.Json
