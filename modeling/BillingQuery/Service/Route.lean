import BillingQuery.Text.Fold

/-!
# Routes

The paths that the service answers, each with its one method. The name of a resource is a segment
of the path and is still percent-encoded here.
-/

namespace BillingQuery

inductive Route
  | health
  /-- The fields of a resource. -/
  | fields (segment : String)
  /-- A filtered listing of a resource. -/
  | listing (segment : String)
  /-- The allow list. -/
  | tables
  | adHoc
  | raw
deriving DecidableEq

namespace Route

def method : Route → String
  | health | fields _ | tables => "GET"
  | listing _ | adHoc | raw => "POST"

/-- Whether a character ends the path of a target: a query or a fragment follows. -/
def endsPath (c : Char) : Bool := c = '?' || c = '#'

/-- What follows the scheme and the authority of a target that has them. -/
def afterAuthority (target : List Char) : List Char :=
  match target.dropWhile fun c => c.isAlphanum || c = '+' || c = '-' || c = '.' with
  | ':' :: '/' :: '/' :: rest => rest.dropWhile fun c => c != '/' && !endsPath c
  | _ => target

def segments (target : String) : List String :=
  (Text.splitWhere (· == '/') ((afterAuthority target.toList).takeWhile fun c => !endsPath c)).map
    String.ofList

/-- The route of a target. A resource's name may be any segment, also the empty one. -/
def ofTarget? (target : String) : Option Route :=
  match segments target with
  | ["", "api", "v1", "health"] => some health
  | ["", "api", "v1", "resources", segment, "fields"] => some (fields segment)
  | ["", "api", "v1", "resources", segment, "filter"] => some (listing segment)
  | ["", "api", "v1", "admin", "query-builder"] => some adHoc
  | ["", "api", "v1", "admin", "query-builder", "tables"] => some tables
  | ["", "api", "v1", "admin", "custom-sql"] => some raw
  | _ => none

end Route
end BillingQuery
