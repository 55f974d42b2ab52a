/-!
# Issues

A condition that cannot be used does not fail the request: it is dropped, or matches nothing, and
an issue says so.
-/

namespace BillingQuery

inductive FilterIssue
  | unknownField (node field : String)
  | illegalOperator (node field operator : String)
  | malformedBetween (node field : String)
deriving DecidableEq

namespace FilterIssue

def node : FilterIssue → String
  | unknownField node _ | illegalOperator node _ _ | malformedBetween node _ => node

def field : FilterIssue → String
  | unknownField _ field | illegalOperator _ field _ | malformedBetween _ field => field

/-- The operator, if it is what the issue is about. -/
def operator? : FilterIssue → Option String
  | illegalOperator _ _ operator => some operator
  | _ => none

def message : FilterIssue → String
  | unknownField node field => "UnknownField: node " ++ node ++ " references '" ++ field ++ "'"
  | illegalOperator node field operator =>
    "IllegalOperator: node " ++ node ++ " uses '" ++ operator ++ "' on field '" ++ field ++ "'"
  | malformedBetween node field =>
    "MalformedBetween: node " ++ node ++ " on field '" ++ field ++ "' is missing a bound"

end FilterIssue
end BillingQuery
