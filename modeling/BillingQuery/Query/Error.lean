import BillingQuery.Number.Numeral

/-!
# Query errors

A query error rejects a whole request. Each has a stable kind, a message, and, where the caller
chose from a closed set, the list of what could have been chosen.
-/

namespace BillingQuery

/-- Which name of an ad-hoc query was not allowed. -/
inductive SelectorTarget
  | table
  | column
deriving DecidableEq

def SelectorTarget.name : SelectorTarget → String
  | .table => "table"
  | .column => "column"

inductive QueryError
  | invalidName (target : SelectorTarget) (name : String) (valid : List String)
  | invalidSortField (field : String) (valid : List String)
  | unsupportedOperator (operator : String) (valid : List String)
  | invalidFilterValue (column reason : String)
  | forbiddenStatement (reason : String)
  | timeout (budgetMs : Nat)
  | malformedFilter (reason : String)
  | filterTooComplex (depth nodes : Nat)
  | executionFailed (reason : String)
deriving DecidableEq

namespace QueryError

/-- The code by which callers recognise the error. -/
def kind : QueryError → String
  | invalidName .. => "invalid_table_or_column"
  | invalidSortField .. => "invalid_sort_field"
  | unsupportedOperator .. => "unsupported_operator"
  | invalidFilterValue .. => "invalid_filter_value"
  | forbiddenStatement .. => "forbidden_statement"
  | timeout .. => "query_timeout"
  | malformedFilter .. => "malformed_filter"
  | filterTooComplex .. => "filter_too_complex"
  | executionFailed .. => "execution_failed"

/-- The names that would have been accepted, when they form a closed set. -/
def alternatives? : QueryError → Option (List String)
  | invalidName _ _ valid | invalidSortField _ valid | unsupportedOperator _ valid => some valid
  | _ => none

/-- Whether the same request may succeed later. A rejection is final. -/
def isRetryable : QueryError → Bool
  | timeout _ | executionFailed _ => true
  | _ => false

def mustBeOneOf (valid : List String) : String :=
  ". Must be one of: " ++ ", ".intercalate valid

def message : QueryError → String
  | invalidName target name valid =>
    "Invalid " ++ target.name ++ " '" ++ name ++ "'" ++ mustBeOneOf valid
  | invalidSortField field valid => "Cannot sort by '" ++ field ++ "'" ++ mustBeOneOf valid
  | unsupportedOperator operator valid =>
    "Unsupported operator '" ++ operator ++ "'" ++ mustBeOneOf valid
  | invalidFilterValue column reason =>
    "Invalid value for column '" ++ column ++ "': " ++ reason
  | forbiddenStatement reason => "Statement rejected: " ++ reason
  | timeout budgetMs => "Query timed out after " ++ natText budgetMs ++ " ms"
  | malformedFilter reason => "Malformed filter: " ++ reason
  | filterTooComplex depth nodes =>
    "Filter too complex: depth " ++ natText depth ++ " and " ++ natText nodes ++
      " nodes exceed the allowed size"
  | executionFailed reason => "Query execution failed: " ++ reason

end QueryError
end BillingQuery
