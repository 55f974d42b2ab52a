/-!
# Fields

A field has a type, which says how its values compare and which operators suit it, and its own list
of operators, which may be narrower. A schema lists the fields of one table; a field that is not
listed cannot be named in a filter.
-/

namespace BillingQuery

inductive FieldType
  | string
  | id
  | enum
  | boolean
  | number
  | date
deriving DecidableEq

inductive Operator
  | equals
  | contains
  | startsWith
  | endsWith
  | oneOf
  | gt
  | lt
  | gte
  | lte
  | between
deriving DecidableEq

namespace Operator

/-- All operators, in the order of their declaration. -/
def all : List Operator :=
  [.equals, .contains, .startsWith, .endsWith, .oneOf, .gt, .lt, .gte, .lte, .between]

def name : Operator → String
  | equals => "equals"
  | contains => "contains"
  | startsWith => "startsWith"
  | endsWith => "endsWith"
  | oneOf => "in"
  | gt => "gt"
  | lt => "lt"
  | gte => "gte"
  | lte => "lte"
  | between => "between"

def ofName? (name : String) : Option Operator := all.find? (·.name == name)

end Operator

namespace FieldType

def name : FieldType → String
  | string => "string"
  | id => "id"
  | enum => "enum"
  | boolean => "boolean"
  | number => "number"
  | date => "date"

def operators : FieldType → List Operator
  | string | id => [.equals, .contains, .startsWith, .endsWith, .oneOf]
  | enum => [.equals, .oneOf]
  | boolean => [.equals]
  | number => [.equals, .gt, .lt, .gte, .lte, .between]
  | date => [.equals, .between]

end FieldType

/-- One of the values of an enumeration, with the label to show for it. -/
structure EnumOption where
  value : String
  label : String
deriving DecidableEq

/-- A filterable field. Conditions and records name it by `key`, statements by `column`. -/
structure Field where
  key : String
  label : String
  column : String
  type : FieldType
  options : List EnumOption
  operators : List Operator
deriving DecidableEq

namespace Field

def plain (key label column : String) (type : FieldType) : Field :=
  ⟨key, label, column, type, [], type.operators⟩

/-- A field whose values are enumerated. -/
def enumeration (key label column : String) (options : List EnumOption) : Field :=
  ⟨key, label, column, .enum, options, FieldType.enum.operators⟩

def withOperators (f : Field) (operators : List Operator) : Field :=
  { f with operators := operators }

def allows (f : Field) (op : Operator) : Bool := f.operators.contains op

end Field

/-- The filterable fields of a table, and the column that holds the tenant of a row. -/
structure Schema where
  table : String
  tenantColumn : String
  fields : List Field

def findField? (fields : List Field) (key : String) : Option Field := fields.find? (·.key == key)

namespace Schema

def field? (s : Schema) (key : String) : Option Field := findField? s.fields key
def keys (s : Schema) : List String := s.fields.map (·.key)

end Schema
end BillingQuery
