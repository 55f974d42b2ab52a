import BillingQuery.Json.Embedded
import BillingQuery.Query.AdHoc
import BillingQuery.Query.Sort

/-!
# Ad-hoc queries on the wire

A query is an object, or the list of its fields in order. Fields that have a default may be left
out, those of a list at its end.
-/

namespace BillingQuery

namespace AdHocFilter

def fieldNames : List String := ["column", "operator", "value"]

def parts : Json.Parts := .ofNames fieldNames

/-- The fields that the members have given. -/
structure Draft where
  column : Option String
  operator : Option String
  value : Option Json

def Draft.ofMembers : List (String × Json) → Except DecodeError Draft
  | [] => .ok ⟨none, none, none⟩
  | (name, j) :: rest =>
    match name with
    | "column" => do let s ← j.asString; return { ← ofMembers rest with column := some s }
    | "operator" => do let s ← j.asString; return { ← ofMembers rest with operator := some s }
    | "value" => do let v ← j.asValue; return { ← ofMembers rest with value := some v }
    | _ => ofMembers rest

/-- A test without a value has the value null. -/
def decode : Json → Except DecodeError AdHocFilter
  | .object members => do
    if let some name := Json.repeatedName? fieldNames members then
      throw (.duplicateField name)
    let d ← Draft.ofMembers members
    return ⟨← required "column" d.column, ← required "operator" d.operator, d.value.getD .null⟩
  | .array items => do
    let item (i : Nat) := Json.itemAt items i "struct SpecFilter" 3
    let column ← (← item 0).asString
    let operator ← (← item 1).asString
    let value ← Json.asValue (items[2]?.getD .null)
    if 3 < items.length then throw (.tooLong items.length)
    return ⟨column, operator, value⟩
  | j => .error (.wrongType j "struct SpecFilter")

end AdHocFilter

namespace AdHocQuery

def decodeColumns (j : Json) : Except DecodeError (List String) := do
  (← j.asItems).mapM Json.asString

def decodeFilters (j : Json) : Except DecodeError (List AdHocFilter) := do
  (← j.asItems).mapM AdHocFilter.decode

/-- The fields that the members have given. -/
structure Draft where
  table : Option String
  columns : List String
  filters : List AdHocFilter
  orderBy : Option String
  orderDirection : Option SortDirection
  limit : Option Int

def Draft.ofMembers : List (String × Json) → Except DecodeError Draft
  | [] => .ok ⟨none, [], [], none, none, none⟩
  | (name, j) :: rest =>
    match name with
    | "table" => do let s ← j.asString; return { ← ofMembers rest with table := some s }
    | "columns" => do let cs ← decodeColumns j; return { ← ofMembers rest with columns := cs }
    | "filters" => do let fs ← decodeFilters j; return { ← ofMembers rest with filters := fs }
    | "orderBy" => do
      let s ← j.asOption Json.asString
      return { ← ofMembers rest with orderBy := s }
    | "orderDirection" => do
      let d ← j.asOption SortDirection.decode
      return { ← ofMembers rest with orderDirection := d }
    | "limit" => do let n ← j.asOption Json.asInt64; return { ← ofMembers rest with limit := n }
    | _ => ofMembers rest

def fieldNames : List String :=
  ["table", "columns", "filters", "orderBy", "orderDirection", "limit"]

/-- The fields, and those of each filter. -/
def parts : Json.Parts :=
  .fields [("table", .whole), ("columns", .whole), ("filters", .items AdHocFilter.parts),
    ("orderBy", .whole), ("orderDirection", .whole), ("limit", .whole)]

/-- A field of the list, or its default. -/
def itemOr (items : List Json) (i : Nat) (decode : Json → Except DecodeError α)
    (default : α) : Except DecodeError α :=
  match items[i]? with
  | some j => decode j
  | none => .ok default

def decode : Json → Except DecodeError AdHocQuery
  | .object members => do
    if let some name := Json.repeatedName? fieldNames members then
      throw (.duplicateField name)
    let d ← Draft.ofMembers members
    return ⟨← required "table" d.table, d.columns, d.filters, d.orderBy, d.orderDirection, d.limit⟩
  | .array items => do
    let table ← (← Json.itemAt items 0 "struct QuerySpec" 6).asString
    let columns ← itemOr items 1 decodeColumns []
    let filters ← itemOr items 2 decodeFilters []
    let orderBy ← itemOr items 3 (Json.asOption Json.asString) none
    let orderDirection ← itemOr items 4 (Json.asOption SortDirection.decode) none
    let limit ← itemOr items 5 (Json.asOption Json.asInt64) none
    if 6 < items.length then throw (.tooLong items.length)
    return ⟨table, columns, filters, orderBy, orderDirection, limit⟩
  | j => .error (.wrongType j "struct QuerySpec")

end AdHocQuery
end BillingQuery
