import BillingQuery.Json.Decode
import BillingQuery.Json.Parts
import BillingQuery.Sql.Statement

/-!
# Requested orderings

A listing may be ordered by one field, ascending unless said otherwise.
-/

namespace BillingQuery

def SortDirection.variants : List (String × SortDirection) := [("asc", .asc), ("desc", .desc)]

def SortDirection.decode : Json → Except DecodeError SortDirection :=
  Json.asVariant false variants

/-- An ordering by field key. -/
structure SortSpec where
  field : String
  direction : SortDirection
deriving DecidableEq

namespace SortSpec

def fieldNames : List String := ["field", "direction"]

def parts : Json.Parts := .ofNames fieldNames

/-- The fields that the members have given. -/
structure Draft where
  field : Option String
  direction : Option SortDirection

def Draft.ofMembers : List (String × Json) → Except DecodeError Draft
  | [] => .ok ⟨none, none⟩
  | (name, j) :: rest =>
    match name with
    | "field" => do let s ← j.asString; return { ← ofMembers rest with field := some s }
    | "direction" => do
      let d ← SortDirection.decode j
      return { ← ofMembers rest with direction := some d }
    | _ => ofMembers rest

def decode : Json → Except DecodeError SortSpec
  | .object members => do
    if let some name := Json.repeatedName? fieldNames members then
      throw (.duplicateField name)
    let d ← Draft.ofMembers members
    return ⟨← required "field" d.field, d.direction.getD .asc⟩
  | .array items => do
    let field ← (← Json.itemAt items 0 "struct SortSpec" 2).asString
    let direction ← match items[1]? with
      | some j => SortDirection.decode j
      | none => pure .asc
    if 2 < items.length then throw (.tooLong items.length)
    return ⟨field, direction⟩
  | j => .error (.wrongType j "struct SortSpec")

end SortSpec
end BillingQuery
