import BillingQuery.Json.Basic
import BillingQuery.Query.AllowList
import BillingQuery.Schema.Field

/-!
# The catalogue

What a caller may ask for, as JSON: the fields of a resource without their columns, and the tables
of the allow list without their tenant columns.
-/

namespace BillingQuery

def EnumOption.toJson (o : EnumOption) : Json :=
  .object [("value", .string o.value), ("label", .string o.label)]

/-- A field for callers. A field without enumerated values has no list of them. -/
def Field.toJson (f : Field) : Json :=
  let options :=
    if f.options.isEmpty then [] else [("enumValues", .array (f.options.map EnumOption.toJson))]
  .object ([("key", .string f.key), ("label", .string f.label), ("type", .string f.type.name)] ++
    options ++ [("operators", .array (f.operators.map fun op => .string op.name))])

def AllowedTable.toJson (t : AllowedTable) : Json :=
  .object [("table", .string t.name), ("columns", .array (t.columns.map Json.string))]

end BillingQuery
