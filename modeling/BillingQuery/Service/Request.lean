import BillingQuery.Json.Embedded
import BillingQuery.Query.AdHocWire
import BillingQuery.Service.Answer
import BillingQuery.Service.MediaType
import BillingQuery.Text.Percent

/-!
# Requests

A request has a method, a target, headers and a body. The routes are told apart by the path of the
target alone; a query after it is ignored, and a resource name in it is percent-decoded. The bodies
that the routes take are JSON, and must be declared so. Members of a body that are no fields are
not read.
-/

namespace BillingQuery

structure Request where
  method : String
  target : String
  headers : Headers
  body : String

def segmentName (segment : String) : Except Answer String :=
  match Text.percentDecode? segment with
  | some name => .ok name
  | none => .error .unreadablePath

/-! ## Bodies -/

/-- Checks that a request declares its body as JSON. -/
def Request.checkContentType (req : Request) : Except Answer Unit :=
  match req.headers.get? "Content-Type" with
  | none => .error .missingContentType
  | some value =>
    if (MediaType.ofText? value).any MediaType.isJson then .ok ()
    else .error (.wrongContentType value)

/-- The needed parts of the body of a request, decoded. -/
def Request.decodeBody (req : Request) (parts : Json.Parts)
    (decode : Json → Except DecodeError α) : Except Answer α := do
  req.checkContentType
  match (Json.readParts? parts Json.maxNesting req.body).map decode with
  | some (.ok a) => return a
  | _ => throw .unreadableBody

inductive Evaluation
  | database
  | memory
deriving DecidableEq

def Evaluation.variants : List (String × Evaluation) :=
  [("database", .database), ("memory", .memory)]

def Evaluation.decode : Json → Except DecodeError Evaluation := Json.asVariant false variants

structure FilterRequest where
  filter : Option Json
  sort : Option SortSpec
  limit : Option Int
  offset : Option Int
  evaluate : Evaluation

namespace FilterRequest

def empty : FilterRequest := ⟨none, none, none, none, .database⟩

def fieldNames : List String := ["filter", "sort", "limit", "offset", "evaluate"]

/-- The fields, and those of the sort. -/
def parts : Json.Parts :=
  .fields [("filter", .whole), ("sort", SortSpec.parts), ("limit", .whole), ("offset", .whole),
    ("evaluate", .whole)]

/-- Reads one field. A name that is no field's is ignored. -/
def readField (name : String) (j : Json) (q : FilterRequest) :
    Except DecodeError FilterRequest :=
  match name with
  | "filter" => return { q with filter := ← j.asOption Json.asValue }
  | "sort" => return { q with sort := ← j.asOption SortSpec.decode }
  | "limit" => return { q with limit := ← j.asOption Json.asInt64 }
  | "offset" => return { q with offset := ← j.asOption Json.asInt64 }
  | "evaluate" => return { q with evaluate := ← Evaluation.decode j }
  | _ => return q

def readFields (fields : List (String × Json)) : Except DecodeError FilterRequest :=
  fields.foldlM (fun q (name, j) => readField name j q) empty

/-- An object, or the list of the fields in order, of which any may be left out at the end. -/
def decode : Json → Except DecodeError FilterRequest
  | .object members => do
    if let some name := Json.repeatedName? fieldNames members then throw (.duplicateField name)
    readFields members
  | .array items => do
    let q ← readFields (fieldNames.zip items)
    if fieldNames.length < items.length then throw (.tooLong items.length)
    return q
  | j => .error (.wrongType j "struct FilterRequest")

end FilterRequest

def rawStatementParts : Json.Parts := .ofNames ["sql"]

/-- The statement of a raw query, as an object or as the only item of a list. -/
def decodeRawStatement : Json → Except DecodeError String
  | .object members => do
    if let some name := Json.repeatedName? ["sql"] members then throw (.duplicateField name)
    (← required "sql" (members.lookup "sql")).asString
  | .array items => do
    let sql ← (← Json.itemAt items 0 "struct CustomSqlRequest" 1).asString
    if 1 < items.length then throw (.tooLong items.length)
    return sql
  | j => .error (.wrongType j "struct CustomSqlRequest")

end BillingQuery
