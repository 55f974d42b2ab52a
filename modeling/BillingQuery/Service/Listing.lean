import BillingQuery.Filter.Record
import BillingQuery.Query.Compile
import BillingQuery.Query.Limits
import BillingQuery.Store.Run

/-!
# Listings

A page of the records of a resource that pass a filter. The filter is run by the store, as the
compiled statement, or here, on records that were loaded without a filter. Loading stops at the
greatest limit, so the second way sees at most that many records.
-/

namespace BillingQuery

structure ListingQuery where
  filter : FilterGroup
  sort : Option SortSpec
  limit : Option Int
  offset : Option Int

/-- A page of records, with the issues met in the filter and the bounds that were used. -/
structure RecordPage where
  records : List Json
  issues : List String
  limit : Int
  offset : Int

/-- A stored flag, as the boolean that it stands for; any other value stays as it is. -/
def restoreFlag (j : Json) : Json :=
  match j with
  | .number (.integer n) =>
    match Json.flagOfInt? n with
    | some b => .bool b
    | none => j
  | j => j

def Schema.isFlag (s : Schema) (key : String) : Bool :=
  s.fields.any fun f => f.key == key && f.type == .boolean

/-- A record with the flags of its boolean fields restored. -/
def Schema.restoreFlags (s : Schema) (record : Json) : Json :=
  match record with
  | .object members =>
    .object (members.map fun (key, j) => (key, if s.isFlag key then restoreFlag j else j))
  | j => j

def Schema.recordOf (s : Schema) (row : Sql.ResultRow) : Json := s.restoreFlags (Sql.recordOf row)

def filterRecords (r : Resource) (g : FilterGroup) (records : List Json) :
    Except QueryError (List Json × List FilterIssue) := do
  g.checkComplexity
  return (g.select r.fields records, g.issues r.fields)

namespace Database

def search (db : Database) (r : Resource) (tenant : String) (q : ListingQuery)
    (limits : QueryLimits) : Except QueryError RecordPage := do
  let compiled ← compile q.filter r.schema tenant q.sort
  let limit := limits.clamp q.limit
  let offset := effectiveOffset q.offset
  let rows ← ((compiled.select limit offset).run db).mapError fun e => .executionFailed e.message
  return ⟨rows.map r.schema.recordOf, compiled.issues.map FilterIssue.message, limit, offset⟩

/-- The page, filtered and cut from what a listing without a filter loads. -/
def searchLoaded (db : Database) (r : Resource) (tenant : String) (q : ListingQuery)
    (limits : QueryLimits) : Except QueryError RecordPage := do
  q.filter.checkComplexity
  let loaded ← db.search r tenant ⟨.empty, q.sort, some limits.maxLimit, some 0⟩ limits
  let (matched, issues) ← filterRecords r q.filter loaded.records
  let limit := limits.clamp q.limit
  let offset := effectiveOffset q.offset
  return ⟨(matched.drop offset.toNat).take limit.toNat, issues.map FilterIssue.message, limit,
    offset⟩

end Database
end BillingQuery
