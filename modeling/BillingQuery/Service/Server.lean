import BillingQuery.Filter.Wire
import BillingQuery.Service.Catalogue
import BillingQuery.Service.Listing
import BillingQuery.Service.Preflight
import BillingQuery.Service.Route
import BillingQuery.Service.Settings
import BillingQuery.Store.RawQuery

/-!
# The service

`answer` gives the answer to a request over a database. A preflight is answered first. Any other
request is checked in a fixed order: path and method, the caller, the encoding of the path, the
body, and only then the name of the resource. Listings and ad-hoc queries are confined to the
caller's tenant by the statements that they run; raw statements are not, and are for administrators.
-/

namespace BillingQuery

def serviceVersion : String := "0.1.0"

namespace RecordPage

def toJson (p : RecordPage) : Json :=
  .object [("records", .array p.records), ("issues", .array (p.issues.map Json.string)),
    ("limit", Json.int p.limit), ("offset", Json.int p.offset)]

end RecordPage

/-- The rows of a raw statement, and whether more were left out. -/
structure RawResult where
  rows : List Json
  truncated : Bool

def RawResult.toJson (r : RawResult) : Json :=
  .object [("rows", .array r.rows), ("truncated", .bool r.truncated)]

namespace Database

/-- The rows of an ad-hoc query for a tenant. -/
def runAdHoc (db : Database) (q : AdHocQuery) (tenant : String) (limits : QueryLimits) :
    Except QueryError (List Json) := do
  let statement ← q.assemble tenant limits
  let rows ← (statement.run db).mapError fun e => .executionFailed e.message
  return rows.map Sql.recordOf

/-- The stream of results that a raw statement gives. -/
def rawStream (db : Database) (statement : String) :
    List (Except Sql.RunError Sql.ResultRow) :=
  let rows? := do
    let some q := Sql.RawQuery.read? statement | throw Sql.RunError.unreadable
    q.run db
  match rows? with
  | .ok rows => rows.map .ok
  | .error e => [.error e]

/-- The first `maxRows` rows of a raw statement that the guard lets pass. -/
def runRaw (db : Database) (guard : StatementGuard) (maxRows : Nat) (sql : String) :
    Except QueryError RawResult := do
  let statement ← guard.validate sql
  let decode (row : Sql.ResultRow) : Except Sql.RunError Json := .ok (Sql.recordOf row)
  let (rows, truncated) ← (Sql.collectRows decode maxRows (db.rawStream statement)).mapError
    fun e => .executionFailed e.message
  return ⟨rows, truncated⟩

def list (db : Database) (r : Resource) (tenant : String) (q : FilterRequest)
    (limits : QueryLimits) : Except QueryError RecordPage := do
  let filter ← match q.filter with
    | some j => FilterGroup.ofJson j
    | none => pure .empty
  let query : ListingQuery := ⟨filter, q.sort, q.limit, q.offset⟩
  match q.evaluate with
  | .database => db.search r tenant query limits
  | .memory => db.searchLoaded r tenant query limits

end Database

/-! ## Handlers -/

def Request.caller (req : Request) : Except Answer Caller :=
  (Caller.ofHeaders req.headers).mapError Answer.refused

def Request.admin (req : Request) : Except Answer Caller :=
  (Caller.adminOfHeaders req.headers).mapError Answer.refused

def resourceNamed (name : String) : Except Answer Resource :=
  match Resource.ofName? name with
  | some r => .ok r
  | none => .error (.unknownResource name)

/-- What a route gives for a request; an error is an answer too, given before the rest is looked
at. -/
def handle (settings : Settings) (db : Database) (req : Request) : Route → Except Answer Answer
  | .health =>
    .ok (.success (.object [("status", .string "ok"), ("version", .string serviceVersion)]))
  | .fields segment => do
    let r ← resourceNamed (← segmentName segment)
    return .success (.array (r.fields.map Field.toJson))
  | .listing segment => do
    let caller ← req.caller
    let name ← segmentName segment
    let q ← req.decodeBody FilterRequest.parts FilterRequest.decode
    let r ← resourceNamed name
    return .ofResult RecordPage.toJson (db.list r caller.tenant q settings.limits)
  | .tables => do
    let _ ← req.admin
    return .success (.array (AllowedTable.all.map AllowedTable.toJson))
  | .adHoc => do
    let caller ← req.admin
    let q ← req.decodeBody AdHocQuery.parts AdHocQuery.decode
    return .ofResult Json.array (db.runAdHoc q caller.tenant settings.limits)
  | .raw => do
    let _ ← req.admin
    let sql ← req.decodeBody rawStatementParts decodeRawStatement
    return .ofResult RawResult.toJson (db.runRaw settings.guard settings.maxRows sql)

/-- The answer of a route, whether it was given early or not. -/
def answerRoute (settings : Settings) (db : Database) (req : Request) (route : Route) : Answer :=
  match handle settings db req route with
  | .ok a | .error a => a

/-- The answer by path and method. HEAD asks for what GET would give, without its envelope. -/
def answerTarget (settings : Settings) (db : Database) (req : Request) : Answer :=
  match Route.ofTarget? req.target with
  | none => .notFound
  | some route =>
    if req.method = route.method then answerRoute settings db req route
    else if req.method = "HEAD" && route.method = "GET" then
      (answerRoute settings db req route).withoutEnvelope
    else .methodNotAllowed

def answer (settings : Settings) (db : Database) (req : Request) : Answer :=
  if req.isPreflight then req.answerPreflight else answerTarget settings db req

end BillingQuery
