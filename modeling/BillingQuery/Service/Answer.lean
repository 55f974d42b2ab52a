import BillingQuery.Json.Basic
import BillingQuery.Schema.Resource
import BillingQuery.Query.Error
import BillingQuery.Service.Caller

/-!
# Answers

An answer has a status and a body. What a handler returns goes into an envelope that says whether
it succeeded; a request that reaches no handler, or is turned away before its handler runs, is
answered with plain text.
-/

namespace BillingQuery

inductive AnswerBody
  | text (s : String)
  | json (j : Json)

structure Answer where
  status : Nat
  body : AnswerBody

namespace Answer

/-! ## Plain answers -/

def plain (status : Nat) (s : String) : Answer := ⟨status, .text s⟩

def notFound : Answer := plain 404 "not found"
def methodNotAllowed : Answer := plain 405 "method not allowed"
def missingContentType : Answer := plain 415 "expect content type `application/json`"
def unreadablePath : Answer := plain 400 "invalid path params"
def unreadableBody : Answer := plain 400 "parse error"

def wrongContentType (value : String) : Answer :=
  plain 415 ("invalid content type `" ++ value ++ "`, expect: `application/json`")

def permitted : Answer := plain 200 ""
def intendedMethodRefused : Answer := plain 403 "request-method not allowed"

def refused (e : CallerError) : Answer := plain e.status e.message

/-! ## Envelopes -/

def success (data : Json) : Answer :=
  ⟨200, .json (.object [("success", .bool true), ("data", data), ("error", .null)])⟩

/-- The answer without its envelope; a plain text stays. -/
def withoutEnvelope (a : Answer) : Answer :=
  match a.body with
  | .json _ => plain a.status ""
  | .text _ => a

def failure (status : Nat) (message kind : String) (alternatives : Option (List String)) : Answer :=
  let names :=
    match alternatives with
    | some names => [("validAlternatives", .array (names.map Json.string))]
    | none => []
  ⟨status, .json (.object ([("success", .bool false), ("data", .null), ("error", .string message),
    ("errorKind", .string kind)] ++ names))⟩

/-- A rejection is the caller's fault; a timeout or a failed execution is not. -/
def statusOf : QueryError → Nat
  | .timeout _ => 504
  | .executionFailed _ => 500
  | _ => 400

def queryFailed (e : QueryError) : Answer :=
  failure (statusOf e) e.message e.kind e.alternatives?

def unknownResource (name : String) : Answer :=
  failure 404 ("Unknown resource '" ++ name ++ "'") "unknown_resource"
    (some (Resource.all.map Resource.name))

/-- The envelope of a result. -/
def ofResult (encode : α → Json) : Except QueryError α → Answer
  | .ok a => success (encode a)
  | .error e => queryFailed e

end Answer
end BillingQuery
