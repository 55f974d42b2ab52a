import BillingQuery.Json.Writer
import BillingQuery.Service.Request

/-!
# Requests and answers on the wire

A request is a JSON object with `method`, `path`, `headers` and `body`, an answer one with `status`
and `body`. A body that is a string is taken as it is; any other value stands for its text, in a
request as in an answer. A header whose value has a control character other than a tab cannot be
sent, and is left out.
-/

namespace BillingQuery

/-- The text of a member, or a default. -/
def Json.textOr (j : Json) (name default : String) : String :=
  match j.get? name with
  | some (.string s) => s
  | _ => default

namespace Request

/-- The headers that are texts and can be sent, in order. -/
def headersOfJson : Option Json → Headers
  | some (.object members) => members.filterMap fun (name, j) =>
    match j with
    | .string s => if Headers.isSendable s then some (name, s) else none
    | _ => none
  | _ => []

def bodyOfJson : Option Json → String
  | some (.string s) => s
  | some j => j.write
  | none => ""

def ofJson (j : Json) : Request where
  method := j.textOr "method" "GET"
  target := j.textOr "path" "/"
  headers := headersOfJson (j.get? "headers")
  body := bodyOfJson (j.get? "body")

end Request

/-- The body as it is read from its text. Numbers are read as in a request, so a real may come out
as a neighbour of the one that was written. -/
def AnswerBody.toJson : AnswerBody → Json
  | .text s => .string s
  | .json j => (Json.valueOfText? Json.maxNesting j.write).getD (.string j.write)

def Answer.toJson (a : Answer) : Json :=
  .object [("status", Json.int a.status), ("body", a.body.toJson)]

end BillingQuery
