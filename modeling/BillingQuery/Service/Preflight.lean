import BillingQuery.Service.Request

/-!
# Preflight requests

Before a request from another origin, a browser asks by OPTIONS whether it may be made, and names
its method in a header. Every origin may make any request to any path, so the answer depends on the
question alone: one that names no method is refused.
-/

namespace BillingQuery

def originHeader : String := "Origin"
def intendedMethodHeader : String := "Access-Control-Request-Method"

/-- The name of a method is a token. -/
def isMethodName (s : String) : Bool := !s.isEmpty && s.toList.all MediaType.isTokenChar

/-- Whether a request asks whether another one may be made. -/
def Request.isPreflight (req : Request) : Bool :=
  req.method = "OPTIONS" && req.headers.has originHeader

def Request.answerPreflight (req : Request) : Answer :=
  if (req.headers.get? intendedMethodHeader).any isMethodName then .permitted
  else .intendedMethodRefused

end BillingQuery
