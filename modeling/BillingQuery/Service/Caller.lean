import BillingQuery.Text.Blank
import BillingQuery.Text.Fold

/-!
# Callers

A caller is known by two headers, which the gateway in front of the service sets: the tenant it acts
for, and its role. The gateway authenticates; here the headers are only read and checked.
-/

namespace BillingQuery

inductive Role
  | member
  | admin
deriving DecidableEq

namespace Role

def name : Role → String
  | member => "member"
  | admin => "admin"

/-- The role that a header names. Whatever is not the administrator's is a member's. -/
def ofText (raw : Option String) : Role :=
  if raw.any fun s => Text.sameFold (Text.trim s) "admin" then admin else member

end Role

inductive CallerError
  | missingTenant
  | malformedTenant
  | notAdmin
deriving DecidableEq

def tenantHeader : String := "X-Tenant-Id"
def roleHeader : String := "X-Role"

namespace CallerError

def message : CallerError → String
  | missingTenant => "Missing required header: " ++ tenantHeader
  | malformedTenant =>
    "Invalid format: " ++ tenantHeader ++
      " must be 1-128 characters of letters, digits, '.', '_' or '-'"
  | notAdmin => "Forbidden: admin role required"

def status : CallerError → Nat
  | missingTenant => 401
  | malformedTenant => 400
  | notAdmin => 403

end CallerError

/-- One to 128 ASCII letters, digits, underscores, dots and hyphens, with a letter or a digit
first. -/
def isTenantId (cs : List Char) : Bool :=
  match cs with
  | [] => false
  | c :: rest =>
    c.isAlphanum && rest.length ≤ 127 &&
      rest.all fun d => d.isAlphanum || d = '_' || d = '.' || d = '-'

/-- The tenant that a header names, without the white space around it. -/
def tenantOfText (raw : String) : Except CallerError String :=
  let cs := Text.trimChars raw.toList
  if isTenantId cs then .ok (String.ofList cs) else .error .malformedTenant

/-- Header lines in the order of the request. -/
abbrev Headers := List (String × String)

namespace Headers

/-- A value without control characters, except tabs, can be sent. -/
def isSendable (value : String) : Bool :=
  value.toList.all fun c => (32 ≤ c.toNat && c.toNat ≠ 127) || c = '\t'

/-- A value of visible ASCII characters, spaces and tabs can be read as text. -/
def isReadable (value : String) : Bool :=
  value.toList.all fun c => (32 ≤ c.toNat && c.toNat < 127) || c = '\t'

def has (headers : Headers) (name : String) : Bool :=
  headers.any fun (n, _) => Text.sameFold n name

/-- The value of the first header with this name, in either case, if it can be read. -/
def get? (headers : Headers) (name : String) : Option String :=
  ((headers.find? fun (n, _) => Text.sameFold n name).map (·.2)).filter isReadable

end Headers

structure Caller where
  tenant : String
  role : Role
deriving DecidableEq

namespace Caller

def ofHeaders (headers : Headers) : Except CallerError Caller :=
  match headers.get? tenantHeader with
  | none => .error .missingTenant
  | some raw => do
    let tenant ← tenantOfText raw
    return ⟨tenant, .ofText (headers.get? roleHeader)⟩

def adminOfHeaders (headers : Headers) : Except CallerError Caller := do
  let caller ← ofHeaders headers
  if caller.role = .admin then .ok caller else .error .notAdmin

end Caller
end BillingQuery
