import BillingQuery.Number.Numeral
import BillingQuery.Query.Limits
import BillingQuery.Query.StatementGuard
import BillingQuery.Text.Blank

/-!
# Settings

The settings of the service, read from environment variables. A number that is absent, malformed or
too large for its width leaves the default in place, so that a slip in one variable never stops the
service or touches another setting.
-/

namespace BillingQuery

structure Settings where
  databaseUrl : String
  listenPort : Nat
  maxConnections : Nat
  limits : QueryLimits
  guard : StatementGuard
  timeoutMs : Nat
  maxRows : Nat
deriving DecidableEq

/-- The text of each variable that is set. -/
abbrev Environment := String → Option String

namespace Settings

def standard : Settings where
  databaseUrl := "sqlite:./billing.db?mode=rwc"
  listenPort := 8080
  maxConnections := 5
  limits := .standard
  guard := .standard
  timeoutMs := 5000
  maxRows := 1000

/-- A number without sign below `2^bits`, with white space around it or not. -/
def unsigned? (bits : Nat) (text : String) : Option Nat :=
  (Numeral.natural? (Text.trimChars text.toList)).filter (· < 2 ^ bits)

/-- A number that fits `bits` bits with a sign, with white space around it or not. -/
def signed? (bits : Nat) (text : String) : Option Int :=
  (Numeral.integer? (Text.trimChars text.toList)).filter fun n =>
    -2 ^ (bits - 1) ≤ n && n < 2 ^ (bits - 1)

def valueOr (env : Environment) (name : String) (read : String → Option α) (default : α) : α :=
  ((env name).bind read).getD default

def variableNames : List String :=
  ["DATABASE_URL", "PORT", "DATABASE_MAX_CONNECTIONS", "QUERY_DEFAULT_LIMIT", "QUERY_MAX_LIMIT",
    "RAW_SQL_MAX_LENGTH", "RAW_SQL_TIMEOUT_MS", "RAW_SQL_MAX_ROWS"]

def ofEnvironment (env : Environment) : Settings where
  databaseUrl := valueOr env "DATABASE_URL" some standard.databaseUrl
  listenPort := valueOr env "PORT" (unsigned? 16) standard.listenPort
  maxConnections := valueOr env "DATABASE_MAX_CONNECTIONS" (unsigned? 32) standard.maxConnections
  limits :=
    { defaultLimit := valueOr env "QUERY_DEFAULT_LIMIT" (signed? 64) standard.limits.defaultLimit
      maxLimit := valueOr env "QUERY_MAX_LIMIT" (signed? 64) standard.limits.maxLimit }
  guard := ⟨valueOr env "RAW_SQL_MAX_LENGTH" (unsigned? 64) standard.guard.maxLength⟩
  timeoutMs := valueOr env "RAW_SQL_TIMEOUT_MS" (unsigned? 64) standard.timeoutMs
  maxRows := valueOr env "RAW_SQL_MAX_ROWS" (unsigned? 64) standard.maxRows

end Settings
end BillingQuery
