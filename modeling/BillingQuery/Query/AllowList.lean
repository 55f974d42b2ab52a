import BillingQuery.Query.Error

/-!
# The allow list

The tables and columns that an ad-hoc query may name. A name is looked up whole and in its exact
spelling, and what goes into a statement is the entry of the list. The tenant column is no entry,
so a caller can neither read it nor test it.
-/

namespace BillingQuery

/-- A letter or underscore, then letters, digits and underscores, all ASCII. -/
def isIdentifier (name : String) : Bool :=
  match name.toList with
  | [] => false
  | c :: cs => (c.isAlpha || c = '_') && cs.all fun d => d.isAlphanum || d = '_'

structure AllowedTable where
  name : String
  tenantColumn : String
  columns : List String
deriving DecidableEq

namespace AllowedTable

def all : List AllowedTable := [
  ⟨"clients", "tenant_id",
    ["id", "name", "email", "status", "plan", "monthly_value", "auto_renew", "created_at"]⟩,
  ⟨"invoices", "tenant_id",
    ["id", "invoice_number", "client_id", "status", "amount", "currency", "issue_date",
      "due_date", "paid_at"]⟩,
  ⟨"licenses", "tenant_id",
    ["id", "license_key", "client_id", "product", "status", "seats", "auto_renew",
      "expires_at"]⟩,
  ⟨"cash_accounts", "tenant_id",
    ["id", "name", "account_type", "balance", "currency", "is_active", "opened_at"]⟩,
  ⟨"cash_transactions", "tenant_id",
    ["id", "account_id", "direction", "category", "description", "amount", "reconciled",
      "occurred_at"]⟩]

def ofName (name : String) : Except QueryError AllowedTable :=
  match all.find? (·.name == name) with
  | some t => .ok t
  | none => .error (.invalidName .table name (all.map AllowedTable.name))

def column (t : AllowedTable) (name : String) : Except QueryError String :=
  match t.columns.find? (· == name) with
  | some c => .ok c
  | none => .error (.invalidName .column name t.columns)

/-- All the named columns; the first name that is not allowed is reported. -/
def columnsNamed (t : AllowedTable) (names : List String) : Except QueryError (List String) :=
  names.mapM t.column

/-- The tenant column cannot be named. -/
theorem tenantColumn_notMem_columns {t : AllowedTable} (h : t ∈ all) :
    t.tenantColumn ∉ t.columns := by
  revert t
  decide +kernel

end AllowedTable
end BillingQuery
