import BillingQuery.Schema.Resource
import BillingQuery.Sql.Cell
import BillingQuery.Text.Fold

/-!
# Layouts

The columns of each table, in order: the affinity by which a value is stored, the value of a column
that an insertion leaves out, whether there must be one, and the table whose ids it has. Every table
has an integer `id`, which is its key, and a `tenant_id`. Names are looked up in either case.
-/

namespace BillingQuery

open Sql (Affinity Cell)

structure Column where
  name : String
  affinity : Affinity
  default : Cell
  isRequired : Bool
  /-- The table that has a row with the id that stands here. -/
  target? : Option Resource
deriving DecidableEq

namespace Column

def nullable (name : String) (affinity : Affinity) : Column := ⟨name, affinity, .null, false, none⟩

def required (name : String) (affinity : Affinity) : Column :=
  { nullable name affinity with isRequired := true }

/-- A column with a number as its default. -/
def counted (name : String) (affinity : Affinity) (n : Int) : Column :=
  { required name affinity with default := (Cell.integer n).store affinity }

def reference (name : String) (target : Resource) : Column :=
  { required name .integer with target? := some target }

end Column

namespace Resource

/-- The columns of the table. A flag is stored as a number. -/
def layout : Resource → List Column
  | clients => [
    -- an `id` that is left out is made up, so that it is not required
    .nullable "id" .integer, .required "tenant_id" .text, .required "name" .text,
    .nullable "email" .text, .required "status" .text, .nullable "plan" .text,
    .nullable "monthly_value" .real, .counted "auto_renew" .numeric 0,
    .required "created_at" .text, .nullable "tax_id" .text, .nullable "internal_notes" .text]
  | invoices => [
    .nullable "id" .integer, .required "tenant_id" .text, .required "invoice_number" .text,
    .reference "client_id" clients, .required "status" .text, .required "amount" .real,
    .required "currency" .text, .required "issue_date" .text, .required "due_date" .text,
    .nullable "paid_at" .text, .nullable "pdf_blob" .blob]
  | licenses => [
    .nullable "id" .integer, .required "tenant_id" .text, .required "license_key" .text,
    .reference "client_id" clients, .required "product" .text, .required "status" .text,
    .counted "seats" .integer 1, .counted "auto_renew" .numeric 0,
    .nullable "expires_at" .text, .nullable "signing_secret" .text]
  | cashAccounts => [
    .nullable "id" .integer, .required "tenant_id" .text, .required "name" .text,
    .required "account_type" .text, .counted "balance" .real 0, .required "currency" .text,
    .counted "is_active" .numeric 1, .required "opened_at" .text]
  | cashTransactions => [
    .nullable "id" .integer, .required "tenant_id" .text, .reference "account_id" cashAccounts,
    .required "direction" .text, .nullable "category" .text, .nullable "description" .text,
    .required "amount" .real, .counted "reconciled" .numeric 0, .required "occurred_at" .text]

/-- The column by which the rows of a tenant are kept in order too, and of which no tenant has a
value twice. -/
def numbering : Resource → Option String
  | invoices => some "invoice_number"
  | clients | licenses | cashAccounts | cashTransactions => none

def ofTable? (name : String) : Option Resource :=
  all.find? fun r => Text.sameFold r.schema.table name

def column? (r : Resource) (name : String) : Option Column :=
  r.layout.find? fun c => Text.sameFold c.name name

/-- The affinity of a column; what is no column has none of its own. -/
def affinity (r : Resource) (name : String) : Affinity :=
  match r.column? name with
  | some c => c.affinity
  | none => .blob

end Resource
end BillingQuery
