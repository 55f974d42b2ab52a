import BillingQuery.Schema.Field

/-!
# Resources

The five resources of the service with their filterable fields. Columns that are not listed, such
as those for tax numbers, notes, documents and secrets, are out of reach of every filter.
-/

namespace BillingQuery

inductive Resource
  | clients
  | invoices
  | licenses
  | cashAccounts
  | cashTransactions
deriving DecidableEq

namespace Resource

/-- All resources, in the order of their declaration. -/
def all : List Resource := [.clients, .invoices, .licenses, .cashAccounts, .cashTransactions]

/-- The name in a path. -/
def name : Resource → String
  | clients => "clients"
  | invoices => "invoices"
  | licenses => "licenses"
  | cashAccounts => "cash-accounts"
  | cashTransactions => "cash-transactions"

def ofName? (name : String) : Option Resource := all.find? (·.name == name)

/-- A reference to another row is compared whole. -/
def reference (key label column : String) : Field :=
  (Field.plain key label column .id).withOperators [.equals, .oneOf]

def clientFields : List Field := [
  .plain "id" "ID" "id" .id,
  .plain "name" "Name" "name" .string,
  .plain "email" "Email" "email" .string,
  .enumeration "status" "Status" "status"
    [⟨"active", "Active"⟩, ⟨"inactive", "Inactive"⟩, ⟨"trial", "Trial"⟩],
  .enumeration "plan" "Plan" "plan"
    [⟨"basic", "Basic"⟩, ⟨"professional", "Professional"⟩, ⟨"enterprise", "Enterprise"⟩],
  .plain "monthlyValue" "Monthly value" "monthly_value" .number,
  .plain "autoRenew" "Auto renew" "auto_renew" .boolean,
  .plain "createdAt" "Created" "created_at" .date]

def invoiceFields : List Field := [
  .plain "id" "ID" "id" .id,
  .plain "invoiceNumber" "Invoice number" "invoice_number" .string,
  reference "clientId" "Client" "client_id",
  .enumeration "status" "Status" "status"
    [⟨"draft", "Draft"⟩, ⟨"sent", "Sent"⟩, ⟨"paid", "Paid"⟩, ⟨"overdue", "Overdue"⟩,
      ⟨"cancelled", "Cancelled"⟩],
  .plain "amount" "Amount" "amount" .number,
  .plain "currency" "Currency" "currency" .string,
  .plain "issueDate" "Issue date" "issue_date" .date,
  .plain "dueDate" "Due date" "due_date" .date]

def licenseFields : List Field := [
  .plain "id" "ID" "id" .id,
  .plain "licenseKey" "License key" "license_key" .string,
  reference "clientId" "Client" "client_id",
  .plain "product" "Product" "product" .string,
  .enumeration "status" "Status" "status"
    [⟨"active", "Active"⟩, ⟨"expired", "Expired"⟩, ⟨"suspended", "Suspended"⟩,
      ⟨"revoked", "Revoked"⟩],
  .plain "seats" "Seats" "seats" .number,
  .plain "autoRenew" "Auto renew" "auto_renew" .boolean,
  .plain "expiresAt" "Expires" "expires_at" .date]

def cashAccountFields : List Field := [
  .plain "id" "ID" "id" .id,
  .plain "name" "Name" "name" .string,
  .enumeration "accountType" "Type" "account_type"
    [⟨"cash", "Cash"⟩, ⟨"bank", "Bank"⟩, ⟨"card", "Card"⟩],
  .plain "balance" "Balance" "balance" .number,
  .plain "currency" "Currency" "currency" .string,
  .plain "isActive" "Active" "is_active" .boolean,
  .plain "openedAt" "Opened" "opened_at" .date]

def cashTransactionFields : List Field := [
  .plain "id" "ID" "id" .id,
  reference "accountId" "Account" "account_id",
  .enumeration "direction" "Direction" "direction"
    [⟨"inflow", "Inflow"⟩, ⟨"outflow", "Outflow"⟩],
  .plain "category" "Category" "category" .string,
  .plain "description" "Description" "description" .string,
  .plain "amount" "Amount" "amount" .number,
  .plain "reconciled" "Reconciled" "reconciled" .boolean,
  .plain "occurredAt" "Date" "occurred_at" .date]

def schema : Resource → Schema
  | clients => ⟨"clients", "tenant_id", clientFields⟩
  | invoices => ⟨"invoices", "tenant_id", invoiceFields⟩
  | licenses => ⟨"licenses", "tenant_id", licenseFields⟩
  | cashAccounts => ⟨"cash_accounts", "tenant_id", cashAccountFields⟩
  | cashTransactions => ⟨"cash_transactions", "tenant_id", cashTransactionFields⟩

def fields (r : Resource) : List Field := r.schema.fields

end Resource
end BillingQuery
