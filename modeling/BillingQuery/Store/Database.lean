import BillingQuery.Store.Layout

/-!
# The database

A database has the rows of each table in ascending order of their ids. A row is seen through
`Row.cell`; a column that it does not have is null.
-/

namespace BillingQuery

open Sql (Cell)

/-- What the store says when something fails. -/
def storeMessage (code : Nat) (reason : String) : String :=
  "error returned from database: (code: " ++ natText code ++ ") " ++ reason

/-- The cells of a row under the names of their columns. -/
structure Row where
  cells : List (String × Cell)
deriving DecidableEq

namespace Row

def cell (row : Row) (name : String) : Cell := (row.cells.lookup name).getD .null

def id (row : Row) : Int :=
  match row.cell "id" with
  | .integer n => n
  | _ => 0

end Row

structure Database where
  clients : List Row
  invoices : List Row
  licenses : List Row
  cashAccounts : List Row
  cashTransactions : List Row
deriving DecidableEq

namespace Database

def empty : Database := ⟨[], [], [], [], []⟩

def rows (db : Database) : Resource → List Row
  | .clients => db.clients
  | .invoices => db.invoices
  | .licenses => db.licenses
  | .cashAccounts => db.cashAccounts
  | .cashTransactions => db.cashTransactions

def withRows (db : Database) (r : Resource) (rows : List Row) : Database :=
  match r with
  | .clients => { db with clients := rows }
  | .invoices => { db with invoices := rows }
  | .licenses => { db with licenses := rows }
  | .cashAccounts => { db with cashAccounts := rows }
  | .cashTransactions => { db with cashTransactions := rows }

theorem rows_withRows (db : Database) (r s : Resource) (rows : List Row) :
    (db.withRows r rows).rows s = if s = r then rows else db.rows s := by
  cases r <;> cases s <;> rfl

end Database
end BillingQuery
