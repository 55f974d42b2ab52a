import BillingQuery.Json.Reader
import BillingQuery.Json.Writer
import BillingQuery.Store.Insertion

/-!
# Tables on the wire

The contents of a database as a JSON object: for each table the list of its rows, each an object of
column values. Flags are written as booleans, bytes as an object with the one member `hex`.
-/

namespace BillingQuery

namespace Sql

/-- The bytes that pairs of hexadecimal digits write; a pair that is none is left out. -/
def bytesOfHex : List Char → List UInt8
  | high :: low :: rest =>
    match Json.hexValue? high, Json.hexValue? low with
    | some h, some l => UInt8.ofNat (16 * h + l) :: bytesOfHex rest
    | _, _ => bytesOfHex rest
  | _ => []

/-- The cell of a number: an integer past 64 bits is a real. -/
def Cell.ofNumber (n : JsonNumber) : Cell :=
  match n.toInt64?, n.toBinary64? with
  | some i, _ => .integer i
  | none, some x => .real x
  | none, none => .null

def Cell.ofJson : Json → Cell
  | .null => .null
  | .bool b => .integer (if b then 1 else 0)
  | .number n => .ofNumber n
  | .string s => .text s
  | .object [("hex", .string s)] => .blob (bytesOfHex s.toList)
  | j => .text j.write

end Sql

namespace Database

/-- Adds a row; what is no object adds none. -/
def insertJson (db : Database) (table : String) : Json → Except Refusal Database
  | .object cells => db.insert table (cells.map fun (name, j) => (name, .ofJson j))
  | _ => .ok db

def insertTable (db : Database) (table : String) : Json → Except Refusal Database
  | .array items => items.foldlM (fun db j => db.insertJson table j) db
  | _ => .ok db

/-- The database with these tables, whose rows are inserted in order. -/
def ofJson : Json → Except Refusal Database
  | .object tables => tables.foldlM (fun db (table, rows) => db.insertTable table rows) empty
  | _ => .ok empty

end Database
end BillingQuery
