import BillingQuery.Store.Run

/-!
# Raw statements

The raw statements that the store can read: columns of one table in ascending order of the id, and
the count of a table's rows. They see the rows of all tenants and all columns. A result is cut at a
greatest number of rows; that rows were left out is reported with it.
-/

namespace BillingQuery

namespace Sql

inductive RawQuery
  | rows (select : Select)
  | count (name table : String)

namespace RawQuery

/-! ## Reading -/

inductive Token
  | word (s : String)
  | mark (c : Char)
deriving DecidableEq

def isSpace (c : Char) : Bool :=
  c = ' ' || c = '\t' || c = '\n' || c = '\x0c' || c = '\r'

def isWordChar (c : Char) : Bool := c.isAlphanum || c = '_' || 128 ≤ c.toNat

/-- Adds a character to the tokens that follow it. A word goes on to its left until a space or a
mark; `open?` says whether the first token is a word that may do so. -/
def extend (c : Char) : Bool × List Token → Bool × List Token
  | (open?, tokens) =>
    if isSpace c then (false, tokens)
    else if isWordChar c then
      match open?, tokens with
      | true, .word s :: rest => (true, .word (String.singleton c ++ s) :: rest)
      | _, tokens => (true, .word (String.singleton c) :: tokens)
    else (false, .mark c :: tokens)

def tokens (s : String) : List Token := (s.toList.foldr extend (false, [])).2

def isKeyword (keyword : String) : Token → Bool
  | .word s => Text.sameFold s keyword
  | .mark _ => false

def areKeywords (keywords : List String) (tokens : List Token) : Bool :=
  keywords.length == tokens.length && (keywords.zip tokens).all fun (k, t) => isKeyword k t

def nameList : List Token → Option (List String)
  | [.word s] => some [s]
  | .word s :: .mark ',' :: rest => (nameList rest).map (s :: ·)
  | _ => none

/-- What follows FROM: a table, and perhaps the ordering by the id. -/
def readSource : List Token → Option String
  | .word table :: rest =>
    if rest.isEmpty || areKeywords ["ORDER", "BY", "id"] rest then some table else none
  | _ => none

/-- The statement that the tokens after SELECT write. -/
def ofSelection (selection source : List Token) : Option RawQuery := do
  let table ← readSource source
  match selection with
  | [.word function, .mark '(', .mark '*', .mark ')', .word keyword, .word name] =>
    if Text.sameFold function "COUNT" && Text.sameFold keyword "AS" then
      some (.count name table)
    else none
  | selection =>
    let names ← nameList selection
    return .rows {
      columns := names.map fun name => ⟨name, none⟩
      table := table
      conditions := []
      order := some ⟨"id", .asc⟩
      limit := none
      offset := none }

def read? (sql : String) : Option RawQuery :=
  match tokens sql with
  | select :: rest =>
    let isFrom := isKeyword "FROM"
    if isKeyword "SELECT" select then
      ofSelection (rest.takeWhile fun t => !isFrom t) ((rest.dropWhile fun t => !isFrom t).drop 1)
    else none
  | [] => none

/-! ## Running -/

def run (q : RawQuery) (db : Database) : Except RunError (List ResultRow) :=
  match q with
  | rows select => Statement.run ⟨select, []⟩ db
  | count name table =>
    match Resource.ofTable? table with
    | none => .error (.noSuchTable table)
    | some r => .ok [[(name, .integer (db.rows r).length)]]

end RawQuery

/-! ## Cutting -/

/-- The first `maxRows` rows of a stream, each decoded, and whether the stream has another. A row
that cannot be fetched or decoded fails the whole, unless it comes after the cut is certain. -/
def collectRows (decode : α → Except ε β) : Nat → List (Except ε α) → Except ε (List β × Bool)
  | _, [] => .ok ([], false)
  | _, .error e :: _ => .error e
  | 0, .ok _ :: _ => .ok ([], true)
  | maxRows + 1, .ok a :: rest => do
    let b ← decode a
    let (bs, truncated) ← collectRows decode maxRows rest
    return (b :: bs, truncated)

end Sql
end BillingQuery
