import BillingQuery.Calendar.Day
import BillingQuery.Json.Reader
import BillingQuery.Json.Writer
import BillingQuery.Sql.Cell
import BillingQuery.Sql.Like
import BillingQuery.Sql.Predicate
import BillingQuery.Text.Fold

/-!
# The truth of a predicate on a row

A predicate is true, false or unknown: a comparison with null is unknown, AND is false as soon as a
part is, OR is true as soon as a part is. A row is selected where its predicate is true.
-/

namespace BillingQuery.Sql

/-- What a predicate is evaluated against: the cells of a row, the affinities of its columns, and
the bound values. -/
structure Scope where
  affinity : String → Affinity
  cell : String → Cell
  parameter : Nat → Cell
  /-- How pattern matching reads a character. -/
  seen : Char → Char

namespace Cell

def lowerByte (b : UInt8) : UInt8 := if 65 ≤ b && b ≤ 90 then b + 32 else b

/-- ASCII letters in lower case; any value but null is read as text. Bytes that are no text stay
bytes, and so equal none. -/
def lower (c : Cell) : Cell :=
  match c with
  | blob bytes =>
    match Text.ofUtf8? bytes with
    | some s => text (Text.fold s)
    | none => blob (bytes.map lowerByte)
  | c =>
    match c.asText? with
    | some s => text (Text.fold s)
    | none => null

def leading (length : Nat) : Cell → Cell
  | blob bytes => blob (bytes.take length)
  | c =>
    match c.asText? with
    | some s => text (String.ofList ((beforeNul s.toList).take length))
    | none => null

/-- The characters of the value, read as text, that pattern matching sees. -/
def seenChars? (seen : Char → Char) : Cell → Option (List Char)
  | blob bytes => some (beforeNul (Text.looseChars bytes))
  | c => c.asText?.map (seenChars seen)

/-- The day that a text of the form `YYYY-MM-DD` names; a day past the end of its month counts on
into the next. Any other text names none, and gives null. -/
def dayNamed (c : Cell) : Cell :=
  match c.asText? with
  | none => null
  | some s =>
    if s.length ≠ 10 then null
    else
      match (Day.leadingParts? s.toList).bind fun (y, m, d) => Day.rollOver? y m d with
      | some day => text day.text
      | none => null

end Cell

namespace Term

def value (s : Scope) : Term → Cell
  | column name => s.cell name
  | parameter n => s.parameter n
  | integer n => .integer n
  | lower t => (t.value s).lower
  | leading t length => (t.value s).leading length
  | date t => (t.value s).dayNamed
  | className t => .text (t.value s).className

def affinity? (s : Scope) : Term → Option Affinity
  | column name => some (s.affinity name)
  | _ => none

end Term

/-- A side of a comparison, converted as the affinity of the other side asks. -/
def convertFor (own other : Option Affinity) (c : Cell) : Cell :=
  if other.any Affinity.isNumeric && !own.any Affinity.isNumeric then c.toNumber
  else if other = some .text && own ≠ some .text && !own.any Affinity.isNumeric then c.toText
  else c

def Relation.holds (r : Relation) (o : Ordering) : Bool :=
  match r with
  | eq => o == .eq
  | ne => o != .eq
  | gt => o == .gt
  | lt => o == .lt
  | gte => o != .lt
  | lte => o != .gt

/-- True, false or unknown. -/
abbrev Truth := Option Bool

namespace Truth

def and : Truth → Truth → Truth
  | some false, _ | _, some false => some false
  | some true, some true => some true
  | _, _ => none

def or : Truth → Truth → Truth
  | some true, _ | _, some true => some true
  | some false, some false => some false
  | _, _ => none

end Truth

def compareCells (r : Relation) (a b : Cell) : Truth :=
  if a = .null || b = .null then none else some (r.holds (a.compare b))

def amongCells (a : Cell) (cells : List Cell) : Truth :=
  cells.foldr (fun b t => (compareCells .eq a b).or t) (some false)

def itemCell : Json → Cell
  | .null => .null
  | .bool b => .integer (if b then 1 else 0)
  | .number (.integer n) => .integer n
  | .number (.real x) => .real x
  | .string s => .text s
  | j => .text j.write

/-- The items of a JSON array written as text. -/
def arrayItems? (c : Cell) : Option (List Cell) :=
  match c.asText?.bind (Json.read? 1000) with
  | some (.array items) => some (items.map itemCell)
  | _ => none

namespace Predicate

mutual

def truth (s : Scope) : Predicate → Truth
  | compare relation left right =>
    let a := convertFor (left.affinity? s) (right.affinity? s) (left.value s)
    let b := convertFor (right.affinity? s) (left.affinity? s) (right.value s)
    compareCells relation a b
  | like text pattern escape =>
    match (text.value s).seenChars? s.seen, (pattern.value s).seenChars? s.seen with
    | some t, some p => some (likeMatches escape p t)
    | _, _ => none
  | among t texts => amongCells (t.value s) (texts.map Cell.text)
  | amongItems t array => (arrayItems? (array.value s)).bind (amongCells (t.value s))
  | isNull t => some (t.value s == .null)
  | isNotNull t => some (t.value s != .null)
  | all parts => truthOfAll s parts
  | any parts => truthOfAny s parts

def truthOfAll (s : Scope) : List Predicate → Truth
  | [] => some true
  | p :: ps => (truth s p).and (truthOfAll s ps)

def truthOfAny (s : Scope) : List Predicate → Truth
  | [] => some false
  | p :: ps => (truth s p).or (truthOfAny s ps)

end

end Predicate
end BillingQuery.Sql
