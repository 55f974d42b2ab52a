import BillingQuery.Number.Numeral

/-!
# SQL predicates

A predicate is data: terms over columns and numbered parameters, compared, matched, and joined by
AND and OR. `Predicate.sql` writes it as SQL, with every AND and OR in parentheses, so that
predicates may be joined to others without changing what they mean. Values occur only as parameters
`$n`.
-/

namespace BillingQuery.Sql

inductive Term
  | column (name : String)
  /-- The `n`-th bound value, counted from one. -/
  | parameter (n : Nat)
  | integer (n : Int)
  | lower (t : Term)
  /-- The first characters of a text. -/
  | leading (t : Term) (length : Nat)
  /-- The calendar day that a text names. -/
  | date (t : Term)
  /-- The storage class of a value. -/
  | className (t : Term)
deriving DecidableEq

namespace Term

def sql : Term → String
  | column name => name
  | parameter n => "$" ++ natText n
  | integer n => intText n
  | lower t => "LOWER(" ++ t.sql ++ ")"
  | leading t length => "SUBSTR(" ++ t.sql ++ ", 1, " ++ natText length ++ ")"
  | date t => "date(" ++ t.sql ++ ")"
  | className t => "typeof(" ++ t.sql ++ ")"

/-- The columns that the term names. -/
def columns : Term → List String
  | column name => [name]
  | parameter _ | integer _ => []
  | lower t | leading t _ | date t | className t => t.columns

end Term

inductive Relation
  | eq
  | ne
  | gt
  | lt
  | gte
  | lte
deriving DecidableEq

def Relation.sql : Relation → String
  | eq => "="
  | ne => "!="
  | gt => ">"
  | lt => "<"
  | gte => ">="
  | lte => "<="

inductive Predicate
  | compare (relation : Relation) (left right : Term)
  | like (text pattern : Term) (escape : Option Char)
  /-- Equality with one of some fixed texts. -/
  | among (t : Term) (texts : List String)
  /-- Equality with one of the items of a JSON array. -/
  | amongItems (t array : Term)
  | isNull (t : Term)
  | isNotNull (t : Term)
  | all (parts : List Predicate)
  | any (parts : List Predicate)

namespace Predicate

/-- A text in single quotes. The texts that are written so have no quote inside. -/
def quotedLiteral (s : String) : String := "'" ++ s ++ "'"

mutual

def sql : Predicate → String
  | compare relation left right => left.sql ++ " " ++ relation.sql ++ " " ++ right.sql
  | like text pattern none => text.sql ++ " LIKE " ++ pattern.sql
  | like text pattern (some c) =>
    text.sql ++ " LIKE " ++ pattern.sql ++ " ESCAPE " ++ quotedLiteral (String.singleton c)
  | among t texts => t.sql ++ " IN (" ++ ", ".intercalate (texts.map quotedLiteral) ++ ")"
  | amongItems t array => t.sql ++ " IN (SELECT value FROM json_each(" ++ array.sql ++ "))"
  | isNull t => t.sql ++ " IS NULL"
  | isNotNull t => t.sql ++ " IS NOT NULL"
  | all parts => "(" ++ joined " AND " parts ++ ")"
  | any parts => "(" ++ joined " OR " parts ++ ")"

def joined (separator : String) : List Predicate → String
  | [] => ""
  | [p] => p.sql
  | p :: q :: ps => p.sql ++ separator ++ joined separator (q :: ps)

end

mutual

/-- The columns that the predicate names. -/
def columns : Predicate → List String
  | compare _ left right => left.columns ++ right.columns
  | like text pattern _ => text.columns ++ pattern.columns
  | among t _ | isNull t | isNotNull t => t.columns
  | amongItems t array => t.columns ++ array.columns
  | all parts | any parts => columnsOfAll parts

def columnsOfAll : List Predicate → List String
  | [] => []
  | p :: ps => p.columns ++ columnsOfAll ps

end

/-- A predicate that holds of every row. -/
def always : Predicate := compare .eq (.integer 1) (.integer 1)

/-- A predicate that holds of no row. -/
def never : Predicate := compare .eq (.integer 1) (.integer 0)

end Predicate
end BillingQuery.Sql
