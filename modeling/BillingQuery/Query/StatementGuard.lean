import BillingQuery.Query.Error
import BillingQuery.Text.Blank
import BillingQuery.Text.Fold
import BillingQuery.Text.Regex

/-!
# The guard for raw statements

A raw statement is accepted if it starts with the word SELECT, has no forbidden keyword as a whole
word, is not too long, and is a single statement. This looks at characters and not at grammar: a
forbidden keyword inside quotes is refused too.

A keyword must have delimiters on both sides, which are no identifier characters, so `updated_at`
holds no UPDATE. Letters match in either case, and the long s and the Kelvin sign match S and K,
which they fold to.
-/

namespace BillingQuery

inductive StatementFault
  | notSelect
  | forbiddenKeyword (word : String)
  | tooLong (length maximum : Nat)
  | severalStatements
deriving DecidableEq

namespace StatementFault

def message : StatementFault → String
  | notSelect => "only SELECT statements are allowed"
  | forbiddenKeyword word => "forbidden keyword " ++ word
  | tooLong length maximum =>
    "statement is " ++ natText length ++ " characters, maximum is " ++ natText maximum
  | severalStatements => "multiple statements are not allowed"

end StatementFault

/-- Keywords that write data, define it, or change the session. -/
def forbiddenKeywords : List String :=
  ["DELETE", "DROP", "TRUNCATE", "ALTER", "CREATE", "INSERT", "UPDATE", "REPLACE", "GRANT",
    "REVOKE", "EXECUTE", "EXEC", "CALL", "PROCEDURE", "FUNCTION", "PRAGMA", "ATTACH", "DETACH",
    "VACUUM", "INTO"]

def selectPrefix : Text.Regex := .seq .start (.seq (.literal "SELECT".toList) .wordEdge)

/-- The ASCII characters of identifiers. -/
def isIdentifierClass (c : Char) : Bool := c.isAlphanum || c = '_'

/-- A character that is not part of an identifier. -/
def delimiter : Text.Regex := .one fun c => !Text.anyCase isIdentifierClass c

def forbiddenKeyword : Text.Regex :=
  .group (.alternatives (forbiddenKeywords.map fun keyword => .literal keyword.toList))

/-- A forbidden keyword between delimiters or the ends of the text. -/
def forbiddenWord : Text.Regex :=
  .seq (.either .start delimiter) (.seq forbiddenKeyword (.either .finish delimiter))

def isTrailer (c : Char) : Bool := c = ';' || Text.isBlank c

/-- Accepts raw statements of at most `maxLength` characters. -/
structure StatementGuard where
  maxLength : Nat
deriving DecidableEq

namespace StatementGuard

def standard : StatementGuard := ⟨10000⟩

/-- The statement to run for a text without white space at its ends. -/
def checkTrimmed (g : StatementGuard) (cs : List Char) : Except StatementFault (List Char) :=
  if !selectPrefix.isMatch cs then .error .notSelect
  else
    match forbiddenWord.capture? cs with
    | some keyword => .error (.forbiddenKeyword (Text.upper (String.ofList keyword)))
    | none =>
      if g.maxLength < cs.length then .error (.tooLong cs.length g.maxLength)
      else
        let statement := Text.dropEndWhile isTrailer cs
        if statement.contains ';' then .error .severalStatements else .ok statement

/-- The statement to run: trimmed, and without the semicolons and white space at its end. -/
def check (g : StatementGuard) (sql : String) : Except StatementFault String :=
  (g.checkTrimmed (Text.trimChars sql.toList)).map String.ofList

/-- The same, with the fault as the rejection of a request. -/
def validate (g : StatementGuard) (sql : String) : Except QueryError String :=
  (g.check sql).mapError fun fault => .forbiddenStatement fault.message

end StatementGuard
end BillingQuery
