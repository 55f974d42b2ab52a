import BillingQuery.Text.Fold

/-!
# Media types

A media type has a kind and a subtype with a slash between them, then parameters, each after a
semicolon. A suffix is what follows the last `+` of the subtype, unless that stands first. Of the
parameters only the form is checked: a name, `=`, and a value, which may be in quotes.
-/

namespace BillingQuery

structure MediaType where
  kind : String
  subtype : String
  suffix : Option String
deriving DecidableEq

namespace MediaType

def isTokenChar (c : Char) : Bool := c.isAlphanum || "!#$%&'*+-.^_`|~".toList.contains c

/-! ## Parameters -/

/-- What has been read of the parameters. -/
inductive ParameterState
  /-- A semicolon, and perhaps spaces. -/
  | separator
  | name
  | equals
  | value
  /-- An opening quote alone. -/
  | openQuote
  | quoted
  /-- A closing quote, and perhaps spaces. -/
  | closed
deriving DecidableEq

namespace ParameterState

/-- The state after one more character. A quote right after the opening one belongs to the value. -/
def step (state : ParameterState) (c : Char) : Option ParameterState :=
  match state with
  | separator => if c = ' ' then some separator else if isTokenChar c then some name else none
  | name => if c = '=' then some equals else if isTokenChar c then some name else none
  | equals => if c = '"' then some openQuote else if isTokenChar c then some value else none
  | value => if c = ';' then some separator else if isTokenChar c then some value else none
  | openQuote => if 32 ≤ c.toNat && c.toNat ≠ 127 then some quoted else none
  | quoted =>
    if c = '"' then some closed
    else if 32 ≤ c.toNat && c.toNat ≠ 127 then some quoted
    else none
  | closed => if c = ';' then some separator else if c = ' ' then some closed else none

def isFinal : ParameterState → Bool
  | separator | equals | value | closed => true
  | name | openQuote | quoted => false

end ParameterState

def areParameters : List Char → Bool
  | [] => true
  | c :: cs => c = ';' && (cs.foldlM ParameterState.step .separator).any ParameterState.isFinal

/-! ## Reading -/

/-- The parts before and after the last `+` that does not stand first. -/
def splitSuffix (name : List Char) : List Char × Option (List Char) :=
  let reversed := name.reverse
  let before := ((reversed.dropWhile (· != '+')).drop 1).reverse
  if before.isEmpty then (name, none)
  else (before, some (reversed.takeWhile (· != '+')).reverse)

/-- The media type that a text writes. A subtype with parameters may not be empty. -/
def ofText? (s : String) : Option MediaType :=
  let cs := s.toList
  let kind := cs.takeWhile isTokenChar
  match cs.dropWhile isTokenChar with
  | '/' :: rest =>
    let name := rest.takeWhile isTokenChar
    let parameters := rest.dropWhile isTokenChar
    if kind.isEmpty || (name.isEmpty && !parameters.isEmpty) || !areParameters parameters then none
    else
      let (subtype, suffix) := splitSuffix name
      some ⟨String.ofList kind, String.ofList subtype, suffix.map String.ofList⟩
  | _ => none

def isJson (m : MediaType) : Bool :=
  Text.sameFold m.kind "application" &&
    (Text.sameFold m.subtype "json" || m.suffix.any fun s => Text.sameFold s "json")

end MediaType
end BillingQuery
