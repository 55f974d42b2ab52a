import BillingQuery.Text.Word

/-!
# Regular expressions

Expressions without repetition: anchors, word edges, characters of a class, sequences, alternatives
and a group whose text is captured. A search tries the places of a text from left to right, and at
each place the alternatives in their order, so that it finds the leftmost match, and of those at one
place the preferred one.

Letters match in either case: a class matches the characters that fold to the same one as some
character of the class. Folding is that of Unicode, which takes the long s to `s` and the Kelvin
sign to `k`; classes consist of ASCII characters, which no other character folds to.
-/

namespace BillingQuery.Text

/-! ## Case -/

/-- The lower-case character that the variants of an ASCII character fold to. -/
def foldCase (c : Char) : Char :=
  if c = '\u017f' then 's' else if c = '\u212a' then 'k' else c.toLower

/-- The characters that fold to the same one as `c`. -/
def caseVariants (c : Char) : List Char :=
  let lower := foldCase c
  [lower, lower.toUpper] ++
    if lower = 's' then ['\u017f'] else if lower = 'k' then ['\u212a'] else []

/-- The class of the characters that have a variant in the class `p`. -/
def anyCase (p : Char → Bool) (c : Char) : Bool := (caseVariants c).any p

/-! ## Matching -/

/-- A place in a text, with what the group has captured before it. -/
structure Place where
  position : Nat
  last? : Option Char
  rest : List Char
  captured? : Option (List Char)

namespace Place

/-- Between a word character and another one, or an end of the text. -/
def isWordEdge (p : Place) : Bool := p.last?.any isWord != p.rest.head?.any isWord

def past (p : Place) (cs : List Char) : Place where
  position := p.position + cs.length
  last? := cs.getLast?.or p.last?
  rest := p.rest.drop cs.length
  captured? := p.captured?

end Place

inductive Regex
  | empty
  /-- The start of the text. -/
  | start
  /-- The end of the text. -/
  | finish
  | wordEdge
  | one (p : Char → Bool)
  | seq (r s : Regex)
  | either (r s : Regex)
  | group (r : Regex)

namespace Regex

/-- The places where a match that starts at a place can end, the preferred one first. -/
def ends : Regex → Place → List Place
  | empty, p => [p]
  | start, p => if p.last?.isNone then [p] else []
  | finish, p => if p.rest.isEmpty then [p] else []
  | wordEdge, p => if p.isWordEdge then [p] else []
  | one accepts, p =>
    match p.rest with
    | c :: _ => if accepts c then [p.past [c]] else []
    | [] => []
  | seq r s, p => (r.ends p).flatMap s.ends
  | either r s, p => r.ends p ++ s.ends p
  | group r, p =>
    (r.ends p).map fun q => { q with captured? := some (p.rest.take (q.position - p.position)) }

/-- The end of the first match at this place or after it. -/
def searchFrom (r : Regex) (position : Nat) (last? : Option Char) : List Char → Option Place
  | [] => (r.ends ⟨position, last?, [], none⟩).head?
  | c :: cs =>
    match r.ends ⟨position, last?, c :: cs, none⟩ with
    | q :: _ => some q
    | [] => r.searchFrom (position + 1) (some c) cs

def search (r : Regex) (cs : List Char) : Option Place := r.searchFrom 0 none cs

def isMatch (r : Regex) (cs : List Char) : Bool := (r.search cs).isSome

def capture? (r : Regex) (cs : List Char) : Option (List Char) :=
  (r.search cs).bind Place.captured?

def literal (cs : List Char) : Regex :=
  cs.foldr (fun c r => .seq (.one (anyCase (· == c))) r) .empty

def alternatives : List Regex → Regex
  | [] => .one fun _ => false
  | r :: rs => .either r (alternatives rs)

end Regex
end BillingQuery.Text
