import BillingQuery.Text.Search

/-!
# LIKE patterns

In a pattern `%` stands for any characters, `_` for one, and the character after an escape for
itself. Letters match in either ASCII case. `escapeLike` writes a needle so that, as a pattern, it
matches itself alone.

`LikeItem.accepts` says what a pattern matches, and `LikeItem.matchedTails` computes it for all
tails of a text at once (`matchedTails_eq`), so that the work grows only with the product of the
lengths.
-/

namespace BillingQuery.Sql

def escapeLike (needle : String) : String :=
  String.ofList (needle.toList.flatMap fun c =>
    if c = '\\' || c = '%' || c = '_' then ['\\', c] else [c])

inductive LikeItem
  | any
  | one
  | exactly (c : Char)
deriving DecidableEq

namespace LikeItem

/-- The items of a pattern, or `none` if it ends in the escape character. -/
def ofChars (escape : Option Char) : List Char → Option (List LikeItem)
  | [] => some []
  | [c] =>
    if escape = some c then none
    else some [if c = '%' then any else if c = '_' then one else exactly c]
  | c :: d :: cs =>
    if escape = some c then (ofChars escape cs).map (exactly d :: ·)
    else
      (ofChars escape (d :: cs)).map
        ((if c = '%' then any else if c = '_' then one else exactly c) :: ·)

/-! ## Matching -/

def accepts : List LikeItem → List Char → Bool
  | [], cs => cs.isEmpty
  | any :: items, cs => (Text.suffixes cs).any (accepts items)
  | one :: items, _ :: cs => accepts items cs
  | exactly d :: items, c :: cs => c.toLower == d.toLower && accepts items cs
  | _ :: _, [] => false

/-- For each place of a list, whether a flag is set there or later. -/
def setLater : List Bool → List Bool
  | [] => []
  | b :: bs =>
    let later := setLater bs
    (b || later.headD false) :: later

/-- The flags of the tails of a text, from those of the tails one character shorter: the flag stays
where the first character satisfies `p`, and the empty tail has none. -/
def afterFirst (p : Char → Bool) : List Char → List Bool → List Bool
  | c :: cs, b :: bs => (p c && b) :: afterFirst p cs bs
  | _, _ => [false]

/-- For each tail of the text, the text itself first, whether the items match it. -/
def matchedTails : List LikeItem → List Char → List Bool
  | [], cs => (Text.suffixes cs).map List.isEmpty
  | any :: items, cs => setLater (matchedTails items cs)
  | one :: items, cs => afterFirst (fun _ => true) cs (matchedTails items cs).tail
  | exactly d :: items, cs =>
    afterFirst (fun c => c.toLower == d.toLower) cs (matchedTails items cs).tail

theorem setLater_suffixes (f : List Char → Bool) (cs : List Char) :
    setLater ((Text.suffixes cs).map f) =
      (Text.suffixes cs).map fun t => (Text.suffixes t).any f := by
  induction cs with
  | nil => simp [Text.suffixes, setLater]
  | cons c cs ih =>
    rw [Text.suffixes, List.map_cons, setLater, ih]
    simp [Text.suffixes, List.headD_eq_head?_getD]

theorem afterFirst_suffixes (p : Char → Bool) (f : List Char → Bool) (cs : List Char) :
    afterFirst p cs ((Text.suffixes cs).map f).tail =
      (Text.suffixes cs).map fun
        | [] => false
        | c :: t => p c && f t := by
  induction cs with
  | nil => simp [Text.suffixes, afterFirst]
  | cons c cs ih => cases cs <;> simp_all [Text.suffixes, afterFirst]

/-- The flags of the tails say what the items accept. -/
theorem matchedTails_eq (items : List LikeItem) (cs : List Char) :
    matchedTails items cs = (Text.suffixes cs).map (accepts items) := by
  induction items generalizing cs with
  | nil => simp [matchedTails, accepts]
  | cons item items ih =>
    cases item with
    | any =>
      rw [matchedTails, ih, setLater_suffixes]
      exact List.map_congr_left fun t _ => by cases t <;> rfl
    | one =>
      rw [matchedTails, ih, afterFirst_suffixes]
      exact List.map_congr_left fun t _ => by cases t <;> simp [accepts]
    | exactly d =>
      rw [matchedTails, ih, afterFirst_suffixes]
      exact List.map_congr_left fun t _ => by cases t <;> simp [accepts]

/-- Whether the items match the whole text, by way of all its tails. -/
def matchesText (items : List LikeItem) (cs : List Char) : Bool :=
  (matchedTails items cs).headD false

theorem matchesText_eq (items : List LikeItem) (cs : List Char) :
    matchesText items cs = accepts items cs := by
  simp [matchesText, matchedTails_eq, List.headD_eq_head?_getD]

end LikeItem

/-! ## Texts and patterns -/

/-- A character as the store's matching sees it: the two at the end of the basic plane are no
characters. -/
def seenChar (c : Char) : Char := if c = '\ufffe' || c = '\uffff' then '\ufffd' else c

def beforeNul (cs : List Char) : List Char := cs.takeWhile (· ≠ '\x00')

def seenChars (seen : Char → Char) (s : String) : List Char := (beforeNul s.toList).map seen

/-- Whether the characters of a text match those of a pattern. -/
def likeMatches (escape : Option Char) (pattern text : List Char) : Bool :=
  match LikeItem.ofChars escape pattern with
  | some items => LikeItem.matchesText items text
  | none => false

end BillingQuery.Sql
