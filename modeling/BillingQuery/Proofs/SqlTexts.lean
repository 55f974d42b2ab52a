import BillingQuery.Proofs.SqlTokens

/-!
# The tokens of a predicate

**Main result (`Predicate.lexes`).** The text of a predicate has the tokens that are expected of it,
if its columns are plain names and its fixed texts have no quote (`Predicate.IsPlain`).

**Parentheses (`nesting`).** In these tokens parentheses balance, and every OR is inside of some
(`Predicate.nesting_tokens`).
-/

namespace BillingQuery.Sql

/-! ## Names -/

/-- The words that are no names, because SQL reserves them or because they follow an operand. -/
def reservedWords : List String := [
  "add", "all", "alter", "and", "as", "asc", "between", "by", "case", "check", "collate", "commit",
  "constraint", "create", "default", "delete", "desc", "distinct", "drop", "else", "escape",
  "except", "exists", "foreign", "from", "glob", "group", "having", "in", "index", "insert",
  "intersect", "into", "is", "isnull", "join", "like", "limit", "match", "not", "notnull", "null",
  "offset", "on", "or", "order", "primary", "references", "regexp", "select", "set", "table",
  "then", "to", "transaction", "union", "unique", "update", "using", "values", "when", "where"]

/-- Whether a word is reserved, in either case. -/
def isReserved (word : String) : Bool := reservedWords.contains (Text.fold word)

/-- A plain identifier that is not reserved. -/
def isName (name : String) : Bool := isIdentifier name && !isReserved name

/-- A token that is this keyword, in either case. -/
def Token.isKeyword (keyword : String) : Token → Bool
  | .word s => Text.sameFold s keyword
  | _ => false

theorem isIdentifier_of_isName {name : String} (h : isName name = true) :
    isIdentifier name = true := by
  rw [isName, Bool.and_eq_true] at h
  exact h.1

theorem not_isReserved_of_isName {name : String} (h : isName name = true) :
    isReserved name = false := by
  rw [isName, Bool.and_eq_true, Bool.not_eq_true'] at h
  exact h.2

/-- A name is none of the reserved keywords. -/
theorem not_isKeyword_of_isName {name keyword : String} (h : isName name = true)
    (hkeyword : Text.fold keyword ∈ reservedWords) :
    (Token.word name).isKeyword keyword = false := by
  have hreserved := not_isReserved_of_isName h
  rw [isReserved, List.contains_eq_mem, decide_eq_false_iff_not] at hreserved
  rw [Token.isKeyword, Text.sameFold, beq_eq_false_iff_ne]
  exact fun heq => hreserved (heq ▸ hkeyword)

/-! ## Terms -/

namespace Term

/-- Columns are plain names, and numbers have no sign. -/
def IsPlain : Term → Prop
  | column name => isName name = true
  | parameter _ => True
  | integer n => 0 ≤ n
  | lower t | leading t _ | date t | className t => t.IsPlain

def tokens : Term → List Token
  | column name => [.word name]
  | parameter n => [.parameter n]
  | integer n => [.integer n.toNat]
  | lower t => .word "LOWER" :: .opening :: (t.tokens ++ [.closing])
  | leading t length =>
    .word "SUBSTR" :: .opening ::
      (t.tokens ++ [.comma, .integer 1, .comma, .integer length, .closing])
  | date t => .word "date" :: .opening :: (t.tokens ++ [.closing])
  | className t => .word "typeof" :: .opening :: (t.tokens ++ [.closing])

/-- A function of one argument. -/
theorem lexes_call {function : String} {cs : List Char} {ts : List Token}
    (hfunction : isIdentifier function = true) (h : Lexes cs ts) :
    Lexes (function.toList ++ '(' :: (cs ++ [')']))
      (.word function :: .opening :: (ts ++ [.closing])) :=
  (Lexes.word hfunction).append (h.append Lexes.nil.closing rfl).opening rfl

theorem lexes {t : Term} (ht : t.IsPlain) : Lexes t.sql.toList t.tokens := by
  induction t with
  | column name =>
    exact Lexes.word (isIdentifier_of_isName ht)
  | parameter n =>
    have hlist : (parameter n).sql.toList = '$' :: (natText n).toList := by simp [sql]
    rw [hlist]
    exact Lexes.parameter n
  | integer n =>
    obtain ⟨k, rfl⟩ := Int.eq_ofNat_of_zero_le ht
    have htext : (integer (k : Int)).sql = natText k := by
      rw [sql, intText, Numeral.ofInt, if_neg (by omega), Int.natAbs_natCast, natText]
    rw [htext]
    exact Lexes.integer k
  | lower t ih =>
    have hlist : (lower t).sql.toList = "LOWER".toList ++ '(' :: (t.sql.toList ++ [')']) := by
      simp [sql]
    rw [hlist]
    exact lexes_call (by decide) (ih ht)
  | leading t length ih =>
    have hlist : (leading t length).sql.toList = "SUBSTR".toList ++ '(' :: (t.sql.toList ++
        ',' :: ' ' :: ((natText 1).toList ++ ',' :: ' ' ::
          ((natText length).toList ++ [')']))) := by
      have hone : natText 1 = "1" := rfl
      simp [sql, hone]
    have hlength : Lexes ((natText length).toList ++ [')']) [.integer length, .closing] :=
      (Lexes.integer length).append Lexes.nil.closing rfl
    have hone : Lexes ((natText 1).toList ++ ',' :: ' ' :: ((natText length).toList ++ [')']))
        [.integer 1, .comma, .integer length, .closing] :=
      (Lexes.integer 1).append hlength.space.comma rfl
    rw [hlist]
    exact (Lexes.word (by decide)).append ((ih ht).append hone.space.comma rfl).opening rfl
  | date t ih =>
    have hlist : (date t).sql.toList = "date".toList ++ '(' :: (t.sql.toList ++ [')']) := by
      simp [sql]
    rw [hlist]
    exact lexes_call (by decide) (ih ht)
  | className t ih =>
    have hlist : (className t).sql.toList = "typeof".toList ++ '(' :: (t.sql.toList ++ [')']) := by
      simp [sql]
    rw [hlist]
    exact lexes_call (by decide) (ih ht)

end Term

/-! ## Predicates -/

/-- A list is written with a comma and a space after each of its items but the last. -/
theorem Lexes.intercalate {text : α → String} {tokens : α → List Token} {as : List α}
    (h : ∀ a ∈ as, Lexes (text a).toList (tokens a)) :
    Lexes (", ".intercalate (as.map text)).toList ([.comma].intercalate (as.map tokens)) := by
  induction as with
  | nil => exact Lexes.nil
  | cons a as ih =>
    rw [List.forall_mem_cons] at h
    cases as with
    | nil => simpa using h.1
    | cons b as =>
      have hlist : (", ".intercalate ((a :: b :: as).map text)).toList = (text a).toList ++
          ',' :: ' ' :: (", ".intercalate ((b :: as).map text)).toList := by
        simp [String.intercalate_cons_cons]
      have htokens : [Token.comma].intercalate ((a :: b :: as).map tokens) =
          tokens a ++ .comma :: [.comma].intercalate ((b :: as).map tokens) := by
        simp [List.intercalate_cons_cons]
      rw [hlist, htokens]
      exact h.1.append (ih h.2).space.comma rfl

/-- A keyword between spaces. -/
theorem Lexes.keyword {keyword : String} {cs : List Char} {ts : List Token}
    (hkeyword : isIdentifier keyword = true) (h : Lexes cs ts) :
    Lexes (' ' :: (keyword.toList ++ ' ' :: cs)) (.word keyword :: ts) :=
  ((Lexes.word hkeyword).append h.space rfl).space

namespace Predicate

mutual

/-- Terms are plain, fixed texts have no quote, and AND and OR have at least two operands. -/
def IsPlain : Predicate → Prop
  | compare _ left right => left.IsPlain ∧ right.IsPlain
  | like text pattern escape =>
    text.IsPlain ∧ pattern.IsPlain ∧ ∀ c, escape = some c → c ≠ '\''
  | among t texts => t.IsPlain ∧ texts ≠ [] ∧ ∀ s ∈ texts, '\'' ∉ s.toList
  | amongItems t array => t.IsPlain ∧ array.IsPlain
  | isNull t | isNotNull t => t.IsPlain
  | all parts | any parts => 2 ≤ parts.length ∧ ArePlain parts

def ArePlain : List Predicate → Prop
  | [] => True
  | p :: ps => p.IsPlain ∧ ArePlain ps

end

mutual

def tokens : Predicate → List Token
  | compare relation left right => left.tokens ++ .relation relation :: right.tokens
  | like text pattern none => text.tokens ++ .word "LIKE" :: pattern.tokens
  | like text pattern (some c) =>
    text.tokens ++ .word "LIKE" :: (pattern.tokens ++
      [.word "ESCAPE", .text (String.singleton c)])
  | among t texts =>
    t.tokens ++ .word "IN" :: .opening ::
      ([.comma].intercalate (texts.map fun s => [.text s]) ++ [.closing])
  | amongItems t array =>
    t.tokens ++ .word "IN" :: .opening :: .word "SELECT" :: .word "value" :: .word "FROM" ::
      .word "json_each" :: .opening :: (array.tokens ++ [.closing, .closing])
  | isNull t => t.tokens ++ [.word "IS", .word "NULL"]
  | isNotNull t => t.tokens ++ [.word "IS", .word "NOT", .word "NULL"]
  | all parts => .opening :: (joinedTokens "AND" parts ++ [.closing])
  | any parts => .opening :: (joinedTokens "OR" parts ++ [.closing])

/-- The predicates with a keyword between them. -/
def joinedTokens (keyword : String) : List Predicate → List Token
  | [] => []
  | [p] => p.tokens
  | p :: q :: ps => p.tokens ++ .word keyword :: joinedTokens keyword (q :: ps)

end

theorem lexes_like {text pattern : Term} {escape : Option Char} (htext : text.IsPlain)
    (hpattern : pattern.IsPlain) (hescape : ∀ c, escape = some c → c ≠ '\'') :
    Lexes (like text pattern escape).sql.toList (like text pattern escape).tokens := by
  cases escape with
  | none =>
    have hlist : (like text pattern none).sql.toList =
        text.sql.toList ++ ' ' :: ("LIKE".toList ++ ' ' :: pattern.sql.toList) := by
      simp [sql]
    rw [hlist]
    exact (Term.lexes htext).append ((Term.lexes hpattern).keyword (by decide)) rfl
  | some c =>
    have hlist : (like text pattern (some c)).sql.toList =
        text.sql.toList ++ ' ' :: ("LIKE".toList ++ ' ' :: (pattern.sql.toList ++
          ' ' :: ("ESCAPE".toList ++ ' ' :: (quotedLiteral (String.singleton c)).toList))) := by
      simp [sql]
    have hquoted : Lexes (quotedLiteral (String.singleton c)).toList
        [.text (String.singleton c)] := by
      refine Lexes.text ?_
      rw [String.toList_singleton, List.mem_singleton]
      exact (hescape c rfl).symm
    have hpattern' := (Term.lexes hpattern).append
      (hquoted.keyword (by decide : isIdentifier "ESCAPE" = true)) rfl
    rw [hlist]
    exact (Term.lexes htext).append (hpattern'.keyword (by decide)) rfl

theorem lexes_amongItems {t array : Term} (ht : t.IsPlain) (harray : array.IsPlain) :
    Lexes (amongItems t array).sql.toList (amongItems t array).tokens := by
  have hlist : (amongItems t array).sql.toList = t.sql.toList ++ ' ' :: ("IN".toList ++
      ' ' :: '(' :: ("SELECT".toList ++ ' ' :: ("value".toList ++ ' ' :: ("FROM".toList ++
        ' ' :: ("json_each".toList ++ '(' :: (array.sql.toList ++ [')', ')'])))))) := by
    simp [sql]
  have hitems := (Lexes.word (by decide : isIdentifier "json_each" = true)).append
    ((Term.lexes harray).append Lexes.nil.closing.closing rfl).opening rfl
  have hselect := (Lexes.word (by decide : isIdentifier "SELECT" = true)).append
    ((Lexes.word (by decide : isIdentifier "value" = true)).append
      (hitems.keyword (by decide : isIdentifier "FROM" = true)) rfl).space rfl
  rw [hlist]
  exact (Term.lexes ht).append (hselect.opening.keyword (by decide)) rfl

mutual

/-- **Texts of predicates.** They have the expected tokens. -/
theorem lexes (p : Predicate) (hp : p.IsPlain) : Lexes p.sql.toList p.tokens := by
  -- Each text is cut at a space or a mark, where the word before it ends.
  cases p with
  | compare relation left right =>
    have hlist : (compare relation left right).sql.toList =
        left.sql.toList ++ ' ' :: (relation.sql.toList ++ ' ' :: right.sql.toList) := by
      simp [sql]
    have hright := (Lexes.relation relation).append (Term.lexes hp.2).space rfl
    rw [hlist]
    exact (Term.lexes hp.1).append hright.space rfl
  | like text pattern escape =>
    obtain ⟨htext, hpattern, hescape⟩ := hp
    exact lexes_like htext hpattern hescape
  | among t texts =>
    obtain ⟨ht, -, htexts⟩ := hp
    have hlist : (among t texts).sql.toList = t.sql.toList ++ ' ' :: ("IN".toList ++
        ' ' :: '(' :: ((", ".intercalate (texts.map quotedLiteral)).toList ++ [')'])) := by
      simp [sql]
    have hitems := (Lexes.intercalate fun s hs => Lexes.text (htexts s hs)).append
      Lexes.nil.closing rfl
    rw [hlist]
    exact (Term.lexes ht).append (hitems.opening.keyword (by decide)) rfl
  | amongItems t array => exact lexes_amongItems hp.1 hp.2
  | isNull t =>
    have hlist : (isNull t).sql.toList =
        t.sql.toList ++ ' ' :: ("IS".toList ++ ' ' :: "NULL".toList) := by
      simp [sql]
    rw [hlist]
    exact (Term.lexes hp).append ((Lexes.word (by decide)).keyword (by decide)) rfl
  | isNotNull t =>
    have hlist : (isNotNull t).sql.toList = t.sql.toList ++
        ' ' :: ("IS".toList ++ ' ' :: ("NOT".toList ++ ' ' :: "NULL".toList)) := by
      simp [sql]
    have hnull := (Lexes.word (by decide : isIdentifier "NOT" = true)).append
      (Lexes.word (by decide : isIdentifier "NULL" = true)).space rfl
    rw [hlist]
    exact (Term.lexes hp).append (hnull.keyword (by decide)) rfl
  | all parts =>
    have hlist : (all parts).sql.toList = '(' :: ((joined " AND " parts).toList ++ [')']) := by
      simp [sql]
    rw [hlist]
    exact ((lexes_joined (by decide : isIdentifier "AND" = true) parts hp.2).append
      Lexes.nil.closing rfl).opening
  | any parts =>
    have hlist : (any parts).sql.toList = '(' :: ((joined " OR " parts).toList ++ [')']) := by
      simp [sql]
    rw [hlist]
    exact ((lexes_joined (by decide : isIdentifier "OR" = true) parts hp.2).append
      Lexes.nil.closing rfl).opening

theorem lexes_joined {keyword : String} (hkeyword : isIdentifier keyword = true)
    (ps : List Predicate) (hps : ArePlain ps) :
    Lexes (joined (" " ++ keyword ++ " ") ps).toList (joinedTokens keyword ps) := by
  match ps with
  | [] => exact Lexes.nil
  | [p] => exact lexes p hps.1
  | p :: q :: ps =>
    have hlist : (joined (" " ++ keyword ++ " ") (p :: q :: ps)).toList = p.sql.toList ++
        ' ' :: (keyword.toList ++ ' ' :: (joined (" " ++ keyword ++ " ") (q :: ps)).toList) := by
      simp [joined]
    rw [hlist]
    exact (lexes p hps.1).append ((lexes_joined hkeyword (q :: ps) hps.2).keyword hkeyword) rfl

end

end Predicate

/-! ## Parentheses -/

/-- How many parentheses are open after the tokens, where `depth` are open before them. It is
undefined if one is closed that is not open, or if an OR stands outside of all. -/
def nesting (depth : Nat) : List Token → Option Nat
  | [] => some depth
  | .opening :: ts => nesting (depth + 1) ts
  | .closing :: ts => if depth = 0 then none else nesting (depth - 1) ts
  | t :: ts => if depth = 0 && t.isKeyword "OR" then none else nesting depth ts

theorem nesting_append (depth : Nat) (ts us : List Token) :
    nesting depth (ts ++ us) = (nesting depth ts).bind fun d => nesting d us := by
  induction ts generalizing depth with
  | nil => rfl
  | cons t ts ih =>
    cases t with
    | opening => exact ih (depth + 1)
    | closing | comma | word _ | parameter _ | integer _ | text _ | quoted _ | relation _ =>
      simp only [List.cons_append, nesting]
      split
      · rfl
      · exact ih _

/-- Where the nesting is defined, an OR has a parenthesis open before it. -/
theorem exists_nesting_of_or {depth d : Nat} {before after : List Token} {t : Token}
    (h : nesting depth (before ++ t :: after) = some d) (ht : t.isKeyword "OR" = true) :
    ∃ n, nesting depth before = some (n + 1) := by
  rw [nesting_append] at h
  obtain ⟨m, hbefore, hafter⟩ := Option.bind_eq_some_iff.1 h
  cases m with
  | succ n => exact ⟨n, hbefore⟩
  | zero =>
    cases t with
    | word word => simp [nesting, ht] at hafter
    | opening | closing | comma | parameter _ | integer _ | text _ | quoted _ | relation _ =>
      cases ht

section
variable (depth : Nat) (ts : List Token)

@[simp] theorem nesting_opening : nesting depth (.opening :: ts) = nesting (depth + 1) ts := rfl

@[simp] theorem nesting_closing : nesting (depth + 1) (.closing :: ts) = nesting depth ts := rfl

@[simp] theorem nesting_comma : nesting depth (.comma :: ts) = nesting depth ts := by
  simp [nesting, Token.isKeyword]

@[simp] theorem nesting_text (s : String) : nesting depth (.text s :: ts) = nesting depth ts := by
  simp [nesting, Token.isKeyword]

@[simp] theorem nesting_relation (r : Relation) :
    nesting depth (.relation r :: ts) = nesting depth ts := by
  simp [nesting, Token.isKeyword]

@[simp] theorem nesting_integer (n : Nat) :
    nesting depth (.integer n :: ts) = nesting depth ts := by
  simp [nesting, Token.isKeyword]

@[simp] theorem nesting_parameter (n : Nat) :
    nesting depth (.parameter n :: ts) = nesting depth ts := by
  simp [nesting, Token.isKeyword]

theorem nesting_word {word : String} (h : Text.sameFold word "OR" = false) :
    nesting depth (.word word :: ts) = nesting depth ts := by
  simp [nesting, Token.isKeyword, h]

end

theorem Term.nesting_tokens {t : Term} (ht : t.IsPlain) (depth : Nat) (rest : List Token) :
    nesting depth (t.tokens ++ rest) = nesting depth rest := by
  induction t generalizing depth rest with
  | column name => exact nesting_word _ _ (not_isKeyword_of_isName ht (by decide))
  | parameter n => exact nesting_parameter _ _ n
  | integer n => exact nesting_integer _ _ _
  | lower t ih | leading t length ih | date t ih | className t ih =>
    rw [tokens, List.cons_append, nesting_word _ _ (by decide)]
    simp [ih ht]

theorem nesting_texts {texts : List String} (depth : Nat) (rest : List Token) :
    nesting depth ([Token.comma].intercalate (texts.map fun s => [.text s]) ++ rest) =
      nesting depth rest := by
  induction texts with
  | nil => rfl
  | cons s texts ih =>
    cases texts with
    | nil => simp
    | cons t texts =>
      have hcons : [Token.comma].intercalate ((s :: t :: texts).map fun s => [.text s]) ++ rest =
          .text s :: .comma ::
            ([Token.comma].intercalate ((t :: texts).map fun s => [.text s]) ++ rest) := by
        simp
      rw [hcons, nesting_text, nesting_comma, ih]

namespace Predicate

mutual

/-- **Parentheses.** They balance, and every OR is inside of some. -/
theorem nesting_tokens (p : Predicate) (hp : p.IsPlain) (depth : Nat) (rest : List Token) :
    nesting depth (p.tokens ++ rest) = nesting depth rest := by
  -- No test has an OR, and the parts of a group stand inside its parentheses.
  cases p with
  | compare relation left right =>
    simp [tokens, Term.nesting_tokens hp.1, Term.nesting_tokens hp.2]
  | like text pattern escape =>
    obtain ⟨htext, hpattern, -⟩ := hp
    have hlike : Text.sameFold "LIKE" "OR" = false := by decide
    have hescape : Text.sameFold "ESCAPE" "OR" = false := by decide
    cases escape with
    | none =>
      simp [tokens, Term.nesting_tokens htext, Term.nesting_tokens hpattern, nesting_word, hlike]
    | some c =>
      simp [tokens, Term.nesting_tokens htext, Term.nesting_tokens hpattern, nesting_word, hlike,
        hescape]
  | among t texts =>
    have hin : Text.sameFold "IN" "OR" = false := by decide
    simp [tokens, Term.nesting_tokens hp.1, nesting_word, hin, nesting_texts]
  | amongItems t array =>
    have hwords : ∀ word ∈ ["IN", "SELECT", "value", "FROM", "json_each"],
        Text.sameFold word "OR" = false := by decide
    simp only [List.forall_mem_cons] at hwords
    simp [tokens, Term.nesting_tokens hp.1, Term.nesting_tokens hp.2, nesting_word, hwords]
  | isNull t =>
    have hwords : ∀ word ∈ ["IS", "NULL"], Text.sameFold word "OR" = false := by decide
    simp only [List.forall_mem_cons] at hwords
    rw [tokens, List.append_assoc, Term.nesting_tokens hp]
    simp [nesting_word, hwords]
  | isNotNull t =>
    have hwords : ∀ word ∈ ["IS", "NOT", "NULL"], Text.sameFold word "OR" = false := by decide
    simp only [List.forall_mem_cons] at hwords
    rw [tokens, List.append_assoc, Term.nesting_tokens hp]
    simp [nesting_word, hwords]
  | all parts =>
    have hand (ts : List Token) :
        nesting (depth + 1) (.word "AND" :: ts) = nesting (depth + 1) ts :=
      nesting_word _ _ (by decide)
    simp [tokens, nesting_joinedTokens hand parts hp.2]
  | any parts =>
    have hor (ts : List Token) :
        nesting (depth + 1) (.word "OR" :: ts) = nesting (depth + 1) ts := by
      simp [nesting]
    simp [tokens, nesting_joinedTokens hor parts hp.2]

theorem nesting_joinedTokens {keyword : String} {depth : Nat}
    (hkeyword : ∀ ts, nesting depth (.word keyword :: ts) = nesting depth ts)
    (ps : List Predicate) (hps : ArePlain ps) (rest : List Token) :
    nesting depth (joinedTokens keyword ps ++ rest) = nesting depth rest := by
  match ps with
  | [] => rfl
  | [p] => exact nesting_tokens p hps.1 depth rest
  | p :: q :: ps =>
    rw [joinedTokens, List.append_assoc, nesting_tokens p hps.1, List.cons_append, hkeyword]
    exact nesting_joinedTokens hkeyword (q :: ps) hps.2 rest

end

end Predicate
end BillingQuery.Sql
