import BillingQuery.Query.AllowList
import BillingQuery.Sql.Predicate
import BillingQuery.Store.RawQuery
import Mathlib.Tactic.SplitIfs

/-!
# Tokens of SQL

A text of SQL is a sequence of tokens. `Sql.tokens?` finds them as SQL does: words and numbers are
as long as they can be, and what stands in quotes is one token, whatever is inside.

**Texts of tokens (`Lexes`).** A text has certain tokens if it has them wherever it stands before
something that ends a word. Such texts can be put together (`Lexes.append`), and so what is written
piece by piece can be read piece by piece.
-/

namespace BillingQuery.Sql

open RawQuery (isSpace isWordChar)

inductive Token
  | word (s : String)
  | parameter (n : Nat)
  | integer (n : Nat)
  /-- A text in single quotes. -/
  | text (s : String)
  /-- A name in double quotes. -/
  | quoted (s : String)
  | relation (r : Relation)
  | opening
  | closing
  | comma
deriving DecidableEq

/-! ## Finding tokens -/

/-- What stands before the closing quote, and what follows it. A quote that is written twice is one
quote of the text. -/
def untilQuote (quote : Char) : List Char → Option (List Char × List Char)
  | [] => none
  | [c] => if c = quote then some ([], []) else none
  | c :: d :: cs =>
    if c ≠ quote then (untilQuote quote (d :: cs)).map fun (s, rest) => (c :: s, rest)
    else if d ≠ quote then some ([], d :: cs)
    else (untilQuote quote cs).map fun (s, rest) => (quote :: s, rest)

/-- The token of a run of word characters: a number if all are digits, and else a word, which does
not start with a digit. -/
def runToken? (run : List Char) : Option Token :=
  match Numeral.digits? run with
  | some n => some (.integer n)
  | none => if run.head?.any Char.isDigit then none else some (.word (String.ofList run))

/-- The mark that starts with `c`, and what follows it. -/
def markToken? (c : Char) (cs : List Char) : Option (Token × List Char) :=
  match c, cs with
  | '(', cs => some (.opening, cs)
  | ')', cs => some (.closing, cs)
  | ',', cs => some (.comma, cs)
  | '=', cs => some (.relation .eq, cs)
  | '!', '=' :: cs => some (.relation .ne, cs)
  | '<', '>' :: cs => some (.relation .ne, cs)
  | '<', '=' :: cs => some (.relation .lte, cs)
  | '<', cs => some (.relation .lt, cs)
  | '>', '=' :: cs => some (.relation .gte, cs)
  | '>', cs => some (.relation .gt, cs)
  | _, _ => none

/-- The first token, and what follows it. -/
def token? : List Char → Option (Token × List Char)
  | [] => none
  | c :: cs =>
    if isWordChar c then
      (runToken? (c :: cs.takeWhile isWordChar)).map fun t => (t, cs.dropWhile isWordChar)
    else if c = '$' then
      (Numeral.digits? (cs.takeWhile isWordChar)).map fun n =>
        (.parameter n, cs.dropWhile isWordChar)
    else if c = '\'' then
      (untilQuote '\'' cs).map fun (s, rest) => (.text (String.ofList s), rest)
    else if c = '"' then
      (untilQuote '"' cs).map fun (s, rest) => (.quoted (String.ofList s), rest)
    else markToken? c cs

theorem length_untilQuote {quote : Char} {cs s rest : List Char}
    (h : untilQuote quote cs = some (s, rest)) : rest.length < cs.length := by
  induction cs using untilQuote.induct quote generalizing s with
  | case1 => cases h
  | case2 => simp_all [untilQuote]
  | case3 => simp_all [untilQuote]
  | case4 c d cs hc ih =>
    rw [untilQuote, if_pos hc] at h
    obtain ⟨⟨s', rest'⟩, hs, heq⟩ := Option.map_eq_some_iff.1 h
    cases heq
    exact Nat.lt_succ_of_lt (ih hs)
  | case5 c d cs hc hd =>
    rw [untilQuote, if_neg hc, if_pos hd] at h
    cases h
    exact Nat.lt_succ_self _
  | case6 c d cs hc hd ih =>
    rw [untilQuote, if_neg hc, if_neg hd] at h
    obtain ⟨⟨s', rest'⟩, hs, heq⟩ := Option.map_eq_some_iff.1 h
    cases heq
    exact Nat.lt_succ_of_lt (Nat.lt_succ_of_lt (ih hs))

theorem length_markToken? {c : Char} {cs rest : List Char} {t : Token}
    (h : markToken? c cs = some (t, rest)) : rest.length < (c :: cs).length := by
  unfold markToken? at h
  split at h <;> cases h <;> (simp only [List.length_cons]; omega)

theorem length_token? {cs rest : List Char} {t : Token} (h : token? cs = some (t, rest)) :
    rest.length < cs.length := by
  cases cs with
  | nil => cases h
  | cons c cs =>
    have hrun : (cs.dropWhile isWordChar).length < (c :: cs).length :=
      Nat.lt_succ_of_le (List.dropWhile_sublist _).length_le
    rw [token?] at h
    split_ifs at h
    · obtain ⟨_, -, heq⟩ := Option.map_eq_some_iff.1 h
      cases heq
      exact hrun
    · obtain ⟨_, -, heq⟩ := Option.map_eq_some_iff.1 h
      cases heq
      exact hrun
    · obtain ⟨_, hs, heq⟩ := Option.map_eq_some_iff.1 h
      cases heq
      exact Nat.lt_succ_of_lt (length_untilQuote hs)
    · obtain ⟨_, hs, heq⟩ := Option.map_eq_some_iff.1 h
      cases heq
      exact Nat.lt_succ_of_lt (length_untilQuote hs)
    · exact length_markToken? h

/-- The tokens of a text, if it has no other parts than tokens and spaces. -/
def tokens? (cs : List Char) : Option (List Token) :=
  match cs with
  | [] => some []
  | c :: cs =>
    if isSpace c then tokens? cs
    else
      match h : token? (c :: cs) with
      | none => none
      | some (t, rest) =>
        have : rest.length < (c :: cs).length := length_token? h
        (tokens? rest).map (t :: ·)
termination_by cs.length
decreasing_by
  · exact Nat.lt_succ_self _
  · exact this

/-! ## Texts with their tokens -/

theorem tokens?_of_isSpace {c : Char} (hc : isSpace c = true) (cs : List Char) :
    tokens? (c :: cs) = tokens? cs := by
  rw [tokens?, if_pos hc]

theorem tokens?_of_token? {c : Char} {cs rest : List Char} {t : Token} (hc : isSpace c = false)
    (h : token? (c :: cs) = some (t, rest)) : tokens? (c :: cs) = (tokens? rest).map (t :: ·) := by
  rw [tokens?, if_neg (by simp [hc])]
  split
  · next hnone =>
    rw [hnone] at h
    cases h
  · next t' rest' hsome =>
    rw [hsome] at h
    cases h
    rfl

/-- The text ends a word or a number before it, and any quotes. -/
def Stops : List Char → Bool
  | [] => true
  | c :: _ => c = ' ' || c = '(' || c = ')' || c = ','

/-- The text has these tokens, whatever follows that ends a word. -/
def Lexes (cs : List Char) (ts : List Token) : Prop :=
  ∀ rest, Stops rest = true → tokens? (cs ++ rest) = (tokens? rest).map (ts ++ ·)

namespace Lexes

variable {cs ds : List Char} {ts us : List Token}

theorem eq_some (h : Lexes cs ts) : tokens? cs = some ts := by
  have hnil := h [] rfl
  rwa [List.append_nil, tokens?, Option.map_some, List.append_nil] at hnil

theorem append (hcs : Lexes cs ts) (hds : Lexes ds us) (hstops : Stops ds = true) :
    Lexes (cs ++ ds) (ts ++ us) := by
  intro rest hrest
  have hstops' : Stops (ds ++ rest) = true := by
    cases ds with
    | nil => exact hrest
    | cons d ds => exact hstops
  rw [List.append_assoc, hcs _ hstops', hds _ hrest, Option.map_map]
  congr 1
  funext more
  exact (List.append_assoc ts us more).symm

theorem space (h : Lexes cs ts) : Lexes (' ' :: cs) ts := by
  intro rest hrest
  rw [List.cons_append, tokens?_of_isSpace rfl]
  exact h rest hrest

/-- A mark of one character is a token wherever it stands. -/
theorem cons {c : Char} {t : Token} (hc : isSpace c = false)
    (hmark : ∀ rest, token? (c :: rest) = some (t, rest)) (h : Lexes cs ts) :
    Lexes (c :: cs) (t :: ts) := by
  intro rest hrest
  rw [List.cons_append, tokens?_of_token? hc (hmark _), h rest hrest, Option.map_map]
  rfl

theorem nil : Lexes [] [] := by
  intro rest _
  rw [List.nil_append]
  exact (Option.map_id' (x := tokens? rest)).symm

theorem opening (h : Lexes cs ts) : Lexes ('(' :: cs) (.opening :: ts) :=
  h.cons rfl fun _ => rfl

theorem closing (h : Lexes cs ts) : Lexes (')' :: cs) (.closing :: ts) :=
  h.cons rfl fun _ => rfl

theorem comma (h : Lexes cs ts) : Lexes (',' :: cs) (.comma :: ts) :=
  h.cons rfl fun _ => rfl

/-- A text that is one token where a word ends is lexed so. -/
theorem of_token? {c : Char} {t : Token} (hc : isSpace c = false)
    (h : ∀ rest, Stops rest = true → token? (c :: cs ++ rest) = some (t, rest)) :
    Lexes (c :: cs) [t] := by
  intro rest hrest
  exact tokens?_of_token? hc (h rest hrest)

end Lexes

/-! ### Words and numbers -/

/-- A run of word characters is as long as it can be. -/
theorem span_isWordChar {run rest : List Char} (hrun : ∀ c ∈ run, isWordChar c = true)
    (hrest : Stops rest = true) :
    (run ++ rest).takeWhile isWordChar = run ∧ (run ++ rest).dropWhile isWordChar = rest := by
  have hstop : rest.takeWhile isWordChar = [] ∧ rest.dropWhile isWordChar = rest := by
    cases rest with
    | nil => exact ⟨rfl, rfl⟩
    | cons c rest =>
      have hc : ¬ isWordChar c = true := by
        simp only [Stops, Bool.or_eq_true, decide_eq_true_eq] at hrest
        rcases hrest with ((rfl | rfl) | rfl) | rfl <;> decide
      exact ⟨List.takeWhile_cons_of_neg hc, List.dropWhile_cons_of_neg hc⟩
  rw [List.takeWhile_append_of_pos hrun, List.dropWhile_append_of_pos hrun, hstop.1, hstop.2,
    List.append_nil]
  exact ⟨rfl, rfl⟩

theorem Lexes.run {c : Char} {cs : List Char} {t : Token}
    (hrun : ∀ d ∈ c :: cs, isWordChar d = true) (ht : runToken? (c :: cs) = some t) :
    Lexes (c :: cs) [t] := by
  obtain ⟨hc, hcs⟩ := List.forall_mem_cons.1 hrun
  have hspace : isSpace c = false := by
    cases hs : isSpace c with
    | false => rfl
    | true =>
      simp only [isSpace, Bool.or_eq_true, decide_eq_true_eq] at hs
      rcases hs with (((rfl | rfl) | rfl) | rfl) | rfl <;> cases hc
  refine Lexes.of_token? hspace fun rest hrest => ?_
  obtain ⟨htake, hdrop⟩ := span_isWordChar hcs hrest
  rw [List.cons_append, token?, if_pos hc, htake, hdrop, ht]
  rfl

/-! ### Numbers -/

theorem isWordChar_of_mem_toDigits {n : Nat} {c : Char} (h : c ∈ Nat.toDigits 10 n) :
    isWordChar c = true := by
  have hdigit : c.isDigit = true := Nat.isDigit_of_mem_toDigits (by decide) (by decide) h
  simp [isWordChar, Char.isAlphanum, hdigit]

theorem digits?_toDigits (n : Nat) : Numeral.digits? (Nat.toDigits 10 n) = some n := by
  have hall : (Nat.toDigits 10 n).all Char.isDigit = true :=
    List.all_eq_true.2 fun c hc => Nat.isDigit_of_mem_toDigits (by decide) (by decide) hc
  have hvalue : Numeral.ofDigits (Nat.toDigits 10 n) = n :=
    Nat.ofDigitChars_eq_foldl.symm.trans Nat.ofDigitChars_ten_toDigits
  rw [Numeral.digits?, if_neg, hvalue]
  simp [hall, Nat.toDigits_ne_nil]

theorem Lexes.integer (n : Nat) : Lexes (natText n).toList [.integer n] := by
  rw [natText, String.toList_ofList]
  cases hdigits : Nat.toDigits 10 n with
  | nil => exact absurd hdigits Nat.toDigits_ne_nil
  | cons c cs =>
    refine Lexes.run (fun d hd => ?_) ?_
    · exact isWordChar_of_mem_toDigits (hdigits ▸ hd)
    · rw [← hdigits, runToken?, digits?_toDigits]

theorem Lexes.parameter (n : Nat) : Lexes ('$' :: (natText n).toList) [.parameter n] := by
  rw [natText, String.toList_ofList]
  refine Lexes.of_token? rfl fun rest hrest => ?_
  obtain ⟨htake, hdrop⟩ := span_isWordChar (fun c hc => isWordChar_of_mem_toDigits hc) hrest
  rw [List.cons_append, token?, if_neg (by decide), if_pos rfl, htake, hdrop, digits?_toDigits]
  rfl

/-! ### Words -/

theorem isDigit_of_isAlpha {c : Char} (h : c.isAlpha = true) : c.isDigit = false := by
  have hletter : c.isUpper = true ∨ c.isLower = true := Bool.or_eq_true_iff.1 h
  have hcode : 65 ≤ c.toNat := by
    rcases hletter with h | h
    · exact (of_decide_eq_true h).1
    · exact Nat.le_trans (by decide) (of_decide_eq_true (Bool.and_eq_true_iff.1 h).1)
  refine Bool.eq_false_iff.2 fun hdigit => ?_
  have hle : c.toNat ≤ 57 := of_decide_eq_true (Bool.and_eq_true_iff.1 hdigit).2
  omega

/-- A plain identifier is a word. -/
theorem Lexes.word {name : String} (h : isIdentifier name = true) :
    Lexes name.toList [.word name] := by
  unfold isIdentifier at h
  split at h
  · cases h
  · next c cs heq =>
    rw [Bool.and_eq_true, List.all_eq_true] at h
    obtain ⟨hfirst, hrest⟩ := h
    have hname : String.ofList (c :: cs) = name := by rw [← heq, String.ofList_toList]
    have hdigit : c.isDigit = false := by
      rw [Bool.or_eq_true, decide_eq_true_eq] at hfirst
      rcases hfirst with hfirst | rfl
      · exact isDigit_of_isAlpha hfirst
      · rfl
    rw [heq]
    refine Lexes.run (List.forall_mem_cons.2 ⟨?_, fun d hd => ?_⟩) ?_
    · rw [Bool.or_eq_true, decide_eq_true_eq] at hfirst
      rcases hfirst with hfirst | rfl
      · simp [isWordChar, Char.isAlphanum, hfirst]
      · rfl
    · have hd' := hrest d hd
      rw [Bool.or_eq_true, decide_eq_true_eq] at hd'
      simp [isWordChar, hd']
    · simp [runToken?, Numeral.digits?, hdigit, hname]

/-! ### Quotes -/

theorem untilQuote_append {quote : Char} {s rest : List Char} (hs : quote ∉ s)
    (hrest : rest.head? ≠ some quote) :
    untilQuote quote (s ++ quote :: rest) = some (s, rest) := by
  induction s with
  | nil =>
    cases rest with
    | nil => simp [untilQuote]
    | cons d rest =>
      have hd : d ≠ quote := fun h => hrest (congrArg some h)
      simp [untilQuote, hd]
  | cons c s ih =>
    rw [List.mem_cons, not_or] at hs
    have hc : c ≠ quote := Ne.symm hs.1
    obtain ⟨d, tail, htail⟩ : ∃ d tail, s ++ quote :: rest = d :: tail :=
      List.exists_cons_of_ne_nil (by simp)
    rw [List.cons_append, htail, untilQuote, if_pos hc, ← htail, ih hs.2]
    rfl

theorem head?_of_stops {rest : List Char} {quote : Char} (hrest : Stops rest = true)
    (hquote : quote = '\'' ∨ quote = '"') : rest.head? ≠ some quote := by
  cases rest with
  | nil => exact nofun
  | cons c rest =>
    intro h
    cases h
    rcases hquote with rfl | rfl <;> cases hrest

/-- A text without single quotes is read back from them. -/
theorem Lexes.text {s : String} (hs : '\'' ∉ s.toList) :
    Lexes (Predicate.quotedLiteral s).toList [.text s] := by
  have hlist : (Predicate.quotedLiteral s).toList = '\'' :: (s.toList ++ ['\'']) := by
    simp [Predicate.quotedLiteral]
  rw [hlist]
  refine Lexes.of_token? rfl fun rest hrest => ?_
  rw [List.cons_append, token?, if_neg (by decide), if_neg (by decide), if_pos rfl,
    List.append_assoc, List.singleton_append,
    untilQuote_append hs (head?_of_stops hrest (Or.inl rfl)), Option.map_some]
  exact congrArg (fun name => some (Token.text name, rest)) String.ofList_toList

/-- A name without double quotes is read back from them. -/
theorem Lexes.quoted {s : String} (hs : '"' ∉ s.toList) :
    Lexes ('"' :: (s.toList ++ ['"'])) [.quoted s] := by
  refine Lexes.of_token? rfl fun rest hrest => ?_
  rw [List.cons_append, token?, if_neg (by decide), if_neg (by decide), if_neg (by decide),
    if_pos rfl, List.append_assoc, List.singleton_append,
    untilQuote_append hs (head?_of_stops hrest (Or.inr rfl)), Option.map_some]
  exact congrArg (fun name => some (Token.quoted name, rest)) String.ofList_toList

/-! ### Relations -/

theorem Lexes.relation (r : Relation) : Lexes r.sql.toList [.relation r] := by
  have hstop : ∀ rest, Stops rest = true →
      markToken? '<' rest = some (.relation .lt, rest) ∧
        markToken? '>' rest = some (.relation .gt, rest) := by
    intro rest hrest
    cases rest with
    | nil => exact ⟨rfl, rfl⟩
    | cons c rest =>
      simp only [Stops, Bool.or_eq_true, decide_eq_true_eq] at hrest
      rcases hrest with ((rfl | rfl) | rfl) | rfl <;> exact ⟨rfl, rfl⟩
  cases r with
  | eq => exact Lexes.nil.cons rfl fun _ => rfl
  | ne | gte | lte => exact Lexes.of_token? rfl fun _ _ => rfl
  | lt => exact Lexes.of_token? rfl fun rest hrest => (hstop rest hrest).1
  | gt => exact Lexes.of_token? rfl fun rest hrest => (hstop rest hrest).2

end BillingQuery.Sql
