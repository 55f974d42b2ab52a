import BillingQuery.Proofs.RowTests

/-!
# Literal patterns

**LIKE as documented (`Sql.Like`).** In a pattern `%` takes any characters and `_` takes one, the
character after an escape takes itself, as does every other one, and letters take either case. The
matcher works on items of a pattern and on all tails of a text at once, and says the same
(`Sql.likeMatches_iff`).

**Main result (`PatternKind.isLiteral`).** The pattern that is bound for a needle matches a text iff
the needle stands in it, at the place of its kind: as documented, to the evaluator and in the store.
A needle may have every special character, next to the `%` that is added or to one another.
-/

namespace BillingQuery

namespace Sql

/-! ## LIKE as documented -/

/-- A text matches a pattern. -/
inductive Like (escape : Option Char) : List Char → List Char → Prop
  | nil : Like escape [] []
  | any {pattern text : List Char} (taken : List Char) (special : escape ≠ some '%')
      (rest : Like escape pattern text) : Like escape ('%' :: pattern) (taken ++ text)
  | one {pattern text : List Char} (c : Char) (special : escape ≠ some '_')
      (rest : Like escape pattern text) : Like escape ('_' :: pattern) (c :: text)
  | escaped {e c d : Char} {pattern text : List Char} (escapes : escape = some e)
      (same : c.toLower = d.toLower) (rest : Like escape pattern text) :
      Like escape (e :: d :: pattern) (c :: text)
  | plain {c d : Char} {pattern text : List Char} (plain : escape ≠ some d ∧ d ≠ '%' ∧ d ≠ '_')
      (same : c.toLower = d.toLower) (rest : Like escape pattern text) :
      Like escape (d :: pattern) (c :: text)

namespace Like

open LikeItem (ofChar ofChars ofChars_cons ofChars_escape_cons accepts accepts_any exactly)

variable {escape : Option Char}

theorem ofChar_of_plain {d : Char} (h : d ≠ '%' ∧ d ≠ '_') : ofChar d = exactly d := by
  rw [ofChar, if_neg h.1, if_neg h.2]

theorem exists_items {pattern text : List Char} (h : Like escape pattern text) :
    ∃ items, ofChars escape pattern = some items ∧ accepts items text = true := by
  induction h with
  | nil => exact ⟨[], rfl, rfl⟩
  | @any pattern text taken hspecial _ ih =>
    obtain ⟨items, hitems, haccepts⟩ := ih
    refine ⟨.any :: items, ?_, accepts_any.2 ⟨text, ⟨taken, rfl⟩, haccepts⟩⟩
    rw [ofChars_cons hspecial, hitems]
    rfl
  | one c hspecial _ ih =>
    obtain ⟨items, hitems, haccepts⟩ := ih
    refine ⟨.one :: items, ?_, haccepts⟩
    rw [ofChars_cons hspecial, hitems]
    rfl
  | @escaped e c d _ _ hescapes hsame _ ih =>
    subst hescapes
    obtain ⟨items, hitems, haccepts⟩ := ih
    refine ⟨exactly d :: items, ?_, by simp [accepts, hsame, haccepts]⟩
    rw [ofChars_escape_cons, hitems, Option.map_some]
  | @plain c d _ _ hplain hsame _ ih =>
    obtain ⟨items, hitems, haccepts⟩ := ih
    refine ⟨exactly d :: items, ?_, by simp [accepts, hsame, haccepts]⟩
    rw [ofChars_cons hplain.1, hitems, Option.map_some, ofChar_of_plain hplain.2]

/-- One literal item takes one character. -/
theorem accepts_exactly_cons {d : Char} {items : List LikeItem} {text : List Char}
    (h : accepts (exactly d :: items) text = true) :
    ∃ c rest, text = c :: rest ∧ c.toLower = d.toLower ∧ accepts items rest = true := by
  cases text with
  | nil => simp [accepts] at h
  | cons c rest =>
    simp only [accepts, Bool.and_eq_true, beq_iff_eq] at h
    exact ⟨c, rest, rfl, h.1, h.2⟩

/-- What the items of a pattern accept matches the pattern. An escape takes the character after it
along, so that the rest of the pattern may be shorter by two. -/
theorem of_accepts {items : List LikeItem} {text : List Char} (pattern : List Char)
    (hitems : ofChars escape pattern = some items) (h : accepts items text = true) :
    Like escape pattern text := by
  match pattern with
  | [] =>
    cases hitems
    rw [List.isEmpty_iff.1 h]
    exact .nil
  | c :: pattern =>
    by_cases hescape : escape = some c
    · match pattern with
      | [] => simp [ofChars, hescape] at hitems
      | d :: pattern =>
        rw [hescape, ofChars_escape_cons, ← hescape] at hitems
        obtain ⟨items, hrest, rfl⟩ := Option.map_eq_some_iff.1 hitems
        obtain ⟨c', text, rfl, hsame, haccepts⟩ := accepts_exactly_cons h
        exact .escaped hescape hsame (of_accepts pattern hrest haccepts)
    · rw [ofChars_cons hescape] at hitems
      obtain ⟨items, hrest, rfl⟩ := Option.map_eq_some_iff.1 hitems
      by_cases hpercent : c = '%'
      · subst hpercent
        obtain ⟨text, ⟨taken, rfl⟩, haccepts⟩ := accepts_any.1 h
        exact .any taken hescape (of_accepts pattern hrest haccepts)
      · by_cases hunder : c = '_'
        · subst hunder
          cases text with
          | nil => simp [ofChar, accepts] at h
          | cons c' text => exact .one c' hescape (of_accepts pattern hrest h)
        · rw [ofChar_of_plain ⟨hpercent, hunder⟩] at h
          obtain ⟨c', text, rfl, hsame, haccepts⟩ := accepts_exactly_cons h
          exact .plain ⟨hescape, hpercent, hunder⟩ hsame (of_accepts pattern hrest haccepts)

end Like

/-- **The matcher.** It finds that a text matches a pattern iff this is so as documented. -/
theorem likeMatches_iff {escape : Option Char} {pattern text : List Char} :
    likeMatches escape pattern text = true ↔ Like escape pattern text := by
  rw [likeMatches]
  constructor
  · intro h
    split at h
    · next items hitems =>
      rw [LikeItem.matchesText_eq] at h
      exact Like.of_accepts pattern hitems h
    · cases h
  · intro h
    obtain ⟨items, hitems, haccepts⟩ := h.exists_items
    rw [hitems]
    show LikeItem.matchesText items text = true
    rw [LikeItem.matchesText_eq, haccepts]

/-- After an escape, a special character takes itself alone. -/
example : likeMatches (some '\\') "a\\_%".toList "A_b".toList = true ∧
    likeMatches (some '\\') "a\\_%".toList "Axb".toList = false := by decide

end Sql

/-! ## Needles -/

/-- The test for a needle finds it in a text iff it stands there, up to ASCII case. -/
structure PatternKind.IsLiteral (kind : PatternKind) (needle text : String) : Prop where
  /-- As LIKE is documented. -/
  documented : Sql.Like (some '\\') (kind.likePattern (Text.fold needle)).toList
    (Text.fold text).toList ↔ kind.Places (Text.fold needle).toList (Text.fold text).toList
  /-- To the evaluator, on a record that has the text. -/
  evaluated : (Operand.pattern kind (Text.fold needle)).accepts (.string text) = true ↔
    kind.Places (Text.fold needle).toList (Text.fold text).toList
  /-- In an engine that reads every character as it is, on a row that has the text. The compiled
  test is then never unknown. -/
  compiled : ∀ (s : Sql.Scope) (column : String) (bound : Nat), s.seen = id →
    s.cell column = .text text →
    Operand.IsBound s bound (Operand.pattern kind (Text.fold needle)).values →
    ((Operand.pattern kind (Text.fold needle)).predicate column bound).truth s =
      some ((Operand.pattern kind (Text.fold needle)).accepts (.string text))
  /-- An engine that reads some characters as others finds the needle where it would stand if both
  were written as they are read. -/
  readOtherwise : ∀ (s : Sql.Scope) (column : String) (bound : Nat), Sql.ReadsAscii s.seen →
    s.cell column = .text text →
    Operand.IsBound s bound (Operand.pattern kind (Text.fold needle)).values →
    (((Operand.pattern kind (Text.fold needle)).predicate column bound).truth s = some true ↔
      kind.Places ((Text.fold needle).toList.map s.seen) ((Text.fold text).toList.map s.seen))

theorem Operand.truth_pattern_eq {s : Sql.Scope} {column text needle : String} {bound : Nat}
    {kind : PatternKind} (hcell : s.cell column = .text text)
    (hbound : IsBound s bound (pattern kind needle).values) :
    ((pattern kind needle).predicate column bound).truth s =
      some (Sql.likeMatches (some '\\') (Sql.seenChars s.seen (kind.likePattern needle))
        (Sql.seenChars s.seen (Text.fold text))) := by
  have hfirst : s.parameter (bound + 1) = .text (kind.likePattern needle) := hbound 0 _ rfl
  have hlower : (s.cell column).lower = .text (Text.fold text) := by rw [hcell]; rfl
  rw [predicate, Sql.Predicate.truth]
  simp [Sql.Term.value, hfirst, hlower, Sql.Cell.seenChars?, Sql.Cell.asText?]

/-- **Patterns are literal**, whatever the characters of the needle and of the text. -/
theorem PatternKind.isLiteral (kind : PatternKind) {needle text : String}
    (hneedle : Text.IsNulFree needle) (htext : Text.IsNulFree text) :
    kind.IsLiteral needle text := by
  have hevaluated : (Operand.pattern kind (Text.fold needle)).accepts (.string text) = true ↔
      kind.Places (Text.fold needle).toList (Text.fold text).toList := by
    show (some (Text.fold text)).any (kind.holds (Text.fold needle)) = true ↔ _
    rw [Option.any_some, PatternKind.holds_iff]
  have hread (s : Sql.Scope) (column : String) (bound : Nat) (hseen : Sql.ReadsAscii s.seen)
      (hcell : s.cell column = .text text)
      (hbound : Operand.IsBound s bound (Operand.pattern kind (Text.fold needle)).values) :
      ((Operand.pattern kind (Text.fold needle)).predicate column bound).truth s = some true ↔
        kind.Places ((Text.fold needle).toList.map s.seen)
          ((Text.fold text).toList.map s.seen) := by
    have hlower : (s.cell column).lower = .text (Text.fold text) := by rw [hcell]; rfl
    rw [Operand.truth_pattern_iff hseen hneedle.fold (Text.fold_fold needle) hlower
      (Text.fold_fold text) hbound, Sql.seenChars_of_isNulFree htext.fold]
  refine ⟨?_, hevaluated, ?_, hread⟩
  · have hfold (s : String) :
        (Text.fold s).toList.map Char.toLower = (Text.fold s).toList := by
      rw [← Text.toList_fold, Text.fold_fold]
    rw [← Sql.likeMatches_iff, Sql.toList_likePattern, Sql.likeMatches_patternChars, hfold, hfold]
  · intro s column bound hseen hcell hbound
    have hreadsAscii : Sql.ReadsAscii s.seen := by
      rw [hseen]
      exact Sql.readsAscii_id
    have hiff := hread s column bound hreadsAscii hcell hbound
    rw [hseen, List.map_id, List.map_id, ← hevaluated] at hiff
    rw [Operand.truth_pattern_eq hcell hbound, Option.some.injEq] at hiff ⊢
    rw [Bool.eq_iff_iff]
    exact hiff

theorem PatternKind.isLiteral_sample :
    (Text.IsNulFree "50%_Off\\" ∧ Text.IsNulFree "\\50%_oFF\\") ∧
      PatternKind.endsWith.IsLiteral "50%_Off\\" "\\50%_oFF\\" := by
  have hneedle : Text.IsNulFree "50%_Off\\" := by decide
  have htext : Text.IsNulFree "\\50%_oFF\\" := by decide
  exact ⟨⟨hneedle, htext⟩, PatternKind.isLiteral .endsWith hneedle htext⟩

end BillingQuery
