import BillingQuery.Proofs.RegexSearch
import BillingQuery.Query.StatementGuard

/-!
# The language of raw statements

**Main result (`StatementGuard.validate_eq_iff`).** The guard trims the text, and the first of four
checks that fails decides: the text starts with SELECT, none of its maximal runs of identifier
characters is a forbidden keyword, it is not too long, and without the semicolons and white space at
its end it has no semicolon. A keyword inside a longer identifier does no harm.

The guard searches for keywords with a delimiter on either side. Such a match starts one character
before the run, or with it at the start of the text, so that the first match is at the first run.
-/

namespace BillingQuery

open Text (Spells foldCase anyCase Place Regex)

/-! ## Identifier characters -/

/-- ASCII letters, digits and the underscore, and the two characters that fold to ASCII letters. -/
def isIdentifierChar (c : Char) : Bool :=
  isIdentifierClass c || c = '\u017f' || c = '\u212a'

theorem isIdentifierClass_iff {c : Char} : isIdentifierClass c = true ↔
    (65 ≤ c.toNat ∧ c.toNat ≤ 90) ∨ (97 ≤ c.toNat ∧ c.toNat ≤ 122) ∨
      (48 ≤ c.toNat ∧ c.toNat ≤ 57) ∨ c.toNat = 95 := by
  have hupper : c.isUpper = decide (65 ≤ c.toNat ∧ c.toNat ≤ 90) := rfl
  have hlower : c.isLower = (decide (97 ≤ c.toNat) && decide (c.toNat ≤ 122)) := rfl
  have hdigit : c.isDigit = (decide (48 ≤ c.toNat) && decide (c.toNat ≤ 57)) := rfl
  have hunderscore : c = '_' ↔ c.toNat = 95 := Text.toNat_eq_iff.symm
  show ((c.isUpper || c.isLower) || c.isDigit || decide (c = '_')) = true ↔ _
  simp only [hupper, hlower, hdigit, hunderscore, Bool.or_eq_true, Bool.and_eq_true,
    decide_eq_true_eq, or_assoc]

/-- The delimiters are the other characters. -/
theorem anyCase_isIdentifierClass (c : Char) :
    anyCase isIdentifierClass c = isIdentifierChar c := by
  rw [Bool.eq_iff_iff, Text.anyCase_eq_true_iff]
  constructor
  · rintro ⟨d, hfold, hd⟩
    rcases Text.foldCase_cases c with ⟨rfl, -⟩ | ⟨rfl, -⟩ | ⟨-, -, hc⟩
    · rfl
    · rfl
    · have hclass : isIdentifierClass c = true := by
        rcases Text.foldCase_cases d with ⟨rfl, -⟩ | ⟨rfl, -⟩ | ⟨-, -, hd'⟩
        · cases hd
        · cases hd
        · have hlower : d.toLower.toNat = c.toLower.toNat := by rw [← hd', hfold, hc]
          rw [isIdentifierClass_iff] at hd ⊢
          have hcases := (Text.toLower_cases c).imp_left (congrArg Char.toNat)
          have hcases' := (Text.toLower_cases d).imp_left (congrArg Char.toNat)
          omega
      rw [isIdentifierChar, hclass]
      rfl
  · intro h
    simp only [isIdentifierChar, Bool.or_eq_true, decide_eq_true_eq] at h
    rcases h with (h | rfl) | rfl
    · exact ⟨c, rfl, h⟩
    · exact ⟨'s', rfl, rfl⟩
    · exact ⟨'k', rfl, rfl⟩

theorem isIdentifierChar_congr {c d : Char} (h : foldCase c = foldCase d) :
    isIdentifierChar c = isIdentifierChar d := by
  rw [← anyCase_isIdentifierClass, ← anyCase_isIdentifierClass, Text.anyCase_congr h]

/-! ## Runs -/

/-- Between these parts of a text the run is a maximal one of identifier characters. -/
structure IsRun (before run after : List Char) : Prop where
  nonempty : run ≠ []
  chars : ∀ c ∈ run, isIdentifierChar c = true
  before : ∀ c ∈ before.getLast?, isIdentifierChar c = false
  after : ∀ c ∈ after.head?, isIdentifierChar c = false

/-- The run is a forbidden keyword, up to case. -/
def IsForbidden (run : List Char) : Prop :=
  ∃ keyword ∈ forbiddenKeywords, Spells run keyword.toList

/-- The text has a maximal run right after `before`, and it is a forbidden keyword. -/
def HasForbidden (cs before run : List Char) : Prop :=
  ∃ after, before ++ run ++ after = cs ∧ IsRun before run after ∧ IsForbidden run

/-- The first maximal run that is a forbidden keyword. -/
def IsFirstForbidden (cs run : List Char) : Prop :=
  ∃ before, HasForbidden cs before run ∧
    ∀ before' run', HasForbidden cs before' run' → before.length ≤ before'.length

/-- A keyword is made of identifier characters, whatever their case. -/
theorem IsForbidden.chars {run : List Char} (h : IsForbidden run) :
    run ≠ [] ∧ ∀ c ∈ run, isIdentifierChar c = true := by
  have hkeywords : ∀ keyword ∈ forbiddenKeywords, keyword.toList ≠ [] ∧
      keyword.toList.all isIdentifierChar = true := by decide
  obtain ⟨keyword, hkeyword, hspells⟩ := h
  obtain ⟨hne, hchars⟩ := hkeywords keyword hkeyword
  constructor
  · rintro rfl
    exact hne (List.map_eq_nil_iff.1 hspells.symm)
  · intro c hc
    have hfolded : foldCase c ∈ keyword.toList.map foldCase := hspells ▸ List.mem_map_of_mem hc
    obtain ⟨d, hd, hfold⟩ := List.mem_map.1 hfolded
    exact (isIdentifierChar_congr hfold).symm.trans (List.all_eq_true.1 hchars d hd)

/-- A maximal run is all that stands before the next delimiter. -/
theorem IsRun.takeWhile_eq {before run after : List Char} (h : IsRun before run after) :
    (run ++ after).takeWhile isIdentifierChar = run := by
  rw [List.takeWhile_append_of_pos h.chars]
  cases after with
  | nil => simp
  | cons c after => simp [h.after c rfl]

/-- At one place there is one maximal run. -/
theorem HasForbidden.unique {cs before before' run run' : List Char}
    (h : HasForbidden cs before run) (h' : HasForbidden cs before' run')
    (hlength : before.length = before'.length) : run = run' := by
  obtain ⟨after, hsplit, hrun, -⟩ := h
  obtain ⟨after', hsplit', hrun', -⟩ := h'
  rw [List.append_assoc] at hsplit hsplit'
  have hrest : run ++ after = run' ++ after' :=
    (List.append_inj (hsplit.trans hsplit'.symm) hlength).2
  rw [← hrun.takeWhile_eq, hrest, hrun'.takeWhile_eq]

/-! ## Matches -/

/-- What a match for a keyword passes before the run: one delimiter, or nothing at the start. -/
def IsLead (before lead : List Char) : Prop :=
  (lead = [] ∧ before = []) ∨ ∃ c, lead = [c] ∧ isIdentifierChar c = false

section
variable {p q : Place} {before after run : List Char}

theorem mem_ends_delimiter : q ∈ delimiter.ends p ↔
    ∃ c cs, p.rest = c :: cs ∧ isIdentifierChar c = false ∧ q = p.past [c] := by
  simp only [delimiter, Regex.mem_ends_one, anyCase_isIdentifierClass, Bool.not_eq_true']

theorem mem_ends_lead : q ∈ (Regex.either .start delimiter).ends (.between before after) ↔
    ∃ lead rest, lead ++ rest = after ∧ IsLead before lead ∧
      q = (Place.between before after).past lead := by
  simp only [Regex.mem_ends_either, Regex.mem_ends_start, mem_ends_delimiter]
  constructor
  · rintro (⟨hstart, rfl⟩ | ⟨c, cs, hrest, hc, rfl⟩)
    · exact ⟨[], after, rfl, Or.inl ⟨rfl, List.getLast?_eq_none_iff.1 hstart⟩, rfl⟩
    · exact ⟨[c], cs, hrest.symm, Or.inr ⟨c, rfl, hc⟩, rfl⟩
  · rintro ⟨lead, rest, hsplit, ⟨rfl, rfl⟩ | ⟨c, rfl, hc⟩, rfl⟩
    · exact Or.inl ⟨rfl, rfl⟩
    · exact Or.inr ⟨c, rest, hsplit.symm, hc, rfl⟩

theorem mem_ends_keyword : q ∈ forbiddenKeyword.ends p ↔
    ∃ run rest, p.rest = run ++ rest ∧ IsForbidden run ∧
      q = { p.past run with captured? := some run } := by
  have hcapture {run rest : List Char} (h : p.rest = run ++ rest) :
      p.rest.take ((p.past run).position - p.position) = run := by
    simp [h, Place.past]
  simp only [forbiddenKeyword, Regex.mem_ends_group, Regex.mem_ends_alternatives, List.mem_map]
  constructor
  · rintro ⟨m, ⟨_, ⟨keyword, hkeyword, rfl⟩, hm⟩, rfl⟩
    obtain ⟨run, rest, hsplit, hspells, rfl⟩ := Regex.mem_ends_literal.1 hm
    exact ⟨run, rest, hsplit, ⟨keyword, hkeyword, hspells⟩, by rw [hcapture hsplit]⟩
  · rintro ⟨run, rest, hsplit, ⟨keyword, hkeyword, hspells⟩, rfl⟩
    refine ⟨p.past run, ⟨_, ⟨keyword, hkeyword, rfl⟩, ?_⟩, by rw [hcapture hsplit]⟩
    exact Regex.mem_ends_literal.2 ⟨run, rest, hsplit, hspells, rfl⟩

theorem exists_mem_ends_trail : (∃ q ∈ (Regex.either .finish delimiter).ends p,
      q.captured? = some run) ↔
    (∀ c ∈ p.rest.head?, isIdentifierChar c = false) ∧ p.captured? = some run := by
  simp only [Regex.mem_ends_either, Regex.mem_ends_finish, mem_ends_delimiter]
  constructor
  · rintro ⟨q, ⟨hnil, rfl⟩ | ⟨c, cs, hrest, hc, rfl⟩, hcaptured⟩
    · exact ⟨by simp [hnil], hcaptured⟩
    · refine ⟨?_, hcaptured⟩
      rw [hrest]
      rintro _ ⟨⟩
      exact hc
  · rintro ⟨hhead, hcaptured⟩
    cases hrest : p.rest with
    | nil => exact ⟨p, Or.inl ⟨rfl, rfl⟩, hcaptured⟩
    | cons c cs =>
      have hc : isIdentifierChar c = false := hhead c (by rw [hrest]; rfl)
      exact ⟨p.past [c], Or.inr ⟨c, cs, rfl, hc, rfl⟩, hcaptured⟩

theorem mem_ends_forbiddenWord : q ∈ forbiddenWord.ends p ↔
    ∃ m ∈ (Regex.either .start delimiter).ends p, ∃ m' ∈ forbiddenKeyword.ends m,
      q ∈ (Regex.either .finish delimiter).ends m' := by
  simp only [forbiddenWord, Regex.mem_ends_seq]

theorem IsLead.last {lead : List Char} (h : IsLead before lead) :
    ∀ c ∈ (before ++ lead).getLast?, isIdentifierChar c = false := by
  rcases h with ⟨rfl, rfl⟩ | ⟨c, rfl, hc⟩
  · nofun
  · rw [List.getLast?_append, List.getLast?_singleton, Option.some_or]
    rintro _ ⟨⟩
    exact hc

/-- A match captures a forbidden run, and starts at most one delimiter before it. -/
theorem exists_mem_ends_forbiddenWord :
    (∃ q ∈ forbiddenWord.ends (.between before after), q.captured? = some run) ↔
      ∃ lead, IsLead before lead ∧ HasForbidden (before ++ after) (before ++ lead) run := by
  simp only [mem_ends_forbiddenWord]
  constructor
  · rintro ⟨q, ⟨m, hm, m', hm', hq⟩, hcaptured⟩
    obtain ⟨lead, rest, rfl, hlead, rfl⟩ := mem_ends_lead.1 hm
    obtain ⟨run', rest', hrest, hforbidden, rfl⟩ := mem_ends_keyword.1 hm'
    obtain ⟨htrail, hrun⟩ := exists_mem_ends_trail.1 ⟨q, hq, hcaptured⟩
    obtain rfl : run' = run := Option.some.inj hrun
    obtain rfl : rest = run' ++ rest' := (Place.rest_past rfl).symm.trans hrest
    -- What ends the word is the trailing part of the pattern, and nothing else asks for it.
    have hafter : ∀ c ∈ rest'.head?, isIdentifierChar c = false :=
      (Place.rest_past hrest) ▸ htrail
    refine ⟨lead, hlead, rest', by simp only [List.append_assoc], ?_, hforbidden⟩
    exact ⟨hforbidden.chars.1, hforbidden.chars.2, hlead.last, hafter⟩
  · rintro ⟨lead, hlead, rest, hsplit, hrun, hforbidden⟩
    obtain rfl : after = lead ++ (run ++ rest) := by
      simpa only [List.append_assoc, List.append_cancel_left_eq, eq_comm] using hsplit
    have hlead' := mem_ends_lead.2 ⟨lead, run ++ rest, rfl, hlead, rfl⟩
    have hrest : ((Place.between before (lead ++ (run ++ rest))).past lead).rest = run ++ rest :=
      Place.rest_past rfl
    have hkeyword := mem_ends_keyword.2 ⟨run, rest, hrest, hforbidden, rfl⟩
    obtain ⟨q, hq, hcaptured⟩ := (exists_mem_ends_trail (p := { Place.past _ run with
      captured? := some run })).2 ⟨(Place.rest_past hrest).symm ▸ hrun.after, rfl⟩
    exact ⟨q, ⟨_, hlead', _, hkeyword, hq⟩, hcaptured⟩

theorem captured_of_mem_ends (h : q ∈ forbiddenWord.ends p) : ∃ run, q.captured? = some run := by
  obtain ⟨m, -, m', hm', hq⟩ := mem_ends_forbiddenWord.1 h
  obtain ⟨run, -, -, -, rfl⟩ := mem_ends_keyword.1 hm'
  simp only [Regex.mem_ends_either, Regex.mem_ends_finish, mem_ends_delimiter] at hq
  rcases hq with ⟨-, rfl⟩ | ⟨c, cs, -, -, rfl⟩ <;> exact ⟨run, rfl⟩

end

/-! ## The first match -/

section
variable {cs before run : List Char}

/-- Each forbidden run is found from the place where its lead starts. -/
theorem HasForbidden.exists_match (h : HasForbidden cs before run) :
    ∃ earlier lead later, before = earlier ++ lead ∧ IsLead earlier lead ∧ earlier ++ later = cs ∧
      ∃ q ∈ forbiddenWord.ends (.between earlier later), q.captured? = some run := by
  have hlead : ∃ earlier lead, before = earlier ++ lead ∧ IsLead earlier lead := by
    rcases List.eq_nil_or_concat before with rfl | ⟨earlier, c, rfl⟩
    · exact ⟨[], [], rfl, Or.inl ⟨rfl, rfl⟩⟩
    · obtain ⟨_, -, hrun, -⟩ := h
      rw [List.concat_eq_append] at hrun ⊢
      exact ⟨earlier, [c], rfl, Or.inr ⟨c, rfl, hrun.before c (by simp)⟩⟩
  obtain ⟨earlier, lead, rfl, hlead⟩ := hlead
  have hsplit : ∃ later, earlier ++ later = cs := by
    obtain ⟨after, hsplit, -⟩ := h
    exact ⟨lead ++ (run ++ after), by rw [← hsplit]; simp only [List.append_assoc]⟩
  obtain ⟨later, rfl⟩ := hsplit
  exact ⟨earlier, lead, later, rfl, hlead, rfl, exists_mem_ends_forbiddenWord.2 ⟨lead, hlead, h⟩⟩

theorem capture?_eq_none_iff :
    forbiddenWord.capture? cs = none ↔ ∀ before run, ¬ HasForbidden cs before run := by
  rw [Regex.capture?]
  cases hsearch : forbiddenWord.search cs with
  | none =>
    refine iff_of_true rfl fun before run h => ?_
    obtain ⟨earlier, -, later, -, -, hsplit, q, hq, -⟩ := h.exists_match
    rw [Regex.search_eq_none_iff.1 hsearch earlier later hsplit] at hq
    cases hq
  | some q =>
    obtain ⟨before, after, rfl, hhead, -⟩ := Regex.search_eq_some_iff.1 hsearch
    obtain ⟨run, hrun⟩ := captured_of_mem_ends (List.mem_of_head? hhead)
    obtain ⟨lead, -, h⟩ :=
      exists_mem_ends_forbiddenWord.1 ⟨q, List.mem_of_head? hhead, hrun⟩
    rw [Option.bind_some, hrun]
    exact iff_of_false nofun fun hnone => hnone _ _ h

theorem isFirstForbidden_of_capture? (h : forbiddenWord.capture? cs = some run) :
    IsFirstForbidden cs run := by
  obtain ⟨q, hsearch, hcaptured⟩ := Option.bind_eq_some_iff.1 h
  obtain ⟨before, after, rfl, hhead, hearlier⟩ := Regex.search_eq_some_iff.1 hsearch
  obtain ⟨lead, hlead, hrun⟩ :=
    exists_mem_ends_forbiddenWord.1 ⟨q, List.mem_of_head? hhead, hcaptured⟩
  refine ⟨before ++ lead, hrun, ?_⟩
  intro _ run' hrun'
  obtain ⟨earlier, lead', later, rfl, hlead', hsplit, q', hq', -⟩ := hrun'.exists_match
  have hle : before.length ≤ earlier.length := by
    refine Nat.not_lt.1 fun hlt => ?_
    rw [hearlier earlier later hsplit hlt] at hq'
    cases hq'
  -- A run without a lead starts the text, where no delimiter can stand before the first run.
  rcases hlead with ⟨rfl, rfl⟩ | ⟨c, rfl, hc⟩ <;> rcases hlead' with ⟨rfl, rfl⟩ | ⟨c', rfl, -⟩
  · exact Nat.le_refl _
  · exact Nat.zero_le _
  · obtain rfl : before = [] := List.eq_nil_of_length_eq_zero (Nat.le_zero.1 hle)
    obtain ⟨rest, rfl, -⟩ := hrun
    obtain ⟨rest', hsplit', hmaximal, -⟩ := hrun'
    cases run' with
    | nil => exact absurd rfl hmaximal.nonempty
    | cons d run' =>
      obtain rfl : d = c := (List.cons.inj hsplit').1
      exact absurd (hmaximal.chars d List.mem_cons_self) (by rw [hc]; nofun)
  · simpa using hle

theorem capture?_eq_some_iff : forbiddenWord.capture? cs = some run ↔ IsFirstForbidden cs run := by
  refine ⟨isFirstForbidden_of_capture?, ?_⟩
  rintro ⟨before, hrun, hfirst⟩
  cases hcapture : forbiddenWord.capture? cs with
  | none => exact absurd hrun (capture?_eq_none_iff.1 hcapture before run)
  | some run' =>
    obtain ⟨before', hrun', hfirst'⟩ := isFirstForbidden_of_capture? hcapture
    have hlength := Nat.le_antisymm (hfirst before' run' hrun') (hfirst' before run hrun)
    rw [hrun.unique hrun' hlength]

end

/-! ## The guard -/

/-- The text starts with SELECT, up to case, and no word character continues it. -/
def StartsWithSelect (st : List Char) : Prop :=
  ∃ word rest, word ++ rest = st ∧ Spells word "SELECT".toList ∧
    ∀ c ∈ rest.head?, Text.isWord c = false

/-- The T at the end is a word character in either case. -/
theorem isWord_last_of_spells {word : List Char} (h : Spells word "SELECT".toList) :
    word.getLast?.any Text.isWord = true := by
  have hlast : word.getLast?.map foldCase = some 't' := by
    rw [← List.getLast?_map, h]
    rfl
  obtain ⟨c, hc, hfold⟩ := Option.map_eq_some_iff.1 hlast
  have hvariant : c ∈ Text.caseVariants 't' := Text.mem_caseVariants.2 hfold
  have hword : (Text.caseVariants 't').all Text.isWord = true := by decide
  rw [hc]
  exact List.all_eq_true.1 hword c hvariant

theorem isMatch_selectPrefix_iff {st : List Char} :
    selectPrefix.isMatch st = true ↔ StartsWithSelect st := by
  have hedge {word rest : List Char} (hword : Spells word "SELECT".toList) :
      ((Place.between [] (word ++ rest)).past word).isWordEdge = true ↔
        ∀ c ∈ rest.head?, Text.isWord c = false := by
    have hlast : ((Place.between [] (word ++ rest)).past word).last? = word.getLast? :=
      Option.or_none
    rw [Place.isWordEdge, hlast, isWord_last_of_spells hword, Place.rest_past rfl]
    cases rest <;> simp
  simp only [Regex.isMatch_iff, selectPrefix, Regex.mem_ends_seq, Regex.mem_ends_start,
    Regex.mem_ends_literal, Regex.mem_ends_wordEdge]
  constructor
  · rintro ⟨before, after, rfl, q, _, ⟨hstart, rfl⟩, _, ⟨word, rest, hrest, hword, rfl⟩, hq, rfl⟩
    obtain rfl : before = [] := List.getLast?_eq_none_iff.1 hstart
    obtain rfl : after = word ++ rest := hrest
    exact ⟨word, rest, rfl, hword, (hedge hword).1 hq⟩
  · rintro ⟨word, rest, rfl, hword, hrest⟩
    exact ⟨[], _, rfl, _, _, ⟨rfl, rfl⟩, _, ⟨word, rest, rfl, hword, rfl⟩, (hedge hword).2 hrest,
      rfl⟩

namespace StatementGuard

/-- How the guard judges a trimmed text: the first check that fails decides, and a text that passes
them all is accepted without its trailer. -/
inductive Judges (g : StatementGuard) (st : List Char) : Except StatementFault (List Char) → Prop
  | notSelect (select : ¬ StartsWithSelect st) : Judges g st (.error .notSelect)
  | forbidden {run : List Char} (select : StartsWithSelect st) (first : IsFirstForbidden st run) :
      Judges g st (.error (.forbiddenKeyword (Text.upper (String.ofList run))))
  | tooLong (select : StartsWithSelect st) (clean : ∀ before run, ¬ HasForbidden st before run)
      (long : g.maxLength < st.length) : Judges g st (.error (.tooLong st.length g.maxLength))
  | several {statement : List Char} (select : StartsWithSelect st)
      (clean : ∀ before run, ¬ HasForbidden st before run) (short : st.length ≤ g.maxLength)
      (stripped : Text.IsStripped isTrailer st statement) (several : ';' ∈ statement) :
      Judges g st (.error .severalStatements)
  | accepted {statement : List Char} (select : StartsWithSelect st)
      (clean : ∀ before run, ¬ HasForbidden st before run) (short : st.length ≤ g.maxLength)
      (stripped : Text.IsStripped isTrailer st statement) (single : ';' ∉ statement) :
      Judges g st (.ok statement)

variable {g : StatementGuard} {st : List Char} {verdict : Except StatementFault (List Char)}

theorem judges_checkTrimmed (g : StatementGuard) (st : List Char) :
    g.Judges st (g.checkTrimmed st) := by
  have hstripped : Text.IsStripped isTrailer st (Text.dropEndWhile isTrailer st) :=
    Text.dropEndWhile_eq_iff.1 rfl
  rw [checkTrimmed]
  by_cases hmatch : selectPrefix.isMatch st = true
  · have hselect : StartsWithSelect st := isMatch_selectPrefix_iff.1 hmatch
    rw [hmatch]
    dsimp only
    cases hcapture : forbiddenWord.capture? st with
    | some run => exact .forbidden hselect (capture?_eq_some_iff.1 hcapture)
    | none =>
      have hclean := capture?_eq_none_iff.1 hcapture
      by_cases hlong : g.maxLength < st.length
      · simpa [hlong] using .tooLong hselect hclean hlong
      · have hshort : st.length ≤ g.maxLength := Nat.not_lt.1 hlong
        by_cases hseveral : ';' ∈ Text.dropEndWhile isTrailer st
        · simpa [hlong, hseveral] using .several hselect hclean hshort hstripped hseveral
        · simpa [hlong, hseveral] using .accepted hselect hclean hshort hstripped hseveral
  · have hselect : ¬ StartsWithSelect st := fun h => hmatch (isMatch_selectPrefix_iff.2 h)
    simpa [hmatch] using .notSelect hselect

theorem Judges.checkTrimmed_eq (h : g.Judges st verdict) : g.checkTrimmed st = verdict := by
  rw [checkTrimmed]
  cases h with
  | notSelect select =>
    have hmatch : selectPrefix.isMatch st = false :=
      Bool.eq_false_iff.2 fun h => select (isMatch_selectPrefix_iff.1 h)
    rw [hmatch]
    rfl
  | forbidden select first =>
    rw [isMatch_selectPrefix_iff.2 select, capture?_eq_some_iff.2 first]
    rfl
  | tooLong select clean long =>
    rw [isMatch_selectPrefix_iff.2 select, capture?_eq_none_iff.2 clean]
    simp [long]
  | several select clean short stripped several =>
    rw [isMatch_selectPrefix_iff.2 select, capture?_eq_none_iff.2 clean]
    rw [← Text.dropEndWhile_eq_iff] at stripped
    simp [short, stripped, several]
  | accepted select clean short stripped single =>
    rw [isMatch_selectPrefix_iff.2 select, capture?_eq_none_iff.2 clean]
    rw [← Text.dropEndWhile_eq_iff] at stripped
    simp [short, stripped, single]

theorem checkTrimmed_eq_iff : g.checkTrimmed st = verdict ↔ g.Judges st verdict :=
  ⟨fun h => h ▸ g.judges_checkTrimmed st, Judges.checkTrimmed_eq⟩

/-- A keyword is the fault iff it is a whole run of a text that starts with SELECT. -/
theorem exists_forbiddenKeyword_iff :
    (∃ word, g.checkTrimmed st = .error (.forbiddenKeyword word)) ↔
      StartsWithSelect st ∧ ∃ before run, HasForbidden st before run := by
  simp only [checkTrimmed_eq_iff]
  constructor
  · rintro ⟨_, ⟨⟩ | ⟨select, before, h, -⟩⟩
    exact ⟨select, before, _, h⟩
  · rintro ⟨select, before, run, h⟩
    cases hcapture : forbiddenWord.capture? st with
    | none => exact absurd h (capture?_eq_none_iff.1 hcapture before run)
    | some first => exact ⟨_, .forbidden select (capture?_eq_some_iff.1 hcapture)⟩

/-- **The language of the guard.** Its answers are those of the rules, for the text without white
space at its ends; and a keyword is the fault exactly where it is a whole run. -/
theorem validate_eq_iff (g : StatementGuard) (sql : String) :
    (∀ answer : Except QueryError String, g.validate sql = answer ↔
      ∃ st verdict, Text.IsTrimmed Text.isBlank sql.toList st ∧ g.Judges st verdict ∧
        answer = (verdict.map String.ofList).mapError fun fault =>
          .forbiddenStatement fault.message) ∧
    ((∃ word, g.check sql = .error (.forbiddenKeyword word)) ↔
      ∃ st, Text.IsTrimmed Text.isBlank sql.toList st ∧ StartsWithSelect st ∧
        ∃ before run, HasForbidden st before run) := by
  have htrimmed {st : List Char} :
      Text.IsTrimmed Text.isBlank sql.toList st ↔ Text.trimChars sql.toList = st :=
    Text.trimWhile_eq_iff.symm
  constructor
  · intro answer
    simp only [htrimmed, ← checkTrimmed_eq_iff]
    constructor
    · rintro rfl
      exact ⟨_, _, rfl, rfl, rfl⟩
    · rintro ⟨_, _, rfl, rfl, rfl⟩
      rfl
  · have hcheck (word : String) : g.check sql = .error (.forbiddenKeyword word) ↔
        g.checkTrimmed (Text.trimChars sql.toList) = .error (.forbiddenKeyword word) := by
      rw [check]
      cases g.checkTrimmed (Text.trimChars sql.toList) <;> simp [Except.map]
    simp only [hcheck, exists_forbiddenKeyword_iff, htrimmed, exists_eq_left']

example : standard.validate " SELECT updated_at FROM clients; " =
    .ok "SELECT updated_at FROM clients" := by
  rfl

example : standard.check "SELECT 1 in\u017fert" = .error (.forbiddenKeyword "IN\u017fERT") := by
  rfl

end StatementGuard
end BillingQuery
