import BillingQuery.Proofs.Text
import BillingQuery.Query.Compile
import Mathlib.Data.List.TakeWhile
import Mathlib.Tactic.SplitIfs

/-!
# Patterns made from needles

A needle becomes a pattern by escaping its special characters and putting `%` on the sides that are
left open (`PatternKind.likePattern`). Such a pattern is literal.

**Main result (`likeMatches_patternChars`).** The pattern of a needle matches a text iff the folded
text contains, starts with or ends with the folded needle.

**Engines that read characters otherwise.** A store may read some characters as others before it
matches. As long as it reads ASCII as it is (`ReadsAscii`), the pattern of a folded needle matches
what the needle, so read, stands in (`likeMatches_seenChars`). That is the result above where the
needle is found only where it stands (`FindsOnly`), as it is if its characters are told from those
of the text (`TellsApart`).
-/

namespace BillingQuery

namespace Sql

/-! ## Escaped characters -/

/-- One character of a needle in a pattern. -/
def likeEscape (c : Char) : List Char := if c = '\\' ∨ c = '%' ∨ c = '_' then ['\\', c] else [c]

theorem toList_escapeLike (needle : String) :
    (escapeLike needle).toList = needle.toList.flatMap likeEscape := by
  simp only [escapeLike, String.toList_ofList, Bool.or_eq_true, decide_eq_true_eq, or_assoc]
  rfl

namespace LikeItem

/-- The item of a character that does not follow an escape. -/
def ofChar (c : Char) : LikeItem := if c = '%' then any else if c = '_' then one else exactly c

theorem ofChars_cons {escape : Option Char} {c : Char} (h : escape ≠ some c) (cs : List Char) :
    ofChars escape (c :: cs) = (ofChars escape cs).map (ofChar c :: ·) := by
  cases cs with
  | nil => simp [ofChars, h, ofChar]
  | cons d cs => rw [ofChars, if_neg h]; rfl

theorem ofChars_escape_cons (escape c : Char) (cs : List Char) :
    ofChars (some escape) (escape :: c :: cs) =
      (ofChars (some escape) cs).map (exactly c :: ·) := by
  rw [ofChars, if_pos rfl]

theorem ofChars_likeEscape (c : Char) (cs : List Char) :
    ofChars (some '\\') (likeEscape c ++ cs) =
      (ofChars (some '\\') cs).map (exactly c :: ·) := by
  unfold likeEscape
  split_ifs with h
  · exact ofChars_escape_cons '\\' c cs
  · simp only [not_or] at h
    obtain ⟨hslash, hpercent, hunder⟩ := h
    have hplain : (some '\\' : Option Char) ≠ some c := fun h => hslash (Option.some.inj h).symm
    rw [List.singleton_append, ofChars_cons hplain, ofChar, if_neg hpercent, if_neg hunder]

/-- An escaped needle stands for its own characters. -/
theorem ofChars_escaped (needle cs : List Char) :
    ofChars (some '\\') (needle.flatMap likeEscape ++ cs) =
      (ofChars (some '\\') cs).map (needle.map exactly ++ ·) := by
  induction needle with
  | nil => simp
  | cons c needle ih =>
    rw [List.flatMap_cons, List.append_assoc, ofChars_likeEscape, ih, Option.map_map]
    rfl

/-! ## What literal items accept -/

theorem accepts_any {items : List LikeItem} {cs : List Char} :
    accepts (any :: items) cs = true ↔ ∃ t, t <:+ cs ∧ accepts items t = true := by
  simp [accepts, Text.mem_suffixes]

theorem accepts_only_any (cs : List Char) : accepts [any] cs = true :=
  accepts_any.2 ⟨[], cs.nil_suffix, rfl⟩

/-- Literal items take as many characters as they are, equal up to case. -/
theorem accepts_exactly {needle : List Char} {items : List LikeItem} {cs : List Char} :
    accepts (needle.map exactly ++ items) cs = true ↔
      ∃ taken rest, cs = taken ++ rest ∧ taken.map Char.toLower = needle.map Char.toLower ∧
        accepts items rest = true := by
  induction needle generalizing cs with
  | nil =>
    constructor
    · intro h
      exact ⟨[], cs, rfl, rfl, h⟩
    · rintro ⟨taken, rest, rfl, ht, h⟩
      rw [List.map_nil, List.map_eq_nil_iff] at ht
      rwa [ht]
  | cons d needle ih =>
    cases cs with
    | nil => simp [accepts]
    | cons c cs =>
      rw [List.map_cons, List.cons_append, accepts, Bool.and_eq_true, beq_iff_eq, ih]
      constructor
      · rintro ⟨hc, taken, rest, rfl, ht, h⟩
        exact ⟨c :: taken, rest, rfl, by simp [hc, ht], h⟩
      · rintro ⟨taken, rest, hcs, ht, h⟩
        cases taken with
        | nil => simp at ht
        | cons e taken =>
          rw [List.cons_append, List.cons.injEq] at hcs
          rw [List.map_cons, List.map_cons, List.cons.injEq] at ht
          exact ⟨hcs.1 ▸ ht.1, taken, rest, hcs.2, ht.2, h⟩

end LikeItem

end Sql

/-! ## Places -/

namespace PatternKind

/-- Where the needle must stand, as a relation of lists. -/
def Places (kind : PatternKind) (needle cs : List Char) : Prop :=
  match kind with
  | .contains => needle <:+: cs
  | .startsWith => needle <+: cs
  | .endsWith => needle <:+ cs

theorem holds_iff {kind : PatternKind} {needle text : String} :
    kind.holds needle text = true ↔ kind.Places needle.toList text.toList := by
  cases kind with
  | contains => exact Text.isInfix_iff
  | startsWith => exact List.isPrefixOf_iff_prefix
  | endsWith => exact List.isSuffixOf_iff_suffix

/-- A list stands somewhere in an image iff it is the image of a list that stands there. -/
theorem places_map {kind : PatternKind} {f : Char → Char} {needle cs : List Char} :
    kind.Places needle (cs.map f) ↔ ∃ window, kind.Places window cs ∧ needle = window.map f := by
  cases kind with
  | contains => exact List.infix_map_iff
  | startsWith => exact List.prefix_map_iff
  | endsWith => exact List.suffix_map_iff

theorem Places.subset {kind : PatternKind} {needle cs : List Char} (h : kind.Places needle cs) :
    needle ⊆ cs := by
  cases kind with
  | contains => exact List.IsInfix.subset h
  | startsWith => exact List.IsPrefix.subset h
  | endsWith => exact List.IsSuffix.subset h

end PatternKind

namespace Sql

/-! ## The pattern of a needle -/

/-- The characters of the pattern for a needle. -/
def patternChars (kind : PatternKind) (needle : List Char) : List Char :=
  match kind with
  | .contains => '%' :: (needle.flatMap likeEscape ++ ['%'])
  | .startsWith => needle.flatMap likeEscape ++ ['%']
  | .endsWith => '%' :: (needle.flatMap likeEscape ++ [])

theorem toList_likePattern (kind : PatternKind) (needle : String) :
    (kind.likePattern needle).toList = patternChars kind needle.toList := by
  cases kind <;> simp [PatternKind.likePattern, patternChars, toList_escapeLike]

/-- The items of the pattern for a needle. -/
def patternItems (kind : PatternKind) (needle : List Char) : List LikeItem :=
  match kind with
  | .contains => .any :: (needle.map .exactly ++ [.any])
  | .startsWith => needle.map .exactly ++ [.any]
  | .endsWith => .any :: (needle.map .exactly ++ [])

theorem ofChars_patternChars (kind : PatternKind) (needle : List Char) :
    LikeItem.ofChars (some '\\') (patternChars kind needle) = some (patternItems kind needle) := by
  have hpercent (cs : List Char) : LikeItem.ofChars (some '\\') ('%' :: cs) =
      (LikeItem.ofChars (some '\\') cs).map (.any :: ·) := LikeItem.ofChars_cons (by decide) cs
  have hlast : LikeItem.ofChars (some '\\') ['%'] = some [.any] := rfl
  cases kind with
  | contains => rw [patternChars, hpercent, LikeItem.ofChars_escaped, hlast]; rfl
  | startsWith => rw [patternChars, LikeItem.ofChars_escaped, hlast]; rfl
  | endsWith => rw [patternChars, hpercent, LikeItem.ofChars_escaped]; rfl

theorem accepts_patternItems {kind : PatternKind} {needle cs : List Char} :
    LikeItem.accepts (patternItems kind needle) cs = true ↔
      ∃ window, kind.Places window cs ∧ window.map Char.toLower = needle.map Char.toLower := by
  -- A `%` at an end of the pattern leaves that end of the window open.
  cases kind with
  | contains =>
    rw [patternItems, LikeItem.accepts_any]
    constructor
    · rintro ⟨t, ht, h⟩
      obtain ⟨taken, rest, rfl, heq, -⟩ := LikeItem.accepts_exactly.1 h
      exact ⟨taken, (taken.prefix_append rest).isInfix.trans ht.isInfix, heq⟩
    · rintro ⟨window, ⟨before, after, rfl⟩, heq⟩
      refine ⟨window ++ after, ⟨before, by simp⟩, LikeItem.accepts_exactly.2 ?_⟩
      exact ⟨window, after, rfl, heq, LikeItem.accepts_only_any after⟩
  | startsWith =>
    rw [patternItems, LikeItem.accepts_exactly]
    constructor
    · rintro ⟨taken, rest, rfl, heq, -⟩
      exact ⟨taken, taken.prefix_append rest, heq⟩
    · rintro ⟨window, ⟨after, rfl⟩, heq⟩
      exact ⟨window, after, rfl, heq, LikeItem.accepts_only_any after⟩
  | endsWith =>
    rw [patternItems, LikeItem.accepts_any]
    constructor
    · rintro ⟨t, ht, h⟩
      obtain ⟨taken, rest, rfl, heq, hrest⟩ := LikeItem.accepts_exactly.1 h
      obtain rfl : rest = [] := List.isEmpty_iff.1 hrest
      rw [List.append_nil] at ht
      exact ⟨taken, ht, heq⟩
    · rintro ⟨window, h, heq⟩
      exact ⟨window, h, LikeItem.accepts_exactly.2 ⟨window, [], by simp, heq, rfl⟩⟩

/-- **Patterns are literal.** Over characters, the pattern of a needle matches a text iff the needle
stands in the text at the place of its kind, up to ASCII case. -/
theorem likeMatches_patternChars {kind : PatternKind} {needle cs : List Char} :
    likeMatches (some '\\') (patternChars kind needle) cs = true ↔
      kind.Places (needle.map Char.toLower) (cs.map Char.toLower) := by
  rw [likeMatches, ofChars_patternChars]
  show LikeItem.matchesText (patternItems kind needle) cs = true ↔ _
  rw [LikeItem.matchesText_eq]
  show LikeItem.accepts (patternItems kind needle) cs = true ↔ _
  rw [accepts_patternItems, PatternKind.places_map]
  simp only [eq_comm]

/-! ## Engines that read characters otherwise -/

/-- ASCII characters, and no others, are read as ASCII characters, and those as they are. -/
def ReadsAscii (seen : Char → Char) : Prop :=
  ∀ c, c.toNat < 128 ∨ (seen c).toNat < 128 → seen c = c

/-- No character of the needle is read as another one of the text is. -/
def TellsApart (seen : Char → Char) (needle text : String) : Prop :=
  ∀ c ∈ needle.toList, ∀ d ∈ text.toList, seen c = seen d → c = d

theorem readsAscii_id : ReadsAscii id := fun _ _ => rfl

theorem tellsApart_id (needle text : String) : TellsApart id needle text :=
  fun _ _ _ _ h => h

/-- The store reads only two characters otherwise, and as a third that is not ASCII. -/
theorem readsAscii_seenChar : ReadsAscii seenChar := by
  intro c h
  by_cases hc : c = '\ufffe' ∨ c = '\uffff'
  · rcases hc with rfl | rfl <;> exact absurd h (by decide)
  · simp [seenChar, not_or.1 hc]

/-- The characters that the store reads as one. -/
def isMerged (c : Char) : Bool := c == '\ufffd' || c == '\ufffe' || c == '\uffff'

theorem isMerged_iff {c : Char} :
    isMerged c = true ↔ c = '\ufffd' ∨ c = '\ufffe' ∨ c = '\uffff' := by
  simp [isMerged, or_assoc]

theorem isMerged_toLower {c : Char} (h : isMerged c.toLower = true) : isMerged c = true := by
  rcases Text.toLower_cases c with heq | ⟨-, hle, heq⟩
  · rwa [heq] at h
  · rcases isMerged_iff.1 h with h | h | h <;>
      · rw [h] at heq
        exact absurd heq (by simp; omega)

theorem seenChar_eq_self {c : Char} (h : isMerged c = false) : seenChar c = c := by
  simp only [isMerged, Bool.or_eq_false_iff, beq_eq_false_iff_ne] at h
  rw [seenChar, if_neg (by simp [h.1.2, h.2])]

theorem isMerged_seenChar (c : Char) : isMerged (seenChar c) = isMerged c := by
  unfold seenChar
  split_ifs with h
  · simp only [Bool.or_eq_true, decide_eq_true_eq] at h
    rcases h with rfl | rfl <;> rfl
  · rfl

/-- The store tells apart what is not merged. -/
theorem tellsApart_seenChar {needle : String} (h : ∀ c ∈ needle.toList, isMerged c = false)
    (text : String) : TellsApart seenChar needle text := by
  intro c hc d _ heq
  have hd : isMerged d = false := by rw [← isMerged_seenChar, ← heq, isMerged_seenChar, h c hc]
  rwa [seenChar_eq_self (h c hc), seenChar_eq_self hd] at heq

namespace ReadsAscii

variable {seen : Char → Char} (h : ReadsAscii seen)
include h

theorem eq_ascii {c d : Char} (hd : d.toNat < 128) : seen c = d ↔ c = d := by
  constructor
  · intro he
    rw [← he] at hd ⊢
    exact (h c (Or.inr hd)).symm
  · rintro rfl
    exact h c (Or.inl hd)

/-- A character that is its own lower case is read as one that is. -/
theorem toLower_seen {c : Char} (hc : c.toLower = c) : (seen c).toLower = seen c := by
  by_cases hs : (seen c).toNat < 128
  · rw [h c (Or.inr hs), hc]
  · exact Text.toLower_of_not_upper (by omega)

theorem map_likeEscape (c : Char) : (likeEscape c).map seen = likeEscape (seen c) := by
  have hslash : seen c = '\\' ↔ c = '\\' := h.eq_ascii (by decide)
  have hpercent : seen c = '%' ↔ c = '%' := h.eq_ascii (by decide)
  have hunder : seen c = '_' ↔ c = '_' := h.eq_ascii (by decide)
  have hself : seen '\\' = '\\' := h '\\' (Or.inl (by decide))
  unfold likeEscape
  simp only [hslash, hpercent, hunder]
  split_ifs <;> simp [hself]

theorem map_patternChars (kind : PatternKind) (needle : List Char) :
    (patternChars kind needle).map seen = patternChars kind (needle.map seen) := by
  have hself : seen '%' = '%' := h '%' (Or.inl (by decide))
  have hneedle : (needle.flatMap likeEscape).map seen = (needle.map seen).flatMap likeEscape := by
    rw [List.map_flatMap, List.flatMap_map]
    simp only [h.map_likeEscape]
  cases kind <;> simp [patternChars, hself, hneedle]

end ReadsAscii

theorem beforeNul_of_isNulFree {s : String} (h : Text.IsNulFree s) :
    beforeNul s.toList = s.toList := by
  rw [beforeNul, List.takeWhile_eq_self_iff]
  intro c hc
  simp only [ne_eq, decide_not, Bool.not_eq_true', decide_eq_false_iff_not]
  rintro rfl
  exact h hc

theorem isNulFree_likePattern (kind : PatternKind) {needle : String} (h : Text.IsNulFree needle) :
    Text.IsNulFree (kind.likePattern needle) := by
  have hneedle : '\x00' ∉ needle.toList.flatMap likeEscape := by
    rw [List.mem_flatMap]
    rintro ⟨c, hc, hnul⟩
    unfold likeEscape at hnul
    split_ifs at hnul <;> simp only [List.mem_cons, List.not_mem_nil, or_false] at hnul
    · rcases hnul with hnul | rfl
      · exact absurd hnul (by decide)
      · exact h hc
    · exact h (hnul ▸ hc)
  unfold Text.IsNulFree
  rw [toList_likePattern]
  cases kind <;> simp [patternChars, hneedle]

theorem seenChars_of_isNulFree {seen : Char → Char} {s : String} (h : Text.IsNulFree s) :
    seenChars seen s = s.toList.map seen := by
  rw [seenChars, beforeNul_of_isNulFree h]

/-- Reading a folded text keeps it folded. -/
theorem map_toLower_seenChars {seen : Char → Char} (h : ReadsAscii seen) {s : String}
    (hs : Text.fold s = s) : (seenChars seen s).map Char.toLower = seenChars seen s := by
  rw [seenChars, List.map_map]
  refine List.map_congr_left fun c hc => h.toLower_seen ?_
  have hmem : c ∈ s.toList := (List.takeWhile_sublist _).subset hc
  rw [← hs] at hmem
  exact Text.toLower_of_mem_fold hmem

/-- The engine finds the needle in the text only where it stands. -/
def FindsOnly (seen : Char → Char) (kind : PatternKind) (needle text : String) : Prop :=
  kind.Places (needle.toList.map seen) (text.toList.map seen) →
    kind.Places needle.toList text.toList

/-- It does so where it tells the characters apart. -/
theorem TellsApart.findsOnly {seen : Char → Char} {needle text : String}
    (h : TellsApart seen needle text) (kind : PatternKind) : FindsOnly seen kind needle text := by
  intro hplaces
  obtain ⟨window, hw, heq⟩ := PatternKind.places_map.1 hplaces
  have hwindow : needle.toList = window := by
    refine List.ext_getElem (by simpa using congrArg List.length heq) fun i hi hi' => ?_
    have hget := congrArg (fun cs : List Char => cs[i]?) heq
    simp only [List.getElem?_map, List.getElem?_eq_getElem hi, List.getElem?_eq_getElem hi',
      Option.map_some, Option.some.injEq] at hget
    exact h _ (List.getElem_mem hi) _ (hw.subset (List.getElem_mem hi')) hget
  exact hwindow ▸ hw

/-- **Matching as the engine reads.** A folded text matches the pattern of a folded needle iff the
needle, as the engine reads it, stands in what the engine sees of the text. -/
theorem likeMatches_seenChars {seen : Char → Char} (hseen : ReadsAscii seen) {kind : PatternKind}
    {needle text : String} (hneedle : Text.IsNulFree needle) (hfneedle : Text.fold needle = needle)
    (hftext : Text.fold text = text) :
    likeMatches (some '\\') (seenChars seen (kind.likePattern needle)) (seenChars seen text) =
        true ↔ kind.Places (needle.toList.map seen) (seenChars seen text) := by
  have hlower := map_toLower_seenChars hseen hfneedle
  rw [seenChars_of_isNulFree hneedle] at hlower
  rw [seenChars_of_isNulFree (isNulFree_likePattern kind hneedle), toList_likePattern,
    hseen.map_patternChars, likeMatches_patternChars, hlower, map_toLower_seenChars hseen hftext]

/-- A needle that stands in a text is found there, however the engine reads characters. -/
theorem places_map_iff {seen : Char → Char} {kind : PatternKind} {needle text : String}
    (h : FindsOnly seen kind needle text) :
    kind.Places (needle.toList.map seen) (text.toList.map seen) ↔
      kind.holds needle text = true := by
  rw [PatternKind.holds_iff]
  exact ⟨h, fun hw => PatternKind.places_map.2 ⟨needle.toList, hw, rfl⟩⟩

end Sql
end BillingQuery
