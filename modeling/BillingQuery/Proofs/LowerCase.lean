import BillingQuery.Filter.Coerce
import BillingQuery.Proofs.Days
import BillingQuery.Proofs.Text

/-!
# Texts in lower case

What is read from a text does not change when the text is put in lower case: the pieces between its
commas up to their own case, the number that it writes, the flag that it names and the day that it
starts with.

**The idea (`Text.apply_toLower`).** A class of characters that tells no capital letter from its
small one is not affected. White space, digits, signs, points, commas and exponent marks are such
classes, so that trimming, splitting and reading digits commute with lower case.
-/

namespace BillingQuery

/-! ## Characters -/

namespace Text

/-- What treats capital letters as small ones takes no note of lower case. -/
theorem apply_toLower {f : Char → β}
    (h : ∀ c : Char, 65 ≤ c.toNat → c.toNat ≤ 90 → f c.toLower = f c) (c : Char) :
    f c.toLower = f c := by
  rcases toLower_cases c with hc | ⟨hlow, hhigh, -⟩
  · rw [hc]
  · exact h c hlow hhigh

/-- A character that is no letter is nothing's lower case but its own. -/
theorem toLower_eq_iff {c d : Char} (hsmall : ¬ (97 ≤ d.toNat ∧ d.toNat ≤ 122))
    (hlarge : ¬ (65 ≤ d.toNat ∧ d.toNat ≤ 90)) : c.toLower = d ↔ c = d := by
  rcases toLower_cases c with hc | ⟨hlow, hhigh, hc⟩
  · rw [hc]
  · refine iff_of_false ?_ ?_
    · rintro rfl
      omega
    · rintro rfl
      exact hlarge ⟨hlow, hhigh⟩

theorem isBlank_toLower (c : Char) : isBlank c.toLower = isBlank c := by
  refine apply_toLower (fun c hlow hhigh => ?_) c
  have hc := toNat_toLower_of_upper ⟨hlow, hhigh⟩
  have hblank (d : Char) (hd : 65 ≤ d.toNat ∧ d.toNat ≤ 122) : isBlank d = false := by
    simp only [isBlank, inRanges, blankRanges, List.any_cons, List.any_nil, Bool.or_false,
      Bool.or_eq_false_iff, Bool.and_eq_false_iff, decide_eq_false_iff_not]
    omega
  rw [hblank c (by omega), hblank c.toLower (by omega)]

theorem isDigit_toLower (c : Char) : c.toLower.isDigit = c.isDigit := by
  refine apply_toLower (fun c hlow hhigh => ?_) c
  have hc := toNat_toLower_of_upper ⟨hlow, hhigh⟩
  rw [Bool.eq_iff_iff, isDigit_iff, isDigit_iff]
  omega

theorem toLower_of_isDigit {c : Char} (h : c.isDigit = true) : c.toLower = c := by
  rw [isDigit_iff] at h
  exact toLower_of_not_upper (by omega)

theorem map_toLower_of_isDigit {cs : List Char} (h : ∀ c ∈ cs, c.isDigit = true) :
    cs.map Char.toLower = cs :=
  (List.map_congr_left fun c hc => toLower_of_isDigit (h c hc)).trans (List.map_id cs)

/-- A text without letters is nothing's lower case but its own. -/
theorem map_toLower_eq_iff {cs ds : List Char} (h : ∀ d ∈ ds, ∀ c : Char, c.toLower = d ↔ c = d) :
    cs.map Char.toLower = ds ↔ cs = ds := by
  induction ds generalizing cs with
  | nil => exact List.map_eq_nil_iff
  | cons d ds ih =>
    rw [List.forall_mem_cons] at h
    cases cs with
    | nil => simp
    | cons c cs => rw [List.map_cons, List.cons_eq_cons, List.cons_eq_cons, h.1, ih h.2]

/-! ## Trimming and splitting -/

theorem trimChars_map_toLower (cs : List Char) :
    trimChars (cs.map Char.toLower) = (trimChars cs).map Char.toLower := by
  have hblank : isBlank ∘ Char.toLower = isBlank := funext isBlank_toLower
  simp only [trimChars, trimWhile, dropEndWhile, List.dropWhile_map, ← List.map_reverse, hblank]

theorem trim_fold (s : String) : trim (fold s) = fold (trim s) := by
  rw [trim, toList_fold, trimChars_map_toLower, fold, trim, String.toList_ofList]

theorem splitWhere_map (p : Char → Bool) (f : Char → Char) (cs : List Char) :
    splitWhere p (cs.map f) = (splitWhere (p ∘ f) cs).map (List.map f) := by
  induction cs with
  | nil => rfl
  | cons c cs ih =>
    rw [List.map_cons, splitWhere, splitWhere, ih]
    by_cases hc : p (f c) = true
    · simp [hc]
    · cases splitWhere (p ∘ f) cs <;> simp [hc]

end Text

/-! ## Numerals -/

namespace Numeral

open Text (toLower_cases toLower_eq_iff isDigit_toLower map_toLower_of_isDigit)

theorem splitSign_map_toLower (cs : List Char) :
    splitSign (cs.map Char.toLower) =
      ((splitSign cs).1, (splitSign cs).2.map Char.toLower) := by
  cases cs with
  | nil => rfl
  | cons c cs =>
    have hminus : c.toLower = '-' ↔ c = '-' := toLower_eq_iff (by decide) (by decide)
    have hplus : c.toLower = '+' ↔ c = '+' := toLower_eq_iff (by decide) (by decide)
    unfold splitSign
    split <;> split <;> simp_all

theorem digits?_map_toLower (cs : List Char) : digits? (cs.map Char.toLower) = digits? cs := by
  have hdigits : (cs.map Char.toLower).all Char.isDigit = cs.all Char.isDigit := by
    simp only [List.all_map, Function.comp_def, isDigit_toLower]
  unfold digits?
  rw [List.isEmpty_map, hdigits]
  split_ifs with h
  · rfl
  · rw [map_toLower_of_isDigit]
    simp_all

theorem integer?_map_toLower (cs : List Char) : integer? (cs.map Char.toLower) = integer? cs := by
  unfold integer?
  rw [splitSign_map_toLower]
  dsimp only
  rw [digits?_map_toLower]

theorem exponent?_map_toLower (cs : List Char) :
    exponent? (cs.map Char.toLower) = exponent? cs := by
  cases cs with
  | nil => rfl
  | cons c cs =>
    have hmark : (c.toLower = 'e' ∨ c.toLower = 'E') ↔ (c = 'e' ∨ c = 'E') := by
      rcases toLower_cases c with hc | ⟨hlow, hhigh, hc⟩
      · rw [hc]
      · have hsmall : 'e'.toNat = 101 := rfl
        have hlarge : 'E'.toNat = 69 := rfl
        simp only [← Char.toNat_inj, hc, hsmall, hlarge]
        omega
    rw [List.map_cons, exponent?, exponent?, integer?_map_toLower]
    simp only [Bool.or_eq_true, decide_eq_true_eq, hmark]

theorem splitPoint_map_toLower (cs : List Char) :
    splitPoint (cs.map Char.toLower) =
      ((splitPoint cs).1, (splitPoint cs).2.1, (splitPoint cs).2.2.map Char.toLower) := by
  have hdigit : Char.isDigit ∘ Char.toLower = Char.isDigit := funext isDigit_toLower
  have htake (ds : List Char) :
      (ds.map Char.toLower).takeWhile Char.isDigit = ds.takeWhile Char.isDigit := by
    rw [List.takeWhile_map, hdigit]
    exact map_toLower_of_isDigit (List.all_eq_true.1 List.all_takeWhile)
  have hdrop (ds : List Char) : (ds.map Char.toLower).dropWhile Char.isDigit =
      (ds.dropWhile Char.isDigit).map Char.toLower := by
    rw [List.dropWhile_map, hdigit]
  unfold splitPoint
  dsimp only
  rw [htake, hdrop]
  generalize cs.dropWhile Char.isDigit = rest
  cases rest with
  | nil => rfl
  | cons c rest =>
    have hpoint : c.toLower = '.' ↔ c = '.' := toLower_eq_iff (by decide) (by decide)
    by_cases hc : c = '.'
    · subst hc
      simp only [List.map_cons, hpoint.2 rfl, htake, hdrop]
    · rw [List.map_cons]
      split <;> split <;> simp_all

theorem ofText?_map_toLower (cs : List Char) : ofText? (cs.map Char.toLower) = ofText? cs := by
  unfold ofText?
  rw [splitSign_map_toLower]
  dsimp only
  rw [splitPoint_map_toLower]
  dsimp only
  rw [exponent?_map_toLower]

end Numeral

/-! ## Days -/

namespace Day

theorem toLower_eq_iff_of_mem_chars {d : Day} {c e : Char} (h : e ∈ d.chars) :
    c.toLower = e ↔ c = e := by
  have he : e.isDigit = true ∨ e = '-' := by
    simp only [chars, List.mem_append, List.mem_cons] at h
    rcases h with (h | rfl | h) | rfl | h
    · exact Or.inl (isDigit_of_mem_padded h)
    · exact Or.inr rfl
    · exact Or.inl (isDigit_of_mem_padded h)
    · exact Or.inr rfl
    · exact Or.inl (isDigit_of_mem_padded h)
  rcases he with he | rfl
  · rw [isDigit_iff] at he
    exact Text.toLower_eq_iff (by omega) (by omega)
  · exact Text.toLower_eq_iff (by decide) (by decide)

/-- The text of a day has no letters. -/
theorem ofLeading?_map_toLower (cs : List Char) :
    ofLeading? (cs.map Char.toLower) = ofLeading? cs := by
  refine Option.ext fun d => ?_
  rw [ofLeading?_eq_some, ofLeading?_eq_some, List.prefix_iff_eq_take, List.prefix_iff_eq_take,
    ← List.map_take, eq_comm, Text.map_toLower_eq_iff fun e he c => toLower_eq_iff_of_mem_chars he,
    eq_comm]

end Day

/-! ## Values -/

namespace Json

/-- The pieces of a text in lower case. -/
theorem commaPieces_fold (s : String) :
    commaPieces (Text.fold s) = (commaPieces s).map Text.fold := by
  have hcomma : (fun c : Char => c == ',') ∘ Char.toLower = fun c => c == ',' := by
    funext c
    exact Bool.eq_iff_iff.2 (by simp [Text.toLower_eq_iff])
  have htrim (ps : List (List Char)) : (ps.map (List.map Char.toLower)).map Text.trimChars =
      (ps.map Text.trimChars).map (List.map Char.toLower) := by
    simp only [List.map_map, Function.comp_def, Text.trimChars_map_toLower]
  have hempty : (fun p : List Char => !p.isEmpty) ∘ List.map Char.toLower =
      fun p => !p.isEmpty := by
    funext p
    simp
  rw [commaPieces, Text.toList_fold, Text.splitWhere_map, hcomma, htrim, List.filter_map, hempty,
    commaPieces, List.map_map, List.map_map]
  exact List.map_congr_left fun p _ => by simp [Text.fold]

end Json
end BillingQuery
