import BillingQuery.Text.Blank
import BillingQuery.Text.Fold
import BillingQuery.Text.Search

/-!
# Folding, trimming and searching

Folding a text twice is folding it once, and it never makes or removes a NUL. A trimmed text is what
stands between the longest ends of some characters. `isInfix` is the infix relation of lists.
-/

namespace BillingQuery.Text

/-! ## Lower case -/

/-- Only the code points of the capital letters change. -/
theorem toLower_of_not_upper {c : Char} (h : ¬ (65 ≤ c.toNat ∧ c.toNat ≤ 90)) : c.toLower = c := by
  unfold Char.toLower
  rw [dif_neg]
  intro hc
  exact h ⟨hc.1, hc.2⟩

theorem toNat_toLower_of_upper {c : Char} (h : 65 ≤ c.toNat ∧ c.toNat ≤ 90) :
    c.toLower.toNat = c.toNat + 32 := by
  have hc : c.val ≥ 'A'.val ∧ c.val ≤ 'Z'.val := ⟨h.1, h.2⟩
  unfold Char.toLower
  rw [dif_pos hc]
  have hlt : c.val.toNat + 32 < 2 ^ 32 := by
    have := h.2
    change c.val.toNat ≤ 90 at this
    omega
  show (c.val + ('a'.val - 'A'.val)).toNat = c.val.toNat + 32
  rw [UInt32.toNat_add]
  exact Nat.mod_eq_of_lt hlt

/-- Folding keeps a character on its side of any bound that the letters are not astride. -/
theorem toLower_cases (c : Char) :
    c.toLower = c ∨ (65 ≤ c.toNat ∧ c.toNat ≤ 90 ∧ c.toLower.toNat = c.toNat + 32) := by
  by_cases h : 65 ≤ c.toNat ∧ c.toNat ≤ 90
  · exact Or.inr ⟨h.1, h.2, toNat_toLower_of_upper h⟩
  · exact Or.inl (toLower_of_not_upper h)

theorem toLower_toLower (c : Char) : c.toLower.toLower = c.toLower := by
  rcases toLower_cases c with h | ⟨h₁, h₂, h⟩
  · rw [h, h]
  · exact toLower_of_not_upper (by omega)

theorem toLower_eq_nul {c : Char} : c.toLower = '\x00' ↔ c = '\x00' := by
  constructor
  · intro h
    rcases toLower_cases c with h' | ⟨-, -, h'⟩
    · exact h' ▸ h
    · rw [h] at h'
      exact absurd h' (by simp)
  · rintro rfl
    rfl

@[simp] theorem toList_fold (s : String) : (fold s).toList = s.toList.map Char.toLower := by
  simp [fold]

@[simp] theorem fold_fold (s : String) : fold (fold s) = fold s := by
  apply String.toList_injective
  simp only [toList_fold, List.map_map]
  exact List.map_congr_left fun c _ => toLower_toLower c

/-- Every character of a folded text is its own lower case. -/
theorem toLower_of_mem_fold {s : String} {c : Char} (h : c ∈ (fold s).toList) :
    c.toLower = c := by
  rw [toList_fold, List.mem_map] at h
  obtain ⟨d, -, rfl⟩ := h
  exact toLower_toLower d

/-- A text without NUL. -/
def IsNulFree (s : String) : Prop := '\x00' ∉ s.toList

instance (s : String) : Decidable (IsNulFree s) :=
  inferInstanceAs (Decidable ('\x00' ∉ s.toList))

theorem IsNulFree.fold {s : String} (h : IsNulFree s) : IsNulFree (fold s) := by
  unfold IsNulFree
  rw [toList_fold, List.mem_map]
  rintro ⟨c, hc, h'⟩
  rw [toLower_eq_nul] at h'
  exact h (h' ▸ hc)

/-! ## Trimming -/

/-- `s` is `cs` without the characters of the class at its end. -/
def IsStripped (p : Char → Bool) (cs s : List Char) : Prop :=
  ∃ tail, s ++ tail = cs ∧ (∀ c ∈ tail, p c = true) ∧ ∀ c ∈ s.getLast?, p c = false

/-- `s` is `cs` without the characters of the class at its two ends. -/
def IsTrimmed (p : Char → Bool) (cs s : List Char) : Prop :=
  ∃ lead rest, lead ++ rest = cs ∧ (∀ c ∈ lead, p c = true) ∧ (∀ c ∈ rest.head?, p c = false) ∧
    IsStripped p rest s

theorem dropWhile_eq_iff {p : Char → Bool} {cs rest : List Char} :
    cs.dropWhile p = rest ↔
      ∃ lead, lead ++ rest = cs ∧ (∀ c ∈ lead, p c = true) ∧ ∀ c ∈ rest.head?, p c = false := by
  constructor
  · rintro rfl
    refine ⟨cs.takeWhile p, List.takeWhile_append_dropWhile, List.all_eq_true.1 List.all_takeWhile,
      ?_⟩
    intro c hc
    have hhead := List.head?_dropWhile_not p cs
    rw [Option.mem_def.1 hc] at hhead
    exact hhead
  · rintro ⟨lead, rfl, hlead, hrest⟩
    rw [List.dropWhile_append_of_pos hlead]
    cases rest with
    | nil => rfl
    | cons c rest => rw [List.dropWhile_cons_of_neg (by simp [hrest c rfl])]

theorem dropEndWhile_eq_iff {p : Char → Bool} {cs s : List Char} :
    dropEndWhile p cs = s ↔ IsStripped p cs s := by
  rw [dropEndWhile, List.reverse_eq_iff, dropWhile_eq_iff]
  constructor
  · rintro ⟨lead, hsplit, hlead, hhead⟩
    refine ⟨lead.reverse, ?_, fun c hc => hlead c (List.mem_reverse.1 hc), ?_⟩
    · rw [← List.reverse_inj, ← hsplit, List.reverse_append, List.reverse_reverse]
    · rwa [List.head?_reverse] at hhead
  · rintro ⟨tail, rfl, htail, hlast⟩
    refine ⟨tail.reverse, List.reverse_append.symm, fun c hc => htail c (List.mem_reverse.1 hc), ?_⟩
    rwa [List.head?_reverse]

theorem trimWhile_eq_iff {p : Char → Bool} {cs s : List Char} :
    trimWhile p cs = s ↔ IsTrimmed p cs s := by
  rw [trimWhile, dropEndWhile_eq_iff]
  constructor
  · intro h
    obtain ⟨lead, hsplit, hlead, hhead⟩ := dropWhile_eq_iff.1 (rfl : cs.dropWhile p = _)
    exact ⟨lead, _, hsplit, hlead, hhead, h⟩
  · rintro ⟨lead, rest, hsplit, hlead, hhead, h⟩
    rwa [dropWhile_eq_iff.2 ⟨lead, hsplit, hlead, hhead⟩]

/-! ## Searching -/

theorem mem_suffixes {as t : List α} : t ∈ suffixes as ↔ t <:+ as := by
  induction as with
  | nil => simp [suffixes]
  | cons a as ih => rw [suffixes, List.mem_cons, ih, List.suffix_cons_iff]

theorem isInfix_iff {needle cs : List Char} : isInfix needle cs = true ↔ needle <:+: cs := by
  simp only [isInfix, List.any_eq_true, mem_suffixes, List.isPrefixOf_iff_prefix]
  constructor
  · rintro ⟨t, ht, h⟩
    exact h.isInfix.trans ht.isInfix
  · rintro ⟨before, after, rfl⟩
    exact ⟨needle ++ after, ⟨before, by simp⟩, needle.prefix_append after⟩

end BillingQuery.Text
