import BillingQuery.Proofs.Text
import BillingQuery.Text.Regex

/-!
# Searching for regular expressions

**Main result (`Regex.search_eq_some_iff`).** A search finds the preferred match at the first place
of the text that has one.

The matches of each form of expression are stated beside it, so that what an expression accepts is
read off its form: a literal accepts the texts that fold to the same one.
-/

namespace BillingQuery.Text

/-! ## Case -/

/-- Only the code points of the small letters change. -/
theorem toUpper_cases (c : Char) :
    (¬ (97 ≤ c.toNat ∧ c.toNat ≤ 122) ∧ c.toUpper = c) ∨
      (97 ≤ c.toNat ∧ c.toNat ≤ 122 ∧ c.toUpper.toNat + 32 = c.toNat) := by
  by_cases h : 97 ≤ c.toNat ∧ c.toNat ≤ 122
  · have hc : 'a'.val ≤ c.val ∧ c.val ≤ 'z'.val := ⟨h.1, h.2⟩
    refine Or.inr ⟨h.1, h.2, ?_⟩
    unfold Char.toUpper
    rw [dif_pos hc]
    show (c.val + ('A'.val - 'a'.val)).toNat + 32 = c.val.toNat
    have hlow : 97 ≤ c.val.toNat := h.1
    have hhigh : c.val.toNat ≤ 122 := h.2
    have hshift : ('A'.val - 'a'.val).toNat = 2 ^ 32 - 32 := rfl
    rw [UInt32.toNat_add, hshift]
    omega
  · refine Or.inl ⟨h, ?_⟩
    unfold Char.toUpper
    rw [dif_neg]
    exact fun hc => h ⟨hc.1, hc.2⟩

theorem toNat_eq_iff {c d : Char} : c.toNat = d.toNat ↔ c = d :=
  ⟨fun h => Char.ext (UInt32.toNat_inj.1 h), fun h => h ▸ rfl⟩

theorem foldCase_cases (c : Char) :
    (c = '\u017f' ∧ foldCase c = 's') ∨ (c = '\u212a' ∧ foldCase c = 'k') ∨
      (c ≠ '\u017f' ∧ c ≠ '\u212a' ∧ foldCase c = c.toLower) := by
  unfold foldCase
  by_cases hs : c = '\u017f'
  · exact Or.inl ⟨hs, if_pos hs⟩
  · by_cases hk : c = '\u212a'
    · exact Or.inr (Or.inl ⟨hk, by rw [if_neg hs, if_pos hk]⟩)
    · exact Or.inr (Or.inr ⟨hs, hk, by rw [if_neg hs, if_neg hk]⟩)

theorem foldCase_of_upper {c : Char} (h : 65 ≤ c.toNat ∧ c.toNat ≤ 90) :
    foldCase c = c.toLower := by
  rcases foldCase_cases c with ⟨rfl, -⟩ | ⟨rfl, -⟩ | ⟨-, -, hfold⟩
  · exact absurd h (by decide)
  · exact absurd h (by decide)
  · exact hfold

@[simp] theorem foldCase_foldCase (c : Char) : foldCase (foldCase c) = foldCase c := by
  rcases foldCase_cases c with ⟨-, h⟩ | ⟨-, h⟩ | ⟨hs, hk, h⟩
  · rw [h]
    rfl
  · rw [h]
    rfl
  · rw [h]
    rcases toLower_cases c with hsame | ⟨hlow, hhigh, hshift⟩
    · rw [hsame, h, hsame]
    · rcases foldCase_cases c.toLower with ⟨heq, -⟩ | ⟨heq, -⟩ | ⟨-, -, hfold⟩
      · rw [heq] at hshift
        exact absurd hshift (by simp; omega)
      · rw [heq] at hshift
        exact absurd hshift (by simp; omega)
      · rw [hfold, toLower_toLower]

theorem foldCase_toUpper (c : Char) : foldCase (foldCase c).toUpper = foldCase c := by
  rcases toUpper_cases (foldCase c) with ⟨-, h⟩ | ⟨hlow, hhigh, hshift⟩
  · rw [h, foldCase_foldCase]
  · have hupper : 65 ≤ (foldCase c).toUpper.toNat ∧ (foldCase c).toUpper.toNat ≤ 90 := by omega
    have hback := toNat_toLower_of_upper hupper
    rw [foldCase_of_upper hupper, ← toNat_eq_iff]
    omega

/-- **Variants.** The variants of a character are those that fold to the same one. -/
theorem mem_caseVariants {c d : Char} : d ∈ caseVariants c ↔ foldCase d = foldCase c := by
  simp only [caseVariants, List.mem_append, List.mem_cons, List.not_mem_nil, or_false]
  constructor
  · rintro ((rfl | rfl) | h)
    · exact foldCase_foldCase c
    · exact foldCase_toUpper c
    · split at h
      · next hlower =>
        rw [hlower, List.mem_singleton.1 h]
        rfl
      · split at h
        · next hlower =>
          rw [hlower, List.mem_singleton.1 h]
          rfl
        · cases h
  · intro h
    -- The two letters outside ASCII that fold to `k` and `s`, then all others.
    rcases foldCase_cases d with ⟨rfl, hfold⟩ | ⟨rfl, hfold⟩ | ⟨-, -, hfold⟩
    · rw [← h]
      exact Or.inr (by decide)
    · rw [← h]
      exact Or.inr (by decide)
    · rw [← h, hfold]
      rcases toLower_cases d with hsame | ⟨hlow, hhigh, hshift⟩
      · exact Or.inl (Or.inl hsame.symm)
      · refine Or.inl (Or.inr ?_)
        rcases toUpper_cases d.toLower with ⟨hnot, -⟩ | ⟨-, -, hback⟩
        · omega
        · rw [← toNat_eq_iff]
          omega

theorem anyCase_congr {p : Char → Bool} {c d : Char} (h : foldCase c = foldCase d) :
    anyCase p c = anyCase p d := by
  unfold anyCase caseVariants
  rw [h]

theorem anyCase_eq_true_iff {p : Char → Bool} {c : Char} :
    anyCase p c = true ↔ ∃ d, foldCase d = foldCase c ∧ p d = true := by
  simp only [anyCase, List.any_eq_true, mem_caseVariants]

/-! ## Places -/

namespace Place

/-- The place between two parts of a text, at the start of a match. -/
def between (before after : List Char) : Place := ⟨before.length, before.getLast?, after, none⟩

theorem past_past (p : Place) (cs ds : List Char) : (p.past cs).past ds = p.past (cs ++ ds) := by
  simp only [past, List.length_append, List.drop_drop, List.getLast?_append, Nat.add_assoc,
    Option.or_assoc]

theorem rest_past {p : Place} {cs rest : List Char} (h : p.rest = cs ++ rest) :
    (p.past cs).rest = rest := by
  rw [past, h, List.drop_left]

end Place

namespace Regex

/-! ## Matches of each form -/

section
variable {p q : Place} {r s : Regex}

@[simp] theorem mem_ends_empty : q ∈ empty.ends p ↔ q = p := List.mem_singleton

@[simp] theorem mem_ends_start : q ∈ start.ends p ↔ p.last? = none ∧ q = p := by
  rw [ends, List.mem_ite_nil_right, Option.isNone_iff_eq_none, List.mem_singleton]

@[simp] theorem mem_ends_finish : q ∈ finish.ends p ↔ p.rest = [] ∧ q = p := by
  rw [ends, List.mem_ite_nil_right, List.isEmpty_iff, List.mem_singleton]

@[simp] theorem mem_ends_wordEdge : q ∈ wordEdge.ends p ↔ p.isWordEdge = true ∧ q = p := by
  rw [ends, List.mem_ite_nil_right, List.mem_singleton]

@[simp] theorem mem_ends_one {accepts : Char → Bool} :
    q ∈ (one accepts).ends p ↔ ∃ c cs, p.rest = c :: cs ∧ accepts c = true ∧ q = p.past [c] := by
  rw [ends]
  cases p.rest with
  | nil => simp
  | cons c cs => simp

@[simp] theorem mem_ends_seq : q ∈ (seq r s).ends p ↔ ∃ m ∈ r.ends p, q ∈ s.ends m :=
  List.mem_flatMap

@[simp] theorem mem_ends_either : q ∈ (either r s).ends p ↔ q ∈ r.ends p ∨ q ∈ s.ends p :=
  List.mem_append

@[simp] theorem mem_ends_group : q ∈ (group r).ends p ↔ ∃ m ∈ r.ends p,
    { m with captured? := some (p.rest.take (m.position - p.position)) } = q :=
  List.mem_map

theorem mem_ends_alternatives {rs : List Regex} :
    q ∈ (alternatives rs).ends p ↔ ∃ r ∈ rs, q ∈ r.ends p := by
  induction rs with
  | nil => simp [alternatives]
  | cons r rs ih => simp [alternatives, ih]

end

end Regex

/-- The text folds to the same one as the literal. -/
def Spells (cs keyword : List Char) : Prop := cs.map foldCase = keyword.map foldCase

theorem spells_nil {cs : List Char} : Spells cs [] ↔ cs = [] := by
  rw [Spells, List.map_nil, List.map_eq_nil_iff]

theorem spells_cons {cs keyword : List Char} {k : Char} :
    Spells cs (k :: keyword) ↔
      ∃ c ds, cs = c :: ds ∧ foldCase c = foldCase k ∧ Spells ds keyword := by
  rw [Spells, List.map_cons, List.map_eq_cons_iff]
  rfl

/-- A literal matches the texts that spell it. -/
theorem Regex.mem_ends_literal {keyword : List Char} {p q : Place} :
    q ∈ (literal keyword).ends p ↔
      ∃ cs rest, p.rest = cs ++ rest ∧ Spells cs keyword ∧ q = p.past cs := by
  induction keyword generalizing p with
  | nil =>
    simp only [spells_nil]
    constructor
    · rintro h
      exact ⟨[], p.rest, rfl, rfl, mem_ends_empty.1 h⟩
    · rintro ⟨_, rest, -, rfl, rfl⟩
      exact mem_ends_empty.2 rfl
  | cons k keyword ih =>
    have hone (c : Char) : anyCase (· == k) c = true ↔ foldCase c = foldCase k := by
      simp only [anyCase_eq_true_iff, beq_iff_eq, exists_eq_right]
      exact eq_comm
    have hseq : q ∈ (literal (k :: keyword)).ends p ↔
        ∃ m ∈ (one (anyCase (· == k))).ends p, q ∈ (literal keyword).ends m := mem_ends_seq
    simp only [hseq, mem_ends_one, hone, ih, spells_cons]
    constructor
    · rintro ⟨_, ⟨c, after, hafter, hc, rfl⟩, cs, rest, hrest, hcs, rfl⟩
      have hsplit : after = cs ++ rest := (Place.rest_past hafter).symm.trans hrest
      exact ⟨c :: cs, rest, by rw [hafter, hsplit, List.cons_append], ⟨c, cs, rfl, hc, hcs⟩,
        p.past_past [c] cs⟩
    · rintro ⟨_, rest, hrest, ⟨c, cs, rfl, hc, hcs⟩, rfl⟩
      exact ⟨p.past [c], ⟨c, cs ++ rest, hrest, hc, rfl⟩, cs, rest, Place.rest_past hrest, hcs,
        (p.past_past [c] cs).symm⟩

namespace Regex

/-! ## Searching -/

section
variable {r : Regex} {q : Place} {c : Char} {cs : List Char}

theorem exists_split_cons {P : List Char → List Char → Prop} :
    (∃ passed rest, passed ++ rest = c :: cs ∧ P passed rest) ↔
      P [] (c :: cs) ∨ ∃ passed rest, passed ++ rest = cs ∧ P (c :: passed) rest := by
  constructor
  · rintro ⟨_ | ⟨d, passed⟩, rest, hsplit, h⟩
    · obtain rfl : rest = c :: cs := hsplit
      exact Or.inl h
    · obtain ⟨rfl, hcs⟩ := List.cons.inj hsplit
      exact Or.inr ⟨passed, rest, hcs, h⟩
  · rintro (h | ⟨passed, rest, rfl, h⟩)
    · exact ⟨[], c :: cs, rfl, h⟩
    · exact ⟨c :: passed, rest, rfl, h⟩

theorem forall_split_cons {P : List Char → List Char → Prop} :
    (∀ passed rest, passed ++ rest = c :: cs → P passed rest) ↔
      P [] (c :: cs) ∧ ∀ passed rest, passed ++ rest = cs → P (c :: passed) rest := by
  constructor
  · intro h
    exact ⟨h [] (c :: cs) rfl, fun passed rest hcs => h (c :: passed) rest (congrArg (c :: ·) hcs)⟩
  · rintro ⟨h, hcons⟩ (_ | ⟨d, passed⟩) rest hsplit
    · obtain rfl : rest = c :: cs := hsplit
      exact h
    · obtain ⟨rfl, hcs⟩ := List.cons.inj hsplit
      exact hcons passed rest hcs

/-- A search looks at one place, and if there is no match goes on at the next. -/
theorem searchFrom_cons (before : List Char) :
    r.searchFrom before.length before.getLast? (c :: cs) =
      (r.ends (.between before (c :: cs))).head?.or
        (r.searchFrom (before ++ [c]).length (before ++ [c]).getLast? cs) := by
  rw [searchFrom, ← Place.between, List.length_append, List.getLast?_append,
    List.getLast?_singleton, Option.some_or]
  cases r.ends (.between before (c :: cs)) <;> rfl

theorem searchFrom_eq_none_iff (before after : List Char) :
    r.searchFrom before.length before.getLast? after = none ↔
      ∀ passed rest, passed ++ rest = after → r.ends (.between (before ++ passed) rest) = [] := by
  induction after generalizing before with
  | nil =>
    rw [searchFrom, ← Place.between, List.head?_eq_none_iff]
    simp
  | cons c cs ih =>
    rw [searchFrom_cons, Option.or_eq_none_iff, List.head?_eq_none_iff, ih, forall_split_cons]
    simp only [List.append_assoc, List.singleton_append, List.append_nil]

/-- The preferred match at the first place of `before ++ after`, from the end of `before` on. -/
theorem searchFrom_eq_some_iff (before after : List Char) :
    r.searchFrom before.length before.getLast? after = some q ↔
      ∃ passed rest, passed ++ rest = after ∧
        (r.ends (.between (before ++ passed) rest)).head? = some q ∧
        ∀ earlier later, earlier ++ later = after → earlier.length < passed.length →
          r.ends (.between (before ++ earlier) later) = [] := by
  induction after generalizing before with
  | nil =>
    rw [searchFrom, ← Place.between]
    simp [and_assoc]
  | cons c cs ih =>
    rw [searchFrom_cons, Option.or_eq_some_iff, List.head?_eq_none_iff, ih, exists_split_cons]
    simp only [forall_split_cons, List.append_assoc, List.singleton_append, List.append_nil,
      List.length_cons, List.length_nil, Nat.succ_lt_succ_iff, Nat.not_lt_zero, Nat.zero_lt_succ,
      false_implies, implies_true, forall_const, and_true]
    refine or_congr_right ⟨?_, ?_⟩
    · rintro ⟨hnone, passed, rest, hcs, hhead, hearlier⟩
      exact ⟨passed, rest, hcs, hhead, hnone, hearlier⟩
    · rintro ⟨passed, rest, hcs, hhead, hnone, hearlier⟩
      exact ⟨hnone, passed, rest, hcs, hhead, hearlier⟩

end

/-- **Searching.** The match that is found is the preferred one at the first place with a match. -/
theorem search_eq_some_iff {r : Regex} {cs : List Char} {q : Place} :
    r.search cs = some q ↔ ∃ before after, before ++ after = cs ∧
      (r.ends (.between before after)).head? = some q ∧
      ∀ earlier later, earlier ++ later = cs → earlier.length < before.length →
        r.ends (.between earlier later) = [] :=
  searchFrom_eq_some_iff [] cs

theorem search_eq_none_iff {r : Regex} {cs : List Char} :
    r.search cs = none ↔
      ∀ before after, before ++ after = cs → r.ends (.between before after) = [] :=
  searchFrom_eq_none_iff [] cs

theorem isMatch_iff {r : Regex} {cs : List Char} :
    r.isMatch cs = true ↔
      ∃ before after, before ++ after = cs ∧ ∃ q, q ∈ r.ends (.between before after) := by
  constructor
  · intro h
    obtain ⟨q, hq⟩ := Option.isSome_iff_exists.1 h
    obtain ⟨before, after, hsplit, hhead, -⟩ := search_eq_some_iff.1 hq
    exact ⟨before, after, hsplit, q, List.mem_of_head? hhead⟩
  · rintro ⟨before, after, hsplit, q, hq⟩
    rw [isMatch, Option.isSome_iff_ne_none]
    intro hnone
    rw [search_eq_none_iff.1 hnone before after hsplit] at hq
    cases hq

end Regex
end BillingQuery.Text
