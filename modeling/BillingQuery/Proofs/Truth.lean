import BillingQuery.Proofs.Days
import BillingQuery.Sql.Truth

/-!
# Truth under AND and OR

A row is selected where its predicate is true, so false and unknown need not be told apart: AND is
true iff all parts are, OR iff some part is (`truthOfAll_eq_true`, `truthOfAny_eq_true`). Also here:
when a comparison is true, by the classes of the two cells.
-/

namespace BillingQuery.Sql

namespace Truth

theorem and_eq_true {a b : Truth} : a.and b = some true ↔ a = some true ∧ b = some true := by
  rcases a with _ | _ | _ <;> rcases b with _ | _ | _ <;> simp [Truth.and]

theorem or_eq_true {a b : Truth} : a.or b = some true ↔ a = some true ∨ b = some true := by
  rcases a with _ | _ | _ <;> rcases b with _ | _ | _ <;> simp [Truth.or]

end Truth

namespace Predicate

theorem truthOfAll_eq_true {s : Scope} {ps : List Predicate} :
    truthOfAll s ps = some true ↔ ∀ p ∈ ps, p.truth s = some true := by
  induction ps with
  | nil => simp [truthOfAll]
  | cons p ps ih => rw [truthOfAll, Truth.and_eq_true, ih, List.forall_mem_cons]

theorem truth_always (s : Scope) : always.truth s = some true := by
  rw [always, truth]
  rfl

theorem truth_never (s : Scope) : never.truth s = some false := by
  rw [never, truth]
  rfl

end Predicate

/-! ## Comparing cells -/

theorem compareCells_eq_true {r : Relation} {a b : Cell} :
    compareCells r a b = some true ↔ a ≠ .null ∧ b ≠ .null ∧ r.holds (a.compare b) = true := by
  unfold compareCells
  by_cases ha : a = .null
  · simp [ha]
  · by_cases hb : b = .null <;> simp [ha, hb]

theorem amongCells_eq_true {a : Cell} {cells : List Cell} :
    amongCells a cells = some true ↔ ∃ b ∈ cells, compareCells .eq a b = some true := by
  induction cells with
  | nil => simp [amongCells]
  | cons b cells ih =>
    simp only [List.mem_cons, exists_eq_or_imp, ← ih, ← Truth.or_eq_true]
    rfl

theorem Relation.holds_eq {o : Ordering} : Relation.eq.holds o = true ↔ o = .eq := by
  simp [Relation.holds]

@[simp] theorem Cell.compare_text_text (s t : String) :
    (Cell.text s).compare (.text t) = Ord.compare s t := rfl

theorem compareCells_text {s t : String} :
    compareCells .eq (.text s) (.text t) = some true ↔ s = t := by
  rw [compareCells_eq_true, Relation.holds_eq, Cell.compare_text_text,
    Std.LawfulEqOrd.compare_eq_iff_eq]
  simp

/-- Only a text equals a text. -/
theorem compareCells_eq_text {a : Cell} {t : String} :
    compareCells .eq a (.text t) = some true ↔ a = .text t := by
  cases a with
  | text s => rw [compareCells_text, Cell.text.injEq]
  | null | integer n | real x | infinity negative | blob bytes =>
    simp [compareCells, Cell.compare, Cell.rank, Relation.holds]

/-- Only a text is among texts. -/
theorem amongCells_map_text {a : Cell} {texts : List String} :
    amongCells a (texts.map Cell.text) = some true ↔ ∃ t ∈ texts, a = .text t := by
  rw [amongCells_eq_true]
  simp [compareCells_eq_text]

theorem amongCells_texts {s : String} {texts : List String} :
    amongCells (.text s) (texts.map Cell.text) = some true ↔ s ∈ texts := by
  rw [amongCells_map_text]
  simp

theorem compareCells_null_left (r : Relation) (b : Cell) : compareCells r .null b = none := by
  simp [compareCells]

/-- Nothing is converted for a side without an affinity. -/
@[simp] theorem convertFor_none (own : Option Affinity) (c : Cell) : convertFor own none c = c := by
  simp [convertFor]

theorem convertFor_isNumeric {a : Affinity} (ha : a.isNumeric = true) (c : Cell) :
    convertFor none (some a) c = c.toNumber := by
  simp [convertFor, ha]

/-! ## Texts of days -/

namespace Cell

theorem beforeNul_append_of_notMem {cs ds : List Char} (h : '\x00' ∉ cs) :
    beforeNul (cs ++ ds) = cs ++ beforeNul ds := by
  unfold beforeNul
  rw [List.takeWhile_append_of_pos]
  intro c hc
  rw [decide_eq_true_iff]
  rintro rfl
  exact h hc

/-- The text that the store reads at the start of a text. -/
def leadingText (s : String) : String := String.ofList ((beforeNul s.toList).take 10)

theorem leading_text (s : String) : (Cell.text s).leading 10 = .text (leadingText s) := rfl

/-- A text names a day iff what the store reads at its start is the text of that day. -/
theorem ofLeading?_eq_some_iff {s : String} {d : Day} :
    Day.ofLeading? s.toList = some d ↔ leadingText s = d.text := by
  rw [Day.ofLeading?_eq_some, leadingText, Day.text]
  constructor
  · rintro ⟨rest, h⟩
    rw [← h, beforeNul_append_of_notMem d.nul_notMem_chars, List.take_left' d.length_chars]
  · intro h
    rw [← String.ofList_injective h]
    exact (List.take_prefix _ _).trans (List.takeWhile_prefix _)

/-- The store finds that a text is its own day iff it is the text of a day. -/
theorem dayNamed_eq_self {s : String} :
    (Cell.text s).dayNamed = .text s ↔ ∃ d : Day, d.text = s := by
  constructor
  · intro h
    simp only [dayNamed, asText?] at h
    split at h
    · cases h
    · split at h
      · next day _ => exact ⟨day, Cell.text.inj h⟩
      · cases h
  · rintro ⟨d, rfl⟩
    have hlength : d.text.length = 10 := by
      rw [← String.length_toList, Day.text, String.toList_ofList, Day.length_chars]
    have hparts : Day.leadingParts? d.text.toList = some (d.year, d.month, d.day) := by
      rw [Day.text, String.toList_ofList, ← List.append_nil d.chars, Day.leadingParts?_chars]
    simp [dayNamed, asText?, hlength, hparts, Day.rollOver?_self]

end Cell

theorem compare_text_eq_lt {s t : String} : Ord.compare s t = .lt ↔ s.toList < t.toList :=
  compareOfLessAndEq_eq_lt.trans String.lt_iff

theorem compare_text_eq_gt {s t : String} : Ord.compare s t = .gt ↔ t.toList < s.toList :=
  (compareOfLessAndEq_eq_gt String.le_antisymm String.le_total String.not_le s t).trans
    String.lt_iff

/-- Comparing texts of days is comparing days. -/
theorem compareCells_day {d e : Day} :
    (compareCells .gte (.text d.text) (.text e.text) = some true ↔ e ≤ d) ∧
      (compareCells .lte (.text d.text) (.text e.text) = some true ↔ d ≤ e) := by
  have hlt : Ord.compare d.text e.text ≠ .lt ↔ e ≤ d :=
    (not_congr (compare_text_eq_lt.trans Day.text_lt_text)).trans Day.not_lt
  have hgt : Ord.compare d.text e.text ≠ .gt ↔ d ≤ e :=
    (not_congr (compare_text_eq_gt.trans Day.text_lt_text)).trans Day.not_lt
  constructor
  · rw [compareCells_eq_true, Cell.compare_text_text, Relation.holds, bne_iff_ne, hlt]
    simp
  · rw [compareCells_eq_true, Cell.compare_text_text, Relation.holds, bne_iff_ne, hgt]
    simp

end BillingQuery.Sql
