import BillingQuery.Proofs.JsonTexts
import BillingQuery.Proofs.LikePattern
import BillingQuery.Proofs.PlanTests
import BillingQuery.Proofs.Truth
import BillingQuery.Proofs.WholeDoubles
import BillingQuery.Service.Listing
import BillingQuery.Store.Layout

/-!
# Tests on stored values

**Main result (`Operand.truth_predicate`).** On a cell that fits the type of its field, the compiled
test is true iff the operand accepts the value that the record of the row has for the field.

**Fitting values** (`FieldType.Fits`). Texts may be null, integers or texts without NUL; numbers may
be null, texts, doubles or integers of magnitude at most `2^53`; days may be null or texts; flags
may be whatever a column of numeric affinity stores.
-/

namespace BillingQuery

open Sql (Cell Scope Predicate Value)

/-- The cells that fit a field of this type. -/
def FieldType.Fits (type : FieldType) (c : Cell) : Prop :=
  match type with
  | .string | .id | .enum =>
    c = .null ∨ (∃ n, c = .integer n) ∨ ∃ s, c = .text s ∧ Text.IsNulFree s
  | .number =>
    c = .null ∨ (∃ s, c = .text s) ∨ (∃ x, c = .real x) ∨ ∃ n, c = .integer n ∧ n.natAbs ≤ 2 ^ 53
  | .date => c = .null ∨ ∃ s, c = .text s
  | .boolean => ∃ given : Cell, c = given.store .numeric

/-- The value that the record of a row has for a field, if the row has this cell for it. -/
def Field.jsonOf (f : Field) (c : Cell) : Json :=
  if f.type = .boolean then restoreFlag c.toJson else c.toJson

namespace Sql.Cell

/-! ## Texts -/

/-- Stored and recorded text are folded alike. -/
theorem lower_cases {type : FieldType} {c : Cell} (htype : type.isText = true) (h : type.Fits c) :
    (c.lower = .null ∧ c.toJson.foldedText? = none) ∨
      ∃ t, c.lower = .text t ∧ c.toJson.foldedText? = some t ∧ Text.IsNulFree t ∧
        Text.fold t = t := by
  have hfits : c = .null ∨ (∃ n, c = .integer n) ∨ ∃ s, c = .text s ∧ Text.IsNulFree s := by
    cases type with
    | string | id | enum => exact h
    | boolean | number | date => cases htype
  rcases hfits with rfl | ⟨n, rfl⟩ | ⟨s, rfl, hs⟩
  · exact Or.inl ⟨rfl, rfl⟩
  · exact Or.inr ⟨_, rfl, rfl, (isNulFree_intText n).fold, Text.fold_fold _⟩
  · exact Or.inr ⟨_, rfl, rfl, hs.fold, Text.fold_fold _⟩

/-! ## Numbers -/

/-- A stored number is compared as the double that it is recorded as. -/
theorem number_cases {c : Cell} (h : FieldType.number.Fits c) :
    (c.className ∉ ["integer", "real"] ∧ c.toJson.storedNumber? = none) ∨
      ∃ x, c.className ∈ ["integer", "real"] ∧ c.toJson.storedNumber? = some x ∧ c ≠ .null ∧
        ∀ y, c.compare (.real y) = Ord.compare x.units y.units := by
  rcases h with rfl | ⟨s, rfl⟩ | ⟨x, rfl⟩ | ⟨n, rfl, hn⟩
  · exact Or.inl ⟨by decide, rfl⟩
  · exact Or.inl ⟨by simp [className], rfl⟩
  · exact Or.inr ⟨x, by simp [className], rfl, by simp, fun y => rfl⟩
  · obtain ⟨x, hx, hunits⟩ := Binary64.exists_ofInt? hn
    refine Or.inr ⟨x, by simp [className], hx, by simp, fun y => ?_⟩
    rw [hunits]
    rfl

/-! ## Flags -/

/-- A column of numeric affinity keeps no small integer as a real. -/
theorem units_ne_of_store {c : Cell} {x : Binary64} {n : Int} (hn : -2 ^ 63 < n ∧ n < 2 ^ 63 - 1)
    (h : c.store .numeric = .real x) : x.units ≠ n * 2 ^ 1074 := by
  intro hunits
  have hint : x.toInt? = some n := Binary64.toInt?_of_units hunits
  have hreal : ∀ d : Cell, d.toIntegral = .real x → d = .real x := by
    intro d hd
    cases d with
    | real y =>
      simp only [toIntegral] at hd
      split at hd
      · split_ifs at hd
        exact hd
      · exact hd
    | null | integer m | infinity negative | text s | blob bytes => exact hd
  have hgiven := hreal _ h
  rw [store, hgiven, toIntegral, hint] at h
  dsimp only at h
  rw [if_pos (by simp only [Bool.and_eq_true, decide_eq_true_eq]; exact hn)] at h
  cases h

theorem compare_integer_integer {m n : Int} :
    (Cell.integer m).compare (.integer n) = .eq ↔ m = n := by
  show Ord.compare m n = .eq ↔ m = n
  exact Std.LawfulEqOrd.compare_eq_iff_eq

/-- A flag is stored as an integer, and no other value equals one. -/
theorem flag_iff {c : Cell} (h : FieldType.boolean.Fits c) (b : Bool) :
    compareCells .eq c (.integer (if b then 1 else 0)) = some true ↔
      (restoreFlag c.toJson).storedFlag? = some b := by
  obtain ⟨given, hgiven⟩ := h
  rw [compareCells_eq_true, Relation.holds_eq]
  cases c with
  | integer n =>
    rw [compare_integer_integer]
    by_cases h1 : n = 1
    · subst h1
      cases b <;> simp [toJson, Json.int, restoreFlag, Json.flagOfInt?, Json.storedFlag?]
    · by_cases h0 : n = 0
      · subst h0
        cases b <;> simp [toJson, Json.int, restoreFlag, Json.flagOfInt?, Json.storedFlag?]
      · cases b <;>
          simp [toJson, Json.int, restoreFlag, Json.flagOfInt?, Json.storedFlag?, h0, h1]
  -- The column would have stored a real 0 or 1 as an integer.
  | real x =>
    have hne : x.units ≠ (if b then 1 else 0 : Int) * 2 ^ 1074 := by
      apply units_ne_of_store _ hgiven.symm
      cases b <;> decide
    have hcompare : (Cell.real x).compare (.integer (if b then 1 else 0)) ≠ .eq := by
      show (Ord.compare ((if b then 1 else 0 : Int) * 2 ^ 1074) x.units).swap ≠ .eq
      rw [Ne, Ordering.swap_eq_eq, Std.LawfulEqOrd.compare_eq_iff_eq]
      exact fun heq => hne heq.symm
    simp [hcompare, toJson, restoreFlag, Json.storedFlag?]
  | infinity negative => cases negative <;> simp [compare, toJson, restoreFlag, Json.storedFlag?]
  | null => simp [toJson, restoreFlag, Json.storedFlag?]
  | text s =>
    have hcompare : (Cell.text s).compare (.integer (if b then 1 else 0)) = .gt := rfl
    simp [hcompare, toJson, restoreFlag, Json.storedFlag?]
  | blob bytes =>
    have hcompare : (Cell.blob bytes).compare (.integer (if b then 1 else 0)) = .gt := rfl
    simp [hcompare, toJson, restoreFlag, Json.storedFlag?]

/-! ## Days -/

theorem day_cases {c : Cell} (h : FieldType.date.Fits c) :
    (c.leading 10 = .null ∧ c.toJson.toDay? = none) ∨
      ∃ t, c.leading 10 = .text t ∧ ∀ d, c.toJson.toDay? = some d ↔ t = d.text := by
  rcases h with rfl | ⟨s, rfl⟩
  · exact Or.inl ⟨rfl, rfl⟩
  · exact Or.inr ⟨_, leading_text s, fun d => ofLeading?_eq_some_iff⟩

end Sql.Cell

/-! ## Compiled tests -/

namespace Operand

variable {s : Scope} {column : String} {bound : Nat}

/-- The values of the operand are bound to the parameters after the first `bound`. -/
def IsBound (s : Scope) (bound : Nat) (values : List Value) : Prop :=
  ∀ i v, values[i]? = some v → s.parameter (bound + 1 + i) = v.cell

/-- A needle is folded and has no NUL, and the engine finds it in the cell only where it stands. -/
def IsFound (s : Scope) (c : Cell) (operand : Operand) : Prop :=
  ∀ kind needle, operand = .pattern kind needle →
    Text.IsNulFree needle ∧ Text.fold needle = needle ∧ Sql.ReadsAscii s.seen ∧
      ∀ t, c.lower = .text t → Sql.FindsOnly s.seen kind needle t

theorem truth_isNumeric :
    (isNumeric (.column column)).truth s = some true ↔
      (s.cell column).className ∈ ["integer", "real"] := by
  rw [isNumeric, Predicate.truth]
  exact Sql.amongCells_texts

/-- Equality is with the text that the store has of the cell. -/
theorem truth_text_iff {w : String} (hbound : IsBound s bound (text w).values) :
    ((text w).predicate column bound).truth s = some true ↔ (s.cell column).lower = .text w := by
  have hfirst : s.parameter (bound + 1) = .text w := hbound 0 _ rfl
  rw [predicate, Predicate.truth]
  simp only [Sql.Term.affinity?, Sql.Term.value, Sql.convertFor_none, hfirst]
  exact Sql.compareCells_eq_text

theorem truth_textSet_iff {items : List String} (hbound : IsBound s bound (textSet items).values) :
    ((textSet items).predicate column bound).truth s = some true ↔
      ∃ w ∈ items, (s.cell column).lower = .text w := by
  have hfirst : s.parameter (bound + 1) = .text (Json.array (items.map Json.string)).write :=
    hbound 0 _ rfl
  rw [predicate, Predicate.truth]
  simp only [Sql.Term.value, hfirst, Sql.arrayItems?_texts, Option.bind_some]
  exact Sql.amongCells_map_text

/-- The needle is sought in what the engine sees of that text. -/
theorem truth_pattern_iff {kind : PatternKind} {needle t : String} (hseen : Sql.ReadsAscii s.seen)
    (hnul : Text.IsNulFree needle) (hfold : Text.fold needle = needle)
    (hlower : (s.cell column).lower = .text t) (htfold : Text.fold t = t)
    (hbound : IsBound s bound (pattern kind needle).values) :
    ((pattern kind needle).predicate column bound).truth s = some true ↔
      kind.Places (needle.toList.map s.seen) (Sql.seenChars s.seen t) := by
  have hfirst : s.parameter (bound + 1) = .text (kind.likePattern needle) := hbound 0 _ rfl
  rw [predicate, Predicate.truth]
  simp only [Sql.Term.value, hfirst, hlower, Sql.Cell.seenChars?, Sql.Cell.asText?,
    Option.map_some, Option.some.injEq]
  exact Sql.likeMatches_seenChars hseen hnul hfold htfold

theorem accepts_text_iff {w : String} {j : Json} :
    (text w).accepts j = true ↔ j.foldedText? = some w := by
  simp [accepts]

theorem accepts_textSet_iff {items : List String} {j : Json} :
    (textSet items).accepts j = true ↔ ∃ w ∈ items, j.foldedText? = some w := by
  simp [accepts, Option.any_eq_true, and_comm]

theorem truth_text {w : String} {type : FieldType} (htype : type.isText = true)
    (hfits : type.Fits (s.cell column)) (hbound : IsBound s bound (text w).values) :
    ((text w).predicate column bound).truth s = some true ↔
      (text w).accepts (s.cell column).toJson = true := by
  rw [truth_text_iff hbound, accepts_text_iff]
  rcases Sql.Cell.lower_cases htype hfits with ⟨hlower, htext⟩ | ⟨t, hlower, htext, -, -⟩
  · simp [hlower, htext]
  · simp [hlower, htext]

theorem truth_textSet {items : List String} {type : FieldType} (htype : type.isText = true)
    (hfits : type.Fits (s.cell column)) (hbound : IsBound s bound (textSet items).values) :
    ((textSet items).predicate column bound).truth s = some true ↔
      (textSet items).accepts (s.cell column).toJson = true := by
  rw [truth_textSet_iff hbound, accepts_textSet_iff]
  rcases Sql.Cell.lower_cases htype hfits with ⟨hlower, htext⟩ | ⟨t, hlower, htext, -, -⟩
  · simp [hlower, htext]
  · simp [hlower, htext]

theorem truth_pattern {kind : PatternKind} {needle : String} {type : FieldType}
    (htype : type.isText = true) (hfits : type.Fits (s.cell column))
    (hbound : IsBound s bound (pattern kind needle).values)
    (hfound : IsFound s (s.cell column) (pattern kind needle)) :
    ((pattern kind needle).predicate column bound).truth s = some true ↔
      (pattern kind needle).accepts (s.cell column).toJson = true := by
  obtain ⟨hnul, hfold, hseen, hfinds⟩ := hfound kind needle rfl
  rcases Sql.Cell.lower_cases htype hfits with ⟨hlower, htext⟩ | ⟨t, hlower, htext, ht, htfold⟩
  · rw [predicate, Predicate.truth, accepts, htext]
    simp [Sql.Term.value, hlower, Sql.Cell.seenChars?, Sql.Cell.asText?]
  · rw [truth_pattern_iff hseen hnul hfold hlower htfold hbound, accepts, htext, Option.any_some,
      Sql.seenChars_of_isNulFree ht, Sql.places_map_iff (hfinds t hlower)]

theorem truth_flag {b : Bool} (hfits : FieldType.boolean.Fits (s.cell column))
    (haffinity : (s.affinity column).isNumeric = true)
    (hbound : IsBound s bound (flag b).values) :
    ((flag b).predicate column bound).truth s = some true ↔
      (flag b).accepts (restoreFlag (s.cell column).toJson) = true := by
  have hfirst : s.parameter (bound + 1) = .integer (if b then 1 else 0) := hbound 0 _ rfl
  rw [predicate, Predicate.truth]
  simp only [Sql.Term.affinity?, Sql.Term.value, Sql.convertFor_none, hfirst, accepts,
    Sql.convertFor_isNumeric haffinity, beq_iff_eq]
  exact Sql.Cell.flag_iff hfits b

/-- The cell of the row against a bound number. -/
theorem truth_compare_real (comparison : Comparison) {n : Nat} {y : Binary64}
    (haffinity : (s.affinity column).isNumeric = true) (hn : s.parameter n = .real y)
    (hne : s.cell column ≠ .null) :
    (Predicate.compare comparison.relation (.column column) (.parameter n)).truth s = some true ↔
      comparison.relation.holds ((s.cell column).compare (.real y)) = true := by
  rw [Predicate.truth]
  simp only [Sql.Term.affinity?, Sql.Term.value, Sql.convertFor_none, hn,
    Sql.convertFor_isNumeric haffinity, Sql.Cell.toNumber]
  rw [Sql.compareCells_eq_true]
  simp [hne]

/-- A number of the row against a bound number. -/
theorem truth_compare_number (comparison : Comparison) {n : Nat} {x y : Binary64}
    (haffinity : (s.affinity column).isNumeric = true) (hn : s.parameter n = .real y)
    (hne : s.cell column ≠ .null)
    (hcompare : (s.cell column).compare (.real y) = Ord.compare x.units y.units) :
    (Predicate.compare comparison.relation (.column column) (.parameter n)).truth s = some true ↔
      comparison.holds x y = true := by
  rw [truth_compare_real comparison haffinity hn hne, hcompare, comparison.relation_holds]

theorem truth_number {comparison : Comparison} {x : Binary64}
    (hfits : FieldType.number.Fits (s.cell column))
    (haffinity : (s.affinity column).isNumeric = true)
    (hbound : IsBound s bound (number comparison x).values) :
    ((number comparison x).predicate column bound).truth s = some true ↔
      (number comparison x).accepts (s.cell column).toJson = true := by
  have hfirst : s.parameter (bound + 1) = .real x := hbound 0 _ rfl
  rw [predicate, Predicate.truth, Predicate.truthOfAll_eq_true]
  simp only [List.forall_mem_cons, List.not_mem_nil, false_imp_iff, implies_true, and_true,
    truth_isNumeric, accepts]
  rcases Sql.Cell.number_cases hfits with ⟨hclass, hnone⟩ | ⟨y, hclass, hsome, hne, hcompare⟩
  · simp [hclass, hnone]
  · rw [truth_compare_number comparison haffinity hfirst hne (hcompare x)]
    simp [hclass, hsome]

theorem truth_numberRange {low high : Binary64} (hfits : FieldType.number.Fits (s.cell column))
    (haffinity : (s.affinity column).isNumeric = true)
    (hbound : IsBound s bound (numberRange low high).values) :
    ((numberRange low high).predicate column bound).truth s = some true ↔
      (numberRange low high).accepts (s.cell column).toJson = true := by
  have hfirst : s.parameter (bound + 1) = .real low := hbound 0 _ rfl
  have hsecond : s.parameter (bound + 2) = .real high := hbound 1 _ rfl
  rw [predicate, Predicate.truth, Predicate.truthOfAll_eq_true]
  simp only [List.forall_mem_cons, List.not_mem_nil, false_imp_iff, implies_true, and_true,
    truth_isNumeric, accepts]
  rcases Sql.Cell.number_cases hfits with ⟨hclass, hnone⟩ | ⟨y, hclass, hsome, hne, hcompare⟩
  · simp [hclass, hnone]
  · have hgte := truth_compare_number .gte haffinity hfirst hne (hcompare low)
    have hlte := truth_compare_number .lte haffinity hsecond hne (hcompare high)
    simp only [Comparison.relation] at hgte hlte
    rw [hgte, hlte, hsome]
    simp [hclass, Comparison.holds]

theorem truth_day {d : Day} (hfits : FieldType.date.Fits (s.cell column))
    (hbound : IsBound s bound (day d).values) :
    ((day d).predicate column bound).truth s = some true ↔
      (day d).accepts (s.cell column).toJson = true := by
  have hfirst : s.parameter (bound + 1) = .text d.text := hbound 0 _ rfl
  rw [predicate, Predicate.truth]
  simp only [Sql.Term.affinity?, Sql.Term.value, Sql.convertFor_none, hfirst, accepts]
  rcases Sql.Cell.day_cases hfits with ⟨hleading, hday⟩ | ⟨t, hleading, hday⟩
  · rw [hleading, hday, Sql.compareCells_null_left]
    simp
  · rw [hleading, Sql.compareCells_text, ← hday, beq_iff_eq]

theorem truth_isDay {t : String} (hleading : (s.cell column).leading 10 = .text t) :
    (isDay (.column column)).truth s = some true ↔ ∃ e : Day, e.text = t := by
  rw [isDay, Predicate.truth]
  simp only [Sql.Term.affinity?, Sql.Term.value, Sql.convertFor_none, hleading]
  rw [Sql.compareCells_eq_text, Sql.Cell.dayNamed_eq_self]

theorem truth_dayRange {low high : Day} (hfits : FieldType.date.Fits (s.cell column))
    (hbound : IsBound s bound (dayRange low high).values) :
    ((dayRange low high).predicate column bound).truth s = some true ↔
      (dayRange low high).accepts (s.cell column).toJson = true := by
  have hfirst : s.parameter (bound + 1) = .text low.text := hbound 0 _ rfl
  have hsecond : s.parameter (bound + 2) = .text high.text := hbound 1 _ rfl
  rw [predicate, Predicate.truth, Predicate.truthOfAll_eq_true]
  simp only [List.forall_mem_cons, List.not_mem_nil, false_imp_iff, implies_true, and_true, accepts]
  rcases Sql.Cell.day_cases hfits with ⟨hleading, hday⟩ | ⟨t, hleading, hday⟩
  · have hisDay : (isDay (.column column)).truth s ≠ some true := by
      rw [isDay, Predicate.truth]
      simp [Sql.Term.affinity?, Sql.Term.value, hleading, Sql.Cell.dayNamed, Sql.Cell.asText?,
        Sql.compareCells]
    simp [hisDay, hday]
  · rw [truth_isDay hleading, Predicate.truth, Predicate.truth]
    simp only [Sql.Term.affinity?, Sql.Term.value, Sql.convertFor_none, hleading, hfirst, hsecond]
    constructor
    · rintro ⟨⟨e, rfl⟩, hlow, hhigh⟩
      rw [(hday e).2 rfl]
      simp [Sql.compareCells_day.1.1 hlow, Sql.compareCells_day.2.1 hhigh]
    · intro h
      obtain ⟨e, he, hrange⟩ := Option.any_eq_true _ _ |>.1 h
      obtain rfl := (hday e).1 he
      simp only [Bool.and_eq_true, decide_eq_true_eq] at hrange
      exact ⟨⟨e, rfl⟩, Sql.compareCells_day.1.2 hrange.1, Sql.compareCells_day.2.2 hrange.2⟩

/-- **Tests agree.** On a cell that fits the field, the compiled test is true iff the operand
accepts the recorded value. -/
theorem truth_predicate {operand : Operand} {f : Field} (hsuits : operand.suits f.type = true)
    (hfits : f.type.Fits (s.cell column))
    (haffinity : f.type = .number ∨ f.type = .boolean → (s.affinity column).isNumeric = true)
    (hbound : IsBound s bound operand.values) (hfound : IsFound s (s.cell column) operand) :
    (operand.predicate column bound).truth s = some true ↔
      operand.accepts (f.jsonOf (s.cell column)) = true := by
  have hplain (h : f.type ≠ .boolean) : f.jsonOf (s.cell column) = (s.cell column).toJson :=
    if_neg h
  have htext (h : f.type.isText = true) : f.type ≠ .boolean := by
    intro hb
    rw [hb] at h
    cases h
  cases operand with
  | text w => rw [hplain (htext hsuits), truth_text hsuits hfits hbound]
  | textSet items => rw [hplain (htext hsuits), truth_textSet hsuits hfits hbound]
  | pattern kind needle => rw [hplain (htext hsuits), truth_pattern hsuits hfits hbound hfound]
  | flag b =>
    have htype : f.type = .boolean := beq_iff_eq.1 hsuits
    rw [htype] at hfits
    rw [Field.jsonOf, if_pos htype, truth_flag hfits (haffinity (Or.inr htype)) hbound]
  | number comparison x =>
    have htype : f.type = .number := beq_iff_eq.1 hsuits
    rw [htype] at hfits
    rw [hplain (by rw [htype]; decide), truth_number hfits (haffinity (Or.inl htype)) hbound]
  | numberRange low high =>
    have htype : f.type = .number := beq_iff_eq.1 hsuits
    rw [htype] at hfits
    rw [hplain (by rw [htype]; decide), truth_numberRange hfits (haffinity (Or.inl htype)) hbound]
  | day d =>
    have htype : f.type = .date := beq_iff_eq.1 hsuits
    rw [htype] at hfits
    rw [hplain (by rw [htype]; decide), truth_day hfits hbound]
  | dayRange low high =>
    have htype : f.type = .date := beq_iff_eq.1 hsuits
    rw [htype] at hfits
    rw [hplain (by rw [htype]; decide), truth_dayRange hfits hbound]

end Operand
end BillingQuery
