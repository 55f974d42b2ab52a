import BillingQuery.Proofs.Backends
import BillingQuery.Proofs.PlanForm
import BillingQuery.Store.Insertion
import Mathlib.Algebra.BigOperators.Group.List.Basic

/-!
# Tests on all stored texts

The store makes a text of whatever a cell holds, and so does the evaluator of what is recorded. The
two go separate ways: a real has 15 digits in the store and the fewest in a record, an infinity is
recorded as null, and bytes are read as UTF-8 in the store and recorded in hexadecimal.

**Main result (`Sql.Cell.textTests_agree_iff`).** All equality and membership tests agree on a cell
iff the two ways give one text (`Sql.Cell.HasOneText`), as they do for nulls, integers, texts, no
bytes at all and some reals. A pattern test then agrees as far as the engine finds, in the part
before the first NUL, what stands in the text (`Sql.FindsAlike`). For bytes the ways always part:
hexadecimal digits are twice as many, and UTF-8 has no more characters than bytes.
-/

namespace BillingQuery

open Sql (Cell Scope)

/-! ## The texts of a cell -/

theorem isLower_of_isNumberChar {s : String} (h : ∀ c ∈ s.toList, isNumberChar c = true) :
    Text.IsLower s := by
  intro c hc hupper
  have hnumber := h c hc
  simp only [isNumberChar, Bool.or_eq_true, beq_iff_eq] at hnumber
  rcases hnumber with (((hdigit | rfl) | rfl) | rfl) | rfl
  · simp only [Char.isDigit, Bool.and_eq_true, decide_eq_true_eq] at hdigit
    exact absurd (Nat.le_trans hupper.1 hdigit.2) (by decide)
  all_goals exact absurd hupper (by decide)

/-- Bytes are no fewer than the characters that they write. -/
theorem Text.length_le_of_ofUtf8? {bytes : List UInt8} {s : String}
    (h : ofUtf8? bytes = some s) : s.length ≤ bytes.length := by
  have hbytes : s.toByteArray = bytes.toByteArray := by
    unfold ofUtf8? String.fromUTF8? at h
    split_ifs at h with hvalid
    obtain rfl := Option.some.inj h
    rfl
  have hsizes : (s.toList.map Char.utf8Size).sum = bytes.length := by
    rw [← List.size_toByteArray, ← hbytes, ← String.utf8Encode_toList, List.utf8Encode,
      List.size_toByteArray, List.length_flatMap]
    simp only [String.length_utf8EncodeChar]
  rw [← hsizes, ← String.length_toList, ← List.length_map Char.utf8Size]
  refine List.length_le_sum_of_one_le _ fun size hsize => ?_
  obtain ⟨c, -, rfl⟩ := List.mem_map.1 hsize
  exact c.utf8Size_pos

namespace Sql

theorem isNumberChar_of_mem_realText {x : Binary64} {c : Char} (h : c ∈ (realText x).toList) :
    isNumberChar c = true := by
  rw [realText] at h
  refine DecimalLayout.isNumberChar_of_mem_render (fun d hd => ?_) h
  unfold writtenDigits at hd
  split_ifs at hd
  · rw [Decimal.zero, List.mem_singleton] at hd
    exact hd ▸ rfl
  · generalize atLargeScale (.ofBinary64 x) = scaled at hd
    exact Decimal.isNumberChar_of_mem_ofNat hd

theorem length_hexText (bytes : List UInt8) : (hexText bytes).length = 2 * bytes.length := by
  rw [hexText, String.length_ofList, List.length_flatMap]
  simp [Nat.mul_comm]

/-- What pattern matching sees of the text has the needle iff the text has. -/
def FindsAlike (seen : Char → Char) (kind : PatternKind) (needle text : String) : Prop :=
  kind.Places (needle.toList.map seen) (seenChars seen text) ↔
    kind.Places needle.toList text.toList

/-- It has in texts without NUL, where the engine tells the characters of the needle apart. -/
theorem TellsApart.findsAlike {seen : Char → Char} {needle text : String}
    (h : TellsApart seen needle text) (htext : Text.IsNulFree text) (kind : PatternKind) :
    FindsAlike seen kind needle text := by
  rw [FindsAlike, seenChars_of_isNulFree htext, places_map_iff (h.findsOnly kind),
    PatternKind.holds_iff]

namespace Cell

/-- The store and the record make one text of the cell, or none both. -/
def HasOneText : Cell → Prop
  | null | integer _ | text _ => True
  | real x => realText x = x.text
  | infinity _ => False
  | blob bytes => bytes = []

variable {c : Cell} {t : String}

/-- The store has folded the text that it makes. -/
theorem isLower_of_lower (h : c.lower = .text t) : Text.IsLower t := by
  obtain ⟨s, rfl⟩ : ∃ s, t = Text.fold s := by
    cases c with
    | null => cases h
    | integer n | real x | infinity negative | text s => exact ⟨_, (Cell.text.inj h).symm⟩
    | blob bytes =>
      rw [lower] at h
      split at h
      · exact ⟨_, (Cell.text.inj h).symm⟩
      · cases h
  exact Text.isLower_of_fold (Text.fold_fold s)

/-- What is recorded for bytes is a text that the store does not make of them. -/
theorem eq_nil_of_lower_blob {bytes : List UInt8} (h : (blob bytes).lower = .text t)
    (hrecord : (blob bytes).toJson.foldedText? = some t) : bytes = [] := by
  have hlength (s : String) : (Text.fold s).length = s.length := by
    rw [← String.length_toList, Text.toList_fold, List.length_map, String.length_toList]
  rw [lower] at h
  split at h
  case h_2 => cases h
  case h_1 s hs =>
    have hstored := Text.length_le_of_ofUtf8? hs
    have hboth : Text.fold (hexText bytes) = Text.fold s :=
      (Option.some.inj hrecord).trans (Cell.text.inj h).symm
    have hsame := congrArg String.length hboth
    rw [hlength, hlength, length_hexText] at hsame
    exact List.length_eq_zero_iff.1 (by omega)

/-- A cell has one text iff the store and the record give the same. -/
theorem hasOneText_iff :
    c.HasOneText ↔ ∀ t, c.lower = .text t ↔ c.toJson.foldedText? = some t := by
  have hboth (s u : String) : (∀ t, Cell.text s = .text t ↔ some u = some t) ↔ s = u := by
    simp only [Cell.text.injEq, Option.some.injEq]
    exact ⟨fun h => ((h s).1 rfl).symm, fun h t => by rw [h]⟩
  cases c with
  | null => exact iff_of_true trivial fun t => iff_of_false nofun nofun
  | integer n => exact iff_of_true trivial ((hboth _ _).2 rfl)
  | text s => exact iff_of_true trivial ((hboth _ _).2 rfl)
  | real x =>
    -- The one letter in either text of a real is `e`, so both are in lower case already.
    have hreal : Text.fold (realText x) = realText x :=
      Text.fold_of_isLower (isLower_of_isNumberChar fun _ => isNumberChar_of_mem_realText)
    have hjson : Text.fold x.text = x.text :=
      Text.fold_of_isLower (isLower_of_isNumberChar
        fun _ => @JsonNumber.isNumberChar_of_mem_text (.real x) _)
    refine Iff.trans ?_ (hboth (Text.fold (realText x)) (Text.fold x.text)).symm
    rw [hreal, hjson]
    rfl
  | infinity negative =>
    refine iff_of_false id fun h => ?_
    cases (h _).1 rfl
  | blob bytes =>
    constructor
    · rintro rfl
      exact (hboth "" "").2 rfl
    · intro h
      exact eq_nil_of_lower_blob ((h _).2 rfl) rfl

/-- The double `10^20` is "1.0e+20" in the store and "1e+20" in a record. -/
example : ¬ HasOneText
    (real ⟨false, 6103515625000000, 1088, by decide, by decide, Or.inr (by decide)⟩) := by
  unfold HasOneText
  decide +kernel

theorem HasOneText.cases (h : c.HasOneText) :
    c = .null ∨ ∃ t, c.lower = .text t ∧ c.toJson.foldedText? = some t := by
  have hsome {t : String} (ht : c.toJson.foldedText? = some t) :
      ∃ t, c.lower = .text t ∧ c.toJson.foldedText? = some t :=
    ⟨t, (hasOneText_iff.1 h t).2 ht, ht⟩
  cases c with
  | null => exact Or.inl rfl
  | integer n | real x | text s | blob bytes => exact Or.inr (hsome rfl)
  | infinity negative => exact h.elim

/-- A column for texts holds no numbers. -/
theorem hasOneText_store_text (given : Cell) :
    (given.store .text).HasOneText ↔ ∀ bytes, given.store .text = .blob bytes → bytes = [] := by
  cases given with
  | null | integer n | real x | infinity negative | text s => exact iff_of_true trivial nofun
  | blob bytes =>
    constructor
    · rintro h _ ⟨⟩
      exact h
    · exact fun h => h bytes rfl

end Cell

/-- A cell with values bound to the parameters. -/
def Scope.ofCell (seen : Char → Char) (c : Cell) (values : List Value) : Scope where
  affinity _ := .blob
  cell _ := c
  parameter n := (values[n - 1]?.map Value.cell).getD .null
  seen := seen

end Sql

/-! ## Agreement on a cell -/

namespace Operand

/-- Where the cell stands in a row, and the values of the operand are bound, the compiled test is
true iff the operand accepts what is recorded. -/
def AgreesOn (seen : Char → Char) (c : Cell) (operand : Operand) : Prop :=
  ∀ (s : Scope) (column : String) (bound : Nat), s.seen = seen → s.cell column = c →
    IsBound s bound operand.values →
    ((operand.predicate column bound).truth s = some true ↔ operand.accepts c.toJson = true)

/-- Equality with a text, or with one of some texts. -/
def IsEquality : Operand → Prop
  | text _ | textSet _ => True
  | _ => False

variable {seen : Char → Char} {c : Cell}

theorem isBound_ofCell (values : List Sql.Value) :
    IsBound (Scope.ofCell seen c values) 0 values := by
  intro i v hi
  have hindex : 0 + 1 + i - 1 = i := by omega
  show (values[0 + 1 + i - 1]?.map Sql.Value.cell).getD .null = v.cell
  rw [hindex, hi]
  rfl

/-- One place stands for all. -/
theorem agreesOn_iff {operand : Operand} {P : Prop}
    (h : ∀ (s : Scope) (column : String) (bound : Nat), s.seen = seen → s.cell column = c →
      IsBound s bound operand.values →
      ((operand.predicate column bound).truth s = some true ↔ P)) :
    operand.AgreesOn seen c ↔ (P ↔ operand.accepts c.toJson = true) := by
  constructor
  · intro hagrees
    have hbound := @isBound_ofCell seen c operand.values
    rw [← h _ "" 0 rfl rfl hbound]
    exact hagrees _ "" 0 rfl rfl hbound
  · intro hiff s column bound hseen hcell hbound
    rw [h s column bound hseen hcell hbound, hiff]

theorem agreesOn_text_iff {w : String} :
    (text w).AgreesOn seen c ↔ (c.lower = .text w ↔ c.toJson.foldedText? = some w) := by
  rw [← accepts_text_iff]
  refine agreesOn_iff fun s column bound _ hcell hbound => ?_
  rw [truth_text_iff hbound, hcell]

theorem agreesOn_textSet_iff {items : List String} :
    (textSet items).AgreesOn seen c ↔
      ((∃ w ∈ items, c.lower = .text w) ↔ ∃ w ∈ items, c.toJson.foldedText? = some w) := by
  rw [← accepts_textSet_iff]
  refine agreesOn_iff fun s column bound _ hcell hbound => ?_
  rw [truth_textSet_iff hbound, hcell]

/-- The needle is found in the text of the cell as far as the engine finds what stands there. -/
theorem agreesOn_pattern_iff {kind : PatternKind} {needle : String} (hseen : Sql.ReadsAscii seen)
    (hlower : Text.IsLower needle) (hnul : Text.IsNulFree needle) (h : c.HasOneText) :
    (pattern kind needle).AgreesOn seen c ↔
      ∀ t, c.toJson.foldedText? = some t → Sql.FindsAlike seen kind needle t := by
  rcases h.cases with rfl | ⟨t, hstored, hrecord⟩
  · -- Null is found nowhere.
    refine iff_of_true (fun s column bound _ hcell _ => iff_of_false ?_ nofun) nofun
    rw [predicate, Sql.Predicate.truth]
    simp [Sql.Term.value, hcell, Cell.lower, Cell.asText?, Cell.seenChars?]
  · have htruth (s : Scope) (column : String) (bound : Nat) (hs : s.seen = seen)
        (hcell : s.cell column = c) (hbound : IsBound s bound (pattern kind needle).values) :
        ((pattern kind needle).predicate column bound).truth s = some true ↔
          kind.Places (needle.toList.map seen) (Sql.seenChars seen t) := by
      subst hs hcell
      exact truth_pattern_iff hseen hnul (Text.fold_of_isLower hlower) hstored
        (Text.fold_of_isLower (Cell.isLower_of_lower hstored)) hbound
    have haccepts : (pattern kind needle).accepts c.toJson = true ↔
        kind.Places needle.toList t.toList := by
      rw [accepts, hrecord, Option.any_some, PatternKind.holds_iff]
    rw [agreesOn_iff htruth, haccepts, hrecord]
    constructor
    · rintro hfinds _ ⟨⟩
      exact hfinds
    · exact fun hfinds => hfinds t rfl

end Operand

/-- **Text tests.** All equality and membership tests agree on a cell iff it has one text; then the
tests of patterns agree as far as the engine finds what stands in the text. A column for texts holds
no cells with two but bytes. Bytes have two unless there are none, and any equality test that what
is recorded for them passes is failed in the store. -/
theorem Sql.Cell.textTests_agree_iff {seen : Char → Char} (hseen : Sql.ReadsAscii seen) (c : Cell) :
    ((∀ operand : Operand, operand.IsEquality → operand.IsReady → operand.AgreesOn seen c) ↔
        c.HasOneText) ∧
    (c.HasOneText → ∀ kind needle, Text.IsLower needle → Text.IsNulFree needle →
      ((Operand.pattern kind needle).AgreesOn seen c ↔
        ∀ t, c.toJson.foldedText? = some t → Sql.FindsAlike seen kind needle t)) ∧
    (∀ given : Cell, c = given.store .text →
      (c.HasOneText ↔ ∀ bytes, c = .blob bytes → bytes = [])) ∧
    ∀ bytes, c = .blob bytes → bytes ≠ [] → ∀ w,
      (Operand.text w).accepts c.toJson = true → ¬ (Operand.text w).AgreesOn seen c := by
  refine ⟨?_, fun h kind needle hlower hnul => Operand.agreesOn_pattern_iff hseen hlower hnul h, ?_,
    ?_⟩
  · rw [hasOneText_iff]
    constructor
    · intro hagree t
      have htext (hlower : Text.IsLower t) := Operand.agreesOn_text_iff.1
        (hagree (.text t) trivial hlower)
      constructor
      · exact fun hstored => (htext (isLower_of_lower hstored)).1 hstored
      · exact fun hrecord => (htext (Json.isLower_of_foldedText? hrecord)).2 hrecord
    · intro hsame operand hequality _
      cases operand with
      | text w => exact Operand.agreesOn_text_iff.2 (hsame w)
      | textSet items =>
        rw [Operand.agreesOn_textSet_iff]
        simp only [hsame]
      | pattern | flag | number | numberRange | day | dayRange => exact hequality.elim
  · rintro given rfl
    exact hasOneText_store_text given
  · rintro bytes rfl hne w haccepts hagrees
    have hrecord := Operand.accepts_text_iff.1 haccepts
    exact hne (eq_nil_of_lower_blob ((Operand.agreesOn_text_iff.1 hagrees).2 hrecord) hrecord)

/-! ## Bytes in a column for texts -/

/-- A client whose name is the bytes of a text. -/
def bytesClient : Row where
  cells := [("id", .integer 7), ("tenant_id", .text "t1"), ("name", .blob [0x61, 0x62, 0x63]),
    ("email", .null), ("status", .text "active"), ("plan", .null), ("monthly_value", .null),
    ("auto_renew", .integer 0), ("created_at", .text "2024-01-01"), ("tax_id", .null),
    ("internal_notes", .null)]

/-- The store takes it as it is. -/
example : Database.empty.insert "clients" bytesClient.cells =
    .ok { Database.empty with clients := [bytesClient] } := by
  decide +kernel

def nameCondition : Condition := .on "1" "name" "equals" (.string "abc")

/-- The store finds the text that the bytes write, and the evaluator does not. -/
theorem store_reads_bytes_as_text :
    FilterGroup.isTrueOn ⟨"root", .and, [.cond nameCondition]⟩ .clients "t1" Sql.seenChar
        bytesClient = true ∧
      FilterGroup.accepts ⟨"root", .and, [.cond nameCondition]⟩ Resource.clients.fields
        (Resource.clients.recordOf bytesClient) = false := by
  decide +kernel

theorem textTests_agree_iff_sample :
    (¬ ∀ operand : Operand, operand.IsEquality → operand.IsReady →
        operand.AgreesOn Sql.seenChar (.blob [0x61, 0x62, 0x63])) ∧
      (Operand.pattern .contains "corp").AgreesOn Sql.seenChar (.text "Acme Corp") := by
  constructor
  · have hbytes := Cell.textTests_agree_iff Sql.readsAscii_seenChar (.blob [0x61, 0x62, 0x63])
    exact fun hagree => absurd (hbytes.1.1 hagree) nofun
  · have htext := Cell.textTests_agree_iff Sql.readsAscii_seenChar (.text "Acme Corp")
    refine (htext.2.1 trivial .contains "corp" ?_ ?_).2 ?_
    · exact Text.isLower_of_fold (by decide)
    · decide
    · rintro t ⟨⟩
      have hneedle : ∀ c ∈ "corp".toList, Sql.isMerged c = false := by simp [Sql.isMerged]
      exact (Sql.tellsApart_seenChar hneedle _).findsAlike (by decide) .contains

end BillingQuery
