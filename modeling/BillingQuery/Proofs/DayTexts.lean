import BillingQuery.Proofs.Chronology
import BillingQuery.Proofs.RowTests

/-!
# The day of a text

**Spelled days (`Day.IsSpelled`).** Ten characters spell a day if they are its year in four digits,
its month in two and its day of the month in two, with zeros in front and dashes between.

**Bytes (`Day.ofBytes?`).** A program that holds texts as UTF-8 takes their first ten bytes, if a
character ends there, and looks for digits and dashes among them. Bytes below 128 are characters, so
this gives what the first ten characters give (`Day.ofBytes?_utf8`).

**Main result (`Day.isReadOff`).** What a text says about its day, whoever reads it: the evaluator
by the calendar, the store by comparing the first ten characters. The order of these characters is
the order in time.
-/

namespace BillingQuery

/-! ## Zeros in front -/

/-- A number in decimal, with zeros in front up to a width. -/
def zeroPadded (width n : Nat) : List Char := (Nat.toDigits 10 n).leftpad width '0'

theorem Numeral.ofDigits_replicate_zero_append (count : Nat) (cs : List Char) :
    ofDigits (List.replicate count '0' ++ cs) = ofDigits cs := by
  induction count with
  | zero => rfl
  | succ count ih => exact ih

theorem zeroPadded_eq_padded {width n : Nat} (hwidth : 0 < width) (h : n < 10 ^ width) :
    zeroPadded width n = Day.padded width n := by
  have hdigits : (zeroPadded width n).all Char.isDigit = true := by
    have hten : (Nat.toDigits 10 n).all Char.isDigit = true :=
      List.all_eq_true.2 fun c hc => Nat.isDigit_of_mem_toDigits (by decide) (by decide) hc
    rw [zeroPadded, List.leftpad, List.all_append, hten, List.all_replicate]
    simp
  have hvalue : Numeral.ofDigits (zeroPadded width n) = n := by
    rw [zeroPadded, List.leftpad, Numeral.ofDigits_replicate_zero_append]
    exact Nat.ofDigitChars_eq_foldl.symm.trans Nat.ofDigitChars_ten_toDigits
  have hlength : (zeroPadded width n).length = width := by
    have hfits : (Nat.toDigits 10 n).length ≤ width :=
      (Nat.length_toDigits_le_iff (by decide) hwidth).2 h
    rw [zeroPadded, List.length_leftpad]
    omega
  calc zeroPadded width n
      = Day.padded (zeroPadded width n).length (Numeral.ofDigits (zeroPadded width n)) :=
        (Day.padded_ofDigits _ hdigits).symm
    _ = Day.padded width n := by rw [hlength, hvalue]

namespace Day

/-- The characters are a day of the calendar as `YYYY-MM-DD`. -/
structure IsSpelled (cs : List Char) (year month day : Nat) : Prop where
  year_le : year ≤ 9999
  month_bounds : 1 ≤ month ∧ month ≤ 12
  day_bounds : 1 ≤ day ∧ day ≤ daysInMonth year month
  eq : cs = zeroPadded 4 year ++ '-' :: zeroPadded 2 month ++ '-' :: zeroPadded 2 day

theorem isSpelled_chars (d : Day) : IsSpelled d.chars d.year d.month d.day where
  year_le := d.year_le
  month_bounds := d.month_bounds
  day_bounds := ⟨d.day_pos, d.day_le⟩
  eq := by
    have hmonth := d.month_bounds
    have hday := d.day_le_31
    rw [zeroPadded_eq_padded (by decide) (Nat.lt_succ_of_le d.year_le),
      zeroPadded_eq_padded (by decide) (by omega), zeroPadded_eq_padded (by decide) (by omega),
      chars]

theorem IsSpelled.exists_chars {cs : List Char} {year month day : Nat}
    (h : IsSpelled cs year month day) : ∃ d : Day, d.chars = cs := by
  let d : Day := ⟨year, month, day, h.year_le, h.day_bounds.1, h.day_bounds.2⟩
  exact ⟨d, d.isSpelled_chars.eq.trans h.eq.symm⟩

theorem ofLeading?_eq_some_iff_take {cs : List Char} {d : Day} :
    ofLeading? cs = some d ↔ d.chars = cs.take 10 := by
  rw [ofLeading?_eq_some, List.prefix_iff_eq_take, length_chars]

end Day

/-! ## Bytes -/

namespace Text

/-- The bytes of a text in UTF-8. -/
def utf8 (cs : List Char) : List UInt8 := cs.flatMap String.utf8EncodeChar

theorem toList_toByteArray (s : String) : s.toByteArray.data.toList = utf8 s.toList := by
  rw [← String.utf8Encode_toList, List.utf8Encode, utf8]
  simp

/-- Whether a character starts at this place, or the bytes end there. -/
def isBoundary (bytes : List UInt8) (place : Nat) : Bool :=
  match bytes[place]? with
  | some b => !isContinuation b
  | none => place == bytes.length

theorem toNat_toUInt8 {c : Char} (h : c.toNat < 128) : c.toUInt8.toNat = c.toNat := by
  have hbyte : c.toUInt8.toNat = c.toNat % 256 := UInt32.toNat_toUInt8 c.val
  omega

theorem byteChar_toUInt8 {c : Char} (h : c.toNat < 128) : byteChar c.toUInt8 = c := by
  rw [byteChar, toNat_toUInt8 h, Char.ofNat_toNat]

theorem utf8EncodeChar_of_ascii {c : Char} (h : c.toNat < 128) :
    String.utf8EncodeChar c = [c.toUInt8] := by
  have hsize : c.utf8Size = 1 := Char.utf8Size_eq_one_iff.2 (Nat.le_of_lt_succ h)
  rw [String.utf8EncodeChar_eq_singleton hsize, Char.toUInt8_val]

/-- The first byte of a longer character is neither ASCII nor the continuation of another. -/
theorem exists_utf8EncodeChar_of_not_ascii {c : Char} (h : ¬ c.toNat < 128) :
    ∃ b bytes, String.utf8EncodeChar c = b :: bytes ∧ 192 ≤ b.toNat := by
  have hvalue : ¬ c.val.toNat ≤ 127 := fun hle => h (Nat.lt_succ_of_le hle)
  unfold String.utf8EncodeChar
  simp only [if_neg hvalue]
  split_ifs
  · exact ⟨_, _, rfl, by rw [UInt8.toNat_ofNat']; omega⟩
  · exact ⟨_, _, rfl, by rw [UInt8.toNat_ofNat']; omega⟩
  · exact ⟨_, _, rfl, by rw [UInt8.toNat_ofNat']; omega⟩

theorem utf8_append_of_ascii {cs rest : List Char} (h : ∀ c ∈ cs, c.toNat < 128) :
    utf8 (cs ++ rest) = cs.map Char.toUInt8 ++ utf8 rest := by
  induction cs with
  | nil => rfl
  | cons c cs ih =>
    have hc : c.toNat < 128 := h c List.mem_cons_self
    have hrest := ih fun d hd => h d (List.mem_cons_of_mem c hd)
    show String.utf8EncodeChar c ++ utf8 (cs ++ rest) = _
    rw [utf8EncodeChar_of_ascii hc, hrest]
    rfl

/-- A text starts with a character. -/
theorem isBoundary_utf8 (before : List UInt8) (cs : List Char) :
    isBoundary (before ++ utf8 cs) before.length = true := by
  cases cs with
  | nil => simp [isBoundary, utf8]
  | cons c cs =>
    have hfirst : ∃ b bytes, String.utf8EncodeChar c = b :: bytes ∧ isContinuation b = false := by
      by_cases hc : c.toNat < 128
      · refine ⟨c.toUInt8, [], utf8EncodeChar_of_ascii hc, ?_⟩
        simp [isContinuation, UInt8.le_iff_toNat_le, toNat_toUInt8 hc, hc]
      · obtain ⟨b, bytes, hbytes, hb⟩ := exists_utf8EncodeChar_of_not_ascii hc
        refine ⟨b, bytes, hbytes, ?_⟩
        simp [isContinuation, UInt8.lt_iff_toNat_lt, hb]
    obtain ⟨b, bytes, hbytes, hb⟩ := hfirst
    simp [isBoundary, utf8, hbytes, hb]

/-- Bytes below 128 at the start of a text are its first characters. -/
theorem take_utf8 (n : Nat) {cs : List Char} (hlength : n ≤ (utf8 cs).length)
    (hascii : ∀ b ∈ (utf8 cs).take n, b.toNat < 128) :
    ((utf8 cs).take n).map byteChar = cs.take n := by
  induction n generalizing cs with
  | zero => rfl
  | succ n ih =>
    cases cs with
    | nil => cases hlength
    | cons c cs =>
      by_cases hc : c.toNat < 128
      · have hcons : utf8 (c :: cs) = c.toUInt8 :: utf8 cs := by
          show String.utf8EncodeChar c ++ utf8 cs = _
          rw [utf8EncodeChar_of_ascii hc, List.singleton_append]
        rw [hcons] at hlength hascii ⊢
        rw [List.take_succ_cons] at hascii ⊢
        have hrest := ih (Nat.le_of_succ_le_succ hlength) fun b hb =>
          hascii b (List.mem_cons_of_mem _ hb)
        rw [List.map_cons, hrest, byteChar_toUInt8 hc, List.take_succ_cons]
      · obtain ⟨b, bytes, hbytes, hb⟩ := exists_utf8EncodeChar_of_not_ascii hc
        have hcons : utf8 (c :: cs) = b :: (bytes ++ utf8 cs) := by
          show String.utf8EncodeChar c ++ utf8 cs = _
          rw [hbytes, List.cons_append]
        rw [hcons, List.take_succ_cons] at hascii
        have := hascii b List.mem_cons_self
        omega

end Text

namespace Day

open Text (utf8 isBoundary byteChar)

/-- What stands at a place in `YYYY-MM-DD`: a dash or a digit. -/
def isByteAt : UInt8 × Nat → Bool
  | (b, place) => if place = 4 || place = 7 then b == 45 else 48 ≤ b && b ≤ 57

/-- The day that the first ten bytes name, if a character ends there. -/
def ofBytes? (bytes : List UInt8) : Option Day :=
  if isBoundary bytes 10 && (bytes.take 10).zipIdx.all isByteAt then
    ofLeading? ((bytes.take 10).map byteChar)
  else none

theorem lt_of_isByteAt {b : UInt8} {place : Nat} (h : isByteAt (b, place) = true) :
    b.toNat < 128 := by
  simp only [isByteAt] at h
  split_ifs at h
  · rw [beq_iff_eq.1 h]
    decide
  · rw [Bool.and_eq_true, decide_eq_true_eq, decide_eq_true_eq, UInt8.le_iff_toNat_le,
      UInt8.le_iff_toNat_le] at h
    exact Nat.lt_of_le_of_lt h.2 (by decide)

theorem length_of_isBoundary {bytes : List UInt8} {place : Nat}
    (h : isBoundary bytes place = true) : place ≤ bytes.length := by
  unfold isBoundary at h
  split at h
  · next b hb => exact Nat.le_of_lt (List.getElem?_eq_some_iff.1 hb).1
  · exact Nat.le_of_eq (beq_iff_eq.1 h)

theorem isByteAt_chars (d : Day) : (d.chars.map Char.toUInt8).zipIdx.all isByteAt = true := by
  have hdigit (n place : Nat) (hplace : place ≠ 4 ∧ place ≠ 7) :
      isByteAt ((Nat.digitChar (n % 10)).toUInt8, place) = true := by
    have hall : ∀ a < 10, 48 ≤ (Nat.digitChar a).toUInt8 ∧ (Nat.digitChar a).toUInt8 ≤ 57 := by
      decide
    simp [isByteAt, hplace, hall (n % 10) (Nat.mod_lt n (by decide))]
  have hdash : isByteAt ('-'.toUInt8, 4) = true ∧ isByteAt ('-'.toUInt8, 7) = true := by decide
  simp [chars, padded, hdigit, hdash]

theorem ascii_of_mem_chars {d : Day} {c : Char} (h : c ∈ d.chars) : c.toNat < 128 := by
  have hdigit {width n : Nat} (hc : c ∈ padded width n) : c.toNat < 128 := by
    have := isDigit_iff.1 (isDigit_of_mem_padded hc)
    omega
  simp only [chars, List.cons_append, List.append_assoc, List.mem_append, List.mem_cons] at h
  rcases h with h | rfl | h | rfl | h
  · exact hdigit h
  · decide
  · exact hdigit h
  · decide
  · exact hdigit h

/-- **Bytes say what characters say.** -/
theorem ofBytes?_utf8 (cs : List Char) : ofBytes? (utf8 cs) = ofLeading? cs := by
  unfold ofBytes?
  by_cases hform : (isBoundary (utf8 cs) 10 && ((utf8 cs).take 10).zipIdx.all isByteAt) = true
  · rw [if_pos hform]
    rw [Bool.and_eq_true, List.all_eq_true] at hform
    obtain ⟨hboundary, hplaces⟩ := hform
    have hascii : ∀ b ∈ (utf8 cs).take 10, b.toNat < 128 := by
      intro b hb
      obtain ⟨place, hplace, rfl⟩ := List.getElem_of_mem hb
      exact lt_of_isByteAt (hplaces _ (List.mk_mem_zipIdx_iff_getElem?.2
        (List.getElem?_eq_getElem hplace)))
    rw [Text.take_utf8 10 (length_of_isBoundary hboundary) hascii]
    apply Option.ext
    intro d
    rw [ofLeading?_eq_some_iff_take, ofLeading?_eq_some_iff_take, List.take_take, Nat.min_self]
  · rw [if_neg hform]
    -- Were there a day at the start, its characters would be the first ten bytes.
    cases hday : ofLeading? cs with
    | none => rfl
    | some d =>
      obtain ⟨rest, rfl⟩ := ofLeading?_eq_some.1 hday
      have hlength : (d.chars.map Char.toUInt8).length = 10 := by
        rw [List.length_map, length_chars]
      rw [Text.utf8_append_of_ascii fun c hc => ascii_of_mem_chars hc] at hform
      have hboundary := Text.isBoundary_utf8 (d.chars.map Char.toUInt8) rest
      rw [hlength] at hboundary
      rw [hboundary, List.take_left' hlength, isByteAt_chars] at hform
      cases hform rfl

/-! ## What a text says -/

/-- The day of a text is told by its first ten characters. -/
structure IsReadOff (text : String) : Prop where
  /-- There is one iff these characters spell one. -/
  named : (Json.string text).toDay?.isSome = true ↔
    ∃ year month day, IsSpelled (text.toList.take 10) year month day
  /-- It is the one whose text they are. -/
  formatted : ∀ d : Day, (Json.string text).toDay? = some d ↔ d.text.toList = text.toList.take 10
  /-- It is read off the bytes of the text as well. -/
  onBytes : ofBytes? text.toByteArray.data.toList = (Json.string text).toDay?
  /-- The characters of the earlier day come first, and so does the day. -/
  chronological : ∀ (other : String) (d e : Day), (Json.string text).toDay? = some d →
    (Json.string other).toDay? = some e →
    (text.toList.take 10 < other.toList.take 10 ↔ d.number < e.number) ∧
      (d < e ↔ d.number < e.number)
  /-- The guard of a range holds of a row that has the text iff there is a day. -/
  guarded : ∀ (s : Sql.Scope) (column : String), s.cell column = .text text →
    ((Operand.isDay (.column column)).truth s = some true ↔
      (Json.string text).toDay?.isSome = true)
  /-- Equality with a bound day. -/
  compiledDay : ∀ (s : Sql.Scope) (column : String) (bound : Nat) (d : Day),
    s.cell column = .text text → Operand.IsBound s bound (Operand.day d).values →
    (((Operand.day d).predicate column bound).truth s = some true ↔
      (Operand.day d).accepts (.string text) = true)
  /-- A range between two bound days. -/
  compiledRange : ∀ (s : Sql.Scope) (column : String) (bound : Nat) (low high : Day),
    s.cell column = .text text → Operand.IsBound s bound (Operand.dayRange low high).values →
    (((Operand.dayRange low high).predicate column bound).truth s = some true ↔
      (Operand.dayRange low high).accepts (.string text) = true)

theorem toDay?_eq_some_iff {text : String} {d : Day} :
    (Json.string text).toDay? = some d ↔ d.text.toList = text.toList.take 10 := by
  rw [Day.text, String.toList_ofList]
  exact ofLeading?_eq_some_iff_take

theorem toDay?_isSome_iff {text : String} :
    (Json.string text).toDay?.isSome = true ↔
      ∃ year month day, IsSpelled (text.toList.take 10) year month day := by
  rw [Option.isSome_iff_exists]
  constructor
  · intro h
    obtain ⟨d, hd⟩ := h
    rw [← ofLeading?_eq_some_iff_take.1 hd]
    exact ⟨d.year, d.month, d.day, d.isSpelled_chars⟩
  · intro h
    obtain ⟨year, month, day, hspelled⟩ := h
    obtain ⟨d, hd⟩ := hspelled.exists_chars
    exact ⟨d, ofLeading?_eq_some_iff_take.2 hd⟩

theorem truth_isDay_iff {s : Sql.Scope} {column text : String}
    (hcell : s.cell column = .text text) :
    (Operand.isDay (.column column)).truth s = some true ↔
      (Json.string text).toDay?.isSome = true := by
  have hleading : (s.cell column).leading 10 = .text (Sql.Cell.leadingText text) := by
    rw [hcell, Sql.Cell.leading_text]
  rw [Operand.truth_isDay hleading, Option.isSome_iff_exists]
  apply exists_congr
  intro d
  rw [eq_comm]
  exact Sql.Cell.ofLeading?_eq_some_iff.symm

/-- **The day of a text**, for texts of every length and script, whether or not they name one. -/
theorem isReadOff (text : String) : IsReadOff text where
  named := toDay?_isSome_iff
  formatted d := toDay?_eq_some_iff
  onBytes := by
    rw [Text.toList_toByteArray, ofBytes?_utf8]
    rfl
  chronological := by
    intro other d e hd he
    rw [toDay?_eq_some_iff] at hd he
    rw [← hd, ← he, text_lt_text, number_lt_number]
    exact ⟨Iff.rfl, Iff.rfl⟩
  guarded s column hcell := truth_isDay_iff hcell
  compiledDay := by
    intro s column bound d hcell hbound
    have hfits : FieldType.date.Fits (s.cell column) := Or.inr ⟨text, hcell⟩
    rw [Operand.truth_day hfits hbound, hcell]
    rfl
  compiledRange := by
    intro s column bound low high hcell hbound
    have hfits : FieldType.date.Fits (s.cell column) := Or.inr ⟨text, hcell⟩
    rw [Operand.truth_dayRange hfits hbound, hcell]
    rfl

/-- A row with a timestamp on a leap day, and two days bound. -/
def sampleLeapDay : Sql.Scope where
  affinity _ := .text
  cell _ := .text "2024-02-29T23:59:59Z"
  parameter n := .text (if n = 1 then "2024-02-28" else "2024-02-29")
  seen := id

theorem isReadOff_sample :
    ∃ low high : Day, Operand.IsBound sampleLeapDay 0 (Operand.dayRange low high).values ∧
      ((Operand.dayRange low high).predicate "created_at" 0).truth sampleLeapDay = some true := by
  let low : Day := ⟨2024, 2, 28, by decide, by decide, by decide⟩
  let high : Day := ⟨2024, 2, 29, by decide, by decide, by decide⟩
  have hbound : Operand.IsBound sampleLeapDay 0 (Operand.dayRange low high).values := by
    intro i v hi
    match i with
    | 0 =>
      obtain rfl := Option.some.inj hi
      decide
    | 1 =>
      obtain rfl := Option.some.inj hi
      decide
  have haccepts : (Operand.dayRange low high).accepts (.string "2024-02-29T23:59:59Z") = true := by
    decide
  exact ⟨low, high, hbound, (isReadOff "2024-02-29T23:59:59Z").compiledRange sampleLeapDay
    "created_at" 0 low high rfl hbound |>.2 haccepts⟩

/-- Year 0 has a leap day, 2023 has none, and a character of two bytes may not be cut. -/
example : (Json.string "0000-02-29é").toDay?.map number = some 60 ∧
    (Json.string "2023-02-29").toDay? = none ∧
    ofBytes? "2024-01-1é".toByteArray.data.toList = none := by decide

end Day
end BillingQuery
