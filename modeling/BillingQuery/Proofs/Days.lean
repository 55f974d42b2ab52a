import BillingQuery.Calendar.Day
import Mathlib.Data.List.Induction
import Mathlib.Tactic.SplitIfs

/-!
# Days as texts

**Main results (`ofLeading?_eq_some`, `text_lt_text`).** A text names a day iff it starts with the
ten characters of that day, and the texts of days are ordered as the days are. So a store that
compares the first ten characters of its texts compares days.
-/

namespace BillingQuery

/-! ## Digits -/

theorem digitChar_lt_digitChar {m n : Nat} (hm : m < 10) (hn : n < 10) :
    Nat.digitChar m < Nat.digitChar n ↔ m < n := by
  have hall : ∀ a < 10, ∀ b < 10, (Nat.digitChar a < Nat.digitChar b ↔ a < b) := by decide
  exact hall m hm n hn

theorem Numeral.digitValue_digitChar {n : Nat} (hn : n < 10) :
    digitValue (Nat.digitChar n) = n := by
  have hall : ∀ a < 10, digitValue (Nat.digitChar a) = a := by decide
  exact hall n hn

theorem isDigit_iff {c : Char} : c.isDigit = true ↔ 48 ≤ c.toNat ∧ c.toNat ≤ 57 := by
  simp only [Char.isDigit, Bool.and_eq_true, decide_eq_true_eq, ge_iff_le]
  rfl

theorem Numeral.digitValue_lt {c : Char} (h : c.isDigit = true) : digitValue c < 10 := by
  have := isDigit_iff.1 h
  unfold digitValue
  omega

theorem Numeral.digitChar_digitValue {c : Char} (h : c.isDigit = true) :
    Nat.digitChar (digitValue c) = c := by
  have hrange := isDigit_iff.1 h
  have hall : ∀ n < 10, Nat.digitChar n = Char.ofNat (n + 48) := by decide
  rw [hall _ (digitValue_lt h), digitValue, Nat.sub_add_cancel hrange.1, Char.ofNat_toNat]

theorem Numeral.ofDigits_append_singleton (cs : List Char) (c : Char) :
    ofDigits (cs ++ [c]) = 10 * ofDigits cs + digitValue c := by
  rw [ofDigits, List.foldl_append]
  rfl

namespace Day

/-! ## Digits of a fixed width -/

@[simp] theorem length_padded (width n : Nat) : (padded width n).length = width := by
  induction width generalizing n with
  | zero => rfl
  | succ width ih => rw [padded, List.length_append, ih, List.length_singleton]

theorem isDigit_of_mem_padded {width n : Nat} {c : Char} (h : c ∈ padded width n) :
    c.isDigit = true := by
  induction width generalizing n with
  | zero => cases h
  | succ width ih =>
    rw [padded, List.mem_append, List.mem_singleton] at h
    rcases h with h | rfl
    · exact ih h
    · rw [Nat.isDigit_digitChar]
      exact decide_eq_true (Nat.mod_lt n (by decide))

theorem ofDigits_padded {width n : Nat} (h : n < 10 ^ width) :
    Numeral.ofDigits (padded width n) = n := by
  induction width generalizing n with
  | zero =>
    obtain rfl : n = 0 := by simpa using h
    rfl
  | succ width ih =>
    have hdiv : n / 10 < 10 ^ width := Nat.div_lt_of_lt_mul (by rwa [Nat.mul_comm, ← Nat.pow_succ])
    rw [padded, Numeral.ofDigits_append_singleton, ih hdiv,
      Numeral.digitValue_digitChar (Nat.mod_lt n (by decide))]
    omega

theorem padded_ofDigits (cs : List Char) (h : cs.all Char.isDigit = true) :
    padded cs.length (Numeral.ofDigits cs) = cs := by
  -- The last digit is the one that `padded` writes first, so the list is taken from its end.
  induction cs using List.reverseRecOn with
  | nil => rfl
  | append_singleton cs c ih =>
    rw [List.all_append, Bool.and_eq_true] at h
    have hc : c.isDigit = true := by simpa using h.2
    have hlt := Numeral.digitValue_lt hc
    have hdiv : (10 * Numeral.ofDigits cs + Numeral.digitValue c) / 10 = Numeral.ofDigits cs := by
      omega
    have hmod : (10 * Numeral.ofDigits cs + Numeral.digitValue c) % 10 = Numeral.digitValue c := by
      omega
    rw [List.length_append, List.length_singleton, Numeral.ofDigits_append_singleton, padded, hdiv,
      hmod, ih h.1, Numeral.digitChar_digitValue hc]

/-! ## The order of texts -/

/-- Lists of one length are compared before what follows them. -/
theorem append_lt_append {xs ys us vs : List Char} (h : xs.length = ys.length) :
    xs ++ us < ys ++ vs ↔ xs < ys ∨ xs = ys ∧ us < vs := by
  induction xs generalizing ys with
  | nil =>
    obtain rfl : ys = [] := List.length_eq_zero_iff.1 h.symm
    simp
  | cons x xs ih =>
    cases ys with
    | nil => cases h
    | cons y ys =>
      simp only [List.cons_append, List.cons_lt_cons_iff, ih (Nat.succ.inj h), List.cons.injEq]
      grind

theorem padded_lt_padded {width m n : Nat} (hm : m < 10 ^ width) (hn : n < 10 ^ width) :
    padded width m < padded width n ↔ m < n := by
  induction width generalizing m n with
  | zero => simp_all
  | succ width ih =>
    rw [Nat.pow_succ] at hm hn
    have hdm : m / 10 < 10 ^ width := by omega
    have hdn : n / 10 < 10 ^ width := by omega
    have heq : padded width (m / 10) = padded width (n / 10) ↔ m / 10 = n / 10 := by
      constructor
      · intro h
        rw [← ofDigits_padded hdm, h, ofDigits_padded hdn]
      · intro h
        rw [h]
    have hlast : [Nat.digitChar (m % 10)] < [Nat.digitChar (n % 10)] ↔ m % 10 < n % 10 := by
      rw [List.cons_lt_cons_iff,
        digitChar_lt_digitChar (Nat.mod_lt m (by decide)) (Nat.mod_lt n (by decide))]
      simp
    rw [padded, padded, append_lt_append (by simp), ih hdm hdn, heq, hlast]
    omega

/-! ## The parts of a day -/

theorem month_bounds (d : Day) : 1 ≤ d.month ∧ d.month ≤ 12 := by
  have hpos : 0 < daysInMonth d.year d.month := Nat.lt_of_lt_of_le d.day_pos d.day_le
  unfold daysInMonth at hpos
  split at hpos <;> omega

theorem daysInMonth_le (year month : Nat) : daysInMonth year month ≤ 31 := by
  unfold daysInMonth
  split <;> first | omega | (split_ifs <;> omega)

theorem day_le_31 (d : Day) : d.day ≤ 31 := Nat.le_trans d.day_le (daysInMonth_le _ _)

theorem not_lt {d e : Day} : ¬ d < e ↔ e ≤ d := Nat.not_lt

theorem key_injective {d e : Day} (h : d.key = e.key) : d = e := by
  have hd := d.day_le_31
  have he := e.day_le_31
  have hdm := d.month_bounds
  have hem := e.month_bounds
  obtain ⟨year, month, day, _, _, _⟩ := d
  obtain ⟨year', month', day', _, _, _⟩ := e
  simp only [key] at h hd he hdm hem
  obtain rfl : year = year' := by omega
  obtain rfl : month = month' := by omega
  obtain rfl : day = day' := by omega
  rfl

@[simp] theorem length_chars (d : Day) : d.chars.length = 10 := by simp [chars]

theorem chars_lt_chars {d e : Day} : d.chars < e.chars ↔ d.key < e.key := by
  have hy : d.year < 10 ^ 4 := Nat.lt_succ_of_le d.year_le
  have hy' : e.year < 10 ^ 4 := Nat.lt_succ_of_le e.year_le
  have hm := d.month_bounds
  have hm' := e.month_bounds
  have hd := d.day_le_31
  have hd' := e.day_le_31
  have heq {width m n : Nat} (hm : m < 10 ^ width) (hn : n < 10 ^ width) :
      padded width m = padded width n ↔ m = n := by
    constructor
    · intro h
      rw [← ofDigits_padded hm, h, ofDigits_padded hn]
    · intro h
      rw [h]
  have hdash {us vs : List Char} : '-' :: us < '-' :: vs ↔ us < vs := by
    simp
  have hmonth : d.month < 10 ^ 2 := by omega
  have hmonth' : e.month < 10 ^ 2 := by omega
  have hday : d.day < 10 ^ 2 := by omega
  have hday' : e.day < 10 ^ 2 := by omega
  rw [chars, chars, List.append_assoc, List.append_assoc, append_lt_append (by simp),
    padded_lt_padded hy hy', heq hy hy', List.cons_append, List.cons_append, hdash,
    append_lt_append (by simp), padded_lt_padded hmonth hmonth', heq hmonth hmonth', hdash,
    padded_lt_padded hday hday', key, key]
  omega

/-- **Texts of days are ordered as days.** -/
theorem text_lt_text {d e : Day} : d.text.toList < e.text.toList ↔ d < e := by
  rw [text, text, String.toList_ofList, String.toList_ofList]
  exact chars_lt_chars

/-! ## Reading a day -/

theorem leadingParts?_chars (d : Day) (rest : List Char) :
    leadingParts? (d.chars ++ rest) = some (d.year, d.month, d.day) := by
  have hyear : Numeral.ofDigits (padded 4 d.year) = d.year :=
    ofDigits_padded (Nat.lt_succ_of_le d.year_le)
  have hmonth : Numeral.ofDigits (padded 2 d.month) = d.month :=
    ofDigits_padded (by have := d.month_bounds; omega)
  have hday : Numeral.ofDigits (padded 2 d.day) = d.day :=
    ofDigits_padded (by have := d.day_le_31; omega)
  have hdigit (n : Nat) : (Nat.digitChar (n % 10)).isDigit = true := by
    rw [Nat.isDigit_digitChar]
    exact decide_eq_true (Nat.mod_lt n (by decide))
  simp only [padded, List.nil_append, List.cons_append] at hyear hmonth hday
  simp [chars, padded, leadingParts?, hdigit, hyear, hmonth, hday]

theorem ofParts?_self (d : Day) : ofParts? d.year d.month d.day = some d := by
  rw [ofParts?, dif_pos ⟨d.year_le, d.day_pos, d.day_le⟩]

theorem rollOver?_self (d : Day) : rollOver? d.year d.month d.day = some d := by
  have hday := d.day_le_31
  have hlast := d.day_le
  rw [rollOver?, if_neg (by omega), if_neg (by simp; omega), ofParts?_self]

theorem parts_of_ofParts? {year month day : Nat} {d : Day} (h : ofParts? year month day = some d) :
    d.year = year ∧ d.month = month ∧ d.day = day := by
  unfold ofParts? at h
  split_ifs at h
  obtain rfl := Option.some.inj h
  exact ⟨rfl, rfl, rfl⟩

/-- Eight digits and two dashes are the text of the parts that they write. -/
theorem exists_of_leadingParts? {cs : List Char} {year month day : Nat}
    (h : leadingParts? cs = some (year, month, day)) :
    ∃ rest, cs = padded 4 year ++ '-' :: padded 2 month ++ '-' :: padded 2 day ++ rest := by
  unfold leadingParts? at h
  split at h
  · next y₁ y₂ y₃ y₄ m₁ m₂ d₁ d₂ rest =>
    split_ifs at h with hdigits
    simp only [Option.some.injEq, Prod.mk.injEq] at h
    obtain ⟨rfl, rfl, rfl⟩ := h
    have hyear : padded 4 (Numeral.ofDigits [y₁, y₂, y₃, y₄]) = [y₁, y₂, y₃, y₄] :=
      padded_ofDigits [y₁, y₂, y₃, y₄] (by simp_all)
    have hmonth : padded 2 (Numeral.ofDigits [m₁, m₂]) = [m₁, m₂] :=
      padded_ofDigits [m₁, m₂] (by simp_all)
    have hday : padded 2 (Numeral.ofDigits [d₁, d₂]) = [d₁, d₂] :=
      padded_ofDigits [d₁, d₂] (by simp_all)
    exact ⟨rest, by rw [hyear, hmonth, hday]; rfl⟩
  · cases h

/-- **Naming a day.** A text names a day iff it starts with the text of that day. -/
theorem ofLeading?_eq_some {cs : List Char} {d : Day} :
    ofLeading? cs = some d ↔ d.chars <+: cs := by
  constructor
  · intro h
    obtain ⟨⟨year, month, day⟩, hparts, hd⟩ := Option.bind_eq_some_iff.1 h
    obtain ⟨rest, rfl⟩ := exists_of_leadingParts? hparts
    obtain ⟨rfl, rfl, rfl⟩ := parts_of_ofParts? hd
    exact d.chars.prefix_append rest
  · rintro ⟨rest, rfl⟩
    show (leadingParts? (d.chars ++ rest)).bind _ = some d
    rw [leadingParts?_chars]
    exact ofParts?_self d

theorem nul_notMem_chars (d : Day) : '\x00' ∉ d.chars := by
  have hpadded (width n : Nat) : '\x00' ∉ padded width n := fun h => by
    have := isDigit_of_mem_padded h
    cases this
  simp [chars, hpadded]

end Day
end BillingQuery
