import BillingQuery.Sql.Truth
import Mathlib.Tactic.SplitIfs

/-!
# Lists of texts as JSON

**Main result (`arrayItems?_texts`).** A list of texts, written as a JSON array and read back by the
store, is that list: whatever characters the texts have, and however long the list is.
-/

namespace BillingQuery

namespace Json

/-! ## Reading what is written -/

theorem hexValue?_digitChar {n : Nat} (h : n < 16) : hexValue? (Nat.digitChar n) = some n := by
  have hall : ∀ m < 16, hexValue? (Nat.digitChar m) = some m := by decide
  exact hall n h

theorem readString_cons {c : Char} {rest : List Char} (hquote : c ≠ '"') (hslash : c ≠ '\\')
    (hcontrol : ¬ c.toNat < 32) :
    readString (c :: rest) = (readString rest).map fun (s, r) => (c :: s, r) := by
  rw [readString]
  · rw [if_neg (by simp [hslash, hcontrol])]
  · exact hquote
  · intro a b c d rest' h
    exact absurd h hslash
  · intro c' rest' h
    exact absurd h hslash

theorem readString_escaped {c ch : Char} {rest : List Char} (h : escaped? c = some ch) :
    readString ('\\' :: c :: rest) = (readString rest).map fun (s, r) => (ch :: s, r) := by
  rw [readString]
  · rw [h]
    rfl
  · rintro a b d e rest' rfl
    cases h

theorem hex4?_digitChar {n : Nat} (h : n < 256) :
    hex4? '0' '0' (Nat.digitChar (n / 16)) (Nat.digitChar (n % 16)) = some n := by
  have hhigh := hexValue?_digitChar (n := n / 16) (by omega)
  have hlow := hexValue?_digitChar (n := n % 16) (by omega)
  have hzero : hexValue? '0' = some 0 := rfl
  have hsum : (0 * 16 + 0) * 256 + n / 16 * 16 + n % 16 = n := by omega
  simp only [hex4?, hzero, hhigh, hlow, Option.bind_eq_bind, Option.bind_some, hsum]
  rfl

theorem unitChar?_toNat {c : Char} (h : c.toNat < 0xd800) : unitChar? c.toNat = some c := by
  rw [unitChar?, if_neg (by simp; omega), Char.ofNat_toNat]

/-- A control is written as the number of its code. -/
theorem readString_unit {c : Char} {rest : List Char} (h : c.toNat < 32) :
    readString ('\\' :: 'u' :: '0' :: '0' :: Nat.digitChar (c.toNat / 16) ::
      Nat.digitChar (c.toNat % 16) :: rest) =
      (readString rest).map fun (s, r) => (c :: s, r) := by
  rw [readString, hex4?_digitChar (by omega)]
  simp only [Option.bind_some, unitChar?_toNat (c := c) (by omega)]

/-- What is written for a character is read as the character. -/
theorem readString_escapeChar (c : Char) (rest : List Char) :
    readString (escapeChar c ++ rest) = (readString rest).map fun (s, r) => (c :: s, r) := by
  have hcode {n : Nat} (hn : c.toNat = n) : c = Char.ofNat n := by
    rw [← hn, Char.ofNat_toNat]
  unfold escapeChar
  split_ifs with hquote hslash h8 h9 h10 h12 h13 hcontrol
  · subst hquote
    exact readString_escaped rfl
  · subst hslash
    exact readString_escaped rfl
  · obtain rfl := hcode h8
    exact readString_escaped rfl
  · obtain rfl := hcode h9
    exact readString_escaped rfl
  · obtain rfl := hcode h10
    exact readString_escaped rfl
  · obtain rfl := hcode h12
    exact readString_escaped rfl
  · obtain rfl := hcode h13
    exact readString_escaped rfl
  · exact readString_unit hcontrol
  · exact readString_cons hquote hslash hcontrol

/-- **Texts read back.** Whatever its characters, a text between quotes is read as it was. -/
theorem readString_flatMap (cs rest : List Char) :
    readString (cs.flatMap escapeChar ++ '"' :: rest) = some (cs, rest) := by
  induction cs with
  | nil => rfl
  | cons c cs ih => rw [List.flatMap_cons, List.append_assoc, readString_escapeChar, ih]; rfl

/-! ## Lists -/

theorem readValue_string (fuel depth : Nat) (parts : Parts) (s : String) (rest : List Char) :
    readValue (fuel + 1) depth parts (stringChars s ++ rest) = some (.string s, rest) := by
  have hspace : skipSpace (stringChars s ++ rest) = stringChars s ++ rest := rfl
  rw [readValue, hspace]
  simp [stringChars, readString_flatMap]

theorem chars_string (s : String) (rest : List Char) :
    chars (.string s) rest = stringChars s ++ rest := by rw [chars]

/-- Each item takes one unit of fuel, and its text another. -/
theorem readItems_texts (fuel depth : Nat) (s : String) (texts : List String) (rest : List Char)
    (hfuel : texts.length + 2 ≤ fuel) :
    readItems fuel depth .whole
        (chars (.string s) (itemChars (texts.map string) (']' :: rest))) =
      some ((s :: texts).map string, rest) := by
  induction texts generalizing s fuel with
  | nil =>
    obtain ⟨fuel, rfl⟩ : ∃ n, fuel = n + 2 := ⟨fuel - 2, by simp at hfuel; omega⟩
    rw [chars_string, readItems]
    simp [Parts.splitItem, readValue_string, itemChars, skipSpace, isSpace]
  | cons t texts ih =>
    obtain ⟨fuel, rfl⟩ : ∃ n, fuel = n + 2 := ⟨fuel - 2, by simp at hfuel; omega⟩
    have hrest := ih (fuel + 1) t (by simp at hfuel; omega)
    rw [chars_string, readItems]
    simp [Parts.splitItem, readValue_string, itemChars, skipSpace, isSpace, hrest]

theorem length_itemChars (texts : List String) (rest : List Char) :
    texts.length + rest.length ≤ (itemChars (texts.map string) rest).length := by
  induction texts with
  | nil => simp [itemChars]
  | cons t texts ih =>
    rw [List.map_cons, itemChars, chars_string]
    simp only [List.length_cons, List.length_append]
    omega

theorem chars_texts (t : String) (texts : List String) :
    chars (array ((t :: texts).map string)) [] =
      '[' :: chars (.string t) (itemChars (texts.map string) [']']) := by
  simp only [List.map_cons, chars]

theorem readValue_array (fuel depth : Nat) (parts : Parts) (cs : List Char) :
    readValue (fuel + 1) (depth + 1) parts ('[' :: '"' :: cs) =
      (readItems fuel depth parts ('"' :: cs)).map fun (js, r) => (.array js, r) := by
  rw [readValue]
  rfl

theorem readValue_texts (fuel depth : Nat) (texts : List String) (hfuel : texts.length + 2 ≤ fuel) :
    readValue fuel (depth + 1) .whole (chars (array (texts.map string)) []) =
      some (array (texts.map string), []) := by
  obtain ⟨fuel, rfl⟩ : ∃ n, fuel = n + 1 := ⟨fuel - 1, by omega⟩
  cases texts with
  | nil => rfl
  | cons t texts =>
    have hread := readItems_texts fuel depth t texts [] (by simp at hfuel; omega)
    rw [chars_string, stringChars, List.cons_append, List.cons_append] at hread
    rw [chars_texts, chars_string, stringChars, List.cons_append, List.cons_append,
      readValue_array, hread]
    rfl

/-- **Lists of texts read back.** -/
theorem read?_write_texts (texts : List String) {depth : Nat} (hdepth : 0 < depth) :
    read? depth (array (texts.map string)).write = some (array (texts.map string)) := by
  obtain ⟨depth, rfl⟩ : ∃ n, depth = n + 1 := ⟨depth - 1, by omega⟩
  have hlength : texts.length ≤ (chars (array (texts.map string)) []).length := by
    cases texts with
    | nil => exact Nat.zero_le _
    | cons t texts =>
      have hitems := length_itemChars texts [']']
      rw [chars_texts, chars_string]
      simp only [List.length_cons, List.length_append] at hitems ⊢
      omega
  rw [read?, readParts?, write, String.toList_ofList, readValue_texts _ depth texts (by omega)]
  rfl

end Json

namespace Sql

theorem itemCell_string (s : String) : itemCell (.string s) = .text s := rfl

/-- The store finds in the bound list the texts that it was made from. -/
theorem arrayItems?_texts (texts : List String) :
    arrayItems? (.text (Json.array (texts.map Json.string)).write) =
      some (texts.map Cell.text) := by
  rw [arrayItems?, Cell.asText?, Option.bind_some, Json.read?_write_texts texts (by decide)]
  simp only [List.map_map, Option.some.injEq]
  exact List.map_congr_left fun s _ => itemCell_string s

end Sql
end BillingQuery
