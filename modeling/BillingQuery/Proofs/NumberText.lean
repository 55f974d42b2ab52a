import BillingQuery.Json.Basic
import BillingQuery.Proofs.Text
import Mathlib.Tactic.SplitIfs

/-!
# Texts of numbers

**Main result (`JsonNumber.isNumberChar_of_mem_text`).** The text of a number has digits, signs, a
point and an exponent mark, and nothing else. In particular it has no NUL.
-/

namespace BillingQuery

/-- The characters in which numbers are written. -/
def isNumberChar (c : Char) : Bool := c.isDigit || c == '-' || c == '+' || c == '.' || c == 'e'

theorem isNumberChar_of_isDigit {c : Char} (h : c.isDigit = true) : isNumberChar c = true := by
  simp [isNumberChar, h]

theorem isNumberChar_of_mem_toDigits {n : Nat} {c : Char} (h : c ∈ Nat.toDigits 10 n) :
    isNumberChar c = true :=
  isNumberChar_of_isDigit (Nat.isDigit_of_mem_toDigits (by decide) (by decide) h)

theorem isNumberChar_of_mem_intText {n : Int} {c : Char} (h : c ∈ (intText n).toList) :
    isNumberChar c = true := by
  rw [intText, String.toList_ofList, Numeral.ofInt] at h
  split_ifs at h
  · rcases List.mem_cons.1 h with rfl | h
    · rfl
    · exact isNumberChar_of_mem_toDigits h
  · exact isNumberChar_of_mem_toDigits h

/-! ## Doubles -/

namespace Decimal

theorem isNumberChar_of_mem_ofNat {n : Nat} {k : Int} {c : Char} (h : c ∈ (ofNat n k).digits) :
    isNumberChar c = true := by
  simp only [ofNat, List.mem_reverse] at h
  exact isNumberChar_of_mem_toDigits (List.mem_reverse.1 ((List.dropWhile_sublist _).subset h))

theorem isNumberChar_of_mem_shortest {x : Binary64} {c : Char} (h : c ∈ (shortest x).digits) :
    isNumberChar c = true := by
  have hzero : ∀ c ∈ zero.digits, isNumberChar c = true := List.forall_mem_singleton.2 rfl
  unfold shortest at h
  split_ifs at h
  · exact hzero c h
  · dsimp only at h
    cases hfound : ((List.range 17).map fun i => pointOf x - (i + 1 : Nat)).findSome?
        fun k => (onGrid? x k).map fun n => ofNat n k with
    | none =>
      rw [hfound] at h
      exact hzero c h
    | some d =>
      rw [hfound] at h
      obtain ⟨k, -, hk⟩ := List.exists_of_findSome?_eq_some hfound
      obtain ⟨n, -, rfl⟩ := Option.map_eq_some_iff.1 hk
      exact isNumberChar_of_mem_ofNat h

end Decimal

namespace DecimalLayout

variable {d : Decimal} (hd : ∀ c ∈ d.digits, isNumberChar c = true)
include hd

theorem isNumberChar_of_mem_positional {c : Char} (h : c ∈ positional d) :
    isNumberChar c = true := by
  have hzeros {k : Nat} (hc : c ∈ List.replicate k '0') : isNumberChar c = true :=
    List.eq_of_mem_replicate hc ▸ rfl
  unfold positional at h
  split_ifs at h with hpoint
  · simp only [List.mem_cons, List.mem_append] at h
    rcases h with rfl | rfl | h | h
    · rfl
    · rfl
    · exact hzeros h
    · exact hd c h
  · simp only [List.mem_append, List.mem_cons] at h
    rcases h with (h | h) | rfl | h
    · exact hd c (List.mem_of_mem_take h)
    · exact hzeros h
    · rfl
    · split_ifs at h
      · rw [List.mem_singleton] at h
        exact h ▸ rfl
      · exact hd c (List.mem_of_mem_drop h)

theorem isNumberChar_of_mem_scientific {l : DecimalLayout} {c : Char} (h : c ∈ l.scientific d) :
    isNumberChar c = true := by
  simp only [scientific, List.mem_append, List.mem_cons] at h
  rcases h with (h | h) | rfl | h | h | h
  · exact hd c (List.mem_of_mem_take h)
  · split_ifs at h
    · simp only [List.mem_cons, List.not_mem_nil, or_false] at h
      rcases h with rfl | rfl <;> rfl
    · cases h
    · rcases List.mem_cons.1 h with rfl | h
      · rfl
      · exact hd c (List.mem_of_mem_drop h)
  · rfl
  · split_ifs at h <;> exact h ▸ rfl
  · exact List.eq_of_mem_replicate h ▸ rfl
  · exact isNumberChar_of_mem_toDigits h

theorem isNumberChar_of_mem_render {l : DecimalLayout} {negative : Bool} {c : Char}
    (h : c ∈ (l.render negative d).toList) : isNumberChar c = true := by
  have hbody : ∀ c ∈ (if l.leastPoint ≤ d.point && d.point ≤ l.greatestPoint then positional d
      else l.scientific d), isNumberChar c = true := by
    intro c hc
    split_ifs at hc
    · exact isNumberChar_of_mem_positional hd hc
    · exact isNumberChar_of_mem_scientific hd hc
  rw [render, String.toList_ofList] at h
  cases negative with
  | false => exact hbody c h
  | true =>
    rcases List.mem_cons.1 h with rfl | h
    · rfl
    · exact hbody c h

end DecimalLayout

/-- **Texts of numbers.** They have digits, signs, a point and an exponent mark alone. -/
theorem JsonNumber.isNumberChar_of_mem_text {n : JsonNumber} {c : Char} (h : c ∈ n.text.toList) :
    isNumberChar c = true := by
  cases n with
  | integer n => exact isNumberChar_of_mem_intText h
  | real x =>
    exact DecimalLayout.isNumberChar_of_mem_render
      (fun c => Decimal.isNumberChar_of_mem_shortest) h

theorem isNulFree_of_isNumberChar {s : String} (h : ∀ c ∈ s.toList, isNumberChar c = true) :
    Text.IsNulFree s := by
  intro hnul
  have := h _ hnul
  cases this

theorem isNulFree_intText (n : Int) : Text.IsNulFree (intText n) :=
  isNulFree_of_isNumberChar fun _ => isNumberChar_of_mem_intText

end BillingQuery
