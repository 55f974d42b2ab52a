import BillingQuery.Proofs.OneOf
import BillingQuery.Proofs.PlanForm
import Mathlib.Data.List.Basic

/-!
# Lists of texts in normal form

A value that names texts is brought into a list in which each folded text stands once, where it came
first.

**First occurrences (`Text.IsFirstOccurrences`).** A list has what another has, each once and in the
order in which the other has them first. There is one such list (`Text.isFirstOccurrences_iff`), and
collecting the items one after the other, without those that have come before, gives it: the list so
far always has the first occurrences of the items so far (`Text.IsFirstOccurrences.keepNew`).

**Main result (`Json.isNormalized`).** Every value comes to the first occurrences of its folded
items. Written as an array the list comes to itself, and the lists of two values are permutations of
each other iff they have the same folded items.
-/

namespace BillingQuery

namespace Text

variable {α : Type} [DecidableEq α] {as bs l l' : List α} {a b : α}

/-- The second list has what the first has, each once and in the order of first occurrence. -/
structure IsFirstOccurrences (as l : List α) : Prop where
  nodup : l.Nodup
  mem_iff : ∀ a, a ∈ l ↔ a ∈ as
  ordered : l.Pairwise fun a b => as.idxOf a < as.idxOf b

namespace IsFirstOccurrences

/-- What has an order has no duplicates. -/
theorem of_ordered (mem_iff : ∀ a, a ∈ l ↔ a ∈ as)
    (ordered : l.Pairwise fun a b => as.idxOf a < as.idxOf b) : IsFirstOccurrences as l where
  nodup := ordered.imp fun hlt heq => Nat.ne_of_lt hlt (congrArg as.idxOf heq)
  mem_iff := mem_iff
  ordered := ordered

/-- **Uniqueness.** Lists without duplicates that have the same members and the same order are
equal. -/
theorem unique (h : IsFirstOccurrences as l) (h' : IsFirstOccurrences as l') : l = l' := by
  have hperm : l.Perm l' := (List.perm_ext_iff_of_nodup h.nodup h'.nodup).2 fun a =>
    (h.mem_iff a).trans (h'.mem_iff a).symm
  refine hperm.eq_of_pairwise (fun a b _ _ hab hba => ?_) h.ordered h'.ordered
  exact absurd hab (Nat.lt_asymm hba)

theorem nil : IsFirstOccurrences ([] : List α) [] := of_ordered (fun _ => Iff.rfl) .nil

end IsFirstOccurrences

/-! ## Collecting -/

/-- One more item, which is kept if it has not come before. -/
def keepNew (l : List α) (a : α) : List α := if a ∈ l then l else l ++ [a]

/-- **One item.** First occurrences stay first when an item is put at the end, and a new item comes
after all of them. -/
theorem IsFirstOccurrences.keepNew (h : IsFirstOccurrences as l) (a : α) :
    IsFirstOccurrences (as ++ [a]) (keepNew l a) := by
  -- Places of items already seen do not move when one is added behind them.
  have hindex (b : α) (hb : b ∈ l) : (as ++ [a]).idxOf b = as.idxOf b :=
    List.idxOf_append_of_mem ((h.mem_iff b).1 hb)
  have hordered : l.Pairwise fun b c => (as ++ [a]).idxOf b < (as ++ [a]).idxOf c := by
    refine h.ordered.imp_of_mem fun hb hc hlt => ?_
    rwa [hindex _ hb, hindex _ hc]
  unfold Text.keepNew
  split_ifs with hmem
  · refine .of_ordered (fun b => ?_) hordered
    rw [h.mem_iff, List.mem_append, List.mem_singleton]
    refine ⟨Or.inl, fun hb => hb.elim id ?_⟩
    rintro rfl
    exact (h.mem_iff b).1 hmem
  · have hnew : a ∉ as := fun ha => hmem ((h.mem_iff a).2 ha)
    refine .of_ordered (fun b => ?_) ?_
    · rw [List.mem_append, List.mem_append, h.mem_iff]
    · refine List.pairwise_append.2 ⟨hordered, List.pairwise_singleton _ a, fun b hb c hc => ?_⟩
      obtain rfl := List.mem_singleton.1 hc
      have hlast : (as ++ [c]).idxOf c = as.length := by
        rw [List.idxOf_append_of_notMem hnew]
        simp
      rw [hindex b hb, hlast]
      exact List.idxOf_lt_length_of_mem ((h.mem_iff b).1 hb)

/-- **All items**, by induction on those that are left. -/
theorem IsFirstOccurrences.foldl_keepNew (h : IsFirstOccurrences as l) (bs : List α) :
    IsFirstOccurrences (as ++ bs) (bs.foldl Text.keepNew l) := by
  induction bs generalizing as l with
  | nil => rwa [List.append_nil]
  | cons b bs ih =>
    rw [List.append_cons]
    exact ih (h.keepNew b)

/-! ## Removing duplicates -/

theorem isFirstOccurrences_dedup (as : List α) : IsFirstOccurrences as (dedup as) := by
  refine .of_ordered (fun a => mem_dedup) ?_
  induction as with
  | nil => exact .nil
  | cons a as ih =>
    have hindex (b : α) (hb : b ∈ (dedup as).filter (· ≠ a)) :
        (a :: as).idxOf b = as.idxOf b + 1 := by
      have hne : b ≠ a := by simpa using (List.mem_filter.1 hb).2
      exact List.idxOf_cons_ne as hne.symm
    rw [dedup]
    refine List.pairwise_cons.2 ⟨fun b hb => ?_, (ih.filter _).imp_of_mem fun hb hc hlt => ?_⟩
    · rw [List.idxOf_cons_self, hindex b hb]
      exact Nat.succ_pos _
    · rw [hindex _ hb, hindex _ hc]
      exact Nat.succ_lt_succ hlt

/-- There is one list of first occurrences. -/
theorem isFirstOccurrences_iff : IsFirstOccurrences as l ↔ l = dedup as := by
  constructor
  · intro h
    exact h.unique (isFirstOccurrences_dedup as)
  · rintro rfl
    exact isFirstOccurrences_dedup as

theorem foldl_keepNew_eq_dedup (as : List α) : as.foldl keepNew [] = dedup as :=
  isFirstOccurrences_iff.1 (IsFirstOccurrences.nil.foldl_keepNew as)

theorem dedup_of_nodup (h : as.Nodup) : dedup as = as := by
  induction as with
  | nil => rfl
  | cons a as ih =>
    obtain ⟨hnew, hrest⟩ := List.nodup_cons.1 h
    rw [dedup, ih hrest, List.filter_eq_self.2]
    intro b hb
    exact decide_eq_true fun heq => hnew (heq ▸ hb)

/-- Lists of first occurrences are permutations of each other iff they have the same members. -/
theorem perm_dedup_iff : (dedup as).Perm (dedup bs) ↔ ∀ a, a ∈ as ↔ a ∈ bs := by
  rw [List.perm_ext_iff_of_nodup (nodup_dedup as) (nodup_dedup bs)]
  simp only [mem_dedup]

end Text

/-! ## Values -/

namespace Json

/-- The items of a value: those of an array, what stands between the commas of a text, or the value
itself. -/
def items : Json → List Json
  | array items => items
  | string s => itemsOfText s
  | j => [j]

/-- The folded texts of the items, as they come. An item that has none is left out. -/
def foldedItems (j : Json) : List String := j.items.filterMap foldedText?

theorem filterMap_foldedText? (texts : List String) :
    (texts.map string).filterMap foldedText? = texts.map Text.fold := by
  rw [List.filterMap_map, ← List.filterMap_eq_map]
  rfl

theorem foldedTexts_eq_dedup (j : Json) : j.foldedTexts = Text.dedup j.foldedItems := by
  cases j with
  | array items => rfl
  | string s => rw [foldedItems, items, itemsOfText_eq, filterMap_foldedText?, foldedTexts]
  | null | bool b | number n | object members => rfl

/-- What is known of the list of texts that a value comes to. -/
structure IsNormalized (j : Json) : Prop where
  /-- It has the first occurrences of the folded items, and is the only list that has. -/
  firstOccurrences : ∀ texts, Text.IsFirstOccurrences j.foldedItems texts ↔ texts = j.foldedTexts
  /-- It is collected by one pass over them. -/
  collected : j.foldedItems.foldl Text.keepNew [] = j.foldedTexts
  /-- As an array it comes to itself. -/
  idempotent : (array (j.foldedTexts.map string)).foldedTexts = j.foldedTexts
  /-- Another value comes to a permutation of it iff it has the same folded items. -/
  perm : ∀ k : Json, j.foldedTexts.Perm k.foldedTexts ↔
    ∀ s, s ∈ j.foldedItems ↔ s ∈ k.foldedItems

/-- **Normal form**, of every value. -/
theorem isNormalized (j : Json) : j.IsNormalized where
  firstOccurrences texts := by
    rw [foldedTexts_eq_dedup]
    exact Text.isFirstOccurrences_iff
  collected := by rw [foldedTexts_eq_dedup, Text.foldl_keepNew_eq_dedup]
  idempotent := by
    have hfolded : j.foldedTexts.map Text.fold = j.foldedTexts := by
      conv_rhs => rw [← List.map_id j.foldedTexts]
      exact List.map_congr_left fun s hs => Text.fold_of_isLower (isLower_of_mem_foldedTexts hs)
    have hitems : (array (j.foldedTexts.map string)).foldedItems = j.foldedTexts :=
      (filterMap_foldedText? j.foldedTexts).trans hfolded
    rw [foldedTexts_eq_dedup, hitems, Text.dedup_of_nodup j.nodup_foldedTexts]
  perm k := by
    rw [foldedTexts_eq_dedup, foldedTexts_eq_dedup]
    exact Text.perm_dedup_iff

/-- Items that differ in case and white space are one, which stands where the first of them did. -/
example :
    (string " B, a,\u3000A ,, b").foldedTexts = ["b", "a"] ∧
      (array [.string "A", .bool true, .string "b", int 7, .string "7"]).foldedTexts =
        ["a", "b", "7"] := by
  decide +kernel

end Json
end BillingQuery
