import BillingQuery.Store.Run

/-!
# The order of rows

**Main result (`ordered_filter`).** Putting rows in order and then leaving some out gives what
leaving them out first and putting the others in order gives. So it does not matter whether the
store filters before it sorts.

This holds because the order of cells is a total preorder (`Cell.compare_eq`) and the sort is
stable.
-/

namespace BillingQuery.Sql

/-! ## The order of cells -/

namespace Cell

/-- The infinities are below and above every finite number. -/
def level : Cell → Nat
  | infinity true => 0
  | infinity false => 2
  | _ => 1

/-- The value of a finite number, in units of `2^-1074`. -/
def units : Cell → Int
  | integer n => n * 2 ^ 1074
  | real x => x.units
  | _ => 0

def textPart : Cell → String
  | text s => s
  | _ => ""

def bytesPart : Cell → List Nat
  | blob bytes => bytes.map UInt8.toNat
  | _ => []

/-- The order of cells, one part after the other. -/
def compareParts : Cell → Cell → Ordering :=
  compareLex (compareOn rank) (compareLex (compareOn level) (compareLex (compareOn units)
    (compareLex (compareOn textPart) (compareOn bytesPart))))

theorem compare_mul_unit (m n : Int) :
    Ord.compare (m * 2 ^ 1074) (n * 2 ^ 1074) = Ord.compare m n := by
  have hpos : (0 : Int) < 2 ^ 1074 := Int.pow_pos (by decide)
  generalize (2 ^ 1074 : Int) = unit at hpos
  cases h : Ord.compare m n with
  | lt => exact Int.compare_eq_lt.2 (Int.mul_lt_mul_of_pos_right (Int.compare_eq_lt.1 h) hpos)
  | gt => exact Int.compare_eq_gt.2 (Int.mul_lt_mul_of_pos_right (Int.compare_eq_gt.1 h) hpos)
  | eq =>
    rw [Std.LawfulEqOrd.compare_eq_iff_eq] at h ⊢
    rw [h]

/-- Cells are compared by class, and within a class by value. -/
theorem compare_eq (a b : Cell) : a.compare b = compareParts a b := by
  have hnumbers {x y : Cell} (hx : x.rank = 1) (hy : y.rank = 1) (hlx : x.level = 1)
      (hly : y.level = 1) (htx : x.textPart = "") (hty : y.textPart = "") (hbx : x.bytesPart = [])
      (hby : y.bytesPart = []) : compareParts x y = Ord.compare x.units y.units := by
    simp [compareParts, compareLex, compareOn, hx, hy, hlx, hly, htx, hty, hbx, hby]
  -- Cells of two storage classes differ in rank already; the parts matter within one class.
  cases a with
  | null => cases b <;> rfl
  | integer m =>
    cases b with
    | integer n => rw [hnumbers rfl rfl rfl rfl rfl rfl rfl rfl]; exact (compare_mul_unit m n).symm
    | real y => rw [hnumbers rfl rfl rfl rfl rfl rfl rfl rfl]; rfl
    | infinity t => cases t <;> rfl
    | null | text t | blob bytes => rfl
  | real x =>
    cases b with
    | integer n =>
      rw [hnumbers rfl rfl rfl rfl rfl rfl rfl rfl]
      exact Std.OrientedCmp.eq_swap.symm
    | real y => rw [hnumbers rfl rfl rfl rfl rfl rfl rfl rfl]; rfl
    | infinity t => cases t <;> rfl
    | null | text t | blob bytes => rfl
  | infinity s =>
    cases b with
    | infinity t => cases s <;> cases t <;> rfl
    | null | integer n | real y | text t | blob bytes => cases s <;> rfl
  | text s =>
    cases b with
    | text t => simp [compare, compareParts, compareLex, compareOn, rank, level, units, textPart,
        bytesPart]
    | null | integer n | real y | infinity t | blob bytes => rfl
  | blob s =>
    cases b with
    | blob t => simp [compare, compareParts, compareLex, compareOn, rank, level, units, textPart,
        bytesPart]
    | null | integer n | real y | infinity t | text t => rfl

instance : Std.TransCmp Cell.compare := by
  have h : Cell.compare = compareParts := by
    funext a b
    exact compare_eq a b
  rw [h]
  unfold compareParts
  infer_instance

end Cell

/-! ## Stable sorting -/

/-- A list has one splitting at the place where a property begins to hold. -/
theorem eq_of_append_eq_append {q : α → Bool} {as bs cs ds : List α} (h : as ++ bs = cs ++ ds)
    (has : ∀ a ∈ as, q a = false) (hbs : ∀ b ∈ bs, q b = true) (hcs : ∀ c ∈ cs, q c = false)
    (hds : ∀ d ∈ ds, q d = true) : as = cs ∧ bs = ds := by
  have hfirst {us vs : List α} (hu : ∀ u ∈ us, q u = false) (hv : ∀ v ∈ vs, q v = true) :
      (us ++ vs).filter (fun a => !q a) = us := by
    rw [List.filter_append, List.filter_eq_self.2 fun u hm => by simp [hu u hm],
      List.filter_eq_nil_iff.2 fun v hm => by simp [hv v hm], List.append_nil]
  have heq : as = cs := by rw [← hfirst has hbs, h, hfirst hcs hds]
  subst heq
  exact ⟨rfl, List.append_cancel_left h⟩

/-- **Sorting commutes with filtering.** -/
theorem mergeSort_filter {le : α → α → Bool} (trans : ∀ a b c, le a b → le b c → le a c)
    (total : ∀ a b, le a b || le b a) (p : α → Bool) (l : List α) :
    (l.filter p).mergeSort le = (l.mergeSort le).filter p := by
  -- Inserting `a` splits a sorted list where elements begin not to be below `a`.
  have hsplit (a : α) (l : List α) : ∃ l₁ l₂, (a :: l).mergeSort le = l₁ ++ a :: l₂ ∧
      l.mergeSort le = l₁ ++ l₂ ∧ (∀ b ∈ l₁, le a b = false) ∧ ∀ b ∈ l₂, le a b = true := by
    obtain ⟨l₁, l₂, hcons, hl, hfirst⟩ := List.mergeSort_cons trans total a l
    have hsorted := List.pairwise_mergeSort trans total (a :: l)
    rw [hcons, List.pairwise_append, List.pairwise_cons] at hsorted
    exact ⟨l₁, l₂, hcons, hl, fun b hb => by simpa using hfirst b hb, hsorted.2.1.1⟩
  induction l with
  | nil => simp
  | cons a l ih =>
    obtain ⟨l₁, l₂, hcons, hl, hfirst, hsecond⟩ := hsplit a l
    rw [hcons, List.filter_append]
    by_cases ha : p a = true
    · obtain ⟨m₁, m₂, hm, hml, hmfirst, hmsecond⟩ := hsplit a (l.filter p)
      rw [ih, hl, List.filter_append] at hml
      obtain ⟨h₁, h₂⟩ := eq_of_append_eq_append hml
        (fun b hb => hfirst b (List.mem_filter.1 hb).1)
        (fun b hb => hsecond b (List.mem_filter.1 hb).1) hmfirst hmsecond
      rw [List.filter_cons_of_pos ha, List.filter_cons_of_pos ha, hm, h₁, h₂]
    · rw [List.filter_cons_of_neg ha, List.filter_cons_of_neg ha, ih, hl, List.filter_append]

namespace Order

/-- The cells that `permits` compares, the one that must not be greater first. -/
theorem permits_eq (o : Order) (a b : Row) :
    o.permits a b = match o.direction with
      | .asc => ((a.cell o.column).compare (b.cell o.column)).isLE
      | .desc => ((b.cell o.column).compare (a.cell o.column)).isLE := by
  have hisLE (x : Ordering) : (x != .gt) = x.isLE := by cases x <;> rfl
  unfold permits
  cases o.direction <;> exact hisLE _

theorem permits_total (o : Order) (a b : Row) : o.permits a b || o.permits b a := by
  have htotal (x y : Cell) : (x.compare y).isLE || (y.compare x).isLE := by
    have hswap : y.compare x = (x.compare y).swap := Std.OrientedCmp.eq_swap
    rw [hswap]
    cases x.compare y <;> rfl
  rw [permits_eq, permits_eq]
  cases o.direction with
  | asc => exact htotal _ _
  | desc => exact htotal _ _

theorem permits_trans (o : Order) (a b c : Row) (hab : o.permits a b) (hbc : o.permits b c) :
    o.permits a c := by
  rw [permits_eq] at hab hbc ⊢
  cases hdirection : o.direction with
  | asc =>
    rw [hdirection] at hab hbc
    exact Std.TransCmp.isLE_trans hab hbc
  | desc =>
    rw [hdirection] at hab hbc
    exact Std.TransCmp.isLE_trans hbc hab

end Order

/-- **Ordering commutes with filtering.** -/
theorem ordered_filter (order : Option Order) (p : Row → Bool) (rows : List Row) :
    ordered order (rows.filter p) = (ordered order rows).filter p := by
  cases order with
  | none => rfl
  | some o => exact mergeSort_filter o.permits_trans o.permits_total p rows

end BillingQuery.Sql
