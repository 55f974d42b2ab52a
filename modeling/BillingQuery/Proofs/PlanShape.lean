import BillingQuery.Proofs.PlanTests
import BillingQuery.Proofs.SqlTexts

/-!
# The shape of a plan

**Main result (`FilterGroup.isNormal_plan`).** In the plan of a filter, "all" and "any" have at
least two parts, and no part is a constant. So in its predicate, which has the same shape
(`Plan.IsMirroredBy`), every parenthesis has AND or OR inside.
-/

namespace BillingQuery

namespace Plan

mutual

/-- "All" and "any" have at least two parts, and no constant among them. -/
def IsNormal : Plan → Prop
  | const _ | test _ _ => True
  | all parts | any parts => 2 ≤ parts.length ∧ AreNormalParts parts

def AreNormalParts : List Plan → Prop
  | [] => True
  | p :: ps => (∀ b, p ≠ const b) ∧ p.IsNormal ∧ AreNormalParts ps

end

theorem areNormalParts_iff {ps : List Plan} :
    AreNormalParts ps ↔ ∀ p ∈ ps, (∀ b, p ≠ const b) ∧ p.IsNormal := by
  induction ps with
  | nil => simp [AreNormalParts]
  | cons p ps ih => rw [AreNormalParts, List.forall_mem_cons, ih, and_assoc]

theorem two_le_length {ps : List Plan} (hnil : ps ≠ []) (hone : ∀ p, ps ≠ [p]) :
    2 ≤ ps.length := by
  match ps with
  | [] => exact absurd rfl hnil
  | [p] => exact absurd rfl (hone p)
  | _ :: _ :: ps => exact Nat.le_add_left 2 ps.length

/-- Joining drops the constants, or is one. -/
theorem isNormal_join {logical : Logical} {parts : List Plan} (h : ∀ p ∈ parts, p.IsNormal) :
    (join logical parts).IsNormal := by
  unfold join
  dsimp only
  split_ifs with hempty hdeciding
  · trivial
  · trivial
  · have hkept : ∀ p ∈ parts.filter fun p => !p.isConst !(logical == .or),
        (∀ b, p ≠ const b) ∧ p.IsNormal := by
      intro p hp
      obtain ⟨hmem, hconst⟩ := List.mem_filter.1 hp
      refine ⟨?_, h p hmem⟩
      rintro b rfl
      -- A constant either decides the group or is filtered out.
      by_cases hb : b = (logical == .or)
      · exact hdeciding (List.any_eq_true.2 ⟨_, hmem, by simp [isConst, hb]⟩)
      · simp [isConst, Bool.eq_not_of_ne hb] at hconst
    split
    · trivial
    · next p heq => exact (hkept p (by rw [heq]; exact List.mem_singleton_self p)).2
    · next ps hnil hone =>
      have hlength := two_le_length hnil hone
      cases logical with
      | and => exact ⟨hlength, areNormalParts_iff.2 hkept⟩
      | or => exact ⟨hlength, areNormalParts_iff.2 hkept⟩

end Plan

theorem Condition.isNormal_plan? {c : Condition} {fields : List Field} {p : Plan}
    (h : c.plan? fields = some p) : p.IsNormal := by
  unfold plan? at h
  split at h <;> cases h <;> trivial

mutual

theorem FilterNode.isNormal_plan? {fields : List Field} (n : FilterNode) {p : Plan}
    (h : n.plan? fields = some p) : p.IsNormal := by
  cases n with
  | cond c => exact Condition.isNormal_plan? h
  | group id logical children =>
    cases h
    exact Plan.isNormal_join (isNormal_plans children)

theorem FilterNode.isNormal_plans {fields : List Field} (ns : List FilterNode) :
    ∀ p ∈ plans fields ns, p.IsNormal := by
  cases ns with
  | nil => exact fun _ h => absurd h List.not_mem_nil
  | cons n ns =>
    intro p hp
    rcases List.mem_append.1 hp with hp | hp
    · exact isNormal_plan? n (Option.mem_toList.1 hp)
    · exact isNormal_plans ns p hp

end

/-- **Shape.** The plan of a filter is normal. -/
theorem FilterGroup.isNormal_plan (g : FilterGroup) (fields : List Field) :
    (g.plan fields).IsNormal :=
  Plan.isNormal_join (FilterNode.isNormal_plans g.children)

/-! ## The predicate of a plan -/

namespace Plan

mutual

/-- The predicate has AND where the plan has "all" and OR where it has "any", and the tests of the
plan in the same places. -/
def IsMirroredBy : Plan → Sql.Predicate → Prop
  | const true, p => p = .always
  | const false, p => p = .never
  | test field operand, p => ∃ bound, p = operand.predicate field.column bound
  | all parts, .all ps => AreMirroredBy parts ps
  | any parts, .any ps => AreMirroredBy parts ps
  | all _, _ | any _, _ => False

def AreMirroredBy : List Plan → List Sql.Predicate → Prop
  | [], [] => True
  | plan :: plans, p :: ps => plan.IsMirroredBy p ∧ AreMirroredBy plans ps
  | [], _ :: _ | _ :: _, [] => False

end

mutual

theorem isMirroredBy_predicate (p : Plan) (bound : Nat) : p.IsMirroredBy (p.predicate bound) := by
  cases p with
  | const b => cases b <;> rfl
  | test field operand => exact ⟨bound, rfl⟩
  | all parts => exact areMirroredBy_predicates parts bound
  | any parts => exact areMirroredBy_predicates parts bound

theorem areMirroredBy_predicates (ps : List Plan) (bound : Nat) :
    AreMirroredBy ps (predicates bound ps) := by
  cases ps with
  | nil => trivial
  | cons p ps => exact ⟨isMirroredBy_predicate p bound, areMirroredBy_predicates ps _⟩

end

end Plan

open Sql (isName)

theorem Operand.isPlain_predicate {column : String} (hcolumn : isName column = true)
    (operand : Operand) (bound : Nat) : (operand.predicate column bound).IsPlain := by
  cases operand <;>
    simp [predicate, isNumeric, isDay, Sql.Predicate.IsPlain, Sql.Predicate.ArePlain,
      Sql.Term.IsPlain, hcolumn]

namespace Plan

theorem length_predicates (ps : List Plan) (bound : Nat) :
    (predicates bound ps).length = ps.length := by
  induction ps generalizing bound with
  | nil => rfl
  | cons p ps ih => rw [predicates, List.length_cons, ih, List.length_cons]

mutual

/-- The predicate can be read back from its text. -/
theorem isPlain_predicate (p : Plan) (hp : p.IsNormal)
    (hnames : ∀ t ∈ p.tests, isName t.1.column = true) (bound : Nat) :
    (p.predicate bound).IsPlain := by
  cases p with
  | const b =>
    cases b <;> simp [predicate, Sql.Predicate.always, Sql.Predicate.never, Sql.Predicate.IsPlain,
      Sql.Term.IsPlain]
  | test field operand =>
    exact operand.isPlain_predicate (hnames (field, operand) (List.mem_singleton_self _)) bound
  | all parts | any parts =>
    obtain ⟨hlength, hparts⟩ := hp
    exact ⟨by rwa [length_predicates], arePlain_predicates parts hparts hnames bound⟩

theorem arePlain_predicates (ps : List Plan) (hps : AreNormalParts ps)
    (hnames : ∀ t ∈ testsOfAll ps, isName t.1.column = true) (bound : Nat) :
    Sql.Predicate.ArePlain (predicates bound ps) := by
  cases ps with
  | nil => trivial
  | cons p ps =>
    exact ⟨isPlain_predicate p hps.2.1 (fun t ht => hnames t (List.mem_append_left _ ht)) bound,
      arePlain_predicates ps hps.2.2 (fun t ht => hnames t (List.mem_append_right _ ht)) _⟩

end

end Plan
end BillingQuery
