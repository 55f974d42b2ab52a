import BillingQuery.Proofs.DroppedConditions

/-!
# Degraded filters

**Degrading (`FilterNode.DegradesTo`).** The same tree, but some conditions now name an unknown
field, or an operator that is illegal on their field, and so they are dropped.

**Main result (`FilterGroup.accepts_of_degradesTo`).** If each group that loses a condition is
joined by AND, or is left with nothing that counts, then a degraded filter loses no record. If each
is joined by OR and is left with something that counts, it gains none, and it may lose some
(`dropping_hides_record`).

A condition that is dropped acts as true in the first case and as false in the second. No node is
ever negated, so what happens to a group happens to all groups around it, whatever joins them.
-/

namespace BillingQuery

namespace Condition

variable {fields : List Field} {c c' : Condition}

/-- The other condition is this one with an unknown field, or with an illegal operator. -/
inductive SpoilsTo (fields : List Field) (c : Condition) : Condition → Prop
  | field {key : String} (unknown : ∀ f ∈ fields, f.key ≠ key) :
      SpoilsTo fields c { c with field := key }
  | operator {field : Field} {name : String} (found : findField? fields c.field = some field)
      (unusable : ∀ op : Operator, op.name = name →
        field.allows op = false ∨ operandRule? field.type op = none) :
      SpoilsTo fields c { c with operator := name }

theorem SpoilsTo.isDropped (h : c.SpoilsTo fields c') : c'.IsDropped fields := by
  cases h with
  | field unknown => exact .unknownField unknown
  | operator found unusable => exact .illegalOperator found unusable

theorem IsDropped.not_counts (h : c.IsDropped fields) : ¬ (FilterNode.cond c).Counts fields := by
  rw [FilterNode.counts_iff, FilterNode.plan?, plan?_eq_none_iff.2 h]
  exact fun ⟨_, hsome⟩ => nomatch hsome

end Condition

namespace FilterNode

/-! ## Trees -/

mutual

/-- The other tree is this one with some conditions spoiled. Of a group that loses a condition it is
asked how it is joined and which children it is left with. -/
inductive DegradesTo (fields : List Field) (within : Logical → List FilterNode → Prop) :
    FilterNode → FilterNode → Prop
  | cond (c : Condition) : DegradesTo fields within (.cond c) (.cond c)
  | group (id : String) {logical : Logical} {spoiled : Bool} {children others : List FilterNode}
      (parts : AllDegradeTo fields within spoiled children others)
      (here : spoiled = true → within logical others) :
      DegradesTo fields within (.group id logical children) (.group id logical others)

/-- The same of a list of nodes; the flag says whether a condition among them is spoiled. -/
inductive AllDegradeTo (fields : List Field) (within : Logical → List FilterNode → Prop) :
    Bool → List FilterNode → List FilterNode → Prop
  | nil : AllDegradeTo fields within false [] []
  | keep {spoiled : Bool} {n m : FilterNode} {ns ms : List FilterNode}
      (first : DegradesTo fields within n m) (rest : AllDegradeTo fields within spoiled ns ms) :
      AllDegradeTo fields within spoiled (n :: ns) (m :: ms)
  | spoil {spoiled : Bool} {c c' : Condition} {ns ms : List FilterNode}
      (spoils : c.SpoilsTo fields c') (rest : AllDegradeTo fields within spoiled ns ms) :
      AllDegradeTo fields within true (.cond c :: ns) (.cond c' :: ms)

end

/-- Where a lost condition acts as true. -/
def ActsAsTrue (fields : List Field) (logical : Logical) (left : List FilterNode) : Prop :=
  logical = .and ∨ ∀ n ∈ left, ¬ n.Counts fields

/-- Where a lost condition acts as false: in all other groups. -/
def ActsAsFalse (fields : List Field) (logical : Logical) (left : List FilterNode) : Prop :=
  logical = .or ∧ ∃ n ∈ left, n.Counts fields

variable {fields : List Field} {within : Logical → List FilterNode → Prop} {record : Json}

/-! ## What is left -/

/-- What counts in the second list is related to something that counts in the first, and the other
way round unless a condition has been spoiled. -/
structure Corresponds (fields : List Field) (R : FilterNode → FilterNode → Prop) (spoiled : Bool)
    (ns ms : List FilterNode) : Prop where
  back : ∀ m ∈ ms, m.Counts fields → ∃ n ∈ ns, n.Counts fields ∧ R n m
  forth : spoiled = false → ∀ n ∈ ns, n.Counts fields → ∃ m ∈ ms, m.Counts fields ∧ R n m

namespace Corresponds

variable {R : FilterNode → FilterNode → Prop} {spoiled : Bool} {ns ms : List FilterNode}

theorem nil : Corresponds fields R false [] [] where
  back _ h := absurd h List.not_mem_nil
  forth _ _ h := absurd h List.not_mem_nil

theorem keep {n m : FilterNode} (hcounts : n.Counts fields ↔ m.Counts fields) (hR : R n m)
    (h : Corresponds fields R spoiled ns ms) :
    Corresponds fields R spoiled (n :: ns) (m :: ms) where
  back b hb hc := by
    rcases List.mem_cons.1 hb with rfl | hb
    · exact ⟨n, List.mem_cons_self, hcounts.2 hc, hR⟩
    · obtain ⟨a, ha, h'⟩ := h.back b hb hc
      exact ⟨a, List.mem_cons_of_mem _ ha, h'⟩
  forth hspoiled a ha hc := by
    rcases List.mem_cons.1 ha with rfl | ha
    · exact ⟨m, List.mem_cons_self, hcounts.1 hc, hR⟩
    · obtain ⟨b, hb, h'⟩ := h.forth hspoiled a ha hc
      exact ⟨b, List.mem_cons_of_mem _ hb, h'⟩

theorem spoil {n m : FilterNode} (hm : ¬ m.Counts fields) (h : Corresponds fields R spoiled ns ms) :
    Corresponds fields R true (n :: ns) (m :: ms) where
  back b hb hc := by
    rcases List.mem_cons.1 hb with rfl | hb
    · exact absurd hc hm
    · obtain ⟨a, ha, h'⟩ := h.back b hb hc
      exact ⟨a, List.mem_cons_of_mem _ ha, h'⟩
  forth h := nomatch h

end Corresponds

/-! ## Groups -/

section
variable {id : String} {logical : Logical} {spoiled : Bool} {children others : List FilterNode}

/-- Less is asked of a record under AND, and nothing if nothing is left. -/
theorem holds_of_actsAsTrue
    (h : Corresponds fields (fun n m => Holds fields record n → Holds fields record m) spoiled
      children others)
    (here : spoiled = true → ActsAsTrue fields logical others)
    (hholds : Holds fields record (.group id logical children)) :
    Holds fields record (.group id logical others) := by
  rw [holds_group_iff] at hholds ⊢
  by_cases hnone : ∀ m ∈ others, ¬ m.Counts fields
  · exact Or.inl hnone
  refine Or.inr ?_
  rcases hholds with hvacuous | hholds
  · -- Something counts in what is left, so something counted before.
    refine absurd (fun m hm hcounts => ?_) hnone
    obtain ⟨n, hn, hn', -⟩ := h.back m hm hcounts
    exact hvacuous n hn hn'
  cases logical with
  | and =>
    intro m hm hcounts
    obtain ⟨n, hn, hn', himplies⟩ := h.back m hm hcounts
    exact himplies (hholds n hn hn')
  | or =>
    have hkept : spoiled = false := by
      rw [Bool.eq_false_iff]
      intro hspoiled
      rcases here hspoiled with hand | hempty
      · cases hand
      · exact hnone hempty
    obtain ⟨n, hn, hn', hpasses⟩ := hholds
    obtain ⟨m, hm, hm', himplies⟩ := h.forth hkept n hn hn'
    exact ⟨m, hm, hm', himplies hpasses⟩

/-- There is less for a record to pass under OR, if something is left. -/
theorem holds_of_actsAsFalse
    (h : Corresponds fields (fun n m => Holds fields record m → Holds fields record n) spoiled
      children others)
    (here : spoiled = true → ActsAsFalse fields logical others)
    (hholds : Holds fields record (.group id logical others)) :
    Holds fields record (.group id logical children) := by
  rw [holds_group_iff] at hholds ⊢
  rcases hholds with hnone | hholds
  · have hkept : spoiled = false := by
      rw [Bool.eq_false_iff]
      intro hspoiled
      obtain ⟨-, m, hm, hcounts⟩ := here hspoiled
      exact hnone m hm hcounts
    refine Or.inl fun n hn hcounts => ?_
    obtain ⟨m, hm, hm', -⟩ := h.forth hkept n hn hcounts
    exact hnone m hm hm'
  refine Or.inr ?_
  cases logical with
  | and =>
    have hkept : spoiled = false := by
      rw [Bool.eq_false_iff]
      intro hspoiled
      cases (here hspoiled).1
    intro n hn hcounts
    obtain ⟨m, hm, hm', himplies⟩ := h.forth hkept n hn hcounts
    exact himplies (hholds m hm hm')
  | or =>
    obtain ⟨m, hm, hm', hpasses⟩ := hholds
    obtain ⟨n, hn, hn', himplies⟩ := h.back m hm hm'
    exact ⟨n, hn, hn', himplies hpasses⟩

end

/-- A relation between nodes passes from the children of groups to the groups. -/
structure IsInherited (fields : List Field) (within : Logical → List FilterNode → Prop)
    (R : FilterNode → FilterNode → Prop) : Prop where
  refl : ∀ n, R n n
  group : ∀ {id logical spoiled children others}, Corresponds fields R spoiled children others →
    (spoiled = true → within logical others) →
    R (.group id logical children) (.group id logical others)

mutual

/-- **Degrading**, by induction on the tree. -/
theorem DegradesTo.related {R : FilterNode → FilterNode → Prop}
    (hR : IsInherited fields within R) {n m : FilterNode} (h : DegradesTo fields within n m) :
    (n.Counts fields ↔ m.Counts fields) ∧ R n m := by
  cases h with
  | cond c => exact ⟨Iff.rfl, hR.refl _⟩
  | group id parts here => exact ⟨Iff.rfl, hR.group (parts.corresponds hR) here⟩

theorem AllDegradeTo.corresponds {R : FilterNode → FilterNode → Prop}
    (hR : IsInherited fields within R) {spoiled : Bool} {ns ms : List FilterNode}
    (h : AllDegradeTo fields within spoiled ns ms) : Corresponds fields R spoiled ns ms := by
  cases h with
  | nil => exact .nil
  | keep first rest =>
    obtain ⟨hcounts, hfirst⟩ := first.related hR
    exact (rest.corresponds hR).keep hcounts hfirst
  | spoil spoils rest => exact (rest.corresponds hR).spoil spoils.isDropped.not_counts

end

end FilterNode

namespace FilterGroup

open FilterNode (ActsAsTrue ActsAsFalse)

/-- The other filter is this one with some conditions spoiled. -/
def DegradesTo (fields : List Field) (within : Logical → List FilterNode → Prop)
    (g degraded : FilterGroup) : Prop :=
  g.toNode.DegradesTo fields within degraded.toNode

/-- **Dropping widens or narrows**, by the groups that lose a condition. -/
theorem accepts_of_degradesTo (g degraded : FilterGroup) (fields : List Field) (record : Json) :
    (g.DegradesTo fields (ActsAsTrue fields) degraded →
      g.accepts fields record = true → degraded.accepts fields record = true) ∧
    (g.DegradesTo fields (ActsAsFalse fields) degraded →
      degraded.accepts fields record = true → g.accepts fields record = true) := by
  have hg : g.accepts fields record = true ↔ g.toNode.Holds fields record :=
    FilterNode.accepts_plan? g.toNode rfl
  have hdegraded : degraded.accepts fields record = true ↔ degraded.toNode.Holds fields record :=
    FilterNode.accepts_plan? degraded.toNode rfl
  rw [hg, hdegraded]
  constructor
  · intro h
    exact (FilterNode.DegradesTo.related ⟨fun _ h => h, FilterNode.holds_of_actsAsTrue⟩ h).2
  · intro h
    exact (FilterNode.DegradesTo.related ⟨fun _ h => h, FilterNode.holds_of_actsAsFalse⟩ h).2

end FilterGroup

/-! ## Samples -/

/-- An active client with the named plan. -/
def sampleActive (plan : String) : Json :=
  .object [("status", .string "active"), ("plan", .string plan)]

/-- A choice between active clients and those with the plan "pro". -/
def sampleEither (status : String) : FilterGroup :=
  ⟨"root", .or, [.cond (.on "1" status "equals" (.string "active")),
    .cond (.on "2" "plan" "equals" (.string "pro"))]⟩

/-- Active clients with the plan "pro", which is alone in a group. -/
def sampleBoth (operator plan : String) : FilterGroup :=
  ⟨"root", .and, [.cond (.on "1" "status" operator (.string "active")),
    .group "2" .or [.cond (.on "3" plan "equals" (.string "pro"))]]⟩

theorem spoilsTo_shoeSize (id key : String) (value : Json) :
    (Condition.on id key "equals" value).SpoilsTo Resource.clients.fields
      (.on id "shoeSize" "equals" value) :=
  .field (by decide)

theorem sampleEither_degradesTo {within : Logical → List FilterNode → Prop}
    (here : within .or (sampleEither "shoeSize").children) :
    (sampleEither "status").DegradesTo Resource.clients.fields within (sampleEither "shoeSize") :=
  .group "root" (.spoil (spoilsTo_shoeSize _ _ _) (.keep (.cond _) .nil)) fun _ => here

/-- **Dropping may hide a record.** Of a choice only the other condition is left. -/
theorem dropping_hides_record :
    (sampleEither "status").DegradesTo Resource.clients.fields (fun _ _ => True)
        (sampleEither "shoeSize") ∧
      (sampleEither "status").accepts Resource.clients.fields (sampleActive "basic") = true ∧
      (sampleEither "shoeSize").accepts Resource.clients.fields (sampleActive "basic") = false :=
  ⟨sampleEither_degradesTo trivial, by decide +kernel⟩

theorem accepts_of_degradesTo_sample :
    (sampleBoth "equals" "plan").accepts Resource.clients.fields (sampleActive "pro") = true ∧
      (sampleBoth "gt" "shoeSize").accepts Resource.clients.fields (sampleActive "pro") = true ∧
      (sampleEither "shoeSize").accepts Resource.clients.fields (sampleActive "pro") = true ∧
      (sampleEither "status").accepts Resource.clients.fields (sampleActive "pro") = true := by
  have hoperator : (Condition.on "1" "status" "equals" (.string "active")).SpoilsTo
      Resource.clients.fields (.on "1" "status" "gt" (.string "active")) :=
    .operator rfl (Field.unusable_of_allows_eq_false .gt (by decide))
  have hvacuous : ∀ n ∈ [FilterNode.cond (.on "3" "shoeSize" "equals" (.string "pro"))],
      ¬ n.Counts Resource.clients.fields := by
    rw [List.forall_mem_singleton]
    exact (spoilsTo_shoeSize "3" "plan" _).isDropped.not_counts
  have hboth : (sampleBoth "equals" "plan").DegradesTo Resource.clients.fields
      (FilterNode.ActsAsTrue Resource.clients.fields) (sampleBoth "gt" "shoeSize") := by
    refine .group "root" (.spoil hoperator (.keep ?_ .nil)) fun _ => Or.inl rfl
    exact .group "2" (.spoil (spoilsTo_shoeSize _ _ _) .nil) fun _ => Or.inr hvacuous
  have hcounts : (FilterNode.cond (.on "2" "plan" "equals" (.string "pro"))).Counts
      Resource.clients.fields := (FilterNode.counts_iff _).2 ⟨_, rfl⟩
  have heither : (sampleEither "status").DegradesTo Resource.clients.fields
      (FilterNode.ActsAsFalse Resource.clients.fields) (sampleEither "shoeSize") :=
    sampleEither_degradesTo ⟨rfl, _, List.mem_cons_of_mem _ List.mem_cons_self, hcounts⟩
  have hpro : (sampleBoth "equals" "plan").accepts Resource.clients.fields (sampleActive "pro") =
      true := by decide +kernel
  have hleft : (sampleEither "shoeSize").accepts Resource.clients.fields (sampleActive "pro") =
      true := by decide +kernel
  exact ⟨hpro, (FilterGroup.accepts_of_degradesTo _ _ _ _).1 hboth hpro, hleft,
    (FilterGroup.accepts_of_degradesTo _ _ _ _).2 heither hleft⟩

end BillingQuery
