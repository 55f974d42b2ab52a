import BillingQuery.Proofs.Meaning
import BillingQuery.Schema.Resource
import Mathlib.Logic.Relation

/-!
# The algebra of filter trees

**Edits (`FilterNode.Edit`).** The children of a group are put in another order, a child is
repeated, a group is given a copy of itself, or it is wrapped in a new group. An edit may be made
anywhere in a tree (`FilterNode.Anywhere`), the root included.

**Main result (`FilterGroup.obeysAlgebra`).** However many edits are made, the same records pass the
filter. Wrapping alone leaves even the plan and the issues as they are.

The rules for a group only ask which nodes are in it, so nodes may be exchanged for equivalent ones
and their order and number play no part (`FilterNode.equivalent_group`). A node is equivalent to
another only if both count or neither does: a condition that does not count is not equivalent to a
group around it, for the group counts.
-/

namespace BillingQuery

/-- A part that is alone in its group is the plan of the group. -/
theorem Plan.join_singleton (logical : Logical) (p : Plan) : join logical [p] = p := by
  cases p with
  | const b => cases b <;> cases logical <;> rfl
  | test field operand | all parts | any parts => cases logical <;> rfl

namespace FilterNode

variable {fields : List Field} {n m k : FilterNode}

/-! ## Equivalence -/

/-- The nodes mean the same: both count or neither does, and the same records pass. -/
structure Equivalent (fields : List Field) (n m : FilterNode) : Prop where
  counts : n.Counts fields ↔ m.Counts fields
  holds : ∀ record, n.Holds fields record ↔ m.Holds fields record

namespace Equivalent

theorem refl (n : FilterNode) : n.Equivalent fields n := ⟨Iff.rfl, fun _ => Iff.rfl⟩

theorem symm (h : n.Equivalent fields m) : m.Equivalent fields n :=
  ⟨h.counts.symm, fun record => (h.holds record).symm⟩

theorem trans (h : n.Equivalent fields m) (h' : m.Equivalent fields k) : n.Equivalent fields k :=
  ⟨h.counts.trans h'.counts, fun record => (h.holds record).trans (h'.holds record)⟩

end Equivalent

theorem Holds.counts {record : Json} (h : n.Holds fields record) : n.Counts fields := by
  cases h with
  | cond uses _ _ => exact ⟨_, _, uses⟩
  | vacuous _ | all _ | any _ _ _ => trivial

theorem equivalent_of_plan? (h : n.plan? fields = m.plan? fields) : n.Equivalent fields m := by
  have hcounts : n.Counts fields ↔ m.Counts fields := by rw [counts_iff, counts_iff, h]
  refine ⟨hcounts, fun record => ?_⟩
  by_cases hn : n.Counts fields
  · obtain ⟨p, hp⟩ := (counts_iff n).1 hn
    rw [← accepts_plan? n hp, accepts_plan? m (h ▸ hp)]
  · exact iff_of_false (fun hholds => hn hholds.counts)
      fun hholds => hn (hcounts.2 hholds.counts)

/-- A node that is alone in a group adds what it would add without the group, if it counts. -/
theorem plan?_alone {p : Plan} (id : String) (logical : Logical) (h : n.plan? fields = some p) :
    (group id logical [n]).plan? fields = some p := by
  rw [plan?, plans_eq, List.filterMap_cons_some h, List.filterMap_nil, Plan.join_singleton]

theorem equivalent_alone (id : String) (logical : Logical) (h : n.Counts fields) :
    n.Equivalent fields (.group id logical [n]) := by
  obtain ⟨p, hp⟩ := (counts_iff n).1 h
  exact equivalent_of_plan? (hp.trans (plan?_alone id logical hp).symm)

section
variable {id id' : String} {logical : Logical} {children others : List FilterNode}

theorem holds_group_of_members {record : Json}
    (forth : ∀ n ∈ children, ∃ m ∈ others, n.Equivalent fields m)
    (back : ∀ m ∈ others, ∃ n ∈ children, n.Equivalent fields m)
    (h : Holds fields record (.group id logical children)) :
    Holds fields record (.group id' logical others) := by
  rw [holds_group_iff] at h ⊢
  rcases h with hnone | hsome
  · refine Or.inl fun m hm hcounts => ?_
    obtain ⟨n, hn, heq⟩ := back m hm
    exact hnone n hn (heq.counts.2 hcounts)
  · refine Or.inr ?_
    cases logical with
    | and =>
      intro m hm hcounts
      obtain ⟨n, hn, heq⟩ := back m hm
      exact (heq.holds record).1 (hsome n hn (heq.counts.2 hcounts))
    | or =>
      obtain ⟨n, hn, hcounts, hholds⟩ := hsome
      obtain ⟨m, hm, heq⟩ := forth n hn
      exact ⟨m, hm, heq.counts.1 hcounts, (heq.holds record).1 hholds⟩

/-- **Groups.** A group is known by the nodes in it, up to equivalence: their order and number play
no part. -/
theorem equivalent_group (forth : ∀ n ∈ children, ∃ m ∈ others, n.Equivalent fields m)
    (back : ∀ m ∈ others, ∃ n ∈ children, n.Equivalent fields m) :
    Equivalent fields (.group id logical children) (.group id' logical others) where
  counts := Iff.rfl
  holds record := by
    refine ⟨holds_group_of_members forth back, holds_group_of_members ?_ ?_⟩
    · intro m hm
      obtain ⟨n, hn, heq⟩ := back m hm
      exact ⟨n, hn, heq.symm⟩
    · intro n hn
      obtain ⟨m, hm, heq⟩ := forth n hn
      exact ⟨m, hm, heq.symm⟩

theorem equivalent_group_of_mem_iff (h : ∀ n, n ∈ children ↔ n ∈ others) :
    Equivalent fields (.group id logical children) (.group id' logical others) :=
  equivalent_group (fun n hn => ⟨n, (h n).1 hn, .refl n⟩) fun n hn => ⟨n, (h n).2 hn, .refl n⟩

/-- A group may be given a copy of itself. If nothing in it counts, the copy is true as the group
is. -/
theorem equivalent_copy :
    Equivalent fields (.group id logical children)
      (.group id logical (children ++ [.group id logical children])) where
  counts := Iff.rfl
  holds record := by
    have hmem : group id logical children ∈ children ++ [group id logical children] :=
      List.mem_append_right _ (List.mem_singleton_self _)
    constructor
    · intro h
      -- Under AND the copy asks for what the group asks for; under OR it is one more way to pass.
      cases logical with
      | and =>
        refine .all fun n hn hcounts => ?_
        rcases List.mem_append.1 hn with hn | hn
        · rcases holds_group_iff.1 h with hnone | hall
          · exact absurd hcounts (hnone n hn)
          · exact hall n hn hcounts
        · rwa [List.mem_singleton.1 hn]
      | or => exact .any hmem trivial h
    · intro h
      rcases holds_group_iff.1 h with hnone | hsome
      · exact absurd trivial (hnone _ hmem)
      · cases logical with
        | and => exact hsome _ hmem trivial
        | or =>
          obtain ⟨n, hn, hcounts, hholds⟩ := hsome
          rcases List.mem_append.1 hn with hn | hn
          · exact .any hn hcounts hholds
          · rwa [List.mem_singleton.1 hn] at hholds

end

/-! ## Places in a tree -/

/-- The trees are equal but at one place, where the nodes are related. -/
inductive Anywhere (R : FilterNode → FilterNode → Prop) : FilterNode → FilterNode → Prop
  | here {n m : FilterNode} (related : R n m) : Anywhere R n m
  | inside (id : String) (logical : Logical) (before after : List FilterNode) {n m : FilterNode}
      (deeper : Anywhere R n m) :
      Anywhere R (.group id logical (before ++ n :: after))
        (.group id logical (before ++ m :: after))

variable {R : FilterNode → FilterNode → Prop}

/-- A tree with an equivalent part is equivalent. -/
theorem Anywhere.equivalent (hR : ∀ n m, R n m → n.Equivalent fields m) (h : Anywhere R n m) :
    n.Equivalent fields m := by
  induction h with
  | here related => exact hR _ _ related
  | @inside id logical before after n m _ ih =>
    have hmem (a b : FilterNode) (hab : a.Equivalent fields b) (c : FilterNode)
        (hc : c ∈ before ++ a :: after) : ∃ d ∈ before ++ b :: after, c.Equivalent fields d := by
      rw [List.mem_append, List.mem_cons] at hc
      rcases hc with hc | rfl | hc
      · exact ⟨c, List.mem_append_left _ hc, .refl c⟩
      · exact ⟨b, List.mem_append_right _ List.mem_cons_self, hab⟩
      · exact ⟨c, List.mem_append_right _ (List.mem_cons_of_mem _ hc), .refl c⟩
    refine equivalent_group (hmem n m ih) fun c hc => ?_
    obtain ⟨d, hd, heq⟩ := hmem m n ih.symm c hc
    exact ⟨d, hd, heq.symm⟩

/-! ## Edits -/

/-- A group is wrapped in a new one that has no other child. -/
inductive Wrap : FilterNode → FilterNode → Prop
  | intro (id id' : String) (logical logical' : Logical) (children : List FilterNode) :
      Wrap (.group id logical children) (.group id' logical' [.group id logical children])

/-- A change to a group that leaves its meaning as it is. -/
inductive Edit : FilterNode → FilterNode → Prop
  | reorder (id : String) (logical : Logical) {children others : List FilterNode}
      (order : children.Perm others) : Edit (.group id logical children) (.group id logical others)
  | duplicate (id : String) (logical : Logical) (before after : List FilterNode) (n : FilterNode)
      (copies : Nat) :
      Edit (.group id logical (before ++ n :: after))
        (.group id logical (before ++ n :: (List.replicate copies n ++ after)))
  | copy (id : String) (logical : Logical) (children : List FilterNode) :
      Edit (.group id logical children)
        (.group id logical (children ++ [.group id logical children]))
  | wrap {n m : FilterNode} (wrap : Wrap n m) : Edit n m

/-- The wrapped group adds the same part and reports the same. -/
theorem Wrap.eq (h : Wrap n m) :
    m.plan? fields = n.plan? fields ∧ m.issues fields = n.issues fields := by
  cases h with
  | intro id id' logical logical' children =>
    exact ⟨plan?_alone id' logical' rfl, List.append_nil (issuesOfAll fields children)⟩

theorem Edit.equivalent (h : Edit n m) : n.Equivalent fields m := by
  cases h with
  | reorder id logical order => exact equivalent_group_of_mem_iff fun n => order.mem_iff
  | duplicate id logical before after n copies =>
    refine equivalent_group_of_mem_iff fun c => ?_
    by_cases hc : c = n <;> simp [List.mem_replicate, hc]
  | copy id logical children => exact equivalent_copy
  | wrap wrap => exact equivalent_of_plan? wrap.eq.1.symm

theorem issuesOfAll_append (ns ms : List FilterNode) :
    issuesOfAll fields (ns ++ ms) = issuesOfAll fields ns ++ issuesOfAll fields ms := by
  induction ns with
  | nil => rfl
  | cons n ns ih => rw [List.cons_append, issuesOfAll, issuesOfAll, ih, List.append_assoc]

/-- Nothing else in the tree notices that a group has been wrapped. -/
theorem Anywhere.wrap_eq (h : Anywhere Wrap n m) :
    m.plan? fields = n.plan? fields ∧ m.issues fields = n.issues fields := by
  induction h with
  | here wrap => exact wrap.eq
  | inside id logical before after _ ih =>
    constructor
    · simp only [plan?, plans_eq, List.filterMap_append, List.filterMap_cons, ih.1]
    · simp only [issues, issuesOfAll_append, issuesOfAll, ih.2]

/-- Any number of edits, by induction on them. -/
theorem equivalent_of_edits (h : Relation.ReflTransGen (Anywhere Edit) n m) :
    n.Equivalent fields m := by
  induction h with
  | refl => exact .refl n
  | tail _ edit ih => exact ih.trans (edit.equivalent fun _ _ => Edit.equivalent)

theorem eq_of_wraps (h : Relation.ReflTransGen (Anywhere Wrap) n m) :
    m.plan? fields = n.plan? fields ∧ m.issues fields = n.issues fields := by
  induction h with
  | refl => exact ⟨rfl, rfl⟩
  | tail _ wrap ih => exact ⟨wrap.wrap_eq.1.trans ih.1, wrap.wrap_eq.2.trans ih.2⟩

end FilterNode

namespace FilterGroup

open FilterNode (Anywhere Edit Wrap)

variable {g edited : FilterGroup} {fields : List Field}

/-- The records that pass a filter are those that pass a node which means the same. -/
theorem accepts_iff_of_equivalent {n : FilterNode} (h : g.toNode.Equivalent fields n)
    (record : Json) : g.accepts fields record = true ↔ n.Holds fields record :=
  (FilterNode.accepts_plan? g.toNode rfl).trans (h.holds record)

theorem accepts_eq_of_equivalent (h : g.toNode.Equivalent fields edited.toNode) (record : Json) :
    edited.accepts fields record = g.accepts fields record := by
  rw [Bool.eq_iff_iff, accepts_iff_of_equivalent h, accepts_iff_of_equivalent (.refl edited.toNode)]

theorem edit_withChild (g : FilterGroup) : Edit g.toNode (g.withChild g.toNode).toNode :=
  .copy g.id g.logical g.children

theorem wrap_wrap (g : FilterGroup) (id : String) (logical : Logical) :
    Wrap g.toNode (g.wrap id logical).toNode :=
  .intro g.id id g.logical logical g.children

/-- Boolean algebra holds of the filter as a tree. -/
structure ObeysAlgebra (g : FilterGroup) : Prop where
  /-- Whatever edits are made, one after the other and anywhere, the same records pass. -/
  edits : ∀ edited : FilterGroup,
    Relation.ReflTransGen (Anywhere Edit) g.toNode edited.toNode →
    ∀ fields record, edited.accepts fields record = g.accepts fields record
  /-- If groups are wrapped and nothing else is done, plan and issues are the same. -/
  wraps : ∀ edited : FilterGroup,
    Relation.ReflTransGen (Anywhere Wrap) g.toNode edited.toNode →
    ∀ fields, edited.plan fields = g.plan fields ∧ edited.issues fields = g.issues fields

/-- **Boolean algebra of trees**, for every filter, every list of fields and every record. -/
theorem obeysAlgebra (g : FilterGroup) : g.ObeysAlgebra where
  edits _ h _ record := accepts_eq_of_equivalent (FilterNode.equivalent_of_edits h) record
  wraps _ h _ := by
    obtain ⟨hplan, hissues⟩ := FilterNode.eq_of_wraps h
    exact ⟨Option.some.inj hplan, hissues⟩

end FilterGroup

def sampleDroppedCondition : FilterNode := .cond (.on "3" "shoeSize" "gt" (Json.int 42))

/-- A choice between a condition and a group of these nodes. -/
def sampleChoice (parts : List FilterNode) : FilterGroup :=
  ⟨"root", .or, [.cond (.on "1" "status" "equals" (.string "active")), .group "2" .and parts]⟩

/-- A choice whose second group is vacuous, with a copy of itself, in a new group. -/
def sampleEdited : FilterGroup :=
  let reordered := sampleChoice [.group "4" .or [], sampleDroppedCondition]
  (reordered.withChild reordered.toNode).wrap "5" .and

theorem obeysAlgebra_sample :
    Relation.ReflTransGen (FilterNode.Anywhere FilterNode.Edit)
        (sampleChoice [sampleDroppedCondition, .group "4" .or []]).toNode sampleEdited.toNode ∧
      sampleEdited.accepts Resource.clients.fields (.object []) = true := by
  let reordered := sampleChoice [.group "4" .or [], sampleDroppedCondition]
  have hinner : FilterNode.Anywhere FilterNode.Edit
      (sampleChoice [sampleDroppedCondition, .group "4" .or []]).toNode reordered.toNode :=
    .inside "root" .or [_] [] (.here (.reorder "2" .and (List.Perm.swap _ _ [])))
  have hcopy := FilterNode.Anywhere.here reordered.edit_withChild
  have hwrap := FilterNode.Anywhere.here
    (FilterNode.Edit.wrap ((reordered.withChild reordered.toNode).wrap_wrap "5" .and))
  have hedits := Relation.ReflTransGen.tail (.tail (.single hinner) hcopy) hwrap
  have haccepts : (sampleChoice [sampleDroppedCondition, .group "4" .or []]).accepts
      Resource.clients.fields (.object []) = true := by
    decide +kernel
  exact ⟨hedits, ((FilterGroup.obeysAlgebra _).edits sampleEdited hedits _ _).trans haccepts⟩

/-- A condition that does not count may not be wrapped: a group around it is true. -/
example :
    (FilterGroup.mk "root" .or [.cond (.on "1" "status" "equals" (.string "active")),
        sampleDroppedCondition]).accepts Resource.clients.fields (.object []) = false ∧
      (sampleChoice [sampleDroppedCondition]).accepts Resource.clients.fields
        (.object []) = true := by
  decide +kernel

end BillingQuery
