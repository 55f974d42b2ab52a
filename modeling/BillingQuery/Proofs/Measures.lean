import BillingQuery.Proofs.Paging
import BillingQuery.Proofs.Rejections
import BillingQuery.Proofs.TreeAlgebra
import BillingQuery.Proofs.WireRoundTrip

/-!
# Measures of filter trees

A filter is too complex if more than 16 groups stand inside each other or if it has more than 256
nodes. The depth is a maximum over the children of a group and the size a sum, so both are followed
through lists of nodes that are put one after the other (`FilterNode.maxDepth_append`,
`FilterNode.totalSize_append`).

**Nesting (`FilterNode.StandsIn`) and edits (`FilterNode.Extends`).** A node stands in a tree with
so many groups around it, each of which adds to both measures. A group anywhere in a tree is given
one more child, by which no measure of the tree becomes less.

**Rejections (`RejectsTooComplex`).** Which measures an outcome rejects a tree with. What follows
makes no difference, if it gives no such rejection itself (`RejectsTooComplex.bind`), and so every
use of a filter rejects what the one check rejects that it starts with.

**Main result (`FilterGroup.measuresAreConsistent`).** The rules of both measures, what follows from
them for nested groups and for edits, and which filters are rejected wherever one is used.
-/

namespace BillingQuery

namespace FilterNode

/-! ## Lists of nodes -/

variable {n m : FilterNode} {k : Nat}

theorem maxDepth_append (ns ms : List FilterNode) :
    maxDepth (ns ++ ms) = max (maxDepth ns) (maxDepth ms) := by
  induction ns with
  | nil => exact (Nat.zero_max _).symm
  | cons n ns ih => rw [List.cons_append, maxDepth, ih, maxDepth, Nat.max_assoc]

theorem totalSize_append (ns ms : List FilterNode) :
    totalSize (ns ++ ms) = totalSize ns + totalSize ms := by
  induction ns with
  | nil => exact (Nat.zero_add _).symm
  | cons n ns ih => rw [List.cons_append, totalSize, ih, totalSize, Nat.add_assoc]

theorem lt_maxDepth_iff {ns : List FilterNode} : k < maxDepth ns ↔ ∃ n ∈ ns, k < n.depth := by
  induction ns with
  | nil => exact iff_of_false (Nat.not_lt_zero k) nofun
  | cons n ns ih =>
    have hmax : k < max n.depth (maxDepth ns) ↔ k < n.depth ∨ k < maxDepth ns := by omega
    rw [maxDepth, hmax, ih, List.exists_mem_cons_iff]

theorem depth_le_maxDepth {ns : List FilterNode} (h : n ∈ ns) : n.depth ≤ maxDepth ns := by
  apply Nat.le_of_not_lt
  intro hlt
  exact Nat.lt_irrefl _ (lt_maxDepth_iff.2 ⟨n, h, hlt⟩)

theorem size_le_totalSize {ns : List FilterNode} (h : n ∈ ns) : n.size ≤ totalSize ns := by
  obtain ⟨before, after, rfl⟩ := List.append_of_mem h
  rw [totalSize_append, totalSize]
  omega

mutual

/-- No tree is deeper than it has nodes. -/
theorem depth_le_size (n : FilterNode) : n.depth ≤ n.size := by
  cases n with
  | cond c => exact Nat.zero_le _
  | group id logical children => exact Nat.add_le_add_left (maxDepth_le_totalSize children) 1

theorem maxDepth_le_totalSize (ns : List FilterNode) : maxDepth ns ≤ totalSize ns := by
  cases ns with
  | nil => exact Nat.le_refl 0
  | cons n ns =>
    have hfirst := depth_le_size n
    have hrest := maxDepth_le_totalSize ns
    rw [maxDepth, totalSize]
    omega

end

/-! ## Nested nodes -/

/-- The node stands in the tree, with so many groups around it. -/
inductive StandsIn (m : FilterNode) : Nat → FilterNode → Prop
  | itself : StandsIn m 0 m
  | inside (id : String) (logical : Logical) {children : List FilterNode} {n : FilterNode} {k : Nat}
      (mem : n ∈ children) (deeper : StandsIn m k n) :
      StandsIn m (k + 1) (.group id logical children)

/-- Each group around a node adds to both measures. -/
theorem StandsIn.measures_le (h : StandsIn m k n) :
    m.depth + k ≤ n.depth ∧ m.size + k ≤ n.size := by
  induction h with
  | itself => exact ⟨Nat.le_refl _, Nat.le_refl _⟩
  | inside id logical mem deeper ih =>
    have hdepth := depth_le_maxDepth mem
    have hsize := size_le_totalSize mem
    rw [depth, size]
    omega

/-- **Depth.** It counts the groups from the root to the deepest one. -/
theorem lt_depth_iff : k < n.depth ↔ ∃ g : FilterGroup, StandsIn g.toNode k n := by
  constructor
  · intro h
    induction k generalizing n with
    | zero =>
      cases n with
      | cond c => cases h
      | group id logical children => exact ⟨⟨id, logical, children⟩, .itself⟩
    | succ k ih =>
      cases n with
      | cond c => cases h
      | group id logical children =>
        have hchildren : k < maxDepth children := by
          rw [depth] at h
          omega
        obtain ⟨n, hmem, hn⟩ := lt_maxDepth_iff.1 hchildren
        obtain ⟨g, hg⟩ := ih hn
        exact ⟨g, .inside id logical hmem hg⟩
  · rintro ⟨g, hg⟩
    have hdepth := hg.measures_le.1
    have hgroup : 1 ≤ g.toNode.depth := Nat.le_add_right 1 _
    omega

/-! ## Edits -/

/-- A group is given one more child. -/
inductive Extends : FilterNode → FilterNode → Prop
  | intro (g : FilterGroup) (child : FilterNode) : Extends g.toNode (g.withChild child).toNode

end FilterNode

namespace FilterGroup

variable (g : FilterGroup) (n : FilterNode)

theorem depth_toNode : g.toNode.depth = g.depth := rfl

theorem size_toNode : g.toNode.size = g.size := rfl

theorem size_withChild : (g.withChild n).size = g.size + n.size := by
  rw [size, withChild, FilterNode.totalSize_append, size, Nat.add_assoc]
  rfl

theorem depth_withChild : (g.withChild n).depth = max g.depth (1 + n.depth) := by
  rw [depth, withChild, FilterNode.maxDepth_append, depth, Nat.add_max_add_left]
  congr 2
  exact Nat.max_zero _

end FilterGroup

namespace FilterNode

variable {n m : FilterNode}

theorem Extends.measures_le (h : Extends n m) : n.depth ≤ m.depth ∧ n.size ≤ m.size := by
  cases h with
  | intro g child =>
    have hdepth := g.depth_withChild child
    have hsize := g.size_withChild child
    constructor
    · exact (Nat.le_max_left _ _).trans hdepth.ge
    · exact (Nat.le_add_right _ _).trans hsize.ge

/-- **One edit**, by induction on its place. -/
theorem Anywhere.measures_le (h : Anywhere Extends n m) : n.depth ≤ m.depth ∧ n.size ≤ m.size := by
  induction h with
  | here related => exact related.measures_le
  | inside id logical before after deeper ih =>
    simp only [depth, size, maxDepth_append, totalSize_append, maxDepth, totalSize]
    omega

/-- **Any number of edits**, by induction on them. -/
theorem measures_le_of_extends (h : Relation.ReflTransGen (Anywhere Extends) n m) :
    n.depth ≤ m.depth ∧ n.size ≤ m.size := by
  induction h with
  | refl => exact ⟨Nat.le_refl _, Nat.le_refl _⟩
  | tail _ edit ih =>
    obtain ⟨hdepth, hsize⟩ := edit.measures_le
    exact ⟨ih.1.trans hdepth, ih.2.trans hsize⟩

end FilterNode

/-! ## Limits -/

namespace FilterGroup

variable {g h : FilterGroup}

/-- These are the measures of the tree, and one of them is over its limit. -/
structure IsTooComplex (g : FilterGroup) (depth nodes : Nat) : Prop where
  depth_eq : depth = g.depth
  nodes_eq : nodes = g.size
  exceeds : 16 < depth ∨ 256 < nodes

theorem not_isWithinLimits_iff : ¬ g.IsWithinLimits ↔ 16 < g.depth ∨ 256 < g.size := by
  rw [IsWithinLimits, not_and_or, Nat.not_le, Nat.not_le]
  rfl

theorem IsWithinLimits.not_isTooComplex (hg : g.IsWithinLimits) {depth nodes : Nat} :
    ¬ g.IsTooComplex depth nodes := by
  rintro ⟨rfl, rfl, hexceeds⟩
  exact not_isWithinLimits_iff.2 hexceeds hg

/-- What is no larger is within the limits too. -/
theorem IsWithinLimits.of_le (hg : g.IsWithinLimits)
    (hle : h.depth ≤ g.depth ∧ h.size ≤ g.size) : h.IsWithinLimits :=
  ⟨hle.1.trans hg.1, hle.2.trans hg.2⟩

theorem isWithinLimits_empty : empty.IsWithinLimits := by
  decide

end FilterGroup

/-! ## Rejections -/

section
variable {α β : Type} {x : Except QueryError α} {f : α → Except QueryError β}
  {measures : Nat → Nat → Prop}

/-- The measures with which the outcome rejects a tree as too complex are exactly these. -/
def RejectsTooComplex (x : Except QueryError α) (measures : Nat → Nat → Prop) : Prop :=
  ∀ depth nodes, x = .error (.filterTooComplex depth nodes) ↔ measures depth nodes

/-- The outcome is no such rejection. -/
def NotTooComplex (x : Except QueryError α) : Prop :=
  RejectsTooComplex x fun _ _ => False

theorem NotTooComplex.ok (a : α) : NotTooComplex (.ok a) :=
  fun _ _ => iff_of_false nofun id

namespace RejectsTooComplex

theorem notTooComplex (hx : RejectsTooComplex x measures)
    (hnone : ∀ depth nodes, ¬ measures depth nodes) : NotTooComplex x := by
  intro depth nodes
  exact (hx depth nodes).trans (iff_of_false (hnone depth nodes) id)

/-- **Composition.** What follows makes no difference, if it gives no such rejection. -/
theorem bind (hx : RejectsTooComplex x measures) (hf : ∀ a, x = .ok a → NotTooComplex (f a)) :
    RejectsTooComplex (x.bind f) measures := by
  intro depth nodes
  rw [← hx depth nodes]
  cases x with
  | error e =>
    show Except.error e = Except.error _ ↔ Except.error e = Except.error _
    rw [Except.error.injEq, Except.error.injEq]
  | ok a => exact (hf a rfl depth nodes).trans (NotTooComplex.ok a depth nodes).symm

theorem map (hx : RejectsTooComplex x measures) (f : α → β) :
    RejectsTooComplex (x.map f) measures := by
  have hmap : x.map f = x.bind fun a => .ok (f a) := by
    cases x <;> rfl
  rw [hmap]
  exact hx.bind fun a _ => .ok (f a)

end RejectsTooComplex

end

/-! ## Uses of a filter -/

theorem NotTooComplex.on {α : Type} (p : Pending α) (db : Database) : NotTooComplex (p.on db) := by
  intro depth nodes
  refine iff_of_false (fun h => ?_) id
  obtain ⟨reason, hreason⟩ := Pending.on_eq_error h
  cases hreason

theorem NotTooComplex.mapM_order? (schema : Schema) (sort : Option SortSpec) :
    NotTooComplex (sort.mapM schema.order?) := by
  rcases schema.mapM_order? sort with ⟨-, h⟩ | ⟨spec, -, -, h⟩
  · rw [h]
    exact .ok _
  · rw [h]
    intro depth nodes
    exact iff_of_false nofun id

namespace FilterGroup

variable (g : FilterGroup)

/-- The check tells the measures of the tree. -/
theorem rejects_checkComplexity : RejectsTooComplex g.checkComplexity g.IsTooComplex := by
  intro depth nodes
  rw [checkComplexity_eq]
  split_ifs with hlimits
  · exact iff_of_false nofun hlimits.not_isTooComplex
  · rw [Except.error.injEq, QueryError.filterTooComplex.injEq]
    constructor
    · rintro ⟨rfl, rfl⟩
      exact ⟨rfl, rfl, not_isWithinLimits_iff.1 hlimits⟩
    · rintro ⟨rfl, rfl, -⟩
      exact ⟨rfl, rfl⟩

theorem rejects_compile (schema : Schema) (tenant : String) (sort : Option SortSpec) :
    RejectsTooComplex (compile g schema tenant sort) g.IsTooComplex := by
  rw [compile_eq]
  exact g.rejects_checkComplexity.bind fun _ _ => (NotTooComplex.mapM_order? schema sort).map _

theorem rejects_filterRecords (r : Resource) (records : List Json) :
    RejectsTooComplex (filterRecords r g records) g.IsTooComplex :=
  g.rejects_checkComplexity.bind fun _ _ => .ok _

end FilterGroup

namespace ListingQuery

variable (q : ListingQuery) (r : Resource) (tenant : String) (limits : QueryLimits)

theorem rejects_pending : RejectsTooComplex (q.pending r tenant limits) q.filter.IsTooComplex :=
  (q.filter.rejects_compile r.schema tenant q.sort).map _

/-- The listing that is loaded has no filter, so only the filter of the query can be rejected. -/
theorem rejects_pendingLoaded :
    RejectsTooComplex (q.pendingLoaded r tenant limits) q.filter.IsTooComplex := by
  refine q.filter.rejects_checkComplexity.bind fun _ _ => RejectsTooComplex.map ?_ _
  have hloading := (q.loading limits).rejects_pending r tenant limits
  exact hloading.notTooComplex fun _ _ => FilterGroup.isWithinLimits_empty.not_isTooComplex

end ListingQuery

namespace Database

variable (db : Database) (r : Resource) (tenant : String) (limits : QueryLimits)

theorem rejects_search (q : ListingQuery) :
    RejectsTooComplex (db.search r tenant q limits) q.filter.IsTooComplex := by
  rw [search_eq_pending]
  exact (q.rejects_pending r tenant limits).bind fun p _ => .on p db

theorem rejects_searchLoaded (q : ListingQuery) :
    RejectsTooComplex (db.searchLoaded r tenant q limits) q.filter.IsTooComplex := by
  rw [searchLoaded_eq_pending]
  exact (q.rejects_pendingLoaded r tenant limits).bind fun p _ => .on p db

end Database

/-! ## Filters that are read -/

namespace FilterGroup

variable {j : Json}

theorem toNode_injective {g h : FilterGroup} (heq : g.toNode = h.toNode) : g = h := by
  cases g
  cases h
  cases heq
  rfl

/-- The value is a filter that is too complex, and these are the measures of the filter. -/
def WritesTooComplex (j : Json) (depth nodes : Nat) : Prop :=
  ∃ g : FilterGroup, FilterNode.decode false j = .ok g.toNode ∧ g.IsTooComplex depth nodes

theorem writesTooComplex_iff {g : FilterGroup} {depth nodes : Nat}
    (h : FilterNode.decode false j = .ok g.toNode) :
    WritesTooComplex j depth nodes ↔ g.IsTooComplex depth nodes := by
  constructor
  · rintro ⟨g', h', hcomplex⟩
    obtain rfl := toNode_injective (Except.ok.inj (h.symm.trans h'))
    exact hcomplex
  · intro hcomplex
    exact ⟨g, h, hcomplex⟩

theorem exists_malformed (h : ¬ ∃ g : FilterGroup, FilterNode.decode false j = .ok g.toNode) :
    ∃ reason, ofJson j = .error (.malformedFilter reason) := by
  cases hdecode : FilterNode.decode false j with
  | error e => exact ⟨e.message, by rw [ofJson, hdecode]⟩
  | ok n =>
    cases n with
    | cond c => exact ⟨_, by rw [ofJson, hdecode]⟩
    | group id logical children => exact absurd ⟨⟨id, logical, children⟩, hdecode⟩ h

/-- A group is checked when it is read, and nothing else is a filter. -/
theorem rejects_ofJson (j : Json) : RejectsTooComplex (ofJson j) (WritesTooComplex j) := by
  intro depth nodes
  by_cases hgroup : ∃ g : FilterGroup, FilterNode.decode false j = .ok g.toNode
  · obtain ⟨g, hdecode⟩ := hgroup
    rw [writesTooComplex_iff hdecode, ofJson_eq_bind hdecode]
    exact g.rejects_checkComplexity.bind (fun _ _ => .ok g) depth nodes
  · obtain ⟨reason, hreason⟩ := exists_malformed hgroup
    rw [hreason]
    refine iff_of_false nofun ?_
    rintro ⟨g, hdecode, -⟩
    exact hgroup ⟨g, hdecode⟩

end FilterGroup

namespace FilterRequest

/-- The filter in the request is too complex. -/
def WritesTooComplex (q : FilterRequest) (depth nodes : Nat) : Prop :=
  ∃ j, q.filter = some j ∧ FilterGroup.WritesTooComplex j depth nodes

variable (q : FilterRequest) (r : Resource) (tenant : String) (limits : QueryLimits)

theorem rejects_tree : RejectsTooComplex q.tree q.WritesTooComplex := by
  intro depth nodes
  unfold tree WritesTooComplex
  cases q.filter with
  | none => simp
  | some j => simpa using FilterGroup.rejects_ofJson j depth nodes

/-- The page that is asked for with this tree. -/
def pendingBy (g : FilterGroup) : Except QueryError (Pending RecordPage) :=
  match q.evaluate with
  | .database => ListingQuery.pending ⟨g, q.sort, q.limit, q.offset⟩ r tenant limits
  | .memory => ListingQuery.pendingLoaded ⟨g, q.sort, q.limit, q.offset⟩ r tenant limits

theorem pending_eq_bind :
    q.pending r tenant limits = q.tree.bind (q.pendingBy r tenant limits) := by
  obtain ⟨filter, sort, limit, offset, evaluate⟩ := q
  cases filter <;> cases evaluate <;> rfl

theorem rejects_pendingBy (g : FilterGroup) :
    RejectsTooComplex (q.pendingBy r tenant limits g) g.IsTooComplex := by
  unfold pendingBy
  cases q.evaluate with
  | database => exact ListingQuery.rejects_pending _ r tenant limits
  | memory => exact ListingQuery.rejects_pendingLoaded _ r tenant limits

/-- What is read is within the limits, so only reading rejects. -/
theorem rejects_pending : RejectsTooComplex (q.pending r tenant limits) q.WritesTooComplex := by
  rw [pending_eq_bind]
  refine q.rejects_tree.bind fun g hg => ?_
  have hlimits := isWithinLimits_of_tree hg
  exact (q.rejects_pendingBy r tenant limits g).notTooComplex fun _ _ => hlimits.not_isTooComplex

end FilterRequest

/-- **Requests.** A listing is rejected as too complex iff the filter in its request is. -/
theorem Database.rejects_list (db : Database) (r : Resource) (tenant : String) (q : FilterRequest)
    (limits : QueryLimits) :
    RejectsTooComplex (db.list r tenant q limits) q.WritesTooComplex := by
  rw [list_eq_pending]
  exact (q.rejects_pending r tenant limits).bind fun p _ => .on p db

/-! ## Rules of the measures -/

namespace FilterGroup

/-- What is known of the measures of filters and of the check on them. -/
structure MeasuresAreConsistent : Prop where
  /-- A condition is one node without depth. -/
  condition : ∀ c, (FilterNode.cond c).size = 1 ∧ (FilterNode.cond c).depth = 0
  /-- The size of one more child is added. It stands one group deeper than alone. -/
  child : ∀ (g : FilterGroup) n, (g.withChild n).size = g.size + n.size ∧
    (g.withChild n).depth = max g.depth (1 + n.depth)
  /-- How the children are joined does not matter. -/
  logical : ∀ (g : FilterGroup) l, (g.withLogical l).size = g.size ∧
    (g.withLogical l).depth = g.depth
  /-- A copy of a group in itself doubles the nodes and adds one level. -/
  copy : ∀ g : FilterGroup, (g.withChild g.toNode).size = 2 * g.size ∧
    (g.withChild g.toNode).depth = g.depth + 1
  /-- There are no more levels than nodes. -/
  depth_le_size : ∀ g : FilterGroup, g.depth ≤ g.size
  /-- The levels are those at which a group stands. -/
  levels : ∀ (g : FilterGroup) k,
    k < g.depth ↔ ∃ h : FilterGroup, FilterNode.StandsIn h.toNode k g.toNode
  /-- A group that stands in a tree passes the check if the tree does. -/
  nested : ∀ (g h : FilterGroup) k, FilterNode.StandsIn h.toNode k g.toNode →
    g.checkComplexity = .ok () → h.checkComplexity = .ok ()
  /-- A tree that is rejected stays so, whatever children are added to its groups. -/
  edits : ∀ g edited : FilterGroup,
    Relation.ReflTransGen (FilterNode.Anywhere FilterNode.Extends) g.toNode edited.toNode →
    g.checkComplexity ≠ .ok () → edited.checkComplexity ≠ .ok ()
  /-- The check itself, -/
  checked : ∀ g : FilterGroup, RejectsTooComplex g.checkComplexity g.IsTooComplex
  /-- reading a filter, -/
  read : ∀ j, RejectsTooComplex (ofJson j) (WritesTooComplex j)
  /-- compiling it, -/
  compiled : ∀ (g : FilterGroup) schema tenant sort,
    RejectsTooComplex (compile g schema tenant sort) g.IsTooComplex
  /-- testing loaded records by it, -/
  filtered : ∀ (g : FilterGroup) r records,
    RejectsTooComplex (filterRecords r g records) g.IsTooComplex
  /-- and listing by it, whether the store filters or this program does, give such a rejection for
  exactly the filters that are too complex. -/
  listed : ∀ (db : Database) r tenant (q : ListingQuery) limits,
    RejectsTooComplex (db.search r tenant q limits) q.filter.IsTooComplex ∧
      RejectsTooComplex (db.searchLoaded r tenant q limits) q.filter.IsTooComplex
  /-- So does a request for a listing. -/
  requested : ∀ (db : Database) r tenant (q : FilterRequest) limits,
    RejectsTooComplex (db.list r tenant q limits) q.WritesTooComplex

/-- **Consistency** of the measures, for all filters and all uses of them. -/
theorem measuresAreConsistent : MeasuresAreConsistent where
  condition _ := ⟨rfl, rfl⟩
  child g n := ⟨g.size_withChild n, g.depth_withChild n⟩
  logical _ _ := ⟨rfl, rfl⟩
  copy g := by
    have hsize := g.size_withChild g.toNode
    have hdepth := g.depth_withChild g.toNode
    rw [size_toNode] at hsize
    rw [depth_toNode] at hdepth
    omega
  depth_le_size g := g.toNode.depth_le_size
  levels g _ := FilterNode.lt_depth_iff (n := g.toNode)
  nested g h k hstands hg := by
    obtain ⟨hdepth, hsize⟩ := hstands.measures_le
    have hle : h.depth ≤ g.depth ∧ h.size ≤ g.size :=
      ⟨Nat.le_of_add_right_le hdepth, Nat.le_of_add_right_le hsize⟩
    exact checkComplexity_eq_ok_iff.2 ((checkComplexity_eq_ok_iff.1 hg).of_le hle)
  edits g edited hedits hg hedited := by
    have hle := FilterNode.measures_le_of_extends hedits
    exact hg (checkComplexity_eq_ok_iff.2 ((checkComplexity_eq_ok_iff.1 hedited).of_le hle))
  checked := rejects_checkComplexity
  read := rejects_ofJson
  compiled := rejects_compile
  filtered := rejects_filterRecords
  listed db r tenant q limits :=
    ⟨db.rejects_search r tenant limits q, db.rejects_searchLoaded r tenant limits q⟩
  requested := Database.rejects_list

end FilterGroup

/-- So many groups around an empty one. -/
def sampleNest (n : Nat) : FilterGroup :=
  Nat.repeat (fun g => g.wrap "group" .and) n .empty

/-- Sixteen groups inside each other pass, and so do the inner ones. One more group is rejected, and
a condition beside it does not help. -/
theorem measuresAreConsistent_sample :
    (FilterNode.StandsIn (sampleNest 14).toNode 1 (sampleNest 15).toNode ∧
      (sampleNest 15).checkComplexity = .ok () ∧ (sampleNest 14).checkComplexity = .ok ()) ∧
    (Relation.ReflTransGen (FilterNode.Anywhere FilterNode.Extends) (sampleNest 16).toNode
        ((sampleNest 16).withChild sampleDroppedCondition).toNode ∧
      (sampleNest 16).checkComplexity = .error (.filterTooComplex 17 17) ∧
      ((sampleNest 16).withChild sampleDroppedCondition).checkComplexity ≠ .ok ()) := by
  have hinner : FilterNode.StandsIn (sampleNest 14).toNode 1 (sampleNest 15).toNode :=
    .inside "group" .and List.mem_cons_self .itself
  have hpasses : (sampleNest 15).checkComplexity = .ok () := rfl
  have hedit : FilterNode.Anywhere FilterNode.Extends (sampleNest 16).toNode
      ((sampleNest 16).withChild sampleDroppedCondition).toNode :=
    .here (.intro _ _)
  have hrejected : (sampleNest 16).checkComplexity = .error (.filterTooComplex 17 17) := rfl
  have hfails : (sampleNest 16).checkComplexity ≠ .ok () := by
    rw [hrejected]
    intro h
    cases h
  exact ⟨⟨hinner, hpasses, FilterGroup.measuresAreConsistent.nested _ _ _ hinner hpasses⟩,
    .single hedit, hrejected, FilterGroup.measuresAreConsistent.edits _ _ (.single hedit) hfails⟩

end BillingQuery
