import BillingQuery.Proofs.WireRoundTrip
import Mathlib.Logic.Relation

/-!
# Spellings of a filter

A filter can be written in many ways. The members of a node may stand in any order, members that
are no fields of it may be there or not, and the node may be a list of its kind and its fields, of
which those with a default may be left out at the end.

**Respelling (`Json.Respelling`, `Json.RespelledOnce`).** A node is written in another of these
ways, at the root or below. The values of conditions are no nodes and stay as they are.

**Main result (`FilterGroup.ofJson_of_spellsAlike`).** However often a value is respelled, it is
read as the same filter.

Both forms of a node give fields by name: an object gives its members, and a list stands for the
members that it would give in order. What is read depends on the fields alone, where a default
stands for a field that is not given (`NodeKind.Gives`).
-/

namespace BillingQuery

/-! ## Members -/

section
variable {name other : String} {j : Json} {members others rest : List (String × Json)}

theorem lookup_cons_of_ne (h : other ≠ name) :
    ((name, j) :: rest).lookup other = rest.lookup other := by
  rw [List.lookup_cons, beq_eq_false_iff_ne.2 h]

theorem lookup_insert {before after : List (String × Json)} (h : other ≠ name) :
    (before ++ (name, j) :: after).lookup other = (before ++ after).lookup other := by
  rw [List.lookup_append, List.lookup_append, lookup_cons_of_ne h]

theorem lookup_eq_none_of_nodup (distinct : (((name, j) :: rest).map Prod.fst).Nodup) :
    rest.lookup name = none := by
  rw [List.map_cons, List.nodup_cons] at distinct
  rw [List.lookup_eq_none_iff]
  intro m hm
  rw [bne_iff_ne]
  intro heq
  exact distinct.1 (List.mem_map.2 ⟨m, hm, heq.symm⟩)

/-- The order of members with distinct names plays no part. -/
theorem lookup_eq_of_perm (order : members.Perm others) (distinct : (members.map Prod.fst).Nodup)
    (name : String) : members.lookup name = others.lookup name := by
  induction order with
  | nil => rfl
  | cons m _ ih =>
    obtain ⟨n, j⟩ := m
    rw [List.lookup_cons, List.lookup_cons, ih (List.nodup_cons.1 distinct).2]
  | swap m m' rest =>
    obtain ⟨n, j⟩ := m
    obtain ⟨n', j'⟩ := m'
    have hne : n' ≠ n := fun heq => by simp [heq] at distinct
    by_cases hn : name = n
    · subst hn
      rw [lookup_cons_of_ne hne.symm, List.lookup_cons_self, List.lookup_cons_self]
    · rw [List.lookup_cons, lookup_cons_of_ne hn, lookup_cons_of_ne hn, List.lookup_cons]
  | trans order _ ih ih' => rw [ih distinct, ih' ((order.map Prod.fst).nodup_iff.1 distinct)]

/-- The names of a list's items, as far as they go. -/
theorem lookup_zip {names : List String} (items : List Json) (distinct : names.Nodup) {i : Nat}
    (h : names[i]? = some name) : (names.zip items).lookup name = items[i]? := by
  induction names generalizing items i with
  | nil => simp at h
  | cons n names ih =>
    rw [List.nodup_cons] at distinct
    cases items with
    | nil => simp
    | cons j items =>
      rw [List.zip_cons_cons]
      cases i with
      | zero =>
        obtain rfl : n = name := by simpa using h
        rw [List.lookup_cons_self, List.getElem?_cons_zero]
      | succ i =>
        rw [List.getElem?_cons_succ] at h ⊢
        have hne : name ≠ n := fun heq => distinct.1 (heq ▸ List.mem_of_getElem? h)
        rw [lookup_cons_of_ne hne, ih items distinct.2 h]

end

/-! ## Fields -/

namespace NodeKind

/-- The fields, in the order of their declaration. -/
def fieldNames : NodeKind → List String
  | cond => ["id", "field", "operator", "value", "value2"]
  | group => ["id", "logical", "children"]

theorem nodup_fieldNames (kind : NodeKind) : kind.fieldNames.Nodup := by
  cases kind <;> decide

/-- The field that an item gives. -/
theorem lookup_zip_fieldNames (kind : NodeKind) (items : List Json) (i : Nat) {name : String}
    (h : kind.fieldNames[i]? = some name) :
    (kind.fieldNames.zip items).lookup name = items[i]? :=
  lookup_zip items kind.nodup_fieldNames h

/-- What stands for fields that are not given. -/
def defaults : NodeKind → List (String × Json)
  | cond => [("value", .null), ("value2", .null)]
  | group => [("children", .array [])]

/-- The members have a field that reads as `a`. -/
def HasField (members : List (String × Json)) (name : String) (read : Json → Except DecodeError α)
    (a : α) : Prop :=
  ∃ j, members.lookup name = some j ∧ read j = .ok a

/-- The fields among the members give the node. -/
inductive Gives (members : List (String × Json)) : NodeKind → FilterNode → Prop
  | cond {c : Condition} (id : HasField members "id" Json.asString c.id)
      (field : HasField members "field" Json.asString c.field)
      (operator : HasField members "operator" Json.asString c.operator)
      (value : HasField members "value" (.ok ∘ Json.asOptionalValue) c.value)
      (value2 : HasField members "value2" (.ok ∘ Json.asOptionalValue) c.value2) :
      Gives members .cond (.cond c)
  | group {g : FilterGroup} (id : HasField members "id" Json.asString g.id)
      (logical : HasField members "logical" (Json.asVariant true Logical.variants) g.logical)
      (children : HasField members "children" (FilterNode.decodeChildren true) g.children) :
      Gives members .group g.toNode

theorem Gives.congr {members others : List (String × Json)} {kind : NodeKind} {n : FilterNode}
    (h : ∀ name ∈ kind.fieldNames, members.lookup name = others.lookup name)
    (gives : Gives members kind n) : Gives others kind n := by
  have hfield {α : Type} {name : String} {read : Json → Except DecodeError α} {a : α}
      (hname : name ∈ kind.fieldNames) (has : HasField members name read a) :
      HasField others name read a := by
    obtain ⟨j, hj, hread⟩ := has
    exact ⟨j, (h name hname).symm.trans hj, hread⟩
  cases gives with
  | cond id field operator value value2 =>
    exact .cond (hfield (by decide) id) (hfield (by decide) field) (hfield (by decide) operator)
      (hfield (by decide) value) (hfield (by decide) value2)
  | group id logical children =>
    exact .group (hfield (by decide) id) (hfield (by decide) logical)
      (hfield (by decide) children)

/-- Only the fields of its kind give a node. -/
theorem gives_congr {members others : List (String × Json)} {kind : NodeKind} {n : FilterNode}
    (h : ∀ name ∈ kind.fieldNames, members.lookup name = others.lookup name) :
    Gives members kind n ↔ Gives others kind n :=
  ⟨.congr h, .congr fun name hname => (h name hname).symm⟩

/-- Below the root a kind is read that is read at the root. -/
theorem decode_true {inner : Bool} {j : Json} {kind : NodeKind} (h : decode inner j = .ok kind) :
    decode true j = .ok kind := by
  cases inner with
  | true => exact h
  | false =>
    unfold decode at h ⊢
    split at h
    · exact h
    · simp at h
    · cases h

end NodeKind

/-! ## Reading an object -/

open NodeKind (HasField)

section
variable {members rest : List (String × Json)} {name : String} {j : Json}
  {read : Json → Except DecodeError α}

/-- What is given reads as `a`; what is not given reads as nothing. -/
def ReadsGiven (read : Json → Except DecodeError α) (given : Option Json) (a : Option α) : Prop :=
  given.mapM read = .ok a

@[simp] theorem readsGiven_none {a : Option α} : ReadsGiven read none a ↔ a = none := by
  simp [ReadsGiven, eq_comm, pure, Except.pure]

@[simp] theorem readsGiven_some {a : Option α} :
    ReadsGiven read (some j) a ↔ ∃ b, read j = .ok b ∧ some b = a := by
  cases h : read j <;> simp [ReadsGiven, h, Functor.map, Except.map]

theorem readsGiven_lookup {a : α} : ReadsGiven read (members.lookup name) (some a) ↔
    HasField members name read a := by
  cases h : members.lookup name with
  | none => simp [readsGiven_none, HasField, h]
  | some j => simp [readsGiven_some, HasField, h]

end

/-- The draft is what the members give, each name once. -/
@[mk_iff]
structure ConditionDraft.IsOf (members : List (String × Json)) (d : ConditionDraft) : Prop where
  id : ReadsGiven Json.asString (members.lookup "id") d.id
  field : ReadsGiven Json.asString (members.lookup "field") d.field
  operator : ReadsGiven Json.asString (members.lookup "operator") d.operator
  value : (members.lookup "value").bind Json.asOptionalValue = d.value
  value2 : (members.lookup "value2").bind Json.asOptionalValue = d.value2

namespace ConditionDraft

theorem exists_iff {p : ConditionDraft → Prop} :
    (∃ d, p d) ↔ ∃ id field operator value value2, p ⟨id, field, operator, value, value2⟩ :=
  ⟨fun ⟨d, hd⟩ => ⟨d.id, d.field, d.operator, d.value, d.value2, hd⟩,
    fun ⟨_, _, _, _, _, hd⟩ => ⟨_, hd⟩⟩

theorem ofMembers_eq_ok {members : List (String × Json)} {d : ConditionDraft}
    (distinct : (members.map Prod.fst).Nodup) : ofMembers members = .ok d ↔ d.IsOf members := by
  obtain ⟨id, field, operator, value, value2⟩ := d
  induction members generalizing id field operator value value2 with
  | nil => simp [ofMembers, empty, isOf_iff, eq_comm]
  | cons m rest ih =>
    obtain ⟨name, j⟩ := m
    have hnone := lookup_eq_none_of_nodup distinct
    have ih (d : ConditionDraft) : ofMembers rest = .ok d ↔ d.IsOf rest :=
      ih (List.nodup_cons.1 distinct).2 d.id d.field d.operator d.value d.value2
    unfold ofMembers
    split
    case h_6 hid hfield hoperator hvalue hvalue2 =>
      rw [ih, isOf_iff, isOf_iff, lookup_cons_of_ne (Ne.symm hid),
        lookup_cons_of_ne (Ne.symm hfield), lookup_cons_of_ne (Ne.symm hoperator),
        lookup_cons_of_ne (Ne.symm hvalue), lookup_cons_of_ne (Ne.symm hvalue2)]
    -- A member that is a field is the only one of its name.
    all_goals
      simp (disch := decide) only [bind, bind_eq_ok, ih, isOf_iff, exists_iff, hnone, pure,
        Except.pure, Except.ok.injEq, mk.injEq, readsGiven_none, readsGiven_some,
        List.lookup_cons_self, lookup_cons_of_ne, Option.bind_none, Option.bind_some]
      grind

end ConditionDraft

/-- The draft is what the members give, each name once. -/
@[mk_iff]
structure GroupDraft.IsOf (members : List (String × Json)) (d : GroupDraft) : Prop where
  id : ReadsGiven Json.asString (members.lookup "id") d.id
  logical : ReadsGiven (Json.asVariant true Logical.variants) (members.lookup "logical") d.logical
  children : ReadsGiven (FilterNode.decodeChildren true) (members.lookup "children") d.children

namespace GroupDraft

theorem exists_iff {p : GroupDraft → Prop} :
    (∃ d, p d) ↔ ∃ id logical children, p ⟨id, logical, children⟩ :=
  ⟨fun ⟨d, hd⟩ => ⟨d.id, d.logical, d.children, hd⟩, fun ⟨_, _, _, hd⟩ => ⟨_, hd⟩⟩

theorem decodeGroupMembers_eq_ok {members : List (String × Json)} {d : GroupDraft}
    (distinct : (members.map Prod.fst).Nodup) :
    FilterNode.decodeGroupMembers true members = .ok d ↔ d.IsOf members := by
  obtain ⟨id, logical, children⟩ := d
  induction members generalizing id logical children with
  | nil => simp [FilterNode.decodeGroupMembers, empty, isOf_iff, eq_comm]
  | cons m rest ih =>
    obtain ⟨name, j⟩ := m
    have hnone := lookup_eq_none_of_nodup distinct
    have ih (d : GroupDraft) : FilterNode.decodeGroupMembers true rest = .ok d ↔ d.IsOf rest :=
      ih (List.nodup_cons.1 distinct).2 d.id d.logical d.children
    unfold FilterNode.decodeGroupMembers
    split
    case h_4 hid hlogical hchildren =>
      rw [ih, isOf_iff, isOf_iff, lookup_cons_of_ne (Ne.symm hid),
        lookup_cons_of_ne (Ne.symm hlogical), lookup_cons_of_ne (Ne.symm hchildren)]
    all_goals
      simp (disch := decide) only [bind, bind_eq_ok, ih, isOf_iff, exists_iff, hnone, pure,
        Except.pure, Except.ok.injEq, mk.injEq, readsGiven_none, readsGiven_some,
        List.lookup_cons_self, lookup_cons_of_ne]
      grind

end GroupDraft

/-! ## What is given -/

theorem required_eq_ok {name : String} {o : Option α} {a : α} :
    required name o = .ok a ↔ o = some a := by
  cases o <;> simp [required]

theorem ConditionDraft.finish_eq_ok {d : ConditionDraft} {c : Condition} :
    d.finish = .ok c ↔ d = ⟨some c.id, some c.field, some c.operator, c.value, c.value2⟩ := by
  obtain ⟨id, field, operator, value, value2⟩ := d
  obtain ⟨id', field', operator', value', value2'⟩ := c
  simp only [finish, bind, bind_eq_ok, required_eq_ok, pure, Except.pure, Except.ok.injEq,
    Condition.mk.injEq, mk.injEq]
  grind

theorem GroupDraft.finish_eq_ok {d : GroupDraft} {g : FilterGroup} :
    d.finish = .ok g ↔
      d.id = some g.id ∧ d.logical = some g.logical ∧ d.children.getD [] = g.children := by
  obtain ⟨id, logical, children⟩ := g
  simp only [finish, bind, bind_eq_ok, required_eq_ok, pure, Except.pure, Except.ok.injEq,
    FilterGroup.mk.injEq]
  grind

namespace NodeKind

section
variable {members : List (String × Json)} {name : String} {read : Json → Except DecodeError α}

theorem hasField_append_of_none {rest : List (String × Json)} {a : α}
    (h : rest.lookup name = none) :
    HasField (members ++ rest) name read a ↔ HasField members name read a := by
  rw [HasField, List.lookup_append, h, Option.or_none, HasField]

theorem hasField_append_of_some {rest : List (String × Json)} {j : Json} {a b : α}
    (h : rest.lookup name = some j) (hread : read j = .ok b) :
    HasField (members ++ rest) name read a ↔
      ∃ o, ReadsGiven read (members.lookup name) o ∧ o.getD b = a := by
  rw [HasField, List.lookup_append, h]
  cases members.lookup name with
  | none => simp [hread]
  | some k => simp

end

section
variable {members : List (String × Json)}

/-- A condition needs three of its fields. -/
theorem gives_condition_iff {c : Condition} :
    Gives (members ++ cond.defaults) .cond (.cond c) ↔
      HasField members "id" Json.asString c.id ∧ HasField members "field" Json.asString c.field ∧
      HasField members "operator" Json.asString c.operator ∧
      (members.lookup "value").bind Json.asOptionalValue = c.value ∧
      (members.lookup "value2").bind Json.asOptionalValue = c.value2 := by
  have hvalue {name : String} {value : Option Json} (h : cond.defaults.lookup name = some .null) :
      HasField (members ++ cond.defaults) name (.ok ∘ Json.asOptionalValue) value ↔
        (members.lookup name).bind Json.asOptionalValue = value := by
    rw [HasField, List.lookup_append, h]
    cases members.lookup name <;> simp [Json.asOptionalValue]
  have hid : cond.defaults.lookup "id" = none := rfl
  have hfield : cond.defaults.lookup "field" = none := rfl
  have hoperator : cond.defaults.lookup "operator" = none := rfl
  rw [← hasField_append_of_none hid, ← hasField_append_of_none hfield,
    ← hasField_append_of_none hoperator, ← hvalue rfl, ← hvalue rfl]
  constructor
  · rintro ⟨id, field, operator, value, value2⟩
    exact ⟨id, field, operator, value, value2⟩
  · rintro ⟨id, field, operator, value, value2⟩
    exact .cond id field operator value value2

/-- A group needs its id and logical. -/
theorem gives_group_iff {g : FilterGroup} :
    Gives (members ++ group.defaults) .group g.toNode ↔
      HasField members "id" Json.asString g.id ∧
      HasField members "logical" (Json.asVariant true Logical.variants) g.logical ∧
      ∃ children, ReadsGiven (FilterNode.decodeChildren true) (members.lookup "children") children ∧
        children.getD [] = g.children := by
  have hid : group.defaults.lookup "id" = none := rfl
  have hlogical : group.defaults.lookup "logical" = none := rfl
  have hchildren : group.defaults.lookup "children" = some (.array []) := rfl
  have hnil : FilterNode.decodeChildren true (.array []) = .ok [] := rfl
  rw [← hasField_append_of_none hid, ← hasField_append_of_none hlogical,
    ← hasField_append_of_some hchildren hnil]
  constructor
  · intro gives
    obtain ⟨_, _, _⟩ := g
    cases gives with
    | group id logical children => exact ⟨id, logical, children⟩
  · rintro ⟨id, logical, children⟩
    exact .group id logical children

theorem gives_cond_iff_exists {n : FilterNode} :
    Gives members .cond n ↔ ∃ c, Gives members .cond (.cond c) ∧ .cond c = n := by
  constructor
  · intro gives
    cases gives with
    | cond id field operator value value2 =>
      exact ⟨_, .cond id field operator value value2, rfl⟩
  · rintro ⟨c, gives, rfl⟩
    exact gives

theorem gives_group_iff_exists {n : FilterNode} :
    Gives members .group n ↔ ∃ g : FilterGroup, Gives members .group g.toNode ∧ g.toNode = n := by
  constructor
  · intro gives
    cases gives with
    | group id logical children => exact ⟨_, .group id logical children, rfl⟩
  · rintro ⟨g, gives, rfl⟩
    exact gives

end
end NodeKind

/-! ## Nodes -/

theorem Json.itemAt_eq_ok {items : List Json} {i : Nat} {shape : String} {arity : Nat} {j : Json} :
    itemAt items i shape arity = .ok j ↔ items[i]? = some j := by
  unfold itemAt
  cases items[i]? <;> simp

theorem Condition.ofItems_eq_ok {items : List Json} {c : Condition} :
    ofItems items = .ok c ↔ items.length ≤ 5 ∧ NodeKind.cond.Gives
      (NodeKind.cond.fieldNames.zip items ++ NodeKind.cond.defaults) (.cond c) := by
  obtain ⟨id, field, operator, value, value2⟩ := c
  have hitem := NodeKind.cond.lookup_zip_fieldNames items
  simp only [NodeKind.gives_condition_iff, HasField, hitem 0 rfl, hitem 1 rfl, hitem 2 rfl,
    hitem 3 rfl, hitem 4 rfl, ofItems, bind, bind_eq_ok, Json.itemAt_eq_ok]
  by_cases hlength : items.length ≤ 5
  · simp only [if_neg (Nat.not_lt.2 hlength), hlength, pure, Except.pure, Except.ok.injEq, mk.injEq]
    grind
  · simp only [if_pos (Nat.not_le.1 hlength), hlength, throw, throwThe, MonadExceptOf.throw,
      Except.bind, reduceCtorEq, and_false, exists_false, false_and]

theorem FilterNode.decodeGroupItems_eq_ok {items : List Json} {g : FilterGroup} :
    decodeGroupItems true items = .ok g ↔ items.length ≤ 3 ∧ NodeKind.group.Gives
      (NodeKind.group.fieldNames.zip items ++ NodeKind.group.defaults) g.toNode := by
  obtain ⟨id, logical, children⟩ := g
  have hitem := NodeKind.group.lookup_zip_fieldNames items
  simp only [NodeKind.gives_group_iff, HasField, hitem 0 rfl, hitem 1 rfl, hitem 2 rfl]
  match items with
  | [] => simp [decodeGroupItems]
  | [i₀] => simp [decodeGroupItems, bind, bind_eq_ok]
  | [i₀, i₁] => simp [decodeGroupItems, bind, bind_eq_ok, pure, Except.pure]
  | [i₀, i₁, i₂] => simp [decodeGroupItems, bind, bind_eq_ok, pure, Except.pure]
  | i₀ :: i₁ :: i₂ :: j :: js =>
    have hlong : ¬ (i₀ :: i₁ :: i₂ :: j :: js).length ≤ 3 := by simp
    simp only [hlong, false_and, iff_false]
    intro h
    rw [decodeGroupItems] at h
    obtain ⟨_, -, h⟩ := bind_eq_ok.1 h
    obtain ⟨_, -, h⟩ := bind_eq_ok.1 h
    obtain ⟨_, -, h⟩ := bind_eq_ok.1 h
    cases h

namespace FilterNode

variable {inner : Bool} {members : List (String × Json)} {n : FilterNode}

/-- **Objects.** A node is read from the fields that its members give, with the defaults. -/
theorem decode_object_eq_ok (distinct : (members.map Prod.fst).Nodup) :
    decode inner (.object members) = .ok n ↔ ∃ kind,
      (∃ j, members.lookup "kind" = some j ∧ NodeKind.decode inner j = .ok kind) ∧
      kind.Gives (members ++ kind.defaults) n := by
  have hcond (c : Condition) : (∃ d, ConditionDraft.ofMembers members = .ok d ∧ d.finish = .ok c) ↔
      NodeKind.cond.Gives (members ++ NodeKind.cond.defaults) (.cond c) := by
    simp only [ConditionDraft.ofMembers_eq_ok distinct, ConditionDraft.finish_eq_ok,
      exists_eq_right, ConditionDraft.isOf_iff, readsGiven_lookup, NodeKind.gives_condition_iff]
  have hgroup (g : FilterGroup) :
      (∃ d, decodeGroupMembers true members = .ok d ∧ d.finish = .ok g) ↔
        NodeKind.group.Gives (members ++ NodeKind.group.defaults) g.toNode := by
    simp only [GroupDraft.decodeGroupMembers_eq_ok distinct, GroupDraft.finish_eq_ok,
      GroupDraft.exists_iff, GroupDraft.isOf_iff, ← readsGiven_lookup, NodeKind.gives_group_iff]
    grind
  have hkind (kind : NodeKind) : NodeKind.ofMembers inner members = .ok kind ↔
      ∃ j, members.lookup "kind" = some j ∧ NodeKind.decode inner j = .ok kind := by
    simp only [NodeKind.ofMembers, bind, bind_eq_ok, required_eq_ok]
  rw [decode]
  simp only [bind, bind_eq_ok, hkind]
  refine exists_congr fun kind => and_congr_right fun _ => ?_
  cases kind with
  | cond =>
    rw [NodeKind.gives_cond_iff_exists]
    simp only [← hcond, bind_eq_ok, pure, Except.pure, Except.ok.injEq]
    grind
  | group =>
    rw [NodeKind.gives_group_iff_exists]
    simp only [← hgroup, bind_eq_ok, pure, Except.pure, Except.ok.injEq]
    grind

/-- **Lists.** A node is read from the fields that its items give in order, with the defaults. -/
theorem decode_array_eq_ok {j : Json} {items : List Json} :
    decode inner (.array (j :: items)) = .ok n ↔ ∃ kind, NodeKind.decode inner j = .ok kind ∧
      items.length ≤ kind.fieldNames.length ∧
      kind.Gives (kind.fieldNames.zip items ++ kind.defaults) n := by
  rw [decode, decodeItems]
  simp only [bind, bind_eq_ok]
  refine exists_congr fun kind => and_congr_right fun _ => ?_
  cases kind with
  | cond =>
    rw [NodeKind.gives_cond_iff_exists]
    simp only [bind_eq_ok, Condition.ofItems_eq_ok, pure, Except.pure, Except.ok.injEq, and_assoc,
      exists_and_left]
    rfl
  | group =>
    rw [NodeKind.gives_group_iff_exists]
    simp only [bind_eq_ok, decodeGroupItems_eq_ok, pure, Except.pure, Except.ok.injEq, and_assoc,
      exists_and_left]
    rfl

end FilterNode

/-! ## Respelling -/

namespace Json

/-- A node is spelled in another way. Objects do not repeat a name. -/
inductive Respelling : Json → Json → Prop
  /-- The members, the kind among them, stand in another order. -/
  | reorder {members others : List (String × Json)} (distinct : (members.map Prod.fst).Nodup)
      (order : members.Perm others) : Respelling (.object members) (.object others)
  /-- A member is added that is no field of the node. -/
  | add (before after : List (String × Json)) {name : String} {j k : Json} {kind : NodeKind}
      (distinct : ((before ++ (name, j) :: after).map Prod.fst).Nodup)
      (given : (before ++ after).lookup "kind" = some k) (means : NodeKind.decode true k = .ok kind)
      (unknown : name ∉ kind.fieldNames) :
      Respelling (.object (before ++ after)) (.object (before ++ (name, j) :: after))
  /-- The node is a list of its kind and its fields. A default may be left out of either form, out
  of the list only at the end. -/
  | list {members : List (String × Json)} {k : Json} {items : List Json} {kind : NodeKind}
      (distinct : (members.map Prod.fst).Nodup) (given : members.lookup "kind" = some k)
      (means : NodeKind.decode true k = .ok kind) (short : items.length ≤ kind.fieldNames.length)
      (same : ∀ name ∈ kind.fieldNames,
        (members ++ kind.defaults).lookup name =
          (kind.fieldNames.zip items ++ kind.defaults).lookup name) :
      Respelling (.object members) (.array (k :: items))

/-- One node is respelled: this one, or one below it in either form. -/
inductive RespelledOnce : Json → Json → Prop
  | here {v w : Json} (respelling : Respelling v w) : RespelledOnce v w
  | inObject (before after : List (String × Json)) (js ks : List Json) {v w : Json}
      (deeper : RespelledOnce v w) :
      RespelledOnce (.object (before ++ ("children", .array (js ++ v :: ks)) :: after))
        (.object (before ++ ("children", .array (js ++ w :: ks)) :: after))
  | inList (kind id logical : Json) (js ks rest : List Json) {v w : Json}
      (deeper : RespelledOnce v w) :
      RespelledOnce (.array (kind :: id :: logical :: .array (js ++ v :: ks) :: rest))
        (.array (kind :: id :: logical :: .array (js ++ w :: ks) :: rest))

/-- Either value is the other one respelled, any number of times. -/
def SpellsAlike : Json → Json → Prop := Relation.EqvGen RespelledOnce

end Json

namespace FilterNode

/-- The values are read as the same node, if one of them is. -/
def ReadAlike (v w : Json) : Prop :=
  ∀ (inner : Bool) (n : FilterNode), decode inner v = .ok n ↔ decode inner w = .ok n

/-! ### At the node -/

section
variable {members others : List (String × Json)}

/-- Objects are read alike if they have the same kind and the same fields. -/
theorem readAlike_of_lookup (distinct : (members.map Prod.fst).Nodup)
    (distinct' : (others.map Prod.fst).Nodup)
    (hkind : members.lookup "kind" = others.lookup "kind")
    (hfields : ∀ k kind, members.lookup "kind" = some k → NodeKind.decode true k = .ok kind →
      ∀ name ∈ kind.fieldNames, members.lookup name = others.lookup name) :
    ReadAlike (.object members) (.object others) := by
  intro inner n
  rw [decode_object_eq_ok distinct, decode_object_eq_ok distinct', ← hkind]
  refine exists_congr fun kind => and_congr_right fun ⟨k, hk, hmeans⟩ => ?_
  refine NodeKind.gives_congr fun name hname => ?_
  rw [List.lookup_append, List.lookup_append,
    hfields k kind hk (NodeKind.decode_true hmeans) name hname]

/-- **Respelling a node.** -/
theorem readAlike_of_respelling {v w : Json} (h : v.Respelling w) : ReadAlike v w := by
  cases h with
  | @reorder members others distinct order =>
    have distinct' := (order.map Prod.fst).nodup_iff.1 distinct
    exact readAlike_of_lookup distinct distinct' (lookup_eq_of_perm order distinct "kind")
      fun _ _ _ _ name _ => lookup_eq_of_perm order distinct name
  | @add before after name j k kind distinct given means unknown =>
    have hfirst : (((name, j) :: (before ++ after)).map Prod.fst).Nodup :=
      (List.perm_middle.map Prod.fst).nodup_iff.1 distinct
    have hname : "kind" ≠ name := by
      rintro rfl
      rw [lookup_eq_none_of_nodup hfirst] at given
      cases given
    refine readAlike_of_lookup (List.nodup_cons.1 hfirst).2 distinct
      (lookup_insert hname).symm fun k' kind' given' means' other hother => ?_
    obtain rfl : k' = k := Option.some.inj (given'.symm.trans given)
    obtain rfl : kind' = kind := Except.ok.inj (means'.symm.trans means)
    refine (lookup_insert ?_).symm
    rintro rfl
    exact unknown hother
  | @list members k items kind distinct given means short same =>
    intro inner n
    rw [decode_object_eq_ok distinct, decode_array_eq_ok]
    refine exists_congr fun kind' => ?_
    constructor
    · rintro ⟨⟨k', given', means'⟩, gives⟩
      obtain rfl : k' = k := Option.some.inj (given'.symm.trans given)
      obtain rfl : kind' = kind :=
        Except.ok.inj ((NodeKind.decode_true means').symm.trans means)
      exact ⟨means', short, (NodeKind.gives_congr same).1 gives⟩
    · rintro ⟨means', _, gives⟩
      obtain rfl : kind' = kind :=
        Except.ok.inj ((NodeKind.decode_true means').symm.trans means)
      exact ⟨⟨k, given, means'⟩, (NodeKind.gives_congr same).2 gives⟩

end

/-! ### Below the node -/

section
variable {v w : Json}

theorem decodeAll_congr (h : ReadAlike v w) (js ks : List Json) {ns : List FilterNode} :
    decodeAll true (js ++ v :: ks) = .ok ns ↔ decodeAll true (js ++ w :: ks) = .ok ns := by
  induction js generalizing ns with
  | nil => simp only [List.nil_append, decodeAll, bind, bind_eq_ok, h true]
  | cons j js ih => simp only [List.cons_append, decodeAll, bind, bind_eq_ok, ih]

theorem decodeGroupMembers_congr (h : ReadAlike v w) (before after : List (String × Json))
    (js ks : List Json) {d : GroupDraft} :
    decodeGroupMembers true (before ++ ("children", .array (js ++ v :: ks)) :: after) = .ok d ↔
      decodeGroupMembers true (before ++ ("children", .array (js ++ w :: ks)) :: after) =
        .ok d := by
  induction before generalizing d with
  | nil =>
    simp only [List.nil_append, decodeGroupMembers, decodeChildren, bind, bind_eq_ok,
      decodeAll_congr h js ks]
  | cons m before ih =>
    rw [List.cons_append, List.cons_append]
    unfold decodeGroupMembers
    split <;> simp only [bind, bind_eq_ok, ih]

/-- To a condition, children are a member like any other that is no field of it. -/
theorem ofMembers_children (before after : List (String × Json)) (j k : Json) :
    ConditionDraft.ofMembers (before ++ ("children", j) :: after) =
      ConditionDraft.ofMembers (before ++ ("children", k) :: after) := by
  induction before with
  | nil => rfl
  | cons m before ih =>
    rw [List.cons_append, List.cons_append]
    unfold ConditionDraft.ofMembers
    split <;> simp only [ih]

theorem readAlike_inObject (h : ReadAlike v w) (before after : List (String × Json))
    (js ks : List Json) :
    ReadAlike (.object (before ++ ("children", .array (js ++ v :: ks)) :: after))
      (.object (before ++ ("children", .array (js ++ w :: ks)) :: after)) := by
  intro inner n
  have hkind (j : Json) : (before ++ ("children", j) :: after).lookup "kind" =
      (before ++ after).lookup "kind" := lookup_insert (by decide)
  rw [decode, decode, NodeKind.ofMembers, NodeKind.ofMembers, hkind, hkind]
  simp only [bind, bind_eq_ok]
  refine exists_congr fun kind => and_congr_right fun _ => ?_
  cases kind with
  | cond => rw [ofMembers_children before after (.array (js ++ v :: ks)) (.array (js ++ w :: ks))]
  | group => simp only [bind_eq_ok, decodeGroupMembers_congr h before after js ks]

/-- A list of nodes is no operator, so the node is a group if it is read. -/
theorem readAlike_inList (h : ReadAlike v w) (kind id logical : Json) (js ks rest : List Json) :
    ReadAlike (.array (kind :: id :: logical :: .array (js ++ v :: ks) :: rest))
      (.array (kind :: id :: logical :: .array (js ++ w :: ks) :: rest)) := by
  intro inner n
  have hcond (items : List Json) (c : Condition) :
      ¬ Condition.ofItems (id :: logical :: .array items :: rest) = .ok c := by
    rw [Condition.ofItems_eq_ok, NodeKind.gives_condition_iff]
    rintro ⟨-, -, -, ⟨j, hj, hread⟩, -⟩
    cases hj
    cases hread
  rw [decode, decode, decodeItems, decodeItems]
  simp only [bind, bind_eq_ok]
  refine exists_congr fun kind => and_congr_right fun _ => ?_
  cases kind with
  | cond => simp only [bind_eq_ok, hcond, false_and, exists_false]
  | group =>
    simp only [bind_eq_ok, decodeGroupItems, decodeChildren, bind, decodeAll_congr h js ks]

/-- Respelling one node. -/
theorem readAlike_of_respelledOnce (h : v.RespelledOnce w) : ReadAlike v w := by
  induction h with
  | here respelling => exact readAlike_of_respelling respelling
  | inObject before after js ks _ ih => exact readAlike_inObject ih before after js ks
  | inList kind id logical js ks rest _ ih => exact readAlike_inList ih kind id logical js ks rest

/-- Respelling any number of nodes. -/
theorem readAlike_of_spellsAlike (h : v.SpellsAlike w) : ReadAlike v w := by
  induction h with
  | rel v w once => exact readAlike_of_respelledOnce once
  | refl v => exact fun _ _ => Iff.rfl
  | symm v w _ ih => exact fun inner n => (ih inner n).symm
  | trans u v w _ _ ih ih' => exact fun inner n => (ih inner n).trans (ih' inner n)

end

end FilterNode

/-- **Spellings.** A value that is a filter respelled is read as that filter. -/
theorem FilterGroup.ofJson_of_spellsAlike {v w : Json} {g : FilterGroup} (h : v.SpellsAlike w)
    (hread : ofJson v = .ok g) : ofJson w = .ok g := by
  obtain ⟨hdecode, hlimits⟩ := decode_of_ofJson hread
  have hdecode' := (FilterNode.readAlike_of_spellsAlike h false g.toNode).1 hdecode
  rw [ofJson_of_decode hdecode', if_pos hlimits]

/-- A filter with one condition, as it is written. -/
def sampleKeyed : Json :=
  .object [("kind", .string "group"), ("id", .string "root"), ("logical", .string "AND"),
    ("children", .array [.object [("kind", .string "cond"), ("id", .string "1"),
      ("field", .string "name"), ("operator", .string "equals"), ("value", .string "Acme")]])]

/-- The same condition as a list. -/
def sampleItems : Json :=
  .array [.string "cond", .string "1", .string "name", .string "equals", .string "Acme", .null]

/-- The members of the filter, with the list for its condition. -/
def sampleMembers : List (String × Json) :=
  [("kind", .string "group"), ("id", .string "root"), ("logical", .string "AND"),
    ("children", .array [sampleItems])]

/-- These members in another order, and one more. -/
def sampleRespelled : Json :=
  .object [("children", .array [sampleItems]), ("color", .string "red"),
    ("logical", .string "AND"), ("id", .string "root"), ("kind", .string "group")]

theorem ofJson_of_spellsAlike_sample :
    (sampleKeyed.SpellsAlike sampleRespelled ∧ FilterGroup.ofJson sampleKeyed =
      .ok ⟨"root", .and, [.cond (.on "1" "name" "equals" (.string "Acme"))]⟩) ∧
    FilterGroup.ofJson sampleRespelled =
      .ok ⟨"root", .and, [.cond (.on "1" "name" "equals" (.string "Acme"))]⟩ := by
  have hlisted : sampleKeyed.RespelledOnce (.object sampleMembers) :=
    .inObject (sampleMembers.take 3) [] [] [] <| .here <| .list (by decide) rfl rfl (by decide)
      (by simp [NodeKind.fieldNames, NodeKind.defaults, List.lookup_cons])
  have hreordered : Json.RespelledOnce (.object sampleMembers) (.object sampleMembers.reverse) :=
    .here (.reorder (by decide) (List.reverse_perm _).symm)
  have hadded : Json.RespelledOnce (.object sampleMembers.reverse) sampleRespelled :=
    .here (.add [_] _ (by decide) rfl rfl (by decide))
  have hspells : sampleKeyed.SpellsAlike sampleRespelled :=
    .trans _ _ _ (.rel _ _ hlisted) (.trans _ _ _ (.rel _ _ hreordered) (.rel _ _ hadded))
  have hread : FilterGroup.ofJson sampleKeyed =
      .ok ⟨"root", .and, [.cond (.on "1" "name" "equals" (.string "Acme"))]⟩ := rfl
  exact ⟨⟨hspells, hread⟩, FilterGroup.ofJson_of_spellsAlike hspells hread⟩

end BillingQuery
