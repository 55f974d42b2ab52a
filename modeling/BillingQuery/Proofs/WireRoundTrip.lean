import BillingQuery.Filter.Wire
import BillingQuery.Json.Embedded
import BillingQuery.Proofs.Assembled
import BillingQuery.Proofs.Compiled
import BillingQuery.Proofs.RowRecord

/-!
# Writing and reading filter trees

A written condition leaves out the values that it does not have, and a null that is read counts as
left out. So a filter whose conditions hold a null is not read back as it was, and any other is.

**Main result (`FilterGroup.ofJson_toJson`).** Reading a written filter gives it back without the
nulls that were values of its conditions, or rejects it for its own depth and size. A filter that
was read is read back as it is.

Reading a tree changes its conditions alone, whatever their values are (`FilterNode.decode_toJson`):
a value is kept up to its repeated names, also where it looks like a node or holds nulls further
down. So the first part needs only what reading does to one value, and the second part that it does
nothing to a value that was read.
-/

namespace BillingQuery

/-! ## Values with distinct names -/

namespace Json

mutual

/-- No object in the value repeats a name. -/
def HasDistinctNames : Json → Prop
  | .array items => HaveDistinctNames items
  | .object members => (members.map Prod.fst).Nodup ∧ MembersHaveDistinctNames members
  | _ => True

def HaveDistinctNames : List Json → Prop
  | [] => True
  | j :: js => HasDistinctNames j ∧ HaveDistinctNames js

def MembersHaveDistinctNames : List (String × Json) → Prop
  | [] => True
  | (_, j) :: rest => HasDistinctNames j ∧ MembersHaveDistinctNames rest

end

mutual

/-- Where no name is repeated there is nothing to collapse. -/
theorem collapse_of_hasDistinctNames (j : Json) (h : j.HasDistinctNames) : j.collapse = j := by
  cases j with
  | null | bool _ | number _ | string _ => rfl
  | array items => rw [collapse, collapseItems_of_haveDistinctNames items h]
  | object members =>
    rw [collapse, collapseMembers_of_haveDistinctNames [] members h.1 h.2, List.nil_append]

theorem collapseItems_of_haveDistinctNames (js : List Json) (h : HaveDistinctNames js) :
    collapseItems js = js := by
  cases js with
  | nil => rfl
  | cons j js =>
    rw [collapseItems, collapse_of_hasDistinctNames j h.1,
      collapseItems_of_haveDistinctNames js h.2]

theorem collapseMembers_of_haveDistinctNames (seen members : List (String × Json))
    (hnames : ((seen ++ members).map Prod.fst).Nodup) (h : MembersHaveDistinctNames members) :
    collapseMembers seen members = seen ++ members := by
  cases members with
  | nil => rw [collapseMembers, List.append_nil]
  | cons m rest =>
    obtain ⟨name, j⟩ := m
    have hnew : name ∉ seen.map Prod.fst := by
      intro hseen
      rw [List.map_append, List.map_cons, List.nodup_append] at hnames
      exact hnames.2.2 _ hseen _ List.mem_cons_self rfl
    have happend : seen ++ (name, j) :: rest = (seen ++ [(name, j)]) ++ rest := by simp
    rw [happend] at hnames ⊢
    rw [collapseMembers, collapse_of_hasDistinctNames j h.1, setMember_of_notMem hnew,
      collapseMembers_of_haveDistinctNames _ rest hnames h.2]

end

/-! ### Collapsed values -/

theorem map_fst_setMember {members : List (String × Json)} {name : String} {v : Json}
    (h : name ∈ members.map Prod.fst) :
    (setMember members name v).map Prod.fst = members.map Prod.fst := by
  induction members with
  | nil => cases h
  | cons m members ih =>
    rw [setMember]
    split_ifs with hname
    · rw [List.map_cons, List.map_cons, hname]
    · have hrest : name ∈ members.map Prod.fst :=
        (List.mem_cons.1 h).resolve_left fun heq => hname heq.symm
      rw [List.map_cons, List.map_cons, ih hrest]

theorem nodup_setMember {members : List (String × Json)} {name : String} {v : Json}
    (h : (members.map Prod.fst).Nodup) : ((setMember members name v).map Prod.fst).Nodup := by
  by_cases hname : name ∈ members.map Prod.fst
  · rw [map_fst_setMember hname]
    exact h
  · rw [setMember_of_notMem hname, List.map_append]
    refine List.nodup_append.2 ⟨h, List.nodup_singleton name, ?_⟩
    intro a ha b hb hab
    obtain rfl := List.mem_singleton.1 hb
    exact hname (hab ▸ ha)

theorem haveDistinctNames_setMember {members : List (String × Json)} {name : String} {v : Json}
    (h : MembersHaveDistinctNames members) (hv : v.HasDistinctNames) :
    MembersHaveDistinctNames (setMember members name v) := by
  induction members with
  | nil => exact ⟨hv, trivial⟩
  | cons m members ih =>
    rw [setMember]
    split_ifs
    · exact ⟨hv, h.2⟩
    · exact ⟨h.1, ih h.2⟩

mutual

theorem hasDistinctNames_collapse (j : Json) : j.collapse.HasDistinctNames := by
  cases j with
  | null | bool _ | number _ | string _ => trivial
  | array items =>
    rw [collapse]
    exact haveDistinctNames_collapseItems items
  | object members =>
    rw [collapse]
    exact haveDistinctNames_collapseMembers [] members List.nodup_nil trivial

theorem haveDistinctNames_collapseItems (js : List Json) :
    HaveDistinctNames (collapseItems js) := by
  cases js with
  | nil => trivial
  | cons j js => exact ⟨hasDistinctNames_collapse j, haveDistinctNames_collapseItems js⟩

theorem haveDistinctNames_collapseMembers (seen members : List (String × Json))
    (hnames : (seen.map Prod.fst).Nodup) (h : MembersHaveDistinctNames seen) :
    ((collapseMembers seen members).map Prod.fst).Nodup ∧
      MembersHaveDistinctNames (collapseMembers seen members) := by
  cases members with
  | nil => exact ⟨hnames, h⟩
  | cons m rest =>
    obtain ⟨name, j⟩ := m
    rw [collapseMembers]
    exact haveDistinctNames_collapseMembers _ rest (nodup_setMember hnames)
      (haveDistinctNames_setMember h (hasDistinctNames_collapse j))

end

/-- The value of a text has distinct names. -/
theorem hasDistinctNames_valueOfText? {depth : Nat} {s : String} {v : Json}
    (h : valueOfText? depth s = some v) : v.HasDistinctNames := by
  obtain ⟨j, -, rfl⟩ := Option.map_eq_some_iff.1 h
  exact hasDistinctNames_collapse j

theorem collapse_collapse (j : Json) : j.collapse.collapse = j.collapse :=
  collapse_of_hasDistinctNames _ j.hasDistinctNames_collapse

/-- A value that was read is read as it is. -/
theorem asOptionalValue_bind (j : Json) :
    j.asOptionalValue.bind asOptionalValue = j.asOptionalValue := by
  have hcollapse := j.collapse_collapse
  cases j with
  | null | bool _ | number _ | string _ => rfl
  | array _ | object _ => exact congrArg some hcollapse

end Json

/-! ## Conditions and their values -/

namespace Condition

/-- The values that are there, null or not. -/
def values (c : Condition) : List Json := c.value.toList ++ c.value2.toList

/-- The condition as it is read back. -/
def asRead (c : Condition) : Condition :=
  { c with
    value := c.value.bind Json.asOptionalValue
    value2 := c.value2.bind Json.asOptionalValue }

/-- A value other than null. -/
def present? : Option Json → Option Json
  | some .null => none
  | value => value

/-- The condition without the nulls that were its values. -/
def withoutNulls (c : Condition) : Condition :=
  { c with value := present? c.value, value2 := present? c.value2 }

theorem bind_asOptionalValue {value : Option Json} (h : ∀ v ∈ value, v.HasDistinctNames) :
    value.bind Json.asOptionalValue = present? value := by
  cases value with
  | none => rfl
  | some v =>
    have hcollapse := v.collapse_of_hasDistinctNames (h v rfl)
    cases v with
    | null | bool _ | number _ | string _ => rfl
    | array _ | object _ => exact congrArg some hcollapse

theorem asRead_eq_withoutNulls {c : Condition} (h : ∀ v ∈ c.values, v.HasDistinctNames) :
    c.asRead = c.withoutNulls := by
  have hvalue : ∀ v ∈ c.value, v.HasDistinctNames := fun v hv =>
    h v (List.mem_append_left _ (Option.mem_toList.2 hv))
  have hvalue2 : ∀ v ∈ c.value2, v.HasDistinctNames := fun v hv =>
    h v (List.mem_append_right _ (Option.mem_toList.2 hv))
  rw [asRead, withoutNulls, bind_asOptionalValue hvalue, bind_asOptionalValue hvalue2]

end Condition

/-! ## Trees with other conditions -/

namespace FilterNode

mutual

/-- The tree with each of its conditions changed. -/
def mapConditions (f : Condition → Condition) : FilterNode → FilterNode
  | .cond c => .cond (f c)
  | .group id logical children => .group id logical (mapAllConditions f children)

def mapAllConditions (f : Condition → Condition) : List FilterNode → List FilterNode
  | [] => []
  | n :: ns => mapConditions f n :: mapAllConditions f ns

end

variable {f f' : Condition → Condition}

mutual

theorem depth_mapConditions (n : FilterNode) : (n.mapConditions f).depth = n.depth := by
  cases n with
  | cond c => rfl
  | group id logical children => rw [mapConditions, depth, depth, maxDepth_mapAllConditions]

theorem maxDepth_mapAllConditions (ns : List FilterNode) :
    maxDepth (mapAllConditions f ns) = maxDepth ns := by
  cases ns with
  | nil => rfl
  | cons n ns =>
    rw [mapAllConditions, maxDepth, maxDepth, depth_mapConditions, maxDepth_mapAllConditions]

end

mutual

theorem size_mapConditions (n : FilterNode) : (n.mapConditions f).size = n.size := by
  cases n with
  | cond c => rfl
  | group id logical children => rw [mapConditions, size, size, totalSize_mapAllConditions]

theorem totalSize_mapAllConditions (ns : List FilterNode) :
    totalSize (mapAllConditions f ns) = totalSize ns := by
  cases ns with
  | nil => rfl
  | cons n ns =>
    rw [mapAllConditions, totalSize, totalSize, size_mapConditions, totalSize_mapAllConditions]

end

mutual

theorem mapConditions_congr (n : FilterNode) (h : ∀ c ∈ n.conditions, f c = f' c) :
    n.mapConditions f = n.mapConditions f' := by
  cases n with
  | cond c => rw [mapConditions, mapConditions, h c (List.mem_singleton_self c)]
  | group id logical children =>
    rw [mapConditions, mapConditions, mapAllConditions_congr children h]

theorem mapAllConditions_congr (ns : List FilterNode) (h : ∀ c ∈ conditionsOfAll ns, f c = f' c) :
    mapAllConditions f ns = mapAllConditions f' ns := by
  cases ns with
  | nil => rfl
  | cons n ns =>
    have hfirst := mapConditions_congr n fun c hc => h c (List.mem_append_left _ hc)
    have hrest := mapAllConditions_congr ns fun c hc => h c (List.mem_append_right _ hc)
    rw [mapAllConditions, mapAllConditions, hfirst, hrest]

end

end FilterNode

/-! ## Reading a written tree -/

theorem Logical.asVariant_name (inner : Bool) (logical : Logical) :
    (Json.string logical.name).asVariant inner variants = .ok logical := by
  cases logical <;> rfl

namespace FilterNode

theorem decode_toJson_cond (inner : Bool) (c : Condition) :
    decode inner c.toJson = .ok (.cond c.asRead) := by
  obtain ⟨id, field, operator, value, value2⟩ := c
  cases value <;> cases value2 <;> rfl

variable {children ns : List FilterNode}

theorem decodeGroupMembers_toJson (id : String) (logical : Logical)
    (h : decodeAll true (toJsons children) = .ok ns) :
    decodeGroupMembers true [("kind", .string "group"), ("id", .string id),
      ("logical", .string logical.name), ("children", .array (toJsons children))] =
      .ok ⟨some id, some logical, some ns⟩ := by
  simp only [decodeGroupMembers, Json.asString, Logical.asVariant_name, decodeChildren, h]
  rfl

theorem decode_toJson_group (inner : Bool) (id : String) (logical : Logical)
    (h : decodeAll true (toJsons children) = .ok ns) :
    decode inner (group id logical children).toJson = .ok (.group id logical ns) := by
  have hkind : NodeKind.ofMembers inner [("kind", .string "group"), ("id", .string id),
      ("logical", .string logical.name), ("children", .array (toJsons children))] =
      .ok .group := rfl
  rw [toJson, decode, hkind]
  simp only [bind, Except.bind, decodeGroupMembers_toJson id logical h]
  rfl

mutual

/-- Reading a written tree changes its conditions alone. -/
theorem decode_toJson (inner : Bool) (n : FilterNode) :
    decode inner n.toJson = .ok (n.mapConditions Condition.asRead) := by
  cases n with
  | cond c => exact decode_toJson_cond inner c
  | group id logical children =>
    exact decode_toJson_group inner id logical (decodeAll_toJsons children)

theorem decodeAll_toJsons (ns : List FilterNode) :
    decodeAll true (toJsons ns) = .ok (mapAllConditions Condition.asRead ns) := by
  cases ns with
  | nil => rfl
  | cons n ns =>
    rw [toJsons, decodeAll, decode_toJson true n, decodeAll_toJsons ns]
    rfl

end

end FilterNode

/-! ## What reading gives -/

/-- The values that have been read are read as they are. -/
def ConditionDraft.IsRead (d : ConditionDraft) : Prop :=
  d.value.bind Json.asOptionalValue = d.value ∧ d.value2.bind Json.asOptionalValue = d.value2

theorem ConditionDraft.isRead_of_ofMembers {members : List (String × Json)} {d : ConditionDraft}
    (h : ofMembers members = .ok d) : d.IsRead := by
  induction members generalizing d with
  | nil =>
    cases h
    exact ⟨rfl, rfl⟩
  | cons m rest ih =>
    obtain ⟨name, j⟩ := m
    unfold ofMembers at h
    split at h
    case h_1 | h_2 | h_3 =>
      obtain ⟨s, -, h⟩ := bind_eq_ok.1 h
      obtain ⟨d', hd', h⟩ := bind_eq_ok.1 h
      cases h
      have hread : d'.IsRead := ih hd'
      exact hread
    case h_4 =>
      obtain ⟨d', hd', h⟩ := bind_eq_ok.1 h
      cases h
      exact ⟨j.asOptionalValue_bind, (ih hd').2⟩
    case h_5 =>
      obtain ⟨d', hd', h⟩ := bind_eq_ok.1 h
      cases h
      exact ⟨(ih hd').1, j.asOptionalValue_bind⟩
    case h_6 => exact ih h

theorem ConditionDraft.asRead_of_finish {d : ConditionDraft} {c : Condition} (hd : d.IsRead)
    (h : d.finish = .ok c) : c.asRead = c := by
  obtain ⟨id, -, h⟩ := bind_eq_ok.1 h
  obtain ⟨field, -, h⟩ := bind_eq_ok.1 h
  obtain ⟨operator, -, h⟩ := bind_eq_ok.1 h
  cases h
  rw [Condition.asRead]
  dsimp only
  rw [hd.1, hd.2]

theorem Condition.asRead_of_ofItems {items : List Json} {c : Condition}
    (h : ofItems items = .ok c) : c.asRead = c := by
  have hitem (i : Nat) : (items[i]?.bind Json.asOptionalValue).bind Json.asOptionalValue =
      items[i]?.bind Json.asOptionalValue := by
    cases items[i]? with
    | none => rfl
    | some j => exact j.asOptionalValue_bind
  unfold ofItems at h
  obtain ⟨i₀, -, h⟩ := bind_eq_ok.1 h
  obtain ⟨id, -, h⟩ := bind_eq_ok.1 h
  obtain ⟨i₁, -, h⟩ := bind_eq_ok.1 h
  obtain ⟨field, -, h⟩ := bind_eq_ok.1 h
  obtain ⟨i₂, -, h⟩ := bind_eq_ok.1 h
  obtain ⟨operator, -, h⟩ := bind_eq_ok.1 h
  dsimp only at h
  split_ifs at h
  · cases h
  · cases h
    rw [asRead]
    dsimp only
    rw [hitem 3, hitem 4]

/-- The conditions of a group that has been read are read as they are. -/
def FilterNode.AreRead (ns : List FilterNode) : Prop := mapAllConditions Condition.asRead ns = ns

theorem GroupDraft.areRead_of_finish {d : GroupDraft} {g : FilterGroup}
    (hd : ∀ ns, d.children = some ns → FilterNode.AreRead ns) (h : d.finish = .ok g) :
    FilterNode.AreRead g.children := by
  obtain ⟨id, -, h⟩ := bind_eq_ok.1 h
  obtain ⟨logical, -, h⟩ := bind_eq_ok.1 h
  cases h
  cases hchildren : d.children with
  | none => rfl
  | some ns => exact hd ns hchildren

namespace FilterNode

-- One theorem for each of the readers that call each other, by the shape of what they read.
mutual

/-- A node that has been read is read as it is. -/
theorem mapConditions_of_decode {inner : Bool} (j : Json) {n : FilterNode}
    (h : decode inner j = .ok n) : n.mapConditions Condition.asRead = n := by
  cases j with
  | null | bool _ | number _ | string _ => cases h
  | array items => exact mapConditions_of_decodeItems items h
  | object members =>
    rw [decode] at h
    obtain ⟨kind, -, h⟩ := bind_eq_ok.1 h
    cases kind with
    | cond =>
      obtain ⟨d, hd, h⟩ := bind_eq_ok.1 h
      obtain ⟨c, hc, h⟩ := bind_eq_ok.1 h
      cases h
      have hread := ConditionDraft.isRead_of_ofMembers hd
      rw [mapConditions, ConditionDraft.asRead_of_finish hread hc]
    | group =>
      obtain ⟨d, hd, h⟩ := bind_eq_ok.1 h
      obtain ⟨g, hg, h⟩ := bind_eq_ok.1 h
      cases h
      have hread := GroupDraft.areRead_of_finish (areRead_of_decodeGroupMembers members hd) hg
      rw [FilterGroup.toNode, mapConditions, hread]

theorem mapConditions_of_decodeItems {inner : Bool} (items : List Json) {n : FilterNode}
    (h : decodeItems inner items = .ok n) : n.mapConditions Condition.asRead = n := by
  cases items with
  | nil => cases h
  | cons kind items =>
    rw [decodeItems] at h
    obtain ⟨kind, -, h⟩ := bind_eq_ok.1 h
    cases kind with
    | cond =>
      obtain ⟨c, hc, h⟩ := bind_eq_ok.1 h
      cases h
      rw [mapConditions, Condition.asRead_of_ofItems hc]
    | group =>
      obtain ⟨g, hg, h⟩ := bind_eq_ok.1 h
      cases h
      rw [FilterGroup.toNode, mapConditions, areRead_of_decodeGroupItems items hg]

theorem areRead_of_decodeGroupMembers {inner : Bool} (members : List (String × Json))
    {d : GroupDraft} (h : decodeGroupMembers inner members = .ok d) (ns : List FilterNode)
    (hns : d.children = some ns) : AreRead ns := by
  cases members with
  | nil =>
    cases h
    cases hns
  | cons m rest =>
    obtain ⟨name, j⟩ := m
    unfold decodeGroupMembers at h
    split at h
    case h_1 | h_2 =>
      obtain ⟨a, -, h⟩ := bind_eq_ok.1 h
      obtain ⟨d', hd', h⟩ := bind_eq_ok.1 h
      cases h
      exact areRead_of_decodeGroupMembers rest hd' ns hns
    case h_3 =>
      obtain ⟨children, hchildren, h⟩ := bind_eq_ok.1 h
      obtain ⟨d', hd', h⟩ := bind_eq_ok.1 h
      cases h
      cases hns
      exact areRead_of_decodeChildren j hchildren
    case h_4 => exact areRead_of_decodeGroupMembers rest h ns hns

theorem areRead_of_decodeGroupItems {inner : Bool} (items : List Json) {g : FilterGroup}
    (h : decodeGroupItems inner items = .ok g) : AreRead g.children := by
  match items with
  | [] => cases h
  | [id] =>
    obtain ⟨s, -, h⟩ := bind_eq_ok.1 h
    cases h
  | [id, logical] =>
    obtain ⟨s, -, h⟩ := bind_eq_ok.1 h
    obtain ⟨l, -, h⟩ := bind_eq_ok.1 h
    cases h
    rfl
  | id :: logical :: children :: rest =>
    rw [decodeGroupItems] at h
    obtain ⟨s, -, h⟩ := bind_eq_ok.1 h
    obtain ⟨l, -, h⟩ := bind_eq_ok.1 h
    obtain ⟨ns, hns, h⟩ := bind_eq_ok.1 h
    split_ifs at h
    · cases h
      exact areRead_of_decodeChildren children hns

theorem areRead_of_decodeChildren {inner : Bool} (j : Json) {ns : List FilterNode}
    (h : decodeChildren inner j = .ok ns) : AreRead ns := by
  cases j with
  | null | bool _ | number _ | string _ | object _ => cases h
  | array items => exact areRead_of_decodeAll items h

theorem areRead_of_decodeAll {inner : Bool} (items : List Json) {ns : List FilterNode}
    (h : decodeAll inner items = .ok ns) : AreRead ns := by
  cases items with
  | nil =>
    cases h
    rfl
  | cons j js =>
    rw [decodeAll] at h
    obtain ⟨n, hn, h⟩ := bind_eq_ok.1 h
    obtain ⟨rest, hrest, h⟩ := bind_eq_ok.1 h
    cases h
    rw [AreRead, mapAllConditions, mapConditions_of_decode j hn, areRead_of_decodeAll js hrest]

end

end FilterNode

/-! ## Filters -/

namespace FilterGroup

/-- No value of a condition repeats a name. The values that texts write never do
(`Json.hasDistinctNames_valueOfText?`). -/
def HasDistinctNames (g : FilterGroup) : Prop :=
  ∀ c ∈ g.conditions, ∀ v ∈ c.values, v.HasDistinctNames

/-- The filter with each of its conditions changed. -/
def mapConditions (f : Condition → Condition) (g : FilterGroup) : FilterGroup :=
  { g with children := FilterNode.mapAllConditions f g.children }

/-- The filter without the nulls that were values of its conditions. -/
def withoutNulls (g : FilterGroup) : FilterGroup := g.mapConditions Condition.withoutNulls

variable {g : FilterGroup} {f : Condition → Condition}

theorem depth_mapConditions : (g.mapConditions f).depth = g.depth :=
  congrArg (1 + ·) (FilterNode.maxDepth_mapAllConditions g.children)

theorem size_mapConditions : (g.mapConditions f).size = g.size :=
  congrArg (1 + ·) (FilterNode.totalSize_mapAllConditions g.children)

theorem isWithinLimits_mapConditions : (g.mapConditions f).IsWithinLimits ↔ g.IsWithinLimits := by
  rw [IsWithinLimits, IsWithinLimits, depth_mapConditions, size_mapConditions]

theorem ofJson_eq_bind {v : Json} (h : FilterNode.decode false v = .ok g.toNode) :
    ofJson v = g.checkComplexity.bind fun _ => .ok g := by
  rw [ofJson, h]
  rfl

theorem ofJson_of_decode {v : Json} (h : FilterNode.decode false v = .ok g.toNode) :
    ofJson v =
      if g.IsWithinLimits then .ok g else .error (.filterTooComplex g.depth g.size) := by
  rw [ofJson_eq_bind h, checkComplexity_eq]
  split_ifs <;> rfl

/-- A filter that is read is a node within the limits. -/
theorem decode_of_ofJson {v : Json} (h : ofJson v = .ok g) :
    FilterNode.decode false v = .ok g.toNode ∧ g.IsWithinLimits := by
  cases hdecode : FilterNode.decode false v with
  | error e =>
    rw [ofJson, hdecode] at h
    cases h
  | ok n =>
    cases n with
    | cond c =>
      rw [ofJson, hdecode] at h
      cases h
    | group id logical children =>
      rw [ofJson_of_decode (g := ⟨id, logical, children⟩) hdecode] at h
      split_ifs at h with hlimits
      cases h
      exact ⟨rfl, hlimits⟩

theorem ofJson_toJson_eq (g : FilterGroup) :
    ofJson g.toJson =
      if g.IsWithinLimits then .ok (g.mapConditions Condition.asRead)
      else .error (.filterTooComplex g.depth g.size) := by
  have hdecode : FilterNode.decode false g.toJson =
      .ok (g.mapConditions Condition.asRead).toNode := FilterNode.decode_toJson false g.toNode
  rw [ofJson_of_decode hdecode, depth_mapConditions, size_mapConditions]
  simp only [isWithinLimits_mapConditions]

/-- **Round trip.** A written filter is read back without its nulls, unless it is too complex, and a
filter that was read is read back as it is. -/
theorem ofJson_toJson :
    (∀ g : FilterGroup, g.HasDistinctNames →
      ofJson g.toJson =
        if g.IsWithinLimits then .ok g.withoutNulls
        else .error (.filterTooComplex g.depth g.size)) ∧
      ∀ (v : Json) (g : FilterGroup), ofJson v = .ok g → ofJson g.toJson = .ok g := by
  refine ⟨fun g hnames => ?_, fun v g hread => ?_⟩
  · have hchildren := FilterNode.mapAllConditions_congr g.children fun c hc =>
      Condition.asRead_eq_withoutNulls (hnames c hc)
    rw [ofJson_toJson_eq, withoutNulls, mapConditions, mapConditions, hchildren]
  · obtain ⟨hdecode, hlimits⟩ := decode_of_ofJson hread
    have hnode := FilterNode.mapConditions_of_decode v hdecode
    rw [toNode, FilterNode.mapConditions, FilterNode.group.injEq] at hnode
    rw [ofJson_toJson_eq, if_pos hlimits, mapConditions, hnode.2.2]

end FilterGroup

/-- A filter with nulls that are lost and values that are kept: nulls in a list and a value that
looks like a node. -/
def sampleWritten : FilterGroup :=
  ⟨"root", .or, [
    .cond ⟨"1", "name", "equals", some .null, some .null⟩,
    .group "2" .and [
      .cond ⟨"3", "monthlyValue", "between", some (Json.int 1), some .null⟩,
      .cond (.on "4" "plan" "in" (.array [.null, .string "pro"])),
      .cond (.on "5" "notes" "nonsense" (.object [("kind", .string "cond"), ("value", .null)]))]]⟩

/-- Groups inside each other, one more than a filter may have. -/
def sampleDeep : FilterGroup :=
  (List.range FilterGroup.maxAllowedDepth).foldl (fun g i => g.wrap (natText i) .and) .empty

/-- A filter written as lists, as far as lists may stand for objects. -/
def sampleListed : Json :=
  .array [.string "group", .string "root", .string "AND",
    .array [.array [Json.int 0, .string "1", .string "name", .string "equals", .null]]]

theorem ofJson_toJson_sample :
    (sampleWritten.HasDistinctNames ∧
      FilterGroup.ofJson sampleWritten.toJson = .ok sampleWritten.withoutNulls) ∧
    (sampleDeep.HasDistinctNames ∧
      FilterGroup.ofJson sampleDeep.toJson = .error (.filterTooComplex 17 17)) ∧
    ∃ g, FilterGroup.ofJson sampleListed = .ok g ∧ FilterGroup.ofJson g.toJson = .ok g := by
  have hwritten : sampleWritten.HasDistinctNames := by
    simp [FilterGroup.HasDistinctNames, FilterGroup.conditions, FilterNode.conditionsOfAll,
      FilterNode.conditions, sampleWritten, Condition.values, Condition.on, Json.HasDistinctNames,
      Json.HaveDistinctNames, Json.MembersHaveDistinctNames, Json.int, or_imp, forall_and]
  have hdeep : sampleDeep.HasDistinctNames := by
    intro c hc
    cases hc
  have hlisted : FilterGroup.ofJson sampleListed =
      .ok ⟨"root", .and, [.cond ⟨"1", "name", "equals", none, none⟩]⟩ := rfl
  refine ⟨⟨hwritten, ?_⟩, ⟨hdeep, ?_⟩, _, hlisted, FilterGroup.ofJson_toJson.2 _ _ hlisted⟩
  · rw [FilterGroup.ofJson_toJson.1 _ hwritten, if_pos (by decide)]
  · rw [FilterGroup.ofJson_toJson.1 _ hdeep, if_neg (by decide)]
    rfl

end BillingQuery
