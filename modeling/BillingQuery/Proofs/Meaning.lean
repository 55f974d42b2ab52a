import BillingQuery.Proofs.PlanTests

/-!
# The meaning of a filter

What a filter asks of a record can be said without a plan: rule by rule, over the tree as it is
written.

**The rules (`FilterNode.Holds`).** A condition counts if it names a listed field and an operator
that the field and its type allow; then it compares the record's value with its own. A group always
counts. It holds if nothing in it counts, and else if all or some of what counts in it holds.

**Main result (`FilterGroup.accepts_iff_holds`).** A record passes a filter iff the rules say so. A
plan has its constants folded away, and that changes nothing (`Plan.accepts_join`).
-/

namespace BillingQuery

/-! ## Comparing with a condition -/

/-- The value names the folded text: in a list, between commas, or as a single value. -/
def Json.Names (j : Json) (s : String) : Prop :=
  match j with
  | .array items => ∃ item ∈ items, item.foldedText? = some s
  | .string t => ∃ piece ∈ Json.commaPieces t, Text.fold piece = s
  | j => j.foldedText? = some s

namespace Condition

variable {α β : Type}

/-- The condition's value and the record's can be read, and are related. -/
def Relates (c : Condition) (actual : Json) (read : Json → Option α) (stored : Json → Option β)
    (related : α → β → Prop) : Prop :=
  ∃ j a b, c.value = some j ∧ read j = some a ∧ stored actual = some b ∧ related a b

/-- Both bounds of the condition can be read and are in order, and the record's value is between
them. -/
def Encloses [LE α] (c : Condition) (actual : Json) (read stored : Json → Option α) : Prop :=
  ∃ j k low high b, c.value = some j ∧ c.value2 = some k ∧ read j = some low ∧ read k = some high ∧
    low ≤ high ∧ stored actual = some b ∧ low ≤ b ∧ b ≤ high

/-- The comparison that an operator makes between a condition and the value of a record's field. -/
def Compares (c : Condition) (type : FieldType) (op : Operator) (actual : Json) : Prop :=
  match op, type with
  | .equals, .boolean => c.Relates actual Json.toFlag? Json.storedFlag? (· = ·)
  | .equals, .number =>
    c.Relates actual Json.toNumber? Json.storedNumber? fun x a => a.units = x.units
  | .equals, .date => c.Relates actual Json.toDay? Json.toDay? (· = ·)
  | .equals, _ => c.Relates actual Json.foldedText? Json.foldedText? (· = ·)
  | .oneOf, _ => c.Relates actual some Json.foldedText? Json.Names
  | .contains, _ =>
    c.Relates actual Json.foldedText? Json.foldedText? fun needle s => needle.toList <:+: s.toList
  | .startsWith, _ =>
    c.Relates actual Json.foldedText? Json.foldedText? fun needle s => needle.toList <+: s.toList
  | .endsWith, _ =>
    c.Relates actual Json.foldedText? Json.foldedText? fun needle s => needle.toList <:+ s.toList
  | .gt, _ => c.Relates actual Json.toNumber? Json.storedNumber? fun x a => x < a
  | .lt, _ => c.Relates actual Json.toNumber? Json.storedNumber? fun x a => a < x
  | .gte, _ => c.Relates actual Json.toNumber? Json.storedNumber? fun x a => x ≤ a
  | .lte, _ => c.Relates actual Json.toNumber? Json.storedNumber? fun x a => a ≤ x
  | .between, .date => c.Encloses actual Json.toDay? Json.toDay?
  | .between, _ => c.Encloses actual Json.toNumber? Json.storedNumber?

/-- The condition names this field and this operator, which the field allows and its type too. -/
structure Uses (c : Condition) (fields : List Field) (field : Field) (op : Operator) : Prop where
  found : findField? fields c.field = some field
  named : op.name = c.operator
  allowed : op ∈ field.operators
  suitable : op ∈ field.type.operators

end Condition

/-! ## Rules for nodes -/

namespace FilterNode

/-- A condition counts if it uses some field. A group always counts. -/
def Counts (fields : List Field) : FilterNode → Prop
  | .cond c => ∃ field op, c.Uses fields field op
  | .group _ _ _ => True

/-- A record passes a node. Of a condition that does not count, nothing is said. -/
inductive Holds (fields : List Field) (record : Json) : FilterNode → Prop
  | cond {c : Condition} {field : Field} {op : Operator} {actual : Json}
      (uses : c.Uses fields field op) (value : record.get? field.key = some actual)
      (compares : c.Compares field.type op actual) : Holds fields record (.cond c)
  | vacuous {id : String} {logical : Logical} {children : List FilterNode}
      (noneCounts : ∀ n ∈ children, ¬ n.Counts fields) :
      Holds fields record (.group id logical children)
  | all {id : String} {children : List FilterNode}
      (all : ∀ n ∈ children, n.Counts fields → Holds fields record n) :
      Holds fields record (.group id .and children)
  | any {id : String} {children : List FilterNode} {n : FilterNode} (mem : n ∈ children)
      (counts : n.Counts fields) (holds : Holds fields record n) :
      Holds fields record (.group id .or children)

end FilterNode

/-! ## Operands -/

theorem Text.mem_dedup [DecidableEq α] {a : α} {as : List α} : a ∈ dedup as ↔ a ∈ as := by
  induction as with
  | nil => rfl
  | cons b as ih =>
    rw [dedup, List.mem_cons, List.mem_filter, ih, List.mem_cons]
    by_cases h : a = b <;> simp [h]

theorem Json.mem_foldedTexts {j : Json} {s : String} : s ∈ j.foldedTexts ↔ j.Names s := by
  unfold foldedTexts
  rw [Text.mem_dedup]
  cases j with
  | array items => exact List.mem_filterMap
  | string t => exact List.mem_map
  | null | bool b | number n | object members => exact Option.mem_toList

namespace Condition

variable {α β : Type} {c : Condition} {actual : Json}

/-- What the rule for an operand makes of a record's value: false if there is no operand. -/
def ruleAccepts (outcome : Except Unmatchable Operand) (actual : Json) : Bool :=
  outcome.toOption.any fun operand => operand.accepts actual

/-- An operand that is read from the value alone. -/
theorem ruleAccepts_coerced {make : α → Operand} {read : Json → Option α}
    {stored : Json → Option β} {related : α → β → Prop}
    (h : ∀ a, (make a).accepts actual = true ↔ ∃ b, stored actual = some b ∧ related a b) :
    ruleAccepts (make <$> c.coerced read) actual = true ↔
      c.Relates actual read stored related := by
  rw [ruleAccepts, Relates, coerced]
  cases hj : c.value with
  | none => simp [Except.toOption, Functor.map, Except.map]
  | some j =>
    cases ha : read j with
    | none => simp [Except.toOption, Functor.map, Except.map, ha]
    | some a => simp [Except.toOption, Functor.map, Except.map, ha, h]

theorem ruleAccepts_textSet :
    ruleAccepts c.textSetOperand actual = true ↔
      c.Relates actual some Json.foldedText? Json.Names := by
  rw [ruleAccepts, Relates, textSetOperand]
  cases hj : c.value with
  | none => simp [Except.toOption]
  | some j =>
    have hmem (s : String) : s ∈ j.foldedTexts ↔ j.Names s := Json.mem_foldedTexts
    by_cases hempty : j.foldedTexts.isEmpty = true
    · simp_all [Except.toOption]
    · simp [hempty, Except.toOption, Operand.accepts, ← hmem, Option.any_eq_true]

/-- An operand that is read from both bounds, where `exceeds` says that they are not in order. -/
theorem ruleAccepts_coercedBounds [LE α] {make : α → α → Operand} {read stored : Json → Option α}
    {exceeds : α → α → Prop} [∀ a b, Decidable (exceeds a b)]
    (hexceeds : ∀ a b, exceeds a b ↔ ¬ b ≤ a)
    (h : ∀ low high, (make low high).accepts actual = true ↔
      ∃ b, stored actual = some b ∧ low ≤ b ∧ b ≤ high) :
    ruleAccepts (do
      let (low, high) ← c.coercedBounds read
      if exceeds high low then .error .invertedRange else .ok (make low high)) actual = true ↔
        c.Encloses actual read stored := by
  rw [ruleAccepts, Encloses, coercedBounds]
  cases hj : c.value with
  | none => simp [Except.toOption, bind, Except.bind]
  | some j =>
    cases hk : c.value2 with
    | none => simp [Except.toOption, bind, Except.bind]
    | some k =>
      cases hlow : read j with
      | none => simp [Except.toOption, bind, Except.bind, hlow]
      | some low =>
        cases hhigh : read k with
        | none => simp [Except.toOption, bind, Except.bind, hlow, hhigh]
        | some high =>
          by_cases horder : low ≤ high
          · simp [Except.toOption, bind, Except.bind, hlow, hhigh, hexceeds, horder, h]
          · simp [Except.toOption, bind, Except.bind, hlow, hhigh, hexceeds, horder]

theorem exists_eq_some_iff [DecidableEq γ] {o : Option γ} {a : γ} :
    (o == some a) = true ↔ ∃ b, o = some b ∧ a = b := by
  rw [beq_iff_eq]
  constructor
  · rintro rfl
    exact ⟨a, rfl, rfl⟩
  · rintro ⟨b, rfl, rfl⟩
    rfl

theorem accepts_pattern {kind : PatternKind} {needle : String}
    {places : List Char → List Char → Prop}
    (h : ∀ s : String, kind.holds needle s = true ↔ places needle.toList s.toList) :
    (Operand.pattern kind needle).accepts actual = true ↔
      ∃ s, actual.foldedText? = some s ∧ places needle.toList s.toList := by
  simp [Operand.accepts, Option.any_eq_true, h]

theorem accepts_number {comparison : Comparison} {x : Binary64} :
    (Operand.number comparison x).accepts actual = true ↔
      ∃ a, actual.storedNumber? = some a ∧
        match comparison with
        | .eq => a.units = x.units
        | .gt => x < a
        | .lt => a < x
        | .gte => x ≤ a
        | .lte => a ≤ x := by
  cases comparison <;>
    simp [Operand.accepts, Option.any_eq_true, Comparison.holds, Binary64.sameValue]

/-- **Rules.** The operand of a rule accepts what the operator asks for. -/
theorem ruleAccepts_iff {type : FieldType} {op : Operator}
    {rule : Condition → Except Unmatchable Operand} (h : operandRule? type op = some rule) :
    ruleAccepts (rule c) actual = true ↔ c.Compares type op actual := by
  unfold operandRule? at h
  split at h <;> cases h
  case h_1 | h_2 | h_3 => exact ruleAccepts_coerced fun s => exists_eq_some_iff
  case h_4 | h_5 | h_6 => exact ruleAccepts_textSet
  case h_7 | h_8 => exact ruleAccepts_coerced fun s => accepts_pattern fun t => Text.isInfix_iff
  case h_9 | h_10 =>
    exact ruleAccepts_coerced fun s => accepts_pattern fun t => List.isPrefixOf_iff_prefix
  case h_11 | h_12 =>
    exact ruleAccepts_coerced fun s => accepts_pattern fun t => List.isSuffixOf_iff_suffix
  case h_13 => exact ruleAccepts_coerced fun b => exists_eq_some_iff
  case h_14 | h_15 | h_16 | h_17 | h_18 => exact ruleAccepts_coerced fun x => accepts_number
  case h_19 =>
    refine ruleAccepts_coercedBounds (fun x y => Int.not_le.symm) fun low high => ?_
    simp [Operand.accepts, Option.any_eq_true]
  case h_20 => exact ruleAccepts_coerced fun d => exists_eq_some_iff
  case h_21 =>
    refine ruleAccepts_coercedBounds (fun d e => Nat.not_le.symm) fun low high => ?_
    simp [Operand.accepts, Option.any_eq_true]

/-- There is a rule for the operators that suit the type, and for no others. -/
theorem isSome_operandRule? (type : FieldType) (op : Operator) :
    (operandRule? type op).isSome = true ↔ op ∈ type.operators := by
  cases type <;> cases op <;> decide

end Condition

/-! ## Conditions -/

theorem Operator.ofName?_eq_some {name : String} {op : Operator} :
    ofName? name = some op ↔ op.name = name := by
  constructor
  · intro h
    simpa using List.find?_some h
  · rintro rfl
    cases op <;> rfl

namespace Condition

variable {c : Condition} {fields : List Field}

/-- A condition uses one field and one operator at most. -/
theorem Uses.unique {field field' : Field} {op op' : Operator} (h : c.Uses fields field op)
    (h' : c.Uses fields field' op') : field = field' ∧ op = op' := by
  refine ⟨Option.some.inj (h.found.symm.trans h'.found), Option.some.inj ?_⟩
  exact (Operator.ofName?_eq_some.2 h.named).symm.trans (Operator.ofName?_eq_some.2 h'.named)

theorem rule?_eq_some {field : Field} {rule : Condition → Except Unmatchable Operand} :
    c.rule? field = some rule ↔
      ∃ op, op.name = c.operator ∧ op ∈ field.operators ∧
        operandRule? field.type op = some rule := by
  simp [rule?, Option.bind_eq_some_iff, Option.filter_eq_some_iff, Operator.ofName?_eq_some,
    Field.allows, and_assoc]

theorem Uses.exists_rule {field : Field} {op : Operator} (h : c.Uses fields field op) :
    ∃ rule, operandRule? field.type op = some rule ∧ c.rule? field = some rule := by
  obtain ⟨rule, hop⟩ := Option.isSome_iff_exists.1 ((isSome_operandRule? _ _).2 h.suitable)
  exact ⟨rule, hop, rule?_eq_some.2 ⟨op, h.named, h.allowed, hop⟩⟩

theorem exists_uses_of_rule {field : Field} {rule : Condition → Except Unmatchable Operand}
    (hfound : findField? fields c.field = some field) (hrule : c.rule? field = some rule) :
    ∃ op, c.Uses fields field op ∧ operandRule? field.type op = some rule := by
  obtain ⟨op, hname, hallowed, hop⟩ := rule?_eq_some.1 hrule
  have hsuitable : op ∈ field.type.operators := by
    rw [← isSome_operandRule?, hop, Option.isSome_some]
  exact ⟨op, ⟨hfound, hname, hallowed, hsuitable⟩, hop⟩

/-- **Conditions.** One that counts has a rule, and adds its test or false; any other is dropped. -/
theorem plan?_cases (c : Condition) (fields : List Field) :
    ((¬ ∃ field op, c.Uses fields field op) ∧ c.plan? fields = none) ∨
      ∃ field op rule, c.Uses fields field op ∧ operandRule? field.type op = some rule ∧
        c.plan? fields = some (match rule c with
          | .ok operand => .test field operand
          | .error _ => .const false) := by
  cases hfound : findField? fields c.field with
  | none =>
    refine Or.inl ⟨?_, by rw [plan?, verdict_of_unknown hfound]⟩
    intro h
    obtain ⟨field, op, huses⟩ := h
    cases hfound.symm.trans huses.found
  | some field =>
    cases hrule : c.rule? field with
    | none =>
      refine Or.inl ⟨?_, by rw [plan?, verdict_of_unusable hfound hrule]⟩
      intro h
      obtain ⟨field', op, huses⟩ := h
      obtain rfl := Option.some.inj (hfound.symm.trans huses.found)
      obtain ⟨rule, -, hsome⟩ := huses.exists_rule
      cases hrule.symm.trans hsome
    | some rule =>
      obtain ⟨op, huses, hop⟩ := exists_uses_of_rule hfound hrule
      refine Or.inr ⟨field, op, rule, huses, hop, ?_⟩
      rw [plan?, verdict_of_rule hfound hrule]
      cases rule c with
      | ok operand => rfl
      | error reason => rfl

theorem holds_iff {record : Json} {field : Field} {op : Operator} (h : c.Uses fields field op) :
    FilterNode.Holds fields record (.cond c) ↔
      ∃ actual, record.get? field.key = some actual ∧ c.Compares field.type op actual := by
  constructor
  · rintro (@⟨_, field', op', actual, huses, hactual, hcompares⟩)
    obtain ⟨rfl, rfl⟩ := h.unique huses
    exact ⟨actual, hactual, hcompares⟩
  · rintro ⟨actual, hactual, hcompares⟩
    exact .cond h hactual hcompares

/-- What a condition adds to its group accepts the records that pass the condition. -/
theorem accepts_plan? {record : Json} {p : Plan} (h : c.plan? fields = some p) :
    p.accepts record = true ↔ FilterNode.Holds fields record (.cond c) := by
  rcases c.plan?_cases fields with ⟨-, hnone⟩ | ⟨field, op, rule, huses, hrule, hsome⟩
  · cases hnone.symm.trans h
  · obtain rfl := Option.some.inj (hsome.symm.trans h)
    have hiff (actual : Json) :
        ruleAccepts (rule c) actual = true ↔ c.Compares field.type op actual :=
      ruleAccepts_iff hrule
    rw [holds_iff huses]
    simp only [← hiff, ruleAccepts]
    cases rule c with
    | ok operand => simp [Plan.accepts, Option.any_eq_true, Except.toOption]
    | error reason => simp [Plan.accepts, Except.toOption]

end Condition

/-! ## Folding -/

namespace Plan

variable {record : Json}

theorem acceptsAll_eq (ps : List Plan) : acceptsAll record ps = ps.all (accepts record) := by
  induction ps with
  | nil => rfl
  | cons p ps ih => rw [acceptsAll, ih, List.all_cons]

theorem acceptsAny_eq (ps : List Plan) : acceptsAny record ps = ps.any (accepts record) := by
  induction ps with
  | nil => rfl
  | cons p ps ih => rw [acceptsAny, ih, List.any_cons]

theorem accepts_of_isConst {p : Plan} {b : Bool} (h : p.isConst b = true) :
    p.accepts record = b := by
  rw [isConst_iff.1 h, accepts]

/-- A part that is plainly true counts for nothing under AND. -/
theorem all_filter_isConst (parts : List Plan) :
    (parts.filter fun p => !p.isConst true).all (accepts record) = parts.all (accepts record) := by
  rw [List.all_filter]
  refine List.all_congr rfl fun p => ?_
  cases h : p.isConst true with
  | true => simp [accepts_of_isConst h]
  | false => simp

/-- A part that is plainly false counts for nothing under OR. -/
theorem any_filter_isConst (parts : List Plan) :
    (parts.filter fun p => !p.isConst false).any (accepts record) = parts.any (accepts record) := by
  rw [List.any_filter]
  refine List.any_congr rfl fun p => ?_
  cases h : p.isConst false with
  | true => simp [accepts_of_isConst h]
  | false => simp

theorem accepts_kept_and (kept : List Plan) :
    (match kept with
      | [] => const true
      | [p] => p
      | ps => all ps).accepts record = kept.all (accepts record) := by
  match kept with
  | [] => rfl
  | [p] => simp
  | p :: q :: ps => exact acceptsAll_eq (p :: q :: ps)

theorem accepts_kept_or (kept : List Plan) :
    (match kept with
      | [] => const false
      | [p] => p
      | ps => any ps).accepts record = kept.any (accepts record) := by
  match kept with
  | [] => rfl
  | [p] => simp
  | p :: q :: ps => exact acceptsAny_eq (p :: q :: ps)

/-- **Folding.** The plan of a group accepts what all or some of its parts accept, and everything if
there are no parts. -/
theorem accepts_join (logical : Logical) (parts : List Plan) :
    (join logical parts).accepts record = (parts.isEmpty ||
      match logical with
      | .and => parts.all (accepts record)
      | .or => parts.any (accepts record)) := by
  unfold join
  dsimp only
  split_ifs with hempty hdeciding
  · rw [hempty, accepts, Bool.true_or]
  · obtain ⟨p, hp, hconst⟩ := List.any_eq_true.1 hdeciding
    have haccepts : p.accepts record = (logical == .or) := accepts_of_isConst hconst
    rw [accepts, Bool.eq_false_iff.2 hempty, Bool.false_or]
    cases logical with
    | and => exact (List.all_eq_false.2 ⟨p, hp, by simp [haccepts]⟩).symm
    | or => exact (List.any_eq_true.2 ⟨p, hp, haccepts⟩).symm
  · rw [Bool.eq_false_iff.2 hempty, Bool.false_or]
    cases logical with
    | and => exact (accepts_kept_and _).trans (all_filter_isConst parts)
    | or => exact (accepts_kept_or _).trans (any_filter_isConst parts)

end Plan

/-! ## Trees -/

namespace FilterNode

variable {fields : List Field} {record : Json}

theorem plans_eq (ns : List FilterNode) : plans fields ns = ns.filterMap (plan? fields) := by
  induction ns with
  | nil => rfl
  | cons n ns ih =>
    rw [plans, ih, List.filterMap_cons]
    cases plan? fields n <;> rfl

/-- The nodes that count are those that add a part to their group. -/
theorem counts_iff (n : FilterNode) : n.Counts fields ↔ ∃ p, n.plan? fields = some p := by
  cases n with
  | cond c =>
    rcases c.plan?_cases fields with ⟨hnone, hplan⟩ | ⟨field, op, rule, huses, -, hplan⟩
    · simp [Counts, plan?, hplan, hnone]
    · simp only [Counts, plan?, hplan]
      exact iff_of_true ⟨field, op, huses⟩ ⟨_, rfl⟩
  | group id logical children => exact iff_of_true trivial ⟨_, rfl⟩

/-- The rules for a group, by how it joins its children. -/
theorem holds_group_iff {id : String} {logical : Logical} {children : List FilterNode} :
    Holds fields record (.group id logical children) ↔
      (∀ n ∈ children, ¬ n.Counts fields) ∨
        match logical with
        | .and => ∀ n ∈ children, n.Counts fields → Holds fields record n
        | .or => ∃ n ∈ children, n.Counts fields ∧ Holds fields record n := by
  constructor
  · intro h
    cases h with
    | vacuous hnone => exact Or.inl hnone
    | all hall => exact Or.inr hall
    | any hmem hcounts hholds => exact Or.inr ⟨_, hmem, hcounts, hholds⟩
  · rintro (hnone | h)
    · exact .vacuous hnone
    · cases logical with
      | and => exact .all h
      | or =>
        obtain ⟨n, hmem, hcounts, hholds⟩ := h
        exact .any hmem hcounts hholds

/-- The plan of a group accepts what passes the group, if this is so of its children. -/
theorem accepts_join_plans {id : String} {logical : Logical} {children : List FilterNode}
    (h : ∀ n ∈ children, ∀ p, n.plan? fields = some p →
      (p.accepts record = true ↔ Holds fields record n)) :
    (Plan.join logical (plans fields children)).accepts record = true ↔
      Holds fields record (.group id logical children) := by
  have hempty : (plans fields children).isEmpty = true ↔ ∀ n ∈ children, ¬ n.Counts fields := by
    simp [plans_eq, List.isEmpty_iff, List.filterMap_eq_nil_iff, counts_iff,
      Option.eq_none_iff_forall_ne_some]
  rw [Plan.accepts_join, Bool.or_eq_true, hempty, holds_group_iff, plans_eq]
  -- The parts of the plan are those of the children that count, one for each.
  refine or_congr_right ?_
  cases logical with
  | and =>
    simp only [List.all_eq_true, List.mem_filterMap, counts_iff]
    constructor
    · rintro hall n hn ⟨p, hp⟩
      exact (h n hn p hp).1 (hall p ⟨n, hn, hp⟩)
    · rintro hall p ⟨n, hn, hp⟩
      exact (h n hn p hp).2 (hall n hn ⟨p, hp⟩)
  | or =>
    simp only [List.any_eq_true, List.mem_filterMap, counts_iff]
    constructor
    · rintro ⟨p, ⟨n, hn, hp⟩, haccepts⟩
      exact ⟨n, hn, ⟨p, hp⟩, (h n hn p hp).1 haccepts⟩
    · rintro ⟨n, hn, ⟨p, hp⟩, hholds⟩
      exact ⟨p, ⟨n, hn, hp⟩, (h n hn p hp).2 hholds⟩

mutual

/-- **Nodes.** The part that a node adds accepts what passes the node. -/
theorem accepts_plan? (n : FilterNode) {p : Plan} (h : n.plan? fields = some p) :
    p.accepts record = true ↔ Holds fields record n := by
  cases n with
  | cond c => exact Condition.accepts_plan? h
  | group id logical children =>
    obtain rfl := Option.some.inj h
    exact accepts_join_plans (accepts_of_mem children)

theorem accepts_of_mem (ns : List FilterNode) :
    ∀ n ∈ ns, ∀ p, n.plan? fields = some p →
      (p.accepts record = true ↔ Holds fields record n) := by
  cases ns with
  | nil => exact fun _ h => absurd h List.not_mem_nil
  | cons n ns =>
    rw [List.forall_mem_cons]
    exact ⟨fun _ h => accepts_plan? n h, accepts_of_mem ns⟩

end

end FilterNode

/-- **The meaning of a filter.** A record passes a filter iff it passes the tree by the rules,
whatever the fields and whatever the tree drops or makes constant. -/
theorem FilterGroup.accepts_iff_holds (g : FilterGroup) (fields : List Field) (record : Json) :
    g.accepts fields record = true ↔ FilterNode.Holds fields record g.toNode :=
  FilterNode.accepts_join_plans (FilterNode.accepts_of_mem g.children)

end BillingQuery
