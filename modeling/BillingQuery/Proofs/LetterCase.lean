import BillingQuery.Proofs.LowerCase
import BillingQuery.Proofs.WireRoundTrip
import BillingQuery.Schema.Resource

/-!
# Letter case in values

**Equality up to case (`Json.SameUpToCase`, `FilterGroup.SameUpToCase`).** Values are equal up to
the case of their letters if they become equal when their strings are put in lower case, and trees
if the values of their conditions do. Names of members, keys of fields and operators are no values,
and letters other than the ASCII ones keep their case.

**Main result (`FilterGroup.ignoresCase`).** Trees that are equal up to case have the same plan and
report the same issues, so that they compile to the same statement, and the same records pass them.
A record may change the case of its letters as well.

It is enough that a tree and a record have the meaning of what they become in lower case. The plan
sees a value only through the coercions, and each of them reads from a value what it reads from the
value in lower case (`Json.ReadsInAnyCase`).
-/

namespace BillingQuery

/-! ## Values in lower case -/

namespace Json

mutual

/-- The value with its strings in lower case, at any depth. Names of members stay as they are. -/
def inLowerCase : Json → Json
  | .string s => .string (Text.fold s)
  | .array items => .array (itemsInLowerCase items)
  | .object members => .object (membersInLowerCase members)
  | j => j

def itemsInLowerCase : List Json → List Json
  | [] => []
  | j :: js => inLowerCase j :: itemsInLowerCase js

def membersInLowerCase : List (String × Json) → List (String × Json)
  | [] => []
  | (name, j) :: rest => (name, inLowerCase j) :: membersInLowerCase rest

end

/-- The values differ at most in the case of letters in their strings. -/
def SameUpToCase (j k : Json) : Prop := j.inLowerCase = k.inLowerCase

/-- Texts are equal up to case if they are so character by character. -/
theorem sameUpToCase_string_iff {s t : String} : SameUpToCase (.string s) (.string t) ↔
    List.Forall₂ (fun c d : Char => c.toLower = d.toLower) s.toList t.toList := by
  rw [SameUpToCase, inLowerCase, inLowerCase, string.injEq, ← String.toList_inj,
    Text.toList_fold, Text.toList_fold, ← List.forall₂_eq_eq_eq, List.forall₂_map_left_iff,
    List.forall₂_map_right_iff]

theorem itemsInLowerCase_eq (items : List Json) :
    itemsInLowerCase items = items.map inLowerCase := by
  induction items with
  | nil => rfl
  | cons j js ih => rw [itemsInLowerCase, ih, List.map_cons]

theorem lookup_membersInLowerCase (members : List (String × Json)) (name : String) :
    (membersInLowerCase members).lookup name = (members.lookup name).map inLowerCase := by
  induction members with
  | nil => rfl
  | cons m rest ih =>
    obtain ⟨other, j⟩ := m
    rw [membersInLowerCase, List.lookup_cons, List.lookup_cons, ih]
    cases name == other <;> rfl

theorem get?_inLowerCase (j : Json) (name : String) :
    j.inLowerCase.get? name = (j.get? name).map inLowerCase := by
  cases j with
  | object members => exact lookup_membersInLowerCase members name
  | null | bool _ | number _ | string _ | array _ => rfl

/-! ### Coercions -/

/-- What is read from a value is read from it in lower case as well. -/
def ReadsInAnyCase (read : Json → α) : Prop := ∀ j, read j.inLowerCase = read j

/-- A reader may look into strings. It need not look into lists and objects. -/
theorem readsInAnyCase_of_strings {read : Json → α}
    (hstring : ∀ s, read (.string (Text.fold s)) = read (.string s))
    (harray : ∀ items items', read (.array items) = read (.array items'))
    (hobject : ∀ members members', read (.object members) = read (.object members')) :
    ReadsInAnyCase read := by
  intro j
  cases j with
  | null | bool _ | number _ => rfl
  | string s => exact hstring s
  | array items => exact harray _ _
  | object members => exact hobject _ _

theorem readsInAnyCase_foldedText? : ReadsInAnyCase foldedText? :=
  readsInAnyCase_of_strings (fun s => congrArg some (Text.fold_fold s)) (fun _ _ => rfl)
    fun _ _ => rfl

theorem readsInAnyCase_toNumber? : ReadsInAnyCase toNumber? := by
  refine readsInAnyCase_of_strings (fun s => ?_) (fun _ _ => rfl) fun _ _ => rfl
  rw [toNumber?, Text.toList_fold, Text.trimChars_map_toLower, Numeral.ofText?_map_toLower,
    toNumber?]

theorem readsInAnyCase_storedNumber? : ReadsInAnyCase storedNumber? :=
  readsInAnyCase_of_strings (fun _ => rfl) (fun _ _ => rfl) fun _ _ => rfl

theorem readsInAnyCase_toFlag? : ReadsInAnyCase toFlag? := by
  refine readsInAnyCase_of_strings (fun s => ?_) (fun _ _ => rfl) fun _ _ => rfl
  rw [toFlag?, Text.trim_fold, Text.fold_fold, toFlag?]

theorem readsInAnyCase_storedFlag? : ReadsInAnyCase storedFlag? :=
  readsInAnyCase_of_strings (fun _ => rfl) (fun _ _ => rfl) fun _ _ => rfl

theorem readsInAnyCase_toDay? : ReadsInAnyCase toDay? := by
  refine readsInAnyCase_of_strings (fun s => ?_) (fun _ _ => rfl) fun _ _ => rfl
  rw [toDay?, Text.toList_fold, Day.ofLeading?_map_toLower, toDay?]

/-- The case of letters is folded before repetitions are dropped. -/
theorem readsInAnyCase_foldedTexts : ReadsInAnyCase foldedTexts := by
  intro j
  cases j with
  | array items =>
    have hread : foldedText? ∘ inLowerCase = foldedText? := funext readsInAnyCase_foldedText?
    rw [inLowerCase, itemsInLowerCase_eq]
    simp only [foldedTexts, List.filterMap_map, hread]
  | string s =>
    have hfold : Text.fold ∘ Text.fold = Text.fold := funext Text.fold_fold
    simp only [inLowerCase, foldedTexts, commaPieces_fold, List.map_map, hfold]
  | null | bool _ | number _ | object _ => rfl

end Json

open Json (readsInAnyCase_foldedText? readsInAnyCase_foldedTexts readsInAnyCase_toNumber?
  readsInAnyCase_storedNumber? readsInAnyCase_storedFlag? readsInAnyCase_toFlag?
  readsInAnyCase_toDay?)

/-! ## Conditions -/

namespace Condition

variable {read : Json → Option α}

/-- The condition with its values in lower case. -/
def inLowerCase (c : Condition) : Condition :=
  { c with value := c.value.map Json.inLowerCase, value2 := c.value2.map Json.inLowerCase }

theorem coerced_inLowerCase (h : Json.ReadsInAnyCase read) (c : Condition) :
    c.inLowerCase.coerced read = c.coerced read := by
  rw [coerced, coerced, inLowerCase]
  cases c.value with
  | none => rfl
  | some j => simp only [Option.map_some, h j]

theorem coercedBounds_inLowerCase (h : Json.ReadsInAnyCase read) (c : Condition) :
    c.inLowerCase.coercedBounds read = c.coercedBounds read := by
  rw [coercedBounds, coercedBounds, inLowerCase]
  cases c.value with
  | none => rfl
  | some j =>
    cases c.value2 with
    | none => rfl
    | some k => simp only [Option.map_some, h j, h k]

theorem textSetOperand_inLowerCase (c : Condition) :
    c.inLowerCase.textSetOperand = c.textSetOperand := by
  rw [textSetOperand, textSetOperand, inLowerCase]
  cases c.value with
  | none => rfl
  | some j => simp only [Option.map_some, readsInAnyCase_foldedTexts j]

/-- Every rule reads the values of its condition through a coercion. -/
theorem operand_inLowerCase {type : FieldType} {op : Operator}
    {rule : Condition → Except Unmatchable Operand} (h : operandRule? type op = some rule)
    (c : Condition) : rule c.inLowerCase = rule c := by
  have htext := coerced_inLowerCase readsInAnyCase_foldedText? c
  have hflag := coerced_inLowerCase readsInAnyCase_toFlag? c
  have hnumber := coerced_inLowerCase readsInAnyCase_toNumber? c
  have hday := coerced_inLowerCase readsInAnyCase_toDay? c
  have hnumbers := coercedBounds_inLowerCase readsInAnyCase_toNumber? c
  have hdays := coercedBounds_inLowerCase readsInAnyCase_toDay? c
  unfold operandRule? at h
  split at h <;> cases h
  all_goals first
    | exact textSetOperand_inLowerCase c
    | simp only [textOperand, patternOperand, htext]
    | simp only [flagOperand, hflag]
    | simp only [numberOperand, hnumber]
    | simp only [dayOperand, hday]
    | simp only [numberRangeOperand, hnumbers]
    | simp only [dayRangeOperand, hdays]

theorem verdict_inLowerCase (c : Condition) (fields : List Field) :
    c.inLowerCase.verdict fields = c.verdict fields := by
  cases hfound : findField? fields c.field with
  | none => rw [verdict_of_unknown hfound, verdict_of_unknown (c := c.inLowerCase) hfound]
  | some field =>
    cases hrule : c.rule? field with
    | none =>
      rw [verdict_of_unusable hfound hrule, verdict_of_unusable (c := c.inLowerCase) hfound hrule]
    | some rule =>
      obtain ⟨op, -, hop⟩ := Option.bind_eq_some_iff.1 hrule
      rw [verdict_of_rule hfound hrule, verdict_of_rule (c := c.inLowerCase) hfound hrule,
        operand_inLowerCase hop]

end Condition

/-! ## Trees -/

namespace FilterNode

variable {f : Condition → Condition} {fields : List Field}

mutual

/-- A plan depends on the verdicts alone. -/
theorem plan?_mapConditions (h : ∀ c, (f c).verdict fields = c.verdict fields) (n : FilterNode) :
    plan? fields (n.mapConditions f) = plan? fields n := by
  cases n with
  | cond c => rw [mapConditions, plan?, Condition.plan?, h, plan?, Condition.plan?]
  | group id logical children =>
    rw [mapConditions, plan?, plans_mapAllConditions h children, plan?]

theorem plans_mapAllConditions (h : ∀ c, (f c).verdict fields = c.verdict fields)
    (ns : List FilterNode) : plans fields (mapAllConditions f ns) = plans fields ns := by
  cases ns with
  | nil => rfl
  | cons n ns =>
    rw [mapAllConditions, plans, plan?_mapConditions h n, plans_mapAllConditions h ns, plans]

end

mutual

theorem issues_mapConditions (h : ∀ c, (f c).issue? fields = c.issue? fields) (n : FilterNode) :
    issues fields (n.mapConditions f) = issues fields n := by
  cases n with
  | cond c => rw [mapConditions, issues, h, issues]
  | group id logical children =>
    rw [mapConditions, issues, issuesOfAll_mapAllConditions h children, issues]

theorem issuesOfAll_mapAllConditions (h : ∀ c, (f c).issue? fields = c.issue? fields)
    (ns : List FilterNode) :
    issuesOfAll fields (mapAllConditions f ns) = issuesOfAll fields ns := by
  cases ns with
  | nil => rfl
  | cons n ns =>
    rw [mapAllConditions, issuesOfAll, issues_mapConditions h n,
      issuesOfAll_mapAllConditions h ns, issuesOfAll]

end

end FilterNode

/-! ## Records -/

theorem Operand.accepts_inLowerCase (operand : Operand) (actual : Json) :
    operand.accepts actual.inLowerCase = operand.accepts actual := by
  have htext := readsInAnyCase_foldedText? actual
  have hflag := readsInAnyCase_storedFlag? actual
  have hnumber := readsInAnyCase_storedNumber? actual
  have hday := readsInAnyCase_toDay? actual
  cases operand with
  | text s | textSet items | pattern kind needle => simp only [accepts, htext]
  | flag b => simp only [accepts, hflag]
  | number comparison x | numberRange low high => simp only [accepts, hnumber]
  | day d | dayRange low high => simp only [accepts, hday]

namespace Plan

mutual

theorem accepts_inLowerCase (record : Json) (p : Plan) :
    accepts record.inLowerCase p = accepts record p := by
  cases p with
  | const b => rfl
  | test field operand =>
    rw [accepts, Json.get?_inLowerCase, Option.any_map]
    simp only [operand.accepts_inLowerCase, accepts]
  | all parts => exact acceptsAll_inLowerCase record parts
  | any parts => exact acceptsAny_inLowerCase record parts

theorem acceptsAll_inLowerCase (record : Json) (ps : List Plan) :
    acceptsAll record.inLowerCase ps = acceptsAll record ps := by
  cases ps with
  | nil => rfl
  | cons p ps =>
    rw [acceptsAll, accepts_inLowerCase record p, acceptsAll_inLowerCase record ps, acceptsAll]

theorem acceptsAny_inLowerCase (record : Json) (ps : List Plan) :
    acceptsAny record.inLowerCase ps = acceptsAny record ps := by
  cases ps with
  | nil => rfl
  | cons p ps =>
    rw [acceptsAny, accepts_inLowerCase record p, acceptsAny_inLowerCase record ps, acceptsAny]

end

end Plan

/-! ## Filters -/

/-- A compiled filter comes from the tree's depth and size, its plan and its issues. -/
theorem compile_congr {g h : FilterGroup} {schema : Schema} (depth : g.depth = h.depth)
    (size : g.size = h.size) (plan : g.plan schema.fields = h.plan schema.fields)
    (issues : g.issues schema.fields = h.issues schema.fields) (tenant : String)
    (sort : Option SortSpec) : compile g schema tenant sort = compile h schema tenant sort := by
  simp only [compile, FilterGroup.checkComplexity, depth, size, plan, issues]

namespace FilterGroup

/-- The filter with the values of its conditions in lower case. -/
def inLowerCase (g : FilterGroup) : FilterGroup := g.mapConditions Condition.inLowerCase

/-- The filters differ at most in the case of letters in the values of their conditions. -/
def SameUpToCase (g h : FilterGroup) : Prop := g.inLowerCase = h.inLowerCase

section
variable (g : FilterGroup)

theorem plan_inLowerCase (fields : List Field) : g.inLowerCase.plan fields = g.plan fields :=
  congrArg (Plan.join g.logical)
    (FilterNode.plans_mapAllConditions (fun c => c.verdict_inLowerCase fields) g.children)

theorem issues_inLowerCase (fields : List Field) :
    g.inLowerCase.issues fields = g.issues fields := by
  refine FilterNode.issuesOfAll_mapAllConditions (fun c => ?_) g.children
  rw [Condition.issue?, c.verdict_inLowerCase fields, Condition.issue?]
  rfl

theorem compile_inLowerCase (schema : Schema) (tenant : String) (sort : Option SortSpec) :
    compile g.inLowerCase schema tenant sort = compile g schema tenant sort :=
  compile_congr depth_mapConditions size_mapConditions (g.plan_inLowerCase schema.fields)
    (g.issues_inLowerCase schema.fields) tenant sort

theorem accepts_inLowerCase (fields : List Field) (record : Json) :
    g.inLowerCase.accepts fields record.inLowerCase = g.accepts fields record := by
  rw [accepts, plan_inLowerCase, Plan.accepts_inLowerCase, accepts]

end

/-- The case of letters in values has no effect on what the filter does. -/
structure IgnoresCase (g : FilterGroup) : Prop where
  /-- The plan is the same, and the issues are. -/
  plan : ∀ other, g.SameUpToCase other → ∀ fields,
    other.plan fields = g.plan fields ∧ other.issues fields = g.issues fields
  /-- So is the compiled filter, or the error. -/
  compiled : ∀ other, g.SameUpToCase other → ∀ schema tenant sort,
    compile other schema tenant sort = compile g schema tenant sort
  /-- The same records pass, whatever the case of the letters in their values. -/
  records : ∀ other, g.SameUpToCase other → ∀ fields record record',
    record.SameUpToCase record' → other.accepts fields record' = g.accepts fields record

/-- **Letter case.** -/
theorem ignoresCase (g : FilterGroup) : g.IgnoresCase where
  plan other h fields := by
    constructor
    · rw [← other.plan_inLowerCase, ← h, g.plan_inLowerCase]
    · rw [← other.issues_inLowerCase, ← h, g.issues_inLowerCase]
  compiled other h schema tenant sort := by
    rw [← other.compile_inLowerCase, ← h, g.compile_inLowerCase]
  records other h fields record record' hrecord := by
    rw [← other.accepts_inLowerCase, ← h, ← hrecord, g.accepts_inLowerCase]

end FilterGroup

/-- Clients by a part of their name, their plan, their monthly value and whether they renew. -/
def sampleSpelled (name plans value renews : String) : FilterGroup :=
  ⟨"root", .and,
    [.cond (.on "1" "name" "contains" (.string name)),
      .cond (.on "2" "plan" "in" (.string plans)),
      .cond (.on "3" "monthlyValue" "gte" (.string value)),
      .cond (.on "4" "autoRenew" "equals" (.string renews))]⟩

/-- A client that renews. -/
def sampleNamed (name plan : String) : Json :=
  .object [("name", .string name), ("plan", .string plan), ("monthlyValue", .int 1000),
    ("autoRenew", .bool true)]

theorem ignoresCase_sample :
    (sampleSpelled "acme" "basic, trial" "1e3" "true").SameUpToCase
        (sampleSpelled "AcMe" "BASIC, Trial" "1E3" "TRUE") ∧
      (sampleNamed "Acme Ltd." "basic").SameUpToCase (sampleNamed "ACME Ltd." "Basic") ∧
      (sampleSpelled "AcMe" "BASIC, Trial" "1E3" "TRUE").accepts Resource.clients.fields
        (sampleNamed "ACME Ltd." "Basic") = true := by
  have hname : Text.fold "AcMe" = Text.fold "acme" := by decide +kernel
  have hplans : Text.fold "BASIC, Trial" = Text.fold "basic, trial" := by decide +kernel
  have hvalue : Text.fold "1E3" = Text.fold "1e3" := by decide +kernel
  have hrenews : Text.fold "TRUE" = Text.fold "true" := by decide +kernel
  have hfilter : (sampleSpelled "acme" "basic, trial" "1e3" "true").SameUpToCase
      (sampleSpelled "AcMe" "BASIC, Trial" "1E3" "TRUE") := by
    simp only [FilterGroup.SameUpToCase, FilterGroup.inLowerCase, FilterGroup.mapConditions,
      sampleSpelled, FilterNode.mapAllConditions, FilterNode.mapConditions, Condition.inLowerCase,
      Condition.on, Option.map_some, Option.map_none, Json.inLowerCase, hname, hplans, hvalue,
      hrenews]
  have hclient : Text.fold "ACME Ltd." = Text.fold "Acme Ltd." := by decide +kernel
  have hplan : Text.fold "Basic" = Text.fold "basic" := by decide +kernel
  have hrecord : (sampleNamed "Acme Ltd." "basic").SameUpToCase
      (sampleNamed "ACME Ltd." "Basic") := by
    simp only [Json.SameUpToCase, sampleNamed, Json.inLowerCase, Json.membersInLowerCase, hclient,
      hplan]
  have hlower : (sampleSpelled "acme" "basic, trial" "1e3" "true").accepts Resource.clients.fields
      (sampleNamed "Acme Ltd." "basic") = true := by decide +kernel
  have hignores := (sampleSpelled "acme" "basic, trial" "1e3" "true").ignoresCase
  exact ⟨hfilter, hrecord, (hignores.records _ hfilter _ _ _ hrecord).trans hlower⟩

/-- Letters other than the ASCII ones keep their case. -/
example :
    (sampleSpelled "é" "basic" "1e3" "true").accepts Resource.clients.fields
      (sampleNamed "CAFÉ" "basic") = false := by
  decide +kernel

end BillingQuery
