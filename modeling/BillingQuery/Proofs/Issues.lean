import BillingQuery.Proofs.Meaning
import BillingQuery.Proofs.ResultSize
import Mathlib.Data.List.Forall2

/-!
# The issues of a filter

**The rules (`FilterGroup.ReportsInOrder`).** Every condition of a tree stands at a path: the places
of the nodes that lead to it, each among the children of its group. In the order of their paths the
conditions are read depth first and from left to right. A condition reports one issue or none, and
the issues of a filter are these reports one after the other; whether a test is left of the
condition plays no part.

**Main result (`FilterGroup.reportsIssues`).** The issues of a filter are the only list that follows
the rules. One pass over the tree gives them together with the plan, and they are what every use of
the filter reports: compiling it, filtering loaded records, and both listings.
-/

namespace BillingQuery

/-! ## Reports of a condition -/

namespace Condition

/-- What a condition reports. Each issue has its id and its field. -/
inductive Reports (fields : List Field) (c : Condition) : List FilterIssue → Prop
  | unknownField (unknown : ∀ f ∈ fields, f.key ≠ c.field) :
      Reports fields c [.unknownField c.id c.field]
  | illegalOperator {field : Field} (found : findField? fields c.field = some field)
      (unusable : ∀ op : Operator, op.name = c.operator →
        field.allows op = false ∨ operandRule? field.type op = none) :
      Reports fields c [.illegalOperator c.id c.field c.operator]
  | malformedBetween {field : Field} (uses : c.Uses fields field .between)
      (absent : c.value = none ∨ c.value2 = none) :
      Reports fields c [.malformedBetween c.id c.field]
  | nothing {field : Field} {op : Operator} (uses : c.Uses fields field op)
      (present : op = .between → c.value ≠ none ∧ c.value2 ≠ none) : Reports fields c []

/-! ### Missing bounds -/

theorem coerced_ne_missingBound {α β : Type} {c : Condition} {read : Json → Option α}
    {make : α → β} : make <$> c.coerced read ≠ .error .missingBound := by
  unfold coerced
  cases c.value with
  | none => exact nofun
  | some j => cases hread : read j <;> simp [Functor.map, Except.map, hread]

theorem textSetOperand_ne_missingBound {c : Condition} :
    c.textSetOperand ≠ .error .missingBound := by
  unfold textSetOperand
  cases c.value with
  | none => exact nofun
  | some j =>
    dsimp only
    split_ifs <;> exact nofun

theorem coercedBounds_eq_missingBound {α : Type} {c : Condition} {read : Json → Option α} :
    c.coercedBounds read = .error .missingBound ↔ c.value = none ∨ c.value2 = none := by
  unfold coercedBounds
  cases c.value with
  | none => simp
  | some j =>
    cases c.value2 with
    | none => simp
    | some k => cases hlow : read j <;> cases hhigh : read k <;> simp [hlow, hhigh]

/-- Comparing the bounds finds none missing. -/
theorem range_eq_missingBound {α : Type} {bounds : Except Unmatchable (α × α)}
    {exceeds : α → α → Prop} [∀ a b, Decidable (exceeds a b)] {make : α → α → Operand} :
    (do let (low, high) ← bounds
        if exceeds high low then .error .invertedRange else .ok (make low high)) =
      .error .missingBound ↔ bounds = .error .missingBound := by
  cases bounds with
  | error reason => simp [bind, Except.bind]
  | ok pair => by_cases h : exceeds pair.2 pair.1 <;> simp [bind, Except.bind, h]

/-- A bound is missing only where two are wanted. -/
theorem rule_eq_missingBound {c : Condition} {type : FieldType} {op : Operator}
    {rule : Condition → Except Unmatchable Operand} (h : operandRule? type op = some rule) :
    rule c = .error .missingBound ↔ op = .between ∧ (c.value = none ∨ c.value2 = none) := by
  unfold operandRule? at h
  split at h <;> cases h
  all_goals
    simp [textOperand, patternOperand, flagOperand, numberOperand, dayOperand, numberRangeOperand,
      dayRangeOperand, coerced_ne_missingBound, textSetOperand_ne_missingBound,
      range_eq_missingBound, coercedBounds_eq_missingBound]

/-! ### Rules and reports -/

variable {c : Condition} {fields : List Field}

/-- An operator is unusable on a field iff there is no rule for it. -/
theorem rule?_eq_none_iff {field : Field} :
    c.rule? field = none ↔ ∀ op : Operator, op.name = c.operator →
      field.allows op = false ∨ operandRule? field.type op = none := by
  rw [Option.eq_none_iff_forall_ne_some]
  simp only [Ne, rule?_eq_some, not_exists, not_and, Field.allows]
  constructor
  · intro hnone op hname
    by_cases hallowed : op ∈ field.operators
    · exact Or.inr (Option.eq_none_iff_forall_ne_some.2 fun rule => hnone rule op hname hallowed)
    · exact Or.inl (by simpa using hallowed)
  · intro hunusable rule op hname hallowed hop
    rcases hunusable op hname with hallows | hnone
    · simp [hallowed] at hallows
    · cases hop.symm.trans hnone

theorem issue?_of_rule {field : Field} {rule : Condition → Except Unmatchable Operand}
    (hfound : findField? fields c.field = some field) (hrule : c.rule? field = some rule) :
    (rule c = .error .missingBound → c.issue? fields = some (.malformedBetween c.id c.field)) ∧
      (rule c ≠ .error .missingBound → c.issue? fields = none) := by
  rw [issue?, verdict_of_rule hfound hrule]
  cases rule c with
  | ok operand => simp
  | error reason => cases reason <;> simp

/-- What a condition reports is its issue. -/
theorem reports_issue? (c : Condition) (fields : List Field) :
    c.Reports fields (c.issue? fields).toList := by
  cases hfound : findField? fields c.field with
  | none =>
    rw [issue?, verdict_of_unknown hfound]
    exact .unknownField fun f hf hkey => List.find?_eq_none.1 hfound f hf (beq_iff_eq.2 hkey)
  | some field =>
    cases hrule : c.rule? field with
    | none =>
      rw [issue?, verdict_of_unusable hfound hrule]
      exact .illegalOperator hfound (rule?_eq_none_iff.1 hrule)
    | some rule =>
      obtain ⟨op, huses, hop⟩ := exists_uses_of_rule hfound hrule
      by_cases hmissing : rule c = .error .missingBound
      · obtain ⟨rfl, habsent⟩ := (rule_eq_missingBound hop).1 hmissing
        rw [(issue?_of_rule hfound hrule).1 hmissing]
        exact .malformedBetween huses habsent
      · rw [(issue?_of_rule hfound hrule).2 hmissing]
        refine .nothing huses fun hbetween => ?_
        rw [rule_eq_missingBound hop, not_and, not_or] at hmissing
        exact hmissing hbetween

/-- **Conditions.** The rules leave each one report. -/
theorem Reports.eq {issues : List FilterIssue} (h : c.Reports fields issues) :
    issues = (c.issue? fields).toList := by
  cases h with
  | unknownField hunknown =>
    have hfound : findField? fields c.field = none :=
      List.find?_eq_none.2 fun f hf hkey => hunknown f hf (beq_iff_eq.1 hkey)
    rw [issue?, verdict_of_unknown hfound]
    rfl
  | illegalOperator hfound hunusable =>
    rw [issue?, verdict_of_unusable hfound (rule?_eq_none_iff.2 hunusable)]
    rfl
  | malformedBetween huses habsent =>
    obtain ⟨rule, hop, hrule⟩ := huses.exists_rule
    rw [(issue?_of_rule huses.found hrule).1 ((rule_eq_missingBound hop).2 ⟨rfl, habsent⟩)]
    rfl
  | nothing huses hpresent =>
    obtain ⟨rule, hop, hrule⟩ := huses.exists_rule
    have hmissing : rule c ≠ .error .missingBound := by
      rw [Ne, rule_eq_missingBound hop, not_and, not_or]
      exact hpresent
    rw [(issue?_of_rule huses.found hrule).2 hmissing]
    rfl

end Condition

/-! ## Conditions in a tree -/

namespace FilterNode

/-- A condition stands at a path: the places, counted from zero, of the nodes that lead to it, each
among the children of the node before. -/
inductive StandsAt : FilterNode → List Nat → Condition → Prop
  | here {c : Condition} : StandsAt (.cond c) [] c
  | inside {id : String} {logical : Logical} {children : List FilterNode} {place : Nat}
      {n : FilterNode} {path : List Nat} {c : Condition} (child : children[place]? = some n)
      (stands : StandsAt n path c) : StandsAt (.group id logical children) (place :: path) c

mutual

/-- The conditions of a tree with their paths, from left to right. -/
def located : FilterNode → List (List Nat × Condition)
  | .cond c => [([], c)]
  | .group _ _ children => locatedFrom 0 children

/-- Those of nodes at this place and the next ones. -/
def locatedFrom (place : Nat) : List FilterNode → List (List Nat × Condition)
  | [] => []
  | n :: ns => (located n).map (fun l => (place :: l.1, l.2)) ++ locatedFrom (place + 1) ns

end

mutual

/-- All conditions are there, and nothing else. -/
theorem mem_located {path : List Nat} {c : Condition} (n : FilterNode) :
    (path, c) ∈ n.located ↔ n.StandsAt path c := by
  cases n with
  | cond c' =>
    rw [located, List.mem_singleton, Prod.mk.injEq]
    constructor
    · intro h
      obtain ⟨rfl, rfl⟩ := h
      exact .here
    · intro h
      cases h
      exact ⟨rfl, rfl⟩
  | group id logical children =>
    rw [located, mem_locatedFrom children]
    constructor
    · intro h
      obtain ⟨i, n, rest, hn, hpath, hstands⟩ := h
      rw [Nat.zero_add] at hpath
      rw [hpath]
      exact .inside hn hstands
    · intro h
      cases h with
      | @inside _ _ _ place n rest _ hn hstands =>
        exact ⟨place, n, rest, hn, by rw [Nat.zero_add], hstands⟩

theorem mem_locatedFrom {place : Nat} {path : List Nat} {c : Condition} (ns : List FilterNode) :
    (path, c) ∈ locatedFrom place ns ↔ ∃ i n rest, ns[i]? = some n ∧
      path = (place + i) :: rest ∧ n.StandsAt rest c := by
  cases ns with
  | nil => simp [locatedFrom]
  | cons n ns =>
    rw [locatedFrom, List.mem_append, mem_locatedFrom ns]
    constructor
    · intro h
      rcases h with h | ⟨i, n', rest, hn', hpath, hstands⟩
      · obtain ⟨⟨rest, c'⟩, hmem, heq⟩ := List.mem_map.1 h
        obtain ⟨rfl, rfl⟩ := Prod.mk.inj heq
        exact ⟨0, n, rest, rfl, rfl, (mem_located n).1 hmem⟩
      · refine ⟨i + 1, n', rest, hn', ?_, hstands⟩
        rw [hpath, Nat.add_right_comm, Nat.add_assoc]
    · intro h
      obtain ⟨i, n', rest, hn', hpath, hstands⟩ := h
      cases i with
      | zero =>
        obtain rfl := Option.some.inj hn'
        exact Or.inl (List.mem_map.2 ⟨(rest, c), (mem_located n).2 hstands, by rw [hpath]; rfl⟩)
      | succ i =>
        refine Or.inr ⟨i, n', rest, hn', ?_, hstands⟩
        rw [hpath, Nat.add_right_comm, Nat.add_assoc]

end

/-- Nodes to the right have greater paths. -/
theorem lt_of_mem_locatedFrom {place : Nat} {ns : List FilterNode} {l : List Nat × Condition}
    (h : l ∈ locatedFrom (place + 1) ns) (path : List Nat) : place :: path < l.1 := by
  obtain ⟨i, n, rest, -, hpath, -⟩ := (mem_locatedFrom ns).1 h
  rw [hpath]
  exact List.cons_lt_cons_iff.2 (Or.inl (by omega))

mutual

/-- The order is that of the paths. -/
theorem pairwise_located (n : FilterNode) : n.located.Pairwise fun l m => l.1 < m.1 := by
  cases n with
  | cond c => exact List.pairwise_singleton _ _
  | group id logical children => exact pairwise_locatedFrom 0 children

theorem pairwise_locatedFrom (place : Nat) (ns : List FilterNode) :
    (locatedFrom place ns).Pairwise fun l m => l.1 < m.1 := by
  cases ns with
  | nil => exact List.Pairwise.nil
  | cons n ns =>
    rw [locatedFrom, List.pairwise_append, List.pairwise_map]
    refine ⟨?_, pairwise_locatedFrom (place + 1) ns, ?_⟩
    · exact (pairwise_located n).imp fun h => List.cons_lt_cons_iff.2 (Or.inr ⟨rfl, h⟩)
    · intro l hl m hm
      obtain ⟨l', -, rfl⟩ := List.mem_map.1 hl
      exact lt_of_mem_locatedFrom hm l'.1

end

/-- A list that has all conditions, in the order of their paths. -/
structure IsDocumentOrder (n : FilterNode) (located : List (List Nat × Condition)) : Prop where
  all : ∀ path c, (path, c) ∈ located ↔ n.StandsAt path c
  ordered : located.Pairwise fun l m => l.1 < m.1

theorem isDocumentOrder_located (n : FilterNode) : n.IsDocumentOrder n.located where
  all _ _ := mem_located n
  ordered := n.pairwise_located

/-- There is one such list. -/
theorem IsDocumentOrder.eq {n : FilterNode} {located : List (List Nat × Condition)}
    (h : n.IsDocumentOrder located) : located = n.located := by
  have hnodup {ls : List (List Nat × Condition)} (hls : ls.Pairwise fun l m => l.1 < m.1) :
      ls.Nodup := by
    apply hls.imp
    intro l m hlt heq
    rw [heq] at hlt
    exact List.lt_irrefl _ hlt
  have hperm : located.Perm n.located := by
    rw [List.perm_ext_iff_of_nodup (hnodup h.ordered) (hnodup n.pairwise_located)]
    intro l
    exact (h.all l.1 l.2).trans (mem_located n).symm
  apply hperm.eq_of_pairwise _ h.ordered n.pairwise_located
  intro l m _ _ hlt hgt
  exact absurd (List.lt_trans hlt hgt) (List.lt_irrefl _)

mutual

theorem issues_eq_flatMap (fields : List Field) (n : FilterNode) :
    n.issues fields = n.located.flatMap fun l => (l.2.issue? fields).toList := by
  cases n with
  | cond c => simp [issues, located]
  | group id logical children =>
    rw [issues, located, issuesOfAll_eq_flatMap fields 0 children]

theorem issuesOfAll_eq_flatMap (fields : List Field) (place : Nat) (ns : List FilterNode) :
    issuesOfAll fields ns =
      (locatedFrom place ns).flatMap fun l => (l.2.issue? fields).toList := by
  cases ns with
  | nil => rfl
  | cons n ns =>
    rw [issuesOfAll, locatedFrom, List.flatMap_append, List.flatMap_map, issues_eq_flatMap fields n,
      issuesOfAll_eq_flatMap fields (place + 1) ns]

end

/-! ## One pass -/

mutual

/-- One pass over a tree, which gives the part that the node adds to its group and appends the
issues it meets to those met before. -/
def resolve (fields : List Field) (met : List FilterIssue) :
    FilterNode → Option Plan × List FilterIssue
  | .cond c => (c.plan? fields, met ++ (c.issue? fields).toList)
  | .group _ logical children =>
    let (parts, met) := resolveAll fields met children
    (some (Plan.join logical parts), met)

def resolveAll (fields : List Field) (met : List FilterIssue) :
    List FilterNode → List Plan × List FilterIssue
  | [] => ([], met)
  | n :: ns =>
    let (part, met) := resolve fields met n
    let (parts, met) := resolveAll fields met ns
    (part.toList ++ parts, met)

end

mutual

/-- No issue is lost with a part that is thrown away. -/
theorem resolve_eq (fields : List Field) (met : List FilterIssue) (n : FilterNode) :
    n.resolve fields met = (n.plan? fields, met ++ n.issues fields) := by
  cases n with
  | cond c => rw [resolve, plan?, issues]
  | group id logical children =>
    rw [resolve, resolveAll_eq fields met children, plan?, issues]

theorem resolveAll_eq (fields : List Field) (met : List FilterIssue) (ns : List FilterNode) :
    resolveAll fields met ns = (plans fields ns, met ++ issuesOfAll fields ns) := by
  cases ns with
  | nil => rw [resolveAll, plans, issuesOfAll, List.append_nil]
  | cons n ns =>
    rw [resolveAll, resolve_eq fields met n, plans, issuesOfAll]
    simp only [resolveAll_eq fields _ ns, List.append_assoc]

end

end FilterNode

namespace FilterGroup

/-- The plan and the issues of a filter, in one pass. -/
def resolve (g : FilterGroup) (fields : List Field) : Plan × List FilterIssue :=
  let (parts, met) := FilterNode.resolveAll fields [] g.children
  (Plan.join g.logical parts, met)

theorem resolve_eq (g : FilterGroup) (fields : List Field) :
    g.resolve fields = (g.plan fields, g.issues fields) := by
  rw [resolve, FilterNode.resolveAll_eq, List.nil_append]
  rfl

/-! ## The issues of a filter -/

/-- Issues follow the rules: they are what the conditions report, in the order of the conditions. -/
def ReportsInOrder (g : FilterGroup) (fields : List Field) (issues : List FilterIssue) : Prop :=
  ∃ located reports, g.toNode.IsDocumentOrder located ∧
    List.Forall₂ (fun l report => Condition.Reports fields l.2 report) located reports ∧
    issues = reports.flatten

theorem eq_map_of_reports {fields : List Field} {located : List (List Nat × Condition)}
    {reports : List (List FilterIssue)}
    (h : List.Forall₂ (fun l report => Condition.Reports fields l.2 report) located reports) :
    reports = located.map fun l => (l.2.issue? fields).toList := by
  induction h with
  | nil => rfl
  | cons hreport _ ih => rw [List.map_cons, hreport.eq, ih]

/-- **One list.** The rules leave a filter one list of issues. -/
theorem reportsInOrder_iff {g : FilterGroup} {fields : List Field} {issues : List FilterIssue} :
    g.ReportsInOrder fields issues ↔ issues = g.issues fields := by
  have hissues : g.issues fields =
      (g.toNode.located.map fun l => (l.2.issue? fields).toList).flatten := by
    rw [← List.flatMap_def, ← FilterNode.issues_eq_flatMap]
    rfl
  rw [hissues]
  constructor
  · intro h
    obtain ⟨located, reports, hlocated, hreports, rfl⟩ := h
    rw [← hlocated.eq, eq_map_of_reports hreports]
  · intro h
    refine ⟨_, _, g.toNode.isDocumentOrder_located, ?_, h⟩
    rw [List.forall₂_map_right_iff, List.forall₂_same]
    exact fun l _ => l.2.reports_issue? fields

theorem map_issues_compile {g : FilterGroup} {schema : Schema} {tenant : String}
    {sort : Option SortSpec} {issues : List FilterIssue} :
    (compile g schema tenant sort).map CompiledFilter.issues = .ok issues ↔
      g.IsWithinLimits ∧ schema.Sorts sort ∧ issues = g.issues schema.fields := by
  constructor
  · intro h
    obtain ⟨c, hc, rfl⟩ := map_eq_ok_iff.1 h
    obtain ⟨hlimits, hsort, rfl⟩ := compile_eq_ok_iff.1 hc
    exact ⟨hlimits, hsort, rfl⟩
  · intro h
    obtain ⟨hlimits, hsort, rfl⟩ := h
    rw [compile_of_sorts hlimits hsort]
    rfl

theorem map_issues_filterRecords {r : Resource} {g : FilterGroup} {records : List Json}
    {issues : List FilterIssue} :
    (filterRecords r g records).map Prod.snd = .ok issues ↔
      g.IsWithinLimits ∧ issues = g.issues r.fields := by
  rw [filterRecords, checkComplexity_eq]
  by_cases hlimits : g.IsWithinLimits
  · rw [if_pos hlimits]
    show Except.ok (g.issues r.fields) = _ ↔ _
    rw [Except.ok.injEq, eq_comm]
    simp [hlimits]
  · rw [if_neg hlimits]
    simp [hlimits, bind, Except.bind, Except.map]

theorem issues_of_search {db : Database} {r : Resource} {tenant : String} {q : ListingQuery}
    {limits : QueryLimits} {page : RecordPage} (h : db.search r tenant q limits = .ok page) :
    page.issues = (q.filter.issues r.fields).map FilterIssue.message := by
  obtain ⟨c, hc, h⟩ := bind_eq_ok.1 h
  obtain ⟨rows, -, h⟩ := bind_eq_ok.1 h
  cases h
  obtain ⟨-, -, rfl⟩ := compile_eq_ok_iff.1 hc
  rfl

theorem issues_of_searchLoaded {db : Database} {r : Resource} {tenant : String} {q : ListingQuery}
    {limits : QueryLimits} {page : RecordPage} (h : db.searchLoaded r tenant q limits = .ok page) :
    page.issues = (q.filter.issues r.fields).map FilterIssue.message := by
  obtain ⟨_, -, h⟩ := bind_eq_ok.1 h
  obtain ⟨loaded, -, h⟩ := bind_eq_ok.1 h
  obtain ⟨⟨passed, issues⟩, hfiltered, h⟩ := bind_eq_ok.1 h
  have hissues : (filterRecords r q.filter loaded.records).map Prod.snd = .ok issues := by
    rw [hfiltered]
    rfl
  cases h
  rw [(map_issues_filterRecords.1 hissues).2]

/-- Every use of a filter reports the issues that follow the rules. -/
structure ReportsIssues (g : FilterGroup) : Prop where
  /-- One pass gives the one list that follows the rules, -/
  rules : ∀ fields issues, g.ReportsInOrder fields issues ↔ issues = (g.resolve fields).2
  /-- and it gives the plan that records are tested by. -/
  selected : ∀ fields records,
    g.select fields records = records.filter (g.resolve fields).1.accepts
  /-- A compiled filter has this list. Compiling fails for other reasons only. -/
  compiled : ∀ schema tenant sort issues,
    (compile g schema tenant sort).map CompiledFilter.issues = .ok issues ↔
      g.IsWithinLimits ∧ schema.Sorts sort ∧ g.ReportsInOrder schema.fields issues
  /-- So has the outcome of filtering records that were loaded. -/
  filtered : ∀ r records issues, (filterRecords r g records).map Prod.snd = .ok issues ↔
    g.IsWithinLimits ∧ g.ReportsInOrder r.fields issues
  /-- A page has the messages of the list, whether the store filters or this program does. -/
  listed : ∀ (db : Database) r tenant (q : ListingQuery) limits page, q.filter = g →
    db.search r tenant q limits = .ok page ∨ db.searchLoaded r tenant q limits = .ok page →
    page.issues = (g.resolve r.fields).2.map FilterIssue.message

/-- **Issues are complete, exact and in order**, for every tree and every list of fields. -/
theorem reportsIssues (g : FilterGroup) : g.ReportsIssues where
  rules fields issues := by
    rw [resolve_eq]
    exact reportsInOrder_iff
  selected fields records := by
    rw [resolve_eq]
    rfl
  compiled schema tenant sort issues := by
    rw [reportsInOrder_iff]
    exact map_issues_compile
  filtered r records issues := by
    rw [reportsInOrder_iff]
    exact map_issues_filterRecords
  listed := by
    intro db r tenant q limits page hq h
    rw [resolve_eq, ← hq]
    rcases h with h | h
    · exact issues_of_search h
    · exact issues_of_searchLoaded h

/-- A missing bound makes the whole filter false, and the group after it still reports. -/
def sampleDropped : FilterGroup :=
  ⟨"root", .and, [
    .cond ⟨"1", "monthlyValue", "between", some (Json.int 1), none⟩,
    .group "2" .or [.cond (.on "3" "taxId" "equals" (Json.int 7))]]⟩

theorem reportsIssues_sample :
    (sampleDropped.resolve Resource.clients.fields).1 = .const false ∧
      (compile sampleDropped Resource.clients.schema "t1" none).map CompiledFilter.issues =
        .ok [.malformedBetween "1" "monthlyValue", .unknownField "3" "taxId"] := by
  have hrules : sampleDropped.ReportsInOrder Resource.clients.schema.fields
      [.malformedBetween "1" "monthlyValue", .unknownField "3" "taxId"] :=
    (reportsIssues sampleDropped).rules _ _ |>.2 rfl
  have hsort : Resource.clients.schema.Sorts none := nofun
  exact ⟨rfl, (reportsIssues sampleDropped).compiled _ _ _ _ |>.2 ⟨by decide, hsort, hrules⟩⟩

end FilterGroup
end BillingQuery
