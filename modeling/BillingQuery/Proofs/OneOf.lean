import BillingQuery.Proofs.TreeAlgebra

/-!
# Choices

A choice between texts may be written with `in`, or as a group joined by OR in which each condition
asks for one of them by `equals`.

**Main result (`AllowsChoice.oneOfIsChoice`).** Both let the same records pass. It does not matter
whether the texts stand in an array, between the commas of a text or alone, and an `in` without any
text lets no record pass.

Either operator asks for a set of folded texts. A value that is no text adds nothing to the set, and
as an `equals` it is a false condition, which adds nothing to a group joined by OR. The group counts
all the same. This is why only the array must not be empty: a group without conditions is true.
-/

namespace BillingQuery

/-! ## Texts with commas -/

theorem Text.splitWhere_eq_splitOnP (p : Char → Bool) (cs : List Char) :
    splitWhere p cs = cs.splitOnP p := by
  induction cs with
  | nil => rfl
  | cons c cs ih =>
    rw [splitWhere, List.splitOnP_cons_eq_if_modifyHead, ih]
    split_ifs with hc
    · rfl
    · obtain ⟨piece, pieces, hsplit⟩ := List.exists_cons_of_ne_nil (List.splitOnP_ne_nil p cs)
      rw [hsplit]
      rfl

namespace Json

/-- The list that a text writes: what stands between its commas, trimmed, less what is empty
then. -/
def itemsOfText (s : String) : List Json :=
  (((s.toList.splitOn ',').map Text.trimChars).filter (· ≠ [])).map fun cs =>
    .string (String.ofList cs)

theorem itemsOfText_eq (s : String) : itemsOfText s = (commaPieces s).map string := by
  rw [itemsOfText, commaPieces, Text.splitWhere_eq_splitOnP, List.map_map]
  refine congrArg (List.map _) (List.filter_congr fun cs _ => ?_)
  cases cs <;> rfl

theorem names_itemsOfText {s t : String} :
    (array (itemsOfText s)).Names t ↔ (string s).Names t := by
  rw [Names, itemsOfText_eq]
  constructor
  · rintro ⟨_, hitem, htext⟩
    obtain ⟨piece, hpiece, rfl⟩ := List.mem_map.1 hitem
    exact ⟨piece, hpiece, Option.some.inj htext⟩
  · rintro ⟨piece, hpiece, rfl⟩
    exact ⟨string piece, List.mem_map_of_mem hpiece, rfl⟩

/-- Neither an array nor a text. -/
def IsSingle : Json → Prop
  | array _ | string _ => False
  | _ => True

theorem IsSingle.names_iff {j : Json} (h : j.IsSingle) {s : String} :
    j.Names s ↔ j.foldedText? = some s := by
  cases j with
  | array items => cases h
  | string t => cases h
  | null | bool b | number n | object members => rfl

end Json

/-! ## Conditions -/

/-- The key is that of a field of text, which allows both `equals` and `in`. -/
structure AllowsChoice (fields : List Field) (key : String) (field : Field) : Prop where
  found : findField? fields key = some field
  type : field.type ∈ [.string, .id, .enum]
  equals : .equals ∈ field.operators
  oneOf : .oneOf ∈ field.operators

/-- The record has the field, and the text in it is this one with its case folded. -/
def Json.HasText (record : Json) (field : Field) (s : String) : Prop :=
  ∃ actual, record.get? field.key = some actual ∧ actual.foldedText? = some s

namespace Condition

/-- What the condition says: the key, the operator and the value, which is null if it is left
out. -/
structure Asks (c : Condition) (key : String) (op : Operator) (value : Json) : Prop where
  field : c.field = key
  operator : c.operator = op.name
  value : c.value.getD .null = value

variable {α : Type} {c : Condition} {read : Json → Option α}

/-- A value that is left out is compared as null is. -/
theorem relates_iff {β : Type} {actual : Json} {stored : Json → Option β} {related : α → β → Prop}
    (hnull : ∀ a b, read .null = some a → ¬ related a b) :
    c.Relates actual read stored related ↔
      ∃ a b, read (c.value.getD .null) = some a ∧ stored actual = some b ∧ related a b := by
  constructor
  · rintro ⟨j, a, b, hvalue, h⟩
    exact ⟨a, b, by rwa [hvalue]⟩
  · rintro ⟨a, b, hread, hstored, hrelated⟩
    cases hvalue : c.value with
    | none =>
      rw [hvalue] at hread
      exact absurd hrelated (hnull a b hread)
    | some j =>
      rw [hvalue] at hread
      exact ⟨j, a, b, hvalue, hread, hstored, hrelated⟩

/-- A condition that compares with the text in its field. -/
theorem holds_iff_of_relates {fields : List Field} {field : Field} {op : Operator} {record : Json}
    {related : α → String → Prop} (huses : c.Uses fields field op)
    (hcompares : ∀ actual, c.Compares field.type op actual ↔
      c.Relates actual read Json.foldedText? related)
    (hnull : ∀ a s, read .null = some a → ¬ related a s) :
    FilterNode.Holds fields record (.cond c) ↔
      ∃ s, record.HasText field s ∧ ∃ a, read (c.value.getD .null) = some a ∧ related a s := by
  rw [holds_iff huses]
  simp only [hcompares, relates_iff hnull]
  constructor
  · rintro ⟨actual, hactual, a, s, hread, hstored, hrelated⟩
    exact ⟨s, ⟨actual, hactual, hstored⟩, a, hread, hrelated⟩
  · rintro ⟨s, ⟨actual, hactual, hstored⟩, a, hread, hrelated⟩
    exact ⟨actual, hactual, a, s, hread, hstored, hrelated⟩

end Condition

namespace AllowsChoice

variable {fields : List Field} {key : String} {field : Field} {c : Condition} {op : Operator}
  {value record : Json}

theorem uses (h : AllowsChoice fields key field) (hop : op = .equals ∨ op = .oneOf)
    (hc : c.Asks key op value) : c.Uses fields field op where
  found := hc.field ▸ h.found
  named := hc.operator.symm
  allowed := by
    rcases hop with rfl | rfl
    · exact h.equals
    · exact h.oneOf
  suitable := by
    have htype := h.type
    revert htype
    rcases hop with rfl | rfl <;> cases field.type <;> decide

theorem holds_equals (h : AllowsChoice fields key field) (hc : c.Asks key .equals value) :
    FilterNode.Holds fields record (.cond c) ↔
      ∃ s, record.HasText field s ∧ value.foldedText? = some s := by
  have hcompares (actual : Json) : c.Compares field.type .equals actual ↔
      c.Relates actual Json.foldedText? Json.foldedText? (· = ·) := by
    have htype := h.type
    cases hfield : field.type with
    | string | id | enum => rfl
    | boolean | number | date => simp [hfield] at htype
  have hnull (s t : String) (hs : Json.null.foldedText? = some s) : ¬ s = t := nomatch hs
  rw [Condition.holds_iff_of_relates (h.uses (Or.inl rfl) hc) hcompares hnull, hc.value]
  simp only [exists_eq_right]

theorem holds_oneOf (h : AllowsChoice fields key field) (hc : c.Asks key .oneOf value) :
    FilterNode.Holds fields record (.cond c) ↔ ∃ s, record.HasText field s ∧ value.Names s := by
  have hcompares (actual : Json) : c.Compares field.type .oneOf actual ↔
      c.Relates actual some Json.foldedText? Json.Names := by
    cases field.type <;> rfl
  have hnull (j : Json) (s : String) (hj : some Json.null = some j) : ¬ j.Names s := by
    cases hj
    exact fun hnames => nomatch hnames
  rw [Condition.holds_iff_of_relates (h.uses (Or.inr rfl) hc) hcompares hnull, hc.value]
  simp only [Option.some.injEq, exists_eq_left']

theorem not_holds_oneOf (h : AllowsChoice fields key field) (hc : c.Asks key .oneOf value)
    (hempty : value.foldedTexts = []) : ¬ FilterNode.Holds fields record (.cond c) := by
  rw [h.holds_oneOf hc]
  rintro ⟨s, -, hnames⟩
  rw [← Json.mem_foldedTexts, hempty] at hnames
  exact List.not_mem_nil hnames

end AllowsChoice

/-! ## Groups of conditions -/

/-- The children are conditions that ask for the items, one by one: each of them for an item, and
each item is asked for. Their order, repeated items and the case of letters play no part. -/
structure AskOneByOne (key : String) (items : List Json) (children : List FilterNode) : Prop where
  /-- Each child asks for an item. -/
  sound : ∀ n ∈ children, ∃ d value, n = .cond d ∧ d.Asks key .equals value ∧
    ∃ item ∈ items, value.foldedText? = item.foldedText?
  /-- Each item is asked for. -/
  complete : ∀ item ∈ items, ∃ d value, .cond d ∈ children ∧ d.Asks key .equals value ∧
    value.foldedText? = item.foldedText?

/-- The conditions for a list of items, in its order. -/
def FilterNode.eachOf (key : String) (items : List Json) : List FilterNode :=
  items.map fun item => .cond (.on key key "equals" item)

theorem askOneByOne_eachOf (key : String) (items : List Json) :
    AskOneByOne key items (FilterNode.eachOf key items) where
  sound n hn := by
    obtain ⟨item, hitem, rfl⟩ := List.mem_map.1 hn
    exact ⟨_, item, rfl, ⟨rfl, rfl, rfl⟩, item, hitem, rfl⟩
  complete item hitem := ⟨_, item, List.mem_map_of_mem hitem, ⟨rfl, rfl, rfl⟩, rfl⟩

namespace AllowsChoice

open FilterNode (Equivalent)

variable {fields : List Field} {key : String} {field : Field} {c d : Condition} {value : Json}
  {items : List Json} {id : String} {children : List FilterNode}

/-- An `in` counts, so it may stand alone in a group. -/
theorem equivalent_alone (h : AllowsChoice fields key field) (hc : c.Asks key .oneOf value)
    (id : String) (logical : Logical) :
    Equivalent fields (.cond c) (.group id logical [.cond c]) :=
  FilterNode.equivalent_alone id logical ⟨_, _, h.uses (Or.inr rfl) hc⟩

/-- **Choices.** What is named in an array is asked for by one of the conditions. -/
theorem equivalent_array (h : AllowsChoice fields key field) (hc : c.Asks key .oneOf (.array items))
    (hitems : items ≠ []) (hchildren : AskOneByOne key items children) :
    Equivalent fields (.cond c) (.group id .or children) where
  counts := iff_of_true ⟨_, _, h.uses (Or.inr rfl) hc⟩ trivial
  holds record := by
    rw [h.holds_oneOf hc, FilterNode.holds_group_iff]
    constructor
    · rintro ⟨s, htext, item, hitem, hnames⟩
      obtain ⟨d, value, hmem, hd, hsame⟩ := hchildren.complete item hitem
      refine Or.inr ⟨.cond d, hmem, ⟨_, _, h.uses (Or.inl rfl) hd⟩, ?_⟩
      exact (h.holds_equals hd).2 ⟨s, htext, hsame.trans hnames⟩
    · rintro (hnone | ⟨n, hmem, -, hholds⟩)
      · -- The group is not vacuous: even an item that is no text gives a condition that counts.
        obtain ⟨item, hitem⟩ := List.exists_mem_of_ne_nil items hitems
        obtain ⟨d, value, hmem, hd, -⟩ := hchildren.complete item hitem
        exact absurd ⟨_, _, h.uses (Or.inl rfl) hd⟩ (hnone _ hmem)
      · obtain ⟨d, value, rfl, hd, item, hitem, hsame⟩ := hchildren.sound n hmem
        obtain ⟨s, htext, hvalue⟩ := (h.holds_equals hd).1 hholds
        exact ⟨s, htext, item, hitem, hsame.symm.trans hvalue⟩

theorem equivalent_text {s : String} (h : AllowsChoice fields key field)
    (hc : c.Asks key .oneOf (.string s)) (hd : d.Asks key .oneOf (.array (Json.itemsOfText s))) :
    Equivalent fields (.cond c) (.cond d) where
  counts := iff_of_true ⟨_, _, h.uses (Or.inr rfl) hc⟩ ⟨_, _, h.uses (Or.inr rfl) hd⟩
  holds record := by simp only [h.holds_oneOf hc, h.holds_oneOf hd, Json.names_itemsOfText]

theorem equivalent_single (h : AllowsChoice fields key field) (hvalue : value.IsSingle)
    (hc : c.Asks key .oneOf value) (hd : d.Asks key .equals value) :
    Equivalent fields (.cond c) (.cond d) where
  counts := iff_of_true ⟨_, _, h.uses (Or.inr rfl) hc⟩ ⟨_, _, h.uses (Or.inl rfl) hd⟩
  holds record := by simp only [h.holds_oneOf hc, h.holds_equals hd, hvalue.names_iff]

end AllowsChoice

/-! ## Filters -/

/-- Filters that are equal but at one place, where the first has the one node and the second the
other, let the same records pass. -/
def FilterNode.Interchangeable (fields : List Field) (n m : FilterNode) : Prop :=
  ∀ g h : FilterGroup, Anywhere (fun a b => a = n ∧ b = m) g.toNode h.toNode →
    ∀ record, h.accepts fields record = g.accepts fields record

theorem FilterNode.Equivalent.interchangeable {fields : List Field} {n m : FilterNode}
    (h : n.Equivalent fields m) : Interchangeable fields n m := by
  intro g g' hplace record
  refine FilterGroup.accepts_eq_of_equivalent (hplace.equivalent ?_) record
  rintro _ _ ⟨rfl, rfl⟩
  exact h

/-- On this key, `in` is a choice by `equals`. -/
structure OneOfIsChoice (fields : List Field) (key : String) : Prop where
  /-- A list that is not empty is a group of conditions, within a filter and as a filter. -/
  array : ∀ (c : Condition) (items : List Json), c.Asks key .oneOf (.array items) → items ≠ [] →
    ∀ (id : String) (children : List FilterNode), AskOneByOne key items children →
      FilterNode.Interchangeable fields (.cond c) (.group id .or children) ∧
        ∀ id' logical record, FilterGroup.accepts ⟨id', logical, [.cond c]⟩ fields record =
          FilterGroup.accepts ⟨id, .or, children⟩ fields record
  /-- A text is a list with commas. -/
  text : ∀ (c d : Condition) (s : String), c.Asks key .oneOf (.string s) →
    d.Asks key .oneOf (.array (Json.itemsOfText s)) →
      FilterNode.Interchangeable fields (.cond c) (.cond d)
  /-- Any other value stands for itself. -/
  single : ∀ (c d : Condition) (value : Json), value.IsSingle → c.Asks key .oneOf value →
    d.Asks key .equals value → FilterNode.Interchangeable fields (.cond c) (.cond d)
  /-- Without any text no record passes. -/
  nothing : ∀ (c : Condition) (value : Json), c.Asks key .oneOf value → value.foldedTexts = [] →
    ∀ id logical record, FilterGroup.accepts ⟨id, logical, [.cond c]⟩ fields record = false

/-- **Choices**, on every field of text that allows both operators. -/
theorem AllowsChoice.oneOfIsChoice {fields : List Field} {key : String} {field : Field}
    (h : AllowsChoice fields key field) : OneOfIsChoice fields key where
  array c items hc hitems id children hchildren := by
    have heq : FilterNode.Equivalent fields (.cond c) (.group id .or children) :=
      h.equivalent_array hc hitems hchildren
    refine ⟨heq.interchangeable, fun id' logical record => ?_⟩
    have halone := h.equivalent_alone hc id' logical
    exact FilterGroup.accepts_eq_of_equivalent (heq.symm.trans halone) record
  text c d s hc hd := (h.equivalent_text hc hd).interchangeable
  single c d value hvalue hc hd := (h.equivalent_single hvalue hc hd).interchangeable
  nothing c value hc hempty id logical record := by
    have halone := h.equivalent_alone hc id logical
    rw [Bool.eq_false_iff, ne_eq, FilterGroup.accepts_iff_of_equivalent halone.symm]
    exact h.not_holds_oneOf hc hempty

/-- Two states, one of them twice and in either case, and a value that is no text. -/
def sampleStates : List Json := [.string "TRIAL", .null, .string "active", .string "trial"]

/-- The clients whose state is one of these. -/
def sampleIn (value : Json) : FilterGroup :=
  ⟨"root", .and, [.cond (.on "1" "status" "in" value)]⟩

/-- The same as a choice. -/
def sampleOneByOne (items : List Json) : FilterGroup :=
  ⟨"root", .or, FilterNode.eachOf "status" items⟩

def sampleTrial : Json := .object [("status", .string "Trial")]

theorem oneOfIsChoice_status :
    (∃ field, AllowsChoice Resource.clients.fields "status" field) ∧
      (sampleIn (.array sampleStates)).accepts Resource.clients.fields sampleTrial = true ∧
      (sampleOneByOne sampleStates).accepts Resource.clients.fields sampleTrial = true ∧
      (sampleIn (.string " , ")).accepts Resource.clients.fields sampleTrial = false := by
  obtain ⟨field, hallows⟩ : ∃ field, AllowsChoice Resource.clients.fields "status" field :=
    ⟨_, rfl, by decide, by decide, by decide⟩
  have hchoice := hallows.oneOfIsChoice
  have hin : (sampleIn (.array sampleStates)).accepts Resource.clients.fields sampleTrial =
      true := by decide +kernel
  have hsame := (hchoice.array (.on "1" "status" "in" (.array sampleStates)) sampleStates
    ⟨rfl, rfl, rfl⟩ (by decide) "root" _ (askOneByOne_eachOf "status" sampleStates)).2
  have hnothing := hchoice.nothing (.on "1" "status" "in" (.string " , ")) (.string " , ")
    ⟨rfl, rfl, rfl⟩ (by decide +kernel)
  exact ⟨⟨field, hallows⟩, hin, (hsame "root" .and sampleTrial).symm.trans hin,
    hnothing "root" .and sampleTrial⟩

/-- An empty list lets no record pass, and an empty choice lets all pass. -/
example :
    (sampleIn (.array [])).accepts Resource.clients.fields sampleTrial = false ∧
      (sampleOneByOne []).accepts Resource.clients.fields sampleTrial = true := by
  decide +kernel

end BillingQuery
