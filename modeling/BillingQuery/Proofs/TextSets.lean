import BillingQuery.Proofs.Compiled
import BillingQuery.Proofs.RowTests
import BillingQuery.Proofs.Skeletons

/-!
# Sets of texts

**Grammar (`Json.Spells`, `Json.WritesTexts`).** Which texts a JSON array of strings writes, by the
productions of the grammar: escapes of one letter, units of four hexadecimal digits and pairs of
them, and white space between the tokens. A text writes one list at most, so whoever reads JSON
reads the same list from it.

**Main result (`compile_bindsTextSets`).** The value that is bound for a set of texts writes exactly
that set, whatever characters the texts have. In a compiled filter every test on a set has one
placeholder, and on a row with a text it is true iff the evaluator finds the text in the set.
-/

namespace BillingQuery

namespace Json

/-! ## Strings -/

/-- After its opening quote, a string spells some characters up to its closing quote, and then comes
the rest. -/
inductive Spells : List Char → List Char → List Char → Prop
  | close {rest : List Char} : Spells ('"' :: rest) [] rest
  | plain {c : Char} {raw cs rest : List Char} (quote : c ≠ '"') (slash : c ≠ '\\')
      (control : ¬ c.toNat < 32) (more : Spells raw cs rest) : Spells (c :: raw) (c :: cs) rest
  | letter {l c : Char} {raw cs rest : List Char} (means : escaped? l = some c)
      (more : Spells raw cs rest) : Spells ('\\' :: l :: raw) (c :: cs) rest
  | unit {x₁ x₂ x₃ x₄ c : Char} {n : Nat} {raw cs rest : List Char}
      (digits : hex4? x₁ x₂ x₃ x₄ = some n) (means : unitChar? n = some c)
      (more : Spells raw cs rest) :
      Spells ('\\' :: 'u' :: x₁ :: x₂ :: x₃ :: x₄ :: raw) (c :: cs) rest
  | pair {x₁ x₂ x₃ x₄ y₁ y₂ y₃ y₄ c : Char} {high low : Nat} {raw cs rest : List Char}
      (digits : hex4? x₁ x₂ x₃ x₄ = some high) (half : unitChar? high = none)
      (moreDigits : hex4? y₁ y₂ y₃ y₄ = some low) (means : pairChar? high low = some c)
      (more : Spells raw cs rest) :
      Spells ('\\' :: 'u' :: x₁ :: x₂ :: x₃ :: x₄ :: '\\' :: 'u' :: y₁ :: y₂ :: y₃ :: y₄ :: raw)
        (c :: cs) rest

theorem Spells.readString_eq {raw cs rest : List Char} (h : Spells raw cs rest) :
    readString raw = some (cs, rest) := by
  induction h with
  | close => rfl
  | plain hquote hslash hcontrol _ ih =>
    rw [readString_cons hquote hslash hcontrol, ih]
    rfl
  | letter hmeans _ ih =>
    rw [readString_escaped hmeans, ih]
    rfl
  | unit hdigits hmeans _ ih =>
    rw [readString, hdigits, Option.bind_some]
    simp only [hmeans, ih, Option.map_some]
  | pair hdigits hhalf hmore hmeans _ ih =>
    rw [readString, hdigits, Option.bind_some]
    simp only [hhalf, hmore, hmeans, ih, Option.bind_some, Option.map_some]

/-- A string spells one text. -/
theorem Spells.unique {raw cs cs' rest rest' : List Char} (h : Spells raw cs rest)
    (h' : Spells raw cs' rest') : cs = cs' ∧ rest = rest' := by
  have hboth := h.readString_eq.symm.trans h'.readString_eq
  rwa [Option.some.injEq, Prod.mk.injEq] at hboth

/-- What is written for a character spells it. -/
theorem spells_escapeChar (c : Char) {raw cs rest : List Char} (h : Spells raw cs rest) :
    Spells (escapeChar c ++ raw) (c :: cs) rest := by
  have hcode {n : Nat} (hn : c.toNat = n) : c = Char.ofNat n := by
    rw [← hn, Char.ofNat_toNat]
  unfold escapeChar
  split_ifs with hquote hslash h8 h9 h10 h12 h13 hcontrol
  · subst hquote
    exact .letter rfl h
  · subst hslash
    exact .letter rfl h
  · obtain rfl := hcode h8
    exact .letter rfl h
  · obtain rfl := hcode h9
    exact .letter rfl h
  · obtain rfl := hcode h10
    exact .letter rfl h
  · obtain rfl := hcode h12
    exact .letter rfl h
  · obtain rfl := hcode h13
    exact .letter rfl h
  · exact .unit (hex4?_digitChar (by omega)) (unitChar?_toNat (by omega)) h
  · exact .plain hquote hslash hcontrol h

theorem spells_flatMap (cs rest : List Char) :
    Spells (cs.flatMap escapeChar ++ '"' :: rest) cs rest := by
  induction cs with
  | nil => exact .close
  | cons c cs ih =>
    rw [List.flatMap_cons, List.append_assoc]
    exact spells_escapeChar c ih

/-! ## Arrays of strings -/

/-- After a bracket or a comma, strings with commas between them, up to the bracket that closes the
array and ends the text. -/
inductive WritesItems : List Char → List String → Prop
  | last {raw body rest after : List Char} {t : String} (quote : skipSpace raw = '"' :: body)
      (spells : Spells body t.toList rest) (close : skipSpace rest = ']' :: after)
      (nothing : skipSpace after = []) : WritesItems raw [t]
  | more {raw body rest after : List Char} {t : String} {texts : List String}
      (quote : skipSpace raw = '"' :: body) (spells : Spells body t.toList rest)
      (comma : skipSpace rest = ',' :: after) (items : WritesItems after texts) :
      WritesItems raw (t :: texts)

/-- A text that is an array of strings. -/
inductive WritesTexts (text : String) : List String → Prop
  | empty {inside after : List Char} (bracket : skipSpace text.toList = '[' :: inside)
      (close : skipSpace inside = ']' :: after) (nothing : skipSpace after = []) :
      WritesTexts text []
  | items {inside : List Char} {texts : List String}
      (bracket : skipSpace text.toList = '[' :: inside) (items : WritesItems inside texts) :
      WritesTexts text texts

theorem WritesItems.exists_quote {raw : List Char} {texts : List String}
    (h : WritesItems raw texts) :
    ∃ body, skipSpace raw = '"' :: body := by
  cases h with
  | last hquote | more hquote => exact ⟨_, hquote⟩

theorem WritesItems.unique {raw : List Char} {texts texts' : List String}
    (h : WritesItems raw texts) (h' : WritesItems raw texts') : texts = texts' := by
  induction h generalizing texts' with
  | last hquote hspells hclose _ =>
    cases h' with
    | last hquote' hspells' =>
      obtain rfl := List.cons_inj_right _ |>.1 (hquote.symm.trans hquote')
      rw [String.toList_inj.1 (hspells.unique hspells').1]
    | more hquote' hspells' hcomma =>
      obtain rfl := List.cons_inj_right _ |>.1 (hquote.symm.trans hquote')
      obtain rfl := (hspells.unique hspells').2
      cases hclose.symm.trans hcomma
  | more hquote hspells hcomma _ ih =>
    cases h' with
    | last hquote' hspells' hclose =>
      obtain rfl := List.cons_inj_right _ |>.1 (hquote.symm.trans hquote')
      obtain rfl := (hspells.unique hspells').2
      cases hclose.symm.trans hcomma
    | more hquote' hspells' hcomma' hitems' =>
      obtain rfl := List.cons_inj_right _ |>.1 (hquote.symm.trans hquote')
      obtain ⟨htext, rfl⟩ := hspells.unique hspells'
      obtain rfl := List.cons_inj_right _ |>.1 (hcomma.symm.trans hcomma')
      rw [String.toList_inj.1 htext, ih hitems']

/-- **One list.** No text writes two lists of texts. -/
theorem WritesTexts.unique {text : String} {texts texts' : List String}
    (h : WritesTexts text texts) (h' : WritesTexts text texts') : texts = texts' := by
  have hinside {inside inside' : List Char} (hbracket : skipSpace text.toList = '[' :: inside)
      (hbracket' : skipSpace text.toList = '[' :: inside') : inside = inside' :=
    List.cons_inj_right _ |>.1 (hbracket.symm.trans hbracket')
  cases h with
  | empty hbracket hclose =>
    cases h' with
    | empty => rfl
    | items hbracket' hitems =>
      obtain rfl := hinside hbracket hbracket'
      obtain ⟨body, hquote⟩ := hitems.exists_quote
      cases hclose.symm.trans hquote
  | items hbracket hitems =>
    cases h' with
    | empty hbracket' hclose =>
      obtain rfl := hinside hbracket hbracket'
      obtain ⟨body, hquote⟩ := hitems.exists_quote
      cases hclose.symm.trans hquote
    | items hbracket' hitems' =>
      obtain rfl := hinside hbracket hbracket'
      exact hitems.unique hitems'

theorem skipSpace_chars_string (t : String) (rest : List Char) :
    skipSpace (chars (.string t) rest) = '"' :: (t.toList.flatMap escapeChar ++ '"' :: rest) := by
  rw [chars_string, stringChars, List.append_assoc]
  rfl

theorem writesItems_chars (t : String) (texts : List String) :
    WritesItems (chars (.string t) (itemChars (texts.map string) [']'])) (t :: texts) := by
  induction texts generalizing t with
  | nil =>
    have hclose : skipSpace (itemChars ([].map string) [']']) = [']'] := rfl
    exact .last (skipSpace_chars_string t _) (spells_flatMap t.toList _) hclose rfl
  | cons u texts ih =>
    have hcomma : skipSpace (itemChars ((u :: texts).map string) [']']) =
        ',' :: chars (.string u) (itemChars (texts.map string) [']']) := by
      rw [List.map_cons, itemChars]
      rfl
    exact .more (skipSpace_chars_string t _) (spells_flatMap t.toList _) hcomma (ih u)

/-- The text of a list of texts writes that list. -/
theorem writesTexts_write (texts : List String) :
    WritesTexts (array (texts.map string)).write texts := by
  cases texts with
  | nil => exact .empty rfl rfl rfl
  | cons t texts =>
    have hbracket : skipSpace (array ((t :: texts).map string)).write.toList =
        '[' :: chars (.string t) (itemChars (texts.map string) [']']) := by
      rw [write, String.toList_ofList, chars_texts]
      rfl
    exact .items hbracket (writesItems_chars t texts)

/-- Whoever reads the text as JSON gets these texts, in this order. -/
structure ReadsAs (text : String) (texts : List String) : Prop where
  /-- By the grammar: it writes this list and no other. -/
  grammar : ∀ others, WritesTexts text others ↔ others = texts
  /-- By the reader, whatever nesting it allows. -/
  reader : ∀ depth, 0 < depth → read? depth text = some (array (texts.map string))
  /-- By the store, one item after the other. -/
  store : Sql.arrayItems? (.text text) = some (texts.map Sql.Cell.text)

/-- **Lists of texts read back**, whatever their characters. -/
theorem readsAs_write (texts : List String) : ReadsAs (array (texts.map string)).write texts where
  grammar others := by
    constructor
    · intro h
      exact h.unique (writesTexts_write texts)
    · intro h
      rw [h]
      exact writesTexts_write texts
  reader depth hdepth := read?_write_texts texts hdepth
  store := Sql.arrayItems?_texts texts

end Json

/-! ## Tests of a plan -/

namespace Plan

mutual

/-- A relation holds between each test of a plan and the part of a predicate that stands at its
place. -/
def ForTests (R : Field → Operand → Sql.Predicate → Prop) : Plan → Sql.Predicate → Prop
  | const _, _ => True
  | test field operand, p => R field operand p
  | all parts, .all ps => ForAllTests R parts ps
  | any parts, .any ps => ForAllTests R parts ps
  | all _, _ | any _, _ => False

def ForAllTests (R : Field → Operand → Sql.Predicate → Prop) :
    List Plan → List Sql.Predicate → Prop
  | [], [] => True
  | plan :: plans, p :: ps => plan.ForTests R p ∧ ForAllTests R plans ps
  | [], _ :: _ | _ :: _, [] => False

end

/-- The relation holds of every compiled test whose values stand at its place. -/
def IsEstablished (R : Field → Operand → Sql.Predicate → Prop) (values : List Sql.Value) : Prop :=
  ∀ (field : Field) (operand : Operand) (bound : Nat),
    operand.values <+: values.drop bound → R field operand (operand.predicate field.column bound)

mutual

theorem forTests_predicate {R : Field → Operand → Sql.Predicate → Prop} {values : List Sql.Value}
    (hR : IsEstablished R values) (p : Plan) {bound : Nat} (h : p.values <+: values.drop bound) :
    p.ForTests R (p.predicate bound) := by
  cases p with
  | const b => trivial
  | test field operand => exact hR field operand bound h
  | all parts => exact forAllTests_predicates hR parts h
  | any parts => exact forAllTests_predicates hR parts h

theorem forAllTests_predicates {R : Field → Operand → Sql.Predicate → Prop}
    {values : List Sql.Value} (hR : IsEstablished R values) (ps : List Plan) {bound : Nat}
    (h : valuesOfAll ps <+: values.drop bound) : ForAllTests R ps (predicates bound ps) := by
  cases ps with
  | nil => trivial
  | cons p ps =>
    obtain ⟨rest, hrest⟩ := h
    rw [valuesOfAll, List.append_assoc] at hrest
    refine ⟨forTests_predicate hR p ⟨_, hrest⟩, forAllTests_predicates hR ps ⟨rest, ?_⟩⟩
    rw [← List.drop_drop, ← hrest, List.drop_left]

end

end Plan

/-! ## Membership in the store -/

namespace Sql

theorem compareCells_text_eq (s t : String) :
    compareCells .eq (.text s) (.text t) = some (s == t) := by
  have hiff : compareCells .eq (.text s) (.text t) = some true ↔ (s == t) = true := by
    rw [compareCells_text, beq_iff_eq]
  have hknown : compareCells .eq (.text s) (.text t) =
      some (Relation.eq.holds ((Cell.text s).compare (.text t))) := by
    simp [compareCells]
  rw [hknown, Option.some.injEq] at hiff ⊢
  exact Bool.eq_iff_iff.2 hiff

/-- A text is among texts, or it is not. -/
theorem amongCells_texts_eq (s : String) (texts : List String) :
    amongCells (.text s) (texts.map Cell.text) = some (texts.contains s) := by
  induction texts with
  | nil => rfl
  | cons t texts ih =>
    show (compareCells .eq (.text s) (.text t)).or
      (amongCells (.text s) (texts.map Cell.text)) = _
    rw [compareCells_text_eq, ih, List.contains_cons]
    cases s == t <;> cases texts.contains s <;> rfl

end Sql

namespace Operand

/-- The predicate is the test that a column is in a set. -/
structure TestsMembership (values : List Sql.Value) (column : String) (texts : List String)
    (p : Sql.Predicate) : Prop where
  /-- Its one placeholder has one value, which reads as the set. -/
  bound : ∃ n array, p = .amongItems (.lower (.column column)) (.parameter n) ∧ 0 < n ∧
    values[n - 1]? = some (.text array) ∧ Json.ReadsAs array texts
  /-- On a row with a text it is true or false, as the evaluator finds it on a record with that
  text. -/
  agrees : ∀ (s : Sql.Scope) (t : String), IsBound s 0 values → s.cell column = .text t →
    p.truth s = some (texts.contains (Text.fold t)) ∧
      (textSet texts).accepts (.string t) = texts.contains (Text.fold t)

theorem truth_textSet_eq {s : Sql.Scope} {column t : String} {bound : Nat} {texts : List String}
    (hcell : s.cell column = .text t) (hbound : IsBound s bound (textSet texts).values) :
    ((textSet texts).predicate column bound).truth s = some (texts.contains (Text.fold t)) := by
  have hfirst : s.parameter (bound + 1) = .text (Json.array (texts.map Json.string)).write :=
    hbound 0 _ rfl
  have hlower : (s.cell column).lower = .text (Text.fold t) := by rw [hcell]; rfl
  rw [predicate, Sql.Predicate.truth]
  simp only [Sql.Term.value, hfirst, hlower, Sql.arrayItems?_texts, Option.bind_some]
  exact Sql.amongCells_texts_eq _ _

/-- Values at their place among those of a scope are bound. -/
theorem isBound_at_place {s : Sql.Scope} {values own : List Sql.Value} {bound : Nat}
    (hall : IsBound s 0 values) (h : own <+: values.drop bound) : IsBound s bound own := by
  intro i v hi
  have hlt : i < own.length := (List.getElem?_eq_some_iff.1 hi).1
  have hvalue : values[bound + i]? = some v := by
    rw [getElem?_of_part h hlt, hi]
  have hplace : 0 + 1 + (bound + i) = bound + 1 + i := by omega
  rw [← hall (bound + i) v hvalue, hplace]

theorem testsMembership_predicate {values : List Sql.Value} {texts : List String} {bound : Nat}
    (column : String) (h : (textSet texts).values <+: values.drop bound) :
    TestsMembership values column texts ((textSet texts).predicate column bound) where
  bound := by
    have hvalue := getElem?_of_part h (i := 0) Nat.one_pos
    exact ⟨bound + 1, _, rfl, Nat.succ_pos bound, hvalue, Json.readsAs_write texts⟩
  agrees s t hbound hcell := ⟨truth_textSet_eq hcell (isBound_at_place hbound h), rfl⟩

end Operand

/-! ## Compiled filters -/

/-- The sets of a filter are bound as sets. -/
structure CompiledFilter.BindsTextSets (c : CompiledFilter) (plan : Plan) : Prop where
  /-- Every list of texts is bound as one value that reads as the list. -/
  lists : ∀ texts : List String, ∃ array,
    (Operand.textSet texts).values = [.text array] ∧ Json.ReadsAs array texts
  /-- After the tenant clause comes the predicate of the plan, if the plan needs one. -/
  conditions : c.conditions.tail = if plan.isConst true then [] else [plan.predicate 1]
  /-- In it each test on a set is one of membership. -/
  tests : plan.ForTests (fun field operand p => ∀ texts, operand = .textSet texts →
    operand.values.length = 1 ∧ Operand.TestsMembership c.values field.column texts p)
    (plan.predicate 1)

/-- **Sets are sets in the store**, however many texts they have. -/
theorem compile_bindsTextSets {g : FilterGroup} {schema : Schema} {tenant : String}
    {sort : Option SortSpec} {c : CompiledFilter} (h : compile g schema tenant sort = .ok c) :
    c.BindsTextSets (g.plan schema.fields) := by
  obtain ⟨-, -, rfl⟩ := compile_eq_ok_iff.1 h
  have htests : (g.plan schema.fields).values <+:
      (g.compiledFor schema tenant (schema.orderOf? sort)).values.drop 1 := List.prefix_refl _
  exact {
    lists := fun texts => ⟨_, rfl, Json.readsAs_write texts⟩
    conditions := by
      rw [FilterGroup.compiledFor]
      split <;> rfl
    tests := by
      refine Plan.forTests_predicate ?_ _ htests
      intro field operand bound hvalues texts hoperand
      subst hoperand
      exact ⟨rfl, Operand.testsMembership_predicate field.column hvalues⟩ }

/-- A filter with quotes, backslashes and controls in a set, where one text looks like two. -/
def sampleSet : FilterGroup := sampleSearch "acme" ["\"\\", "b\",\"c", "\x00\x1f"]

theorem compile_bindsTextSets_sample :
    (sampleSet.compiledFor Resource.clients.schema "t1"
      (Resource.clients.schema.orderOf? none)).BindsTextSets
        (sampleSet.plan Resource.clients.schema.fields) :=
  compile_bindsTextSets (compile_of_sorts (by decide) nofun)

end BillingQuery
