import BillingQuery.Proofs.SqlTexts

/-!
# Reading SQL

Tokens are read by the precedence of SQL: OR is weaker than AND, AND is weaker than comparisons, and
parentheses group.

**Main results (`isReadBack`, `read?_joined`).** A predicate is read back from its tokens as one
operand, wherever it stands, and conditions that AND joins are read back from their text.

**Frames (`Frame`).** Reading goes from left to right, and keeps for every open parenthesis what was
read inside of it: the operands that OR has separated, of which the last is a chain of AND that may
still go on. So a predicate that is read only adds one operand to the innermost frame.
-/

namespace BillingQuery.Sql

/-! ## Terms and tests -/

/-- The end of a call of a function on a term. -/
def readCall (function : String) (t : Term) : List Token → Option (Term × List Token)
  | .closing :: ts =>
    if Text.sameFold function "LOWER" then some (.lower t, ts)
    else if Text.sameFold function "DATE" then some (.date t, ts)
    else if Text.sameFold function "TYPEOF" then some (.className t, ts)
    else none
  | .comma :: .integer 1 :: .comma :: .integer length :: .closing :: ts =>
    if Text.sameFold function "SUBSTR" then some (.leading t length, ts) else none
  | _ => none

/-- The term at the start, and what follows it. -/
def readTerm : List Token → Option (Term × List Token)
  | .word function :: .opening :: ts => (readTerm ts).bind fun (t, rest) => readCall function t rest
  | .word name :: ts => if isReserved name then none else some (.column name, ts)
  | .parameter n :: ts => some (.parameter n, ts)
  | .integer n :: ts => some (.integer n, ts)
  | _ => none

/-- The tokens start with these keywords. -/
def afterKeywords : List String → List Token → Option (List Token)
  | [], ts => some ts
  | keyword :: keywords, t :: ts =>
    if t.isKeyword keyword then afterKeywords keywords ts else none
  | _ :: _, [] => none

/-- The texts up to the closing parenthesis, and what follows it. -/
def readTexts : List Token → Option (List String × List Token)
  | .text s :: .closing :: ts => some ([s], ts)
  | .text s :: .comma :: ts => (readTexts ts).map fun (texts, rest) => (s :: texts, rest)
  | _ => none

/-- The pattern after LIKE, and its escape character if there is one. -/
def readPattern (t : Term) (ts : List Token) : Option (Predicate × List Token) :=
  (readTerm ts).bind fun (pattern, rest) =>
    match afterKeywords ["ESCAPE"] rest with
    | none => some (.like t pattern none, rest)
    | some (.text s :: rest) =>
      match s.toList with
      | [c] => some (.like t pattern (some c), rest)
      | _ => none
    | some _ => none

/-- The set after IN and its parenthesis: some texts, or the items of an array. -/
def readSet (t : Term) (ts : List Token) : Option (Predicate × List Token) :=
  match afterKeywords ["SELECT", "value", "FROM", "json_each"] ts with
  | some (.opening :: ts) =>
    (readTerm ts).bind fun (array, rest) =>
      match rest with
      | .closing :: .closing :: rest => some (.amongItems t array, rest)
      | _ => none
  | _ => (readTexts ts).map fun (texts, rest) => (.among t texts, rest)

/-- The test of a term, of which the tokens are what follows the term. -/
def readTail (t : Term) : List Token → Option (Predicate × List Token)
  | .relation r :: ts => (readTerm ts).map fun (right, rest) => (.compare r t right, rest)
  | .word word :: ts =>
    if Text.sameFold word "LIKE" then readPattern t ts
    else if Text.sameFold word "IN" then
      match ts with
      | .opening :: ts => readSet t ts
      | _ => none
    else if Text.sameFold word "IS" then
      match afterKeywords ["NULL"] ts with
      | some rest => some (.isNull t, rest)
      | none => (afterKeywords ["NOT", "NULL"] ts).map fun rest => (.isNotNull t, rest)
    else none
  | _ => none

/-- The test at the start, and what follows it. -/
def readTest (ts : List Token) : Option (Predicate × List Token) :=
  (readTerm ts).bind fun (t, rest) => readTail t rest

/-! ### Lengths -/

theorem length_readCall {function : String} {t u : Term} {ts rest : List Token}
    (h : readCall function t ts = some (u, rest)) : rest.length < ts.length := by
  unfold readCall at h
  split at h
  · split_ifs at h <;> cases h <;> exact Nat.lt_succ_self _
  · split_ifs at h
    cases h
    simp only [List.length_cons]
    omega
  · cases h

theorem length_readTerm {t : Term} {ts rest : List Token} (h : readTerm ts = some (t, rest)) :
    rest.length < ts.length := by
  fun_induction readTerm ts generalizing t rest with
  | case1 function ts ih =>
    obtain ⟨⟨u, rest'⟩, hu, hcall⟩ := Option.bind_eq_some_iff.1 h
    have hrest' := ih hu
    have hrest := length_readCall hcall
    simp only [List.length_cons]
    omega
  | case2 => cases h
  | case3 | case4 | case5 =>
    cases h
    exact Nat.lt_succ_self _
  | case6 => cases h

theorem length_afterKeywords {keywords : List String} {ts rest : List Token}
    (h : afterKeywords keywords ts = some rest) : rest.length ≤ ts.length := by
  fun_induction afterKeywords keywords ts with
  | case1 ts =>
    cases h
    exact Nat.le_refl _
  | case2 keyword keywords t ts ht ih => exact Nat.le_succ_of_le (ih h)
  | case3 => cases h
  | case4 => cases h

theorem length_readTexts {texts : List String} {ts rest : List Token}
    (h : readTexts ts = some (texts, rest)) : rest.length ≤ ts.length := by
  fun_induction readTexts ts generalizing texts rest with
  | case1 s ts =>
    cases h
    simp only [List.length_cons]
    omega
  | case2 s ts ih =>
    obtain ⟨⟨texts', rest'⟩, htexts, heq⟩ := Option.map_eq_some_iff.1 h
    cases heq
    have := ih htexts
    simp only [List.length_cons]
    omega
  | case3 => cases h

theorem length_readPattern {t : Term} {p : Predicate} {ts rest : List Token}
    (h : readPattern t ts = some (p, rest)) : rest.length ≤ ts.length := by
  obtain ⟨⟨pattern, after⟩, hpattern, h⟩ := Option.bind_eq_some_iff.1 h
  have hafter := length_readTerm hpattern
  dsimp only at h
  split at h
  · cases h
    omega
  · next s more hescape =>
    have hmore := length_afterKeywords hescape
    rw [List.length_cons] at hmore
    split at h
    · cases h
      omega
    · cases h
  · cases h

theorem length_readSet {t : Term} {p : Predicate} {ts rest : List Token}
    (h : readSet t ts = some (p, rest)) : rest.length ≤ ts.length := by
  unfold readSet at h
  split at h
  · next items hselect =>
    obtain ⟨⟨array, after⟩, harray, h⟩ := Option.bind_eq_some_iff.1 h
    have hitems := length_afterKeywords hselect
    have hafter := length_readTerm harray
    dsimp only at h
    split at h
    · cases h
      simp only [List.length_cons] at hitems hafter
      omega
    · cases h
  · obtain ⟨⟨texts, after⟩, htexts, heq⟩ := Option.map_eq_some_iff.1 h
    cases heq
    exact length_readTexts htexts

theorem length_readTail {t : Term} {p : Predicate} {ts rest : List Token}
    (h : readTail t ts = some (p, rest)) : rest.length ≤ ts.length := by
  unfold readTail at h
  split at h
  · obtain ⟨⟨right, after⟩, hright, heq⟩ := Option.map_eq_some_iff.1 h
    cases heq
    exact Nat.le_succ_of_le (Nat.le_of_lt (length_readTerm hright))
  · split_ifs at h
    · exact Nat.le_succ_of_le (length_readPattern h)
    · split at h
      · exact Nat.le_succ_of_le (Nat.le_succ_of_le (length_readSet h))
      · cases h
    · split at h
      · next hnull =>
        cases h
        exact Nat.le_succ_of_le (length_afterKeywords hnull)
      · obtain ⟨after, hnull, heq⟩ := Option.map_eq_some_iff.1 h
        cases heq
        exact Nat.le_succ_of_le (length_afterKeywords hnull)
  · cases h

theorem length_readTest {p : Predicate} {ts rest : List Token}
    (h : readTest ts = some (p, rest)) : rest.length < ts.length := by
  obtain ⟨⟨t, after⟩, hterm, htail⟩ := Option.bind_eq_some_iff.1 h
  exact Nat.lt_of_le_of_lt (length_readTail htail) (length_readTerm hterm)

/-! ## Precedence -/

/-- The operands joined by AND; one alone stands for itself. -/
def joinAll : List Predicate → Predicate
  | [p] => p
  | ps => .all ps

/-- The operands joined by OR; one alone stands for itself. -/
def joinAny : List Predicate → Predicate
  | [p] => p
  | ps => .any ps

/-- What was read inside of a parenthesis: the operands of OR before the last OR, and the operands
of AND after it. -/
structure Frame where
  disjuncts : List Predicate
  conjuncts : List Predicate

namespace Frame

def empty : Frame := ⟨[], []⟩

/-- One more operand of AND. -/
def push (f : Frame) (p : Predicate) : Frame := ⟨f.disjuncts, f.conjuncts ++ [p]⟩

/-- An OR ends the chain of AND before it. -/
def startDisjunct (f : Frame) : Frame := ⟨f.disjuncts ++ [joinAll f.conjuncts], []⟩

/-- The predicate that the frame has read. -/
def predicate (f : Frame) : Predicate := joinAny (f.disjuncts ++ [joinAll f.conjuncts])

end Frame

mutual

/-- Reads where an operand is expected: a parenthesis or a test. -/
def readOperand (outer : List Frame) (f : Frame) (ts : List Token) :
    Option (Predicate × List Token) :=
  match ts with
  | .opening :: ts => readOperand (f :: outer) .empty ts
  | ts =>
    match h : readTest ts with
    | none => none
    | some (p, rest) =>
      have : rest.length < ts.length := length_readTest h
      readOperator outer (f.push p) rest
termination_by ts.length

/-- Reads after an operand: AND or OR and a further operand, a closing parenthesis, or the end. -/
def readOperator (outer : List Frame) (f : Frame) (ts : List Token) :
    Option (Predicate × List Token) :=
  match ts, outer with
  | .closing :: ts, g :: outer => readOperator outer (g.push f.predicate) ts
  | t :: ts, outer =>
    if t.isKeyword "AND" then readOperand outer f ts
    else if t.isKeyword "OR" then readOperand outer f.startDisjunct ts
    else if outer.isEmpty then some (f.predicate, t :: ts)
    else none
  | [], [] => some (f.predicate, [])
  | [], _ :: _ => none
termination_by ts.length

end

/-- The predicate that a text writes. -/
def read? (sql : String) : Option Predicate := do
  let ts ← tokens? sql.toList
  let (p, rest) ← readOperand [] .empty ts
  if rest.isEmpty then some p else none

/-! ## Reading back -/

/-- The tokens do not go on the test before them. -/
def endsTest : List Token → Bool
  | [] => true
  | t :: _ => t != .opening && !t.isKeyword "ESCAPE"

theorem readTerm_tokens {t : Term} (ht : t.IsPlain) {rest : List Token}
    (hrest : rest.head? ≠ some .opening) : readTerm (t.tokens ++ rest) = some (t, rest) := by
  induction t generalizing rest with
  | column name =>
    have hreserved : isReserved name = false := not_isReserved_of_isName ht
    cases rest with
    | nil => simp [Term.tokens, readTerm, hreserved]
    | cons u rest =>
      have hu : u ≠ .opening := fun h => hrest (congrArg some h)
      simp [Term.tokens, readTerm, hreserved, hu]
  | parameter n => rfl
  | integer n =>
    obtain ⟨k, rfl⟩ := Int.eq_ofNat_of_zero_le ht
    rfl
  | lower t ih | date t ih | className t ih =>
    rw [Term.tokens, List.cons_append, List.cons_append, readTerm, List.append_assoc,
      ih ht (by simp)]
    rfl
  | leading t length ih =>
    rw [Term.tokens, List.cons_append, List.cons_append, readTerm, List.append_assoc,
      ih ht (by simp)]
    rfl

theorem readTexts_tokens {texts : List String} (h : texts ≠ []) (rest : List Token) :
    readTexts ([.comma].intercalate (texts.map fun s => [.text s]) ++ .closing :: rest) =
      some (texts, rest) := by
  induction texts with
  | nil => exact absurd rfl h
  | cons s texts ih =>
    cases texts with
    | nil => rfl
    | cons t texts =>
      have hcons : [Token.comma].intercalate ((s :: t :: texts).map fun s => [.text s]) =
          .text s :: .comma :: [.comma].intercalate ((t :: texts).map fun s => [.text s]) := by
        simp
      rw [hcons, List.cons_append, List.cons_append, readTexts, ih (List.cons_ne_nil _ _)]
      rfl

/-- The predicate is no AND and no OR. -/
def Predicate.IsTest : Predicate → Prop
  | all _ | any _ => False
  | _ => True

theorem head?_ne_opening {rest : List Token} (hrest : endsTest rest = true) :
    rest.head? ≠ some .opening := by
  intro h
  cases rest with
  | nil => cases h
  | cons t rest =>
    cases h
    cases hrest

theorem readPattern_tokens (text : Term) {pattern : Term} (hpattern : pattern.IsPlain)
    {rest : List Token} (hrest : endsTest rest = true) :
    readPattern text (pattern.tokens ++ rest) = some (.like text pattern none, rest) := by
  have hescape : afterKeywords ["ESCAPE"] rest = none := by
    cases rest with
    | nil => rfl
    | cons t rest =>
      rw [endsTest, Bool.and_eq_true, Bool.not_eq_true'] at hrest
      simp [afterKeywords, hrest.2]
  rw [readPattern, readTerm_tokens hpattern (head?_ne_opening hrest)]
  simp [hescape]

theorem readPattern_escape (text : Term) {pattern : Term} (hpattern : pattern.IsPlain) (c : Char)
    (rest : List Token) :
    readPattern text (pattern.tokens ++ .word "ESCAPE" :: .text (String.singleton c) :: rest) =
      some (.like text pattern (some c), rest) := by
  have hescape : afterKeywords ["ESCAPE"] (.word "ESCAPE" :: .text (String.singleton c) :: rest) =
      some (.text (String.singleton c) :: rest) := rfl
  rw [readPattern, readTerm_tokens hpattern (by simp)]
  simp [hescape]

theorem readSet_texts (t : Term) {texts : List String} (htexts : texts ≠ []) (rest : List Token) :
    readSet t ([.comma].intercalate (texts.map fun s => [.text s]) ++ .closing :: rest) =
      some (.among t texts, rest) := by
  have hselect : afterKeywords ["SELECT", "value", "FROM", "json_each"]
      ([.comma].intercalate (texts.map fun s => [.text s]) ++ .closing :: rest) = none := by
    cases texts with
    | nil => exact absurd rfl htexts
    | cons s texts => cases texts <;> simp [afterKeywords, Token.isKeyword]
  rw [readSet, hselect, readTexts_tokens htexts]
  rfl

theorem readSet_items (t : Term) {array : Term} (harray : array.IsPlain) (rest : List Token) :
    readSet t (.word "SELECT" :: .word "value" :: .word "FROM" :: .word "json_each" :: .opening ::
      (array.tokens ++ .closing :: .closing :: rest)) = some (.amongItems t array, rest) := by
  have hselect : afterKeywords ["SELECT", "value", "FROM", "json_each"]
      (.word "SELECT" :: .word "value" :: .word "FROM" :: .word "json_each" :: .opening ::
        (array.tokens ++ .closing :: .closing :: rest)) =
      some (.opening :: (array.tokens ++ .closing :: .closing :: rest)) := rfl
  rw [readSet, hselect]
  dsimp only
  rw [readTerm_tokens harray (by simp)]
  rfl

theorem readTest_tokens {p : Predicate} (hp : p.IsPlain) (htest : p.IsTest) {rest : List Token}
    (hrest : endsTest rest = true) : readTest (p.tokens ++ rest) = some (p, rest) := by
  -- The first term ends at the word or mark of the test, by which the reader goes on.
  cases p with
  | compare relation left right =>
    rw [Predicate.tokens, List.append_assoc, readTest, readTerm_tokens hp.1 (by simp)]
    simp [readTail, readTerm_tokens hp.2 (head?_ne_opening hrest)]
  | like text pattern escape =>
    obtain ⟨htext, hpattern, -⟩ := hp
    cases escape with
    | none =>
      rw [Predicate.tokens, List.append_assoc, readTest, readTerm_tokens htext (by simp)]
      exact readPattern_tokens text hpattern hrest
    | some c =>
      rw [Predicate.tokens, List.append_assoc, readTest, readTerm_tokens htext (by simp)]
      show readPattern text (pattern.tokens ++ [.word "ESCAPE", .text (String.singleton c)] ++
        rest) = _
      rw [List.append_assoc]
      exact readPattern_escape text hpattern c rest
  | among t texts =>
    obtain ⟨ht, htexts, -⟩ := hp
    rw [Predicate.tokens, List.append_assoc, readTest, readTerm_tokens ht (by simp)]
    show readSet t ([.comma].intercalate (texts.map fun s => [.text s]) ++ [.closing] ++ rest) = _
    rw [List.append_assoc]
    exact readSet_texts t htexts rest
  | amongItems t array =>
    rw [Predicate.tokens, List.append_assoc, readTest, readTerm_tokens hp.1 (by simp)]
    show readSet t (.word "SELECT" :: .word "value" :: .word "FROM" :: .word "json_each" ::
      .opening :: (array.tokens ++ [.closing, .closing] ++ rest)) = _
    rw [List.append_assoc]
    exact readSet_items t hp.2 rest
  | isNull t =>
    rw [Predicate.tokens, List.append_assoc, readTest, readTerm_tokens hp (by simp)]
    rfl
  | isNotNull t =>
    rw [Predicate.tokens, List.append_assoc, readTest, readTerm_tokens hp (by simp)]
    rfl
  | all parts | any parts => cases htest

/-! ### Operands -/

theorem readOperand_of_readTest {outer : List Frame} {f : Frame} {p : Predicate}
    {ts rest : List Token} (h : readTest ts = some (p, rest)) :
    readOperand outer f ts = readOperator outer (f.push p) rest := by
  rw [readOperand]
  · split
    · next hnone =>
      rw [hnone] at h
      cases h
    · next hsome =>
      rw [hsome] at h
      cases h
      rfl
  · rintro ts' rfl
    have hopening : readTest (.opening :: ts') = none := rfl
    rw [hopening] at h
    cases h

theorem readOperand_opening (outer : List Frame) (f : Frame) (ts : List Token) :
    readOperand outer f (.opening :: ts) = readOperand (f :: outer) .empty ts := by
  rw [readOperand]

theorem readOperator_closing (outer : List Frame) (f g : Frame) (ts : List Token) :
    readOperator (g :: outer) f (.closing :: ts) = readOperator outer (g.push f.predicate) ts := by
  rw [readOperator]

theorem readOperator_and (outer : List Frame) (f : Frame) (ts : List Token) :
    readOperator outer f (.word "AND" :: ts) = readOperand outer f ts := by
  rw [readOperator, if_pos (by decide)]
  simp

theorem readOperator_or (outer : List Frame) (f : Frame) (ts : List Token) :
    readOperator outer f (.word "OR" :: ts) = readOperand outer f.startDisjunct ts := by
  rw [readOperator, if_neg (by decide), if_pos (by decide)]
  simp

/-- Reading the predicate adds it to the frame, wherever it stands. -/
def Predicate.IsReadBack (p : Predicate) : Prop :=
  ∀ outer f rest, endsTest rest = true →
    readOperand outer f (p.tokens ++ rest) = readOperator outer (f.push p) rest

/-- A chain of AND adds its operands to the frame. -/
theorem readOperand_all {ps : List Predicate} (hne : ps ≠ []) (hps : ∀ p ∈ ps, p.IsReadBack)
    (outer : List Frame) (ds cs : List Predicate) {rest : List Token}
    (hrest : endsTest rest = true) :
    readOperand outer ⟨ds, cs⟩ (Predicate.joinedTokens "AND" ps ++ rest) =
      readOperator outer ⟨ds, cs ++ ps⟩ rest := by
  induction ps generalizing cs with
  | nil => exact absurd rfl hne
  | cons p ps ih =>
    rw [List.forall_mem_cons] at hps
    cases ps with
    | nil => exact hps.1 outer ⟨ds, cs⟩ rest hrest
    | cons q ps =>
      rw [Predicate.joinedTokens, List.append_assoc, hps.1 _ _ _ (by rfl), List.cons_append,
        readOperator_and, Frame.push, ih (List.cons_ne_nil _ _) hps.2, List.append_assoc]
      rfl

/-- A chain of OR in parentheses is one operand of what is around it. -/
theorem readOperand_any {ps : List Predicate} (hne : ps ≠ []) (hps : ∀ p ∈ ps, p.IsReadBack)
    (outer : List Frame) (f : Frame) (ds : List Predicate) (rest : List Token) :
    readOperand (f :: outer) ⟨ds, []⟩ (Predicate.joinedTokens "OR" ps ++ .closing :: rest) =
      readOperator outer (f.push (joinAny (ds ++ ps))) rest := by
  induction ps generalizing ds with
  | nil => exact absurd rfl hne
  | cons p ps ih =>
    rw [List.forall_mem_cons] at hps
    cases ps with
    | nil =>
      rw [Predicate.joinedTokens, hps.1 _ _ _ (by rfl), readOperator_closing]
      rfl
    | cons q ps =>
      have hstart : (Frame.push ⟨ds, []⟩ p).startDisjunct = ⟨ds ++ [p], []⟩ := rfl
      rw [Predicate.joinedTokens, List.append_assoc, hps.1 _ _ _ (by rfl), List.cons_append,
        readOperator_or, hstart, ih (List.cons_ne_nil _ _) hps.2, List.append_assoc]
      rfl

mutual

/-- **Reading back.** A plain predicate is read as one operand. -/
theorem isReadBack (p : Predicate) (hp : p.IsPlain) : p.IsReadBack := by
  intro outer f rest hrest
  cases p with
  | all parts =>
    obtain ⟨hlength, hparts⟩ := hp
    have hne : parts ≠ [] := List.ne_nil_of_length_pos (Nat.lt_of_lt_of_le Nat.two_pos hlength)
    have hread := readOperand_all hne (areReadBack parts hparts) (f :: outer) [] []
      (by rfl : endsTest (.closing :: rest) = true)
    have hjoin : joinAll parts = .all parts := by
      match parts with
      | [_] => simp at hlength
      | [] | _ :: _ :: _ => rfl
    rw [Predicate.tokens, List.cons_append, List.append_assoc, List.singleton_append,
      readOperand_opening, Frame.empty, hread, readOperator_closing, List.nil_append,
      Frame.predicate, hjoin]
    rfl
  | any parts =>
    obtain ⟨hlength, hparts⟩ := hp
    have hne : parts ≠ [] := List.ne_nil_of_length_pos (Nat.lt_of_lt_of_le Nat.two_pos hlength)
    have hjoin : joinAny parts = .any parts := by
      match parts with
      | [_] => simp at hlength
      | [] | _ :: _ :: _ => rfl
    rw [Predicate.tokens, List.cons_append, List.append_assoc, List.singleton_append,
      readOperand_opening, Frame.empty, readOperand_any hne (areReadBack parts hparts),
      List.nil_append, hjoin]
  | compare _ _ _ | like _ _ _ | among _ _ | amongItems _ _ | isNull _ | isNotNull _ =>
    exact readOperand_of_readTest (readTest_tokens hp trivial hrest)

theorem areReadBack (ps : List Predicate) (hps : Predicate.ArePlain ps) :
    ∀ p ∈ ps, p.IsReadBack := by
  cases ps with
  | nil => exact fun _ h => absurd h List.not_mem_nil
  | cons p ps =>
    exact List.forall_mem_cons.2 ⟨isReadBack p hps.1, areReadBack ps hps.2⟩

end

/-- Conditions that AND joins are read back, up to what cannot go on with them. -/
theorem readOperand_joined {ps : List Predicate} (hne : ps ≠ []) (hps : Predicate.ArePlain ps)
    {rest : List Token} (hrest : endsTest rest = true)
    (hend : ∀ f, readOperator [] f rest = some (f.predicate, rest)) :
    readOperand [] .empty (Predicate.joinedTokens "AND" ps ++ rest) = some (joinAll ps, rest) := by
  rw [Frame.empty, readOperand_all hne (areReadBack ps hps) [] [] [] hrest, hend]
  rfl

theorem read?_joined {ps : List Predicate} (hne : ps ≠ []) (hps : Predicate.ArePlain ps) :
    read? (Predicate.joined " AND " ps) = some (joinAll ps) := by
  have htokens : tokens? (Predicate.joined " AND " ps).toList =
      some (Predicate.joinedTokens "AND" ps) :=
    (Predicate.lexes_joined (by decide : isIdentifier "AND" = true) ps hps).eq_some
  have hread := readOperand_joined hne hps (by rfl : endsTest [] = true) fun f => by
    rw [readOperator]
  rw [List.append_nil] at hread
  rw [read?, htokens]
  simp only [bind, Option.bind, hread]
  rfl

/-- **Predicates.** A plain predicate is read back from its text. -/
theorem read?_sql {p : Predicate} (hp : p.IsPlain) : read? p.sql = some p := by
  have hread := read?_joined (List.cons_ne_nil p []) ⟨hp, trivial⟩
  rwa [Predicate.joined] at hread

/-- Without parentheses, what follows an OR is no operand of the AND before it. -/
theorem read?_and_or {p q r : Predicate} (hp : p.IsPlain) (hq : q.IsPlain) (hr : r.IsPlain) :
    read? (p.sql ++ " AND " ++ q.sql ++ " OR " ++ r.sql) = some (.any [.all [p, q], r]) := by
  have hlist : (p.sql ++ " AND " ++ q.sql ++ " OR " ++ r.sql).toList = p.sql.toList ++
      ' ' :: ("AND".toList ++ ' ' :: (q.sql.toList ++ ' ' :: ("OR".toList ++
        ' ' :: r.sql.toList))) := by
    simp
  have hor := (Predicate.lexes q hq).append ((Predicate.lexes r hr).keyword
    (by decide : isIdentifier "OR" = true)) rfl
  have htokens := ((Predicate.lexes p hp).append
    (hor.keyword (by decide : isIdentifier "AND" = true)) rfl).eq_some
  have hlast (outer : List Frame) (f : Frame) :
      readOperand outer f r.tokens = readOperator outer (f.push r) [] := by
    have hread := isReadBack r hr outer f [] rfl
    rwa [List.append_nil] at hread
  have hread : readOperand [] .empty (p.tokens ++ .word "AND" :: (q.tokens ++ .word "OR" ::
      r.tokens)) = some (.any [.all [p, q], r], []) := by
    rw [isReadBack p hp _ _ _ rfl, readOperator_and, isReadBack q hq _ _ _ rfl, readOperator_or,
      hlast, readOperator]
    rfl
  rw [read?, hlist, htokens]
  simp only [bind, Option.bind, hread]
  rfl

end BillingQuery.Sql
