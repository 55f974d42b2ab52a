import BillingQuery.Proofs.SqlReading

/-!
# Reading whole statements

**Main result (`Select.readSelect?_sql`).** A SELECT is read back from its text, clause by clause,
with its conditions joined into one.
-/

namespace BillingQuery.Sql

/-! ## Reading -/

/-- The columns of the result, each perhaps under another name. -/
def readColumns : List Token → Option (List ResultColumn × List Token)
  | .word c :: .comma :: ts =>
    if isReserved c then none
    else (readColumns ts).map fun (columns, rest) => (⟨c, none⟩ :: columns, rest)
  | .word c :: keyword :: .quoted key :: .comma :: ts =>
    if keyword.isKeyword "AS" && !isReserved c then
      (readColumns ts).map fun (columns, rest) => (⟨c, some key⟩ :: columns, rest)
    else none
  | .word c :: keyword :: .quoted key :: ts =>
    if keyword.isKeyword "AS" && !isReserved c then some ([⟨c, some key⟩], ts) else none
  | .word c :: ts => if isReserved c then none else some ([⟨c, none⟩], ts)
  | _ => none

def readName : List Token → Option (String × List Token)
  | .word name :: ts => if isReserved name then none else some (name, ts)
  | _ => none

def readOrder (ts : List Token) : Option (Option Order × List Token) :=
  match afterKeywords ["ORDER", "BY"] ts with
  | none => some (none, ts)
  | some ts =>
    (readName ts).bind fun (column, rest) =>
      match afterKeywords ["ASC"] rest with
      | some rest => some (some ⟨column, .asc⟩, rest)
      | none => (afterKeywords ["DESC"] rest).map fun rest => (some ⟨column, .desc⟩, rest)

/-- A bound on the rows, if its keyword comes next. -/
def readBound (keyword : String) (ts : List Token) : Option (Option Term × List Token) :=
  match afterKeywords [keyword] ts with
  | none => some (none, ts)
  | some ts => (readTerm ts).map fun (t, rest) => (some t, rest)

/-- The SELECT that a text writes, with one condition. -/
def readSelect? (sql : String) : Option Select := do
  let ts ← tokens? sql.toList
  let ts ← afterKeywords ["SELECT"] ts
  let (columns, ts) ← readColumns ts
  let ts ← afterKeywords ["FROM"] ts
  let (table, ts) ← readName ts
  let ts ← afterKeywords ["WHERE"] ts
  let (condition, ts) ← readOperand [] .empty ts
  let (order, ts) ← readOrder ts
  let (limit, ts) ← readBound "LIMIT" ts
  let (offset, ts) ← readBound "OFFSET" ts
  if ts.isEmpty then some ⟨columns, table, [condition], order, limit, offset⟩ else none

/-! ## Tokens -/

namespace ResultColumn

/-- The column is a plain name, and the name in the result has no double quote. -/
def IsPlain (c : ResultColumn) : Prop :=
  isName c.column = true ∧ ∀ key, c.alias? = some key → '"' ∉ key.toList

def tokens (c : ResultColumn) : List Token :=
  match c.alias? with
  | none => [.word c.column]
  | some key => [.word c.column, .word "AS", .quoted key]

end ResultColumn

theorem ResultColumn.lexes {c : ResultColumn} (hc : c.IsPlain) : Lexes c.sql.toList c.tokens := by
  obtain ⟨column, alias?⟩ := c
  obtain ⟨hname, hkey⟩ := hc
  have hcolumn : Lexes column.toList [.word column] := Lexes.word (isIdentifier_of_isName hname)
  cases alias? with
  | none => exact hcolumn
  | some key =>
    have hlist : (ResultColumn.mk column (some key)).sql.toList =
        column.toList ++ ' ' :: ("AS".toList ++ ' ' :: '"' :: (key.toList ++ ['"'])) := by
      simp [sql]
    rw [hlist]
    exact hcolumn.append ((Lexes.quoted (hkey key rfl)).keyword (by decide)) rfl

def orderTokens : Option Order → List Token
  | none => []
  | some o => [.word "ORDER", .word "BY", .word o.column, .word o.direction.sql]

def boundTokens (keyword : String) : Option Term → List Token
  | none => []
  | some t => .word keyword :: t.tokens

theorem lexes_order {order : Option Order} (h : ∀ o, order = some o → isName o.column = true) :
    Lexes (Select.clause " " (order.map Order.sql)).toList (orderTokens order) := by
  cases order with
  | none => exact Lexes.nil
  | some o =>
    have hlist : (Select.clause " " ((some o).map Order.sql)).toList = ' ' :: ("ORDER".toList ++
        ' ' :: ("BY".toList ++ ' ' :: (o.column.toList ++ ' ' :: o.direction.sql.toList))) := by
      simp [Select.clause, Order.sql]
    have hdirection : isIdentifier o.direction.sql = true := by
      cases o.direction <;> decide
    have hcolumn := (Lexes.word (isIdentifier_of_isName (h o rfl))).append
      (Lexes.word hdirection).space rfl
    have hby := (Lexes.word (by decide : isIdentifier "BY" = true)).append hcolumn.space rfl
    rw [hlist]
    exact hby.keyword (by decide)

theorem lexes_bound {keyword : String} (hkeyword : isIdentifier keyword = true)
    {bound : Option Term} (h : ∀ t, bound = some t → t.IsPlain) :
    Lexes (Select.clause (" " ++ keyword ++ " ") (bound.map Term.sql)).toList
      (boundTokens keyword bound) := by
  cases bound with
  | none => exact Lexes.nil
  | some t =>
    have hlist : (Select.clause (" " ++ keyword ++ " ") ((some t).map Term.sql)).toList =
        ' ' :: (keyword.toList ++ ' ' :: t.sql.toList) := by
      simp [Select.clause]
    rw [hlist]
    exact (Term.lexes (h t rfl)).keyword hkeyword

theorem stops_append {cs ds : List Char} (hcs : Stops cs = true) (hds : Stops ds = true) :
    Stops (cs ++ ds) = true := by
  cases cs with
  | nil => exact hds
  | cons c cs => exact hcs

namespace Select

/-- The names of the statement are plain, and it has columns and conditions. -/
structure IsPlain (s : Select) : Prop where
  columns_ne : s.columns ≠ []
  columns : ∀ c ∈ s.columns, c.IsPlain
  table : isName s.table = true
  conditions_ne : s.conditions ≠ []
  conditions : Predicate.ArePlain s.conditions
  order : ∀ o, s.order = some o → isName o.column = true
  limit : ∀ t, s.limit = some t → t.IsPlain
  offset : ∀ t, s.offset = some t → t.IsPlain

/-- What follows the conditions. -/
def endTokens (s : Select) : List Token :=
  orderTokens s.order ++ (boundTokens "LIMIT" s.limit ++ boundTokens "OFFSET" s.offset)

theorem lexes {s : Select} (hs : s.IsPlain) :
    Lexes s.sql.toList (.word "SELECT" :: ([.comma].intercalate
      (s.columns.map ResultColumn.tokens) ++ .word "FROM" :: .word s.table :: .word "WHERE" ::
        (Predicate.joinedTokens "AND" s.conditions ++ s.endTokens))) := by
  have hempty : s.conditions.isEmpty = false := by
    cases hconditions : s.conditions with
    | nil => exact absurd hconditions hs.conditions_ne
    | cons p ps => rfl
  have hlist : s.sql.toList = "SELECT".toList ++ ' ' ::
      ((", ".intercalate (s.columns.map ResultColumn.sql)).toList ++ ' ' :: ("FROM".toList ++
        ' ' :: (s.table.toList ++ ' ' :: ("WHERE".toList ++ ' ' ::
          ((Predicate.joined " AND " s.conditions).toList ++
            ((clause " " (s.order.map Order.sql)).toList ++
              ((clause " LIMIT " (s.limit.map Term.sql)).toList ++
                (clause " OFFSET " (s.offset.map Term.sql)).toList))))))) := by
    simp [sql, hempty, whereSql, clause]
  have hstops (keyword : String) (text : Option String) :
      Stops (clause (" " ++ keyword) text).toList = true := by
    cases text with
    | none => rfl
    | some t => simp [clause, Stops]
  have hbounds := (lexes_bound (by decide : isIdentifier "LIMIT" = true) hs.limit).append
    (lexes_bound (by decide : isIdentifier "OFFSET" = true) hs.offset) (hstops "OFFSET " _)
  have hend := (lexes_order hs.order).append hbounds
    (stops_append (hstops "LIMIT " _) (hstops "OFFSET " _))
  have hconditions := (Predicate.lexes_joined (by decide : isIdentifier "AND" = true)
    s.conditions hs.conditions).append hend
    (stops_append (hstops "" _) (stops_append (hstops "LIMIT " _) (hstops "OFFSET " _)))
  have htable := (Lexes.word (isIdentifier_of_isName hs.table)).append
    (hconditions.keyword (by decide : isIdentifier "WHERE" = true)) rfl
  have hcolumns := (Lexes.intercalate fun c hc => ResultColumn.lexes (hs.columns c hc)).append
    (htable.keyword (by decide : isIdentifier "FROM" = true)) rfl
  rw [hlist]
  exact (Lexes.word (by decide)).append hcolumns.space rfl

end Select

/-! ## Reading back -/

theorem readColumns_tokens {columns : List ResultColumn} (hne : columns ≠ [])
    (h : ∀ c ∈ columns, c.IsPlain) (table : String) (rest : List Token) :
    readColumns ([.comma].intercalate (columns.map ResultColumn.tokens) ++
      .word "FROM" :: .word table :: rest) =
        some (columns, .word "FROM" :: .word table :: rest) := by
  induction columns with
  | nil => exact absurd rfl hne
  | cons c columns ih =>
    rw [List.forall_mem_cons] at h
    obtain ⟨column, alias?⟩ := c
    have hreserved : isReserved column = false := not_isReserved_of_isName h.1.1
    have has : (Token.word "AS").isKeyword "AS" = true := by decide
    cases columns with
    | nil => cases alias? <;> simp [ResultColumn.tokens, readColumns, hreserved, has]
    | cons c' columns =>
      have hmore := ih (List.cons_ne_nil _ _) h.2
      have htokens : [Token.comma].intercalate
          ((⟨column, alias?⟩ :: c' :: columns).map ResultColumn.tokens) ++
            .word "FROM" :: .word table :: rest =
          ResultColumn.tokens ⟨column, alias?⟩ ++ .comma ::
            ([.comma].intercalate ((c' :: columns).map ResultColumn.tokens) ++
              .word "FROM" :: .word table :: rest) := by
        simp
      rw [htokens]
      generalize [Token.comma].intercalate ((c' :: columns).map ResultColumn.tokens) ++
        .word "FROM" :: .word table :: rest = ts at hmore ⊢
      cases alias? <;> simp [ResultColumn.tokens, readColumns, hreserved, has, hmore]

theorem readName_word {name : String} (h : isName name = true) (rest : List Token) :
    readName (.word name :: rest) = some (name, rest) := by
  rw [readName, if_neg]
  simp [not_isReserved_of_isName h]

theorem readOrder_tokens {order : Option Order} (h : ∀ o, order = some o → isName o.column = true)
    {rest : List Token} (hrest : afterKeywords ["ORDER", "BY"] rest = none) :
    readOrder (orderTokens order ++ rest) = some (order, rest) := by
  cases order with
  | none =>
    rw [orderTokens, List.nil_append, readOrder, hrest]
  | some o =>
    obtain ⟨column, direction⟩ := o
    have hby (ts : List Token) :
        afterKeywords ["ORDER", "BY"] (.word "ORDER" :: .word "BY" :: ts) = some ts := rfl
    rw [readOrder]
    simp only [orderTokens, List.cons_append, List.nil_append, hby]
    rw [readName_word (h _ rfl)]
    cases direction <;> rfl

theorem readBound_tokens {keyword : String} (hkeyword : Text.sameFold keyword keyword = true)
    {bound : Option Term} (h : ∀ t, bound = some t → t.IsPlain) {rest : List Token}
    (hopening : rest.head? ≠ some .opening) (hrest : afterKeywords [keyword] rest = none) :
    readBound keyword (boundTokens keyword bound ++ rest) = some (bound, rest) := by
  cases bound with
  | none => rw [boundTokens, List.nil_append, readBound, hrest]
  | some t =>
    have hafter (ts : List Token) : afterKeywords [keyword] (.word keyword :: ts) = some ts := by
      simp [afterKeywords, Token.isKeyword, hkeyword]
    rw [readBound, boundTokens, List.cons_append, hafter]
    dsimp only
    rw [readTerm_tokens (h t rfl) hopening]
    rfl

/-- After the conditions only these keywords follow. -/
theorem endTokens_cases (s : Select) :
    s.endTokens = [] ∨ ∃ word ∈ ["ORDER", "LIMIT", "OFFSET"], ∃ ts,
      s.endTokens = .word word :: ts := by
  obtain ⟨columns, table, conditions, order, limit, offset⟩ := s
  cases order with
  | some o => exact Or.inr ⟨"ORDER", by simp, _, rfl⟩
  | none =>
    cases limit with
    | some t => exact Or.inr ⟨"LIMIT", by simp, _, rfl⟩
    | none =>
      cases offset with
      | some t => exact Or.inr ⟨"OFFSET", by simp, _, rfl⟩
      | none => exact Or.inl rfl

/-- **Statements.** A SELECT is read back from its text, with its conditions joined into one. -/
theorem Select.readSelect?_sql {s : Select} (hs : s.IsPlain) :
    readSelect? s.sql = some { s with conditions := [joinAll s.conditions] } := by
  -- What follows the conditions is no part of a test, so reading them stops there.
  have hend : endsTest s.endTokens = true ∧
      ∀ f, readOperator [] f s.endTokens = some (f.predicate, s.endTokens) := by
    rcases endTokens_cases s with h | ⟨word, hword, ts, h⟩
    · rw [h]
      exact ⟨rfl, fun f => by rw [readOperator]⟩
    · rw [h]
      simp only [List.mem_cons, List.not_mem_nil, or_false] at hword
      rcases hword with rfl | rfl | rfl <;> refine ⟨rfl, fun f => ?_⟩ <;>
        rw [readOperator, if_neg (by decide), if_neg (by decide)] <;> simp
  have hoffset : afterKeywords ["LIMIT"] (boundTokens "OFFSET" s.offset) = none ∧
      afterKeywords ["ORDER", "BY"] (boundTokens "OFFSET" s.offset) = none ∧
      (boundTokens "OFFSET" s.offset).head? ≠ some .opening := by
    cases s.offset with
    | none => exact ⟨rfl, rfl, by simp [boundTokens]⟩
    | some t => exact ⟨rfl, rfl, by simp [boundTokens]⟩
  have hlimit : afterKeywords ["ORDER", "BY"]
      (boundTokens "LIMIT" s.limit ++ boundTokens "OFFSET" s.offset) = none := by
    cases s.limit with
    | none => exact hoffset.2.1
    | some t => rfl
  have hreadOffset := readBound_tokens (by decide : Text.sameFold "OFFSET" "OFFSET" = true)
    hs.offset (by simp : ([] : List Token).head? ≠ some .opening) rfl
  rw [List.append_nil] at hreadOffset
  have hreadLimit := readBound_tokens (by decide : Text.sameFold "LIMIT" "LIMIT" = true)
    hs.limit hoffset.2.2 hoffset.1
  have hreadOrder : readOrder s.endTokens = _ := readOrder_tokens hs.order hlimit
  have hreadConditions := readOperand_joined hs.conditions_ne hs.conditions hend.1 hend.2
  have hreadColumns := readColumns_tokens hs.columns_ne hs.columns s.table
    (.word "WHERE" :: (Predicate.joinedTokens "AND" s.conditions ++ s.endTokens))
  have hselect (ts : List Token) : afterKeywords ["SELECT"] (.word "SELECT" :: ts) = some ts := rfl
  have hfrom (ts : List Token) : afterKeywords ["FROM"] (.word "FROM" :: ts) = some ts := rfl
  have hwhere (ts : List Token) : afterKeywords ["WHERE"] (.word "WHERE" :: ts) = some ts := rfl
  rw [readSelect?, (Select.lexes hs).eq_some]
  simp only [bind, Option.bind, hselect, hreadColumns, hfrom, readName_word hs.table, hwhere,
    hreadConditions, hreadOrder, hreadLimit, hreadOffset]
  rfl

end BillingQuery.Sql
