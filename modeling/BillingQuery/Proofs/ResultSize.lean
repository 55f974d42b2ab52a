import BillingQuery.Proofs.Assembled
import BillingQuery.Proofs.LoadedListing
import BillingQuery.Service.Server

/-!
# The size of results

A request may ask for any number of rows from any place on, and the settings may say anything about
how many there are to be: a greatest limit below one, or a default above it.

**Allowed limits (`QueryLimits.Allows`).** The limit that is used is between 1 and the greatest
limit, where a greatest limit below 1 counts as 1, and it is the one that was asked for wherever
that is possible.

**Main result (`Settings.boundsResults_ofEnvironment`).** Whatever the environment of the service,
every statement of a listing or an ad-hoc query binds an allowed limit and no negative offset, and
every result has as many rows as its limit at most.

The engine takes a negative limit for none (`Sql.page`). So it matters that no limit is negative,
and not only that none is too great.
-/

namespace BillingQuery

/-! ## Clamping -/

/-- The number, brought between two bounds; nothing is between bounds that are crossed. -/
def clampBetween? (low high n : Int) : Option Int :=
  if high < low then none
  else if n < low then some low
  else if high < n then some high
  else some n

namespace QueryLimits

/-- The limit is what comes of a requested one, or of the default if none is requested. -/
structure Allows (l : QueryLimits) (requested : Option Int) (limit : Int) : Prop where
  /-- The bounds are not crossed, and the limit is brought between them. -/
  clamped : clampBetween? 1 (max 1 l.maxLimit) (requested.getD l.defaultLimit) = some limit
  one_le : 1 ≤ limit
  le_max : limit ≤ max 1 l.maxLimit
  /-- Inside of the bounds nothing is changed. -/
  asked : 1 ≤ requested.getD l.defaultLimit →
    requested.getD l.defaultLimit ≤ max 1 l.maxLimit → limit = requested.getD l.defaultLimit

variable (l : QueryLimits) (requested : Option Int)

theorem clamp_le : l.clamp requested ≤ max 1 l.maxLimit := by
  unfold clamp
  omega

theorem clamp_eq_of_mem (hlow : 1 ≤ requested.getD l.defaultLimit)
    (hhigh : requested.getD l.defaultLimit ≤ max 1 l.maxLimit) :
    l.clamp requested = requested.getD l.defaultLimit := by
  unfold clamp
  omega

theorem clampBetween?_eq :
    clampBetween? 1 (max 1 l.maxLimit) (requested.getD l.defaultLimit) =
      some (l.clamp requested) := by
  unfold clampBetween? clamp
  rw [if_neg (by omega)]
  by_cases hlow : requested.getD l.defaultLimit < 1
  · rw [if_pos hlow]
    congr 1
    omega
  · rw [if_neg hlow]
    by_cases hhigh : max 1 l.maxLimit < requested.getD l.defaultLimit
    · rw [if_pos hhigh]
      congr 1
      omega
    · rw [if_neg hhigh]
      congr 1
      omega

theorem allows_clamp : l.Allows requested (l.clamp requested) where
  clamped := l.clampBetween?_eq requested
  one_le := l.one_le_clamp requested
  le_max := l.clamp_le requested
  asked := l.clamp_eq_of_mem requested

end QueryLimits

theorem effectiveOffset_nonneg (requested : Option Int) : 0 ≤ effectiveOffset requested := by
  unfold effectiveOffset
  omega

/-! ## Statements -/

namespace Sql

/-- The number that is bound to the limit of a statement. -/
def Statement.limit? (s : Statement) : Option Int := s.select.limit.bind (boundOf s.values)

/-- The number that is bound to the offset of a statement. -/
def Statement.offset? (s : Statement) : Option Int := s.select.offset.bind (boundOf s.values)

theorem length_page_le {limit : Int} (h : 0 ≤ limit) (offset : Option Int) (rows : List α) :
    ((page (some limit) offset rows).length : Int) ≤ limit := by
  have hpage : page (some limit) offset rows =
      (rows.drop (offset.getD 0).toNat).take limit.toNat := if_neg (Int.not_lt.2 h)
  have hlength := List.length_take_le limit.toNat (rows.drop (offset.getD 0).toNat)
  rw [hpage]
  omega

/-- **Running.** A result has as many rows as the limit at most. -/
theorem Statement.length_le_of_run {s : Statement} {db : Database} {rows : List ResultRow}
    {limit : Int} (h : s.run db = .ok rows) (hlimit : s.limit? = some limit) (hnonneg : 0 ≤ limit) :
    (rows.length : Int) ≤ limit := by
  rw [run_eq] at h
  obtain ⟨⟨r, columns⟩, -, h⟩ := bind_eq_ok.1 h
  dsimp only at h
  by_cases hlong : s.meetsLongPattern r (db.rows r) = true
  · rw [if_pos hlong] at h
    cases h
  · rw [if_neg hlong] at h
    cases h
    have hbound : s.select.limit.bind (boundOf s.values) = some limit := hlimit
    rw [result, hbound, List.length_map]
    exact length_page_le hnonneg _ _

/-- The parameter after those of some values stands for the value after them. -/
theorem boundOf_append (values : List Value) (n : Int) (more : List Value) :
    boundOf (values ++ .integer n :: more) (.parameter (values.length + 1)) = some n := by
  simp [boundOf, parameterCell, Value.cell]

/-- A stream is cut at the greatest number of rows. -/
theorem length_collectRows_le {decode : α → Except ε β} {maxRows : Nat}
    {stream : List (Except ε α)} {rows : List β} {truncated : Bool}
    (h : collectRows decode maxRows stream = .ok (rows, truncated)) : rows.length ≤ maxRows := by
  induction stream generalizing maxRows rows truncated with
  | nil =>
    simp only [collectRows] at h
    cases h
    exact Nat.zero_le _
  | cons first stream ih =>
    cases first with
    | error e => cases maxRows <;> cases h
    | ok a =>
      cases maxRows with
      | zero =>
        cases h
        exact Nat.le_refl 0
      | succ maxRows =>
        obtain ⟨b, -, h⟩ := bind_eq_ok.1 h
        obtain ⟨⟨rest, more⟩, hrest, h⟩ := bind_eq_ok.1 h
        cases h
        exact Nat.succ_le_succ (ih hrest)

end Sql

/-! ## Listings -/

/-- The page has an allowed limit and offset, and no more records than the limit. -/
structure RecordPage.IsBounded (page : RecordPage) (limits : QueryLimits)
    (limit offset : Option Int) : Prop where
  limit : limits.Allows limit page.limit
  offset : page.offset = max 0 (offset.getD 0)
  offset_nonneg : 0 ≤ page.offset
  length_le : (page.records.length : Int) ≤ page.limit

theorem CompiledFilter.limit?_select (c : CompiledFilter) (limit offset : Int) :
    (c.select limit offset).limit? = some limit :=
  Sql.boundOf_append c.values limit [.integer offset]

theorem CompiledFilter.offset?_select (c : CompiledFilter) (limit offset : Int) :
    (c.select limit offset).offset? = some offset := by
  have hbound := Sql.boundOf_append (c.values ++ [.integer limit]) offset []
  rw [List.length_append, List.append_assoc] at hbound
  exact hbound

/-- The statement of a listing. -/
def ListingQuery.statement (q : ListingQuery) (r : Resource) (tenant : String)
    (limits : QueryLimits) : Except QueryError Sql.Statement :=
  (compile q.filter r.schema tenant q.sort).map fun c =>
    c.select (limits.clamp q.limit) (effectiveOffset q.offset)

/-- What is loaded to be filtered in process. -/
def ListingQuery.loading (q : ListingQuery) (limits : QueryLimits) : ListingQuery :=
  ⟨.empty, q.sort, some limits.maxLimit, some 0⟩

theorem ListingQuery.bounds_of_statement {q : ListingQuery} {r : Resource} {tenant : String}
    {limits : QueryLimits} {s : Sql.Statement} (h : q.statement r tenant limits = .ok s) :
    s.limit? = some (limits.clamp q.limit) ∧ s.offset? = some (effectiveOffset q.offset) := by
  obtain ⟨c, -, rfl⟩ := map_eq_ok_iff.1 h
  exact ⟨c.limit?_select _ _, c.offset?_select _ _⟩

namespace Database

variable {db : Database} {r : Resource} {tenant : String} {limits : QueryLimits} {q : ListingQuery}
  {page : RecordPage}

/-- A page has the rows of its statement. -/
theorem search_eq_ok (h : db.search r tenant q limits = .ok page) :
    ∃ s rows, q.statement r tenant limits = .ok s ∧ s.run db = .ok rows ∧
      page.records = rows.map r.schema.recordOf ∧ page.limit = limits.clamp q.limit ∧
      page.offset = effectiveOffset q.offset := by
  obtain ⟨c, hc, h⟩ := bind_eq_ok.1 h
  obtain ⟨rows, hrows, h⟩ := bind_eq_ok.1 h
  cases h
  refine ⟨c.select (limits.clamp q.limit) (effectiveOffset q.offset), rows, ?_,
    mapError_eq_ok hrows, rfl, rfl, rfl⟩
  rw [ListingQuery.statement, hc]
  rfl

/-- A page that is filtered in process has some of the records that were loaded. -/
theorem searchLoaded_eq_ok (h : db.searchLoaded r tenant q limits = .ok page) :
    ∃ loaded, db.search r tenant (q.loading limits) limits = .ok loaded ∧
      page.records = ((q.filter.select r.fields loaded.records).drop page.offset.toNat).take
        page.limit.toNat ∧
      page.limit = limits.clamp q.limit ∧ page.offset = effectiveOffset q.offset := by
  obtain ⟨_, -, h⟩ := bind_eq_ok.1 h
  obtain ⟨loaded, hloaded, h⟩ := bind_eq_ok.1 h
  obtain ⟨⟨matched, issues⟩, hmatched, h⟩ := bind_eq_ok.1 h
  obtain ⟨_, -, hmatched⟩ := bind_eq_ok.1 hmatched
  cases hmatched
  cases h
  exact ⟨loaded, hloaded, rfl, rfl, rfl⟩

theorem isBounded_of_length_le (hlimit : page.limit = limits.clamp q.limit)
    (hoffset : page.offset = effectiveOffset q.offset)
    (hlength : (page.records.length : Int) ≤ page.limit) :
    page.IsBounded limits q.limit q.offset where
  limit := by
    rw [hlimit]
    exact limits.allows_clamp q.limit
  offset := hoffset
  offset_nonneg := by
    rw [hoffset]
    exact effectiveOffset_nonneg q.offset
  length_le := hlength

theorem isBounded_of_search (h : db.search r tenant q limits = .ok page) :
    page.IsBounded limits q.limit q.offset := by
  obtain ⟨s, rows, hs, hrows, hrecords, hlimit, hoffset⟩ := search_eq_ok h
  refine isBounded_of_length_le hlimit hoffset ?_
  have hone := limits.one_le_clamp q.limit
  rw [hrecords, List.length_map, hlimit]
  exact Sql.Statement.length_le_of_run hrows (ListingQuery.bounds_of_statement hs).1 (by omega)

theorem isBounded_of_searchLoaded (h : db.searchLoaded r tenant q limits = .ok page) :
    page.IsBounded limits q.limit q.offset := by
  obtain ⟨loaded, -, hrecords, hlimit, hoffset⟩ := searchLoaded_eq_ok h
  refine isBounded_of_length_le hlimit hoffset ?_
  have hone := limits.one_le_clamp q.limit
  have hlength := List.length_take_le page.limit.toNat
    ((q.filter.select r.fields loaded.records).drop page.offset.toNat)
  rw [← hrecords] at hlength
  omega

/-- **Listings.** They are bounded wherever they are filtered. -/
theorem isBounded_of_list {q : FilterRequest} (h : db.list r tenant q limits = .ok page) :
    page.IsBounded limits q.limit q.offset := by
  unfold list at h
  cases hfilter : q.filter with
  | none | some _ =>
    rw [hfilter] at h
    obtain ⟨filter, -, h⟩ := bind_eq_ok.1 h
    cases hevaluate : q.evaluate with
    | database =>
      rw [hevaluate] at h
      exact isBounded_of_search h
    | memory =>
      rw [hevaluate] at h
      exact isBounded_of_searchLoaded h

end Database

/-! ## Ad-hoc queries and raw statements -/

theorem AdHocQuery.limit?_of_assemble {q : AdHocQuery} {tenant : String} {limits : QueryLimits}
    {s : Sql.Statement} (h : q.assemble tenant limits = .ok s) :
    s.limit? = some (limits.clamp q.limit) ∧ s.select.offset = none := by
  obtain ⟨table, columns, orderColumn, tests, -, -, -, -, rfl⟩ := assemble_eq_ok_iff.1 h
  exact ⟨Sql.boundOf_append (.text tenant :: tests.flatMap AdHocTest.values) _ [], rfl⟩

theorem Database.length_le_of_runAdHoc {db : Database} {q : AdHocQuery} {tenant : String}
    {limits : QueryLimits} {records : List Json} (h : db.runAdHoc q tenant limits = .ok records) :
    (records.length : Int) ≤ limits.clamp q.limit := by
  obtain ⟨s, hs, h⟩ := bind_eq_ok.1 h
  obtain ⟨rows, hrows, h⟩ := bind_eq_ok.1 h
  cases h
  have hone := limits.one_le_clamp q.limit
  rw [List.length_map]
  exact Sql.Statement.length_le_of_run (mapError_eq_ok hrows)
    (AdHocQuery.limit?_of_assemble hs).1 (by omega)

theorem Database.length_le_of_runRaw {db : Database} {guard : StatementGuard} {maxRows : Nat}
    {sql : String} {result : RawResult} (h : db.runRaw guard maxRows sql = .ok result) :
    result.rows.length ≤ maxRows := by
  obtain ⟨statement, -, h⟩ := bind_eq_ok.1 h
  obtain ⟨⟨rows, truncated⟩, hrows, h⟩ := bind_eq_ok.1 h
  cases h
  exact Sql.length_collectRows_le (mapError_eq_ok hrows)

/-! ## Answers -/

theorem Answer.ofResult_cases (encode : α → Json) (x : Except QueryError α) :
    (∃ e, ofResult encode x = queryFailed e) ∨
      ∃ a, x = .ok a ∧ ofResult encode x = success (encode a) := by
  cases x with
  | error e => exact Or.inl ⟨e, rfl⟩
  | ok a => exact Or.inr ⟨a, rfl, rfl⟩

/-- What a route gives is a failure, or a result that is bounded by what the request asks for. -/
def Settings.BoundsAnswer (s : Settings) (req : Request) : Route → Answer → Prop
  | .listing _, a => ∃ q, req.decodeBody FilterRequest.parts FilterRequest.decode = .ok q ∧
      ((∃ e, a = .queryFailed e) ∨
        ∃ page : RecordPage, a = .success page.toJson ∧ page.IsBounded s.limits q.limit q.offset)
  | .adHoc, a => ∃ q, req.decodeBody AdHocQuery.parts AdHocQuery.decode = .ok q ∧
      ((∃ e, a = .queryFailed e) ∨ ∃ records limit, a = .success (.array records) ∧
        s.limits.Allows q.limit limit ∧ (records.length : Int) ≤ limit)
  | .raw, a => (∃ e, a = .queryFailed e) ∨
      ∃ result : RawResult, a = .success result.toJson ∧ result.rows.length ≤ s.maxRows
  | .health, _ | .fields _, _ | .tables, _ => True

theorem Settings.boundsAnswer_of_handle {s : Settings} {db : Database} {req : Request}
    {route : Route} {a : Answer} (h : handle s db req route = .ok a) :
    s.BoundsAnswer req route a := by
  cases route with
  | health | fields segment | tables => trivial
  | listing segment =>
    obtain ⟨caller, -, h⟩ := bind_eq_ok.1 h
    obtain ⟨name, -, h⟩ := bind_eq_ok.1 h
    obtain ⟨q, hq, h⟩ := bind_eq_ok.1 h
    obtain ⟨r, -, h⟩ := bind_eq_ok.1 h
    obtain rfl := Except.ok.inj h
    refine ⟨q, hq, ?_⟩
    rcases Answer.ofResult_cases RecordPage.toJson (db.list r caller.tenant q s.limits) with
      hfailed | ⟨page, hpage, hanswer⟩
    · exact Or.inl hfailed
    · exact Or.inr ⟨page, hanswer, Database.isBounded_of_list hpage⟩
  | adHoc =>
    obtain ⟨caller, -, h⟩ := bind_eq_ok.1 h
    obtain ⟨q, hq, h⟩ := bind_eq_ok.1 h
    obtain rfl := Except.ok.inj h
    refine ⟨q, hq, ?_⟩
    rcases Answer.ofResult_cases Json.array (db.runAdHoc q caller.tenant s.limits) with
      hfailed | ⟨records, hrecords, hanswer⟩
    · exact Or.inl hfailed
    · exact Or.inr ⟨records, _, hanswer, s.limits.allows_clamp q.limit,
        Database.length_le_of_runAdHoc hrecords⟩
  | raw =>
    obtain ⟨caller, -, h⟩ := bind_eq_ok.1 h
    obtain ⟨sql, -, h⟩ := bind_eq_ok.1 h
    obtain rfl := Except.ok.inj h
    rcases Answer.ofResult_cases RawResult.toJson (db.runRaw s.guard s.maxRows sql) with
      hfailed | ⟨result, hresult, hanswer⟩
    · exact Or.inl hfailed
    · exact Or.inr ⟨result, hanswer, Database.length_le_of_runRaw hresult⟩

/-! ## Settings -/

/-- The number fits 64 bits with a sign. -/
def IsInt64 (n : Int) : Prop := -2 ^ 63 ≤ n ∧ n < 2 ^ 63

namespace Settings

theorem isInt64_of_signed? {text : String} {n : Int} (h : signed? 64 text = some n) :
    IsInt64 n := by
  obtain ⟨-, hfits⟩ := Option.filter_eq_some_iff.1 h
  rw [Bool.and_eq_true, decide_eq_true_eq, decide_eq_true_eq] at hfits
  exact hfits

/-- What holds of the default and of all that can be read holds of a setting. -/
theorem valueOr_induction {P : α → Prop} {env : Environment} {name : String}
    {read : String → Option α} {default : α} (hread : ∀ text a, read text = some a → P a)
    (hdefault : P default) : P (valueOr env name read default) := by
  unfold valueOr
  cases hvalue : (env name).bind read with
  | none => exact hdefault
  | some a =>
    obtain ⟨text, -, htext⟩ := Option.bind_eq_some_iff.1 hvalue
    exact hread text a htext

theorem isInt64_limits (env : Environment) :
    IsInt64 (ofEnvironment env).limits.defaultLimit ∧
      IsInt64 (ofEnvironment env).limits.maxLimit :=
  ⟨valueOr_induction (fun _ _ => isInt64_of_signed?) ⟨by decide, by decide⟩,
    valueOr_induction (fun _ _ => isInt64_of_signed?) ⟨by decide, by decide⟩⟩

/-- Under these settings, results are bounded. -/
structure BoundsResults (s : Settings) : Prop where
  /-- The statement of a listing binds an allowed limit and no negative offset. -/
  listingStatement : ∀ r tenant (q : ListingQuery) statement,
    q.statement r tenant s.limits = .ok statement → ∃ limit offset,
      statement.limit? = some limit ∧ statement.offset? = some offset ∧
      s.limits.Allows q.limit limit ∧ offset = max 0 (q.offset.getD 0) ∧ 0 ≤ offset
  /-- Each page is the result of such a statement or, if it is filtered in process, a part of the
  result of one. -/
  listingRun : ∀ db r tenant q page,
    (Database.search db r tenant q s.limits = .ok page → ∃ statement rows,
      q.statement r tenant s.limits = .ok statement ∧ statement.run db = .ok rows ∧
      page.records = rows.map r.schema.recordOf) ∧
    (db.searchLoaded r tenant q s.limits = .ok page → ∃ statement rows,
      (q.loading s.limits).statement r tenant s.limits = .ok statement ∧
      statement.run db = .ok rows ∧ page.records.Sublist (rows.map r.schema.recordOf))
  /-- The page of a listing is bounded, wherever it is filtered. -/
  listing : ∀ db r tenant (q : FilterRequest) page,
    Database.list db r tenant q s.limits = .ok page → page.IsBounded s.limits q.limit q.offset
  /-- The statement of an ad-hoc query binds an allowed limit and has no offset. -/
  adHocStatement : ∀ (q : AdHocQuery) tenant statement,
    q.assemble tenant s.limits = .ok statement → ∃ limit,
      statement.limit? = some limit ∧ statement.select.offset = none ∧
      s.limits.Allows q.limit limit
  adHoc : ∀ db (q : AdHocQuery) tenant records,
    Database.runAdHoc db q tenant s.limits = .ok records → ∃ limit,
      s.limits.Allows q.limit limit ∧ (records.length : Int) ≤ limit
  raw : ∀ db sql result, Database.runRaw db s.guard s.maxRows sql = .ok result →
    result.rows.length ≤ s.maxRows
  /-- And so is what each route answers. -/
  answers : ∀ db req route a, handle s db req route = .ok a → s.BoundsAnswer req route a
  /-- Limits and offsets fit 64 bits with a sign if the requested ones do, so that rows can be
  counted by them. -/
  fits : ∀ requested, (∀ n, requested = some n → IsInt64 n) →
    IsInt64 (s.limits.clamp requested) ∧ IsInt64 (effectiveOffset requested)

/-- **The size of results.** It is bounded, whatever the variables of the environment say. -/
theorem boundsResults_ofEnvironment (env : Environment) : (ofEnvironment env).BoundsResults where
  listingStatement := by
    intro r tenant q statement h
    obtain ⟨hlimit, hoffset⟩ := ListingQuery.bounds_of_statement h
    exact ⟨_, _, hlimit, hoffset, QueryLimits.allows_clamp _ _, rfl, effectiveOffset_nonneg _⟩
  listingRun := by
    intro db r tenant q page
    constructor
    · intro h
      obtain ⟨s, rows, hs, hrows, hrecords, -⟩ := Database.search_eq_ok h
      exact ⟨s, rows, hs, hrows, hrecords⟩
    · intro h
      obtain ⟨loaded, hloaded, hrecords, -⟩ := Database.searchLoaded_eq_ok h
      obtain ⟨s, rows, hs, hrows, hall, -⟩ := Database.search_eq_ok hloaded
      refine ⟨s, rows, hs, hrows, ?_⟩
      rw [hrecords, ← hall]
      exact (List.take_sublist _ _).trans ((List.drop_sublist _ _).trans List.filter_sublist)
  listing := fun _ _ _ _ _ h => Database.isBounded_of_list h
  adHocStatement := by
    intro q tenant statement h
    obtain ⟨hlimit, hoffset⟩ := AdHocQuery.limit?_of_assemble h
    exact ⟨_, hlimit, hoffset, QueryLimits.allows_clamp _ _⟩
  adHoc := fun _ _ _ _ h => ⟨_, QueryLimits.allows_clamp _ _, Database.length_le_of_runAdHoc h⟩
  raw := fun _ _ _ h => Database.length_le_of_runRaw h
  answers := fun _ _ _ _ h => boundsAnswer_of_handle h
  fits := by
    intro requested hrequested
    obtain ⟨-, hmax⟩ := isInt64_limits env
    have hone := (ofEnvironment env).limits.one_le_clamp requested
    have hle := (ofEnvironment env).limits.clamp_le requested
    have hoffset :
        effectiveOffset requested = 0 ∨ requested = some (effectiveOffset requested) := by
      cases requested with
      | none => exact Or.inl rfl
      | some n =>
        by_cases hn : 0 ≤ n
        · exact Or.inr (congrArg some (Int.max_eq_right hn).symm)
        · exact Or.inl (Int.max_eq_left (by rw [Option.getD_some]; omega))
    unfold IsInt64 at hmax ⊢
    refine ⟨by omega, ?_⟩
    rcases hoffset with hzero | hsome
    · rw [hzero]
      decide
    · exact hrequested _ hsome

end Settings

/-- A greatest limit below one and a default far above it leave one row. -/
example :
    (Settings.ofEnvironment fun name =>
      if name = "QUERY_MAX_LIMIT" then some " -5 "
      else if name = "QUERY_DEFAULT_LIMIT" then some "9223372036854775807"
      else none).limits.clamp none = 1 := by
  decide +kernel

end BillingQuery
