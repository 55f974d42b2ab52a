import BillingQuery.Proofs.LoadedListing
import BillingQuery.Proofs.WireRoundTrip
import BillingQuery.Service.Server

/-!
# Paging

The pages of a listing are taken one after the other, each from where the one before it ended, until
one is not full.

**Main result (`FilterRequest.isPaged`).** However the filter is run, all pages together have the
records that match, in order and each once, and all have the same limit and issues. The pages come
to an end unless one is refused, and none is refused where the request can be run.

Each page that is given is a cut of one list of records, which depends neither on the limit nor on
the offset (`FilterRequest.eq_pageAt_of_list`). So a run of pages is followed along this list.
-/

namespace BillingQuery

/-! ## Pages -/

/-- The page of some records from an offset on. -/
def RecordPage.cut (all : List Json) (issues : List String) (limit offset : Int) : RecordPage where
  records := (all.drop offset.toNat).take limit.toNat
  issues := issues
  limit := limit
  offset := effectiveOffset (some offset)

theorem RecordPage.length_cut (all : List Json) (issues : List String) {limit : Int}
    (hlimit : 1 ≤ limit) (n : Nat) :
    ((cut all issues limit n).records.length : Int) = min limit (all.length - n : Nat) := by
  rw [cut, List.length_take, List.length_drop, Int.toNat_natCast]
  omega

/-- The pages from an offset on, each with the limit that it says, up to the first that is not
full. -/
inductive Pages (fetch : Int → Except QueryError RecordPage) : Int → List RecordPage → Prop
  | last {offset : Int} {page : RecordPage} (given : fetch offset = .ok page)
      (short : page.records.length < page.limit) : Pages fetch offset [page]
  | next {offset : Int} {page : RecordPage} {pages : List RecordPage}
      (given : fetch offset = .ok page) (full : ¬ page.records.length < page.limit)
      (rest : Pages fetch (offset + page.limit) pages) : Pages fetch offset (page :: pages)

namespace Pages

variable {fetch : Int → Except QueryError RecordPage} {all : List Json} {issues : List String}
  {limit : Int} {pages : List RecordPage}

theorem exists_first {offset : Int} (h : Pages fetch offset pages) :
    ∃ page, fetch offset = .ok page := by
  cases h with
  | last given short => exact ⟨_, given⟩
  | next given full rest => exact ⟨_, given⟩

/-- The next offset is where the cut ends. -/
theorem natCast_add (n : Nat) (hlimit : 1 ≤ limit) :
    (n : Int) + limit = (n + limit.toNat : Nat) := by
  omega

/-- Pages that are cut from a list are that list from the first offset on. -/
theorem eq_drop (hfetch : ∀ (n : Nat) page, fetch n = .ok page → page = .cut all issues limit n)
    (hlimit : 1 ≤ limit) (n : Nat) (h : Pages fetch n pages) :
    pages.flatMap RecordPage.records = all.drop n ∧
      ∀ page ∈ pages, page.limit = limit ∧ page.issues = issues := by
  generalize hoffset : (n : Int) = offset at h
  induction h generalizing n with
  | last given short =>
    subst hoffset
    obtain rfl := hfetch n _ given
    have hshort : min limit (all.length - n : Nat) < limit :=
      RecordPage.length_cut all issues hlimit n ▸ short
    have hlength : (all.drop n).length ≤ limit.toNat := by
      rw [List.length_drop]
      omega
    simp [RecordPage.cut, List.take_of_length_le hlength]
  | next given full rest ih =>
    subst hoffset
    obtain rfl := hfetch n _ given
    obtain ⟨hrest, hpages⟩ := ih (n + limit.toNat) (natCast_add n hlimit).symm
    refine ⟨?_, List.forall_mem_cons.2 ⟨⟨rfl, rfl⟩, hpages⟩⟩
    rw [List.flatMap_cons, hrest, ← List.drop_drop]
    exact List.take_append_drop limit.toNat (all.drop n)

/-- Pages that are cut from a list come to an end, unless one is refused. -/
theorem exists_pages
    (hfetch : ∀ (n : Nat) page, fetch n = .ok page → page = .cut all issues limit n)
    (hlimit : 1 ≤ limit) (n : Nat) :
    (∃ pages, Pages fetch n pages) ∨ ∃ (m : Nat) (e : QueryError), fetch m = .error e := by
  induction hleft : all.length - n using Nat.strong_induction_on generalizing n with
  | _ left ih =>
    cases hpage : fetch n with
    | error e => exact Or.inr ⟨n, e, hpage⟩
    | ok page =>
      obtain rfl := hfetch n page hpage
      have hlength := RecordPage.length_cut all issues hlimit n
      by_cases hfull : ((RecordPage.cut all issues limit n).records.length : Int) < limit
      · exact Or.inl ⟨_, .last hpage hfull⟩
      · refine (ih (all.length - (n + limit.toNat)) (by omega) _ rfl).imp_left ?_
        rintro ⟨pages, hpages⟩
        rw [← natCast_add n hlimit] at hpages
        exact ⟨_, .next hpage hfull hpages⟩

end Pages

/-! ## What is cut -/

namespace Database

variable (db : Database) (r : Resource) (tenant : String) (limits : QueryLimits)

/-- The matching rows of a listing, in order. In process only the first rows are seen. -/
def matchingRows (g : FilterGroup) (order : Option Sql.Order) : Evaluation → List Row
  | .database =>
    (Sql.ordered order (db.rowsOf r tenant)).filter (g.isTrueOn r tenant Sql.seenChar)
  | .memory =>
    ((Sql.ordered order (db.rowsOf r tenant)).take (max 1 limits.maxLimit).toNat).filter fun row =>
      g.accepts r.fields (r.recordOf row)

/-- The matching rows are some of the tenant's rows, which are all put in order. -/
theorem exists_matchingRows_sublist (g : FilterGroup) (order : Option Sql.Order)
    (evaluate : Evaluation) : ∃ rows : List Row, rows.Perm (db.rowsOf r tenant) ∧
      (∀ o ∈ order, rows.Pairwise fun a b => o.permits a b = true) ∧
      (db.matchingRows r tenant limits g order evaluate).Sublist rows := by
  refine ⟨Sql.ordered order (db.rowsOf r tenant), ?_, ?_, ?_⟩
  · cases order with
    | none => exact .refl _
    | some o => exact List.mergeSort_perm _ _
  · rintro o ⟨⟩
    exact List.pairwise_mergeSort o.permits_trans o.permits_total _
  · cases evaluate with
    | database => exact List.filter_sublist
    | memory => exact List.filter_sublist.trans (List.take_sublist _ _)

end Database

/-- The page of the records of some rows, for a tree. -/
def FilterGroup.pageAt (g : FilterGroup) (r : Resource) (limit offset : Int) (rows : List Row) :
    RecordPage :=
  .cut (rows.map r.recordOf) ((g.issues r.fields).map FilterIssue.message) limit offset

namespace Database

variable {db : Database} {r : Resource} {tenant : String} {limits : QueryLimits} {g : FilterGroup}
  {sort : Option SortSpec} {limit : Option Int} {offset : Int} {page : RecordPage}

theorem toNat_effectiveOffset : (effectiveOffset (some offset)).toNat = offset.toNat := by
  rw [effectiveOffset, Option.getD_some]
  omega

theorem run_select_eq {order : Option Sql.Order} {limit : Int} (hlimit : 0 ≤ limit) :
    ((g.compiledFor r.schema tenant order).select limit (effectiveOffset (some offset))).run db =
      if ((g.compiledFor r.schema tenant order).select limit
          (effectiveOffset (some offset))).meetsLongPattern r (db.rows r) then .error .longPattern
      else .ok ((((db.matchingRows r tenant limits g order .database).drop offset.toNat).take
        limit.toNat).map (Sql.project r.schema.listed)) := by
  rw [Sql.Statement.run_eq, resolve_select]
  dsimp only [Except.bind]
  rw [result_select, filter_selects, Sql.ordered_filter, Sql.page_of_nonneg hlimit,
    toNat_effectiveOffset]
  rfl

/-- **A page of the store** is a cut of the matching rows, unless a pattern is in the way. -/
theorem search_eq_ok_iff :
    db.search r tenant ⟨g, sort, limit, some offset⟩ limits = .ok page ↔
      g.IsWithinLimits ∧ r.schema.Sorts sort ∧
        ((g.compiledFor r.schema tenant (r.schema.orderOf? sort)).select (limits.clamp limit)
          (effectiveOffset (some offset))).meetsLongPattern r (db.rows r) = false ∧
        page = g.pageAt r (limits.clamp limit) offset
          (db.matchingRows r tenant limits g (r.schema.orderOf? sort) .database) := by
  have hlimit : 0 ≤ limits.clamp limit := Int.le_trans (by decide) (limits.one_le_clamp limit)
  have hrecord : r.schema.recordOf ∘ Sql.project r.schema.listed = r.recordOf := rfl
  have hrun := @run_select_eq db r tenant limits g offset (r.schema.orderOf? sort) _ hlimit
  constructor
  · intro h
    obtain ⟨c, hc, h⟩ := bind_eq_ok.1 h
    obtain ⟨rows, hrows, h⟩ := bind_eq_ok.1 h
    obtain ⟨hlimits, hsort, rfl⟩ := compile_eq_ok_iff.1 hc
    have hresult := hrun.symm.trans (mapError_eq_ok hrows)
    split_ifs at hresult with hlong
    refine ⟨hlimits, hsort, Bool.eq_false_iff.2 hlong, ?_⟩
    rw [← Except.ok.inj h, ← Except.ok.inj hresult, List.map_map, hrecord, List.map_take,
      List.map_drop]
    rfl
  · rintro ⟨hlimits, hsort, hshort, rfl⟩
    rw [hshort] at hrun
    rw [search, compile_of_sorts hlimits hsort]
    show (Except.mapError _ (Sql.Statement.run _ db)).bind _ = _
    rw [hrun]
    show Except.ok (RecordPage.mk _ _ _ _) = _
    rw [List.map_map, hrecord, List.map_take, List.map_drop]
    rfl

theorem search_loading_eq_ok_iff :
    db.search r tenant ⟨.empty, sort, some limits.maxLimit, some 0⟩ limits = .ok page ↔
      r.schema.Sorts sort ∧ page = FilterGroup.empty.pageAt r (max 1 limits.maxLimit) 0
        (Sql.ordered (r.schema.orderOf? sort) (db.rowsOf r tenant)) := by
  have hempty : FilterGroup.empty.IsWithinLimits := by decide
  have hall : db.matchingRows r tenant limits .empty (r.schema.orderOf? sort) .database =
      Sql.ordered (r.schema.orderOf? sort) (db.rowsOf r tenant) :=
    List.filter_eq_self.2 fun row _ => FilterGroup.isTrueOn_empty r tenant Sql.seenChar row
  rw [search_eq_ok_iff, meetsLongPattern_select (FilterGroup.hasShortPatterns_empty r.fields),
    hall, limits.clamp_maxLimit]
  simp only [hempty, true_and]

/-- **A page that is filtered in process** is a cut of the matching rows. -/
theorem searchLoaded_eq_ok_iff :
    db.searchLoaded r tenant ⟨g, sort, limit, some offset⟩ limits = .ok page ↔
      g.IsWithinLimits ∧ r.schema.Sorts sort ∧
        page = g.pageAt r (limits.clamp limit) offset
          (db.matchingRows r tenant limits g (r.schema.orderOf? sort) .memory) := by
  -- Filtering what is loaded is filtering the rows first and making records of them after.
  have hmatched : g.select r.fields (FilterGroup.empty.pageAt r (max 1 limits.maxLimit) 0
      (Sql.ordered (r.schema.orderOf? sort) (db.rowsOf r tenant))).records =
        (db.matchingRows r tenant limits g (r.schema.orderOf? sort) .memory).map r.recordOf := by
    rw [FilterGroup.pageAt, RecordPage.cut, ← List.map_drop, ← List.map_take,
      FilterGroup.select, List.filter_map]
    rfl
  constructor
  · intro h
    obtain ⟨_, hcheck, h⟩ := bind_eq_ok.1 h
    obtain ⟨loaded, hloaded, h⟩ := bind_eq_ok.1 h
    obtain ⟨⟨matched, issues⟩, hfiltered, h⟩ := bind_eq_ok.1 h
    obtain ⟨_, -, hfiltered⟩ := bind_eq_ok.1 hfiltered
    obtain ⟨hsort, rfl⟩ := search_loading_eq_ok_iff.1 hloaded
    cases hfiltered
    refine ⟨FilterGroup.checkComplexity_eq_ok_iff.1 hcheck, hsort, ?_⟩
    rw [← Except.ok.inj h, hmatched, toNat_effectiveOffset]
    rfl
  · rintro ⟨hlimits, hsort, rfl⟩
    have hcheck := FilterGroup.checkComplexity_eq_ok_iff.2 hlimits
    rw [searchLoaded, search_loading_eq_ok_iff.2 ⟨hsort, rfl⟩]
    simp only [filterRecords, hcheck, bind, Except.bind]
    show Except.ok (RecordPage.mk _ _ _ _) = _
    rw [hmatched, toNat_effectiveOffset]
    rfl

end Database

/-! ## Requests -/

namespace FilterRequest

def tree (q : FilterRequest) : Except QueryError FilterGroup :=
  match q.filter with
  | some j => FilterGroup.ofJson j
  | none => .ok .empty

def startingAt (q : FilterRequest) (offset : Int) : FilterRequest :=
  { q with offset := some offset }

/-- The pages of a request, from its first one on. -/
def HasPages (q : FilterRequest) (db : Database) (r : Resource) (tenant : String)
    (limits : QueryLimits) (pages : List RecordPage) : Prop :=
  Pages (fun offset => db.list r tenant (q.startingAt offset) limits) 0 pages

/-- What the pages of a request come to. -/
structure IsPaged (q : FilterRequest) (db : Database) (r : Resource) (tenant : String)
    (limits : QueryLimits) : Prop where
  /-- All pages together have the records of the matching rows, in order and each once, and every
  page has the same limit and issues. -/
  exact : ∀ pages, q.HasPages db r tenant limits pages → ∃ g, q.tree = .ok g ∧
    pages.flatMap RecordPage.records =
      (db.matchingRows r tenant limits g (r.schema.orderOf? q.sort) q.evaluate).map r.recordOf ∧
    ∀ page ∈ pages, page.limit = limits.clamp q.limit ∧
      page.issues = (g.issues r.fields).map FilterIssue.message
  /-- The matching rows are some of the tenant's rows, each of which stands once in the order. -/
  inOrder : ∀ g, ∃ rows : List Row, rows.Perm (db.rowsOf r tenant) ∧
    (∀ o ∈ r.schema.orderOf? q.sort, rows.Pairwise fun a b => o.permits a b = true) ∧
    (db.matchingRows r tenant limits g (r.schema.orderOf? q.sort) q.evaluate).Sublist rows
  /-- The pages come to an end, unless one is refused. -/
  ends : (∃ pages, q.HasPages db r tenant limits pages) ∨
    ∃ (n : Nat) (e : QueryError), db.list r tenant (q.startingAt n) limits = .error e
  /-- None is refused if the tree is read, the ordering names a field, and the store is given no
  pattern over its limit. -/
  given : ∀ g, q.tree = .ok g → r.schema.Sorts q.sort →
    (q.evaluate = .database → (g.plan r.fields).HasShortPatterns) →
    ∀ offset, ∃ page, db.list r tenant (q.startingAt offset) limits = .ok page

section
variable {q : FilterRequest} {db : Database} {r : Resource} {tenant : String}
  {limits : QueryLimits} {g : FilterGroup} {offset : Int} {page : RecordPage}

theorem isWithinLimits_of_tree (h : q.tree = .ok g) : g.IsWithinLimits := by
  unfold tree at h
  cases hfilter : q.filter with
  | none =>
    rw [hfilter] at h
    cases h
    decide
  | some j =>
    rw [hfilter] at h
    exact (FilterGroup.decode_of_ofJson h).2

theorem list_startingAt : db.list r tenant (q.startingAt offset) limits =
    q.tree.bind fun g => match q.evaluate with
      | .database => db.search r tenant ⟨g, q.sort, q.limit, some offset⟩ limits
      | .memory => db.searchLoaded r tenant ⟨g, q.sort, q.limit, some offset⟩ limits := by
  obtain ⟨filter, sort, limit, _, evaluate⟩ := q
  cases filter <;> cases evaluate <;> rfl

/-- A page that is given is a cut of the matching rows. -/
theorem eq_pageAt_of_list (htree : q.tree = .ok g)
    (h : db.list r tenant (q.startingAt offset) limits = .ok page) :
    page = g.pageAt r (limits.clamp q.limit) offset
      (db.matchingRows r tenant limits g (r.schema.orderOf? q.sort) q.evaluate) := by
  rw [list_startingAt, htree] at h
  cases hevaluate : q.evaluate with
  | database =>
    rw [hevaluate] at h
    exact (Database.search_eq_ok_iff.1 h).2.2.2
  | memory =>
    rw [hevaluate] at h
    exact (Database.searchLoaded_eq_ok_iff.1 h).2.2

theorem exists_page_of_list (htree : q.tree = .ok g) (hsort : r.schema.Sorts q.sort)
    (hshort : q.evaluate = .database → (g.plan r.fields).HasShortPatterns) :
    ∃ page, db.list r tenant (q.startingAt offset) limits = .ok page := by
  have hlimits := isWithinLimits_of_tree htree
  rw [list_startingAt, htree]
  cases hevaluate : q.evaluate with
  | database =>
    exact ⟨_, Database.search_eq_ok_iff.2
      ⟨hlimits, hsort, meetsLongPattern_select (hshort hevaluate) _, rfl⟩⟩
  | memory => exact ⟨_, Database.searchLoaded_eq_ok_iff.2 ⟨hlimits, hsort, rfl⟩⟩

end

/-- **Paging** loses nothing and repeats nothing. -/
theorem isPaged (q : FilterRequest) (db : Database) (r : Resource) (tenant : String)
    (limits : QueryLimits) : q.IsPaged db r tenant limits where
  exact := by
    intro pages hpages
    obtain ⟨page, hpage⟩ := hpages.exists_first
    rw [list_startingAt] at hpage
    obtain ⟨g, htree, -⟩ := bind_eq_ok.1 hpage
    exact ⟨g, htree, Pages.eq_drop (fun n page => eq_pageAt_of_list htree)
      (limits.one_le_clamp q.limit) 0 hpages⟩
  inOrder := fun g => db.exists_matchingRows_sublist r tenant limits g _ _
  ends := by
    cases htree : q.tree with
    | error e =>
      have hrefused : db.list r tenant (q.startingAt (0 : Nat)) limits = .error e := by
        rw [list_startingAt, htree]
        rfl
      exact Or.inr ⟨0, e, hrefused⟩
    | ok g =>
      exact Pages.exists_pages (fun n page => eq_pageAt_of_list htree)
        (limits.one_le_clamp q.limit) 0
  given := fun g htree hsort hshort offset => exists_page_of_list htree hsort hshort

end FilterRequest
end BillingQuery
