import BillingQuery.Proofs.ListingRun
import BillingQuery.Store.Insertion

/-!
# Listings filtered in process

A listing may be filtered by the store or, after loading the tenant's rows, in process.

**Main result (`Database.search_eq_searchLoaded_iff`).** Where all of the tenant's rows can be
loaded at once, both give the same, the same error or the same page with the same issues and bounds,
iff the way in which the store reads characters makes no difference on those rows.

**Merged characters.** The store's matching reads U+FFFE and U+FFFF as U+FFFD, so it finds a needle
with one of the three in texts that do not contain it (`search_finds_merged_needle`). It makes no
difference where needles are told apart from the texts that they are held against
(`Database.search_eq_searchLoaded`), such as all needles without the three.
-/

namespace BillingQuery

/-! ## Bounds -/

namespace QueryLimits

theorem one_le_clamp (l : QueryLimits) (requested : Option Int) : 1 ≤ l.clamp requested := by
  unfold clamp
  omega

theorem clamp_maxLimit (l : QueryLimits) : l.clamp (some l.maxLimit) = max 1 l.maxLimit := by
  rw [clamp, Option.getD_some]
  omega

end QueryLimits

namespace Sql

theorem page_of_nonneg {limit : Int} (h : 0 ≤ limit) (offset : Int) (rows : List α) :
    page (some limit) (some offset) rows = (rows.drop offset.toNat).take limit.toNat := by
  rw [page, Option.getD_some]
  exact if_neg (Int.not_lt.2 h)

/-- A page that holds all rows is the rows. -/
theorem page_of_length_le {limit : Int} {rows : List α} (h : (rows.length : Int) ≤ limit) :
    page (some limit) (some 0) rows = rows := by
  rw [page_of_nonneg (by omega), Int.toNat_zero, List.drop_zero, List.take_of_length_le (by omega)]

theorem length_ordered (order : Option Order) (rows : List Row) :
    (ordered order rows).length = rows.length := by
  cases order with
  | none => rfl
  | some o => exact List.length_mergeSort rows

theorem mem_ordered {order : Option Order} {rows : List Row} {row : Row} :
    row ∈ ordered order rows ↔ row ∈ rows := by
  cases order with
  | none => exact Iff.rfl
  | some o => exact List.mem_mergeSort

end Sql

/-! ## Pages that hold everything -/

/-- A choice among the items is known from how many it takes, if another takes at least the same. -/
theorem eq_of_length_filter_eq {p q : α → Bool} {items : List α}
    (himp : ∀ a ∈ items, p a = true → q a = true)
    (hlength : (items.filter p).length = (items.filter q).length) :
    ∀ a ∈ items, p a = q a := by
  have hsub : (items.filter p).Sublist (items.filter q) := by
    have hboth : (items.filter q).filter p = items.filter p := by
      rw [List.filter_filter]
      refine List.filter_congr fun a ha => ?_
      rw [Bool.eq_iff_iff, Bool.and_eq_true]
      exact and_iff_left_of_imp (himp a ha)
    rw [← hboth]
    exact List.filter_sublist
  intro a ha
  rw [Bool.eq_iff_iff]
  constructor
  · exact himp a ha
  · intro hq
    have hmem : a ∈ items.filter p := by
      rw [hsub.eq_of_length hlength]
      exact List.mem_filter.2 ⟨ha, hq⟩
    exact (List.mem_filter.1 hmem).2

namespace ListingQuery

variable {g : FilterGroup} {sort : Option SortSpec} {r : Resource} {limits : QueryLimits}
  {rows : List Row} {chosen : Row → Bool}

/-- Asked for as much as is ever given, the page is everything, if there is not too much. -/
theorem pageOf_maxLimit (hcount : (rows.length : Int) ≤ max 1 limits.maxLimit) :
    (ListingQuery.mk g sort (some limits.maxLimit) (some 0)).pageOf r limits rows chosen =
      g.checkComplexity.bind fun _ =>
        (sort.mapM r.schema.order?).map fun order =>
          { records := (Sql.ordered order (rows.filter chosen)).map r.recordOf
            issues := (g.issues r.fields).map FilterIssue.message
            limit := limits.clamp (some limits.maxLimit)
            offset := 0 } := by
  rw [pageOf]
  congr 1
  funext _
  congr 1
  funext order
  have hfits : ((Sql.ordered order (rows.filter chosen)).length : Int) ≤
      limits.clamp (some limits.maxLimit) := by
    have hle := List.length_filter_le chosen rows
    rw [Sql.length_ordered, limits.clamp_maxLimit]
    omega
  show RecordPage.mk (List.map _ (Sql.page _ (some 0) _)) _ _ _ = _
  rw [Sql.page_of_length_le hfits]
  rfl

/-- Where choosing by records gives the same page of everything, it chooses the same rows. -/
theorem chosen_eq_of_pageOf_eq {accepts : Json → Bool} (hlimits : g.IsWithinLimits)
    (hsort : r.schema.Sorts sort) (hcount : (rows.length : Int) ≤ max 1 limits.maxLimit)
    (h : (ListingQuery.mk g sort (some limits.maxLimit) (some 0)).pageOf r limits rows chosen =
      (ListingQuery.mk g sort (some limits.maxLimit) (some 0)).pageOf r limits rows
        fun row => accepts (r.recordOf row)) :
    ∀ row ∈ rows, chosen row = accepts (r.recordOf row) := by
  obtain ⟨order, horder⟩ : ∃ order, sort.mapM r.schema.order? = .ok order := by
    rcases r.schema.mapM_order? sort with ⟨-, horder⟩ | ⟨spec, hspec, hkey, -⟩
    · exact ⟨_, horder⟩
    · exact absurd (hsort spec hspec) hkey
  rw [pageOf_maxLimit hcount, pageOf_maxLimit hcount, FilterGroup.checkComplexity_eq,
    if_pos hlimits, horder] at h
  injection h with h
  injection h with hrecords
  have himp : ∀ row ∈ rows, chosen row = true → accepts (r.recordOf row) = true := by
    intro row hrow hchosen
    have hmem : r.recordOf row ∈ (Sql.ordered order (rows.filter chosen)).map r.recordOf :=
      List.mem_map_of_mem (Sql.mem_ordered.2 (List.mem_filter.2 ⟨hrow, hchosen⟩))
    rw [hrecords] at hmem
    obtain ⟨row', hrow', hrecord⟩ := List.mem_map.1 hmem
    rw [← hrecord]
    exact (List.mem_filter.1 (Sql.mem_ordered.1 hrow')).2
  have hlength := congrArg List.length hrecords
  simp only [List.length_map, Sql.length_ordered] at hlength
  exact eq_of_length_filter_eq himp hlength

end ListingQuery

/-! ## Loading -/

namespace FilterGroup

theorem isTrueOn_empty (r : Resource) (tenant : String) (seen : Char → Char) (row : Row) :
    empty.isTrueOn r tenant seen row = true := rfl

theorem hasShortPatterns_empty (fields : List Field) : (empty.plan fields).HasShortPatterns :=
  fun _ _ _ h => absurd h List.not_mem_nil

end FilterGroup

namespace Database

variable {db : Database} {r : Resource} {tenant : String} {limits : QueryLimits}

/-- A listing that is filtered in process gives a page of the rows whose records pass the filter,
if all rows can be loaded. -/
theorem searchLoaded_eq {q : ListingQuery}
    (hcount : ((db.rowsOf r tenant).length : Int) ≤ max 1 limits.maxLimit) :
    db.searchLoaded r tenant q limits =
      q.pageOf r limits (db.rowsOf r tenant) fun row =>
        q.filter.accepts r.fields (r.recordOf row) := by
  have hall : (db.rowsOf r tenant).filter (FilterGroup.empty.isTrueOn r tenant Sql.seenChar) =
      db.rowsOf r tenant := List.filter_eq_self.2 fun row _ => FilterGroup.isTrueOn_empty _ _ _ _
  rw [searchLoaded, search_eq (FilterGroup.hasShortPatterns_empty r.fields),
    ListingQuery.pageOf_maxLimit hcount, hall, ListingQuery.pageOf]
  unfold filterRecords
  cases q.filter.checkComplexity with
  | error e => rfl
  | ok _ =>
    cases q.sort.mapM r.schema.order? with
    | error e => rfl
    | ok order =>
      have hselect : q.filter.select r.fields ((Sql.ordered order (db.rowsOf r tenant)).map
          r.recordOf) = (Sql.ordered order ((db.rowsOf r tenant).filter fun row =>
            q.filter.accepts r.fields (r.recordOf row))).map r.recordOf := by
        rw [FilterGroup.select, List.filter_map, Sql.ordered_filter]
        rfl
      have hlimit : 0 ≤ limits.clamp q.limit :=
        Int.le_trans (by decide) (limits.one_le_clamp q.limit)
      show Except.ok (RecordPage.mk _ _ _ _) = Except.ok (RecordPage.mk _ _ _ _)
      rw [hselect, Sql.page_of_nonneg hlimit, ← List.map_drop, ← List.map_take]

/-! ## Both listings -/

/-- Needles that are found only where they stand are enough for both listings to agree. -/
theorem search_eq_searchLoaded {q : ListingQuery} (hg : q.filter.IsNulFree)
    (hshort : (q.filter.plan r.fields).HasShortPatterns)
    (hfits : ∀ row ∈ db.rowsOf r tenant, r.Fits row)
    (hread : ∀ row ∈ db.rowsOf r tenant, (q.filter.plan r.fields).IsReadOn row Sql.seenChar)
    (hcount : ((db.rowsOf r tenant).length : Int) ≤ max 1 limits.maxLimit) :
    db.search r tenant q limits = db.searchLoaded r tenant q limits := by
  rw [search_eq hshort, searchLoaded_eq hcount]
  exact ListingQuery.pageOf_congr fun row hrow =>
    FilterGroup.isTrueOn_eq_accepts hg (hfits row hrow) (hread row hrow)

/-- **Both listings agree**, page by page, iff the filter is rejected or the store finds it true on
the same rows of the tenant as it would if it read every character as it is. -/
theorem search_eq_searchLoaded_iff {g : FilterGroup} {sort : Option SortSpec} (hg : g.IsNulFree)
    (hshort : (g.plan r.fields).HasShortPatterns)
    (hfits : ∀ row ∈ db.rowsOf r tenant, r.Fits row)
    (hcount : ((db.rowsOf r tenant).length : Int) ≤ max 1 limits.maxLimit) :
    (∀ limit offset, db.search r tenant ⟨g, sort, limit, offset⟩ limits =
        db.searchLoaded r tenant ⟨g, sort, limit, offset⟩ limits) ↔
      (g.IsWithinLimits → r.schema.Sorts sort → ∀ row ∈ db.rowsOf r tenant,
        g.isTrueOn r tenant Sql.seenChar row = g.isTrueOn r tenant id row) := by
  have hdocumented : ∀ row ∈ db.rowsOf r tenant,
      g.isTrueOn r tenant id row = g.accepts r.fields (r.recordOf row) := fun row hrow =>
    FilterGroup.isTrueOn_eq_accepts hg (hfits row hrow) (Plan.isReadOn_id _ row)
  constructor
  · intro h hlimits hsort row hrow
    have hpage := h (some limits.maxLimit) (some 0)
    rw [search_eq hshort, searchLoaded_eq hcount] at hpage
    rw [hdocumented row hrow]
    exact ListingQuery.chosen_eq_of_pageOf_eq hlimits hsort hcount hpage row hrow
  · intro h limit offset
    rw [search_eq hshort, searchLoaded_eq hcount]
    by_cases hlimits : g.IsWithinLimits
    · rcases r.schema.mapM_order? sort with ⟨hsort, -⟩ | ⟨spec, -, -, horder⟩
      · refine ListingQuery.pageOf_congr fun row hrow => ?_
        rw [h hlimits hsort row hrow, hdocumented row hrow]
      · simp only [ListingQuery.pageOf, horder, Except.map]
    · simp only [ListingQuery.pageOf, FilterGroup.checkComplexity_eq, if_neg hlimits, Except.bind]

end Database

/-! ## Instances -/

def sampleDatabase : Database := { Database.empty with clients := [sampleClient] }

theorem sampleFilter_hasShortPatterns :
    (sampleFilter.plan Resource.clients.fields).HasShortPatterns := by
  have hall : ∀ c ∈ sampleFilter.conditions, ∀ needle ∈ (c.value.bind Json.foldedText?).toList,
      ∀ kind ∈ [PatternKind.contains, .startsWith, .endsWith],
        (kind.likePattern needle).utf8ByteSize ≤ Sql.maxPatternSize := by
    decide
  intro f kind needle h
  obtain ⟨c, hc, hv⟩ := FilterGroup.exists_condition_of_mem_tests h
  obtain ⟨j, hj, hneedle⟩ := Condition.exists_value_of_pattern hv
  refine hall c hc needle ?_ kind (by cases kind <;> simp)
  rw [hj, Option.bind_some, hneedle]
  exact List.mem_singleton_self needle

theorem search_eq_searchLoaded_sample :
    sampleDatabase.search .clients "t1" ⟨sampleFilter, some ⟨"name", .desc⟩, some 5, some (-1)⟩
        ⟨100, 0⟩ =
      sampleDatabase.searchLoaded .clients "t1"
        ⟨sampleFilter, some ⟨"name", .desc⟩, some 5, some (-1)⟩ ⟨100, 0⟩ := by
  have hnul : sampleFilter.IsNulFree := by decide
  have hfits : ∀ row ∈ sampleDatabase.rowsOf .clients "t1", Resource.clients.Fits row := by
    intro row hrow
    obtain rfl : row = sampleClient := List.mem_singleton.1 hrow
    exact sampleClient_fits
  refine (Database.search_eq_searchLoaded_iff hnul sampleFilter_hasShortPatterns hfits
    (by decide)).2 (fun _ _ row hrow => ?_) (some 5) (some (-1))
  exact Resource.isTrueOn_seenChar hnul (hfits row hrow) sampleFilter_isUnmerged

/-- The values of a client whose name has the replacement character. -/
def replacedValues : List (String × Sql.Cell) :=
  [("id", .integer 7), ("tenant_id", .text "t1"), ("name", .text "a\ufffdb"),
    ("status", .text "active"), ("created_at", .text "2024-01-01")]

/-- A database with this client alone. -/
def replacedDatabase : Database :=
  { Database.empty with clients :=
      [⟨[("id", .integer 7), ("tenant_id", .text "t1"), ("name", .text "a\ufffdb"),
        ("email", .null), ("status", .text "active"), ("plan", .null), ("monthly_value", .null),
        ("auto_renew", .integer 0), ("created_at", .text "2024-01-01"), ("tax_id", .null),
        ("internal_notes", .null)]⟩] }

def mergedFilter : FilterGroup :=
  ⟨"root", .and, [.cond (.on "1" "name" "contains" (.string "\ufffe"))]⟩

/-- The store takes the client, and finds U+FFFE in its name, which has U+FFFD instead. -/
theorem search_finds_merged_needle :
    Database.empty.insert "clients" replacedValues = .ok replacedDatabase ∧
      replacedDatabase.search .clients "t1" ⟨mergedFilter, none, none, none⟩ .standard ≠
        replacedDatabase.searchLoaded .clients "t1" ⟨mergedFilter, none, none, none⟩ .standard := by
  have hstored : Database.empty.insert "clients" replacedValues = .ok replacedDatabase := by
    decide +kernel
  have hfound : (replacedDatabase.search .clients "t1" ⟨mergedFilter, none, none, none⟩
      .standard).map (fun p => p.records.length) = .ok 1 := rfl
  have hloaded : (replacedDatabase.searchLoaded .clients "t1" ⟨mergedFilter, none, none, none⟩
      .standard).map (fun p => p.records.length) = .ok 0 := rfl
  refine ⟨hstored, fun h => ?_⟩
  rw [h, hloaded] at hfound
  cases hfound

end BillingQuery
