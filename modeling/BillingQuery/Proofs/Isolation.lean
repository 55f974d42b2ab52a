import BillingQuery.Proofs.Assembled
import BillingQuery.Proofs.Confined
import BillingQuery.Proofs.LoadedListing
import BillingQuery.Service.Server

/-!
# Isolation of tenants

**Main result (`answer_congr`).** The answer to a request, unless it is a raw statement, depends on
the rows of the caller's tenant alone, and of these on the open columns alone. That covers status
and body, and so also what a failure says.

Every statement that the service makes by itself is confined to the caller's tenant: those of
listings by what compiling gives, those of ad-hoc queries by what assembling gives.
-/

namespace BillingQuery

open Sql (Statement)

variable {db db' : Database} {r : Resource} {tenant : String}

/-! ## Listings -/

theorem Resource.column_mem_openColumns {c : String} (h : c ∈ r.fields.map Field.column) :
    c ∈ r.openColumns :=
  List.mem_append_left _ h

/-- The statement of a listing is confined to the tenant. -/
theorem FilterGroup.isConfined_select {g : FilterGroup} {order : Option Sql.Order}
    (horder : ∀ o, order = some o → o.column ∈ r.fields.map Field.column) (limit offset : Int) :
    ((g.compiledFor r.schema tenant order).select limit offset).IsConfined r tenant where
  table := r.ofTable?_table
  scope := g.tenantScope_mem_conditions r.schema tenant order
  tenant := rfl
  names :=
    { conditions := by
        intro p hp c hc
        rcases @FilterGroup.mem_conditions g r.schema tenant order p hp with rfl | rfl
        · exact List.mem_cons.2 (Or.inl (List.mem_singleton.1 hc))
        · exact List.mem_cons_of_mem _
            (Resource.column_mem_openColumns (g.columns_predicate r.fields 1 hc))
      order := fun o ho =>
        List.mem_cons_of_mem _ (Resource.column_mem_openColumns (horder o ho))
      scanOrder := fun o ho => List.mem_cons_of_mem _ (Sql.Select.scanOrder_mem ho) }
  returns := by
    intro c hc
    obtain ⟨f, hf, rfl⟩ := List.mem_map.1 hc
    exact Resource.column_mem_openColumns (List.mem_map_of_mem hf)

namespace Database

theorem search_congr (h : AgreesFor tenant db db') (q : ListingQuery) (limits : QueryLimits) :
    db.search r tenant q limits = db'.search r tenant q limits := by
  rw [search, search]
  cases hcompile : compile q.filter r.schema tenant q.sort with
  | error e => rfl
  | ok c =>
    obtain ⟨-, -, rfl⟩ := compile_eq_ok_iff.1 hcompile
    have horder : ∀ o, r.schema.orderOf? q.sort = some o →
        o.column ∈ r.fields.map Field.column := fun o ho => Schema.column_of_orderOf? ho
    have hrun := (q.filter.isConfined_select horder (limits.clamp q.limit)
      (effectiveOffset q.offset)).run_congr h
    simp only [bind, Except.bind]
    rw [hrun]

/-- What is loaded is the tenant's, and the rest is done without the store. -/
theorem searchLoaded_congr (h : AgreesFor tenant db db') (q : ListingQuery)
    (limits : QueryLimits) :
    db.searchLoaded r tenant q limits = db'.searchLoaded r tenant q limits := by
  rw [searchLoaded, searchLoaded, search_congr h]

theorem list_congr (h : AgreesFor tenant db db') (q : FilterRequest) (limits : QueryLimits) :
    db.list r tenant q limits = db'.list r tenant q limits := by
  unfold list
  cases q.evaluate with
  | database => simp only [search_congr h]
  | memory => simp only [searchLoaded_congr h]

end Database

/-! ## Ad-hoc queries -/

theorem AdHocTest.columns_predicate (t : AdHocTest) (bound : Nat) :
    (t.predicate bound).columns ⊆ [t.column] := by
  cases t with
  | isNull column | isNotNull column => exact List.Subset.refl _
  | compare column operator value => cases operator <;> exact List.Subset.refl _

/-- The conditions of an ad-hoc query are those of its tests. -/
theorem AdHocTest.exists_of_mem_predicates {tests : List AdHocTest} {bound : Nat}
    {p : Sql.Predicate} (h : p ∈ predicates bound tests) :
    ∃ t ∈ tests, ∃ n, p = t.predicate n := by
  induction tests generalizing bound with
  | nil => cases h
  | cons t tests ih =>
    rcases List.mem_cons.1 h with rfl | h
    · exact ⟨t, List.mem_cons_self, bound, rfl⟩
    · obtain ⟨t', ht', hp⟩ := ih h
      exact ⟨t', List.mem_cons_of_mem _ ht', hp⟩

/-- The statement of an ad-hoc query is confined to the tenant. -/
theorem AdHocQuery.isConfined_assemble {q : AdHocQuery} {limits : QueryLimits} {s : Statement}
    (h : q.assemble tenant limits = .ok s) : ∃ r, s.IsConfined r tenant := by
  obtain ⟨table, columns, orderColumn, tests, rfl, htable, hcolumns, horder, htests⟩ :=
    assemble_eq_ok h
  obtain ⟨r, hr, htenant, hopen⟩ := AllowedTable.exists_resource htable
  -- Scope clause, table, then columns of conditions, ordering and scan, then those returned.
  refine ⟨r, hr, ?_, rfl, ⟨?_, ?_, ?_⟩, ?_⟩
  · rw [Schema.tenantScope, htenant]
    exact List.mem_cons_self
  · intro p hp c hc
    rcases List.mem_cons.1 hp with rfl | hp
    · rw [List.mem_singleton.1 hc, ← htenant]
      exact List.mem_cons_self
    · obtain ⟨t, ht, n, rfl⟩ := AdHocTest.exists_of_mem_predicates hp
      rw [List.mem_singleton.1 (t.columns_predicate n hc)]
      exact List.mem_cons_of_mem _ (hopen (htests t ht))
  · intro o ho
    obtain ⟨c, hc, rfl⟩ := Option.map_eq_some_iff.1 ho
    exact List.mem_cons_of_mem _ (hopen (horder c hc))
  · exact fun o ho => List.mem_cons_of_mem _ (Sql.Select.scanOrder_mem ho)
  · intro c hc
    obtain ⟨name, hname, rfl⟩ := List.mem_map.1 hc
    exact hopen (hcolumns hname)

theorem Database.runAdHoc_congr (h : AgreesFor tenant db db') (q : AdHocQuery)
    (limits : QueryLimits) :
    db.runAdHoc q tenant limits = db'.runAdHoc q tenant limits := by
  rw [runAdHoc, runAdHoc]
  cases hs : q.assemble tenant limits with
  | error e => rfl
  | ok s =>
    obtain ⟨r, hconfined⟩ := AdHocQuery.isConfined_assemble hs
    simp only [bind, Except.bind]
    rw [hconfined.run_congr h]

/-! ## Answers -/

/-- An administrator is the caller of the request too. -/
theorem Caller.ofHeaders_of_admin {headers : Headers} {caller : Caller}
    (h : adminOfHeaders headers = .ok caller) : ofHeaders headers = .ok caller := by
  unfold adminOfHeaders at h
  cases hcaller : ofHeaders headers with
  | error e =>
    rw [hcaller] at h
    cases h
  | ok found =>
    rw [hcaller] at h
    simp only [bind, Except.bind] at h
    split_ifs at h
    exact h

section
variable {req : Request} {settings : Settings}
  (hagree : ∀ caller, Caller.ofHeaders req.headers = .ok caller →
    Database.AgreesFor caller.tenant db db')
include hagree

theorem handle_congr {route : Route} (hroute : route ≠ .raw) :
    handle settings db req route = handle settings db' req route := by
  cases route with
  | health | fields segment | tables => rfl
  | raw => exact absurd rfl hroute
  | listing segment =>
    rw [handle, handle, Request.caller]
    cases hcaller : Caller.ofHeaders req.headers with
    | error e => simp only [Except.mapError, bind, Except.bind]
    | ok caller =>
      simp only [Except.mapError, bind, Except.bind, Database.list_congr (hagree caller hcaller)]
  | adHoc =>
    rw [handle, handle, Request.admin]
    cases hcaller : Caller.adminOfHeaders req.headers with
    | error e => simp only [Except.mapError, bind, Except.bind]
    | ok caller =>
      have hagree' := hagree caller (Caller.ofHeaders_of_admin hcaller)
      simp only [Except.mapError, bind, Except.bind, Database.runAdHoc_congr hagree']

/-- **Isolation.** Rows of other tenants, and columns that are not open, make no difference to the
answer, unless the request is a raw statement. -/
theorem answer_congr (hroute : Route.ofTarget? req.target ≠ some .raw) :
    answer settings db req = answer settings db' req := by
  have htarget : answerTarget settings db req = answerTarget settings db' req := by
    unfold answerTarget
    cases hr : Route.ofTarget? req.target with
    | none => rfl
    | some route =>
      have hne : route ≠ .raw := fun h => hroute (by rw [hr, h])
      simp only [answerRoute, handle_congr hagree hne]
  rw [answer, answer, htarget]

end

/-- The sample database, but for what the tenant `t1` cannot see. -/
def otherDatabase : Database :=
  { Database.empty with clients := [
      ⟨("tax_id", .text "DE1") :: sampleClient.cells ++ [("internal_notes", .text "late")]⟩,
      ⟨[("id", .integer 8), ("tenant_id", .text "t2"), ("name", .text "Other"),
        ("status", .text "trial"), ("auto_renew", .integer 0),
        ("created_at", .text "2024-01-01")]⟩] }

/-- The clients of the tenant `t1`, filtered in process. -/
def listingRequest : Request where
  method := "POST"
  target := "/api/v1/resources/clients/filter"
  headers := [("X-Tenant-Id", "t1"), ("Content-Type", "application/json")]
  body := "\x7b\"evaluate\": \"memory\"\x7d"

theorem answer_congr_sample :
    sampleDatabase ≠ otherDatabase ∧
      answer .standard sampleDatabase listingRequest =
        answer .standard otherDatabase listingRequest := by
  refine ⟨by decide, answer_congr (fun caller hcaller => ?_) (by decide)⟩
  have hofHeaders : Caller.ofHeaders listingRequest.headers = .ok ⟨"t1", .member⟩ := rfl
  rw [hofHeaders] at hcaller
  cases hcaller
  intro r
  cases r <;> decide

end BillingQuery
