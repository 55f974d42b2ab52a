import BillingQuery.Proofs.Admission
import BillingQuery.Proofs.Compiled
import BillingQuery.Proofs.ResultSize

/-!
# Rejections

**Main result (`Settings.decidesFirst`).** Whether a request is rejected, and with what answer, is
decided before any row is read; before its body and the name of its resource are looked at, its
headers must be admitted; and what is run after that binds the tenant of the headers first.

**Shape of the proof.** A request comes to a decision (`Request.decision`): an answer, or what is
still to be run. The store has a part only in the second, and there an answer is either a success or
a failed execution, which is no rejection (`Decision.eq_answered`).
-/

namespace BillingQuery

open Sql (Statement ResultRow)

/-- The request is at fault. -/
def Answer.IsRejection (a : Answer) : Prop := 400 ≤ a.status ∧ a.status < 500

instance (a : Answer) : Decidable a.IsRejection := by
  unfold Answer.IsRejection
  infer_instance

/-! ## What is still to be run -/

/-- A statement that is still to be run, and what is made of its rows. -/
structure Pending (α : Type) where
  statement : Statement
  finish : List ResultRow → α

namespace Pending

def map (f : α → β) (p : Pending α) : Pending β := ⟨p.statement, f ∘ p.finish⟩

/-- What comes of it on a database. -/
def on (p : Pending α) (db : Database) : Except QueryError α :=
  ((p.statement.run db).mapError fun e => .executionFailed e.message).map p.finish

theorem on_map (f : α → β) (p : Pending α) (db : Database) : (p.map f).on db = (p.on db).map f := by
  unfold on map
  cases p.statement.run db with
  | error e => rfl
  | ok rows => rfl

theorem on_eq_error {p : Pending α} {db : Database} {e : QueryError} (h : p.on db = .error e) :
    ∃ reason, e = .executionFailed reason := by
  unfold on at h
  cases hrun : p.statement.run db with
  | error failure =>
    rw [hrun] at h
    exact ⟨failure.message, (Except.error.inj h).symm⟩
  | ok rows =>
    rw [hrun] at h
    cases h

end Pending

/-! ## Listings -/

namespace ListingQuery

/-- The page that the rows of the statement are. -/
def pending (q : ListingQuery) (r : Resource) (tenant : String) (limits : QueryLimits) :
    Except QueryError (Pending RecordPage) :=
  (compile q.filter r.schema tenant q.sort).map fun c =>
    { statement := c.select (limits.clamp q.limit) (effectiveOffset q.offset)
      finish := fun rows => ⟨rows.map r.schema.recordOf, c.issues.map FilterIssue.message,
        limits.clamp q.limit, effectiveOffset q.offset⟩ }

/-- The page that is left of the loaded ones. The filter is checked before they are loaded. -/
def pendingLoaded (q : ListingQuery) (r : Resource) (tenant : String) (limits : QueryLimits) :
    Except QueryError (Pending RecordPage) :=
  q.filter.checkComplexity.bind fun _ =>
    ((q.loading limits).pending r tenant limits).map (Pending.map fun loaded =>
      ⟨((q.filter.select r.fields loaded.records).drop (effectiveOffset q.offset).toNat).take
          (limits.clamp q.limit).toNat,
        (q.filter.issues r.fields).map FilterIssue.message, limits.clamp q.limit,
        effectiveOffset q.offset⟩)

end ListingQuery

namespace Database

variable (db : Database) (r : Resource) (tenant : String) (limits : QueryLimits)

theorem search_eq_pending (q : ListingQuery) :
    db.search r tenant q limits = (q.pending r tenant limits).bind fun p => p.on db := by
  unfold search ListingQuery.pending
  cases compile q.filter r.schema tenant q.sort with
  | error e => rfl
  | ok c =>
    simp only [bind, Except.bind, Except.map, Pending.on]
    cases (c.select (limits.clamp q.limit) (effectiveOffset q.offset)).run db with
    | error e => rfl
    | ok rows => rfl

theorem searchLoaded_eq_pending (q : ListingQuery) :
    db.searchLoaded r tenant q limits =
      (q.pendingLoaded r tenant limits).bind fun p => p.on db := by
  unfold searchLoaded ListingQuery.pendingLoaded
  rw [← ListingQuery.loading, search_eq_pending]
  cases hcheck : q.filter.checkComplexity with
  | error e => rfl
  | ok _ =>
    have hfilter (records : List Json) : filterRecords r q.filter records =
        .ok (q.filter.select r.fields records, q.filter.issues r.fields) := by
      rw [filterRecords, hcheck]
      rfl
    cases (q.loading limits).pending r tenant limits with
    | error e => rfl
    | ok p =>
      simp only [bind, Except.bind, Except.map, Pending.on_map]
      cases p.on db with
      | error e => rfl
      | ok loaded =>
        simp only [hfilter]
        rfl

end Database

/-- The page that a listing request asks for, by the place where its filter is run. -/
def FilterRequest.pending (q : FilterRequest) (r : Resource) (tenant : String)
    (limits : QueryLimits) : Except QueryError (Pending RecordPage) := do
  let filter ← match q.filter with
    | some j => FilterGroup.ofJson j
    | none => pure .empty
  let query : ListingQuery := ⟨filter, q.sort, q.limit, q.offset⟩
  match q.evaluate with
  | .database => query.pending r tenant limits
  | .memory => query.pendingLoaded r tenant limits

theorem Database.list_eq_pending (db : Database) (r : Resource) (tenant : String)
    (q : FilterRequest) (limits : QueryLimits) :
    db.list r tenant q limits = (q.pending r tenant limits).bind fun p => p.on db := by
  unfold list FilterRequest.pending
  cases hevaluate : q.evaluate with
  | database | memory =>
    simp only [search_eq_pending, searchLoaded_eq_pending]
    cases q.filter with
    | none => rfl
    | some j =>
      dsimp only
      cases FilterGroup.ofJson j with
      | error e => rfl
      | ok filter => rfl

/-! ## Ad-hoc queries and raw statements -/

/-- The records that the rows of the statement are. -/
def AdHocQuery.pending (q : AdHocQuery) (tenant : String) (limits : QueryLimits) :
    Except QueryError (Pending (List Json)) :=
  (q.assemble tenant limits).map fun s => ⟨s, List.map Sql.recordOf⟩

theorem Database.runAdHoc_eq_pending (db : Database) (q : AdHocQuery) (tenant : String)
    (limits : QueryLimits) :
    db.runAdHoc q tenant limits = (q.pending tenant limits).bind fun p => p.on db := by
  unfold runAdHoc AdHocQuery.pending
  cases q.assemble tenant limits with
  | error e => rfl
  | ok s =>
    simp only [bind, Except.bind, Except.map, Pending.on]
    cases s.run db with
    | error e => rfl
    | ok rows => rfl

/-- The first rows of a raw statement that has passed. -/
def Database.readRaw (db : Database) (maxRows : Nat) (statement : String) :
    Except QueryError RawResult :=
  ((Sql.collectRows (fun row => .ok (Sql.recordOf row)) maxRows (db.rawStream statement)).mapError
    fun e => .executionFailed e.message).map fun (rows, truncated) => ⟨rows, truncated⟩

theorem Database.runRaw_eq_readRaw (db : Database) (guard : StatementGuard) (maxRows : Nat)
    (sql : String) :
    db.runRaw guard maxRows sql = (guard.validate sql).bind (db.readRaw maxRows) := by
  unfold runRaw
  cases guard.validate sql with
  | error e => rfl
  | ok statement =>
    simp only [bind, Except.bind, readRaw]
    cases Sql.collectRows (fun row => Except.ok (Sql.recordOf row)) maxRows
      (db.rawStream statement) with
    | error e => rfl
    | ok result => rfl

theorem Database.readRaw_eq_error {db : Database} {maxRows : Nat} {statement : String}
    {e : QueryError} (h : db.readRaw maxRows statement = .error e) :
    ∃ reason, e = .executionFailed reason := by
  unfold readRaw at h
  cases hrun : Sql.collectRows (fun row => Except.ok (Sql.recordOf row)) maxRows
      (db.rawStream statement) with
  | error failure =>
    rw [hrun] at h
    exact ⟨failure.message, (Except.error.inj h).symm⟩
  | ok result =>
    rw [hrun] at h
    cases h

/-! ## Decisions -/

/-- What a request comes to before any row is read. -/
inductive Decision
  | answered (a : Answer)
  | pending (p : Pending Json)
  | raw (statement : String)

namespace Decision

def answer (maxRows : Nat) (db : Database) : Decision → Answer
  | answered a => a
  | pending p => .ofResult id (p.on db)
  | raw statement => .ofResult RawResult.toJson (db.readRaw maxRows statement)

/-- The statement that is run. -/
def statement? : Decision → Option Statement
  | pending p => some p.statement
  | answered _ | raw _ => none

/-- A query error is the answer, and what passes is run. -/
def ofResult (run : α → Decision) : Except QueryError α → Decision
  | .ok a => run a
  | .error e => answered (.queryFailed e)

/-- What is run gives no rejection. -/
theorem not_isRejection_ofResult {encode : α → Json} {x : Except QueryError α}
    (h : ∀ e, x = .error e → ∃ reason, e = .executionFailed reason) :
    ¬ (Answer.ofResult encode x).IsRejection := by
  cases x with
  | ok a => exact (by decide : ¬ (400 ≤ 200 ∧ 200 < 500))
  | error e =>
    obtain ⟨reason, rfl⟩ := h e rfl
    exact (by decide : ¬ (400 ≤ 500 ∧ 500 < 500))

/-- A rejection was decided without the store. -/
theorem eq_answered {d : Decision} {maxRows : Nat} {db : Database}
    (h : (d.answer maxRows db).IsRejection) : d = answered (d.answer maxRows db) := by
  cases d with
  | answered a => rfl
  | pending p => exact absurd h (not_isRejection_ofResult fun e => Pending.on_eq_error)
  | raw statement => exact absurd h (not_isRejection_ofResult fun e => Database.readRaw_eq_error)

theorem answer_ofResult_pending (encode : α → Json) (x : Except QueryError (Pending α))
    (maxRows : Nat) (db : Database) :
    (ofResult (fun p => pending (p.map encode)) x).answer maxRows db =
      .ofResult encode (x.bind fun p => p.on db) := by
  cases x with
  | error e => rfl
  | ok p =>
    simp only [ofResult, answer, Except.bind, Pending.on_map]
    cases p.on db with
    | error e => rfl
    | ok a => rfl

theorem answer_ofResult_raw (x : Except QueryError String) (maxRows : Nat) (db : Database) :
    (ofResult raw x).answer maxRows db =
      .ofResult RawResult.toJson (x.bind (db.readRaw maxRows)) := by
  cases x with
  | error e => rfl
  | ok statement => rfl

end Decision

/-! ## Requests -/

/-- What a route comes to for a request. -/
def Request.handled (settings : Settings) (req : Request) : Route → Except Answer Decision
  | .listing segment => do
    let caller ← req.caller
    let name ← segmentName segment
    let q ← req.decodeBody FilterRequest.parts FilterRequest.decode
    let r ← resourceNamed name
    return .ofResult (fun p => .pending (p.map RecordPage.toJson))
      (q.pending r caller.tenant settings.limits)
  | .adHoc => do
    let caller ← req.admin
    let q ← req.decodeBody AdHocQuery.parts AdHocQuery.decode
    return .ofResult (fun p => .pending (p.map Json.array))
      (q.pending caller.tenant settings.limits)
  | .raw => do
    let _ ← req.admin
    let sql ← req.decodeBody rawStatementParts decodeRawStatement
    return .ofResult .raw (settings.guard.validate sql)
  | route => (handle settings .empty req route).map .answered

theorem map_of_bind (x : Except ε α) (f : α → Except ε β) (g : β → γ) :
    (x >>= f).map g = x >>= fun a => (f a).map g := by
  cases x with
  | error e => rfl
  | ok a => rfl

theorem Decision.map_answer_answered (x : Except Answer Answer) (maxRows : Nat) (db : Database) :
    (x.map answered).map (fun d => d.answer maxRows db) = x := by
  cases x with
  | error a => rfl
  | ok a => rfl

theorem handle_eq_handled (settings : Settings) (db : Database) (req : Request) (route : Route) :
    handle settings db req route =
      (req.handled settings route).map fun d => d.answer settings.maxRows db := by
  cases route with
  | health | fields segment | tables => exact (Decision.map_answer_answered _ _ _).symm
  | listing segment =>
    rw [handle, Request.handled]
    simp only [map_of_bind]
    refine bind_congr fun caller => bind_congr fun name => ?_
    refine bind_congr fun q => bind_congr fun r => ?_
    rw [Database.list_eq_pending]
    exact congrArg Except.ok (Decision.answer_ofResult_pending _ _ _ _).symm
  | adHoc =>
    rw [handle, Request.handled]
    simp only [map_of_bind]
    refine bind_congr fun caller => bind_congr fun q => ?_
    rw [Database.runAdHoc_eq_pending]
    exact congrArg Except.ok (Decision.answer_ofResult_pending _ _ _ _).symm
  | raw =>
    rw [handle, Request.handled]
    simp only [map_of_bind]
    refine bind_congr fun caller => bind_congr fun sql => ?_
    rw [Database.runRaw_eq_readRaw]
    exact congrArg Except.ok (Decision.answer_ofResult_raw _ _ _).symm

/-- What a route comes to, whether its answer was given early or not. -/
def Request.decisionAt (settings : Settings) (req : Request) (route : Route) : Decision :=
  match req.handled settings route with
  | .ok d => d
  | .error a => .answered a

theorem answerRoute_eq (settings : Settings) (db : Database) (req : Request) (route : Route) :
    answerRoute settings db req route =
      (req.decisionAt settings route).answer settings.maxRows db := by
  rw [answerRoute, handle_eq_handled, Request.decisionAt]
  cases req.handled settings route with
  | error a => rfl
  | ok d => rfl

/-- What is asked for by GET is not in the store. -/
theorem answerRoute_of_get {settings : Settings} {db : Database} {req : Request} {route : Route}
    (h : route.method = "GET") :
    answerRoute settings db req route = answerRoute settings .empty req route := by
  cases route with
  | health | fields segment | tables => rfl
  | listing segment | adHoc | raw => exact absurd h (by simp [Route.method])

/-- What a request comes to. -/
def Request.decision (settings : Settings) (req : Request) : Decision :=
  if req.isPreflight then .answered req.answerPreflight
  else
    match Route.ofTarget? req.target with
    | none => .answered .notFound
    | some route =>
      if req.method = route.method then req.decisionAt settings route
      else if req.method = "HEAD" && route.method = "GET" then
        .answered (answerRoute settings .empty req route).withoutEnvelope
      else .answered .methodNotAllowed

/-- The answer is what is decided, carried out on the database. -/
theorem answer_eq_decision (settings : Settings) (db : Database) (req : Request) :
    answer settings db req = (req.decision settings).answer settings.maxRows db := by
  unfold answer Request.decision
  by_cases hpreflight : req.isPreflight = true
  · rw [if_pos hpreflight, if_pos hpreflight]
    rfl
  · rw [if_neg hpreflight, if_neg hpreflight, answerTarget]
    cases Route.ofTarget? req.target with
    | none => rfl
    | some route =>
      dsimp only
      split_ifs with hmethod hhead
      · exact answerRoute_eq settings db req route
      · rw [Bool.and_eq_true, decide_eq_true_eq, decide_eq_true_eq] at hhead
        rw [answerRoute_of_get hhead.2]
        rfl
      · rfl

/-! ## Admission -/

/-- The request is answered by the handler of the route. -/
def Request.Reaches (req : Request) (route : Route) : Prop :=
  Route.ofTarget? req.target = some route ∧
    (req.method = route.method ∨ req.method = "HEAD" ∧ route.method = "GET")

section
variable {settings : Settings} {db : Database} {req : Request} {route : Route} {e : CallerError}

theorem Request.not_isPreflight (h : req.Reaches route) : ¬ req.isPreflight = true := by
  have hmethod : req.method ≠ "OPTIONS" := by
    rcases h.2 with heq | ⟨heq, -⟩
    · rw [heq]
      cases route <;> simp [Route.method]
    · simp [heq]
  simp [isPreflight, hmethod]

/-- A refused caller is answered before anything else is looked at. -/
theorem Request.handled_of_refusal (h : route.access.refusal? req.headers = some e) :
    req.handled settings route = .error (.refused e) := by
  cases route with
  | health | fields segment => cases h
  | listing segment =>
    rw [handled, caller, Access.refusal?_tenant.1 h]
    rfl
  | adHoc | raw =>
    rw [handled, admin, Access.refusal?_admin.1 h]
    rfl
  | tables =>
    rw [handled, handle, admin, Access.refusal?_admin.1 h]
    · rfl
    all_goals simp

theorem answerRoute_of_refusal (h : route.access.refusal? req.headers = some e) :
    answerRoute settings db req route = .refused e := by
  rw [answerRoute_eq, Request.decisionAt, Request.handled_of_refusal h]
  rfl

/-- What gets past the checks of the headers is admitted. -/
theorem Request.admits_of_handled {d : Decision} (h : req.handled settings route = .ok d) :
    route.access.Admits req.headers := by
  rcases Access.refusal?_cases req.headers route.access with ⟨hadmits, -⟩ | ⟨-, e, -, hrefusal⟩
  · exact hadmits
  · rw [handled_of_refusal hrefusal] at h
    cases h

theorem answer_of_refusal (hreach : req.Reaches route)
    (h : route.access.refusal? req.headers = some e) : answer settings db req = .refused e := by
  rw [answer, if_neg (Request.not_isPreflight hreach), answerTarget, hreach.1]
  dsimp only
  rw [answerRoute_of_refusal h]
  rcases hreach.2 with hmethod | ⟨hhead, hget⟩
  · rw [if_pos hmethod]
  · split_ifs with hmethod hboth
    · rfl
    · rfl
    · exact absurd (by simp [hhead, hget]) hboth

/-- A success at the path of a route, other than for a preflight, is for admitted headers. -/
theorem admits_of_success (htarget : Route.ofTarget? req.target = some route)
    (hpreflight : ¬ req.isPreflight = true) (h : (answer settings db req).status = 200) :
    route.access.Admits req.headers := by
  by_cases hreach : req.Reaches route
  · rcases Access.refusal?_cases req.headers route.access with ⟨hadmits, -⟩ | ⟨-, e, -, hrefusal⟩
    · exact hadmits
    · rw [answer_of_refusal hreach hrefusal] at h
      have hstatus : e.status = 200 := h
      have hmem := e.status_mem
      rw [hstatus] at hmem
      exact absurd hmem (by decide)
  · have hmethods := fun hmethod => hreach ⟨htarget, hmethod⟩
    rw [answer, if_neg hpreflight, answerTarget, htarget] at h
    dsimp only at h
    rw [if_neg fun hmethod => hmethods (Or.inl hmethod), if_neg fun hboth => hmethods (Or.inr ?_)]
      at h
    · cases h
    · simpa using hboth

end

/-! ## What is run -/

/-- The statement binds the tenant first, and the tenant column must equal what is bound first. -/
def Sql.Statement.BindsTenant (s : Statement) (tenant : String) : Prop :=
  s.values.head? = some (.text tenant) ∧
    ∃ column, .compare .eq (.column column) (.parameter 1) ∈ s.select.conditions

section
variable {r : Resource} {tenant : String} {limits : QueryLimits}

theorem ListingQuery.bindsTenant_pending {q : ListingQuery} {p : Pending RecordPage}
    (h : q.pending r tenant limits = .ok p) : p.statement.BindsTenant tenant := by
  obtain ⟨c, hc, rfl⟩ := map_eq_ok_iff.1 h
  obtain ⟨-, -, rfl⟩ := compile_eq_ok_iff.1 hc
  exact ⟨rfl, _, q.filter.tenantScope_mem_conditions r.schema tenant (r.schema.orderOf? q.sort)⟩

theorem ListingQuery.bindsTenant_pendingLoaded {q : ListingQuery} {p : Pending RecordPage}
    (h : q.pendingLoaded r tenant limits = .ok p) : p.statement.BindsTenant tenant := by
  obtain ⟨_, -, h⟩ := bind_eq_ok.1 h
  obtain ⟨loading, hloading, rfl⟩ := map_eq_ok_iff.1 h
  show loading.statement.BindsTenant tenant
  exact bindsTenant_pending hloading

theorem FilterRequest.bindsTenant_pending {q : FilterRequest} {p : Pending RecordPage}
    (h : q.pending r tenant limits = .ok p) : p.statement.BindsTenant tenant := by
  unfold pending at h
  cases hfilter : q.filter with
  | none | some _ =>
    rw [hfilter] at h
    obtain ⟨filter, -, h⟩ := bind_eq_ok.1 h
    cases hevaluate : q.evaluate with
    | database =>
      rw [hevaluate] at h
      exact ListingQuery.bindsTenant_pending h
    | memory =>
      rw [hevaluate] at h
      exact ListingQuery.bindsTenant_pendingLoaded h

theorem AdHocQuery.bindsTenant_pending {q : AdHocQuery} {p : Pending (List Json)}
    (h : q.pending tenant limits = .ok p) : p.statement.BindsTenant tenant := by
  obtain ⟨s, hs, rfl⟩ := map_eq_ok_iff.1 h
  obtain ⟨table, columns, orderColumn, tests, rfl, -⟩ := assemble_eq_ok hs
  exact ⟨rfl, table.tenantColumn, List.mem_cons_self⟩

end

/-- A decision of a passed check is the check's result, or an answer. -/
theorem Decision.statement?_ofResult_pending {encode : α → Json}
    {x : Except QueryError (Pending α)} {s : Statement}
    (h : (ofResult (fun p => pending (p.map encode)) x).statement? = some s) :
    ∃ p, x = .ok p ∧ p.statement = s := by
  cases x with
  | error e => cases h
  | ok p => exact ⟨p, rfl, Option.some.inj h⟩

theorem Decision.statement?_ofResult_raw {x : Except QueryError String} :
    (ofResult raw x).statement? = none := by
  cases x with
  | error e => rfl
  | ok statement => rfl

theorem Decision.ofResult_ne_raw {run : α → Pending Json} {x : Except QueryError α}
    {statement : String} : ofResult (fun a => pending (run a)) x ≠ raw statement := by
  cases x with
  | error e => simp [ofResult]
  | ok a => simp [ofResult]

section
variable {settings : Settings} {req : Request} {route : Route} {d : Decision}

theorem Request.namesTenant_of_caller {caller : Caller} (h : req.caller = .ok caller) :
    req.headers.NamesTenant caller.tenant :=
  Caller.namesTenant_of_ofHeaders (mapError_eq_ok h)

theorem Request.namesTenant_of_admin {caller : Caller} (h : req.admin = .ok caller) :
    req.headers.NamesTenant caller.tenant :=
  Caller.namesTenant_of_ofHeaders (Caller.ofHeaders_of_admin (mapError_eq_ok h))

/-- What a handler runs binds the tenant of the headers. -/
theorem Request.bindsTenant_of_handled (h : req.handled settings route = .ok d) {s : Statement}
    (hs : d.statement? = some s) :
    ∃ tenant, req.headers.NamesTenant tenant ∧ s.BindsTenant tenant := by
  -- Only two routes run a statement of the service, and each asks who calls before it reads a body.
  cases route with
  | health | fields segment | tables =>
    rw [handled] at h
    · obtain ⟨a, -, rfl⟩ := map_eq_ok_iff.1 h
      cases hs
    all_goals simp
  | listing segment =>
    obtain ⟨caller, hcaller, h⟩ := bind_eq_ok.1 h
    obtain ⟨name, -, h⟩ := bind_eq_ok.1 h
    obtain ⟨q, -, h⟩ := bind_eq_ok.1 h
    obtain ⟨r, -, h⟩ := bind_eq_ok.1 h
    obtain rfl := Except.ok.inj h
    obtain ⟨p, hp, rfl⟩ := Decision.statement?_ofResult_pending hs
    exact ⟨caller.tenant, namesTenant_of_caller hcaller, FilterRequest.bindsTenant_pending hp⟩
  | adHoc =>
    obtain ⟨caller, hcaller, h⟩ := bind_eq_ok.1 h
    obtain ⟨q, -, h⟩ := bind_eq_ok.1 h
    obtain rfl := Except.ok.inj h
    obtain ⟨p, hp, rfl⟩ := Decision.statement?_ofResult_pending hs
    exact ⟨caller.tenant, namesTenant_of_admin hcaller, AdHocQuery.bindsTenant_pending hp⟩
  | raw =>
    obtain ⟨caller, -, h⟩ := bind_eq_ok.1 h
    obtain ⟨sql, -, h⟩ := bind_eq_ok.1 h
    obtain rfl := Except.ok.inj h
    rw [Decision.statement?_ofResult_raw] at hs
    cases hs

/-- Only raw statements are run as they are. -/
theorem Request.eq_raw_of_handled {statement : String}
    (h : req.handled settings route = .ok (.raw statement)) : route = .raw := by
  cases route with
  | raw => rfl
  | health | fields segment | tables =>
    rw [handled] at h
    · obtain ⟨a, -, ha⟩ := map_eq_ok_iff.1 h
      cases ha
    all_goals simp
  | listing segment =>
    obtain ⟨caller, -, h⟩ := bind_eq_ok.1 h
    obtain ⟨name, -, h⟩ := bind_eq_ok.1 h
    obtain ⟨q, -, h⟩ := bind_eq_ok.1 h
    obtain ⟨r, -, h⟩ := bind_eq_ok.1 h
    exact absurd (Except.ok.inj h) Decision.ofResult_ne_raw
  | adHoc =>
    obtain ⟨caller, -, h⟩ := bind_eq_ok.1 h
    obtain ⟨q, -, h⟩ := bind_eq_ok.1 h
    exact absurd (Except.ok.inj h) Decision.ofResult_ne_raw

/-- A request that does not reach a handler, or is turned away by it, is answered at once. -/
theorem Request.decision_cases (settings : Settings) (req : Request) :
    (∃ route, req.Reaches route ∧ req.handled settings route = .ok (req.decision settings)) ∨
      ∃ a, req.decision settings = .answered a := by
  unfold decision
  by_cases hpreflight : req.isPreflight = true
  · rw [if_pos hpreflight]
    exact Or.inr ⟨_, rfl⟩
  · rw [if_neg hpreflight]
    cases htarget : Route.ofTarget? req.target with
    | none => exact Or.inr ⟨_, rfl⟩
    | some route =>
      dsimp only
      split_ifs with hmethod
      · rw [decisionAt]
        cases hhandled : req.handled settings route with
        | error a => exact Or.inr ⟨a, rfl⟩
        | ok d => exact Or.inl ⟨route, ⟨htarget, Or.inl hmethod⟩, hhandled⟩
      · exact Or.inr ⟨_, rfl⟩
      · exact Or.inr ⟨_, rfl⟩

end

/-! ## The order of decisions -/

/-- What is decided about requests, and in what order. -/
structure Settings.DecidesFirst (settings : Settings) (req : Request) : Prop where
  /-- The request is rejected on all databases or on none. -/
  rejected : ∀ db db',
    (answer settings db req).IsRejection ↔ (answer settings db' req).IsRejection
  /-- A rejection is the same on all databases, in status and body. -/
  rejection : ∀ db db', (answer settings db req).IsRejection →
    answer settings db req = answer settings db' req
  /-- At the path of a route, a request that is no preflight has success with admitted headers
  only. -/
  admitted : ∀ db route, Route.ofTarget? req.target = some route → ¬ req.isPreflight = true →
    (answer settings db req).status = 200 → route.access.Admits req.headers
  /-- Headers that are not admitted are the whole reason for the answer, for any body, resource,
  settings and database. -/
  refused : ∀ route, req.Reaches route → ¬ route.access.Admits req.headers →
    ∃ e : CallerError, e.Explains req.headers ∧ e.status ∈ [401, 400, 403] ∧
      ∀ (settings' : Settings) (db : Database) (req' : Request) (route' : Route),
        req'.headers = req.headers → req'.Reaches route' → route'.access = route.access →
        answer settings' db req' = .refused e
  /-- The store has a part in the answer only through what is decided to be run. -/
  decided : ∀ db, answer settings db req = (req.decision settings).answer settings.maxRows db
  /-- A statement that is run binds the tenant that the headers name. -/
  bound : ∀ s, (req.decision settings).statement? = some s → ∃ route tenant,
    req.Reaches route ∧ route.access.Admits req.headers ∧ req.headers.NamesTenant tenant ∧
    s.BindsTenant tenant
  /-- And statements that are not made here are run for administrators only. -/
  raw : ∀ statement, req.decision settings = .raw statement →
    req.Reaches .raw ∧ Access.admin.Admits req.headers

/-- **Rejections.** They are decided before the data, and refusals before the rest of the
request. -/
theorem Settings.decidesFirst (settings : Settings) (req : Request) :
    settings.DecidesFirst req := by
  have hrejection (db db' : Database) (h : (answer settings db req).IsRejection) :
      answer settings db req = answer settings db' req := by
    rw [answer_eq_decision] at h
    rw [answer_eq_decision, answer_eq_decision settings db', Decision.eq_answered h]
    rfl
  exact {
    rejected := by
      intro db db'
      constructor
      · intro h
        rwa [← hrejection db db' h]
      · intro h
        rwa [← hrejection db' db h]
    rejection := hrejection
    admitted := fun db route htarget hpreflight h => admits_of_success htarget hpreflight h
    refused := by
      intro route _ hnot
      rcases Access.refusal?_cases req.headers route.access with ⟨hadmits, -⟩ | ⟨-, e, he, hrefusal⟩
      · exact absurd hadmits hnot
      · refine ⟨e, he, e.status_mem, ?_⟩
        intro settings' db req' route' hheaders hreach haccess
        refine answer_of_refusal hreach ?_
        rw [hheaders, haccess, hrefusal]
    decided := fun db => answer_eq_decision settings db req
    bound := by
      intro s hs
      rcases req.decision_cases settings with ⟨route, hreach, hhandled⟩ | ⟨a, ha⟩
      · obtain ⟨tenant, hnames, hbinds⟩ := Request.bindsTenant_of_handled hhandled hs
        exact ⟨route, tenant, hreach, Request.admits_of_handled hhandled, hnames, hbinds⟩
      · rw [ha] at hs
        cases hs
    raw := by
      intro statement hraw
      rcases req.decision_cases settings with ⟨route, hreach, hhandled⟩ | ⟨a, ha⟩
      · have hadmits := Request.admits_of_handled hhandled
        rw [hraw] at hhandled
        obtain rfl := Request.eq_raw_of_handled hhandled
        exact ⟨hreach, hadmits⟩
      · rw [hraw] at ha
        cases ha }

end BillingQuery
