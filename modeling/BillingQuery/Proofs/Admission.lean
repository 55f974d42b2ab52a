import BillingQuery.Proofs.Isolation

/-!
# Admission

What the headers of a request must say before a route looks at anything else: listings are for a
tenant, and what is under the administrator's paths is for a tenant's administrator.

**Main result (`Access.refusal?_cases`).** Headers are refused iff they are not admitted, and then
for the first check that fails.
-/

namespace BillingQuery

/-! ## Tenant names -/

def IsLetterOrDigit (c : Char) : Prop :=
  ('A' ≤ c ∧ c ≤ 'Z') ∨ ('a' ≤ c ∧ c ≤ 'z') ∨ ('0' ≤ c ∧ c ≤ '9')

/-- One to 128 characters: a letter or a digit, and then letters, digits, underscores, dots and
hyphens. -/
def IsTenantName (s : String) : Prop :=
  s.length ≤ 128 ∧ ∃ first rest, s.toList = first :: rest ∧ IsLetterOrDigit first ∧
    ∀ c ∈ rest, IsLetterOrDigit c ∨ c ∈ ['_', '.', '-']

theorem isAlphanum_iff (c : Char) : c.isAlphanum = true ↔ IsLetterOrDigit c := by
  show ((decide ('A' ≤ c ∧ c ≤ 'Z') || ('a' ≤ c && c ≤ 'z')) || ('0' ≤ c && c ≤ '9')) = true ↔ _
  simp only [Bool.or_eq_true, Bool.and_eq_true, decide_eq_true_eq, IsLetterOrDigit, or_assoc]

theorem isTenantId_iff (s : String) : isTenantId s.toList = true ↔ IsTenantName s := by
  unfold IsTenantName
  rw [← String.length_toList]
  cases hs : s.toList with
  | nil => simp [isTenantId]
  | cons first rest =>
    simp only [isTenantId, Bool.and_eq_true, decide_eq_true_eq, List.all_eq_true, Bool.or_eq_true,
      isAlphanum_iff, List.length_cons, List.mem_cons, List.not_mem_nil, or_false, or_assoc]
    constructor
    · rintro ⟨⟨hfirst, hlength⟩, hrest⟩
      exact ⟨by omega, first, rest, rfl, hfirst, hrest⟩
    · rintro ⟨hlength, _, _, ⟨rfl, rfl⟩, hfirst, hrest⟩
      exact ⟨⟨hfirst, by omega⟩, hrest⟩

/-! ## Headers -/

namespace Headers

/-- The tenant is what the first tenant header says, without the white space around it. -/
def NamesTenant (headers : Headers) (tenant : String) : Prop :=
  ∃ raw, headers.get? tenantHeader = some raw ∧ Text.trim raw = tenant ∧ IsTenantName tenant

/-- The first role header says that the caller is an administrator. -/
def NamesAdmin (headers : Headers) : Prop :=
  ∃ raw, headers.get? roleHeader = some raw ∧ Text.sameFold (Text.trim raw) "admin" = true

end Headers

/-- What a caller has done wrong: the first of the checks that the headers fail. -/
def CallerError.Explains (headers : Headers) : CallerError → Prop
  | .missingTenant => headers.get? tenantHeader = none
  | .malformedTenant =>
    ∃ raw, headers.get? tenantHeader = some raw ∧ ¬ IsTenantName (Text.trim raw)
  | .notAdmin => (∃ tenant, headers.NamesTenant tenant) ∧ ¬ headers.NamesAdmin

/-- A refusal has one of three statuses. -/
theorem CallerError.status_mem (e : CallerError) : e.status ∈ [401, 400, 403] := by
  cases e <;> decide

theorem tenantOfText_eq (raw : String) :
    tenantOfText raw =
      if isTenantId (Text.trim raw).toList then .ok (Text.trim raw)
      else .error .malformedTenant := by
  rw [Text.trim, String.toList_ofList]
  rfl

namespace Caller

variable {headers : Headers}

/-- A caller is either found in the headers, or refused for the tenant. -/
theorem ofHeaders_cases (headers : Headers) :
    (∃ tenant, headers.NamesTenant tenant ∧
        ofHeaders headers = .ok ⟨tenant, .ofText (headers.get? roleHeader)⟩) ∨
      (¬ ∃ tenant, headers.NamesTenant tenant) ∧
        ∃ e : CallerError, e ≠ .notAdmin ∧ e.Explains headers ∧ ofHeaders headers = .error e := by
  cases hraw : headers.get? tenantHeader with
  | none =>
    refine Or.inr ⟨?_, .missingTenant, nofun, hraw, ?_⟩
    · rintro ⟨_, raw, hsome, -⟩
      rw [hraw] at hsome
      cases hsome
    · rw [ofHeaders, hraw]
  | some raw =>
    have hcaller : ofHeaders headers = (tenantOfText raw).map fun tenant =>
        ⟨tenant, .ofText (headers.get? roleHeader)⟩ := by
      rw [ofHeaders, hraw]
      rfl
    rw [hcaller, tenantOfText_eq]
    by_cases hname : IsTenantName (Text.trim raw)
    · rw [if_pos ((isTenantId_iff _).2 hname)]
      exact Or.inl ⟨Text.trim raw, ⟨raw, hraw, rfl, hname⟩, rfl⟩
    · rw [if_neg (mt (isTenantId_iff _).1 hname)]
      refine Or.inr ⟨?_, .malformedTenant, nofun, ⟨raw, hraw, hname⟩, rfl⟩
      rintro ⟨_, raw', hsome, rfl, hname'⟩
      obtain rfl : raw = raw' := Option.some.inj (hraw.symm.trans hsome)
      exact hname hname'

theorem namesTenant_of_ofHeaders {caller : Caller} (h : ofHeaders headers = .ok caller) :
    headers.NamesTenant caller.tenant := by
  rcases ofHeaders_cases headers with ⟨tenant, hnames, hok⟩ | ⟨-, e, -, -, herror⟩
  · obtain rfl := Except.ok.inj (hok.symm.trans h)
    exact hnames
  · rw [h] at herror
    cases herror

theorem ofText_eq_admin_iff :
    Role.ofText (headers.get? roleHeader) = .admin ↔ headers.NamesAdmin := by
  unfold Headers.NamesAdmin Role.ofText
  cases headers.get? roleHeader with
  | none => simp
  | some raw => by_cases h : Text.sameFold (Text.trim raw) "admin" = true <;> simp [h]

/-- An administrator is found in the headers, or refused for the tenant, or for the role. -/
theorem adminOfHeaders_cases (headers : Headers) :
    (∃ tenant, headers.NamesTenant tenant ∧ headers.NamesAdmin ∧
        adminOfHeaders headers = .ok ⟨tenant, .admin⟩) ∨
      (¬ ((∃ tenant, headers.NamesTenant tenant) ∧ headers.NamesAdmin)) ∧
        ∃ e : CallerError, e.Explains headers ∧ adminOfHeaders headers = .error e := by
  have hadmin : adminOfHeaders headers = (ofHeaders headers).bind fun caller =>
      if caller.role = .admin then .ok caller else .error .notAdmin := rfl
  rw [hadmin]
  rcases ofHeaders_cases headers with ⟨tenant, hnames, hok⟩ | ⟨hnone, e, -, he, herror⟩
  · rw [hok]
    by_cases hrole : headers.NamesAdmin
    · have hadmin := ofText_eq_admin_iff.2 hrole
      refine Or.inl ⟨tenant, hnames, hrole, ?_⟩
      rw [Except.bind, hadmin, if_pos rfl]
    · refine Or.inr ⟨fun h => hrole h.2, .notAdmin, ⟨⟨tenant, hnames⟩, hrole⟩, ?_⟩
      exact if_neg (mt ofText_eq_admin_iff.1 hrole)
  · refine Or.inr ⟨fun h => hnone h.1, e, he, ?_⟩
    rw [herror]
    rfl

end Caller

/-! ## Routes -/

/-- For whom a route is. -/
inductive Access
  | anyone
  | tenant
  | admin
deriving DecidableEq

namespace Access

/-- The headers that are let in. -/
def Admits (headers : Headers) : Access → Prop
  | anyone => True
  | tenant => ∃ name, headers.NamesTenant name
  | admin => (∃ name, headers.NamesTenant name) ∧ headers.NamesAdmin

/-- Why the headers are not let in. -/
def refusal? (headers : Headers) : Access → Option CallerError
  | anyone => none
  | tenant => match Caller.ofHeaders headers with
    | .ok _ => none
    | .error e => some e
  | admin => match Caller.adminOfHeaders headers with
    | .ok _ => none
    | .error e => some e

theorem refusal?_tenant {headers : Headers} {e : CallerError} :
    tenant.refusal? headers = some e ↔ Caller.ofHeaders headers = .error e := by
  unfold refusal?
  cases Caller.ofHeaders headers with
  | ok caller => simp
  | error e' => simp

theorem refusal?_admin {headers : Headers} {e : CallerError} :
    admin.refusal? headers = some e ↔ Caller.adminOfHeaders headers = .error e := by
  unfold refusal?
  cases Caller.adminOfHeaders headers with
  | ok caller => simp
  | error e' => simp

/-- **Admission.** What is not admitted is refused, for the first check that fails. -/
theorem refusal?_cases (headers : Headers) (access : Access) :
    (access.Admits headers ∧ access.refusal? headers = none) ∨
      (¬ access.Admits headers ∧ ∃ e : CallerError, e.Explains headers ∧
        access.refusal? headers = some e) := by
  cases access with
  | anyone => exact Or.inl ⟨trivial, rfl⟩
  | tenant =>
    unfold refusal?
    rcases Caller.ofHeaders_cases headers with ⟨name, hnames, h⟩ | ⟨hnone, e, -, he, h⟩
    · rw [h]
      exact Or.inl ⟨⟨name, hnames⟩, rfl⟩
    · rw [h]
      exact Or.inr ⟨hnone, e, he, rfl⟩
  | admin =>
    unfold refusal?
    rcases Caller.adminOfHeaders_cases headers with ⟨name, hnames, hadmin, h⟩ | ⟨hnone, e, he, h⟩
    · rw [h]
      exact Or.inl ⟨⟨⟨name, hnames⟩, hadmin⟩, rfl⟩
    · rw [h]
      exact Or.inr ⟨hnone, e, he, rfl⟩

end Access

namespace Route

def access : Route → Access
  | health | fields _ => .anyone
  | listing _ => .tenant
  | tables | adHoc | raw => .admin

end Route
end BillingQuery
