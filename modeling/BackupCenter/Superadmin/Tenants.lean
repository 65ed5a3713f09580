import BackupCenter.Auth.Login
import BackupCenter.Billing.Checkout

/-!
# The tenant pages of the super admin

A tenant is deactivated by hand, moved to the trash and taken out of it again. Each of these
routes looks the tenant up by the id of the URL, and answers a flashed message.
-/
namespace BackupCenter.Superadmin

open BackupCenter.Lib
open BackupCenter.Tenants (Uuid Category)
open BackupCenter.Billing (Plan Tenant TenantStatus Database Usage)

/-- What the routes take from the runtime. -/
structure Env extends Billing.Env where
  /-- `str(e)` of a database error -/
  describe : Tenants.Failure → String

def Env.ascii : Env where
  toEnv := .ascii
  describe _ := ""

/-- The redirect of `check_superadmin`, or a flashed message. -/
inductive Reply where
  | toLogin
  | flash (message : String) (category : Category)
  deriving Repr, DecidableEq

abbrev Result := Except Reply (Database × Reply)

/-- `check_superadmin`: the role that the cookie says. -/
def checkSuperadmin (session : Auth.Cookie) : Except Reply Unit :=
  require (session.userRole = some .superAdmin) .toLogin

/-- The tenant of the URL; the id is the argument as `uuid.UUID` reads it. -/
def tenantOfUrl (tenantId : Option Uuid) (db : Database) : Except Reply Tenant := do
  let tenantUuid ← demand tenantId (.flash "Cliente inválido." .error)
  demand (db.tenants.find tenantUuid) (.flash "Cliente não encontrado." .error)

/-- `TenantAccessService.is_deleted` -/
def isDeleted (t : Tenant) : Bool := t.deletedAt.isSome

@[simp] theorem isDeleted_eq_false {t : Tenant} : isDeleted t = false ↔ t.deletedAt = none := by
  unfold isDeleted
  rw [Option.isSome_eq_false_iff, Option.isNone_iff_eq_none]

def protectedDefaultSlugs : List String := ["ajust-consulting"]

/-! ## `edit_tenant` -/

/-- `_normalize_slug`: what is left of the text in lower case, with single dashes between. -/
def normalizeSlug (env : Env) (raw : Option String) : String :=
  let allowed (c : Char) : Bool := ('a' ≤ c && c ≤ 'z') || ('0' ≤ c && c ≤ '9')
  let chars := (env.lower (strip (raw.getD ""))).toList.map fun c => if allowed c then c else '-'
  String.ofList ("-".toList.intercalate ((chars.splitOn '-').filter (· ≠ [])))

/-- `subscription_status` in the table. -/
def statusTexts : List (String × TenantStatus) :=
  [("trial", .trial), ("active", .active), ("pending_payment", .pendingPayment),
    ("past_due", .pastDue), ("canceled", .canceled)]

def statusText (status : TenantStatus) : String :=
  ((statusTexts.find? fun s => s.2 = status).map Prod.fst).getD ""

structure TenantForm where
  name : Option String := none
  slug : Option String := none
  companyName : Option String := none
  email : Option String := none
  accessUnlimited : Option String := none
  planId : Option String := none
  subscriptionStatus : Option String := none
  isActive : Option String := none

/-- The status that is chosen, the old one when none is, and `trial` for an unknown one. -/
def TenantForm.status (env : Env) (form : TenantForm) (t : Tenant) : TenantStatus :=
  let text := ((Tenants.nonempty form.subscriptionStatus).or
    (t.subscriptionStatus.map statusText)).getD "trial"
  (statusTexts.lookup (env.lower (strip text))).getD .trial

/-- `_parse_plan_uuid`, and the active plan with this id. -/
def TenantForm.selectedPlan (env : Env) (form : TenantForm) (db : Database) : Option Plan :=
  ((env.ids.parse (strip (form.planId.getD ""))).bind db.plans.find).filter fun p =>
    p.isActive = some true

/-- The row of a tenant that was edited. -/
def edited (env : Env) (form : TenantForm) (plan : Option Plan) (t : Tenant) : Tenant :=
  { t with
    name := strip (form.name.getD "")
    slug := normalizeSlug env form.slug
    companyName := (some (strip (form.companyName.getD ""))).filter (· ≠ "")
    email := env.lower (strip (form.email.getD ""))
    isActive := some (Tenants.ticked form.isActive)
    subscriptionStatus := some (form.status env t)
    accessUnlimited := Tenants.ticked form.accessUnlimited
    planId := plan.map Plan.id }

/-- `validate_plan_selection`, when a plan is selected. -/
def validateSelected (env : Env) (usage : Usage) : Option Plan → Except Billing.Failure Unit
  | none => .ok ()
  | some plan => Billing.validatePlanSelection env.toEnv plan usage

/-- The text of an exception in `edit_tenant`. -/
def editFailed (message : String) : Reply := .flash ("Erro ao editar cliente: " ++ message) .error

def Env.text (env : Env) : Billing.Failure → String
  | .value message | .gateway message => message
  | .integrity => env.describe .integrity

/-- `edit_tenant`, sent as a form. -/
def editTenant (env : Env) (session : Auth.Cookie) (tenantId : Option Uuid) (form : TenantForm)
    (usage : Usage) (db : Database) : Result := do
  checkSuperadmin session
  let tenant ← tenantOfUrl tenantId db
  require (isDeleted tenant = false)
    (.flash "Cliente está na lixeira. Restaure antes de editar." .error)
  let plan := form.selectedPlan env db
  let row := edited env form plan tenant
  require (row.name ≠ "" ∧ row.slug ≠ "" ∧ row.email ≠ "")
    (.flash "Nome, slug e e-mail são obrigatórios." .error)
  require (row.accessUnlimited = true ∨ plan.isSome = true)
    (.flash "Todo cliente precisa de um plano ativo ou acesso ilimitado." .error)
  require (∀ other ∈ db.tenants.rows, other.slug = row.slug → other.id = tenant.id)
    (.flash "Esse slug já está em uso por outro cliente." .error)
  orRefuse (validateSelected env usage plan) fun e => editFailed (env.text e)
  require (Tenants.fits 100 (some row.name) ∧ Tenants.fits 50 (some row.slug) ∧
    Tenants.fits 200 row.companyName ∧ Tenants.fits 100 (some row.email))
    (editFailed (env.describe .data))
  return (db.updateTenant tenant.id { apply := edited env form plan },
    .flash "Cliente atualizado com sucesso." .success)

/-! ## `toggle_tenant_active` -/

/-- `bool(tenant.is_active)` -/
def active (t : Tenant) : Bool := t.isActive = some true

def toggled : Update Tenant where
  apply t := { t with isActive := some (!active t) }

def toggleTenantActive (session : Auth.Cookie) (tenantId : Option Uuid) (db : Database) :
    Result := do
  checkSuperadmin session
  let tenant ← tenantOfUrl tenantId db
  require (isDeleted tenant = false)
    (.flash "Cliente está na lixeira. Restaure antes de alterar o status." .error)
  let actionLabel := if active tenant then "desativado" else "ativado"
  return (db.updateTenant tenant.id toggled,
    .flash s!"Cliente {tenant.name} {actionLabel} com sucesso." .success)

/-! ## `delete_tenant` and `restore_tenant` -/

/-- The row of a tenant in the trash. -/
def trashed (session : Auth.Cookie) (deleteReason : Option String) (now : Int) : Update Tenant where
  apply t :=
    { t with
      deletedWasActive := active t
      isActive := some false
      deletedAt := some now
      deletedBy := session.userId
      deleteReason := (some (strip (deleteReason.getD ""))).filter (· ≠ "") }

def deleteTenant (env : Env) (session : Auth.Cookie) (tenantId : Option Uuid)
    (deleteReason : Option String) (now : Int) (db : Database) : Result := do
  checkSuperadmin session
  let tenant ← tenantOfUrl tenantId db
  require (tenant.protectedSystemTenant = false ∧ tenant.slug ∉ protectedDefaultSlugs)
    (.flash "Esse cliente é protegido e não pode ser apagado." .error)
  require (isDeleted tenant = false) (.flash "Cliente já está na lixeira." .warning)
  require (Tenants.fitsText deleteReason)
    (.flash ("Erro ao apagar cliente: " ++ env.describe .data) .error)
  return (db.updateTenant tenant.id (trashed session deleteReason now),
    .flash s!"Cliente {tenant.name} enviado para a lixeira." .success)

/-- `can_reactivate` -/
def canReactivate (t : Tenant) : Bool :=
  t.deletedWasActive && t.billingBlockedAt.isNone &&
    !(t.subscriptionStatus = some .pendingPayment || t.subscriptionStatus = some .canceled)

def restored : Update Tenant where
  apply t :=
    { t with
      isActive := some (canReactivate t)
      deletedAt := none
      deletedBy := none
      deleteReason := none
      deletedWasActive := false }

def restoreTenant (session : Auth.Cookie) (tenantId : Option Uuid) (db : Database) : Result := do
  checkSuperadmin session
  let tenant ← tenantOfUrl tenantId db
  require (isDeleted tenant) (.flash "Cliente não está na lixeira." .warning)
  let note := if canReactivate tenant then ""
    else " O cliente voltou inativo e pode ser revisado antes de reabrir o acesso."
  return (db.updateTenant tenant.id restored,
    .flash (s!"Cliente {tenant.name} restaurado com sucesso." ++ note) .success)

/-! ## What the routes write -/

section Routes

variable {env : Env} {session : Auth.Cookie} {tenantId : Option Uuid} {db db' : Database}
  {r : Reply}

@[simp] theorem tenantOfUrl_eq_ok {t : Tenant} :
    tenantOfUrl tenantId db = .ok t ↔ tenantId = some t.id ∧ db.tenants.find t.id = some t := by
  simp only [tenantOfUrl, bind_eq_ok, demand_eq_ok]
  constructor
  · rintro ⟨id, hid, hfind⟩
    obtain rfl := (Table.find_eq_some.mp hfind).2
    exact ⟨hid, hfind⟩
  · rintro ⟨hid, hfind⟩
    exact ⟨t.id, hid, hfind⟩

/-- Each route writes the one tenant of the URL, and looks at whether it is in the trash. -/
theorem editTenant_ok {form : TenantForm} {usage : Usage}
    (h : editTenant env session tenantId form usage db = .ok (db', r)) :
    ∃ t, tenantId = some t.id ∧ db.tenants.find t.id = some t ∧ t.deletedAt = none ∧
      ∃ plan, db' = db.updateTenant t.id { apply := edited env form plan } := by
  simp only [editTenant, checkSuperadmin, bind_eq_ok, require_eq_ok, tenantOfUrl_eq_ok,
    orRefuse_eq_ok, pure_eq_ok, Prod.mk.injEq] at h
  obtain ⟨-, -, t, ⟨hid, hfind⟩, -, hkept, -, -, -, -, -, -, -, -, -, -, hdb, -⟩ := h
  exact ⟨t, hid, hfind, isDeleted_eq_false.mp hkept, _, hdb.symm⟩

theorem toggleTenantActive_ok (h : toggleTenantActive session tenantId db = .ok (db', r)) :
    ∃ t, tenantId = some t.id ∧ db.tenants.find t.id = some t ∧ t.deletedAt = none ∧
      db' = db.updateTenant t.id toggled := by
  simp only [toggleTenantActive, checkSuperadmin, bind_eq_ok, require_eq_ok, tenantOfUrl_eq_ok,
    pure_eq_ok, Prod.mk.injEq] at h
  obtain ⟨-, -, t, ⟨hid, hfind⟩, -, hkept, hdb, -⟩ := h
  exact ⟨t, hid, hfind, isDeleted_eq_false.mp hkept, hdb.symm⟩

theorem deleteTenant_ok {deleteReason : Option String} {now : Int}
    (h : deleteTenant env session tenantId deleteReason now db = .ok (db', r)) :
    ∃ t, tenantId = some t.id ∧ db.tenants.find t.id = some t ∧ t.deletedAt = none ∧
      db' = db.updateTenant t.id (trashed session deleteReason now) := by
  simp only [deleteTenant, checkSuperadmin, bind_eq_ok, require_eq_ok, tenantOfUrl_eq_ok,
    pure_eq_ok, Prod.mk.injEq] at h
  obtain ⟨-, -, t, ⟨hid, hfind⟩, -, -, -, hkept, -, -, hdb, -⟩ := h
  exact ⟨t, hid, hfind, isDeleted_eq_false.mp hkept, hdb.symm⟩

theorem restoreTenant_ok (h : restoreTenant session tenantId db = .ok (db', r)) :
    ∃ t, tenantId = some t.id ∧ db.tenants.find t.id = some t ∧
      db' = db.updateTenant t.id restored := by
  simp only [restoreTenant, checkSuperadmin, bind_eq_ok, require_eq_ok, tenantOfUrl_eq_ok,
    pure_eq_ok, Prod.mk.injEq] at h
  obtain ⟨-, -, t, ⟨hid, hfind⟩, -, -, hdb, -⟩ := h
  exact ⟨t, hid, hfind, hdb.symm⟩

/-- A super admin restores every tenant in the trash. -/
theorem restoreTenant_of {t : Tenant} (hadmin : session.userRole = some .superAdmin)
    (hfind : db.tenants.find t.id = some t) (hdeleted : isDeleted t = true) :
    ∃ r, restoreTenant session (some t.id) db = .ok (db.updateTenant t.id restored, r) := by
  have hurl : tenantOfUrl (some t.id) db = .ok t := tenantOfUrl_eq_ok.mpr ⟨rfl, hfind⟩
  have hsuper : checkSuperadmin session = .ok () := require_eq_ok.mpr hadmin
  have htrash : require (isDeleted t = true)
      (.flash "Cliente não está na lixeira." .warning : Reply) = .ok () :=
    require_eq_ok.mpr hdeleted
  unfold restoreTenant
  rw [hsuper, hurl]
  exact ⟨_, bind_eq_ok.mpr ⟨(), rfl, bind_eq_ok.mpr ⟨t, rfl, bind_eq_ok.mpr ⟨(), htrash, rfl⟩⟩⟩⟩

end Routes

end BackupCenter.Superadmin
