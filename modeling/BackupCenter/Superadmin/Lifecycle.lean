import BackupCenter.Billing.Monotone
import BackupCenter.Superadmin.Tenants

/-!
# The life cycle of a tenant

Six operations write `is_active`: the four tenant pages, the billing policy, and the processing of
a payment. All but the last look at `deleted_at` first, so a tenant in the trash stays inactive as
long as no payment of its invoices is approved.
-/
namespace BackupCenter.Superadmin

open BackupCenter.Lib
open BackupCenter.Tenants (Uuid)
open BackupCenter.Billing (Tenant Database Usage PaymentCall Invoice)

inductive LifecycleEvent where
  | edit (session : Auth.Cookie) (tenantId : Option Uuid) (form : TenantForm) (usage : Usage)
  | toggleActive (session : Auth.Cookie) (tenantId : Option Uuid)
  | delete (session : Auth.Cookie) (tenantId : Option Uuid) (deleteReason : Option String)
      (now : Int)
  | restore (session : Auth.Cookie) (tenantId : Option Uuid)
  | enforceAccessPolicy (now : Int)
  | payment (c : PaymentCall)

/-- The database after a transaction, which is rolled back when it fails. -/
def committed {ρ α : Type} (db : Database) : Except ρ (Database × α) → Database
  | .ok done => done.1
  | .error _ => db

/-- One operation on the tenants. -/
def perform (env : Env) (db : Database) : LifecycleEvent → Database
  | .edit session tenantId form usage =>
    committed db (editTenant env session tenantId form usage db)
  | .toggleActive session tenantId => committed db (toggleTenantActive session tenantId db)
  | .delete session tenantId deleteReason now =>
    committed db (deleteTenant env session tenantId deleteReason now db)
  | .restore session tenantId => committed db (restoreTenant session tenantId db)
  | .enforceAccessPolicy now => (Billing.enforceAccessPolicy now db).1
  | .payment c => committed db (Billing.processMercadopagoPayment env.toEnv c db)

def lifecycleStep (env : Env) (db : Database) (e : LifecycleEvent) : Option Database :=
  some (perform env db e)

/-- The tenant of the invoice that the answer to a call names. -/
def tenantOfPayment (env : Env) (c : PaymentCall) (db : Database) : Option Tenant :=
  (c.answer.toOption.bind fun p => Billing.invoiceOfPayment env.toEnv p db).bind fun invoice =>
    db.tenants.find invoice.tenantId

/-- The answer to the call is an approval. -/
def approves (env : Env) (c : PaymentCall) : Prop :=
  ∀ p ∈ c.answer.toOption, p.invoiceStatus env.toEnv = .paid

/-- No payment is approved for a tenant in the trash. -/
def PaidOutsideTrash (env : Env) (db : Database) : LifecycleEvent → Prop
  | .payment c => approves env c → ∀ t ∈ tenantOfPayment env c db, t.deletedAt = none
  | _ => True

instance (env : Env) (c : PaymentCall) : Decidable (approves env c) :=
  inferInstanceAs (Decidable (∀ p ∈ c.answer.toOption, _))

instance (env : Env) (db : Database) : ∀ e, Decidable (PaidOutsideTrash env db e)
  | .payment c => inferInstanceAs (Decidable (approves env c → ∀ t ∈ tenantOfPayment env c db, _))
  | .edit .. | .toggleActive .. | .delete .. | .restore .. | .enforceAccessPolicy .. =>
    inferInstanceAs (Decidable True)

/-- A tenant in the trash is inactive. -/
def TrashInactive (db : Database) : Prop := ∀ t ∈ db.tenants, t.deletedAt ≠ none → active t = false

/-- The tenant as the login sees it. -/
def companyOf (db : Database) (t : Tenant) : Auth.Company where
  id := t.id
  slug := t.slug
  accessUnlimited := t.accessUnlimited
  plan := (db.planOf t).map fun p => ⟨some p.maxUsers⟩
  isActive := t.isActive
  billingBlockedAt := t.billingBlockedAt.map Int.toNat
  deletedAt := t.deletedAt.map Int.toNat

/-- No user of a tenant in the trash gets past the password: the cookie stays as it was. -/
def LoginShut (db : Database) : Prop :=
  ∀ (env : Auth.Env) (form : Auth.LoginForm) (clientIp newSecret : String) (now : Nat)
    (cookie : Auth.Cookie) (site : Auth.Site) (user : Auth.Account),
    site.db.companies = db.tenants.rows.map (companyOf db) →
    Auth.authenticateUser env site.db form = .ok (some user) → user.role ≠ .superAdmin →
    (∃ t ∈ db.tenants, t.deletedAt ≠ none ∧ user.tenantId = some t.id) →
    let done := Auth.login env form clientIp newSecret now cookie site
    done.cookie = cookie ∧ done.opened = none ∧ done.stored = none

/-- The operation is on this tenant. The policy is on no tenant in the trash. -/
def LifecycleEvent.on (env : Env) (id : Uuid) (db : Database) : LifecycleEvent → Prop
  | edit _ tenantId _ _ | toggleActive _ tenantId | delete _ tenantId _ _ | restore _ tenantId =>
    tenantId = some id
  | enforceAccessPolicy _ => False
  | payment c => ∃ t, tenantOfPayment env c db = some t ∧ t.id = id

/-- A tenant that is restored is as active as it was before it was deleted, unless it is blocked,
has not paid yet, or is canceled. -/
def RestoresActive (env : Env) (id : Uuid) (db : Database) : Prop :=
  ∀ session deleteReason now db₁ r es db₂ session',
    deleteTenant env session (some id) deleteReason now db = .ok (db₁, r) →
    Along (lifecycleStep env) (fun db e => ¬ e.on env id db) db₁ es →
    exec (lifecycleStep env) db₁ es = some db₂ → session'.userRole = some .superAdmin →
    ∃ t t' db₃ r', db.tenants.find id = some t ∧
      restoreTenant session' (some id) db₂ = .ok (db₃, r') ∧ db₃.tenants.find id = some t' ∧
      t'.deletedAt = none ∧
      t'.isActive = some (active t && !(t.billingBlockedAt.isSome ||
        t.subscriptionStatus = some .pendingPayment || t.subscriptionStatus = some .canceled))

section Steps

variable {env : Env} {db db' : Database} {e : LifecycleEvent} {c : PaymentCall} {id : Uuid}
  {t : Tenant} {p : Tenant → Bool} {f : Update Tenant}

theorem committed_of {ρ α : Type} {P : Database → Prop} {x : Except ρ (Database × α)} (h : P db)
    (hok : ∀ db' a, x = .ok (db', a) → P db') : P (committed db x) := by
  cases hx : x with
  | error r => exact h
  | ok done => exact hok done.1 done.2 hx

theorem tenantOfPayment_find (h : tenantOfPayment env c db = some t) :
    db.tenants.find t.id = some t := by
  obtain ⟨invoice, -, hfind⟩ := Option.bind_eq_some_iff.mp h
  exact Table.find_eq_some.mpr ⟨(Table.find_eq_some.mp hfind).1, rfl⟩

/-- What a payment writes in the tenants: at most the row of its own tenant. -/
theorem payment_tenants {r : Billing.Handled}
    (hrun : Billing.processMercadopagoPayment env.toEnv c db = .ok (db', r)) :
    db'.tenants = db.tenants ∨ ∃ t f, tenantOfPayment env c db = some t ∧
      db'.tenants = db.tenants.modify (fun row => row.id = t.id) f ∧
      (f = Billing.pastDue ∨
        approves env c ∧ ∃ planId periodEnd, f = Billing.activated planId periodEnd) := by
  obtain ⟨p, hp, hcases⟩ := Billing.processed hrun
  rcases hcases with ⟨-, rfl, -⟩ | ⟨invoice, hinvoice, -, ⟨-, rfl⟩ | ⟨t, ht, hsettled⟩⟩
  · exact .inl rfl
  · exact .inl rfl
  have hof : tenantOfPayment env c db = some t := by
    rw [tenantOfPayment, hp, Except.toOption, Option.bind_some, hinvoice, Option.bind_some, ht]
  obtain ⟨hpaid, hfailed, hpending⟩ := Billing.tenants_settled hsettled
  cases hstatus : p.invoiceStatus env.toEnv with
  | paid =>
    obtain ⟨planId, htenants⟩ := hpaid hstatus
    refine .inr ⟨t, _, hof, htenants, .inr ⟨?_, planId, _, rfl⟩⟩
    intro q hq
    rw [hp] at hq
    obtain rfl := Option.mem_some_iff.mp hq
    exact hstatus
  | failed => exact .inr ⟨t, _, hof, hfailed (.inl hstatus), .inl rfl⟩
  | cancelled => exact .inr ⟨t, _, hof, hfailed (.inr hstatus), .inl rfl⟩
  | draft =>
    rw [hpending (.inl hstatus)]
    exact .inl rfl
  | pending =>
    rw [hpending (.inr hstatus)]
    exact .inl rfl

/-- The trash stays inactive when no row that is written ends up active in the trash. -/
theorem TrashInactive.modify (h : TrashInactive db) (hdb : db'.tenants = db.tenants.modify p f)
    (hf : ∀ t ∈ db.tenants, p t = true → (f.apply t).deletedAt ≠ none →
      active (f.apply t) = false) : TrashInactive db' := by
  intro row hrow hdeleted
  rw [hdb] at hrow
  obtain ⟨t, ht, rfl⟩ := Table.mem_modify.mp hrow
  split at hdeleted
  next hp =>
    rw [if_pos hp]
    exact hf t ht hp hdeleted
  next hp =>
    rw [if_neg hp]
    exact h t ht hdeleted

/-- The one row that is written is the one that was looked up. -/
theorem TrashInactive.update (h : TrashInactive db) (hfind : db.tenants.find t.id = some t)
    (hf : (f.apply t).deletedAt ≠ none → active (f.apply t) = false) :
    TrashInactive (db.updateTenant t.id f) := by
  apply h.modify (p := fun row => row.id = t.id) rfl
  intro row hrow hid hdeleted
  obtain rfl := Table.eq_of_key hrow (Table.find_eq_some.mp hfind).1 (of_decide_eq_true hid)
  exact hf hdeleted

/-- One operation keeps the trash inactive, unless it approves a payment of a tenant in it. -/
theorem TrashInactive.step (h : TrashInactive db) (hok : PaidOutsideTrash env db e) :
    TrashInactive (perform env db e) := by
  cases e with
  | edit session tenantId form usage =>
    apply committed_of h
    intro db' r hrun
    obtain ⟨t, -, hfind, hkept, plan, rfl⟩ := editTenant_ok hrun
    exact h.update hfind fun hdeleted => absurd hkept hdeleted
  | toggleActive session tenantId =>
    apply committed_of h
    intro db' r hrun
    obtain ⟨t, -, hfind, hkept, rfl⟩ := toggleTenantActive_ok hrun
    exact h.update hfind fun hdeleted => absurd hkept hdeleted
  | delete session tenantId deleteReason now =>
    apply committed_of h
    intro db' r hrun
    obtain ⟨t, -, hfind, -, rfl⟩ := deleteTenant_ok hrun
    exact h.update hfind fun _ => rfl
  | restore session tenantId =>
    apply committed_of h
    intro db' r hrun
    obtain ⟨t, -, hfind, rfl⟩ := restoreTenant_ok hrun
    exact h.update hfind fun hdeleted => absurd rfl hdeleted
  | enforceAccessPolicy now =>
    apply h.modify (p := Tenant.underPolicy) rfl
    intro t ht hunder hdeleted
    -- the policy changes no `deleted_at`, and looks only at tenants without one
    obtain ⟨-, hkept⟩ := Bool.and_eq_true_iff.mp hunder
    have hsame : ((Billing.enforcement db now).apply t).deletedAt = t.deletedAt := by
      show (Billing.enforceTenant (db.planOf t) now t).deletedAt = _
      unfold Billing.enforceTenant
      dsimp only
      split_ifs <;> rfl
    exact absurd (hsame.trans (Option.isNone_iff_eq_none.mp hkept)) hdeleted
  | payment c =>
    apply committed_of h
    intro db' r hrun
    rcases payment_tenants hrun with hsame | ⟨t, f, hof, hdb, hf⟩
    · intro row hrow
      rw [hsame] at hrow
      exact h row hrow
    apply h.modify hdb
    intro row hrow hid hdeleted
    rcases hf with rfl | ⟨happroved, planId, periodEnd, rfl⟩
    · exact h row hrow hdeleted
    · obtain rfl := Table.eq_of_key hrow (Table.find_eq_some.mp (tenantOfPayment_find hof)).1
        (of_decide_eq_true hid)
      exact absurd (hok happroved row hof) hdeleted

/-- An operation on other tenants leaves a tenant in the trash alone. -/
theorem find_perform (hfind : db.tenants.find id = some t) (hdeleted : t.deletedAt ≠ none)
    (hother : ¬ e.on env id db) : (perform env db e).tenants.find id = some t := by
  have hupdate : ∀ other f, db.tenants.find other.id = some other → some other.id ≠ some id →
      (db.updateTenant other.id f).tenants.find id = some t := by
    intro other f _ hne
    rw [Billing.find_updateTenant_ne fun heq => hne (congrArg some heq.symm)]
    exact hfind
  cases e with
  | edit session tenantId form usage =>
    apply committed_of (P := fun d => d.tenants.find id = some t) hfind
    intro db' r hrun
    obtain ⟨other, hid, hrow, -, plan, rfl⟩ := editTenant_ok hrun
    exact hupdate other _ hrow (hid ▸ hother)
  | toggleActive session tenantId =>
    apply committed_of (P := fun d => d.tenants.find id = some t) hfind
    intro db' r hrun
    obtain ⟨other, hid, hrow, -, rfl⟩ := toggleTenantActive_ok hrun
    exact hupdate other _ hrow (hid ▸ hother)
  | delete session tenantId deleteReason now =>
    apply committed_of (P := fun d => d.tenants.find id = some t) hfind
    intro db' r hrun
    obtain ⟨other, hid, hrow, -, rfl⟩ := deleteTenant_ok hrun
    exact hupdate other _ hrow (hid ▸ hother)
  | restore session tenantId =>
    apply committed_of (P := fun d => d.tenants.find id = some t) hfind
    intro db' r hrun
    obtain ⟨other, hid, hrow, rfl⟩ := restoreTenant_ok hrun
    exact hupdate other _ hrow (hid ▸ hother)
  | enforceAccessPolicy now =>
    have hunder : t.underPolicy = false := by
      unfold Tenant.underPolicy
      rw [Option.isNone_eq_false_iff.mpr (Option.isSome_iff_ne_none.mpr hdeleted), Bool.and_false]
    show (db.tenants.modify Tenant.underPolicy _).find id = some t
    rw [Table.find_modify, hfind, Option.map_some, hunder, if_neg Bool.false_ne_true]
  | payment c =>
    apply committed_of (P := fun d => d.tenants.find id = some t) hfind
    intro db' r hrun
    rcases payment_tenants hrun with hsame | ⟨other, f, hof, hdb, -⟩
    · rw [hsame]
      exact hfind
    · have hne : id ≠ other.id := fun heq => hother ⟨other, hof, heq.symm⟩
      rw [hdb]
      exact (Table.find_modify_ne hne).trans hfind

theorem find_run {es : List LifecycleEvent} (hfind : db.tenants.find id = some t)
    (hdeleted : t.deletedAt ≠ none)
    (hother : Along (lifecycleStep env) (fun db e => ¬ e.on env id db) db es)
    (hrun : exec (lifecycleStep env) db es = some db') : db'.tenants.find id = some t := by
  have hstep : ∀ d e d', d.tenants.find id = some t → ¬ e.on env id d →
      lifecycleStep env d e = some d' → d'.tenants.find id = some t := by
    intro d e d' hd hnot hs
    rw [← Option.some.inj hs]
    exact find_perform hd hdeleted hnot
  exact exec_invariant hstep hfind hother hrun

/-- Deleting keeps what restoring looks at. -/
theorem restoresActive (env : Env) (id : Uuid) (db : Database) : RestoresActive env id db := by
  intro session deleteReason now db₁ r es db₂ session' hdelete hother hrun hadmin
  obtain ⟨t, hid, hfind, -, rfl⟩ := deleteTenant_ok hdelete
  obtain rfl := Option.some.inj hid
  have hrow : (db.updateTenant t.id (trashed session deleteReason now)).tenants.find t.id =
      some ((trashed session deleteReason now).apply t) := by
    rw [Billing.find_updateTenant_self, hfind]
    rfl
  have hlast := find_run hrow (by simp [trashed]) hother hrun
  obtain ⟨r', hrestore⟩ := restoreTenant_of (t := (trashed session deleteReason now).apply t)
    hadmin hlast rfl
  have hback : (db₂.updateTenant t.id restored).tenants.find t.id =
      some (restored.apply ((trashed session deleteReason now).apply t)) := by
    rw [Billing.find_updateTenant_self, hlast]
    rfl
  refine ⟨t, _, _, r', hfind, hrestore, hback, rfl, ?_⟩
  show some (canReactivate _) = _
  unfold canReactivate
  cases hblocked : t.billingBlockedAt <;> simp [trashed, hblocked]

/-- The login looks at `is_active`. -/
theorem TrashInactive.loginShut (h : TrashInactive db) : LoginShut db := by
  intro aenv form clientIp newSecret now cookie site user hcompanies hknown hrole hof
  obtain ⟨t, ht, hdeleted, htenant⟩ := hof
  have hfound : Auth.inactiveTenantOf site.db user = some (companyOf db t) := by
    have hrow : site.db.tenantOf user = some (companyOf db t) := by
      rw [Auth.AuthDb.tenantOf, htenant, Option.bind_some, hcompanies, List.find?_map]
      have hfind : db.tenants.find t.id = some t := Table.find_eq_some.mpr ⟨ht, rfl⟩
      show (db.tenants.find t.id).map (companyOf db) = _
      rw [hfind, Option.map_some]
    rw [Auth.inactiveTenantOf, if_pos hrole, hrow, Option.filter_some, if_pos]
    exact decide_eq_true (of_decide_eq_false (h t ht hdeleted))
  unfold Auth.login
  dsimp only
  split
  · exact ⟨rfl, rfl, rfl⟩
  · rw [hknown]
    dsimp only
    rw [hfound]
    exact ⟨rfl, rfl, rfl⟩

end Steps

def admin : Auth.Cookie where
  userId := some 9
  userRole := some .superAdmin

theorem acme_inactive : TrashInactive (Billing.acmeDb Billing.acme) := by
  intro t ht hdeleted
  obtain rfl := List.mem_singleton.mp ht
  exact absurd rfl hdeleted

/-- The tenant is deleted; then its invoice is paid. -/
def paidInTrash : List LifecycleEvent :=
  [.delete admin (some 2) (some "teste") 0, .payment (Billing.acmeCall "1" "approved" 10)]

/-- A tenant pays, is deleted, survives the policy, and is restored. -/
def restoredRun : List LifecycleEvent :=
  [.payment (Billing.acmeCall "1" "approved" 10), .delete admin (some 2) none day,
    .enforceAccessPolicy (90 * day), .restore admin (some 2)]

end BackupCenter.Superadmin
