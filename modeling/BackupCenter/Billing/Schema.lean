import BackupCenter.Lib.Guarded
import BackupCenter.Lib.Table
import BackupCenter.Lib.Text
import BackupCenter.Lib.Zones
import BackupCenter.Tenants.Schema

/-!
# The database of the billing pages

Plans, tenants, invoices and subscriptions with the columns that billing and the life cycle of a
tenant read or write. Instants are naive UTC, in microseconds.
-/
namespace BackupCenter.Billing

open BackupCenter.Lib
open BackupCenter.Tenants (Uuid)

/-- The values of `Tenant.subscription_status`. -/
inductive TenantStatus where
  | trial
  | active
  | pendingPayment
  | pastDue
  | canceled
  deriving Repr, DecidableEq

inductive SubscriptionStatus where
  | active
  | pastDue
  | canceled
  | trial
  deriving Repr, DecidableEq

inductive InvoiceStatus where
  | draft
  | pending
  | paid
  | failed
  | cancelled
  deriving Repr, DecidableEq

structure Plan where
  id : Uuid
  name : String
  priceMonthly : Int
  priceYearly : Int
  billingPeriodDays : Int := 30
  paymentGraceDays : Int := 3
  maxDevices : Int
  maxUsers : Int
  storageQuotaGb : Int := 10
  isActive : Option Bool := some true
  deriving DecidableEq

structure Tenant where
  id : Uuid
  name : String
  slug : String
  companyName : Option String := none
  email : String
  isActive : Option Bool := some true
  trialEndsAt : Option Int := none
  subscriptionStatus : Option TenantStatus := some .trial
  currentPeriodEnd : Option Int := none
  billingBlockedAt : Option Int := none
  deletedAt : Option Int := none
  deletedBy : Option Uuid := none
  deleteReason : Option String := none
  deletedWasActive : Bool := false
  planId : Option Uuid := none
  accessUnlimited : Bool := false
  protectedSystemTenant : Bool := false
  deriving DecidableEq

structure Invoice where
  id : Uuid
  tenantId : Uuid
  amount : Int
  periodStart : Int
  periodEnd : Int
  status : InvoiceStatus := .draft
  dueDate : Int
  paidAt : Option Int := none
  paymentMethod : Option String := none
  paymentGatewayId : Option String := none
  deriving DecidableEq

structure Subscription where
  id : Uuid
  tenantId : Uuid
  planId : Uuid
  status : SubscriptionStatus := .active
  currentPeriodStart : Int
  currentPeriodEnd : Int
  cancelAtPeriodEnd : Bool := false
  canceledAt : Option Int := none
  deriving DecidableEq

instance : Keyed Plan Uuid := ⟨Plan.id⟩
instance : Keyed Tenant Uuid := ⟨Tenant.id⟩
instance : Keyed Invoice Uuid := ⟨Invoice.id⟩
instance : Keyed Subscription Uuid := ⟨Subscription.id⟩

structure Database where
  plans : Table Plan := .empty
  tenants : Table Tenant := .empty
  invoices : Table Invoice := .empty
  subscriptions : Table Subscription := .empty

/-- `str(id)` and `uuid.UUID(text)`: a printed id is read back, and has none of the characters
that an external reference is taken apart at. -/
structure UuidText where
  str : Uuid → String
  parse : String → Option Uuid
  parse_str : ∀ id, parse (str id) = some id
  parse_empty : parse "" = none
  plain : ∀ id, ∀ c ∈ (str id).toList, c ≠ '|' ∧ c ≠ ':' ∧ isSpace c = false

/-- For concrete runs: an id as that many digits. -/
def UuidText.unary : UuidText where
  str id := String.ofList (List.replicate (id + 1) '0')
  parse text := if text = "" then none else some (text.length - 1)
  parse_str id := by simp [String.ext_iff]
  parse_empty := rfl
  plain id c hc := by
    rw [String.toList_ofList] at hc
    obtain rfl := (List.mem_replicate.mp hc).2
    decide

/-- What billing takes from the runtime and the configuration. -/
structure Env where
  /-- `str.lower` -/
  lower : String → String
  ids : UuidText
  /-- `f"{n / 1024**3:.2f}"` -/
  gigabytes : Int → String
  /-- `strftime("%d/%m/%Y")` -/
  ddmmyyyy : Int → String
  /-- `mercado_pago_access_token` -/
  accessToken : String
  /-- `mercado_pago_use_sandbox` -/
  useSandbox : Bool := false

def Env.ascii : Env where
  lower := asciiLower
  ids := .unary
  gigabytes _ := "0.00"
  ddmmyyyy _ := "01/01/2026"
  accessToken := "token"

/-- The exceptions of the billing code, with their texts. -/
inductive Failure where
  /-- `ValueError` -/
  | value (message : String)
  /-- `MercadoPagoError` -/
  | gateway (message : String)
  /-- a constraint of the database -/
  | integrity
  deriving Repr, DecidableEq

/-! ## Queries -/

namespace Database

variable (db : Database)

/-- `tenant.plan` -/
def planOf (t : Tenant) : Option Plan := t.planId.bind db.plans.find

/-- `query(Plan).filter(is_active).order_by(price_monthly).first()` -/
def cheapestActivePlan : Option Plan :=
  ((db.plans.rows.filter fun p => p.isActive = some true).insertionSort fun a b =>
    a.priceMonthly ≤ b.priceMonthly).head?

/-- Change the tenant with this id. -/
def updateTenant (id : Uuid) (f : Update Tenant) : Database :=
  { db with tenants := db.tenants.modify (fun t => t.id = id) f }

def updateInvoice (id : Uuid) (f : Update Invoice) : Database :=
  { db with invoices := db.invoices.modify (fun i => i.id = id) f }

end Database

section Updates

variable {db : Database} {id other : Uuid}

@[simp] theorem find_updateTenant_self {f : Update Tenant} :
    (db.updateTenant id f).tenants.find id = (db.tenants.find id).map f.apply :=
  Table.find_modify_self

theorem find_updateTenant_ne {f : Update Tenant} (h : other ≠ id) :
    (db.updateTenant id f).tenants.find other = db.tenants.find other :=
  Table.find_modify_ne h

@[simp] theorem find_updateInvoice_self {f : Update Invoice} :
    (db.updateInvoice id f).invoices.find id = (db.invoices.find id).map f.apply :=
  Table.find_modify_self

theorem find_updateInvoice_ne {f : Update Invoice} (h : other ≠ id) :
    (db.updateInvoice id f).invoices.find other = db.invoices.find other :=
  Table.find_modify_ne h

end Updates

end BackupCenter.Billing
