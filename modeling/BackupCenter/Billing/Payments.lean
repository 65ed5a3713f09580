import BackupCenter.Billing.Schema

/-!
# Processing a payment

A payment names its tenant, plan and invoice in its external reference. Processing one writes
the invoice and the tenant from what the gateway says about that one payment.
-/
namespace BackupCenter.Billing

open BackupCenter.Lib
open BackupCenter.Tenants (Uuid)

/-! ## External references -/

/-- `f"tenant:{tenant_id}|plan:{plan_id}|invoice:{invoice_id}"` -/
def newExternalReference (ids : UuidText) (tenantId planId invoiceId : Uuid) : String :=
  "tenant:" ++ ids.str tenantId ++ "|plan:" ++ ids.str planId ++ "|invoice:" ++ ids.str invoiceId

/-- `item.split(":", 1)`, if there is a colon. -/
def keyAndValue (item : List Char) : Option (String × String) :=
  if ':' ∈ item then
    some (String.ofList (stripChars (item.takeWhile (· ≠ ':'))),
      String.ofList (stripChars ((item.dropWhile (· ≠ ':')).drop 1)))
  else none

/-- `_parse_external_reference`; a key that comes twice has its last value. -/
def parseExternalReference (reference : String) : List (String × String) :=
  (((stripChars reference.toList).splitOn '|').filterMap keyAndValue).reverse

/-- `refs.get(key) or refs.get(key + "_id")` -/
def refId (refs : List (String × String)) (key : String) : Option String :=
  (Tenants.nonempty (refs.lookup key)).or (Tenants.nonempty (refs.lookup (key ++ "_id")))

/-- What the gateway says about a payment. -/
structure Payment where
  status : String
  externalReference : String
  paymentTypeId : Option String := none
  paymentMethodId : Option String := none

def Payment.refs (p : Payment) : List (String × String) :=
  parseExternalReference (strip p.externalReference)

/-- `_invoice_status_from_payment_status` -/
def invoiceStatusFromPaymentStatus (env : Env) (paymentStatus : String) : InvoiceStatus :=
  let status := env.lower (strip paymentStatus)
  if status = "approved" then .paid
  else if ["pending", "in_process", "in_mediation", "authorized"].contains status then .pending
  else if ["cancelled", "cancelled_by_user", "refunded", "charged_back"].contains status then
    .cancelled
  else .failed

/-- `payment_status` -/
def Payment.statusText (env : Env) (p : Payment) : String := strip (env.lower p.status)

def Payment.invoiceStatus (env : Env) (p : Payment) : InvoiceStatus :=
  invoiceStatusFromPaymentStatus env (p.statusText env)

/-! ## Subscriptions -/

/-- `_cancel_existing_subscriptions` -/
def cancelExistingSubscriptions (tenantId : Uuid) (now : Int) (db : Database) : Database :=
  { db with
    subscriptions := db.subscriptions.modify
      (fun s => s.tenantId = tenantId && [.active, .trial, .pastDue].contains s.status)
      { apply := fun s =>
          { s with status := .canceled, canceledAt := some now, cancelAtPeriodEnd := false } } }

def activated (planId : Uuid) (periodEnd : Int) : Update Tenant where
  apply t :=
    { t with
      planId := some planId
      subscriptionStatus := some .active
      currentPeriodEnd := some periodEnd
      isActive := some true
      billingBlockedAt := none }

/-- `_activate_subscription`; `fresh` is the id of the new row. -/
def activateSubscription (tenantId planId : Uuid) (periodStart periodEnd now : Int) (fresh : Uuid)
    (db : Database) : Except Failure Database := do
  let db := cancelExistingSubscriptions tenantId now db
  let subscriptions ← demand (db.subscriptions.add
    { id := fresh, tenantId := tenantId, planId := planId
      currentPeriodStart := periodStart, currentPeriodEnd := periodEnd }) .integrity
  return { db with subscriptions := subscriptions }.updateTenant tenantId
    (activated planId periodEnd)

/-! ## One payment -/

/-- The row of the invoice after a payment. -/
def recordPayment (paymentId : String) (p : Payment) (status : InvoiceStatus) (now : Int) :
    Update Invoice where
  apply i :=
    { i with
      status := status
      paymentGatewayId := some paymentId
      paymentMethod := some ("mercado_pago:" ++
        ((Tenants.nonempty p.paymentTypeId).or (Tenants.nonempty p.paymentMethodId)).getD "unknown")
      paidAt := if status = .paid then some now else i.paidAt }

def pastDue : Update Tenant where
  apply t := { t with subscriptionStatus := some .pastDue }

/-- The plan of an approved payment: that of the reference, that of the tenant, or the cheapest. -/
def planOfPayment (env : Env) (p : Payment) (tenant : Tenant) (db : Database) : Option Plan :=
  (((refId p.refs "plan").bind env.ids.parse).bind db.plans.find).or
    ((db.planOf tenant).or db.cheapestActivePlan)

/-- `{"handled": ...}` -/
inductive Handled where
  | invoiceNotFound
  | tenantNotFound
  | handled (invoiceId tenantId : Uuid) (paymentStatus : String) (invoiceStatus : InvoiceStatus)
  deriving Repr, DecidableEq

/-- The invoice that the reference of a payment names. -/
def invoiceOfPayment (env : Env) (p : Payment) (db : Database) : Option Invoice :=
  ((refId p.refs "invoice").bind env.ids.parse).bind db.invoices.find

/-- The call of `process_mercadopago_payment`, with what the gateway answers to it. -/
structure PaymentCall where
  paymentId : String
  answer : Except Failure Payment
  now : Int
  /-- the id of a new subscription -/
  fresh : Uuid

/-- What is written for the tenant of the invoice. -/
def settleTenant (env : Env) (p : Payment) (invoice : Invoice) (tenant : Tenant) (now : Int)
    (fresh : Uuid) (db : Database) : Except Failure Database :=
  match p.invoiceStatus env with
  | .paid => do
    let plan ← demand (planOfPayment env p tenant db)
      (.value "Pagamento aprovado, mas nenhum plano ativo foi encontrado.")
    activateSubscription tenant.id plan.id invoice.periodStart invoice.periodEnd now fresh db
  | .failed | .cancelled => return db.updateTenant tenant.id pastDue
  | .draft | .pending => return db

/-- `process_mercadopago_payment`; an exception rolls everything back. -/
def processMercadopagoPayment (env : Env) (c : PaymentCall) (db : Database) :
    Except Failure (Database × Handled) := do
  require (strip env.accessToken ≠ "") (.value "Pagamento online nao configurado.")
  let paymentId := strip c.paymentId
  require (paymentId ≠ "") (.value "payment_id nao informado.")
  let p ← c.answer
  match invoiceOfPayment env p db with
  | none => return (db, .invoiceNotFound)
  | some invoice =>
    let recorded := db.updateInvoice invoice.id
      (recordPayment paymentId p (p.invoiceStatus env) c.now)
    match db.tenants.find invoice.tenantId with
    | none => return (recorded, .tenantNotFound)
    | some tenant =>
      let settled ← settleTenant env p invoice tenant c.now c.fresh recorded
      return (settled, .handled invoice.id tenant.id (p.statusText env) (p.invoiceStatus env))

/-! ## What a call does -/

section Calls

variable {env : Env} {c : PaymentCall} {p : Payment} {db db' : Database} {r : Handled}
  {invoice : Invoice} {tenant : Tenant} {now : Int} {fresh : Uuid}

/-- The row of the invoice is written first. -/
def recordedPayment (env : Env) (c : PaymentCall) (p : Payment) (invoice : Invoice)
    (db : Database) : Database :=
  db.updateInvoice invoice.id (recordPayment (strip c.paymentId) p (p.invoiceStatus env) c.now)

/-- A call that is not rolled back. -/
theorem processed (h : processMercadopagoPayment env c db = .ok (db', r)) :
    ∃ p, c.answer = .ok p ∧
      (invoiceOfPayment env p db = none ∧ db' = db ∧ r = .invoiceNotFound ∨
      ∃ invoice, invoiceOfPayment env p db = some invoice ∧ r ≠ .invoiceNotFound ∧
        (db.tenants.find invoice.tenantId = none ∧ db' = recordedPayment env c p invoice db ∨
        ∃ tenant, db.tenants.find invoice.tenantId = some tenant ∧
          settleTenant env p invoice tenant c.now c.fresh (recordedPayment env c p invoice db) =
            .ok db')) := by
  simp only [processMercadopagoPayment, bind_eq_ok, require_eq_ok] at h
  obtain ⟨-, -, -, -, p, hp, h⟩ := h
  refine ⟨p, hp, ?_⟩
  cases hinvoice : invoiceOfPayment env p db with
  | none =>
    rw [hinvoice] at h
    obtain ⟨hdb, hr⟩ := Prod.mk.inj (Except.ok.inj h)
    exact .inl ⟨rfl, hdb.symm, hr.symm⟩
  | some invoice =>
    rw [hinvoice] at h
    refine .inr ⟨invoice, rfl, ?_⟩
    dsimp only at h
    cases htenant : db.tenants.find invoice.tenantId with
    | none =>
      rw [htenant] at h
      obtain ⟨hdb, hr⟩ := Prod.mk.inj (Except.ok.inj h)
      exact ⟨by rw [← hr]; simp, .inl ⟨rfl, hdb.symm⟩⟩
    | some tenant =>
      rw [htenant] at h
      obtain ⟨settled, hsettled, hpair⟩ := bind_eq_ok.mp h
      obtain ⟨hdb, hr⟩ := Prod.mk.inj (Except.ok.inj hpair)
      exact ⟨by rw [← hr]; simp, .inr ⟨tenant, rfl, hdb ▸ hsettled⟩⟩

/-- The tenant of an approved payment, and the new subscription. -/
theorem settleTenant_paid (hpaid : p.invoiceStatus env = .paid)
    (h : settleTenant env p invoice tenant now fresh db = .ok db') :
    ∃ plan subscriptions, planOfPayment env p tenant db = some plan ∧
      (cancelExistingSubscriptions tenant.id now db).subscriptions.add
        { id := fresh, tenantId := tenant.id, planId := plan.id
          currentPeriodStart := invoice.periodStart, currentPeriodEnd := invoice.periodEnd } =
        some subscriptions ∧
      db' = { db with subscriptions := subscriptions }.updateTenant tenant.id
        (activated plan.id invoice.periodEnd) := by
  unfold settleTenant at h
  rw [hpaid] at h
  simp only [bind_eq_ok, demand_eq_ok, activateSubscription, pure_eq_ok] at h
  obtain ⟨plan, hplan, subscriptions, hadded, rfl⟩ := h
  exact ⟨plan, subscriptions, hplan, hadded, rfl⟩

/-- Whatever is settled, the invoices stay as they were recorded, and the plans as they were. -/
theorem settleTenant_keeps (h : settleTenant env p invoice tenant now fresh db = .ok db') :
    db'.invoices = db.invoices ∧ db'.plans = db.plans := by
  cases hstatus : p.invoiceStatus env with
  | paid =>
    obtain ⟨plan, subscriptions, -, -, rfl⟩ := settleTenant_paid hstatus h
    exact ⟨rfl, rfl⟩
  | _ =>
    unfold settleTenant at h
    rw [hstatus] at h
    obtain rfl := Except.ok.inj h
    exact ⟨rfl, rfl⟩

end Calls

end BackupCenter.Billing
