import BackupCenter.Billing.Payments
import BackupCenter.Billing.Policy

/-!
# Opening a checkout

A checkout is opened for a plan, which creates an invoice, or once more for an invoice that is
not paid. What is asked of the gateway carries the price and the external reference that its
payments will bring back.
-/
namespace BackupCenter.Billing

open BackupCenter.Lib
open BackupCenter.Tenants (Uuid)

/-- What the tenant uses at the moment. -/
structure Usage where
  deviceCount : Int := 0
  userCount : Int := 0
  storageUsedBytes : Int := 0

/-- `TenantAccessService.validate_plan_selection` -/
def validatePlanSelection (env : Env) (plan : Plan) (usage : Usage) : Except Failure Unit := do
  require (usage.deviceCount ≤ plan.maxDevices) (.value
    (s!"Esse plano suporta ate {plan.maxDevices} dispositivos, " ++
      s!"mas este cliente possui {usage.deviceCount}."))
  require (usage.userCount ≤ plan.maxUsers) (.value
    (s!"Esse plano suporta ate {plan.maxUsers} usuarios ativos, " ++
      s!"mas este cliente possui {usage.userCount}."))
  require (plan.storageQuotaGb ≤ 0 ∨
      usage.storageUsedBytes ≤ plan.storageQuotaGb * 1024 * 1024 * 1024) (.value
    (s!"Storage atual ({env.gigabytes usage.storageUsedBytes} GB) " ++
      s!"acima do limite do plano ({plan.storageQuotaGb} GB)."))

/-- `(billing_cycle or "monthly").strip().lower() == "yearly"` -/
def yearly (env : Env) (billingCycle : String) : Bool := env.lower (strip billingCycle) = "yearly"

/-- `_plan_amount_cents` -/
def planAmountCents (env : Env) (plan : Plan) (billingCycle : String) : Except Failure Int :=
  if yearly env billingCycle then do
    require (0 < plan.priceYearly) (.value "Plano nao possui valor anual configurado.")
    return plan.priceYearly
  else return plan.priceMonthly

/-- `_period_delta_days` -/
def periodDeltaDays (env : Env) (plan : Plan) (billingCycle : String) : Int :=
  let customPeriod := planPeriodDays plan
  if 0 < customPeriod then customPeriod
  else if yearly env billingCycle then 365 else 30

/-- What is asked of the gateway. -/
structure PreferencePayload where
  planId : Uuid
  unitPriceCents : Int
  externalReference : String
  billingCycle : String

/-- `_build_preference_payload`; the price is sent in currency units. -/
def buildPreferencePayload (env : Env) (tenant : Tenant) (plan : Plan) (invoiceId : Uuid)
    (amountCents : Int) (billingCycle : String) : PreferencePayload where
  planId := plan.id
  unitPriceCents := amountCents
  externalReference := newExternalReference env.ids tenant.id plan.id invoiceId
  billingCycle := env.lower (strip (if billingCycle = "" then "monthly" else billingCycle))

/-- What the gateway answers. -/
structure Preference where
  id : Option String := none
  initPoint : Option String := none
  sandboxInitPoint : Option String := none

def selectCheckoutUrl (useSandbox : Bool) (p : Preference) : Option String :=
  if useSandbox then (Tenants.nonempty p.sandboxInitPoint).or p.initPoint
  else (Tenants.nonempty p.initPoint).or p.sandboxInitPoint

/-- `create_preference` -/
abbrev Gateway := PreferencePayload → Except Failure Preference

/-- A checkout that was opened, and what was asked of the gateway for it. -/
structure OpenedCheckout where
  checkoutUrl : String
  invoiceId : Uuid
  preferenceId : String
  asked : PreferencePayload

/-- Ask the gateway, and write what the checkout changes in the invoice. -/
def openCheckout (env : Env) (gateway : Gateway) (invoiceId : Uuid) (asked : PreferencePayload)
    (written : String → Update Invoice) (db : Database) :
    Except Failure (Database × OpenedCheckout) := do
  let preference ← gateway asked
  let url ← demand (Tenants.nonempty (selectCheckoutUrl env.useSandbox preference))
    (.gateway "Mercado Pago nao retornou URL de checkout.")
  let preferenceId := (Tenants.nonempty preference.id).getD ""
  return (db.updateInvoice invoiceId (written preferenceId),
    { checkoutUrl := url, invoiceId := invoiceId, preferenceId := preferenceId, asked := asked })

/-- The row of a new invoice. -/
def newInvoice (env : Env) (id : Uuid) (tenant : Tenant) (plan : Plan) (billingCycle : String)
    (amountCents now : Int) : Invoice where
  id := id
  tenantId := tenant.id
  amount := amountCents
  periodStart := now
  periodEnd := now + periodDeltaDays env plan billingCycle * day
  status := .pending
  dueDate := now + day
  paymentMethod := some "mercado_pago"

/-- `create_checkout_for_plan`; the ids are the arguments as `uuid.UUID` reads them, and `fresh`
is the id of the new invoice. -/
def createCheckoutForPlan (env : Env) (gateway : Gateway) (usage : Tenant → Usage)
    (tenantId planId : Option Uuid) (billingCycle : String) (now : Int) (fresh : Uuid)
    (db : Database) : Except Failure (Database × OpenedCheckout) := do
  require (strip env.accessToken ≠ "") (.value "Pagamento online nao configurado.")
  let tenantId ← demand tenantId (.value "tenant_id invalido.")
  let planId ← demand planId (.value "plan_id invalido.")
  let tenant ← demand (db.tenants.find tenantId) (.value "Tenant nao encontrado.")
  let plan ← demand ((db.plans.find planId).filter fun p => p.isActive = some true)
    (.value "Plano nao encontrado ou inativo.")
  validatePlanSelection env plan (usage tenant)
  let amountCents ← planAmountCents env plan billingCycle
  let invoices ← demand
    (db.invoices.add (newInvoice env fresh tenant plan billingCycle amountCents now)) .integrity
  openCheckout env gateway fresh
    (buildPreferencePayload env tenant plan fresh amountCents billingCycle)
    (fun preferenceId => { apply := fun i => { i with paymentGatewayId := some preferenceId } })
    { db with invoices := invoices }

/-- The plan of a checkout that is opened again: that of the tenant, or the cheapest. -/
def planOfReopened (tenant : Tenant) (db : Database) : Option Plan :=
  (db.planOf tenant).or db.cheapestActivePlan

/-- The plan of a checkout is a row of the table. -/
theorem planOfReopened_find {tenant : Tenant} {db : Database} {plan : Plan}
    (h : planOfReopened tenant db = some plan) : db.plans.find plan.id = some plan := by
  apply Table.find_eq_some.mpr
  refine ⟨?_, rfl⟩
  rcases Option.or_eq_some_iff.mp h with hown | ⟨-, hcheapest⟩
  · obtain ⟨id, -, hfind⟩ := Option.bind_eq_some_iff.mp hown
    exact (Table.find_eq_some.mp hfind).1
  · unfold Database.cheapestActivePlan at hcheapest
    have hmem := List.mem_of_mem_head? hcheapest
    rw [List.mem_insertionSort, List.mem_filter] at hmem
    exact hmem.1

/-- `create_checkout_for_existing_invoice` -/
def createCheckoutForExistingInvoice (env : Env) (gateway : Gateway)
    (tenantId invoiceId : Option Uuid) (db : Database) :
    Except Failure (Database × OpenedCheckout) := do
  require (strip env.accessToken ≠ "") (.value "Pagamento online nao configurado.")
  let tenantId ← demand tenantId (.value "tenant_id invalido.")
  let invoiceId ← demand invoiceId (.value "invoice_id invalido.")
  let tenant ← demand (db.tenants.find tenantId) (.value "Tenant nao encontrado.")
  let invoice ← demand ((db.invoices.find invoiceId).filter fun i => i.tenantId = tenant.id)
    (.value "Fatura nao encontrada.")
  require (invoice.status ≠ .paid) (.value "Essa fatura ja esta paga.")
  let plan ← demand (planOfReopened tenant db)
    (.value "Nenhum plano ativo disponivel para gerar checkout.")
  openCheckout env gateway invoice.id
    (buildPreferencePayload env tenant plan invoice.id invoice.amount "monthly")
    (fun preferenceId =>
      { apply := fun i => { i with paymentGatewayId := some preferenceId, status := .pending } })
    db

section Opening

variable {env : Env} {gateway : Gateway} {usage : Tenant → Usage} {tenantId planId : Option Uuid}
  {billingCycle : String} {now : Int} {fresh : Uuid} {db db' : Database} {o : OpenedCheckout}

/-- The period of a plan is never empty, so the cycle has no say in it. -/
theorem periodDeltaDays_eq (plan : Plan) :
    periodDeltaDays env plan billingCycle = planPeriodDays plan := by
  have hpos : 0 < planPeriodDays plan := by
    unfold planPeriodDays
    split <;> omega
  unfold periodDeltaDays
  exact if_pos hpos

theorem planAmountCents_eq {plan : Plan} {amount : Int}
    (h : planAmountCents env plan billingCycle = .ok amount) :
    amount = if yearly env billingCycle then plan.priceYearly else plan.priceMonthly := by
  unfold planAmountCents at h
  split_ifs at h with hyearly
  · simp only [bind_eq_ok, require_eq_ok, pure_eq_ok] at h
    obtain ⟨-, -, rfl⟩ := h
    rw [if_pos hyearly]
  · obtain rfl := Except.ok.inj h
    rw [if_neg hyearly]

/-- A checkout for a plan. -/
theorem createCheckoutForPlan_ok
    (h : createCheckoutForPlan env gateway usage tenantId planId billingCycle now fresh db =
      .ok (db', o)) :
    ∃ tenant plan amount invoices, db.tenants.find tenant.id = some tenant ∧
      db.plans.find plan.id = some plan ∧ planId = some plan.id ∧ tenantId = some tenant.id ∧
      planAmountCents env plan billingCycle = .ok amount ∧
      db.invoices.add (newInvoice env fresh tenant plan billingCycle amount now) = some invoices ∧
      o.invoiceId = fresh ∧
      o.asked = buildPreferencePayload env tenant plan fresh amount billingCycle ∧
      db' = { db with invoices := invoices }.updateInvoice fresh
        { apply := fun i => { i with paymentGatewayId := some o.preferenceId } } := by
  simp only [createCheckoutForPlan, openCheckout, bind_eq_ok, require_eq_ok, demand_eq_ok,
    pure_eq_ok, Prod.mk.injEq] at h
  obtain ⟨-, -, tid, htid, pid, hpid, tenant, htenant, plan, hplan, -, -, amount, hamount, invoices,
    hinvoices, preference, -, url, -, hdb, ho⟩ := h
  obtain ⟨hfound, -⟩ := Option.filter_eq_some_iff.mp hplan
  have htenantId : tenant.id = tid := (Table.find_eq_some.mp htenant).2
  have hplanId : plan.id = pid := (Table.find_eq_some.mp hfound).2
  subst htenantId hplanId
  refine
    ⟨tenant, plan, amount, invoices, htenant, hfound, hpid, htid, hamount, hinvoices, ?_, ?_, ?_⟩
  · rw [← ho]
  · rw [← ho]
  · rw [← hdb, ← ho]

/-- A checkout for an invoice. -/
theorem createCheckoutForExistingInvoice_ok {invoiceId : Option Uuid}
    (h : createCheckoutForExistingInvoice env gateway tenantId invoiceId db = .ok (db', o)) :
    ∃ tenant invoice plan, db.tenants.find tenant.id = some tenant ∧
      db.invoices.find invoice.id = some invoice ∧ invoice.tenantId = tenant.id ∧
      tenantId = some tenant.id ∧ invoiceId = some invoice.id ∧
      invoice.status ≠ .paid ∧ planOfReopened tenant db = some plan ∧ o.invoiceId = invoice.id ∧
      o.asked = buildPreferencePayload env tenant plan invoice.id invoice.amount "monthly" ∧
      db' = db.updateInvoice invoice.id
        { apply := fun i =>
            { i with paymentGatewayId := some o.preferenceId, status := .pending } } := by
  simp only [createCheckoutForExistingInvoice, openCheckout, bind_eq_ok, require_eq_ok,
    demand_eq_ok, pure_eq_ok, Prod.mk.injEq] at h
  obtain ⟨-, -, tid, htid, iid, hiid, tenant, htenant, invoice, hinvoice, -, hunpaid, plan, hplan,
    preference, -, url, -, hdb, ho⟩ := h
  obtain ⟨hfound, howner⟩ := Option.filter_eq_some_iff.mp hinvoice
  have htenantId : tenant.id = tid := (Table.find_eq_some.mp htenant).2
  have hinvoiceId : invoice.id = iid := (Table.find_eq_some.mp hfound).2
  subst htenantId hinvoiceId
  refine ⟨tenant, invoice, plan, htenant, hfound, of_decide_eq_true howner, htid, hiid, hunpaid,
    hplan, ?_, ?_, ?_⟩
  · rw [← ho]
  · rw [← ho]
  · rw [← hdb, ← ho]

end Opening

end BackupCenter.Billing
