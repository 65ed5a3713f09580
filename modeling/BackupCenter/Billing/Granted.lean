import BackupCenter.Billing.Access
import BackupCenter.Billing.References
import BackupCenter.Lib.Exec

/-!
# What is paid and what is granted

The amount of a purchase is chosen by its cycle, the period of its invoice by the plan alone, and
the plan that a payment grants by the checkout that it was made through, which may have been opened
again when the tenant had another plan.
-/
namespace BackupCenter.Billing

open BackupCenter.Lib
open BackupCenter.Tenants (Uuid)

/-! ## The history of a shop -/

/-- What was bought with an invoice, as the plan was then. -/
structure Purchase where
  invoiceId : Uuid
  plan : Plan
  billingCycle : String

/-- The database, the checkouts that were opened, and what was bought with them. -/
structure Shop where
  db : Database
  opened : List OpenedCheckout := []
  purchases : List Purchase := []

inductive ShopEvent where
  | openForPlan (gateway : Gateway) (usage : Tenant → Usage) (tenantId planId : Option Uuid)
      (billingCycle : String) (now : Int) (fresh : Uuid)
  | reopen (gateway : Gateway) (tenantId invoiceId : Option Uuid)
  /-- a payment that was made through the checkout with this number -/
  | payment (checkout : Nat) (c : PaymentCall)
  /-- whatever else changes tenants, such as their plan -/
  | tenants (p : Tenant → Bool) (f : Update Tenant)
  /-- the pages that edit plans -/
  | plans (p : Plan → Bool) (f : Update Plan)

/-- A payment brings back the reference of its checkout. -/
def PaymentCall.paidThrough (c : PaymentCall) (o : OpenedCheckout) : Prop :=
  ∀ p ∈ c.answer.toOption, p.externalReference = o.asked.externalReference

instance (c : PaymentCall) (o : OpenedCheckout) : Decidable (c.paidThrough o) :=
  inferInstanceAs (Decidable (∀ p ∈ c.answer.toOption, _))

/-- One event; a transaction that fails changes nothing. -/
def shopStep (env : Env) (s : Shop) : ShopEvent → Option Shop
  | .openForPlan gateway usage tenantId planId billingCycle now fresh =>
    match createCheckoutForPlan env gateway usage tenantId planId billingCycle now fresh s.db with
    | .error _ => some s
    | .ok (db, o) => some {
        db := db
        opened := s.opened ++ [o]
        purchases := ((planId.bind s.db.plans.find).map fun plan =>
          ⟨o.invoiceId, plan, billingCycle⟩).toList ++ s.purchases }
  | .reopen gateway tenantId invoiceId =>
    match createCheckoutForExistingInvoice env gateway tenantId invoiceId s.db with
    | .error _ => some s
    | .ok (db, o) => some { s with db := db, opened := s.opened ++ [o] }
  | .payment checkout c =>
    (s.opened[checkout]?.filter fun o => c.paidThrough o).map fun _ =>
      match processMercadopagoPayment env c s.db with
      | .error _ => s
      | .ok (db, _) => { s with db := db }
  | .tenants p f => some { s with db := { s.db with tenants := s.db.tenants.modify p f } }
  | .plans p f => some { s with db := { s.db with plans := s.db.plans.modify p f } }

/-! ## What was priced, and what is granted -/

/-- The period that the price of the purchase is for. -/
def Purchase.priced (env : Env) (q : Purchase) (period : Int) : Prop :=
  if yearly env q.billingCycle then 365 * day ≤ period
  else period = planPeriodDays q.plan * day

/-- The tenant has the plan of the purchase for the period that was priced. -/
def Purchase.Granted (env : Env) (q : Purchase) (tenantId subscriptionId : Uuid) (db : Database) :
    Prop :=
  ∃ tenant subscription, db.tenants.find tenantId = some tenant ∧
    db.subscriptions.find subscriptionId = some subscription ∧
    tenant.planId = some q.plan.id ∧ subscription.planId = q.plan.id ∧
    tenant.currentPeriodEnd = some subscription.currentPeriodEnd ∧
    q.priced env (subscription.currentPeriodEnd - subscription.currentPeriodStart)

/-- An approved payment that is processed for the invoice of a purchase grants what was bought. -/
def GrantsPriced (env : Env) (s : Shop) : ShopEvent → Prop
  | .payment checkout c => ∀ o ∈ s.opened[checkout]?, c.paidThrough o →
      ∀ p ∈ c.answer.toOption, p.invoiceStatus env = .paid →
      ∀ db' invoiceId tenantId text status,
        processMercadopagoPayment env c s.db =
          .ok (db', .handled invoiceId tenantId text status) →
        ∀ q ∈ s.purchases, q.invoiceId = invoiceId → q.Granted env tenantId c.fresh db'
  | _ => True

/-- An approved payment through this checkout is processed: payments are configured, it has an id,
the invoice has a tenant, and the id of the new subscription is free. -/
def Processed (env : Env) (s : Shop) (c : PaymentCall) (o : OpenedCheckout) : Prop :=
  strip env.accessToken ≠ "" ∧ strip c.paymentId ≠ "" ∧
    (∃ invoice ∈ s.db.invoices.find o.invoiceId,
      (s.db.tenants.find invoice.tenantId).isSome = true) ∧
    s.db.subscriptions.find c.fresh = none

/-- The payment is made through a checkout that names the plan that was bought, and a year is bought
only of a plan whose period is a year. -/
def PaysBought (env : Env) (s : Shop) : ShopEvent → Prop
  | .payment checkout c => ∀ o ∈ s.opened[checkout]?, c.paidThrough o →
      ∀ p ∈ c.answer.toOption, p.invoiceStatus env = .paid → Processed env s c o →
      ∀ q ∈ s.purchases, q.invoiceId = o.invoiceId →
        o.asked.planId = q.plan.id ∧
          (yearly env q.billingCycle = true → 365 ≤ planPeriodDays q.plan)
  | _ => True

instance (env : Env) (s : Shop) (c : PaymentCall) (o : OpenedCheckout) :
    Decidable (Processed env s c o) :=
  inferInstanceAs (Decidable (_ ∧ _ ∧ (∃ invoice ∈ s.db.invoices.find o.invoiceId, _) ∧ _))

instance (env : Env) (s : Shop) : ∀ e, Decidable (PaysBought env s e)
  | .payment checkout c => inferInstanceAs (Decidable (∀ o ∈ s.opened[checkout]?, _ →
      ∀ p ∈ c.answer.toOption, _ → _ → ∀ q ∈ s.purchases, _ → _ ∧ (_ → _)))
  | .openForPlan .. | .reopen .. | .tenants .. | .plans .. => inferInstanceAs (Decidable True)

/-! ## What holds in every history -/

/-- Checkouts name their plan and their invoice, and the invoice of a purchase has a period of the
plan as it was bought. -/
structure ShopInv (env : Env) (s : Shop) : Prop where
  named : ∀ o ∈ s.opened, (∃ tenantId, o.asked.externalReference =
      newExternalReference env.ids tenantId o.asked.planId o.invoiceId) ∧
    (s.db.plans.find o.asked.planId).isSome = true
  period : ∀ q ∈ s.purchases, ∃ invoice, s.db.invoices.find q.invoiceId = some invoice ∧
    invoice.periodEnd - invoice.periodStart = planPeriodDays q.plan * day

/-- The period of an invoice. -/
def Invoice.period (i : Invoice) : Int × Int := (i.periodStart, i.periodEnd)

section Steps

variable {env : Env} {s s' : Shop} {e : ShopEvent} {db db' : Database} {c : PaymentCall}
  {p : Payment} {invoice : Invoice} {plan : Plan}

/-- Nothing takes an invoice away or changes its period, nor takes a plan away. -/
theorem ShopInv.keep (h : ShopInv env s)
    (hinvoices : s.db.invoices.Keeps Invoice.period db.invoices)
    (hplans : s.db.plans.Keeps Plan.id db.plans) : ShopInv env { s with db := db } where
  named o ho := by
    obtain ⟨hreference, hplan⟩ := h.named o ho
    obtain ⟨plan, hfind⟩ := Option.isSome_iff_exists.mp hplan
    obtain ⟨plan', hfind', -⟩ := hplans.find hfind
    exact ⟨hreference, Option.isSome_of_eq_some hfind'⟩
  period q hq := by
    obtain ⟨invoice, hfind, hperiod⟩ := h.period q hq
    obtain ⟨invoice', hfind', hsame⟩ := hinvoices.find hfind
    obtain ⟨hstart, hend⟩ := Prod.mk.inj hsame
    exact ⟨invoice', hfind', by rw [hstart, hend, hperiod]⟩

/-- One more checkout, which names a stored plan. -/
theorem ShopInv.opened (h : ShopInv env s) {o : OpenedCheckout} (tenantId : Uuid) (plan : Plan)
    (hreference : o.asked.externalReference =
      newExternalReference env.ids tenantId o.asked.planId o.invoiceId)
    (hplan : s.db.plans.find o.asked.planId = some plan) :
    ShopInv env { s with opened := s.opened ++ [o] } where
  named a ha := by
    rcases List.mem_append.mp ha with hold | hnew
    · exact h.named a hold
    · obtain rfl := List.mem_singleton.mp hnew
      exact ⟨⟨tenantId, hreference⟩, Option.isSome_of_eq_some hplan⟩
  period := h.period

theorem keeps_recordedPayment :
    db.invoices.Keeps Invoice.period (recordedPayment env c p invoice db).invoices :=
  Table.keeps_modify fun _ => rfl

theorem ShopInv.payment {r : Handled} (h : ShopInv env s)
    (hrun : processMercadopagoPayment env c s.db = .ok (db', r)) :
    ShopInv env { s with db := db' } := by
  obtain ⟨p, -, ⟨-, rfl, -⟩ | ⟨invoice, -, -, ⟨-, rfl⟩ | ⟨tenant, -, hsettled⟩⟩⟩ := processed hrun
  · exact h
  · exact h.keep keeps_recordedPayment (Table.Keeps.refl _ _)
  · obtain ⟨hinvoices, hplans⟩ := settleTenant_keeps hsettled
    apply h.keep
    · rw [hinvoices]
      exact keeps_recordedPayment
    · rw [hplans]
      exact Table.Keeps.refl _ _

/-- Every event keeps the checkouts and the periods. -/
theorem ShopInv.step (h : ShopInv env s) (hs : shopStep env s e = some s') : ShopInv env s' := by
  cases e with
  | openForPlan gateway usage tenantId planId billingCycle now fresh =>
    unfold shopStep at hs
    dsimp only at hs
    split at hs
    next => exact Option.some.inj hs ▸ h
    next db o hrun =>
      obtain ⟨tenant, plan, amount, invoices, -, hplan, hplanId, -, -, hadd, hinvoiceId, hasked,
        hdb⟩ := createCheckoutForPlan_ok hrun
      rw [hplanId, Option.bind_some, hplan] at hs
      obtain rfl := Option.some.inj hs
      have hwritten : invoices.Keeps Invoice.period db.invoices := by
        rw [hdb]
        exact Table.keeps_modify fun _ => rfl
      have hplans : s.db.plans.Keeps Plan.id db.plans := by
        rw [hdb]
        exact Table.Keeps.refl _ _
      have hopened : ShopInv env { s with opened := s.opened ++ [o] } := by
        apply h.opened tenant.id plan
        · rw [hasked, hinvoiceId]
          rfl
        · rw [hasked]
          exact hplan
      have hkept := hopened.keep ((Table.keeps_of_add hadd).trans hwritten) hplans
      refine ⟨hkept.named, fun q hq => ?_⟩
      rcases List.mem_append.mp hq with hnew | hold
      · obtain rfl := List.mem_singleton.mp hnew
        have hrow : invoices.find o.invoiceId =
            some (newInvoice env fresh tenant plan billingCycle amount now) :=
          Table.find_eq_some.mpr ⟨(Table.mem_of_add hadd).mpr (.inl rfl), hinvoiceId.symm⟩
        obtain ⟨row, hfind, hsame⟩ := hwritten.find hrow
        obtain ⟨hstart, hend⟩ := Prod.mk.inj hsame
        refine ⟨row, hfind, ?_⟩
        rw [hstart, hend]
        show now + periodDeltaDays env plan billingCycle * day - now = planPeriodDays plan * day
        rw [periodDeltaDays_eq]
        omega
      · exact hkept.period q hold
  | reopen gateway tenantId invoiceId =>
    unfold shopStep at hs
    dsimp only at hs
    split at hs
    next => exact Option.some.inj hs ▸ h
    next db o hrun =>
      obtain ⟨tenant, invoice, plan, -, -, -, -, -, -, hplan, hinvoiceId, hasked, hdb⟩ :=
        createCheckoutForExistingInvoice_ok hrun
      obtain rfl := Option.some.inj hs
      have hopened : ShopInv env { s with opened := s.opened ++ [o] } := by
        apply h.opened tenant.id plan
        · rw [hasked, hinvoiceId]
          rfl
        · rw [hasked]
          exact planOfReopened_find hplan
      apply hopened.keep
      · rw [hdb]
        exact Table.keeps_modify fun _ => rfl
      · rw [hdb]
        exact Table.Keeps.refl _ _
  | payment checkout c =>
    obtain ⟨o, -, hpaid⟩ := Option.map_eq_some_iff.mp hs
    split at hpaid
    next => exact hpaid ▸ h
    next db r hrun => exact hpaid ▸ h.payment hrun
  | tenants p f => exact Option.some.inj hs ▸ h.keep (Table.Keeps.refl _ _) (Table.Keeps.refl _ _)
  | plans p f =>
    exact Option.some.inj hs ▸ h.keep (Table.Keeps.refl _ _) (Table.keeps_modify fun r => f.keeps r)

/-- What a payment writes that is approved. -/
theorem process_paid_iff {invoiceId tenantId : Uuid} {text : String} {status : InvoiceStatus}
    (hp : c.answer = .ok p) (hpaid : p.invoiceStatus env = .paid)
    (hinvoice : invoiceOfPayment env p db = some invoice)
    (hplan : ∀ tenant,
      planOfPayment env p tenant (recordedPayment env c p invoice db) = some plan) :
    processMercadopagoPayment env c db = .ok (db', .handled invoiceId tenantId text status) ↔
      strip env.accessToken ≠ "" ∧ strip c.paymentId ≠ "" ∧
      ∃ tenant subscriptions, db.tenants.find invoice.tenantId = some tenant ∧
        (cancelExistingSubscriptions tenant.id c.now
            (recordedPayment env c p invoice db)).subscriptions.add
          { id := c.fresh, tenantId := tenant.id, planId := plan.id
            currentPeriodStart := invoice.periodStart, currentPeriodEnd := invoice.periodEnd } =
          some subscriptions ∧
        db' =
          { recordedPayment env c p invoice db with subscriptions := subscriptions }.updateTenant
            tenant.id (activated plan.id invoice.periodEnd) ∧
        invoiceId = invoice.id ∧ tenantId = tenant.id ∧ text = p.statusText env ∧
        status = p.invoiceStatus env := by
  simp only [processMercadopagoPayment, bind_eq_ok, require_eq_ok, hp, Except.ok.injEq,
    exists_eq_left', hinvoice, exists_const, exists_and_left]
  apply and_congr_right
  intro _
  apply and_congr_right
  intro _
  cases htenant : db.tenants.find invoice.tenantId with
  | none => simp
  | some tenant =>
    simp only [settleTenant, hpaid, activateSubscription, bind_eq_ok, demand_eq_ok, pure_eq_ok,
      Prod.mk.injEq, Handled.handled.injEq, Option.some.injEq, exists_eq_left']
    have hrecorded : recordedPayment env c p invoice db =
        db.updateInvoice invoice.id (recordPayment (strip c.paymentId) p .paid c.now) := by
      rw [recordedPayment, hpaid]
    have hthis := hplan tenant
    rw [hrecorded] at hthis ⊢
    constructor
    · rintro ⟨settled, ⟨plan', hplan', subscriptions, hadded, hsettled⟩, rfl, hids⟩
      obtain rfl := Option.some.inj (hplan'.symm.trans hthis)
      obtain ⟨rfl, rfl, rfl, rfl⟩ := hids
      exact ⟨subscriptions, hadded, hsettled.symm, rfl, rfl, rfl, rfl⟩
    · rintro ⟨subscriptions, hadded, hdb, rfl, rfl, rfl, rfl⟩
      exact ⟨db', ⟨plan, hthis, subscriptions, hadded, hdb.symm⟩, rfl, rfl, rfl, rfl, rfl⟩

/-- Cancelling subscriptions frees no id. -/
theorem find_cancelled {tenantId fresh : Uuid} {now : Int} :
    (cancelExistingSubscriptions tenantId now db).subscriptions.find fresh = none ↔
      db.subscriptions.find fresh = none := by
  unfold cancelExistingSubscriptions
  rw [Table.find_modify, Option.map_eq_none_iff]

theorem answer_eq_ok {x : Except Failure Payment} (h : p ∈ x.toOption) : x = .ok p := by
  cases x with
  | error e => cases h
  | ok q =>
    obtain rfl := Option.some.inj h
    rfl

/-- The rows that a payment leaves behind have the plan that it names. -/
theorem granted_iff {q : Purchase} {tenant : Tenant} {row : Subscription}
    {subscriptions : Table Subscription} (htenant : db.tenants.find tenant.id = some tenant)
    (hadded : (cancelExistingSubscriptions tenant.id c.now db).subscriptions.add row =
      some subscriptions) (hplan : row.planId = plan.id) :
    q.Granted env tenant.id row.id
        ({ db with subscriptions := subscriptions }.updateTenant tenant.id
          (activated plan.id row.currentPeriodEnd)) ↔
      plan.id = q.plan.id ∧ q.priced env (row.currentPeriodEnd - row.currentPeriodStart) := by
  have hrow : subscriptions.find row.id = some row :=
    Table.find_eq_some.mpr ⟨(Table.mem_of_add hadded).mpr (.inl rfl), rfl⟩
  have hactivated : ({ db with subscriptions := subscriptions }.updateTenant tenant.id
      (activated plan.id row.currentPeriodEnd)).tenants.find tenant.id =
        some ((activated plan.id row.currentPeriodEnd).apply tenant) := by
    rw [find_updateTenant_self]
    exact congrArg _ htenant
  constructor
  · rintro ⟨t, sub, ht, hsub, hid, -, -, hpriced⟩
    obtain rfl := Option.some.inj (hactivated.symm.trans ht)
    obtain rfl := Option.some.inj (hrow.symm.trans hsub)
    exact ⟨Option.some.inj hid, hpriced⟩
  · rintro ⟨hid, hpriced⟩
    exact ⟨_, row, hactivated, hrow, congrArg some hid, hplan.trans hid, rfl, hpriced⟩

/-- The period of the plan is what was priced, unless a year was. -/
theorem priced_iff {q : Purchase} : q.priced env (planPeriodDays q.plan * day) ↔
    (yearly env q.billingCycle = true → 365 ≤ planPeriodDays q.plan) := by
  have hday : (0 : Int) < day := by decide
  unfold Purchase.priced
  split
  next hyearly => simp only [hyearly, true_implies, Int.mul_le_mul_right hday]
  next hmonthly => simp [hmonthly]

/-- A payment for the invoice of a purchase grants what was bought if it names the plan. -/
theorem ShopInv.granted_iff_bought (h : ShopInv env s) {q : Purchase} (hq : q ∈ s.purchases)
    {plan : Plan} {invoice : Invoice} (hfound : s.db.invoices.find q.invoiceId = some invoice)
    {p : Payment} {tenant : Tenant} {subscriptions : Table Subscription}
    (htenant : s.db.tenants.find tenant.id = some tenant)
    (hadded : (cancelExistingSubscriptions tenant.id c.now
        (recordedPayment env c p invoice s.db)).subscriptions.add
      { id := c.fresh, tenantId := tenant.id, planId := plan.id
        currentPeriodStart := invoice.periodStart, currentPeriodEnd := invoice.periodEnd } =
      some subscriptions) :
    q.Granted env tenant.id c.fresh
        ({ recordedPayment env c p invoice s.db with subscriptions := subscriptions }.updateTenant
          tenant.id (activated plan.id invoice.periodEnd)) ↔
      plan.id = q.plan.id ∧ (yearly env q.billingCycle = true → 365 ≤ planPeriodDays q.plan) := by
  obtain ⟨bought, hrow, hperiod⟩ := h.period q hq
  rw [hfound] at hrow
  obtain rfl := Option.some.inj hrow
  rw [← priced_iff, ← hperiod]
  exact granted_iff htenant hadded rfl

/-- One payment grants what was bought exactly when it is made through a checkout that names it. -/
theorem grantsPriced_iff (h : ShopInv env s) : GrantsPriced env s e ↔ PaysBought env s e := by
  cases e with
  | payment checkout c =>
    apply forall_congr'
    intro o
    apply forall_congr'
    intro ho
    apply forall_congr'
    intro hthrough
    apply forall_congr'
    intro p
    apply forall_congr'
    intro hanswer
    apply forall_congr'
    intro hpaid
    obtain ⟨⟨tenantId, hreference⟩, hknown⟩ := h.named o (List.mem_of_getElem? ho)
    obtain ⟨plan, hfind⟩ := Option.isSome_iff_exists.mp hknown
    have hplanId : plan.id = o.asked.planId := (Table.find_eq_some.mp hfind).2
    obtain ⟨hplanRef, hinvoiceRef⟩ :=
      refs_of_newExternalReference ((hthrough p hanswer).trans hreference)
    have hinvoice : invoiceOfPayment env p s.db = s.db.invoices.find o.invoiceId := by
      rw [invoiceOfPayment, hinvoiceRef, Option.bind_some]
    have hplan : ∀ invoice tenant,
        planOfPayment env p tenant (recordedPayment env c p invoice s.db) = some plan := by
      intro invoice tenant
      rw [planOfPayment, hplanRef, Option.bind_some]
      show (s.db.plans.find o.asked.planId).or _ = _
      rw [hfind, Option.some_or]
    have hp : c.answer = .ok p := answer_eq_ok hanswer
    have hiff : ∀ {invoice tenant subscriptions}, s.db.invoices.find o.invoiceId = some invoice →
        s.db.tenants.find tenant.id = some tenant →
        (cancelExistingSubscriptions tenant.id c.now
            (recordedPayment env c p invoice s.db)).subscriptions.add
          { id := c.fresh, tenantId := tenant.id, planId := plan.id
            currentPeriodStart := invoice.periodStart, currentPeriodEnd := invoice.periodEnd } =
          some subscriptions →
        ∀ q ∈ s.purchases, q.invoiceId = o.invoiceId →
          (q.Granted env tenant.id c.fresh
            ({ recordedPayment env c p invoice s.db with
                subscriptions := subscriptions }.updateTenant
              tenant.id (activated plan.id invoice.periodEnd)) ↔
          o.asked.planId = q.plan.id ∧
            (yearly env q.billingCycle = true → 365 ≤ planPeriodDays q.plan)) := by
      intro invoice tenant subscriptions hfound htenant hadded q hq hbought
      rw [← hplanId]
      exact h.granted_iff_bought hq ((congrArg _ hbought).trans hfound) htenant hadded
    constructor
    · rintro hgrants ⟨htoken, hpaymentId, ⟨invoice, hfound, hhas⟩, hfree⟩ q hq hbought
      obtain ⟨tenant, htenant⟩ := Option.isSome_iff_exists.mp hhas
      have hself : s.db.tenants.find tenant.id = some tenant :=
        Table.find_eq_some.mpr ⟨(Table.find_eq_some.mp htenant).1, rfl⟩
      have hfree' : (cancelExistingSubscriptions tenant.id c.now
          (recordedPayment env c p invoice s.db)).subscriptions.find c.fresh = none :=
        find_cancelled.mpr hfree
      let row : Subscription := {
        id := c.fresh, tenantId := tenant.id, planId := plan.id
        currentPeriodStart := invoice.periodStart, currentPeriodEnd := invoice.periodEnd }
      obtain ⟨subscriptions, hadded⟩ :=
        Option.isSome_iff_exists.mp (Table.add_isSome (r := row).mpr hfree')
      have hrun := (process_paid_iff hp hpaid (hinvoice.trans hfound) (hplan invoice)).mpr
        ⟨htoken, hpaymentId, tenant, subscriptions, htenant, hadded, rfl, rfl, rfl, rfl, rfl⟩
      have hid : invoice.id = o.invoiceId := (Table.find_eq_some.mp hfound).2
      exact (hiff hfound hself hadded q hq hbought).mp
        (hgrants _ _ _ _ _ hrun q hq (hbought.trans hid.symm))
    · intro hpays db' invoiceId tenantId text status hrun q hq hbought
      cases hfound : s.db.invoices.find o.invoiceId with
      | none =>
        obtain ⟨p', hp', hcases⟩ := processed hrun
        obtain rfl := Except.ok.inj (hp.symm.trans hp')
        rcases hcases with ⟨-, -, hnone⟩ | ⟨invoice, hsome, -⟩
        · cases hnone
        · rw [hinvoice, hfound] at hsome
          cases hsome
      | some invoice =>
        obtain ⟨htoken, hpaymentId, tenant, subscriptions, htenant, hadded, rfl, rfl, rfl, rfl,
          rfl⟩ := (process_paid_iff hp hpaid (hinvoice.trans hfound) (hplan invoice)).mp hrun
        have hself : s.db.tenants.find tenant.id = some tenant :=
          Table.find_eq_some.mpr ⟨(Table.find_eq_some.mp htenant).1, rfl⟩
        have hid : invoice.id = o.invoiceId := (Table.find_eq_some.mp hfound).2
        have hfree : s.db.subscriptions.find c.fresh = none :=
          find_cancelled.mp (Table.add_isSome.mp (Option.isSome_of_eq_some hadded))
        have hprocessed : Processed env s c o :=
          ⟨htoken, hpaymentId, ⟨invoice, hfound, Option.isSome_of_eq_some htenant⟩, hfree⟩
        exact (hiff hfound hself hadded q hq (hbought.trans hid)).mpr
          (hpays hprocessed q hq (hbought.trans hid))
  | _ => exact Iff.rfl

theorem shopInv_init (env : Env) (db : Database) : ShopInv env { db := db } :=
  ⟨by simp, by simp⟩

theorem ShopInv.run {es : List ShopEvent} (h : ShopInv env s)
    (hrun : exec (shopStep env) s es = some s') : ShopInv env s' := by
  have hstep : ∀ s e s', ShopInv env s → shopStep env s e = some s' → ShopInv env s' :=
    fun _ _ _ h hs => h.step hs
  exact exec_invariant_all hstep h hrun

end Steps

/-- **What is paid is what is granted** by every payment of a history exactly when each is made
through a checkout that names the plan that was bought, and years are bought only of plans that have
a period of a year. -/
theorem grantsPriced_iff_paysBought (env : Env) (db : Database) (es : List ShopEvent) :
    Along (shopStep env) (GrantsPriced env) { db := db } es ↔
      Along (shopStep env) (PaysBought env) { db := db } es := by
  have hstep : ∀ s e s', ShopInv env s → shopStep env s e = some s' → ShopInv env s' :=
    fun _ _ _ h hs => h.step hs
  exact along_congr hstep (fun _ _ h => grantsPriced_iff h) (shopInv_init env db)

/-! ## Purchases that are not granted -/

def proPlan : Plan := { basicPlan with id := 4, name := "Pro", priceMonthly := 9900 }

/-- Two plans with a period of 30 days, and a tenant with the first one. -/
def twoPlans : Database where
  plans := { rows := [basicPlan, proPlan] }
  tenants := { rows := [acme] }

def acmePays (planId : Uuid) (now : Int) : PaymentCall where
  paymentId := "1"
  answer := .ok {
    status := "approved"
    externalReference := newExternalReference .unary 2 planId 3 }
  now := now
  fresh := 10

def buyYear : ShopEvent := .openForPlan openGateway (fun _ => {}) (some 2) (some 1) "yearly" 0 3

/-- A year of the first plan is bought and paid. -/
def yearBought : List ShopEvent := [buyYear] ++ [.payment 0 (acmePays 1 day)]

/-- The second plan is bought, and paid through a checkout that was opened again while the tenant
still had the first one. -/
def proBought : List ShopEvent :=
  [.openForPlan openGateway (fun _ => {}) (some 2) (some 4) "monthly" 0 3,
    .reopen openGateway (some 2) (some 3), .payment 1 (acmePays 1 day)]

/-- What the invoice says, the plan of the tenant, and the end of its period. -/
def soldAndGranted (es : List ShopEvent) :
    Option (List Int × List (Option Uuid × Option Int)) :=
  (exec (shopStep .ascii) { db := twoPlans } es).map fun s =>
    (s.db.invoices.rows.map Invoice.amount,
      s.db.tenants.rows.map fun t => (t.planId, t.currentPeriodEnd))

/-- For the price of a year 30 days are granted; and for the price of one plan, the other one. -/
theorem bought_not_granted :
    (¬ ∀ (env : Env) (db : Database) (es : List ShopEvent),
      Along (shopStep env) (GrantsPriced env) { db := db } es) ∧
    soldAndGranted yearBought = some ([49000], [(some 1, some (30 * day))]) ∧
    soldAndGranted proBought = some ([9900], [(some 1, some (30 * day))]) := by
  refine ⟨fun hall => ?_, by decide +kernel, by decide +kernel⟩
  have hbought : (exec (shopStep .ascii) { db := twoPlans } [buyYear]).map
      (fun s => decide (PaysBought .ascii s (.payment 0 (acmePays 1 day)))) = some false := by
    decide +kernel
  obtain ⟨s, hrun, hfails⟩ := Option.map_eq_some_iff.mp hbought
  have hgrants := (hall .ascii twoPlans yearBought).at_event hrun
  have hpays := (grantsPriced_iff ((shopInv_init .ascii twoPlans).run hrun)).mp hgrants
  exact of_decide_eq_false hfails hpays

end BackupCenter.Billing
