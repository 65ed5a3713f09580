import BackupCenter.Billing.Checkout
import BackupCenter.Billing.Monotone

/-!
# What a payment buys

The period is fixed when an invoice is created and copied to the tenant when it is paid, and the
policy decides from its end alone. A payment buys access for a period of the plan exactly when the
period of the invoice and the days of grace reach that far.
-/
namespace BackupCenter.Billing

open BackupCenter.Lib
open BackupCenter.Tenants (Uuid)

/-- `enforce_access_policy` at these moments, one after the other. -/
def enforceAll (db : Database) (runs : List Int) : Database :=
  runs.foldl (fun db now => (enforceAccessPolicy now db).1) db

/-- After a payment at `t` the tenant has access for a period of the plan. -/
structure BuysAccess (env : Env) (plan : Plan) (tenantId : Uuid) (t : Int) (db : Database) :
    Prop where
  notBlocked : ∀ runs, (∀ now ∈ runs, t ≤ now ∧ now ≤ t + planPeriodDays plan * day) →
    ∀ tenant, (enforceAll db runs).tenants.find tenantId = some tenant →
      tenant.isActive = some true ∧ tenant.billingBlockedAt = none
  noAlert : ∀ tenant, db.tenants.find tenantId = some tenant →
    buildRuntimeAlert env (db.planOf tenant) tenant t = none

/-- The days of grace are not over. -/
def withinGrace (plan : Plan) (periodEnd now : Int) : Prop :=
  now ≤ periodEnd ∨ (now - periodEnd) / day < planGraceDays (some plan)

/-- The period of the invoice is not over when it is paid, and reaches with the days of grace to
the end of a period of the plan. A tenant in the trash is not looked at, and is not warned either
when it would be blocked. -/
def PaidInTime (plan : Plan) (tenant : Tenant) (periodEnd t : Int) : Prop :=
  tenant.accessUnlimited = true ∨
    if tenant.deletedAt.isSome then t ≤ periodEnd ∨ ¬ withinGrace plan periodEnd t
    else t ≤ periodEnd ∧ withinGrace plan periodEnd (t + planPeriodDays plan * day)

section Access

variable {env : Env} {plan : Plan} {tenant : Tenant} {db db' : Database} {periodEnd t now : Int}

theorem withinGrace_iff {row : Tenant} (h : row.currentPeriodEnd = some periodEnd) :
    withinGrace plan periodEnd now ↔
      (evaluateTenant (some plan) row now).shouldBlock = false := by
  have hdue : resolveDueAt row = some periodEnd := by
    unfold resolveDueAt
    rw [h]
    rfl
  rw [Bool.eq_false_iff, Ne, (evaluateTenant_due hdue).2]
  unfold withinGrace
  omega

theorem withinGrace.earlier {later : Int} (h : withinGrace plan periodEnd later)
    (hle : now ≤ later) : withinGrace plan periodEnd now := by
  rcases h with h | h
  · exact .inl (Int.le_trans hle h)
  · right
    have hdays : (now - periodEnd) / day ≤ (later - periodEnd) / day :=
      Int.ediv_le_ediv (by decide) (by omega)
    omega

/-- What the payment has given to the tenant is still there. -/
structure Granted (plan : Plan) (tenant : Tenant) (periodEnd : Int) (db : Database)
    (row : Tenant) : Prop where
  found : db.tenants.find tenant.id = some row
  known : db.plans.find plan.id = some plan
  planId : row.planId = some plan.id
  ends : row.currentPeriodEnd = some periodEnd
  accessUnlimited : row.accessUnlimited = tenant.accessUnlimited
  deletedAt : row.deletedAt = tenant.deletedAt
  isActive : row.isActive = some true
  billingBlockedAt : row.billingBlockedAt = none

theorem Granted.planOf {row : Tenant} (h : Granted plan tenant periodEnd db row) :
    db.planOf row = some plan := by
  unfold Database.planOf
  rw [h.planId]
  exact h.known

theorem find_enforceAccessPolicy (now : Int) (db : Database) (id : Uuid) :
    (enforceAccessPolicy now db).1.tenants.find id = (db.tenants.find id).map fun row =>
      if row.underPolicy then enforceTenant (db.planOf row) now row else row :=
  Table.find_modify

/-- Of a tenant that is neither blocked nor to be blocked only the status is written. -/
theorem enforceTenant_eq {row : Tenant} {known : Option Plan}
    (hfree : (evaluateTenant known row now).shouldBlock = false)
    (hopen : row.billingBlockedAt = none) :
    ∃ status, enforceTenant known now row = { row with subscriptionStatus := status } := by
  unfold enforceTenant
  dsimp only
  rw [if_neg (by rw [hfree]; decide)]
  split_ifs with hover hstatus hblocked
  · exact ⟨_, rfl⟩
  · exact ⟨row.subscriptionStatus, rfl⟩
  · rw [hopen] at hblocked
    cases hblocked
  · exact ⟨row.subscriptionStatus, rfl⟩

/-- The policy leaves a tenant alone that is not to be blocked. -/
theorem Granted.enforce {row : Tenant} (h : Granted plan tenant periodEnd db row)
    (now : Int) (hgrace : row.underPolicy = true → withinGrace plan periodEnd now) :
    ∃ row', Granted plan tenant periodEnd (enforceAccessPolicy now db).1 row' := by
  have hrow := find_enforceAccessPolicy now db tenant.id
  rw [h.found, Option.map_some, h.planOf] at hrow
  split at hrow
  next hunder =>
    obtain ⟨status, hkept⟩ :=
      enforceTenant_eq ((withinGrace_iff h.ends).mp (hgrace hunder)) h.billingBlockedAt
    rw [hkept] at hrow
    exact ⟨_, hrow, h.known, h.planId, h.ends, h.accessUnlimited, h.deletedAt, h.isActive,
      h.billingBlockedAt⟩
  next =>
    exact ⟨row, hrow, h.known, h.planId, h.ends, h.accessUnlimited, h.deletedAt, h.isActive,
      h.billingBlockedAt⟩

theorem Granted.lasts {row : Tenant} {runs : List Int}
    (h : Granted plan tenant periodEnd db row)
    (hgrace : tenant.accessUnlimited = false → tenant.deletedAt = none →
      ∀ now ∈ runs, withinGrace plan periodEnd now) :
    ∃ row', Granted plan tenant periodEnd (enforceAll db runs) row' := by
  induction runs generalizing db row with
  | nil => exact ⟨row, h⟩
  | cons now runs ih =>
    obtain ⟨row', h'⟩ := h.enforce now (fun hunder => by
      obtain ⟨hlimited, hkept⟩ := Bool.and_eq_true_iff.mp hunder
      rw [h.accessUnlimited, Bool.not_eq_true'] at hlimited
      rw [h.deletedAt, Option.isNone_iff_eq_none] at hkept
      exact hgrace hlimited hkept now (List.mem_cons_self ..))
    exact ih h' fun hlimited hkept now hnow =>
      hgrace hlimited hkept now (List.mem_cons_of_mem _ hnow)

/-- When the payment does not reach that far, one run of the policy blocks the tenant. -/
theorem Granted.blocked {row : Tenant} (h : Granted plan tenant periodEnd db row)
    (hlimited : tenant.accessUnlimited = false) (hkept : tenant.deletedAt = none)
    (hgrace : ¬ withinGrace plan periodEnd now) :
    ∃ row', (enforceAll db [now]).tenants.find tenant.id = some row' ∧
      row'.isActive = some false := by
  have hrow := find_enforceAccessPolicy now db tenant.id
  have hunder : row.underPolicy = true := by
    unfold Tenant.underPolicy
    rw [h.accessUnlimited, h.deletedAt, hlimited, hkept]
    rfl
  have hblock : (evaluateTenant (some plan) row now).shouldBlock = true := by
    rw [← Bool.not_eq_false]
    exact fun hfree => hgrace ((withinGrace_iff h.ends).mpr hfree)
  rw [h.found, Option.map_some, h.planOf, if_pos hunder] at hrow
  refine ⟨_, hrow, ?_⟩
  rw [enforceTenant_isActive, if_pos ⟨hblock, h.isActive⟩]

theorem Granted.alert_iff {row : Tenant} (h : Granted plan tenant periodEnd db row) :
    buildRuntimeAlert env (db.planOf row) row now = none ↔
      tenant.accessUnlimited = true ∨ now ≤ periodEnd ∨ ¬ withinGrace plan periodEnd now := by
  have hdue : resolveDueAt row = some periodEnd := by
    unfold resolveDueAt
    rw [h.ends]
    rfl
  have hover : (evaluateTenant (some plan) row now).overdue = true ↔ periodEnd < now :=
    (evaluateTenant_due hdue).1
  rw [withinGrace_iff h.ends, h.planOf, ← h.accessUnlimited]
  unfold buildRuntimeAlert
  cases row.accessUnlimited with
  | true => simp
  | false =>
    have hlate : now ≤ periodEnd ↔ (evaluateTenant (some plan) row now).overdue = false := by
      rw [← Int.not_lt, ← hover, Bool.not_eq_true]
    simp only [hlate, Bool.false_eq_true, if_false, false_or, ite_eq_left_iff, reduceCtorEq,
      imp_false, Decidable.not_not]
    cases (evaluateTenant (some plan) row now).overdue <;>
      cases (evaluateTenant (some plan) row now).shouldBlock <;> decide

/-- The plan of a payment is a row of the table. -/
theorem planOfPayment_find {p : Payment} (h : planOfPayment env p tenant db = some plan) :
    db.plans.find plan.id = some plan := by
  rcases Option.or_eq_some_iff.mp h with hnamed | ⟨-, hrest⟩
  · obtain ⟨id, -, hfind⟩ := Option.bind_eq_some_iff.mp hnamed
    exact Table.find_eq_some.mpr ⟨(Table.find_eq_some.mp hfind).1, rfl⟩
  · exact planOfReopened_find hrest

/-- What an approved payment writes for the tenant. -/
theorem granted_of_payment {c : PaymentCall} {p : Payment} {invoice : Invoice} {r : Handled}
    (hanswer : c.answer = .ok p) (hpaid : p.invoiceStatus env = .paid)
    (hinvoice : invoiceOfPayment env p db = some invoice)
    (htenant : db.tenants.find invoice.tenantId = some tenant)
    (hplan : planOfPayment env p tenant db = some plan)
    (h : processMercadopagoPayment env c db = .ok (db', r)) :
    Granted plan tenant invoice.periodEnd db'
      ((activated plan.id invoice.periodEnd).apply tenant) := by
  obtain ⟨p', hp', hcases⟩ := processed h
  obtain rfl := Except.ok.inj (hanswer.symm.trans hp')
  rcases hcases with ⟨hnone, -⟩ | ⟨invoice', hinvoice', -, hwritten⟩
  · rw [hinvoice] at hnone
    cases hnone
  obtain rfl := Option.some.inj (hinvoice.symm.trans hinvoice')
  rcases hwritten with ⟨hnone, -⟩ | ⟨tenant', htenant', hsettled⟩
  · rw [htenant] at hnone
    cases hnone
  obtain rfl := Option.some.inj (htenant.symm.trans htenant')
  obtain ⟨plan', subscriptions, hplan', -, hdb⟩ := settleTenant_paid hpaid hsettled
  obtain rfl : plan = plan' := Option.some.inj (hplan.symm.trans hplan')
  have hid : tenant.id = invoice.tenantId := (Table.find_eq_some.mp htenant).2
  have hrow : db'.tenants.find tenant.id =
      some ((activated plan.id invoice.periodEnd).apply tenant) := by
    rw [hdb, find_updateTenant_self]
    show (db.tenants.find tenant.id).map _ = _
    rw [hid, htenant]
    rfl
  have hknown : db'.plans.find plan.id = some plan := by
    rw [hdb]
    exact planOfPayment_find hplan
  exact {
    found := hrow
    known := hknown
    planId := rfl
    ends := rfl
    accessUnlimited := rfl
    deletedAt := rfl
    isActive := rfl
    billingBlockedAt := rfl }

/-- An invoice that was just created is paid in time on the days of grace after its creation, as
long as its period runs. -/
theorem paidInTime_newInvoice {id : Uuid} {billingCycle : String} {amount created : Int}
    (hlimited : tenant.accessUnlimited = false) (hkept : tenant.deletedAt = none) :
    PaidInTime plan tenant (newInvoice env id tenant plan billingCycle amount created).periodEnd t ↔
      t ≤ created + planPeriodDays plan * day ∧
        (t ≤ created ∨ (t - created) / day < planGraceDays (some plan)) := by
  have hdiff : t + planPeriodDays plan * day - (created + planPeriodDays plan * day) =
      t - created := by omega
  unfold PaidInTime withinGrace
  rw [hlimited, hkept]
  show _ ∨ (if false = true then _ else t ≤ created + periodDeltaDays env plan billingCycle * day ∧
    (_ ≤ created + periodDeltaDays env plan billingCycle * day ∨
      (_ - (created + periodDeltaDays env plan billingCycle * day)) / day < _)) ↔ _
  rw [periodDeltaDays_eq, hdiff, if_neg Bool.false_ne_true, Int.add_le_add_iff_right]
  simp

end Access

/-- **A payment buys access** exactly when it is made in time for the period of its invoice, which
was fixed when the invoice was created. -/
theorem payment_buys_access_iff (env : Env) (c : PaymentCall) (p : Payment) (db db' : Database)
    (r : Handled) (plan : Plan) (tenant : Tenant) (invoice : Invoice)
    (hanswer : c.answer = .ok p) (hpaid : p.invoiceStatus env = .paid)
    (hinvoice : invoiceOfPayment env p db = some invoice)
    (htenant : db.tenants.find invoice.tenantId = some tenant)
    (hplan : planOfPayment env p tenant db = some plan)
    (h : processMercadopagoPayment env c db = .ok (db', r)) :
    BuysAccess env plan tenant.id c.now db' ↔ PaidInTime plan tenant invoice.periodEnd c.now := by
  have hgranted := granted_of_payment hanswer hpaid hinvoice htenant hplan h
  have hperiod : 0 ≤ planPeriodDays plan * day := by
    have hpos : 0 < planPeriodDays plan := by
      unfold planPeriodDays
      split <;> omega
    exact Int.mul_nonneg (by omega) (by decide)
  unfold PaidInTime
  constructor
  · intro hbuys
    have halert := hgranted.alert_iff.mp (hbuys.noAlert _ hgranted.found)
    cases hunlimited : tenant.accessUnlimited with
    | true => exact .inl rfl
    | false =>
      right
      rw [hunlimited, Bool.false_eq_true, false_or] at halert
      split
      next => exact halert
      next hkept =>
        have hwithin : withinGrace plan invoice.periodEnd (c.now + planPeriodDays plan * day) := by
          by_contra hnot
          obtain ⟨row, hrow, hinactive⟩ :=
            hgranted.blocked hunlimited (Option.not_isSome_iff_eq_none.mp hkept) hnot
          have hactive := (hbuys.notBlocked [c.now + planPeriodDays plan * day] (by
            intro now hnow
            rw [List.mem_singleton] at hnow
            omega) row hrow).1
          rw [hinactive] at hactive
          cases hactive
        exact ⟨halert.resolve_right (· (hwithin.earlier (by omega))), hwithin⟩
  · intro hintime
    have halert : tenant.accessUnlimited = true ∨ c.now ≤ invoice.periodEnd ∨
        ¬ withinGrace plan invoice.periodEnd c.now := by
      rcases hintime with hunlimited | hintime
      · exact .inl hunlimited
      right
      split at hintime
      · exact hintime
      · exact .inl hintime.1
    constructor
    · intro runs hruns row hrow
      have hall : tenant.accessUnlimited = false → tenant.deletedAt = none →
          ∀ now ∈ runs, withinGrace plan invoice.periodEnd now := by
        intro hlimited hkept now hnow
        rw [hlimited, hkept] at hintime
        obtain ⟨-, hwithin⟩ := hintime.resolve_left (by decide)
        exact hwithin.earlier (hruns now hnow).2
      obtain ⟨row', hlasts⟩ := hgranted.lasts hall
      obtain rfl := Option.some.inj (hlasts.found.symm.trans hrow)
      exact ⟨hlasts.isActive, hlasts.billingBlockedAt⟩
    · intro row hrow
      obtain rfl := Option.some.inj (hgranted.found.symm.trans hrow)
      exact hgranted.alert_iff.mpr halert

/-- The invoice of `acmeDb` is paid at this moment. -/
def acmePaid (now : Int) : PaymentCall := { acmeCall "1" "approved" 10 with now := now }

/-- The payment that the gateway answers with. -/
def acmePayment : Payment where
  status := "approved"
  externalReference := newExternalReference .unary 2 1 3

/-- Paid on the day after the invoice was created. -/
theorem paid_next_day_buys_access :
    ∃ db' r, processMercadopagoPayment .ascii (acmePaid day) (acmeDb acme) = .ok (db', r) ∧
      BuysAccess .ascii basicPlan 2 day db' := by
  have hdone : (processMercadopagoPayment .ascii (acmePaid day) (acmeDb acme)).toOption.isSome =
      true := by decide +kernel
  cases hrun : processMercadopagoPayment .ascii (acmePaid day) (acmeDb acme) with
  | error e =>
    rw [hrun] at hdone
    cases hdone
  | ok done =>
    refine ⟨done.1, done.2, rfl, ?_⟩
    exact (payment_buys_access_iff .ascii (acmePaid day) acmePayment (acmeDb acme) done.1 done.2
      basicPlan acme acmeInvoice rfl (by decide +kernel) (by decide +kernel) (by decide +kernel)
      (by decide +kernel) hrun).mpr (.inr ⟨by decide, .inr (by decide)⟩)

/-- A gateway that always opens a checkout. -/
def openGateway : Gateway := fun _ => .ok { id := some "pref", initPoint := some "https://pay" }

/-- A checkout is opened on day 0 and once more on day 60, and paid at once. -/
def lateRun : Except Failure (Database × Handled) := do
  let created ← createCheckoutForPlan .ascii openGateway (fun _ => {}) (some 2) (some 1)
    "monthly" 0 3 { acmeDb acme with invoices := .empty }
  let reopened ← createCheckoutForExistingInvoice .ascii openGateway (some 2)
    (some created.2.invoiceId) created.1
  processMercadopagoPayment .ascii (acmePaid (60 * day)) reopened.1

/-- The payment of an invoice that is two periods old makes the tenant active with a period that
has ended on day 30, and the policy blocks it in the same moment. -/
theorem late_payment_buys_nothing :
    (¬ ∀ (env : Env) (c : PaymentCall) (p : Payment) (db db' : Database) (r : Handled) (plan : Plan)
      (tenant : Tenant) (invoice : Invoice), c.answer = .ok p → p.invoiceStatus env = .paid →
      invoiceOfPayment env p db = some invoice → invoice.status ≠ .paid →
      db.tenants.find invoice.tenantId = some tenant →
      planOfPayment env p tenant db = some plan →
      processMercadopagoPayment env c db = .ok (db', r) →
      BuysAccess env plan tenant.id c.now db') ∧
    lateRun.toOption.map (fun done =>
        (done.1.tenants.rows.map fun t => (t.isActive, t.currentPeriodEnd),
          (enforceAll done.1 [60 * day]).tenants.rows.map fun t =>
            (t.isActive, t.billingBlockedAt))) =
      some ([(some true, some (30 * day))], [(some false, some (60 * day))]) := by
  constructor
  · intro hall
    have hblocked :
        (processMercadopagoPayment .ascii (acmePaid (60 * day)) (acmeDb acme)).toOption.map
        (fun done => ((enforceAll done.1 [60 * day]).tenants.find 2).map Tenant.isActive) =
          some (some (some false)) := by decide +kernel
    cases hrun : processMercadopagoPayment .ascii (acmePaid (60 * day)) (acmeDb acme) with
    | error e =>
      rw [hrun] at hblocked
      cases hblocked
    | ok done =>
      rw [hrun] at hblocked
      obtain ⟨row, hrow, hinactive⟩ := Option.map_eq_some_iff.mp (Option.some.inj hblocked)
      have hbuys := hall .ascii (acmePaid (60 * day)) acmePayment (acmeDb acme) done.1 done.2
        basicPlan acme acmeInvoice rfl (by decide +kernel) (by decide +kernel) (by decide)
        (by decide +kernel) (by decide +kernel) hrun
      have hactive := (hbuys.notBlocked [60 * day] (by decide) row hrow).1
      rw [hinactive] at hactive
      cases hactive
  · decide +kernel

end BackupCenter.Billing
