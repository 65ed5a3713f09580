import BackupCenter.Billing.Payments
import BackupCenter.Lib.Exec

/-!
# Payments of one invoice

A run of calls that process payments of one invoice, in any order and any number of times. Each
call writes the invoice and the tenant from the payment it looks at, so what an approved payment
has brought lasts only as long as no other answer for the invoice is processed.
-/
namespace BackupCenter.Billing

open BackupCenter.Lib
open BackupCenter.Tenants (Uuid)

/-- The payment was given back: `refunded` or `charged_back`. -/
def Payment.isRefund (env : Env) (p : Payment) : Bool :=
  ["refunded", "charged_back"].contains (env.lower (strip (p.statusText env)))

/-- The database, and the payments that were processed as approved and not given back since. -/
structure PaymentRun where
  db : Database
  approved : List String := []

/-- The approved payments after one more was processed. -/
def approvedAfter (env : Env) (paymentId : String) (p : Payment) (approved : List String) :
    List String :=
  if p.invoiceStatus env = .paid then paymentId :: approved
  else if p.isRefund env then approved.filter (· ≠ paymentId)
  else approved

/-- The answer refers to this invoice. -/
def Payment.refersTo (env : Env) (invoiceId : Uuid) (p : Payment) : Prop :=
  (refId p.refs "invoice").bind env.ids.parse = some invoiceId

/-- The answer to the call, if there is one, refers to the invoice. -/
def PaymentCall.refersTo (env : Env) (invoiceId : Uuid) (c : PaymentCall) : Prop :=
  ∀ p, c.answer = .ok p → p.refersTo env invoiceId

/-- One call; what it raises has no effect. -/
def paymentStep (env : Env) (r : PaymentRun) (c : PaymentCall) : Option PaymentRun :=
  match c.answer, processMercadopagoPayment env c r.db with
  | .ok p, .ok (db, handled) =>
    some {
      db := db
      approved :=
        if handled = .invoiceNotFound then r.approved
        else approvedAfter env (strip c.paymentId) p r.approved }
  | _, _ => some r

/-- Payments are monotone in one step. -/
structure PaymentKept (env : Env) (invoiceId : Uuid) (r : PaymentRun) (c : PaymentCall)
    (r' : PaymentRun) : Prop where
  staysPaid : r'.approved ≠ [] →
    ∃ invoice, r'.db.invoices.find invoiceId = some invoice ∧ invoice.status = .paid
  /-- No other payment sets the tenant to `past_due`. -/
  notPastDue : (∃ q ∈ r.approved, q ≠ strip c.paymentId) → ∀ t ∈ r'.db.tenants,
    t.subscriptionStatus = some .pastDue → ∃ old ∈ r.db.tenants, old.id = t.id ∧
      old.subscriptionStatus = some .pastDue
  /-- An approved payment that is processed again changes nothing. -/
  again : ∀ p, c.answer = .ok p → p.invoiceStatus env = .paid → strip c.paymentId ∈ r.approved →
    r'.db = r.db
  /-- An approved payment does not take the end of a period back. -/
  periodGrows : ∀ p, c.answer = .ok p → p.invoiceStatus env = .paid → ∀ t ∈ r.db.tenants,
    ∀ periodEnd, t.currentPeriodEnd = some periodEnd → ∃ t' ∈ r'.db.tenants, t'.id = t.id ∧
      ∃ later, t'.currentPeriodEnd = some later ∧ periodEnd ≤ later

def KeptBy (env : Env) (invoiceId : Uuid) (r : PaymentRun) (c : PaymentCall) : Prop :=
  ∀ r', paymentStep env r c = some r' → PaymentKept env invoiceId r c r'

/-- An approved payment is processed once, and not when its tenant has already a later period; as
long as an approved payment stands, no answer but its own refund is processed. -/
def OnceEach (env : Env) (invoiceId : Uuid) (r : PaymentRun) (c : PaymentCall) : Prop :=
  ∀ p ∈ c.answer.toOption,
    (p.invoiceStatus env = .paid → strip c.paymentId ∉ r.approved ∧
      ∀ invoice ∈ r.db.invoices.find invoiceId, ∀ tenant ∈ r.db.tenants.find invoice.tenantId,
        ∀ periodEnd ∈ tenant.currentPeriodEnd, periodEnd ≤ invoice.periodEnd) ∧
    (p.invoiceStatus env ≠ .paid →
      ∀ q ∈ r.approved, q = strip c.paymentId ∧ p.isRefund env = true)

instance (env : Env) (invoiceId : Uuid) (r : PaymentRun) (c : PaymentCall) :
    Decidable (OnceEach env invoiceId r c) :=
  inferInstanceAs (Decidable (∀ p ∈ c.answer.toOption, _ ∧ _))

section Steps

variable {env : Env} {invoiceId : Uuid} {r r' : PaymentRun} {c : PaymentCall}

/-- The run goes on as it was, or the call has written the invoice. -/
theorem paymentStep_cases (h : paymentStep env r c = some r') : r' = r ∨
    ∃ p invoice, c.answer = .ok p ∧ invoiceOfPayment env p r.db = some invoice ∧
      r'.approved = approvedAfter env (strip c.paymentId) p r.approved ∧
      (r.db.tenants.find invoice.tenantId = none ∧
          r'.db = recordedPayment env c p invoice r.db ∨
        ∃ tenant, r.db.tenants.find invoice.tenantId = some tenant ∧
          settleTenant env p invoice tenant c.now c.fresh (recordedPayment env c p invoice r.db) =
            .ok r'.db) := by
  unfold paymentStep at h
  split at h
  next p db handled hanswer hprocess =>
    obtain rfl := Option.some.inj h
    obtain ⟨p', hp', hcases⟩ := processed hprocess
    obtain rfl := Except.ok.inj (hanswer.symm.trans hp')
    rcases hcases with ⟨-, hdb, hnone⟩ | ⟨invoice, hinvoice, hfound, htenant⟩
    · left
      rw [if_pos hnone, hdb]
    · right
      exact ⟨p, invoice, hanswer, hinvoice, if_neg hfound, htenant⟩
  next =>
    obtain rfl := Option.some.inj h
    exact .inl rfl

/-- The tenants after a call that has written the invoice: at most one row was changed. -/
theorem tenants_settled {p : Payment} {invoice : Invoice} {tenant : Tenant} {db db' : Database}
    {now : Int} {fresh : Uuid} (h : settleTenant env p invoice tenant now fresh db = .ok db') :
    (p.invoiceStatus env = .paid → ∃ planId, db'.tenants =
      db.tenants.modify (fun t => t.id = tenant.id) (activated planId invoice.periodEnd)) ∧
    (p.invoiceStatus env = .failed ∨ p.invoiceStatus env = .cancelled →
      db'.tenants = db.tenants.modify (fun t => t.id = tenant.id) pastDue) ∧
    (p.invoiceStatus env = .draft ∨ p.invoiceStatus env = .pending → db' = db) := by
  refine ⟨fun hpaid => ?_, fun hfailed => ?_, fun hpending => ?_⟩
  · obtain ⟨plan, subscriptions, -, -, rfl⟩ := settleTenant_paid hpaid h
    exact ⟨plan.id, rfl⟩
  · unfold settleTenant at h
    rcases hfailed with hstatus | hstatus <;> rw [hstatus] at h <;>
      exact (Except.ok.inj h) ▸ rfl
  · unfold settleTenant at h
    rcases hpending with hstatus | hstatus <;> rw [hstatus] at h <;>
      exact (Except.ok.inj h).symm

/-- While an approved payment stands, the invoice is paid. -/
def PaidInv (invoiceId : Uuid) (r : PaymentRun) : Prop :=
  r.approved ≠ [] →
    ∃ invoice, r.db.invoices.find invoiceId = some invoice ∧ invoice.status = .paid

theorem approvedAfter_eq_nil {p : Payment} {id : String} {approved : List String}
    (hstatus : p.invoiceStatus env ≠ .paid)
    (h : ∀ q ∈ approved, q = id ∧ p.isRefund env = true) :
    approvedAfter env id p approved = [] := by
  unfold approvedAfter
  rw [if_neg hstatus]
  split
  · apply List.filter_eq_nil_iff.mpr
    intro q hq
    simpa using (h q hq).1
  next hnot =>
    apply List.eq_nil_iff_forall_not_mem.mpr
    intro q hq
    exact hnot (h q hq).2

/-- One call keeps all that was promised. -/
theorem paymentKept_step (hinv : PaidInv invoiceId r) (hone : c.refersTo env invoiceId)
    (hok : OnceEach env invoiceId r c) (hs : paymentStep env r c = some r') :
    PaymentKept env invoiceId r c r' := by
  rcases paymentStep_cases hs with rfl | ⟨p, invoice, hp, hinvoice, happroved, hsettled⟩
  · exact {
      staysPaid := hinv
      notPastDue := fun _ t ht hdue => ⟨t, ht, rfl, hdue⟩
      again := fun _ _ _ _ => rfl
      periodGrows := fun _ _ _ t ht e he => ⟨t, ht, rfl, e, he, Int.le_refl e⟩ }
  have hfind : r.db.invoices.find invoiceId = some invoice := by
    unfold invoiceOfPayment at hinvoice
    rw [hone p hp] at hinvoice
    exact hinvoice
  have hid : invoice.id = invoiceId := (Table.find_eq_some.mp hfind).2
  have hinvoices : r'.db.invoices = (recordedPayment env c p invoice r.db).invoices := by
    rcases hsettled with ⟨-, hdb⟩ | ⟨tenant, -, hsettle⟩
    · rw [hdb]
    · exact (settleTenant_keeps hsettle).1
  have hrow : r'.db.invoices.find invoiceId = some
      ((recordPayment (strip c.paymentId) p (p.invoiceStatus env) c.now).apply invoice) := by
    rw [hinvoices, recordedPayment, hid, find_updateInvoice_self, hfind]
    rfl
  obtain ⟨hpaid, hother⟩ := hok p (by rw [hp]; rfl)
  have hstands : r'.approved ≠ [] → p.invoiceStatus env = .paid := by
    intro hne
    by_contra hstatus
    exact hne (happroved.trans (approvedAfter_eq_nil hstatus (hother hstatus)))
  constructor
  · exact fun hne => ⟨_, hrow, hstands hne⟩
  · intro hq t ht hdue
    obtain ⟨q, hq, hne⟩ := hq
    have hstatus : p.invoiceStatus env = .paid := by
      by_contra hstatus
      exact hne (hother hstatus q hq).1
    rcases hsettled with ⟨-, hdb⟩ | ⟨tenant, -, hsettle⟩
    · rw [hdb] at ht
      exact ⟨t, ht, rfl, hdue⟩
    · obtain ⟨planId, htenants⟩ := (tenants_settled hsettle).1 hstatus
      rw [htenants] at ht
      obtain ⟨old, hold, rfl⟩ := Table.mem_modify.mp ht
      split at hdue
      · cases hdue
      next hother' =>
        rw [if_neg hother']
        exact ⟨old, hold, rfl, hdue⟩
  · intro p' hp' hstatus hmem
    obtain rfl := Except.ok.inj (hp.symm.trans hp')
    exact absurd hmem (hpaid hstatus).1
  · intro p' hp' hstatus t ht periodEnd hperiod
    obtain rfl := Except.ok.inj (hp.symm.trans hp')
    rcases hsettled with ⟨-, hdb⟩ | ⟨tenant, htenant, hsettle⟩
    · exact ⟨t, hdb ▸ ht, rfl, periodEnd, hperiod, Int.le_refl _⟩
    · obtain ⟨planId, htenants⟩ := (tenants_settled hsettle).1 hstatus
      refine ⟨_, htenants ▸ Table.mem_modify.mpr ⟨t, ht, rfl⟩, ?_⟩
      split
      next hsame =>
        obtain ⟨hmem, -⟩ := Table.find_eq_some.mp htenant
        obtain rfl : t = tenant := Table.eq_of_key ht hmem (of_decide_eq_true hsame)
        exact ⟨rfl, invoice.periodEnd, rfl,
          (hpaid hstatus).2 invoice hfind t htenant periodEnd hperiod⟩
      next => exact ⟨rfl, periodEnd, hperiod, Int.le_refl _⟩

end Steps

/-- **Payments are monotone** in every run in which an approved payment is processed once, for a
period that is not over before the tenant's, and no answer but its refund comes after it. -/
theorem payments_monotone (env : Env) (invoiceId : Uuid) (db : Database) (cs : List PaymentCall)
    (hone : ∀ c ∈ cs, c.refersTo env invoiceId)
    (hok : Along (paymentStep env) (OnceEach env invoiceId) { db := db } cs) :
    Along (paymentStep env) (KeptBy env invoiceId) { db := db } cs := by
  have hstep : ∀ r c r', PaidInv invoiceId r →
      OnceEach env invoiceId r c ∧ c.refersTo env invoiceId →
      paymentStep env r c = some r' → PaidInv invoiceId r' := by
    intro r c r' hinv hboth hs
    exact (paymentKept_step hinv hboth.2 hboth.1 hs).staysPaid
  apply (hok.and_mem hone).of_invariant hstep
  · intro r c hinv hboth r' hs
    exact paymentKept_step hinv hboth.2 hboth.1 hs
  · intro hne
    exact absurd rfl hne

/-! ## What later answers do -/

def basicPlan : Plan where
  id := 1
  name := "Basic"
  priceMonthly := 4900
  priceYearly := 49000
  maxDevices := 10
  maxUsers := 5

def acme : Tenant where
  id := 2
  name := "Acme"
  slug := "acme"
  email := "acme@example.com"
  planId := some 1

def acmeInvoice : Invoice where
  id := 3
  tenantId := 2
  amount := 4900
  periodStart := 0
  periodEnd := 30 * day
  status := .pending
  dueDate := day

def acmeDb (t : Tenant) : Database where
  plans := { rows := [basicPlan] }
  tenants := { rows := [t], nodup := List.nodup_singleton _ }
  invoices := { rows := [acmeInvoice] }

/-- A payment of the invoice, with the status that the gateway reports. -/
def acmeCall (paymentId status : String) (fresh : Uuid) : PaymentCall where
  paymentId := paymentId
  answer := .ok { status := status
                  externalReference := newExternalReference .unary 2 1 3 }
  now := day
  fresh := fresh

theorem acmeCall_refersTo (paymentId status : String) (fresh : Uuid) :
    (acmeCall paymentId status fresh).refersTo .ascii 3 := by
  intro p hp
  obtain rfl := Except.ok.inj hp
  show (refId (parseExternalReference (strip (newExternalReference .unary 2 1 3))) "invoice").bind
    UuidText.unary.parse = some 3
  decide +kernel

def acmeRun (t : Tenant) (cs : List PaymentCall) : Option PaymentRun :=
  exec (paymentStep .ascii) { db := acmeDb t } cs

/-- A rejected retry that is processed after the payment was approved leaves the invoice failed and
the tenant past due; the same payment processed twice adds a second subscription; and the payment
of an older invoice takes a paid period back. -/
theorem later_answer_unpays :
    (¬ ∀ (env : Env) (invoiceId : Uuid) (db : Database) (cs : List PaymentCall),
      (∀ c ∈ cs, c.refersTo env invoiceId) →
      Along (paymentStep env) (KeptBy env invoiceId) { db := db } cs) ∧
    ((acmeRun acme [acmeCall "1" "approved" 10, acmeCall "2" "rejected" 11]).map fun r =>
        (r.approved, r.db.invoices.rows.map Invoice.status,
          r.db.tenants.rows.map Tenant.subscriptionStatus)) =
      some (["1"], [.failed], [some .pastDue]) ∧
    ((acmeRun acme [acmeCall "1" "approved" 10, acmeCall "1" "approved" 11]).map fun r =>
        r.db.subscriptions.rows.map fun s => (s.id, s.status)) =
      some [(11, .active), (10, .canceled)] ∧
    ((acmeRun { acme with currentPeriodEnd := some (60 * day) } [acmeCall "1" "approved" 10]).map
        fun r => r.db.tenants.rows.map Tenant.currentPeriodEnd) = some [some (30 * day)] := by
  refine ⟨fun hall => ?_, by decide +kernel, by decide +kernel, by decide +kernel⟩
  have hrun : (acmeRun acme [acmeCall "1" "approved" 10, acmeCall "2" "rejected" 11]).map
      (fun r => (r.approved, (r.db.invoices.find 3).map Invoice.status)) =
        some (["1"], some .failed) := by decide +kernel
  obtain ⟨r', hr', hpair⟩ := Option.map_eq_some_iff.mp hrun
  obtain ⟨happroved, hfailed⟩ := Prod.mk.inj hpair
  obtain ⟨r, hr, hstep⟩ := @exec_concat _ _ _ _ _ [acmeCall "1" "approved" 10] _ hr'
  have hrefers : ∀ c ∈ [acmeCall "1" "approved" 10] ++ [acmeCall "2" "rejected" 11],
      c.refersTo .ascii 3 := by
    intro c hc
    rcases List.mem_pair.mp hc with rfl | rfl
    · exact acmeCall_refersTo _ _ _
    · exact acmeCall_refersTo _ _ _
  have hkept := (hall .ascii 3 (acmeDb acme) _ hrefers).at_event hr r' hstep
  obtain ⟨invoice, hfind, hpaid⟩ := hkept.staysPaid (by rw [happroved]; simp)
  rw [hfind, Option.map_some, hpaid] at hfailed
  cases hfailed

/-- A payment that is pending, is approved, and is given back. -/
theorem approved_once_kept :
    Along (paymentStep .ascii) (KeptBy .ascii 3) { db := acmeDb acme }
      [acmeCall "1" "pending" 10, acmeCall "1" "approved" 11, acmeCall "1" "refunded" 12] := by
  apply payments_monotone
  · intro c hc
    simp only [List.mem_cons, List.not_mem_nil, or_false] at hc
    rcases hc with rfl | rfl | rfl <;> exact acmeCall_refersTo _ _ _
  · exact along_of_check (by decide +kernel)

end BackupCenter.Billing
