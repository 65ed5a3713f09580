import BackupCenter.Billing.Schema

/-!
# The billing policy

When a tenant is overdue, when it is warned, and when it is blocked. The policy looks at the end
of the period that was paid last, or at the end of the trial.
-/
namespace BackupCenter.Billing

open BackupCenter.Lib
open BackupCenter.Tenants (Uuid)

def planPeriodDays (p : Plan) : Int :=
  if 0 < p.billingPeriodDays then p.billingPeriodDays else 30

/-- Without a plan there are no days of grace. -/
def planGraceDays (p : Option Plan) : Int :=
  let days := (p.map Plan.paymentGraceDays).getD 0
  if 0 ≤ days then days else 3

def resolveDueAt (t : Tenant) : Option Int := t.currentPeriodEnd.or t.trialEndsAt

structure BillingPolicyEvaluation where
  overdue : Bool
  shouldBlock : Bool
  overdueDays : Int
  graceDays : Int
  daysUntilBlock : Int
  dueAt : Option Int
  deriving Repr, DecidableEq

/-- The days that have begun since `dueAt`. -/
def overdueDays (dueAt now : Int) : Int := max ((now - dueAt) / day + 1) 1

def evaluateTenant (plan : Option Plan) (t : Tenant) (now : Int) : BillingPolicyEvaluation :=
  let graceDays := planGraceDays plan
  match resolveDueAt t with
  | none => ⟨false, false, 0, graceDays, graceDays, none⟩
  | some dueAt =>
    if now ≤ dueAt then ⟨false, false, 0, graceDays, graceDays, some dueAt⟩
    else
      let overdueDays := overdueDays dueAt now
      { overdue := true
        shouldBlock := graceDays < overdueDays
        overdueDays := overdueDays
        graceDays := graceDays
        daysUntilBlock := max (graceDays - overdueDays) 0
        dueAt := some dueAt }

structure RuntimeAlert where
  message : String
  overdueDays : Int
  daysUntilBlock : Int
  dueAt : Option Int
  deriving Repr, DecidableEq

def buildRuntimeAlert (env : Env) (plan : Option Plan) (t : Tenant) (now : Int) :
    Option RuntimeAlert :=
  if t.accessUnlimited then none
  else
    let evaluation := evaluateTenant plan t now
    if !evaluation.overdue || evaluation.shouldBlock then none
    else
      let urgencyText :=
        if evaluation.daysUntilBlock ≤ 0 then "Ultimo dia antes do bloqueio automatico."
        else s!"Bloqueio em {evaluation.daysUntilBlock} dia(s)."
      let dueStr := (evaluation.dueAt.map env.ddmmyyyy).getD "-"
      some {
        message := s!"Pagamento em aberto desde {dueStr}. {urgencyText} " ++
          "Regularize para evitar indisponibilidade de acesso."
        overdueDays := evaluation.overdueDays
        daysUntilBlock := evaluation.daysUntilBlock
        dueAt := evaluation.dueAt }

/-- The tenants that `enforce_access_policy` looks at. -/
def Tenant.underPolicy (t : Tenant) : Bool := !t.accessUnlimited && t.deletedAt.isNone

/-- What the policy makes of one of them. -/
def enforceTenant (plan : Option Plan) (now : Int) (t : Tenant) : Tenant :=
  let evaluation := evaluateTenant plan t now
  if evaluation.shouldBlock then
    { t with
      isActive := if t.isActive = some true then some false else t.isActive
      subscriptionStatus := some .canceled
      billingBlockedAt := t.billingBlockedAt.or (some now) }
  else if evaluation.overdue then
    if t.subscriptionStatus = some .active ∨ t.subscriptionStatus = some .trial then
      { t with subscriptionStatus := some .pastDue }
    else t
  else if t.billingBlockedAt.isSome && t.isActive = some true then
    { t with billingBlockedAt := none }
  else t

def enforcement (db : Database) (now : Int) : Update Tenant where
  apply t := enforceTenant (db.planOf t) now t
  keeps t := by
    unfold enforceTenant
    dsimp only
    split_ifs <;> rfl

structure PolicyCounts where
  processed : Nat
  markedPastDue : Nat
  blocked : Nat
  reactivated : Nat
  deriving Repr, DecidableEq

/-- `enforce_access_policy` -/
def enforceAccessPolicy (now : Int) (db : Database) : Database × PolicyCounts :=
  let tenants := db.tenants.rows.filter Tenant.underPolicy
  let becomes (p : Tenant → Tenant → Bool) :=
    tenants.countP fun t => p t (enforceTenant (db.planOf t) now t)
  ({ db with tenants := db.tenants.modify Tenant.underPolicy (enforcement db now) },
    { processed := tenants.length
      markedPastDue := becomes fun t t' =>
        t'.subscriptionStatus = some .pastDue && t.subscriptionStatus ≠ some .pastDue
      blocked := becomes fun t t' => t.isActive = some true && t'.isActive = some false
      reactivated := becomes fun t t' => t.billingBlockedAt.isSome && t'.billingBlockedAt.isNone })

section Evaluation

variable {plan : Option Plan} {t : Tenant} {now dueAt : Int}

theorem overdueDays_eq (h : dueAt < now) : overdueDays dueAt now = (now - dueAt) / day + 1 := by
  have hnonneg : 0 ≤ (now - dueAt) / day := Int.ediv_nonneg (by omega) (by decide)
  unfold overdueDays
  omega

/-- Who is blocked: the days of grace are over. -/
theorem evaluateTenant_due (h : resolveDueAt t = some dueAt) :
    ((evaluateTenant plan t now).overdue = true ↔ dueAt < now) ∧
    ((evaluateTenant plan t now).shouldBlock = true ↔
      dueAt < now ∧ planGraceDays plan ≤ (now - dueAt) / day) := by
  unfold evaluateTenant
  rw [h]
  dsimp only
  split
  next hle => simp [hle]
  next hlate =>
    have hlt : dueAt < now := by omega
    rw [overdueDays_eq hlt]
    simp only [hlt, true_and, decide_eq_true_eq]
    omega

/-- The policy never activates a tenant. -/
theorem enforceTenant_isActive :
    (enforceTenant plan now t).isActive =
      if (evaluateTenant plan t now).shouldBlock ∧ t.isActive = some true then some false
      else t.isActive := by
  unfold enforceTenant
  dsimp only
  split_ifs <;> simp_all

end Evaluation

end BackupCenter.Billing
