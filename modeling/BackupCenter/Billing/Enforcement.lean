import BackupCenter.Billing.Moments

/-!
# Enforcing the billing policy

The periodic task that blocks tenants, marks them as past due and forgets the stamp of a block that
is over. It reads what an earlier run wrote: the status in any spelling, the stamp and the
activity. The columns of the database are naive.
-/
namespace BackupCenter.Billing.Enforcement

open BackupCenter.Lib
open BackupCenter.Billing.Moments (BilledTenant)
open BackupCenter.Tenants (Uuid)

/-- The columns that the task reads or writes, and the plan that it loads with them. -/
structure TenantRow where
  id : Uuid
  isActive : Option Bool := some true
  subscriptionStatus : Option String := some "trial"
  currentPeriodEnd : Option Int := none
  trialEndsAt : Option Int := none
  billingBlockedAt : Option Int := none
  deletedAt : Option Int := none
  accessUnlimited : Bool := false
  plan : Option Plan := none
  deriving DecidableEq

/-- The filter of the query. -/
def TenantRow.underPolicy (t : TenantRow) : Bool := !t.accessUnlimited && t.deletedAt.isNone

/-- What `evaluate_tenant` reads. -/
def TenantRow.billed (t : TenantRow) : BilledTenant where
  currentPeriodEnd := t.currentPeriodEnd.map .naive
  trialEndsAt := t.trialEndsAt.map .naive
  plan := t.plan
  accessUnlimited := t.accessUnlimited

section Task

variable (env : Env) (localTime : Int → Int) (now : Int)

def TenantRow.evaluation (t : TenantRow) : BillingPolicyEvaluation :=
  Moments.evaluateTenant localTime t.billed (.naive now)

/-- The body of the loop. -/
def enforceRow (t : TenantRow) (counts : PolicyCounts) : TenantRow × PolicyCounts :=
  let counts := { counts with processed := counts.processed + 1 }
  let evaluation := t.evaluation localTime now
  let status := env.lower (strip (t.subscriptionStatus.getD ""))
  if evaluation.shouldBlock then
    let blocked := if t.isActive = some true then counts.blocked + 1 else counts.blocked
    ({ t with
        isActive := if t.isActive = some true then some false else t.isActive
        subscriptionStatus := some "canceled"
        billingBlockedAt := if t.billingBlockedAt.isNone then some now else t.billingBlockedAt },
      { counts with blocked := blocked })
  else if evaluation.overdue then
    if status ∈ ["active", "trial", "past_due"] ∧ t.subscriptionStatus ≠ some "past_due" then
      ({ t with subscriptionStatus := some "past_due" },
        { counts with markedPastDue := counts.markedPastDue + 1 })
    else (t, counts)
  else if t.billingBlockedAt.isSome ∧ t.isActive = some true then
    ({ t with billingBlockedAt := none }, { counts with reactivated := counts.reactivated + 1 })
  else (t, counts)

/-- `for tenant in tenants`; the rows that the query leaves out stay as they are. -/
def enforceRows : List TenantRow → PolicyCounts → List TenantRow × PolicyCounts
  | [], counts => ([], counts)
  | t :: rest, counts =>
    if t.underPolicy then
      let (t', counts) := enforceRow env localTime now t counts
      let (rest', counts) := enforceRows rest counts
      (t' :: rest', counts)
    else
      let (rest', counts) := enforceRows rest counts
      (t :: rest', counts)

/-- `enforce_access_policy` -/
def enforceAccessPolicy (rows : List TenantRow) : List TenantRow × PolicyCounts :=
  enforceRows env localTime now rows ⟨0, 0, 0, 0⟩

end Task

/-! ## One row -/

/-- What a run makes of a row. -/
structure Enforced (localTime : Int → Int) (now : Int) (t t' : TenantRow) : Prop where
  untouched : t.accessUnlimited = true ∨ t.deletedAt.isSome → t' = t
  blocks : t.underPolicy = true → (t.evaluation localTime now).shouldBlock = true →
    t'.isActive ≠ some true ∧ t'.subscriptionStatus = some "canceled" ∧
      t'.billingBlockedAt.isSome
  /-- Nobody else is made inactive or canceled or gets a stamp. -/
  spares : (t.evaluation localTime now).shouldBlock = false →
    t'.isActive = t.isActive ∧
      (t'.subscriptionStatus = some "canceled" → t.subscriptionStatus = some "canceled") ∧
      (t'.billingBlockedAt.isSome → t'.billingBlockedAt = t.billingBlockedAt)
  neverActivates : t'.isActive = some true → t.isActive = some true
  /-- The stamp of a tenant that is blocked, by this run or before, stays. -/
  keepsStamp : ∀ stamp, t.billingBlockedAt = some stamp →
    (t.evaluation localTime now).shouldBlock = true ∨ t.isActive ≠ some true →
      t'.billingBlockedAt = some stamp
  keepsOthers : t' = { t with
    isActive := t'.isActive
    subscriptionStatus := t'.subscriptionStatus
    billingBlockedAt := t'.billingBlockedAt }

section Rows

variable {env : Env} {localTime : Int → Int} {now : Int} {t : TenantRow} {counts : PolicyCounts}

theorem Enforced.refl (h : t.underPolicy = false) : Enforced localTime now t t where
  untouched _ := rfl
  blocks hunder := absurd hunder (Bool.eq_false_iff.mp h)
  spares _ := ⟨rfl, id, fun _ => rfl⟩
  neverActivates := id
  keepsStamp _ hstamp _ := hstamp
  keepsOthers := rfl

theorem not_untouched (h : t.underPolicy = true) :
    ¬ (t.accessUnlimited = true ∨ t.deletedAt.isSome) := by
  unfold TenantRow.underPolicy at h
  simp only [Bool.and_eq_true, Bool.not_eq_true', Option.isNone_iff_eq_none] at h
  simp [h]

theorem pastDue_ne_canceled : some "past_due" ≠ some "canceled" := by decide

theorem enforced_enforceRow (h : t.underPolicy = true) :
    Enforced localTime now t (enforceRow env localTime now t counts).1 := by
  have huntouched := not_untouched h
  unfold enforceRow
  dsimp only
  split
  next hblock =>
    refine ⟨fun hskip => absurd hskip huntouched, fun _ _ => ⟨?_, rfl, ?_⟩, ?_, ?_, ?_, rfl⟩
    · dsimp only
      split
      · exact nofun
      next hinactive => exact hinactive
    · dsimp only
      cases t.billingBlockedAt <;> rfl
    · intro hspared
      rw [hblock] at hspared
      cases hspared
    · dsimp only
      split
      · exact nofun
      · exact id
    · intro stamp hstamp _
      dsimp only
      rw [hstamp]
      rfl
  next hfree =>
    split
    next hover =>
      split
      · exact ⟨fun hskip => absurd hskip huntouched, fun _ hblock => absurd hblock hfree,
          fun _ => ⟨rfl, fun heq => absurd heq pastDue_ne_canceled, fun _ => rfl⟩, id,
          fun _ hstamp _ => hstamp, rfl⟩
      · exact ⟨fun _ => rfl, fun _ hblock => absurd hblock hfree,
          fun _ => ⟨rfl, id, fun _ => rfl⟩, id, fun _ hstamp _ => hstamp, rfl⟩
    next =>
      split
      next hover =>
        refine ⟨fun hskip => absurd hskip huntouched, fun _ hblock => absurd hblock hfree,
          fun _ => ⟨rfl, id, nofun⟩, id, ?_, rfl⟩
        intro stamp _ hkept
        exact (hkept.elim hfree fun hinactive => hinactive hover.2).elim
      · exact ⟨fun _ => rfl, fun _ hblock => absurd hblock hfree,
          fun _ => ⟨rfl, id, fun _ => rfl⟩, id, fun _ hstamp _ => hstamp, rfl⟩

/-- What a run leaves is evaluated as before, at any time. -/
theorem Enforced.evaluation {t' : TenantRow} (h : Enforced localTime now t t') (later : Int) :
    t'.evaluation localTime later = t.evaluation localTime later := by
  rw [h.keepsOthers]
  rfl

theorem Enforced.underPolicy {t' : TenantRow} (h : Enforced localTime now t t') :
    t'.underPolicy = t.underPolicy := by
  rw [h.keepsOthers]
  rfl

/-- A row of which a run has nothing to change. -/
structure Settled (env : Env) (localTime : Int → Int) (now : Int) (t : TenantRow) : Prop where
  blocked : (t.evaluation localTime now).shouldBlock = true →
    t.isActive ≠ some true ∧ t.subscriptionStatus = some "canceled" ∧ t.billingBlockedAt.isSome
  marked : (t.evaluation localTime now).shouldBlock = false →
    (t.evaluation localTime now).overdue = true →
      ¬ (env.lower (strip (t.subscriptionStatus.getD "")) ∈ ["active", "trial", "past_due"] ∧
        t.subscriptionStatus ≠ some "past_due")
  forgotten : (t.evaluation localTime now).overdue = false →
    ¬ (t.billingBlockedAt.isSome ∧ t.isActive = some true)

theorem enforceRow_settled (h : Settled env localTime now t) :
    enforceRow env localTime now t counts =
      (t, { counts with processed := counts.processed + 1 }) := by
  unfold enforceRow
  dsimp only
  split
  next hblock =>
    obtain ⟨hinactive, hcanceled, hstamp⟩ := h.blocked hblock
    obtain ⟨stamp, hstamp⟩ := Option.isSome_iff_exists.mp hstamp
    have hkept : (if t.billingBlockedAt.isNone then some now else t.billingBlockedAt) =
        t.billingBlockedAt := by rw [hstamp]; rfl
    rw [if_neg hinactive, if_neg hinactive, hkept, ← hcanceled]
  next hfree =>
    split
    next hover => rw [if_neg (h.marked (Bool.eq_false_iff.mpr hfree) hover)]
    next hover => rw [if_neg (h.forgotten (Bool.eq_false_iff.mpr hover))]

/-- Who should be blocked is overdue. -/
theorem overdue_of_shouldBlock (h : (t.evaluation localTime now).shouldBlock = true) :
    (t.evaluation localTime now).overdue = true := by
  have hgrace := Moments.planGraceDays_nonneg t.billed.plan
  have heval : t.evaluation localTime now = _ := Moments.evaluateDue_eq hgrace
  rw [heval] at h ⊢
  have hlt := of_decide_eq_true h
  exact decide_eq_true (by omega)

theorem settled_enforceRow (h : t.underPolicy = true) :
    Settled env localTime now (enforceRow env localTime now t counts).1 := by
  have henforced := @enforced_enforceRow env localTime now t counts h
  have heval := henforced.evaluation now
  refine ⟨?_, ?_, ?_⟩
  · intro hblock
    exact henforced.blocks h (heval ▸ hblock)
  · intro hfree hover hagain
    rw [heval] at hfree hover
    revert hagain
    unfold enforceRow
    dsimp only
    rw [if_neg (Bool.eq_false_iff.mp hfree), if_pos hover]
    split
    · exact fun hagain => hagain.2 rfl
    next hnot => exact hnot
  · intro hover hagain
    rw [heval] at hover
    have hfree : ¬ (t.evaluation localTime now).shouldBlock = true := by
      intro hblock
      rw [overdue_of_shouldBlock hblock] at hover
      cases hover
    revert hagain
    unfold enforceRow
    dsimp only
    rw [if_neg hfree, if_neg (Bool.eq_false_iff.mp hover)]
    split
    · exact fun hagain => Bool.false_ne_true hagain.1
    next hnot => exact hnot

theorem enforceRow_isActive :
    (enforceRow env localTime now t counts).1.isActive =
      if (t.evaluation localTime now).shouldBlock = true ∧ t.isActive = some true then some false
      else t.isActive := by
  unfold enforceRow
  dsimp only
  split_ifs <;> simp_all

end Rows

/-! ## All rows -/

section Run

variable {env : Env} {localTime : Int → Int} {now : Int} {rows : List TenantRow}
variable {counts : PolicyCounts}

theorem enforceRow_fst (t : TenantRow) (counts counts' : PolicyCounts) :
    (enforceRow env localTime now t counts).1 = (enforceRow env localTime now t counts').1 := by
  unfold enforceRow
  dsimp only
  split_ifs <;> rfl

/-- What a run leaves of a row. -/
def rowAfter (env : Env) (localTime : Int → Int) (now : Int) (t : TenantRow) : TenantRow :=
  if t.underPolicy then (enforceRow env localTime now t ⟨0, 0, 0, 0⟩).1 else t

theorem enforceRows_fst :
    (enforceRows env localTime now rows counts).1 = rows.map (rowAfter env localTime now) := by
  induction rows generalizing counts with
  | nil => rfl
  | cons t rest ih =>
    unfold enforceRows rowAfter
    split
    next h =>
      rw [List.map_cons, if_pos h, enforceRow_fst t ⟨0, 0, 0, 0⟩ counts]
      exact congrArg _ ih
    next h =>
      rw [List.map_cons, if_neg h]
      exact congrArg _ ih

theorem enforced_rowAfter (t : TenantRow) :
    Enforced localTime now t (rowAfter env localTime now t) := by
  unfold rowAfter
  split
  next h => exact enforced_enforceRow h
  next h => exact .refl (Bool.eq_false_iff.mpr h)

/-- Settled rows stay, and only the number of the processed ones grows. -/
theorem enforceRows_settled
    (h : ∀ t ∈ rows, t.underPolicy = true → Settled env localTime now t) :
    (enforceRows env localTime now rows counts).1 = rows ∧
    (enforceRows env localTime now rows counts).2.blocked = counts.blocked ∧
    (enforceRows env localTime now rows counts).2.markedPastDue = counts.markedPastDue ∧
    (enforceRows env localTime now rows counts).2.reactivated = counts.reactivated := by
  induction rows generalizing counts with
  | nil => exact ⟨rfl, rfl, rfl, rfl⟩
  | cons t rest ih =>
    have hrest := fun t ht => h t (List.mem_cons_of_mem _ ht)
    unfold enforceRows
    split
    next hunder =>
      rw [enforceRow_settled (h t (List.mem_cons_self ..) hunder)]
      obtain ⟨hrows, hcounts⟩ := @ih { counts with processed := counts.processed + 1 } hrest
      exact ⟨congrArg _ hrows, hcounts⟩
    next =>
      obtain ⟨hrows, hcounts⟩ := @ih counts hrest
      exact ⟨congrArg _ hrows, hcounts⟩

/-- A later run blocks whom an earlier one blocks. -/
theorem shouldBlock_mono {t : TenantRow} {later : Int} (hle : now ≤ later)
    (h : (t.evaluation localTime now).shouldBlock = true) :
    (t.evaluation localTime later).shouldBlock = true := by
  have hgrace := Moments.planGraceDays_nonneg t.billed.plan
  have heval : t.evaluation localTime now = _ := Moments.evaluateDue_eq hgrace
  have heval' : t.evaluation localTime later = _ := Moments.evaluateDue_eq hgrace
  have hdays := @Moments.countedDays_mono now (Moments.resolveDueAt localTime t.billed) later hle
  rw [heval] at h
  rw [heval']
  exact decide_eq_true (lt_of_lt_of_le (of_decide_eq_true h) hdays)

theorem rowAfter_isActive (t : TenantRow) :
    (rowAfter env localTime now t).isActive =
      if t.underPolicy = true ∧ (t.evaluation localTime now).shouldBlock = true ∧
        t.isActive = some true then some false else t.isActive := by
  unfold rowAfter
  split
  next h => simp only [enforceRow_isActive, h, true_and]
  next h => rw [if_neg fun hall => h hall.1]

theorem isActive_rowAfter_rowAfter {later : Int} (hle : now ≤ later) (t : TenantRow) :
    (rowAfter env localTime later (rowAfter env localTime now t)).isActive =
      (rowAfter env localTime later t).isActive := by
  have henforced := @enforced_rowAfter env localTime now t
  rw [rowAfter_isActive, rowAfter_isActive, henforced.evaluation, henforced.underPolicy,
    rowAfter_isActive]
  by_cases hnow : t.underPolicy = true ∧ (t.evaluation localTime now).shouldBlock = true ∧
      t.isActive = some true
  · have hlater := shouldBlock_mono hle hnow.2.1
    simp [hnow, hlater]
  · rw [if_neg hnow]

end Run

/-! ## Statuses by name -/

/-- How the database spells a status. -/
def statusText : TenantStatus → String
  | .trial => "trial"
  | .active => "active"
  | .pendingPayment => "pending_payment"
  | .pastDue => "past_due"
  | .canceled => "canceled"

/-- The row of a tenant whose status has a name. -/
def TenantRow.ofTenant (plan : Option Plan) (t : Tenant) : TenantRow where
  id := t.id
  isActive := t.isActive
  subscriptionStatus := t.subscriptionStatus.map statusText
  currentPeriodEnd := t.currentPeriodEnd
  trialEndsAt := t.trialEndsAt
  billingBlockedAt := t.billingBlockedAt
  deletedAt := t.deletedAt
  accessUnlimited := t.accessUnlimited
  plan := plan

section Names

variable {env : Env} {localTime : Int → Int} {now : Int} {plan : Option Plan} {t : Tenant}

theorem evaluation_ofTenant (h : ∀ due ∈ resolveDueAt t, now - due < 2 ^ 53) :
    (TenantRow.ofTenant plan t).evaluation localTime now = evaluateTenant plan t now := by
  rw [← Moments.evaluateDue_eq_evaluateTenant h]
  show Moments.evaluateDue _ (Moments.resolveDueAt localTime _) now = _
  have hdue : Moments.resolveDueAt localTime (TenantRow.ofTenant plan t).billed =
      resolveDueAt t := by
    unfold Moments.resolveDueAt resolveDueAt
    cases hperiod : t.currentPeriodEnd <;> cases htrial : t.trialEndsAt <;>
      simp [TenantRow.billed, TenantRow.ofTenant, hperiod, htrial, Moments.coerceNaiveUtc]
  rw [hdue]
  rfl

/-- What marks a named status as past due. -/
theorem markable_iff (hlower : ∀ status, env.lower (strip (statusText status)) = statusText status)
    (hempty : env.lower (strip "") = "") :
    (env.lower (strip ((t.subscriptionStatus.map statusText).getD "")) ∈
        ["active", "trial", "past_due"] ∧
      t.subscriptionStatus.map statusText ≠ some "past_due") ↔
    t.subscriptionStatus = some .active ∨ t.subscriptionStatus = some .trial := by
  cases t.subscriptionStatus with
  | none =>
    rw [Option.map_none, Option.getD_none, hempty]
    simp
  | some status =>
    rw [Option.map_some, Option.getD_some, hlower]
    cases status <;> decide

/-- On rows with named statuses the task is the policy of the billing model. -/
theorem rowAfter_ofTenant
    (hlower : ∀ status, env.lower (strip (statusText status)) = statusText status)
    (hempty : env.lower (strip "") = "") (h : ∀ due ∈ resolveDueAt t, now - due < 2 ^ 53)
    (hunder : t.underPolicy = true) :
    rowAfter env localTime now (.ofTenant plan t) = .ofTenant plan (enforceTenant plan now t) := by
  unfold rowAfter
  rw [if_pos (show (TenantRow.ofTenant plan t).underPolicy = true from hunder)]
  unfold enforceRow enforceTenant
  dsimp only
  rw [evaluation_ofTenant h]
  split
  next =>
    cases hstamp : t.billingBlockedAt <;>
      simp [TenantRow.ofTenant, statusText, hstamp]
  next =>
    split
    next =>
      have hmarkable : (env.lower (strip ((TenantRow.ofTenant plan t).subscriptionStatus.getD "")) ∈
            ["active", "trial", "past_due"] ∧
          (TenantRow.ofTenant plan t).subscriptionStatus ≠ some "past_due") ↔
          t.subscriptionStatus = some .active ∨ t.subscriptionStatus = some .trial :=
        markable_iff hlower hempty
      rw [if_congr hmarkable rfl rfl]
      split <;> rfl
    next =>
      have hsame : ((TenantRow.ofTenant plan t).billingBlockedAt.isSome = true ∧
          (TenantRow.ofTenant plan t).isActive = some true) ↔
          (t.billingBlockedAt.isSome && decide (t.isActive = some true)) = true := by
        rw [Bool.and_eq_true, decide_eq_true_eq]
        rfl
      rw [if_congr hsame rfl rfl]
      split <;> rfl

end Names

/-- Enforcement is local and idempotent, and of two runs the later one decides who is active. -/
theorem enforceAccessPolicy_idempotent (env : Env) (localTime : Int → Int) (now : Int)
    (rows : List TenantRow) :
    let after := (enforceAccessPolicy env localTime now rows).1
    let again := enforceAccessPolicy env localTime now after
    List.Forall₂ (Enforced localTime now) rows after ∧
    (again.1 = after ∧ again.2.blocked = 0 ∧ again.2.markedPastDue = 0 ∧
      again.2.reactivated = 0) ∧
    ∀ later, now ≤ later →
      (enforceAccessPolicy env localTime later after).1.map TenantRow.isActive =
        (enforceAccessPolicy env localTime later rows).1.map TenantRow.isActive := by
  unfold enforceAccessPolicy
  refine ⟨?_, ?_, ?_⟩
  · rw [enforceRows_fst, List.forall₂_map_right_iff]
    exact List.forall₂_same.mpr fun t _ => enforced_rowAfter t
  · apply enforceRows_settled
    intro t ht hunder
    rw [enforceRows_fst] at ht
    obtain ⟨t, -, rfl⟩ := List.mem_map.mp ht
    rw [(enforced_rowAfter t).underPolicy] at hunder
    unfold rowAfter
    rw [if_pos hunder]
    exact settled_enforceRow hunder
  · intro later hle
    simp only [enforceRows_fst, List.map_map]
    apply List.map_congr_left
    intro t _
    exact isActive_rowAfter_rowAfter hle t

end BackupCenter.Billing.Enforcement
