import BackupCenter.Billing.Policy
import BackupCenter.Lib.Double
import Mathlib.Data.Set.Basic

/-!
# The billing policy and the clock of the server

The policy compares two `datetime` values after a conversion that is meant to yield naive UTC but
yields the wall clock of the process for an aware value. It also counts the elapsed time as a
double of seconds before it divides by the length of a day.
-/
namespace BackupCenter.Billing.Moments

open BackupCenter.Lib

/-- A `datetime`: naive, which stands for UTC, or aware with its offset. In microseconds. -/
inductive Moment where
  | naive (utc : Int)
  | aware (wall utcOffset : Int)
  deriving Repr, DecidableEq

/-- The instant that is meant. -/
def Moment.instant : Moment → Int
  | naive utc => utc
  | aware wall utcOffset => wall - utcOffset

/-- `_coerce_naive_utc`. Without an argument `astimezone` goes to the zone of the process;
`localTime` is what a wall clock shows there. -/
def coerceNaiveUtc (localTime : Int → Int) : Moment → Int
  | .naive utc => utc
  | .aware wall utcOffset => localTime (wall - utcOffset)

/-- What the policy reads of a tenant. -/
structure BilledTenant where
  currentPeriodEnd : Option Moment := none
  trialEndsAt : Option Moment := none
  plan : Option Plan := none
  accessUnlimited : Bool := false
  deriving DecidableEq

def BilledTenant.due (t : BilledTenant) : Option Moment := t.currentPeriodEnd.or t.trialEndsAt

/-- `resolve_due_at` -/
def resolveDueAt (localTime : Int → Int) (t : BilledTenant) : Option Int :=
  let currentPeriodEnd := t.currentPeriodEnd.map (coerceNaiveUtc localTime)
  let trialEndsAt := t.trialEndsAt.map (coerceNaiveUtc localTime)
  currentPeriodEnd.or trialEndsAt

/-- `timedelta.total_seconds()` of a positive difference. -/
def totalSeconds (micros : Int) : ℚ := toDouble (micros / 1000000)

/-- `int(total_seconds() // 86400)`: two doubles have an exact floored quotient. -/
def wholeDays (micros : Int) : Int := ⌊totalSeconds micros / 86400⌋

/-- `evaluate_tenant` from the converted values on. -/
def evaluateDue (graceDays : Int) (dueAt : Option Int) (now : Int) : BillingPolicyEvaluation :=
  match dueAt with
  | none => ⟨false, false, 0, graceDays, graceDays, none⟩
  | some dueAt =>
    if now ≤ dueAt then ⟨false, false, 0, graceDays, graceDays, some dueAt⟩
    else
      let overdueDays := max (wholeDays (now - dueAt) + 1) 1
      { overdue := true
        shouldBlock := graceDays < overdueDays
        overdueDays := overdueDays
        graceDays := graceDays
        daysUntilBlock := max (graceDays - overdueDays) 0
        dueAt := some dueAt }

def evaluateTenant (localTime : Int → Int) (t : BilledTenant) (now : Moment) :
    BillingPolicyEvaluation :=
  evaluateDue (planGraceDays t.plan) (resolveDueAt localTime t) (coerceNaiveUtc localTime now)

def buildRuntimeAlert (env : Env) (localTime : Int → Int) (t : BilledTenant) (now : Moment) :
    Option RuntimeAlert :=
  if t.accessUnlimited then none
  else
    let evaluation := evaluateTenant localTime t now
    if !evaluation.overdue || evaluation.shouldBlock then none
    else
      let urgencyText :=
        if evaluation.daysUntilBlock ≤ 0 then "Ultimo dia antes do bloqueio automatico."
        else s!"Bloqueio em {evaluation.daysUntilBlock} dia(s)."
      let dueStr := (evaluation.dueAt.map env.ddmmyyyy).getD "-"
      some {
        message := s!"Pagamento em aberto desde {dueStr}. {urgencyText} " ++
          "Regularize para evitar indisponibilidade de acesso."
        overdueDays := evaluation.overdueDays
        daysUntilBlock := evaluation.daysUntilBlock
        dueAt := evaluation.dueAt }

/-! ## Elapsed days -/

theorem planGraceDays_nonneg (p : Option Plan) : 0 ≤ planGraceDays p := by
  unfold planGraceDays
  dsimp only
  split_ifs <;> omega

section Days

variable {micros : Int}

theorem le_wholeDays_iff (days : Int) :
    days ≤ wholeDays micros ↔ (days * 86400 : ℚ) ≤ totalSeconds micros := by
  unfold wholeDays
  rw [Int.le_floor, le_div_iff₀ (by norm_num)]

theorem wholeDays_mono {later : Int} (h : 0 ≤ micros) (hle : micros ≤ later) :
    wholeDays micros ≤ wholeDays later := by
  unfold wholeDays totalSeconds
  have hmicros : (0 : ℚ) ≤ micros := by exact_mod_cast h
  have hlater : (micros : ℚ) ≤ later := by exact_mod_cast hle
  apply Int.floor_le_floor
  apply div_le_div_of_nonneg_right _ (by norm_num)
  exact toDouble_mono (div_nonneg hmicros (by norm_num))
    (div_le_div_of_nonneg_right hlater (by norm_num))

theorem totalSeconds_nonneg (h : 0 ≤ micros) : 0 ≤ totalSeconds micros := by
  have hmicros : (0 : ℚ) ≤ micros := by exact_mod_cast h
  exact toDouble_nonneg (div_nonneg hmicros (by norm_num))

theorem wholeDays_nonneg (h : 0 ≤ micros) : 0 ≤ wholeDays micros := by
  rw [le_wholeDays_iff, Int.cast_zero, zero_mul]
  exact totalSeconds_nonneg h

/-- For 285 years the double loses nothing that matters. -/
theorem wholeDays_eq (h : 0 ≤ micros) (hsmall : micros < 2 ^ 53) :
    wholeDays micros = micros / day := by
  have hmicros : (0 : ℚ) ≤ micros := by exact_mod_cast h
  have hbound : (micros : ℚ) < 2 ^ 53 := by exact_mod_cast hsmall
  have hday : day = 86400 * 1000000 := rfl
  apply le_antisymm
  · -- a whole number of days that is not reached is a microsecond away
    by_contra hlt
    push Not at hlt
    have hreached : ((micros / day + 1 : Int) * 86400 : ℚ) ≤ totalSeconds micros :=
      (le_wholeDays_iff _).mp (Int.add_one_le_of_lt hlt)
    have hnext : micros + 1 ≤ (micros / day + 1) * day := by
      have := Int.lt_ediv_add_one_mul_self micros (by rw [hday]; decide : (0 : Int) < day)
      omega
    have hnext' : (micros + 1 : ℚ) ≤ ((micros / day + 1 : Int) * 86400) * 1000000 := by
      rw [mul_assoc]
      have := hday ▸ hnext
      exact_mod_cast this
    have herror := (toDouble_bounds (div_nonneg hmicros (by norm_num :
      (0 : ℚ) ≤ 1000000))).2
    unfold totalSeconds at hreached
    linarith
  · -- a whole number of seconds is a double
    have hwhole : micros / day * day ≤ micros := Int.ediv_mul_le _ (by rw [hday]; decide)
    have hpos : 0 ≤ micros / day := Int.ediv_nonneg h (by rw [hday]; decide)
    obtain ⟨seconds, hseconds⟩ : ∃ n : ℕ, micros / day * 86400 = n :=
      ⟨(micros / day * 86400).toNat, by omega⟩
    have hexact : toDouble (seconds : ℚ) = seconds := toDouble_natCast (by rw [hday] at *; omega)
    have hseconds' : ((micros / day : Int) * 86400 : ℚ) = seconds := by exact_mod_cast hseconds
    rw [le_wholeDays_iff, hseconds', ← hexact]
    apply toDouble_mono (Nat.cast_nonneg _)
    rw [le_div_iff₀ (by norm_num), ← hseconds', mul_assoc]
    have := hday ▸ hwhole
    exact_mod_cast this

end Days

/-! ## What an evaluation says -/

/-- The days that have started since the due instant. -/
def startedDays (due : Option Int) (now : Int) : Int :=
  match due with
  | none => 0
  | some due => if due < now then (now - due) / day + 1 else 0

/-- The days that the policy counts. -/
def countedDays (dueAt : Option Int) (now : Int) : Int :=
  match dueAt with
  | none => 0
  | some dueAt => if dueAt < now then wholeDays (now - dueAt) + 1 else 0

section Evaluation

variable {graceDays now : Int} {dueAt : Option Int}

/-- An evaluation is a reading of the counted days. -/
theorem evaluateDue_eq (h : 0 ≤ graceDays) :
    evaluateDue graceDays dueAt now =
      { overdue := 0 < countedDays dueAt now
        shouldBlock := graceDays < countedDays dueAt now
        overdueDays := countedDays dueAt now
        graceDays := graceDays
        daysUntilBlock := max (graceDays - countedDays dueAt now) 0
        dueAt := dueAt } := by
  unfold evaluateDue countedDays
  cases dueAt with
  | none => simp [h, Int.not_lt.mpr h]
  | some due =>
    dsimp only
    split
    next hle =>
      have hlate : ¬ due < now := by omega
      simp [hlate, h, Int.not_lt.mpr h]
    next hlate =>
      have hlt : due < now := by omega
      have hnonneg := wholeDays_nonneg (by omega : 0 ≤ now - due)
      have hmax : max (wholeDays (now - due) + 1) 1 = wholeDays (now - due) + 1 := by omega
      have hpos : 0 < wholeDays (now - due) + 1 := by omega
      simp [hlt, hmax, hpos]

theorem countedDays_mono {later : Int} (h : now ≤ later) :
    countedDays dueAt now ≤ countedDays dueAt later := by
  unfold countedDays
  cases dueAt with
  | none => exact le_refl 0
  | some due =>
    dsimp only
    split
    next hlt =>
      rw [if_pos (by omega)]
      have := wholeDays_mono (by omega : 0 ≤ now - due) (by omega : now - due ≤ later - due)
      omega
    next =>
      split
      next hlt =>
        have := wholeDays_nonneg (by omega : 0 ≤ later - due)
        omega
      next => exact le_refl 0

theorem startedDays_pos_iff {due : Option Int} :
    0 < startedDays due now ↔ ∃ d ∈ due, d < now := by
  unfold startedDays
  cases due with
  | none => simp
  | some d =>
    dsimp only
    split
    next hlt =>
      have := Int.ediv_nonneg (by omega : 0 ≤ now - d) (by decide : 0 ≤ day)
      simp [hlt]
      omega
    next hle => simp [hle]

theorem lt_startedDays_iff {due : Option Int} (h : 0 ≤ graceDays) :
    graceDays < startedDays due now ↔ ∃ d ∈ due, graceDays * day ≤ now - d ∧ d < now := by
  unfold startedDays
  cases due with
  | none => simp [Int.not_lt.mpr h]
  | some d =>
    dsimp only
    split
    next hlt =>
      rw [Int.lt_add_one_iff, Int.le_ediv_iff_mul_le (by decide)]
      simp [hlt]
    next hle => simp [hle, Int.not_lt.mpr h]

end Evaluation

/-- Who is warned: the tenants that are overdue and not to be blocked. -/
theorem buildRuntimeAlert_isSome {env : Env} {localTime : Int → Int} {t : BilledTenant}
    {now : Moment} :
    (buildRuntimeAlert env localTime t now).isSome = true ↔
      (evaluateTenant localTime t now).overdue = true ∧
      ¬ (evaluateTenant localTime t now).shouldBlock = true ∧ t.accessUnlimited = false := by
  unfold buildRuntimeAlert
  dsimp only
  cases t.accessUnlimited <;> cases (evaluateTenant localTime t now).overdue <;>
    cases (evaluateTenant localTime t now).shouldBlock <;> simp

/-! ## Instants and representations -/

/-- How far the conversion moves a moment. -/
def Moment.shift (localTime : Int → Int) : Moment → Int
  | naive _ => 0
  | aware wall utcOffset => localTime (wall - utcOffset) - (wall - utcOffset)

/-- The evaluation and the alert are the ones that the instants determine. -/
structure ByInstants (env : Env) (localTime : Int → Int) (t : BilledTenant) (now : Moment) :
    Prop where
  shouldBlock : (evaluateTenant localTime t now).shouldBlock = true ↔
    ∃ due ∈ t.due.map Moment.instant,
      planGraceDays t.plan * day ≤ now.instant - due ∧ due < now.instant
  overdue : (evaluateTenant localTime t now).overdue = true ↔
    ∃ due ∈ t.due.map Moment.instant, due < now.instant
  overdueDays : (evaluateTenant localTime t now).overdueDays =
    startedDays (t.due.map Moment.instant) now.instant
  daysUntilBlock : (evaluateTenant localTime t now).daysUntilBlock =
    max (planGraceDays t.plan - startedDays (t.due.map Moment.instant) now.instant) 0
  alert : (buildRuntimeAlert env localTime t now).isSome = true ↔
    (∃ due ∈ t.due.map Moment.instant, due < now.instant) ∧
    (¬ ∃ due ∈ t.due.map Moment.instant,
      planGraceDays t.plan * day ≤ now.instant - due ∧ due < now.instant) ∧
    t.accessUnlimited = false

/-- A shift of the elapsed time, then rounded to a double of seconds, carries it across neither
the due instant nor the start of a later day. -/
def KeepsDays (elapsed shift : Int) : Prop :=
  (0 < elapsed + shift ↔ 0 < elapsed) ∧
  (0 < elapsed → ∀ days : Int, 0 < days →
    ((days * 86400 : ℚ) ≤ totalSeconds (elapsed + shift) ↔ days * day ≤ elapsed))

/-- Equal shifts keep the days, as long as the double is fine enough. -/
theorem keepsDays_zero {elapsed : Int} (h : elapsed < 2 ^ 53) : KeepsDays elapsed 0 := by
  refine ⟨by rw [add_zero], ?_⟩
  intro hpos days _
  rw [add_zero, ← le_wholeDays_iff, wholeDays_eq hpos.le h, Int.le_ediv_iff_mul_le (by decide)]

section Representations

variable {env : Env} {localTime : Int → Int} {t : BilledTenant} {now : Moment}

theorem coerceNaiveUtc_eq (m : Moment) :
    coerceNaiveUtc localTime m = m.instant + m.shift localTime := by
  cases m with
  | naive utc => exact (add_zero utc).symm
  | aware wall utcOffset =>
    show localTime (wall - utcOffset) = wall - utcOffset + (_ - (wall - utcOffset))
    omega

theorem resolveDueAt_eq : resolveDueAt localTime t = t.due.map (coerceNaiveUtc localTime) :=
  Option.map_or.symm

/-- Two counts of days are equal when they agree about every day that has started. -/
theorem countedDays_eq_startedDays_iff {counted elapsed : Int} :
    ((if 0 < counted then wholeDays counted + 1 else 0) =
      if 0 < elapsed then elapsed / day + 1 else 0) ↔
    (0 < counted ↔ 0 < elapsed) ∧
    (0 < elapsed → ∀ days : Int, 0 < days →
      ((days * 86400 : ℚ) ≤ totalSeconds counted ↔ days * day ≤ elapsed)) := by
  have hwhole : 0 < counted → 0 ≤ wholeDays counted := fun h => wholeDays_nonneg h.le
  have helapsed : 0 < elapsed → 0 ≤ elapsed / day :=
    fun h => Int.ediv_nonneg h.le (by decide)
  have hreach : ∀ days : Int, days ≤ elapsed / day ↔ days * day ≤ elapsed :=
    fun days => Int.le_ediv_iff_mul_le (by decide)
  constructor
  · intro heq
    have hsign : 0 < counted ↔ 0 < elapsed := by split_ifs at heq <;> omega
    refine ⟨hsign, ?_⟩
    intro hpos days _
    rw [if_pos hpos, if_pos (hsign.mpr hpos)] at heq
    rw [← le_wholeDays_iff, ← hreach]
    omega
  · intro ⟨hsign, hdays⟩
    by_cases hpos : 0 < elapsed
    · have hcounted := hsign.mpr hpos
      rw [if_pos hpos, if_pos hcounted]
      congr 1
      have hagree : ∀ days : Int, 0 < days → (days ≤ wholeDays counted ↔ days ≤ elapsed / day) := by
        intro days hd
        rw [le_wholeDays_iff, hreach]
        exact hdays hpos days hd
      have := hwhole hcounted
      have := helapsed hpos
      have := hagree (wholeDays counted)
      have := hagree (elapsed / day)
      omega
    · rw [if_neg hpos, if_neg (fun h => hpos (hsign.mp h))]

/-- The counted days are the started ones exactly when the conversion keeps them. -/
theorem countedDays_eq_iff :
    countedDays (resolveDueAt localTime t) (coerceNaiveUtc localTime now) =
      startedDays (t.due.map Moment.instant) now.instant ↔
    ∀ due ∈ t.due,
      KeepsDays (now.instant - due.instant) (now.shift localTime - due.shift localTime) := by
  rw [resolveDueAt_eq]
  cases t.due with
  | none => simp [countedDays, startedDays]
  | some due =>
    have hcounted : coerceNaiveUtc localTime now - coerceNaiveUtc localTime due =
        now.instant - due.instant + (now.shift localTime - due.shift localTime) := by
      rw [coerceNaiveUtc_eq, coerceNaiveUtc_eq]
      omega
    simp only [Option.map_some, countedDays, startedDays, Option.mem_def, Option.some.injEq,
      forall_eq', KeepsDays, ← hcounted]
    have hlate : coerceNaiveUtc localTime due < coerceNaiveUtc localTime now ↔
        0 < coerceNaiveUtc localTime now - coerceNaiveUtc localTime due := by omega
    have hlate' : due.instant < now.instant ↔ 0 < now.instant - due.instant := by omega
    rw [if_congr hlate rfl rfl, if_congr hlate' rfl rfl]
    generalize coerceNaiveUtc localTime now - coerceNaiveUtc localTime due = counted
    generalize now.instant - due.instant = elapsed
    exact countedDays_eq_startedDays_iff

/-- The evaluation speaks of instants exactly when the counted days are the started ones. -/
theorem byInstants_iff : ByInstants env localTime t now ↔
    countedDays (resolveDueAt localTime t) (coerceNaiveUtc localTime now) =
      startedDays (t.due.map Moment.instant) now.instant := by
  have hgrace := planGraceDays_nonneg t.plan
  have heval : evaluateTenant localTime t now = _ := evaluateDue_eq hgrace
  constructor
  · intro h
    rw [← h.overdueDays, heval]
  · intro heq
    rw [heq] at heval
    have hblock := @lt_startedDays_iff _ now.instant (t.due.map Moment.instant) hgrace
    have hover := @startedDays_pos_iff now.instant (t.due.map Moment.instant)
    refine ⟨?_, ?_, ?_, ?_, ?_⟩
    · rw [heval, decide_eq_true_eq]
      exact hblock
    · rw [heval, decide_eq_true_eq]
      exact hover
    · rw [heval]
    · rw [heval]
    · rw [← hblock, ← hover, buildRuntimeAlert_isSome, heval]
      simp only [decide_eq_true_eq]

/-- An evaluation that speaks of instants never takes a block back. -/
theorem ByInstants.block_mono {later : Moment} (h : ByInstants env localTime t now)
    (h' : ByInstants env localTime t later) (hle : now.instant ≤ later.instant)
    (hblock : (evaluateTenant localTime t now).shouldBlock = true) :
    (evaluateTenant localTime t later).shouldBlock = true := by
  obtain ⟨due, hdue, hgrace, hlate⟩ := h.shouldBlock.mp hblock
  exact h'.shouldBlock.mpr ⟨due, hdue, by omega, by omega⟩

end Representations

/-- The billing evaluation depends on instants only, at the moments where the conversion keeps
the days and nowhere else. -/
theorem evaluation_byInstants_iff (env : Env) (localTime : Int → Int) (t : BilledTenant)
    (nows : Set Moment) :
    ((∀ now ∈ nows, ByInstants env localTime t now) ∧
      ∀ now ∈ nows, ∀ later ∈ nows, now.instant ≤ later.instant →
        (evaluateTenant localTime t now).shouldBlock = true →
          (evaluateTenant localTime t later).shouldBlock = true) ↔
    ∀ now ∈ nows, ∀ due ∈ t.due,
      KeepsDays (now.instant - due.instant) (now.shift localTime - due.shift localTime) := by
  have heach : ∀ now, ByInstants env localTime t now ↔ ∀ due ∈ t.due,
      KeepsDays (now.instant - due.instant) (now.shift localTime - due.shift localTime) :=
    fun now => byInstants_iff.trans countedDays_eq_iff
  constructor
  · intro h now hnow
    exact (heach now).mp (h.1 now hnow)
  · intro h
    have hall : ∀ now ∈ nows, ByInstants env localTime t now :=
      fun now hnow => (heach now).mpr (h now hnow)
    exact ⟨hall,
      fun now hnow later hlater hle => (hall now hnow).block_mono (hall later hlater) hle⟩

/-- Three hours west of Greenwich, a payment that was due an hour ago is not overdue. -/
theorem not_byInstants_recife : ¬ ByInstants Env.ascii (fun t => t - 3 * hour)
    { currentPeriodEnd := some (.naive 0) } (.aware hour 0) := by
  intro h
  have hlate := h.overdue.mpr ⟨0, rfl, by decide⟩
  exact absurd hlate (by decide)

/-- For naive values the policy is the one of the integers. -/
theorem evaluateDue_eq_evaluateTenant {plan : Option Plan} {t : Tenant} {now : Int}
    (h : ∀ due ∈ Billing.resolveDueAt t, now - due < 2 ^ 53) :
    evaluateDue (planGraceDays plan) (Billing.resolveDueAt t) now =
      Billing.evaluateTenant plan t now := by
  unfold evaluateDue Billing.evaluateTenant
  cases hdue : Billing.resolveDueAt t with
  | none => rfl
  | some due =>
    dsimp only
    split
    next => rfl
    next hlate =>
      rw [wholeDays_eq (by omega) (h due hdue)]
      rfl

end BackupCenter.Billing.Moments
