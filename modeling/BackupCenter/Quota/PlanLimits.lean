import BackupCenter.Tenants.Schema

/-!
# The limits of a plan

`PlanLimitsService`: how many bytes the backups of a tenant may take, and how many of them it may
download in a month. A limit of 0 is none.
-/
namespace BackupCenter.Quota

open BackupCenter.Tenants (Uuid)

inductive BackupStatus where
  | pending
  | inProgress
  | success
  | failed
  deriving DecidableEq

structure Plan where
  storageQuotaGb : Option Int := some 10
  downloadQuotaGbMonth : Option Int := some 20

structure Tenant where
  id : Uuid
  accessUnlimited : Bool := false
  plan : Option Plan := none

def defaultStorageGb : Int := 10

def defaultDownloadGbMonth : Int := 20

def bytesPerGb : Int := 1024 * 1024 * 1024

/-- `_as_int` -/
def asInt (value : Option Int) (default minimum : Int) : Int :=
  let parsed := value.getD default
  if minimum ≤ parsed then parsed else minimum

/-- `storage_limit_bytes` -/
def storageLimitBytes (plan : Option Plan) : Int :=
  match plan with
  | none => 0
  | some p => asInt p.storageQuotaGb defaultStorageGb 0 * bytesPerGb

/-- `monthly_download_limit_bytes` -/
def monthlyDownloadLimitBytes (plan : Option Plan) : Int :=
  match plan with
  | none => 0
  | some p => asInt p.downloadQuotaGbMonth defaultDownloadGbMonth 0 * bytesPerGb

/-- Only a plan can set a limit. -/
theorem plan_of_limit {plan : Option Plan}
    (h : 0 < storageLimitBytes plan ∨ 0 < monthlyDownloadLimitBytes plan) : ∃ p, plan = some p := by
  cases plan with
  | none => rcases h with h | h <;> exact absurd h (by decide)
  | some p => exact ⟨p, rfl⟩

/-! ## Sizes in messages -/

/-- `f"{value / unit:.1f}"`: ties go to the even digit. -/
def oneDecimal (value unit : Nat) : String :=
  let tenths := 10 * value / unit
  let rest := 2 * (10 * value % unit)
  let rounded := if rest < unit ∨ (rest = unit ∧ tenths % 2 = 0) then tenths else tenths + 1
  toString (rounded / 10) ++ "." ++ toString (rounded % 10)

def formatScaled (value : Nat) : List String → Nat → String
  | [], unit => oneDecimal value unit ++ " PB"
  | name :: names, unit =>
    if value < 1024 * unit then oneDecimal value unit ++ " " ++ name
    else formatScaled value names (1024 * unit)

/-- `format_bytes`, for the sizes that a float holds exactly. -/
def formatBytes (value : Int) : String :=
  if value < 1024 then toString value ++ ".0 B"
  else formatScaled value.toNat ["KB", "MB", "GB", "TB"] 1024

/-! ## The checks -/

structure LimitCheckResult where
  allowed : Bool
  reason : String
  usedBytes : Int := 0
  limitBytes : Int := 0

def ok : LimitCheckResult where
  allowed := true
  reason := "ok"

/-- The answers that need no figure: nothing to count, an unlimited tenant, no plan. -/
def withoutFigures (tenant : Tenant) (size : Int) (withoutPlan : String) :
    Option LimitCheckResult :=
  if size ≤ 0 then some ok
  else if tenant.accessUnlimited then some ok
  else if tenant.plan.isNone then some { allowed := false, reason := withoutPlan }
  else none

/-- `reason` of a check that the limit stops. -/
def exceeded (limitText : String) (used limit : Int) : LimitCheckResult where
  allowed := false
  reason := limitText ++ " Uso atual " ++ formatBytes used ++ " de " ++ formatBytes limit ++ "."
  usedBytes := used
  limitBytes := limit

/-- `check_storage_before_backup`; `used` is what `get_storage_used_bytes` finds. -/
def checkStorageBeforeBackup (tenant : Tenant) (used backupSizeBytes : Int) : LimitCheckResult :=
  let incoming := max backupSizeBytes 0
  match withoutFigures tenant incoming "Cliente sem plano ativo para armazenar backups." with
  | some result => result
  | none =>
    let limit := storageLimitBytes tenant.plan
    if 0 < limit ∧ limit < used + incoming then
      exceeded "Limite de armazenamento do plano excedido." used limit
    else { allowed := true, reason := "ok", usedBytes := used, limitBytes := limit }

/-- The row of a tenant for the downloads of one month. -/
structure Metric where
  valueBytes : Int := 0
  eventsCount : Int := 0
  deriving DecidableEq

/-- The answers of `consume_download_bytes` that do not look at the row. -/
def consumeWithoutMetric (tenant : Tenant) (downloadSizeBytes : Int) : Option LimitCheckResult :=
  withoutFigures tenant (max downloadSizeBytes 0)
    "Cliente sem plano ativo para download de backups."

/-- `consume_download_bytes` once it holds the row: the answer, and the row that it writes. -/
def consumeMetric (tenant : Tenant) (metric : Metric) (downloadSizeBytes : Int) :
    LimitCheckResult × Option Metric :=
  let size := max downloadSizeBytes 0
  let limit := monthlyDownloadLimitBytes tenant.plan
  let used := metric.valueBytes
  if 0 < limit ∧ limit < used + size then
    (exceeded "Limite mensal de download do plano excedido." used limit, none)
  else
    ({ allowed := true, reason := "ok", usedBytes := used + size, limitBytes := limit },
      some { valueBytes := used + size, eventsCount := metric.eventsCount + 1 })

section Limited

variable {tenant : Tenant} {size used : Int} {metric : Metric}

/-- A tenant with a limit is only checked against it. -/
theorem withoutFigures_limited {text : String} (hcounted : tenant.accessUnlimited = false)
    (hplan : ∃ p, tenant.plan = some p) :
    withoutFigures tenant size text = if size ≤ 0 then some ok else none := by
  obtain ⟨p, hp⟩ := hplan
  simp [withoutFigures, hcounted, hp]

/-- Under a limit a check allows exactly what still fits. -/
theorem checkStorage_allowed (hcounted : tenant.accessUnlimited = false)
    (hlimit : 0 < storageLimitBytes tenant.plan) (hsize : 0 < size) :
    (checkStorageBeforeBackup tenant used size).allowed = true ↔
      used + size ≤ storageLimitBytes tenant.plan := by
  have hmax : max size 0 = size := by omega
  have hpos : ¬ size ≤ 0 := by omega
  simp only [checkStorageBeforeBackup, hmax, if_neg hpos,
    withoutFigures_limited hcounted (plan_of_limit (.inl hlimit))]
  by_cases hover : storageLimitBytes tenant.plan < used + size
  · simp [hlimit, hover, exceeded]
  · simp [hover, Int.not_lt.mp hover]

/-- Under a limit a download is counted exactly if it still fits. -/
theorem consumeMetric_counts (hlimit : 0 < monthlyDownloadLimitBytes tenant.plan)
    (hsize : 0 ≤ size) :
    (consumeMetric tenant metric size).2 =
      if metric.valueBytes + size ≤ monthlyDownloadLimitBytes tenant.plan then
        some ⟨metric.valueBytes + size, metric.eventsCount + 1⟩
      else none := by
  have hmax : max size 0 = size := by omega
  unfold consumeMetric
  rw [hmax]
  by_cases hover : monthlyDownloadLimitBytes tenant.plan < metric.valueBytes + size
  · simp [hlimit, hover]
  · simp [hover, Int.not_lt.mp hover]

end Limited

end BackupCenter.Quota
