import BackupCenter.Billing.Checkout
import BackupCenter.Lib.Patch
import BackupCenter.Quota.PlanLimits
import BackupCenter.Tenants.Placement

/-!
# Whether a plan is large enough

The page of the plans marks the ones that a tenant fits in, the checkout checks the one that was
chosen, and the services that add devices, users and backups check the limits later. Each of them
counts for itself: the page counts every device and takes a limit of 0 as none, the checkout
counts the active devices and takes 0 as it is.
-/
namespace BackupCenter.Billing

open BackupCenter.Lib
open BackupCenter.Tenants (Uuid)

/-- A plan with its limits; a column that is absent is none. -/
structure OfferedPlan extends Quota.Plan where
  id : Uuid
  maxDevices : Option Int
  maxUsers : Option Int

instance : Keyed OfferedPlan Uuid := ⟨OfferedPlan.id⟩

/-- A row of the plans table. -/
def Plan.offered (p : Plan) : OfferedPlan where
  id := p.id
  maxDevices := some p.maxDevices
  maxUsers := some p.maxUsers
  storageQuotaGb := some p.storageQuotaGb

/-- `int(value or 0)` -/
def orZero (value : Option Int) : Int := value.getD 0

/-! ## What a tenant uses -/

structure BackupRow where
  deviceId : Uuid
  fileSizeBytes : Option Int := none

/-- The rows that are counted. -/
structure StoredRows extends Tenants.Database where
  backups : List BackupRow := []

section Counts

variable (db : StoredRows) (tenantId : Uuid)

/-- `BillingController.get_tenant_device_count` -/
def getTenantDeviceCount : Int := db.devices.rows.countP fun d => d.tenantId = tenantId

/-- `TenantAccessService.get_device_count` -/
def getDeviceCount : Int := db.devices.rows.countP fun d =>
  d.tenantId = tenantId && d.isActive ≠ some false

/-- `get_active_user_count` -/
def getActiveUserCount : Int := db.users.rows.countP fun u =>
  u.tenantId = some tenantId && u.isActive = some true

/-- `get_storage_used_bytes`: backups joined with the devices of the tenant. -/
def getStorageUsedBytes : Int :=
  (db.backups.flatMap fun b =>
    (db.devices.rows.filter fun d => d.id = b.deviceId && d.tenantId = tenantId).map fun _ =>
      b.fileSizeBytes.getD 0).sum

/-- Some devices are not active, so they are counted by the page only. -/
theorem getDeviceCount_le : getDeviceCount db tenantId ≤ getTenantDeviceCount db tenantId := by
  unfold getDeviceCount getTenantDeviceCount
  have h : db.devices.rows.countP (fun d => d.tenantId = tenantId && d.isActive ≠ some false) ≤
      db.devices.rows.countP (fun d => d.tenantId = tenantId) :=
    List.countP_mono_left fun d _ hd => (Bool.and_eq_true _ _ ▸ hd).1
  omega

theorem getDeviceCount_nonneg : 0 ≤ getDeviceCount db tenantId := Int.natCast_nonneg _

end Counts

/-! ## The page of the plans -/

/-- The entry of a plan in the map. -/
structure PlanCapacity where
  eligible : Bool
  deviceCount : Int
  maxDevices : Int
  userCount : Int
  maxUsers : Int
  storageUsedBytes : Int
  storageLimitBytes : Int
  reason : String

/-- The body of the loop of `get_plan_capacity_map`. -/
def planCapacity (deviceCount userCount storageUsedBytes : Int) (plan : OfferedPlan) :
    PlanCapacity :=
  let maxDevices := orZero plan.maxDevices
  let maxUsers := orZero plan.maxUsers
  let storageLimitBytes := Quota.storageLimitBytes (some plan.toPlan)
  let reasons := [
    (decide (0 < maxDevices ∧ maxDevices < deviceCount),
      s!"Esse plano suporta ate {maxDevices} dispositivos e este cliente possui {deviceCount}."),
    (decide (0 < maxUsers ∧ maxUsers < userCount),
      s!"Esse plano suporta ate {maxUsers} usuarios ativos e este cliente possui {userCount}."),
    (decide (0 < storageLimitBytes ∧ storageLimitBytes < storageUsedBytes),
      "Storage atual acima do limite do plano " ++
        s!"({Quota.formatBytes storageUsedBytes} / {Quota.formatBytes storageLimitBytes}).")]
  let raised := (reasons.filter (·.1)).map (·.2)
  { eligible := raised.isEmpty
    deviceCount := deviceCount
    maxDevices := maxDevices
    userCount := userCount
    maxUsers := maxUsers
    storageUsedBytes := storageUsedBytes
    storageLimitBytes := storageLimitBytes
    reason := " ".intercalate raised }

/-- `get_plan_capacity_map`: a dictionary by the id of the plan. -/
def getPlanCapacityMap (db : StoredRows) (tenantId : Uuid) (plans : List OfferedPlan) :
    Dict Uuid PlanCapacity :=
  patched [] (plans.map fun plan => (plan.id, some (planCapacity (getTenantDeviceCount db tenantId)
    (getActiveUserCount db tenantId) (getStorageUsedBytes db tenantId) plan)))

def MarkedEligible (db : StoredRows) (tenantId : Uuid) (plans : List OfferedPlan)
    (plan : OfferedPlan) : Prop :=
  ((getPlanCapacityMap db tenantId plans).lookup plan.id).map (·.eligible) = some true

/-- A plan is eligible if none of its positive limits is exceeded. -/
theorem planCapacity_eligible {d u s : Int} {plan : OfferedPlan} :
    (planCapacity d u s plan).eligible = true ↔
      (0 < orZero plan.maxDevices → d ≤ orZero plan.maxDevices) ∧
      (0 < orZero plan.maxUsers → u ≤ orZero plan.maxUsers) ∧
      (0 < Quota.storageLimitBytes (some plan.toPlan) →
        s ≤ Quota.storageLimitBytes (some plan.toPlan)) := by
  simp only [planCapacity, List.isEmpty_iff, List.map_eq_nil_iff, List.filter_eq_nil_iff,
    List.forall_mem_cons, decide_eq_true_eq, not_and, Int.not_lt, List.not_mem_nil,
    false_imp_iff, implies_true, and_true]

/-- The entry of a plan is its own. -/
theorem lookup_getPlanCapacityMap {db : StoredRows} {tenantId : Uuid} {plans : Table OfferedPlan}
    {plan : OfferedPlan} (h : plan ∈ plans) :
    (getPlanCapacityMap db tenantId plans.rows).lookup plan.id =
      some (planCapacity (getTenantDeviceCount db tenantId) (getActiveUserCount db tenantId)
        (getStorageUsedBytes db tenantId) plan) := by
  rw [getPlanCapacityMap, lookup_patched]
  cases hgiven : Patch.given _ plan.id with
  | none =>
    refine absurd rfl (given_eq_none.mp hgiven (plan.id, _) (List.mem_map.mpr ⟨plan, h, rfl⟩))
  | some v =>
    obtain ⟨other, hother, hentry⟩ := List.mem_map.mp (mem_of_given hgiven)
    obtain ⟨hid, rfl⟩ := Prod.mk.inj hentry
    rw [Table.eq_of_key hother h hid]
    rfl

/-! ## The checkout -/

/-- A figure that is none is not checked. -/
def whenGiven (figure : Option Int) (check : Int → Except Failure Unit) : Except Failure Unit :=
  match figure with
  | none => .ok ()
  | some f => check f

/-- `TenantAccessService.validate_plan_selection` -/
def validateSelection (env : Env) (plan : Option OfferedPlan) (deviceCount : Int)
    (userCount storageUsedBytes : Option Int) : Except Failure Unit := do
  let plan ← demand plan (.value "Selecione um plano valido.")
  require (deviceCount ≤ orZero plan.maxDevices) (.value
    (s!"Esse plano suporta ate {orZero plan.maxDevices} dispositivos, " ++
      s!"mas este cliente possui {deviceCount}."))
  whenGiven userCount fun userCount =>
    require (userCount ≤ orZero plan.maxUsers) (.value
      (s!"Esse plano suporta ate {orZero plan.maxUsers} usuarios ativos, " ++
        s!"mas este cliente possui {userCount}."))
  whenGiven storageUsedBytes fun storageUsedBytes =>
    let storageLimitGb := orZero plan.storageQuotaGb
    require (storageLimitGb ≤ 0 ∨ storageUsedBytes ≤ storageLimitGb * 1024 * 1024 * 1024) (.value
      (s!"Storage atual ({env.gigabytes storageUsedBytes} GB) " ++
        s!"acima do limite do plano ({storageLimitGb} GB)."))

/-- For a row of the plans table it is the check of the checkout. -/
theorem validateSelection_offered {env : Env} {plan : Plan} {usage : Usage} :
    validateSelection env (some plan.offered) usage.deviceCount (some usage.userCount)
        (some usage.storageUsedBytes) = validatePlanSelection env plan usage := rfl

/-- The call in `create_checkout_for_plan`. -/
def validateForCheckout (env : Env) (db : StoredRows) (tenantId : Uuid) (plan : OfferedPlan) :
    Except Failure Unit :=
  validateSelection env (some plan) (getDeviceCount db tenantId)
    (some (getActiveUserCount db tenantId)) (some (getStorageUsedBytes db tenantId))

/-- A plan is accepted if the figures are within its limits, 0 among them. -/
theorem validateSelection_ok {env : Env} {plan : OfferedPlan} {d u s : Int} :
    validateSelection env (some plan) d (some u) (some s) = .ok () ↔
      d ≤ orZero plan.maxDevices ∧ u ≤ orZero plan.maxUsers ∧
      (orZero plan.storageQuotaGb ≤ 0 ∨ s ≤ orZero plan.storageQuotaGb * Quota.bytesPerGb) := by
  simp only [validateSelection, demand, whenGiven, bind_eq_ok, Except.ok.injEq, exists_eq_left',
    require_eq_ok, Quota.bytesPerGb]
  have hunit : orZero plan.storageQuotaGb * 1024 * 1024 * 1024 =
      orZero plan.storageQuotaGb * (1024 * 1024 * 1024) := by omega
  rw [hunit]
  constructor
  · rintro ⟨_, hd, _, hu, hs⟩
    exact ⟨hd, hu, hs⟩
  · rintro ⟨hd, hu, hs⟩
    exact ⟨(), hd, (), hu, hs⟩

/-! ## The limits that are enforced later -/

structure Customer where
  id : Uuid
  slug : String
  accessUnlimited : Bool := false
  plan : Option OfferedPlan := none

def Customer.toTenant (c : Customer) : Tenants.Tenant where
  id := c.id
  slug := c.slug
  accessUnlimited := c.accessUnlimited
  plan := c.plan.map fun p => ⟨p.maxUsers⟩

def Customer.toQuota (c : Customer) : Quota.Tenant where
  id := c.id
  accessUnlimited := c.accessUnlimited
  plan := c.plan.map (·.toPlan)

/-- The counts of a `LimitCheckResult`. -/
structure CountCheckResult extends Tenants.LimitCheckResult where
  usedCount : Int := 0
  limitCount : Int := 0

/-- What `check_can_add_device` and `check_can_add_user` share. -/
def checkCanAdd (maximum : OfferedPlan → Option Int) (what : String) (used : Int)
    (tenant : Customer) : CountCheckResult :=
  if tenant.accessUnlimited then { allowed := true, reason := "ok" }
  else
    match tenant.plan with
    | none => { allowed := false, reason := "Cliente sem plano ativo." }
    | some plan =>
      let limit := Quota.asInt (maximum plan) 0 0
      if 0 < limit ∧ limit ≤ used then
        { allowed := false
          reason := s!"Limite de {what} do plano atingido ({used}/{limit})."
          usedCount := used
          limitCount := limit }
      else { allowed := true, reason := "ok", usedCount := used, limitCount := limit }

theorem asInt_zero (value : Option Int) : Quota.asInt value 0 0 = max (orZero value) 0 := by
  unfold Quota.asInt orZero
  dsimp only
  split <;> omega

def checkCanAddDevice (db : StoredRows) (tenant : Customer) : CountCheckResult :=
  checkCanAdd (·.maxDevices) "dispositivos" (getDeviceCount db tenant.id) tenant

def checkCanAddUser (db : StoredRows) (tenant : Customer) : CountCheckResult :=
  checkCanAdd (·.maxUsers) "usuários" (getActiveUserCount db tenant.id) tenant

/-- The answers are those of the routes that add a device or a user. -/
theorem checkCanAdd_toTenant {maximum : OfferedPlan → Option Int} {what : String} {used : Int}
    {tenant : Customer} :
    (checkCanAdd maximum what used tenant).toLimitCheckResult =
      if tenant.accessUnlimited then ⟨true, "ok"⟩
      else
        match tenant.plan with
        | none => ⟨false, "Cliente sem plano ativo."⟩
        | some plan =>
          let limit := max (orZero (maximum plan)) 0
          if limit > 0 ∧ used ≥ limit then
            ⟨false, s!"Limite de {what} do plano atingido ({used}/{limit})."⟩
          else ⟨true, "ok"⟩ := by
  obtain ⟨id, slug, unlimited, plan⟩ := tenant
  cases unlimited with
  | true => rfl
  | false =>
    cases plan with
    | none => rfl
    | some plan =>
      simp only [checkCanAdd, asInt_zero, Bool.false_eq_true, if_false]
      by_cases h : max (orZero (maximum plan)) 0 > 0 ∧ used ≥ max (orZero (maximum plan)) 0
      · rw [if_pos h, if_pos h]
      · rw [if_neg h, if_neg h]

theorem checkCanAddDevice_toTenant {db : StoredRows} {tenant : Customer} :
    (checkCanAddDevice db tenant).toLimitCheckResult =
      Tenants.checkCanAddDevice db.toDatabase tenant.toTenant
        (tenant.plan.bind OfferedPlan.maxDevices) := by
  obtain ⟨id, slug, unlimited, plan⟩ := tenant
  refine checkCanAdd_toTenant.trans ?_
  cases plan with
  | none => rfl
  | some plan => rfl

theorem checkCanAddUser_toTenant {db : StoredRows} {tenant : Customer} :
    (checkCanAddUser db tenant).toLimitCheckResult =
      Tenants.checkCanAddUser db.toDatabase tenant.toTenant := by
  obtain ⟨id, slug, unlimited, plan⟩ := tenant
  refine checkCanAdd_toTenant.trans ?_
  cases plan with
  | none => rfl
  | some plan => rfl

/-- `check_storage_before_backup` -/
def checkStorage (db : StoredRows) (tenant : Customer) (backupSizeBytes : Int) :
    Quota.LimitCheckResult :=
  Quota.checkStorageBeforeBackup tenant.toQuota (getStorageUsedBytes db tenant.id) backupSizeBytes

/-- No limit that the checks enforce is exceeded. -/
structure WithinLimits (db : StoredRows) (tenant : Customer) : Prop where
  devices : 0 < (checkCanAddDevice db tenant).limitCount →
    (checkCanAddDevice db tenant).usedCount ≤ (checkCanAddDevice db tenant).limitCount
  users : 0 < (checkCanAddUser db tenant).limitCount →
    (checkCanAddUser db tenant).usedCount ≤ (checkCanAddUser db tenant).limitCount
  storage : ∀ size, 0 < (checkStorage db tenant size).limitBytes →
    (checkStorage db tenant size).usedBytes ≤ (checkStorage db tenant size).limitBytes

/-- A check that looks at a limit says which it is and what was counted. -/
theorem checkCanAdd_counts {maximum : OfferedPlan → Option Int} {what : String} {used : Int}
    {tenant : Customer} {plan : OfferedPlan} (hplan : tenant.plan = some plan) :
    (checkCanAdd maximum what used tenant).limitCount = 0 ∨
    (checkCanAdd maximum what used tenant).usedCount = used ∧
      (checkCanAdd maximum what used tenant).limitCount = max (orZero (maximum plan)) 0 := by
  simp only [checkCanAdd, hplan, asInt_zero]
  split
  · exact .inl rfl
  · right
    split
    · exact ⟨rfl, rfl⟩
    · exact ⟨rfl, rfl⟩

theorem storageLimitBytes_nonneg (plan : OfferedPlan) :
    0 ≤ Quota.storageLimitBytes (some plan.toPlan) := by
  unfold Quota.storageLimitBytes Quota.asInt Quota.bytesPerGb
  dsimp only
  split <;> omega

theorem checkStorage_figures {db : StoredRows} {tenant : Customer} {plan : OfferedPlan}
    {size : Int} (hplan : tenant.plan = some plan) :
    (checkStorage db tenant size).limitBytes = 0 ∨
    (checkStorage db tenant size).usedBytes = getStorageUsedBytes db tenant.id ∧
      (checkStorage db tenant size).limitBytes =
        max (Quota.storageLimitBytes (some plan.toPlan)) 0 := by
  rw [max_eq_left (storageLimitBytes_nonneg plan)]
  have htoQuota : tenant.toQuota.plan = some plan.toPlan := by rw [Customer.toQuota, hplan]; rfl
  unfold checkStorage Quota.checkStorageBeforeBackup
  dsimp only
  split
  next result hearly =>
    left
    unfold Quota.withoutFigures at hearly
    rw [htoQuota] at hearly
    split at hearly
    · exact (Option.some.inj hearly) ▸ rfl
    · split at hearly
      · exact (Option.some.inj hearly) ▸ rfl
      · exact nomatch hearly
  next =>
    right
    rw [htoQuota]
    split
    · exact ⟨rfl, rfl⟩
    · exact ⟨rfl, rfl⟩

/-- A figure within a limit that counts when it is positive. -/
theorem within_of {used limit usedFigure limitFigure : Int}
    (h : limitFigure = 0 ∨ usedFigure = used ∧ limitFigure = max limit 0)
    (hused : 0 < limit → used ≤ limit) : 0 < limitFigure → usedFigure ≤ limitFigure := by
  omega

/-- The tenant after the switch to a plan. -/
def Customer.switched (tenant : Customer) (plan : OfferedPlan) : Customer :=
  { tenant with plan := some plan }

/-- A tenant that fits in the positive limits of a plan is within its limits on it. -/
theorem withinLimits_of {db : StoredRows} {tenant : Customer} {plan : OfferedPlan}
    (hdevices : 0 < orZero plan.maxDevices → getDeviceCount db tenant.id ≤ orZero plan.maxDevices)
    (husers : 0 < orZero plan.maxUsers → getActiveUserCount db tenant.id ≤ orZero plan.maxUsers)
    (hstorage : 0 < Quota.storageLimitBytes (some plan.toPlan) →
      getStorageUsedBytes db tenant.id ≤ Quota.storageLimitBytes (some plan.toPlan)) :
    WithinLimits db (tenant.switched plan) where
  devices := within_of (checkCanAdd_counts rfl) hdevices
  users := within_of (checkCanAdd_counts rfl) husers
  storage := fun _ => within_of (checkStorage_figures rfl) hstorage

/-! ## One meaning -/

/-- The page, the checkout and the later checks mean the same by a plan that is large enough. -/
structure OneMeaning (env : Env) (db : StoredRows) (tenant : Customer) (plan : OfferedPlan) :
    Prop where
  agree : ∀ plans : Table OfferedPlan, plan ∈ plans →
    (MarkedEligible db tenant.id plans.rows plan ↔
      validateForCheckout env db tenant.id plan = .ok ())
  smaller : ∀ d u s d' u' s' : Int, d' ≤ d → u' ≤ u → s' ≤ s →
    validateSelection env (some plan) d (some u) (some s) = .ok () →
    validateSelection env (some plan) d' (some u') (some s') = .ok ()
  within : validateForCheckout env db tenant.id plan = .ok () →
    WithinLimits db (tenant.switched plan)

section Condition

variable (db : StoredRows) (tenantId : Uuid) (plan : OfferedPlan)

/-- A positive limit that the page and the checkout both apply is exceeded. -/
def Exceeded : Prop :=
  (0 < orZero plan.maxDevices ∧ orZero plan.maxDevices < getDeviceCount db tenantId) ∨
  (0 < orZero plan.maxUsers ∧ orZero plan.maxUsers < getActiveUserCount db tenantId) ∨
  (0 < orZero plan.storageQuotaGb ∧
    orZero plan.storageQuotaGb * Quota.bytesPerGb < getStorageUsedBytes db tenantId)

/-- Devices or users are in use although their limit is 0, which the checkout alone refuses. -/
def ZeroInUse : Prop :=
  (orZero plan.maxDevices ≤ 0 ∧ orZero plan.maxDevices < getDeviceCount db tenantId) ∨
  (orZero plan.maxUsers ≤ 0 ∧ orZero plan.maxUsers < getActiveUserCount db tenantId)

/-- What the page alone refuses: devices that are over the limit with the inactive ones, or more
than the default quota where the plan has none. -/
def OverOnPage : Prop :=
  (0 < orZero plan.maxDevices ∧ orZero plan.maxDevices < getTenantDeviceCount db tenantId) ∨
  (plan.storageQuotaGb = none ∧
    Quota.defaultStorageGb * Quota.bytesPerGb < getStorageUsedBytes db tenantId)

end Condition

instance (db : StoredRows) (tenantId : Uuid) (plan : OfferedPlan) :
    Decidable (Exceeded db tenantId plan) := inferInstanceAs (Decidable (_ ∨ _ ∨ _))

instance (db : StoredRows) (tenantId : Uuid) (plan : OfferedPlan) :
    Decidable (ZeroInUse db tenantId plan) := inferInstanceAs (Decidable (_ ∨ _))

instance (db : StoredRows) (tenantId : Uuid) (plan : OfferedPlan) :
    Decidable (OverOnPage db tenantId plan) := inferInstanceAs (Decidable (_ ∨ _))

/-- The quota of the page: the default where there is none. -/
theorem storage_fits {plan : OfferedPlan} {s : Int} :
    (0 < Quota.storageLimitBytes (some plan.toPlan) →
      s ≤ Quota.storageLimitBytes (some plan.toPlan)) ↔
    (orZero plan.storageQuotaGb ≤ 0 ∨ s ≤ orZero plan.storageQuotaGb * Quota.bytesPerGb) ∧
      (plan.storageQuotaGb = none → s ≤ Quota.defaultStorageGb * Quota.bytesPerGb) := by
  unfold Quota.storageLimitBytes Quota.asInt orZero Quota.bytesPerGb Quota.defaultStorageGb
  dsimp only
  cases hquota : plan.storageQuotaGb with
  | none => simp
  | some gb =>
    simp only [Option.getD_some, reduceCtorEq, false_imp_iff, and_true]
    split <;> omega

theorem markedEligible_iff {db : StoredRows} {tenantId : Uuid} {plans : Table OfferedPlan}
    {plan : OfferedPlan} (h : plan ∈ plans) :
    MarkedEligible db tenantId plans.rows plan ↔
      ¬ Exceeded db tenantId plan ∧ ¬ OverOnPage db tenantId plan := by
  have hle := getDeviceCount_le db tenantId
  unfold MarkedEligible Exceeded OverOnPage
  rw [lookup_getPlanCapacityMap h, Option.map_some, Option.some.injEq, planCapacity_eligible,
    storage_fits]
  constructor
  · rintro ⟨hd, hu, hs, hnone⟩
    refine ⟨by omega, ?_⟩
    rintro (hover | ⟨hquota, hover⟩)
    · omega
    · have := hnone hquota
      omega
  · rintro ⟨hexceeded, hpage⟩
    refine ⟨by omega, by omega, by omega, fun hquota => ?_⟩
    by_contra hover
    exact hpage (.inr ⟨hquota, by omega⟩)

theorem validateForCheckout_iff {env : Env} {db : StoredRows} {tenantId : Uuid}
    {plan : OfferedPlan} :
    validateForCheckout env db tenantId plan = .ok () ↔
      ¬ Exceeded db tenantId plan ∧ ¬ ZeroInUse db tenantId plan := by
  unfold validateForCheckout Exceeded ZeroInUse
  rw [validateSelection_ok]
  omega

/-- The services agree on a plan unless exactly one of them has a reason of its own to refuse it
and the other has none. -/
theorem oneMeaning_iff (env : Env) (db : StoredRows) (tenant : Customer) (plan : OfferedPlan) :
    OneMeaning env db tenant plan ↔
      Exceeded db tenant.id plan ∨
        (ZeroInUse db tenant.id plan ↔ OverOnPage db tenant.id plan) := by
  constructor
  · intro h
    have hagree := h.agree ⟨[plan], List.nodup_singleton _⟩ (List.mem_singleton.mpr rfl)
    rw [markedEligible_iff (List.mem_singleton.mpr rfl), validateForCheckout_iff] at hagree
    by_cases hexceeded : Exceeded db tenant.id plan
    · exact .inl hexceeded
    · simp only [hexceeded, not_false_eq_true, true_and, not_iff_not] at hagree
      exact .inr hagree.symm
  · intro h
    have hagree : ∀ plans : Table OfferedPlan, plan ∈ plans →
        (MarkedEligible db tenant.id plans.rows plan ↔
          validateForCheckout env db tenant.id plan = .ok ()) := by
      intro plans hmem
      rw [markedEligible_iff hmem, validateForCheckout_iff]
      tauto
    refine ⟨hagree, ?_, ?_⟩
    · intro d u s d' u' s' hd hu hs hok
      rw [validateSelection_ok] at hok ⊢
      omega
    · intro hok
      have hmem : plan ∈ (⟨[plan], List.nodup_singleton _⟩ : Table OfferedPlan) :=
        List.mem_singleton.mpr rfl
      have heligible := (hagree _ hmem).mpr hok
      unfold MarkedEligible at heligible
      rw [lookup_getPlanCapacityMap hmem, Option.map_some, Option.some.injEq,
        planCapacity_eligible] at heligible
      obtain ⟨hd, hu, hs⟩ := heligible
      have hle := getDeviceCount_le db tenant.id
      exact withinLimits_of (by omega) hu hs

/-! A tenant with a device, and a plan without a limit on devices: the page offers it, and the
checkout answers that it is for 0 devices. -/

def coreDevice : Tenants.Device where
  id := 1
  tenantId := 7
  name := "core"
  ipAddress := "10.0.0.1"
  username := "admin"
  passwordEncrypted := ""

def oneDevice : StoredRows where
  devices := { rows := [coreDevice] }

def withoutDeviceLimit : OfferedPlan where
  id := 3
  maxDevices := some 0
  maxUsers := some 5

theorem zero_limit_refused :
    ¬ OneMeaning .ascii oneDevice { id := 7, slug := "acme" } withoutDeviceLimit := by
  intro h
  have hagree := h.agree ⟨[withoutDeviceLimit], List.nodup_singleton _⟩ (List.mem_singleton.mpr rfl)
  have hmarked : MarkedEligible oneDevice 7 [withoutDeviceLimit] withoutDeviceLimit := by
    unfold MarkedEligible
    decide
  have hdevices := (validateSelection_ok.mp (hagree.mp hmarked)).1
  exact absurd hdevices (by decide)

end BackupCenter.Billing
