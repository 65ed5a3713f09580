import BackupCenter.External.Tokens
import BackupCenter.Lib.Relational

/-!
# Purging a tenant

A tenant in the trash is deleted for good with everything that belongs to it, in one transaction of
deletions by hand: the foreign keys do not cascade. The subgroups of its groups are not among them.

The transaction deletes exactly the rows that belong to the tenant, directly or through its users,
devices and groups, and clears what is left of their keys. It fails as soon as a subgroup is among
these rows, or a device of another tenant sits in a group that goes.
-/
namespace BackupCenter.Superadmin.Purge

open BackupCenter.Lib
open BackupCenter.Tenants (Uuid User Device DeviceGroup DeviceSubgroup)
open BackupCenter.Billing (Tenant Plan Invoice Subscription)
open BackupCenter.External (ApiToken)

/-! ## The relations -/

structure Backup where
  id : Uuid
  deviceId : Uuid
  triggeredByUserId : Option Uuid := none
  deriving DecidableEq

structure Schedule where
  id : Uuid
  deviceId : Uuid
  deriving DecidableEq

structure ActivityLog where
  id : Uuid
  tenantId : Option Uuid := none
  userId : Option Uuid := none
  deriving DecidableEq

structure Notification where
  id : Uuid
  userId : Uuid
  deriving DecidableEq

structure Report where
  id : Uuid
  tenantId : Uuid
  deriving DecidableEq

structure PaymentMethod where
  id : Uuid
  tenantId : Uuid
  deriving DecidableEq

structure TenantUsageMetric where
  id : Uuid
  tenantId : Uuid
  deriving DecidableEq

structure DeviceType where
  id : Uuid
  deriving DecidableEq

inductive Relation where
  | tenants
  | users
  | devices
  | deviceGroups
  | deviceSubgroups
  | deviceTypes
  | plans
  | backups
  | schedules
  | reports
  | apiTokens
  | notifications
  | activityLogs
  | paymentMethods
  | subscriptions
  | invoices
  | tenantUsageMetrics
  deriving DecidableEq

/-- The relations, in the order of their declaration. -/
def Relation.all : List Relation :=
  [tenants, users, devices, deviceGroups, deviceSubgroups, deviceTypes, plans, backups, schedules,
    reports, apiTokens, notifications, activityLogs, paymentMethods, subscriptions, invoices,
    tenantUsageMetrics]

theorem Relation.all_nodup : all.Nodup := by decide

instance : Fintype Relation where
  elems := ⟨Relation.all, Relation.all_nodup⟩
  complete r := by cases r <;> decide

@[reducible] def Row : Relation → Type
  | .tenants => Tenant
  | .users => User
  | .devices => Device
  | .deviceGroups => DeviceGroup
  | .deviceSubgroups => DeviceSubgroup
  | .deviceTypes => DeviceType
  | .plans => Plan
  | .backups => Backup
  | .schedules => Schedule
  | .reports => Report
  | .apiTokens => ApiToken
  | .notifications => Notification
  | .activityLogs => ActivityLog
  | .paymentMethods => PaymentMethod
  | .subscriptions => Subscription
  | .invoices => Invoice
  | .tenantUsageMetrics => TenantUsageMetric

instance : Keyed Backup Uuid := ⟨Backup.id⟩
instance : Keyed Schedule Uuid := ⟨Schedule.id⟩
instance : Keyed ActivityLog Uuid := ⟨ActivityLog.id⟩
instance : Keyed Notification Uuid := ⟨Notification.id⟩
instance : Keyed Report Uuid := ⟨Report.id⟩
instance : Keyed PaymentMethod Uuid := ⟨PaymentMethod.id⟩
instance : Keyed TenantUsageMetric Uuid := ⟨TenantUsageMetric.id⟩
instance : Keyed DeviceType Uuid := ⟨DeviceType.id⟩

instance : ∀ r, Keyed (Row r) Uuid
  | .tenants => inferInstanceAs (Keyed Tenant Uuid)
  | .users => inferInstanceAs (Keyed User Uuid)
  | .devices => inferInstanceAs (Keyed Device Uuid)
  | .deviceGroups => inferInstanceAs (Keyed DeviceGroup Uuid)
  | .deviceSubgroups => inferInstanceAs (Keyed DeviceSubgroup Uuid)
  | .deviceTypes => inferInstanceAs (Keyed DeviceType Uuid)
  | .plans => inferInstanceAs (Keyed Plan Uuid)
  | .backups => inferInstanceAs (Keyed Backup Uuid)
  | .schedules => inferInstanceAs (Keyed Schedule Uuid)
  | .reports => inferInstanceAs (Keyed Report Uuid)
  | .apiTokens => inferInstanceAs (Keyed ApiToken Uuid)
  | .notifications => inferInstanceAs (Keyed Notification Uuid)
  | .activityLogs => inferInstanceAs (Keyed ActivityLog Uuid)
  | .paymentMethods => inferInstanceAs (Keyed PaymentMethod Uuid)
  | .subscriptions => inferInstanceAs (Keyed Subscription Uuid)
  | .invoices => inferInstanceAs (Keyed Invoice Uuid)
  | .tenantUsageMetrics => inferInstanceAs (Keyed TenantUsageMetric Uuid)

/-- Which of its two definitions the table of usage metrics was created with: the model has no
foreign key, the `CREATE TABLE` of the plan limits has one with `ON DELETE CASCADE`. -/
structure Ddl where
  metricsCascade : Bool

/-- The foreign keys to what a row belongs to. -/
def owners (ddl : Ddl) : ForeignKeys Row Uuid
  | .users, u => u.tenantId.toList.map (.tenants, ·)
  | .devices, d => [(.tenants, d.tenantId)]
  | .deviceGroups, g => [(.tenants, g.tenantId)]
  | .deviceSubgroups, s => [(.tenants, s.tenantId), (.deviceGroups, s.groupId)]
  | .backups, b => [(.devices, b.deviceId)]
  | .schedules, s => [(.devices, s.deviceId)]
  | .reports, r => [(.tenants, r.tenantId)]
  | .apiTokens, t => [(.tenants, t.tenantId), (.users, t.userId)]
  | .notifications, n => [(.users, n.userId)]
  | .paymentMethods, m => [(.tenants, m.tenantId)]
  | .subscriptions, s => [(.tenants, s.tenantId)]
  | .invoices, i => [(.tenants, i.tenantId)]
  | .tenantUsageMetrics, m => if ddl.metricsCascade then [(.tenants, m.tenantId)] else []
  | .tenants, _ | .deviceTypes, _ | .plans, _ | .activityLogs, _ => []

/-- The other foreign keys. -/
def mentions : ForeignKeys Row Uuid
  | .tenants, t => t.planId.toList.map (.plans, ·)
  | .devices, d => d.groupId.toList.map (.deviceGroups, ·) ++
      d.subgroupId.toList.map (.deviceSubgroups, ·) ++ d.deviceTypeId.toList.map (.deviceTypes, ·)
  | .backups, b => b.triggeredByUserId.toList.map (.users, ·)
  | .activityLogs, a => a.tenantId.toList.map (.tenants, ·) ++ a.userId.toList.map (.users, ·)
  | .subscriptions, s => [(.plans, s.planId)]
  | .users, _ | .deviceGroups, _ | .deviceSubgroups, _ | .deviceTypes, _ | .plans, _
  | .schedules, _ | .reports, _ | .apiTokens, _ | .notifications, _ | .paymentMethods, _
  | .invoices, _ | .tenantUsageMetrics, _ => []

def foreignKeys (ddl : Ddl) : ForeignKeys Row Uuid :=
  fun r row => owners ddl r row ++ mentions r row

/-! ## The statements -/

def withoutUser : Update ActivityLog where
  apply a := { a with userId := none }

def withoutTenant : Update ActivityLog where
  apply a := { a with tenantId := none }

def withoutTrigger : Update Backup where
  apply b := { b with triggeredByUserId := none }

def userIds (tables : Tables Row) (tenantId : Uuid) : List Uuid :=
  ((tables .users).rows.filter fun u => u.tenantId = some tenantId).map User.id

def deviceIds (tables : Tables Row) (tenantId : Uuid) : List Uuid :=
  ((tables .devices).rows.filter fun d => d.tenantId = tenantId).map Device.id

/-- `if ids:` -/
def ifAny (ids : List Uuid) (ss : List (Statement Row)) : List (Statement Row) :=
  if ids = [] then [] else ss

def ofUsers (ids : List Uuid) : List (Statement Row) :=
  [.update .activityLogs (fun a => a.userId.any ids.contains) withoutUser,
    .update .backups (fun b => b.triggeredByUserId.any ids.contains) withoutTrigger,
    .delete .notifications fun n => ids.contains n.userId,
    .delete .apiTokens fun t => ids.contains t.userId]

def ofTenant (tenantId : Uuid) : List (Statement Row) :=
  [.update .activityLogs (fun a => a.tenantId = some tenantId) withoutTenant,
    .delete .apiTokens fun t => t.tenantId = tenantId,
    .delete .paymentMethods fun m => m.tenantId = tenantId,
    .delete .subscriptions fun s => s.tenantId = tenantId,
    .delete .reports fun r => r.tenantId = tenantId]

def ofDevices (ids : List Uuid) : List (Statement Row) :=
  [.delete .schedules fun s => ids.contains s.deviceId,
    .delete .backups fun b => ids.contains b.deviceId,
    .delete .devices fun d => ids.contains d.id]

/-- `_delete_client_dependencies` -/
def deleteClientDependencies (tables : Tables Row) (tenantId : Uuid) : List (Statement Row) :=
  ifAny (userIds tables tenantId) (ofUsers (userIds tables tenantId)) ++ ofTenant tenantId ++
    ifAny (deviceIds tables tenantId) (ofDevices (deviceIds tables tenantId)) ++
    [.delete .deviceGroups fun g => g.tenantId = tenantId,
      .delete .invoices fun i => i.tenantId = tenantId,
      .delete .users fun u => u.tenantId = some tenantId]

/-- The deletion of the tenant, with the metrics where they cascade. -/
def deleteTenantRow (ddl : Ddl) (tenantId : Uuid) : List (Statement Row) :=
  [.delete .tenantUsageMetrics fun m => ddl.metricsCascade && m.tenantId = tenantId,
    .delete .tenants fun t => t.id = tenantId]

abbrev Site (ddl : Ddl) := Relational (foreignKeys ddl)

/-- `purge_tenant` -/
def purgeTenant (env : Env) {ddl : Ddl} (session : Auth.Cookie) (tenantId : Option Uuid)
    (db : Site ddl) : Except Reply (Site ddl × Reply) := do
  checkSuperadmin session
  let tenantUuid ← demand tenantId (.flash "Cliente inválido." .error)
  let tenant ← demand ((db.tables .tenants).find tenantUuid)
    (.flash "Cliente não encontrado." .error)
  require (¬ (tenant.protectedSystemTenant ∨ tenant.slug ∈ protectedDefaultSlugs))
    (.flash "Esse cliente é protegido e não pode ser apagado permanentemente." .error)
  require (isDeleted tenant)
    (.flash "Envie o cliente para a lixeira antes de apagar permanentemente." .error)
  let db ← demand
    (exec execute db
      (deleteClientDependencies db.tables tenant.id ++ deleteTenantRow ddl tenant.id))
    (.flash ("Erro ao apagar definitivamente o cliente: " ++ env.describe .integrity) .error)
  return (db, .flash ("Cliente " ++ tenant.name ++ " apagado permanentemente.") .success)

/-! ## What belongs to a tenant -/

/-- The row belongs to the tenant, directly or through other rows. -/
abbrev Part (ddl : Ddl) (tables : Tables Row) (id : Uuid) : ∀ r, Row r → Prop :=
  PartOf (owners ddl) tables (.tenants, id)

def groupIds (tables : Tables Row) (id : Uuid) : List Uuid :=
  ((tables .deviceGroups).rows.filter fun g => g.tenantId = id).map DeviceGroup.id

/-- `Part`, by the columns. -/
def belongs (ddl : Ddl) (tables : Tables Row) (id : Uuid) : ∀ r, Row r → Bool
  | .tenants, t => t.id = id
  | .users, u => u.tenantId = some id
  | .devices, d => d.tenantId = id
  | .deviceGroups, g => g.tenantId = id
  | .deviceSubgroups, s => s.tenantId = id || (groupIds tables id).contains s.groupId
  | .backups, b => (deviceIds tables id).contains b.deviceId
  | .schedules, s => (deviceIds tables id).contains s.deviceId
  | .reports, r => r.tenantId = id
  | .apiTokens, t => t.tenantId = id || (userIds tables id).contains t.userId
  | .notifications, n => (userIds tables id).contains n.userId
  | .paymentMethods, m => m.tenantId = id
  | .subscriptions, s => s.tenantId = id
  | .invoices, i => i.tenantId = id
  | .tenantUsageMetrics, m => ddl.metricsCascade && m.tenantId = id
  | .deviceTypes, _ | .plans, _ | .activityLogs, _ => false

variable {ddl : Ddl} {tables : Tables Row} {id x : Uuid} {r : Relation}

theorem mem_userIds : x ∈ userIds tables id ↔
    ∃ u ∈ tables .users, u.tenantId = some id ∧ u.id = x := by
  simp [userIds, Table.mem_def, and_assoc]

theorem mem_deviceIds : x ∈ deviceIds tables id ↔
    ∃ d ∈ tables .devices, d.tenantId = id ∧ d.id = x := by
  simp [deviceIds, Table.mem_def, and_assoc]

theorem mem_groupIds : x ∈ groupIds tables id ↔
    ∃ g ∈ tables .deviceGroups, g.tenantId = id ∧ g.id = x := by
  simp [groupIds, Table.mem_def, and_assoc]

theorem part_of_ne {row : Row r} (hr : r ≠ .tenants) : Part ddl tables id r row ↔
    row ∈ tables r ∧ ∃ k ∈ owners ddl r row, PartOf.Key (owners ddl) tables (.tenants, id) k :=
  partOf_of_ne hr

section Part

variable (htenant : tables.Has (.tenants, id))
include htenant

theorem partKey_tenant : PartOf.Key (owners ddl) tables (.tenants, id) (.tenants, x) ↔ x = id := by
  constructor
  · rintro ⟨t, ht, hkey⟩
    exact hkey.symm.trans ((partOf_of_root fun _ => rfl).mp ht).2
  · rintro rfl
    obtain ⟨t, ht, hkey⟩ := htenant
    exact ⟨t, .root ht hkey, hkey⟩

theorem part_user {u : User} : Part ddl tables id .users u ↔
    u ∈ tables .users ∧ u.tenantId = some id := by
  rw [part_of_ne (by decide)]
  simp [owners, partKey_tenant htenant]

theorem part_device {d : Device} : Part ddl tables id .devices d ↔
    d ∈ tables .devices ∧ d.tenantId = id := by
  rw [part_of_ne (by decide)]
  simp [owners, partKey_tenant htenant]

theorem part_group {g : DeviceGroup} : Part ddl tables id .deviceGroups g ↔
    g ∈ tables .deviceGroups ∧ g.tenantId = id := by
  rw [part_of_ne (by decide)]
  simp [owners, partKey_tenant htenant]

theorem partKey_user : PartOf.Key (owners ddl) tables (.tenants, id) (.users, x) ↔
    x ∈ userIds tables id := by
  rw [mem_userIds]
  constructor
  · rintro ⟨u, hu, hkey⟩
    obtain ⟨hmem, htenantId⟩ := (part_user htenant).mp hu
    exact ⟨u, hmem, htenantId, hkey⟩
  · rintro ⟨u, hmem, htenantId, hkey⟩
    exact ⟨u, (part_user htenant).mpr ⟨hmem, htenantId⟩, hkey⟩

theorem partKey_device : PartOf.Key (owners ddl) tables (.tenants, id) (.devices, x) ↔
    x ∈ deviceIds tables id := by
  rw [mem_deviceIds]
  constructor
  · rintro ⟨d, hd, hkey⟩
    obtain ⟨hmem, htenantId⟩ := (part_device htenant).mp hd
    exact ⟨d, hmem, htenantId, hkey⟩
  · rintro ⟨d, hmem, htenantId, hkey⟩
    exact ⟨d, (part_device htenant).mpr ⟨hmem, htenantId⟩, hkey⟩

theorem partKey_group : PartOf.Key (owners ddl) tables (.tenants, id) (.deviceGroups, x) ↔
    x ∈ groupIds tables id := by
  rw [mem_groupIds]
  constructor
  · rintro ⟨g, hg, hkey⟩
    obtain ⟨hmem, htenantId⟩ := (part_group htenant).mp hg
    exact ⟨g, hmem, htenantId, hkey⟩
  · rintro ⟨g, hmem, htenantId, hkey⟩
    exact ⟨g, (part_group htenant).mpr ⟨hmem, htenantId⟩, hkey⟩

/-- The columns say what belongs to the tenant. -/
theorem part_iff {row : Row r} : Part ddl tables id r row ↔
    row ∈ tables r ∧ belongs ddl tables id r row = true := by
  cases r with
  | tenants =>
    refine (partOf_of_root fun _ => rfl).trans (and_congr_right fun _ => ?_)
    exact (decide_eq_true_iff (p := row.id = id)).symm
  | _ =>
    refine (part_of_ne (by decide)).trans (and_congr_right fun _ => ?_)
    simp [owners, belongs, partKey_tenant htenant, partKey_user htenant, partKey_device htenant,
      partKey_group htenant]

end Part

/-! ## The tables in the end -/

/-- What is left of a row: logs and backups forget who is gone. -/
def forget (tables : Tables Row) (id : Uuid) : ∀ r, Row r → Row r
  | .activityLogs, a => { a with
      tenantId := a.tenantId.filter (· ≠ id)
      userId := a.userId.filter fun u => !(userIds tables id).contains u }
  | .backups, b => { b with
      triggeredByUserId := b.triggeredByUserId.filter fun u => !(userIds tables id).contains u }
  | .tenants, row => row
  | .users, row => row
  | .devices, row => row
  | .deviceGroups, row => row
  | .deviceSubgroups, row => row
  | .deviceTypes, row => row
  | .plans, row => row
  | .schedules, row => row
  | .reports, row => row
  | .apiTokens, row => row
  | .notifications, row => row
  | .paymentMethods, row => row
  | .subscriptions, row => row
  | .invoices, row => row
  | .tenantUsageMetrics, row => row

/-- The statements delete the row: the subgroups are not among what they delete. -/
def deleted (ddl : Ddl) (tables : Tables Row) (id : Uuid) : ∀ r, Row r → Bool
  | .deviceSubgroups, _ => false
  | r, row => belongs ddl tables id r row

def purgeStatements (ddl : Ddl) (tables : Tables Row) (id : Uuid) : List (Statement Row) :=
  deleteClientDependencies tables id ++ deleteTenantRow ddl id

/-- The statements without their conditions. -/
def allStatements (ddl : Ddl) (tables : Tables Row) (id : Uuid) : List (Statement Row) :=
  ofUsers (userIds tables id) ++ ofTenant id ++ ofDevices (deviceIds tables id) ++
    [.delete .deviceGroups fun g => g.tenantId = id, .delete .invoices fun i => i.tenantId = id,
      .delete .users fun u => u.tenantId = some id] ++ deleteTenantRow ddl id

theorem applyAll_append {ss ss' : List (Statement Row)} :
    applyAll tables (ss ++ ss') = applyAll (applyAll tables ss) ss' := List.foldl_append ..

theorem applyAll_ifAny (ids : List Uuid) {ss : List (Statement Row)}
    (h : ids = [] → ∀ s ∈ ss, s.Idle tables) :
    applyAll tables (ifAny ids ss) = applyAll tables ss := by
  unfold ifAny
  split
  next hids => exact (applyAll_idle (h hids)).symm
  next => rfl

theorem any_contains_nil (id : Option Uuid) : id.any ([] : List Uuid).contains = false := by
  cases id <;> rfl

theorem idle_ofUsers {s : Statement Row} (hs : s ∈ ofUsers []) : s.Idle tables := by
  simp only [ofUsers, List.mem_cons, List.not_mem_nil, or_false] at hs
  rcases hs with rfl | rfl | rfl | rfl
  · exact fun a _ => any_contains_nil a.userId
  · exact fun b _ => any_contains_nil b.triggeredByUserId
  · exact fun _ _ => rfl
  · exact fun _ _ => rfl

theorem idle_ofDevices {s : Statement Row} (hs : s ∈ ofDevices []) : s.Idle tables := by
  simp only [ofDevices, List.mem_cons, List.not_mem_nil, or_false] at hs
  rcases hs with rfl | rfl | rfl
  · exact fun _ _ => rfl
  · exact fun _ _ => rfl
  · exact fun _ _ => rfl

/-- The conditions of the statements make no difference to what they leave. -/
theorem applyAll_purge : applyAll tables (purgeStatements ddl tables id) =
    applyAll tables (allStatements ddl tables id) := by
  simp only [purgeStatements, deleteClientDependencies, allStatements, applyAll_append]
  rw [applyAll_ifAny (userIds tables id) fun h s hs => idle_ofUsers (h ▸ hs),
    applyAll_ifAny (deviceIds tables id) fun h s hs => idle_ofDevices (h ▸ hs)]

/-- Where the statements delete rows and change none. -/
theorem mem_of_erased {p : Row r → Bool} {row' : Row r}
    (h : applyAll tables (allStatements ddl tables id) r = (tables r).erase p)
    (hp : ∀ row ∈ tables r, p row = deleted ddl tables id r row)
    (hf : ∀ row, forget tables id r row = row) :
    row' ∈ applyAll tables (allStatements ddl tables id) r ↔
      ∃ row ∈ tables r, deleted ddl tables id r row = false ∧ row' = forget tables id r row := by
  rw [h, Table.mem_erase]
  constructor
  · rintro ⟨hrow, hkept⟩
    exact ⟨row', hrow, (hp row' hrow).symm.trans hkept, (hf row').symm⟩
  · rintro ⟨row, hrow, hkept, rfl⟩
    rw [hf]
    exact ⟨hrow, (hp row hrow).trans hkept⟩

theorem erase_false {t : Table (Row r)} : t = t.erase fun _ => false :=
  Table.eq_of_rows (List.filter_eq_self.mpr fun _ _ => rfl).symm

theorem erase_erase {t : Table (Row r)} {p q : Row r → Bool} :
    (t.erase p).erase q = t.erase fun row => q row || p row := by
  refine Table.eq_of_rows ((List.filter_filter ..).trans (List.filter_congr fun row _ => ?_))
  rw [Bool.not_or]

/-- A key that is cleared if it is among these. -/
theorem clear_eq_filter {x : Option Uuid} {p : Uuid → Bool} :
    (if x.any p then none else x) = x.filter fun a => !p a := by
  cases x with
  | none => rfl
  | some a =>
    show (if p a then none else some a) = if !p a then some a else none
    cases p a <;> rfl

theorem clear_one {x : Option Uuid} : (if x = some id then none else x) = x.filter (· ≠ id) := by
  cases x with
  | none => rfl
  | some a => by_cases h : a = id <;> simp [Option.filter, h]

theorem forget_log {a : ActivityLog} {p : Uuid → Bool} :
    let b := if a.userId.any p then withoutUser.apply a else a
    (if b.tenantId = some id then withoutTenant.apply b else b) =
      { a with tenantId := a.tenantId.filter (· ≠ id), userId := a.userId.filter (!p ·) } := by
  have hb : (if a.userId.any p then withoutUser.apply a else a) =
      { a with userId := a.userId.filter (!p ·) } := by
    rw [← clear_eq_filter]
    split <;> rfl
  show (if _ then _ else _) = _
  rw [hb, ← clear_one]
  split <;> rfl

theorem forget_backup {b : Backup} {p : Uuid → Bool} :
    (if b.triggeredByUserId.any p then withoutTrigger.apply b else b) =
      { b with triggeredByUserId := b.triggeredByUserId.filter (!p ·) } := by
  rw [← clear_eq_filter]
  split <;> rfl

/-- The rows with these keys are the filtered ones. -/
theorem contains_filter {t : Table (Row r)} {p : Row r → Bool} {row : Row r} (hrow : row ∈ t) :
    ((t.rows.filter p).map key).contains (key row) = p row := by
  rw [Bool.eq_iff_iff, List.contains_iff_mem]
  constructor
  · intro h
    obtain ⟨row', hrow', hkey⟩ := List.mem_map.mp h
    obtain ⟨hmem, hp⟩ := List.mem_filter.mp hrow'
    rw [← Table.eq_of_key hmem hrow hkey]
    exact hp
  · intro hp
    exact List.mem_map_of_mem (List.mem_filter.mpr ⟨hrow, hp⟩)

theorem mem_applyAll {row' : Row r} : row' ∈ applyAll tables (purgeStatements ddl tables id) r ↔
    ∃ row ∈ tables r, deleted ddl tables id r row = false ∧ row' = forget tables id r row := by
  rw [applyAll_purge]
  cases r with
  | deviceSubgroups => exact mem_of_erased erase_false (fun _ _ => rfl) fun _ => rfl
  | deviceTypes => exact mem_of_erased erase_false (fun _ _ => rfl) fun _ => rfl
  | plans => exact mem_of_erased erase_false (fun _ _ => rfl) fun _ => rfl
  | apiTokens => exact mem_of_erased erase_erase (fun _ _ => rfl) fun _ => rfl
  | devices => exact mem_of_erased rfl (fun _ hd => contains_filter hd) fun _ => rfl
  | activityLogs =>
    show row' ∈ ((tables .activityLogs).modify
      (fun a => a.userId.any (userIds tables id).contains) withoutUser).modify
      (fun a => a.tenantId = some id) withoutTenant ↔ _
    simp only [Table.mem_modify, decide_eq_true_eq]
    constructor
    · rintro ⟨_, ⟨a, ha, rfl⟩, rfl⟩
      exact ⟨a, ha, rfl, forget_log⟩
    · rintro ⟨a, ha, -, rfl⟩
      exact ⟨_, ⟨a, ha, rfl⟩, forget_log.symm⟩
  | backups =>
    show row' ∈ ((tables .backups).modify
      (fun b => b.triggeredByUserId.any (userIds tables id).contains) withoutTrigger).erase
      (fun b => (deviceIds tables id).contains b.deviceId) ↔ _
    simp only [Table.mem_erase, Table.mem_modify, forget_backup]
    constructor
    · rintro ⟨⟨b, hb, rfl⟩, hkept⟩
      exact ⟨b, hb, hkept, rfl⟩
    · rintro ⟨b, hb, hkept, rfl⟩
      exact ⟨⟨b, hb, rfl⟩, hkept⟩
  | _ => exact mem_of_erased rfl (fun _ _ => rfl) fun _ => rfl

/-! ## When it is committed -/

/-- The relations that the rows of a relation can refer to. -/
def referred : Relation → List Relation
  | .tenants => [.plans]
  | .users | .deviceGroups | .reports | .paymentMethods | .invoices
  | .tenantUsageMetrics => [.tenants]
  | .devices => [.tenants, .deviceGroups, .deviceSubgroups, .deviceTypes]
  | .deviceSubgroups => [.tenants, .deviceGroups]
  | .backups => [.devices, .users]
  | .schedules => [.devices]
  | .apiTokens | .activityLogs => [.tenants, .users]
  | .notifications => [.users]
  | .subscriptions => [.tenants, .plans]
  | .deviceTypes | .plans => []

theorem mem_referred {q : Relation} {row : Row q} {k : Relation × Uuid}
    (h : k ∈ foreignKeys ddl q row) : k.1 ∈ referred q := by
  cases q <;> simp [foreignKeys, owners, mentions, referred] at h ⊢ <;> grind

theorem ignores_of_not_mem {q : Relation} (h : r ∉ referred q) :
    Ignores (foreignKeys ddl) q r := by
  rintro row k hk rfl
  exact h (mem_referred hk)

theorem ifAny_sublist (ids : List Uuid) (ss : List (Statement Row)) :
    (ifAny ids ss).Sublist ss := by
  unfold ifAny
  split
  · exact List.nil_sublist ss
  · exact .refl ss

theorem purge_sublist : (purgeStatements ddl tables id).Sublist (allStatements ddl tables id) :=
  ((((ifAny_sublist _ _).append (.refl _)).append (ifAny_sublist _ _)).append (.refl _)).append
    (.refl _)

theorem clears_all {s : Statement Row} (hs : s ∈ allStatements ddl tables id) :
    s.Clears (foreignKeys ddl) := by
  cases s with
  | delete => trivial
  | update r p f =>
    simp only [allStatements, ofUsers, ofTenant, ofDevices, deleteTenantRow, List.mem_append,
      List.mem_cons, List.not_mem_nil, or_false, reduceCtorEq,
      Statement.update.injEq] at hs
    rcases hs with (⟨rfl, -, hf⟩ | ⟨rfl, -, hf⟩) | ⟨rfl, -, hf⟩
    · obtain rfl := eq_of_heq hf
      intro a
      simp [foreignKeys, owners, mentions, withoutUser]
    · obtain rfl := eq_of_heq hf
      intro b
      simp [foreignKeys, owners, mentions, withoutTrigger]
    · obtain rfl := eq_of_heq hf
      intro a
      simp [foreignKeys, owners, mentions, withoutTenant]

theorem childrenFirst : ChildrenFirst (foreignKeys ddl) (purgeStatements ddl tables id) := by
  have hrels : (allStatements ddl tables id).map Statement.rel =
    [.activityLogs, .backups, .notifications, .apiTokens, .activityLogs, .apiTokens,
      .paymentMethods, .subscriptions, .reports, .schedules, .backups, .devices, .deviceGroups,
      .invoices, .users, .tenantUsageMetrics, .tenants] := rfl
  have hordered : ((allStatements ddl tables id).map Statement.rel).Pairwise
      fun r q => r ∉ referred q := by
    rw [hrels]
    decide
  constructor
  · exact fun s hs => clears_all (purge_sublist.subset hs)
  · refine (List.Pairwise.imp ?_ (List.pairwise_map.mp hordered)).sublist purge_sublist
    exact ignores_of_not_mem

/-- Keys whose row the statements delete, where they are foreign keys. -/
def gone (tables : Tables Row) (id : Uuid) : Relation → Uuid → Bool
  | .tenants, x => x = id
  | .users, x => (userIds tables id).contains x
  | .devices, x => (deviceIds tables id).contains x
  | .deviceGroups, x => (groupIds tables id).contains x
  | _, _ => false

def goneKey (tables : Tables Row) (id : Uuid) (k : Relation × Uuid) : Bool :=
  gone tables id k.1 k.2

/-- No subgroup belongs to the tenant, and no device of another tenant is in one of its groups. -/
structure Unobstructed (ddl : Ddl) (tables : Tables Row) (id : Uuid) : Prop where
  subgroups : ∀ s, ¬ Part ddl tables id .deviceSubgroups s
  devices : ∀ d ∈ tables .devices, ¬ Part ddl tables id .devices d →
    ∀ g, Part ddl tables id .deviceGroups g → d.groupId ≠ some g.id

@[simp] theorem key_forget {row : Row r} : key (forget tables id r row) = key row := by
  cases r <;> rfl

theorem foreignKeys_forget {row : Row r} :
    foreignKeys ddl r (forget tables id r row) ⊆ foreignKeys ddl r row := by
  intro k hk
  cases r with
  | activityLogs =>
    simp only [foreignKeys, owners, mentions, forget, List.nil_append, List.mem_append,
      List.mem_map, Option.mem_toList, Option.filter_eq_some_iff] at hk ⊢
    rcases hk with ⟨x, hx, rfl⟩ | ⟨x, hx, rfl⟩
    · exact .inl ⟨x, hx.1, rfl⟩
    · exact .inr ⟨x, hx.1, rfl⟩
  | backups =>
    simp only [foreignKeys, owners, mentions, forget, List.mem_append, List.mem_map,
      Option.mem_toList, Option.filter_eq_some_iff] at hk ⊢
    rcases hk with hk | ⟨x, hx, rfl⟩
    · exact .inl hk
    · exact .inr ⟨x, hx.1, rfl⟩
  | _ => exact hk

/-- A row that others can refer to is deleted exactly if its key is gone. -/
theorem goneKey_key {q : Relation} (hr : r ∈ referred q) {row : Row r} (hrow : row ∈ tables r) :
    goneKey tables id (r, key row) = deleted ddl tables id r row := by
  cases r with
  | tenants => rfl
  | users => exact contains_filter hrow
  | devices => exact contains_filter hrow
  | deviceGroups => exact contains_filter hrow
  | deviceSubgroups => rfl
  | deviceTypes => rfl
  | plans => rfl
  | _ => cases q <;> simp [referred] at hr

theorem has_applyAll {q : Relation} {k : Relation × Uuid} (hk : k.1 ∈ referred q) :
    Tables.Has (applyAll tables (purgeStatements ddl tables id)) k ↔
      tables.Has k ∧ goneKey tables id k = false := by
  obtain ⟨r, x⟩ := k
  have hgone : ∀ row ∈ tables r, key row = x →
      (goneKey tables id (r, x) = false ↔ deleted ddl tables id r row = false) := by
    rintro row hrow rfl
    rw [goneKey_key hk hrow]
  constructor
  · rintro ⟨row', hrow', hkey⟩
    obtain ⟨row, hrow, hkept, rfl⟩ := mem_applyAll.mp hrow'
    have hkey : key row = x := key_forget.symm.trans hkey
    exact ⟨⟨row, hrow, hkey⟩, (hgone row hrow hkey).mpr hkept⟩
  · rintro ⟨⟨row, hrow, hkey⟩, hkept⟩
    have hkept := (hgone row hrow hkey).mp hkept
    exact ⟨_, mem_applyAll.mpr ⟨row, hrow, hkept, rfl⟩, key_forget.trans hkey⟩

/-- In the end no key lacks its row exactly if what stays refers to nothing that is deleted. -/
theorem intact_applyAll (hi : Intact (foreignKeys ddl) tables) :
    Intact (foreignKeys ddl) (applyAll tables (purgeStatements ddl tables id)) ↔
      ∀ r, ∀ row ∈ tables r, deleted ddl tables id r row = false →
        ∀ k ∈ foreignKeys ddl r (forget tables id r row), goneKey tables id k = false := by
  constructor
  · intro h r row hrow hkept k hk
    exact ((has_applyAll (mem_referred hk)).mp
      (h r _ (mem_applyAll.mpr ⟨row, hrow, hkept, rfl⟩) k hk)).2
  · intro h r row' hrow' k hk
    obtain ⟨row, hrow, hkept, rfl⟩ := mem_applyAll.mp hrow'
    exact (has_applyAll (mem_referred hk)).mpr
      ⟨hi r row hrow k (foreignKeys_forget hk), h r row hrow hkept k hk⟩

/-- What stays refers to nothing that is deleted, the devices and the subgroups apart. -/
theorem goneKey_of_kept {row : Row r} (hr : r ≠ .devices ∧ r ≠ .deviceSubgroups)
    (hkept : deleted ddl tables id r row = false) :
    ∀ k ∈ foreignKeys ddl r (forget tables id r row), goneKey tables id k = false := by
  cases r with
  | devices => exact absurd rfl hr.1
  | deviceSubgroups => exact absurd rfl hr.2
  | tenants => simp [foreignKeys, owners, mentions, forget, goneKey, gone]
  | deviceTypes => simp [foreignKeys, owners, mentions]
  | plans => simp [foreignKeys, owners, mentions]
  | _ =>
    simp [foreignKeys, owners, mentions, forget, deleted, belongs, goneKey, gone, or_imp,
      forall_and] at hkept ⊢
    grind

theorem device_kept {d : Device} (hkept : d.tenantId ≠ id) :
    (∀ k ∈ foreignKeys ddl .devices d, goneKey tables id k = false) ↔
      ∀ x ∈ groupIds tables id, d.groupId ≠ some x := by
  simp [foreignKeys, owners, mentions, goneKey, gone, hkept, or_imp, forall_and]
  grind

theorem subgroup_kept {s : DeviceSubgroup} :
    (∀ k ∈ foreignKeys ddl .deviceSubgroups s, goneKey tables id k = false) ↔
      belongs ddl tables id .deviceSubgroups s = false := by
  simp [foreignKeys, owners, mentions, goneKey, gone, belongs]

theorem unobstructed_iff (htenant : tables.Has (.tenants, id)) : Unobstructed ddl tables id ↔
    ∀ r, ∀ row ∈ tables r, deleted ddl tables id r row = false →
      ∀ k ∈ foreignKeys ddl r (forget tables id r row), goneKey tables id k = false := by
  constructor
  · intro h r row hrow hkept
    by_cases hr : r ≠ .devices ∧ r ≠ .deviceSubgroups
    · exact goneKey_of_kept hr hkept
    cases r with
    | devices =>
      have hother : row.tenantId ≠ id := of_decide_eq_false hkept
      refine (device_kept hother).mpr fun x hx => ?_
      obtain ⟨g, hg, htenantId, rfl⟩ := mem_groupIds.mp hx
      refine h.devices row hrow ?_ g ((part_group htenant).mpr ⟨hg, htenantId⟩)
      exact fun hpart => hother ((part_device htenant).mp hpart).2
    | deviceSubgroups =>
      refine subgroup_kept.mpr (Bool.eq_false_of_not_eq_true fun hbelongs => ?_)
      exact h.subgroups row ((part_iff htenant).mpr ⟨hrow, hbelongs⟩)
    | _ => exact absurd (by decide) hr
  · intro h
    constructor
    · intro s hpart
      obtain ⟨hs, hbelongs⟩ := (part_iff htenant).mp hpart
      have hkept := subgroup_kept.mp (h .deviceSubgroups s hs rfl)
      exact Bool.noConfusion (hbelongs.symm.trans hkept)
    · intro d hd hpart g hg
      obtain ⟨hgroup, htenantId⟩ := (part_group htenant).mp hg
      have hother : d.tenantId ≠ id := fun he => hpart ((part_device htenant).mpr ⟨hd, he⟩)
      exact (device_kept hother).mp (h .devices d hd (decide_eq_false hother)) g.id
        (mem_groupIds.mpr ⟨g, hgroup, htenantId, rfl⟩)

/-- The subgroups apart, the statements delete what belongs to the tenant. -/
theorem deleted_eq_false (htenant : tables.Has (.tenants, id)) (hfree : Unobstructed ddl tables id)
    {row : Row r} (hrow : row ∈ tables r) :
    deleted ddl tables id r row = false ↔ ¬ Part ddl tables id r row := by
  cases r with
  | deviceSubgroups => exact iff_of_true rfl (hfree.subgroups row)
  | _ =>
    rw [part_iff htenant, not_and, forall_prop_of_true hrow, Bool.not_eq_true]
    rfl

/-! ## The purge -/

/-- Nothing but the tables stops the purge. -/
def Purgeable (session : Auth.Cookie) (t : Tenant) : Prop :=
  session.userRole = some .superAdmin ∧ t.protectedSystemTenant = false ∧
    t.slug ∉ protectedDefaultSlugs ∧ t.deletedAt.isSome

theorem purgeTenant_eq_ok {env : Env} {session : Auth.Cookie} {tenantId : Option Uuid}
    {db db' : Site ddl} : (∃ r, purgeTenant env session tenantId db = .ok (db', r)) ↔
      ∃ t, tenantId = some t.id ∧ t ∈ db.tables .tenants ∧ Purgeable session t ∧
        exec execute db (purgeStatements ddl db.tables t.id) = some db' := by
  simp only [purgeTenant, checkSuperadmin, bind_eq_ok, require_eq_ok, demand_eq_ok, pure_eq_ok,
    Prod.mk.injEq, Table.find_eq_some, not_or, Bool.not_eq_true]
  constructor
  · rintro ⟨r, _, hrole, x, rfl, t, ⟨ht, rfl⟩, _, ⟨hprotected, hslug⟩, _, htrash, done, hrun,
      rfl, rfl⟩
    exact ⟨t, rfl, ht, ⟨hrole, hprotected, hslug, htrash⟩, hrun⟩
  · rintro ⟨t, rfl, ht, ⟨hrole, hprotected, hslug, htrash⟩, hrun⟩
    exact ⟨_, (), hrole, t.id, rfl, t, ⟨ht, rfl⟩, (), ⟨hprotected, hslug⟩, (), htrash, db', hrun,
      rfl, rfl⟩

/-- A purge is committed exactly if the tenant is in the trash and not protected, no subgroup
belongs to it, and no device of another tenant is in one of its groups. It then deletes exactly what
belongs to the tenant, and clears what is left of the keys of these rows. -/
theorem purgeTenant_exact (env : Env) (session : Auth.Cookie) (tenantId : Option Uuid)
    (db : Site ddl) :
    ((∃ db' reply, purgeTenant env session tenantId db = .ok (db', reply)) ↔
      ∃ t, tenantId = some t.id ∧ t ∈ db.tables .tenants ∧ Purgeable session t ∧
        Unobstructed ddl db.tables t.id) ∧
    ∀ db' reply, purgeTenant env session tenantId db = .ok (db', reply) →
      ∀ id, tenantId = some id → ∀ r row', row' ∈ db'.tables r ↔
        ∃ row ∈ db.tables r, ¬ Part ddl db.tables id r row ∧
          row' = forget db.tables id r row := by
  have hcommits : ∀ t ∈ db.tables .tenants,
      (∃ db', exec execute db (purgeStatements ddl db.tables t.id) = some db') ↔
        Unobstructed ddl db.tables t.id := by
    intro t ht
    rw [commits_iff_intact childrenFirst, intact_applyAll db.intact]
    exact (unobstructed_iff ⟨t, ht, rfl⟩).symm
  constructor
  · constructor
    · rintro ⟨db', hrun⟩
      obtain ⟨t, hid, ht, hpurgeable, hexec⟩ := purgeTenant_eq_ok.mp hrun
      exact ⟨t, hid, ht, hpurgeable, (hcommits t ht).mp ⟨db', hexec⟩⟩
    · rintro ⟨t, hid, ht, hpurgeable, hfree⟩
      obtain ⟨db', hexec⟩ := (hcommits t ht).mpr hfree
      exact ⟨db', purgeTenant_eq_ok.mpr ⟨t, hid, ht, hpurgeable, hexec⟩⟩
  · intro db' reply hrun id hid r row'
    obtain ⟨t, htenant, ht, -, hexec⟩ := purgeTenant_eq_ok.mp ⟨reply, hrun⟩
    obtain rfl : t.id = id := Option.some.inj (htenant.symm.trans hid)
    have hfree := (hcommits t ht).mp ⟨db', hexec⟩
    rw [tables_of_exec hexec, mem_applyAll]
    refine exists_congr fun row => and_congr_right fun hrow => ?_
    rw [deleted_eq_false ⟨t, ht, rfl⟩ hfree hrow]

section Example

def trashed : Tenant where
  id := 1
  name := "Provedor"
  slug := "provedor"
  email := "provedor@example.com"
  deletedAt := some 0

def router : Device where
  id := 2
  tenantId := 1
  groupId := some 3
  name := "router"
  ipAddress := "10.0.0.1"
  username := "admin"
  passwordEncrypted := ""

def group : DeviceGroup where
  id := 3
  tenantId := 1
  name := "Grupo"
  slug := "grupo"

def subgroup : DeviceSubgroup where
  id := 4
  tenantId := 1
  groupId := 3
  name := "VPN"

/-- A tenant with a group and a device that was backed up once. -/
def exampleTables (subgroups : Table DeviceSubgroup) : Tables Row
  | .tenants => ⟨[trashed], by decide⟩
  | .devices => ⟨[router], by decide⟩
  | .deviceGroups => ⟨[group], by decide⟩
  | .deviceSubgroups => subgroups
  | .backups => ⟨[⟨5, 2, none⟩], by decide⟩
  | _ => .empty

def site (subgroups : Table DeviceSubgroup)
    (h : Intact (foreignKeys ⟨false⟩) (exampleTables subgroups) := by decide +kernel) :
    Site ⟨false⟩ := ⟨exampleTables subgroups, h⟩

def superAdmin : Auth.Cookie where
  userId := some 9
  userRole := some .superAdmin

theorem purgeTenant_exact_blocked : ¬ ∃ db' reply, purgeTenant .ascii superAdmin (some 1)
    (site ⟨[subgroup], by decide⟩) = .ok (db', reply) := by
  intro h
  obtain ⟨t, hid, ht, -, hfree⟩ := (purgeTenant_exact .ascii superAdmin (some 1) _).1.mp h
  obtain rfl := List.mem_singleton.mp ht
  exact hfree.subgroups subgroup ((part_iff ⟨trashed, ht, rfl⟩).mpr
    ⟨List.mem_singleton_self subgroup, by decide⟩)

example : (purgeTenant .ascii superAdmin (some 1) (site .empty)).toOption.isSome = true := by
  decide +kernel

end Example

end BackupCenter.Superadmin.Purge
