import BackupCenter.Lib.Buckets
import BackupCenter.Scheduling.Daily
import BackupCenter.Tenants.Schema

/-!
# Schedules and devices

What the periodic task reads: the rows of the schedules, which of them count, and the daily time
of a tenant.
-/
namespace BackupCenter.Scheduling

open BackupCenter.Lib BackupCenter.Tenants

inductive ScheduleFrequency where
  | daily
  | weekly
  | monthly
  deriving Repr, DecidableEq

structure Schedule where
  id : Uuid
  deviceId : Uuid
  frequency : ScheduleFrequency := .daily
  time : String
  dayOfWeek : Option Int := none
  dayOfMonth : Option Int := none
  isActive : Option Bool := some true
  lastRunAt : Option Int := none
  nextRunAt : Option Int := none
  deriving DecidableEq

instance : Keyed Schedule Uuid := ⟨Schedule.id⟩

structure DeviceType where
  id : Uuid
  name : String
  scriptName : String

/-- What the task does not change: the devices with their groups, subgroups and types, the
clock of the deployment, and what it takes from the runtime. -/
structure Site where
  env : Env
  digits : Digits
  zone : Zone
  db : Database := {}
  deviceTypes : List DeviceType := []
  /-- `JUMP_BULK_BASTION_STAGGER_SECONDS` -/
  stagger : Nat := 5

namespace Site

variable (site : Site)

/-- `active_device_filters` -/
def enabledDevice (d : Device) : Bool :=
  d.isActive = some true && d.backupScheduled = some true &&
    match d.groupId with
    | none => true
    | some g => (site.db.deviceGroups.find g).any fun group => group.isActive = some true

/-- `schedule.device` -/
def device (r : Schedule) : Option Device := site.db.devices.find r.deviceId

/-- The filter of both queries for the schedules. -/
def enabledSchedule (r : Schedule) : Bool :=
  r.isActive = some true && (site.device r).any site.enabledDevice

/-- `schedule.device.tenant_id` -/
def tenantOf (r : Schedule) : Option Uuid := (site.device r).map Device.tenantId

/-- `_tenant_daily_time` -/
def tenantDailyTime (rows : List Schedule) (tenant : Option Uuid) : String :=
  let tenantTimes := (rows.filter fun r =>
    (site.tenantOf r).isSome && site.tenantOf r = tenant && r.time ≠ "").map fun r =>
      site.digits.sanitizeDailyTime r.time
  (mostCommon tenantTimes).getD "02:00"

def nextRunAt (time : String) (reference : Int) : Int :=
  computeNextDailyRunAt site.digits site.zone time reference

/-- `is_mass_backup_excluded_type` -/
def isMassBackupExcludedType (t : DeviceType) : Bool :=
  ["grafana", "zabbix"].any fun keyword =>
    contains (site.env.lower (strip (t.name ++ " " ++ t.scriptName))) keyword

/-- `resolve_mass_backup_excluded_type_ids` -/
def massBackupExcludedTypeIds : List Uuid :=
  (site.deviceTypes.filter site.isMassBackupExcludedType).map DeviceType.id

def excluded (d : Device) : Bool :=
  d.deviceTypeId.any site.massBackupExcludedTypeIds.contains

end Site

end BackupCenter.Scheduling
