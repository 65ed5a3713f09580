import BackupCenter.Lib.Text
import BackupCenter.Quota.PlanLimits
import BackupCenter.Tenants.Schema

/-!
# The periodic purges

`purge_expired_backups` removes the files of old backups tenant by tenant and then commits the
deletion of the rows; `purge_failed_backups_periodic` does the same for failed backups, all at once.
-/
namespace BackupCenter.Retention

open BackupCenter.Lib
open BackupCenter.Quota (BackupStatus)
open BackupCenter.Tenants (Uuid Device DeviceGroup)

structure Backup where
  id : Uuid
  deviceId : Uuid
  filePath : Option String := none
  status : Option BackupStatus := some .pending
  /-- in microseconds since the first representable moment -/
  createdAt : Option Int
  deriving DecidableEq

instance : Keyed Backup Uuid := ⟨Backup.id⟩

structure Plan where
  backupRetentionDays : Option Int := some 30
  deriving DecidableEq

structure Tenant where
  id : Uuid
  isActive : Option Bool := some true
  plan : Option Plan := none
  deriving DecidableEq

instance : Keyed Tenant Uuid := ⟨Tenant.id⟩

structure Store where
  tenants : Table Tenant := .empty
  devices : Table Device := .empty
  deviceGroups : Table DeviceGroup := .empty
  backups : Table Backup := .empty
  /-- the files that exist, under the names that `PurgeWorld.canonical` gives them -/
  files : List String := []

/-- What a purge meets. -/
structure PurgeWorld where
  /-- the file that a path names for the worker, in its working directory -/
  canonical : String → String
  defaultRetentionDays : Int := 90
  /-- `datetime.utcnow()` when the turn of a tenant comes -/
  now : Uuid → Int
  /-- `datetime.utcnow()` of `purge_failed_backups_periodic` -/
  started : Int
  /-- `os.remove` raises for the file of this backup -/
  removeFails : Uuid → Bool := fun _ => false
  /-- the commit for this tenant raises -/
  commitFails : Uuid → Bool := fun _ => false
  /-- the commit of `purge_failed_backups_periodic` raises -/
  failedCommitFails : Bool := false

/-! ## Paths -/

def storageBase : String := "/app/storage/backups"

/-- `os.path.isabs` -/
def isAbs (path : String) : Bool := path.toList.head? = some '/'

/-- `os.path.join`, for a base without a slash at its end -/
def join (base path : String) : String := if isAbs path then path else base ++ "/" ++ path

/-- `DiffService.resolve_backup_path` -/
def resolveBackupPath (b : Backup) : Option String :=
  match b.filePath with
  | none => none
  | some path => if path = "" then none else some (join storageBase path)

/-- The path that `purge_expired_backups` removes. -/
def expiredPath (b : Backup) : Option String := b.filePath.filter (· ≠ "")

/-- The path that `purge_failed_backups_periodic` removes. -/
def failedPath (b : Backup) : Option String :=
  let path := strip (b.filePath.getD "")
  if path = "" then none else some (join storageBase path)

variable (w : PurgeWorld)

/-- The file of a row, where the application looks for it. -/
def PurgeWorld.fileOf (b : Backup) : Option String := (resolveBackupPath b).map w.canonical

/-- The file that the removal for a row takes away, unless it is gone already. -/
def PurgeWorld.takes (pathOf : Backup → Option String) (b : Backup) : Option String :=
  if w.removeFails b.id then none else (pathOf b).map w.canonical

/-- What is removed for one row: the files that are left, and how many were removed. -/
def removeFile (pathOf : Backup → Option String) (files : List String × Nat) (b : Backup) :
    List String × Nat :=
  match pathOf b with
  | none => files
  | some path =>
    if w.canonical path ∈ files.1 then
      if w.removeFails b.id then files
      else (files.1.filter (· ≠ w.canonical path), files.2 + 1)
    else files

/-! ## `purge_expired_backups` -/

structure Purged where
  deleted : Nat := 0
  filesRemoved : Nat := 0
  deriving DecidableEq

def microsecondsPerDay : Int := 86400000000

/-- `datetime.max` -/
def datetimeEnd : Int := 3652059 * microsecondsPerDay

def PurgeWorld.retentionDays (t : Tenant) : Int :=
  match t.plan.bind Plan.backupRetentionDays with
  | some days => if days = 0 then w.defaultRetentionDays else days
  | none => w.defaultRetentionDays

/-- `datetime.utcnow() - timedelta(days=retention_days)`, which may overflow -/
def PurgeWorld.cutoff (t : Tenant) : Option Int :=
  let moment := w.now t.id - w.retentionDays t * microsecondsPerDay
  if 0 ≤ moment ∧ moment < datetimeEnd then some moment else none

/-- The device is active, and so is its group, if it is in one. -/
def Store.active (s : Store) (d : Device) : Bool :=
  d.isActive = some true && (d.groupId = none ||
    (d.groupId.bind s.deviceGroups.find).any fun g => g.isActive = some true)

def Store.isExpired (s : Store) (tenantId : Uuid) (cutoff : Int) (b : Backup) : Bool :=
  (s.devices.find b.deviceId).any fun d =>
    d.tenantId = tenantId && b.createdAt.any (· < cutoff) && s.active d

/-- The tenants in turn; what a commit that fails has removed from the disk stays removed. -/
def purgeTenants : List Tenant → Purged → Store → Option Purged × Store
  | [], done, s => (some done, s)
  | t :: ts, done, s =>
    match w.cutoff t with
    | none => (none, s)
    | some cutoff =>
      let expired := s.backups.rows.filter (s.isExpired t.id cutoff)
      let (files, removed) := expired.foldl (removeFile w expiredPath) (s.files, 0)
      if w.commitFails t.id then (none, { s with files })
      else
        purgeTenants ts ⟨done.deleted + expired.length, done.filesRemoved + removed⟩
          { s with files, backups := s.backups.erase (s.isExpired t.id cutoff) }

def Store.activeTenants (s : Store) : List Tenant :=
  s.tenants.rows.filter fun t => t.isActive = some true

/-- The counts that the task returns, unless it raises, and what it leaves. -/
def purgeExpiredBackups (s : Store) : Option Purged × Store :=
  purgeTenants w s.activeTenants {} s

/-! ## `purge_failed_backups_periodic` -/

def PurgeWorld.failedCutoff : Int := w.started - 3 * microsecondsPerDay

def Store.isFailed (s : Store) (cutoff : Int) (b : Backup) : Bool :=
  (s.devices.find b.deviceId).isSome && b.status = some .failed && b.createdAt.any (· < cutoff)

def purgeFailedBackupsPeriodic (s : Store) : Option Purged × Store :=
  let failed := s.backups.rows.filter (s.isFailed w.failedCutoff)
  let (files, removed) := failed.foldl (removeFile w failedPath) (s.files, 0)
  if w.failedCommitFails then (none, { s with files })
  else
    (some ⟨failed.length, removed⟩,
      { s with files, backups := s.backups.erase (s.isFailed w.failedCutoff) })

inductive PurgeTask where
  | expired
  | failed

def PurgeTask.run (w : PurgeWorld) (s : Store) : PurgeTask → Option Purged × Store
  | .expired => purgeExpiredBackups w s
  | .failed => purgeFailedBackupsPeriodic w s

end BackupCenter.Retention
