import BackupCenter.Realtime.Commands

/-!
# Reading and writing task metas

`update_task_meta` is a read followed by a write of the whole document. The write of an
uncompleted batch also takes the tenant's lock, and that of a completed batch releases
it, when the lock is enabled.
-/
namespace BackupCenter.Realtime

open BackupCenter.Lib BackupCenter.Tasks

variable (env : Env)

/-- The time to live of a task meta. -/
def ttlSeconds : Nat :=
  max (if env.realtimeLogRetentionDays ≠ 0 then env.realtimeLogRetentionDays else 90) 1 *
    24 * 60 * 60

def bulkActiveLockTtlSeconds : Nat :=
  max (if env.bulkActiveLockTtl ≠ 0 then env.bulkActiveLockTtl else 1800) 300

theorem ttlSeconds_pos : 0 < ttlSeconds env := by
  simp only [ttlSeconds]; omega

theorem bulkActiveLockTtlSeconds_pos : 0 < bulkActiveLockTtlSeconds env := by
  simp only [bulkActiveLockTtlSeconds]; omega

/-- `none` where the source answers an empty dictionary. -/
def getTaskMeta (taskId : TaskId) : Program (Option TaskMeta) :=
  if taskId = "" then pure none
  else do
    match ← Client.get (.taskMeta taskId) with
    | some (.doc m) => return some m
    | _ => return none

def releaseTenantBulkLock (tenantId : TenantId) (taskId : TaskId) : Program Unit :=
  if tenantId = "" then pure ()
  else do
    match ← Client.get (.tenantActiveBulk tenantId) with
    | some (.text current) =>
      if taskId ≠ "" ∧ current ≠ "" ∧ current ≠ taskId then return ()
      else Client.delete (.tenantActiveBulk tenantId)
    | _ => Client.delete (.tenantActiveBulk tenantId)

/-- What follows the write of a task meta: a batch takes or releases the tenant's lock. -/
def lockAfterWrite (taskId : TaskId) (payload : TaskMeta) : Program Unit :=
  if env.bulkTenantSingleActiveLockEnabled && payload.isBulk && payload.tenantId ≠ "" then
    if payload.completed then releaseTenantBulkLock payload.tenantId taskId
    else Client.setex (.tenantActiveBulk payload.tenantId) (bulkActiveLockTtlSeconds env)
      (.text taskId)
  else pure ()

def writeTaskMeta (taskId : TaskId) (payload : TaskMeta) : Program Unit := do
  Client.setex (.taskMeta taskId) (ttlSeconds env) (.doc payload)
  lockAfterWrite env taskId payload

/-- `fields` is the effect of `current.update(fields)`. -/
def updateTaskMeta (taskId : TaskId) (fields : TaskMeta → TaskMeta) : Program Unit :=
  if taskId = "" then pure ()
  else do
    let current ← getTaskMeta taskId
    writeTaskMeta env taskId (fields (current.getD {}))

/-- The document that registers a task. -/
def registeredMeta (tenantId : TenantId) (deviceId : DeviceId) (deviceName groupId : String) :
    TaskMeta where
  tenantId := tenantId
  deviceId := deviceId
  deviceName := if deviceName ≠ "" then deviceName else "Dispositivo"
  groupId := groupId
  status := some .queued
  message := "Task enfileirada, aguardando worker..."

def registerTask (taskId : TaskId) (tenantId : TenantId) (deviceId : DeviceId)
    (deviceName groupId : String) : Program Unit :=
  if taskId = "" then pure ()
  else writeTaskMeta env taskId (registeredMeta tenantId deviceId deviceName groupId)

/-- The answer says whether the lock was acquired, and which batch holds it otherwise. -/
def acquireTenantBulkLock (tenantId : TenantId) (taskId : TaskId) : Program (Bool × TaskId) :=
  if !env.bulkTenantSingleActiveLockEnabled || tenantId = "" || taskId = "" then
    pure (true, "")
  else do
    match ← Client.get (.tenantActiveBulk tenantId) with
    | some (.text existing) =>
      if existing = "" then takeLock
      else
        match ← getTaskMeta existing with
        | some m =>
          if m.isBulk && !m.completed then return (false, existing)
          else do
            Client.delete (.tenantActiveBulk tenantId)
            takeLock
        | none => return (false, existing)
    | _ => takeLock
where
  /-- The conditional write, and a second look at the lock when it fails. -/
  takeLock : Program (Bool × TaskId) := do
    if ← Client.setnx (.tenantActiveBulk tenantId) (bulkActiveLockTtlSeconds env)
        (.text taskId) then
      return (true, "")
    else
      match ← Client.get (.tenantActiveBulk tenantId) with
      | some (.text existing) => return (false, existing)
      | _ => return (false, "")

def isGlobalBackupStopEnabled : Program Bool := do
  match ← Client.get .forceStopBackups with
  | some (.text flag) => return strip flag == "1"
  | _ => return false

def isBulkCancelled (bulkTaskId : TaskId) : Program Bool := do
  let m ← getTaskMeta bulkTaskId
  return (m.getD {}).cancelRequested

def shouldStopNow (bulkTaskId : TaskId) : Program Bool := do
  if ← isGlobalBackupStopEnabled then return true else isBulkCancelled bulkTaskId

/-- The worker's heartbeat. -/
def touchBulkActivity (bulkTaskId : TaskId) (now : Timestamp) : Program Unit :=
  updateTaskMeta env bulkTaskId fun m => { m with lastChildActivityAt := some now }

end BackupCenter.Realtime
