import BackupCenter.Bulk.Registration
import BackupCenter.Realtime.Calls

/-!
# Starting and stopping batches

The routes that start a batch, the automatic follow-up, the stop-all request and the
scheduler's look at the active batches. The backup routines reserve the tenant's lock
before they register anything; the connection audit registers its batch without it.
-/
namespace BackupCenter.Realtime

open BackupCenter.Lib BackupCenter.Tasks BackupCenter.Bulk

variable (env : Env)

/-- The children that a routine enqueues itself; only a group's meta lists its devices. -/
def registerDirectChildren (r : Routine) (tenant : TenantId) : List NewChild → Program Unit
  | [] => pure ()
  | c :: rest => do
    registerTask env c.taskId tenant c.deviceId c.deviceName c.groupId
    if c.deviceId = "" then
      updateTaskMeta env c.taskId fun m =>
        { m with deviceIds := c.deviceIds, deviceTotal := c.deviceIds.length }
    -- the follow-up marks a device's meta as its own, with fields that nobody reads
    else if r = .runBulkTransientFollowup then updateTaskMeta env c.taskId id
    else pure ()
    registerDirectChildren r tenant rest

/-- The title under which a routine registers its batch. -/
def Routine.title : Routine → String
  | .runBackupAll => "Backup em massa"
  | .runBackupSelected => "Backup selecionados"
  | .runReprocessFailures => "Reprocessamento de falhas"
  | .runBulkTransientFollowup => "Reprocessamento automatico"

/-- The final write of a routine, with the read of `_merge_existing_bulk_children` before it. -/
def writeFinalMeta (r : Routine) (batch : TaskId) (p : Plan) : Program Unit := do
  let current ← getTaskMeta batch
  updateTaskMeta env batch (r.finalFields p (current.getD {}))

/-- `run_backup_all`, `run_backup_selected` and `run_reprocess_failures`. -/
def startBatch (r : Routine) (tenant : TenantId) (groupId : String) (batch : TaskId) (p : Plan) :
    Program Reply := do
  let (acquired, _) ← acquireTenantBulkLock env tenant batch
  if acquired then do
    -- the selection registers its batch after the children
    if r = .runBackupSelected then do
      registerDirectChildren env r tenant p.children
      registerTask env batch tenant "" (Routine.title r) groupId
    else do
      registerTask env batch tenant "" (Routine.title r) groupId
      registerDirectChildren env r tenant p.children
    writeFinalMeta env r batch p
    return .acquired true
  else return .acquired false

/-! ## The automatic follow-up -/

/-- How the preparation of a follow-up ends. -/
inductive FollowupOutcome where
  | enqueued (p : Plan)
  /-- No device is left to retry. -/
  | nothing (message : String)
  /-- An exception during the preparation. -/
  | raised (message error : String)

def preparingFields (requested : Nat) (m : TaskMeta) : TaskMeta :=
  { m with
    isBulk := true, operationKind := some .backupReprocess, status := some .running
    completed := false
    message := s!"Preparando reprocessamento automatico para {requested} dispositivo(s)..."
    totalDevices := 0, totalTasks := 0, doneTasks := 0, successTasks := 0, failedTasks := 0
    runningTasks := 0, queuedTasks := 0
    childTaskIds := [], childTaskDeviceCount := fun _ => none, finishedTaskIds := [] }

def nothingFields (message : String) (m : TaskMeta) : TaskMeta :=
  { m with
    isBulk := true, operationKind := some .backupReprocess, status := some .success
    completed := true, message := message
    totalDevices := 0, totalTasks := 0, doneTasks := 0, successTasks := 0, failedTasks := 0
    runningTasks := 0, queuedTasks := 0 }

def raisedFields (message error : String) (m : TaskMeta) : TaskMeta :=
  { m with
    isBulk := true, operationKind := some .backupReprocess, status := some .failed
    completed := true, message := message, error := error }

/-- The `transient_followup_*` fields of the batch that a follow-up belongs to. -/
def updateSource (source : TaskId) (fields : Followup → Followup) : Program Unit :=
  updateTaskMeta env source fun m => { m with followup := fields m.followup }

/-- `run_bulk_transient_followup_task` up to its `finally` block. -/
def prepareFollowup (tenant : TenantId) (batch source : TaskId) (requested : Nat)
    (now : Timestamp) (outcome : FollowupOutcome) : Program Unit := do
  registerTask env batch tenant "" (Routine.title .runBulkTransientFollowup) ""
  updateSource env source fun f =>
    { f with status := some .starting, bulkTaskId := batch, startedAt := some now }
  updateTaskMeta env batch (preparingFields requested)
  match outcome with
  | .enqueued p => do
    registerDirectChildren env .runBulkTransientFollowup tenant p.children
    updateTaskMeta env batch fun m => Routine.finalFields .runBulkTransientFollowup p m m
    updateSource env source fun f => { f with status := some .running, bulkTaskId := batch }
  | .nothing message => do
    updateTaskMeta env batch (nothingFields message)
    updateSource env source fun f => { f with status := some .skipped, bulkTaskId := batch }
  | .raised message error => do
    updateTaskMeta env batch (raisedFields message error)
    updateSource env source fun f => { f with status := some .failed, bulkTaskId := batch }

/-- `firstTry` says that the task has not been retried yet. -/
def runBulkTransientFollowup (tenant : TenantId) (batch source : TaskId) (requested : Nat)
    (firstTry : Bool) (now : Timestamp) (outcome : FollowupOutcome) : Program Reply := do
  let (acquired, existing) ← acquireTenantBulkLock env tenant batch
  if acquired then do
    prepareFollowup env tenant batch source requested now outcome
    -- the `finally` block: without a batch meta nobody else would release the lock
    let current ← getTaskMeta batch
    if (current.getD {}).isBulk then return .acquired true
    else do
      releaseTenantBulkLock tenant batch
      return .acquired true
  else do
    if source ≠ "" ∧ firstTry = true then
      updateSource env source fun f => { f with status := some .waitingLock, blockedBy := existing }
    else pure ()
    return .acquired false

/-! ## The connection audit -/

def auditFields (children : List NewChild) (m : TaskMeta) : TaskMeta :=
  { m with
    isBulk := true, operationKind := some .connectionAudit, status := some .running
    completed := false, cancelRequested := false
    message := s!"{children.length} testes planejados para processamento."
    totalDevices := children.length, totalTasks := children.length
    doneTasks := 0, successTasks := 0, failedTasks := 0
    runningTasks := 0, queuedTasks := children.length
    doneDevices := 0, successDevices := 0, failedDevices := 0
    noPingDevices := 0, pingOkLoginFailDevices := 0, pingLoginOkDevices := 0
    childTaskIds := children.map (·.taskId)
    childTaskDeviceCount := updateCounts (fun _ => none) children
    finishedTaskIds := [] }

def registerAuditChildren (tenant : TenantId) : List NewChild → Program Unit
  | [] => pure ()
  | c :: rest => do
    registerTask env c.taskId tenant c.deviceId c.deviceName c.groupId
    registerAuditChildren tenant rest

/-- `run_connection_audit_all`. -/
def runConnectionAuditAll (tenant : TenantId) (groupId : String) (batch : TaskId)
    (children : List NewChild) : Program Reply := do
  registerTask env batch tenant "" "Validacao manual de conectividade" groupId
  registerAuditChildren env tenant children
  updateTaskMeta env batch (auditFields children)
  return .done

/-! ## Stopping all batches, and the scheduler -/

def stoppedByOperator (m : TaskMeta) : TaskMeta :=
  { m with
    cancelRequested := true, status := some .stopped, completed := true
    message := "Lote interrompido manualmente pela central de agendamentos." }

/-- The loop over the stored metas; `ids` is what the key scan yields. -/
def stopBatches : List TaskId → Program Unit
  | [] => pure ()
  | id :: rest => do
    match ← Client.get (.taskMeta id) with
    | some (.doc m) =>
      if m.isBulk && !m.completed then do
        Client.setex (.taskMeta id) (60 * 60 * 48) (.doc (stoppedByOperator m))
        releaseTenantBulkLock m.tenantId id
      else pure ()
    | _ => pure ()
    stopBatches rest

/-- `_stop_backup_tasks_globally`, on the Redis side. -/
def stopBackupTasksGlobally (ids : List TaskId) : Program Reply := do
  Client.setex .forceStopBackups (60 * 30) (.text "1")
  stopBatches ids
  return .done

/-- `_has_active_bulk_operation`; `stale` says whose last activity is too old. -/
def hasActiveBulkOperation (stale : TaskMeta → Bool) : List TenantId → Program Bool
  | [] => pure false
  | tenant :: rest => do
    match ← Client.get (.tenantActiveBulk tenant) with
    | some (.text id) =>
      if id = "" then do
        Client.delete (.tenantActiveBulk tenant)
        hasActiveBulkOperation stale rest
      else
        match ← Client.get (.taskMeta id) with
        | some (.doc m) =>
          if !m.isBulk || m.completed then do
            Client.delete (.tenantActiveBulk tenant)
            hasActiveBulkOperation stale rest
          else if m.operationKind = some .connectionAudit then hasActiveBulkOperation stale rest
          else if stale m then do
            Client.delete (.tenantActiveBulk tenant)
            hasActiveBulkOperation stale rest
          else return true
        | _ => do
          Client.delete (.tenantActiveBulk tenant)
          hasActiveBulkOperation stale rest
    | _ => do
      Client.delete (.tenantActiveBulk tenant)
      hasActiveBulkOperation stale rest

end BackupCenter.Realtime
