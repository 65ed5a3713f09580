import BackupCenter.Bulk.Phases
import BackupCenter.Realtime.TaskMetaStore
import BackupCenter.Web.BulkStatus

/-!
# The calls that touch a batch

Routes and tasks as programs over the Redis commands: the status endpoint, the cancel
endpoint, the phase callbacks and the finaliser. Inputs that come from elsewhere (the
clock, new task ids, whether a revocation could be sent) are parameters of the call.
-/
namespace BackupCenter.Realtime

open BackupCenter.Lib BackupCenter.Tasks BackupCenter.Web BackupCenter.Bulk

/-- What a call answers. -/
inductive Reply where
  | done
  | notFound
  | forbidden
  | notBulk
  | cancelled
  | acquired (ok : Bool)
  deriving Repr, DecidableEq

variable (env : Env)

/-- The world as read so far, with one more child. -/
def observe (w : World) (id : TaskId) (m : TaskMeta) (r : AsyncResult) : World where
  taskMeta := Function.update w.taskMeta id m
  celery := Function.update w.celery id r

/-- Read the meta, the Celery state and the Celery result of each child in turn. -/
def readChildren : List TaskId → World → Program World
  | [], w => pure w
  | id :: rest, w => do
    let m ← getTaskMeta id
    let state ← celeryState id
    let result ← celeryResult id
    readChildren rest (observe w id (m.getD {}) ⟨state, result⟩)

def unread : World := ⟨fun _ => {}, fun _ => {}⟩

/-- The checks that the endpoints of a batch begin with. -/
def refused (tenant : TenantId) (taskMeta : TaskMeta) : Option Reply :=
  if taskMeta.tenantId ≠ "" ∧ taskMeta.tenantId ≠ tenant then some .forbidden
  else if taskMeta.isBulk = false then some .notBulk
  else none

/-- `bulk_task_status`; `due` says whether the last refresh is old enough. -/
def bulkTaskStatus (tenant : TenantId) (taskId : TaskId) (due : Bool) : Program Reply := do
  match ← getTaskMeta taskId with
  | none => return .notFound
  | some taskMeta =>
    match refused tenant taskMeta with
    | some r => return r
    | none =>
      if (!taskMeta.completed && due) || (taskMeta.completed && taskMeta.status = none) then do
        let w ← readChildren taskMeta.childIds unread
        updateTaskMeta env taskId (refreshBulkTaskMeta env w taskMeta).applyTo
        return .done
      else return .done

/-- The children whose revocation was requested: those that Celery does not report as
finished and for which the signal could be sent. -/
def revokeChildren (sent : TaskId → Bool) : List TaskId → Program (List TaskId)
  | [] => pure []
  | id :: rest => do
    let state ← celeryState id
    let forced ← revokeChildren sent rest
    if state.any [.success, .failure, .revoked].contains then return forced
    else if sent id then return id :: forced
    else return forced

/-- `cancel_bulk_task`; `sent` says for which children the signal could be sent. -/
def cancelBulkTask (tenant : TenantId) (taskId : TaskId) (sent : TaskId → Bool)
    (now : Timestamp) : Program Reply := do
  match ← getTaskMeta taskId with
  | none => return .notFound
  | some taskMeta =>
    match refused tenant taskMeta with
    | some r => return r
    | none => do
      let forced ← revokeChildren sent taskMeta.childIds
      Client.setex .forceStopBackups (60 * 30) (.text "1")
      updateTaskMeta env taskId (cancelFields forced now)
      return .cancelled

/-- `register_task` and `update_task_meta` for each child that a callback enqueues. -/
def registerChildren (tenant : TenantId) : List NewChild → Program Unit
  | [] => pure ()
  | c :: rest => do
    registerTask env c.taskId tenant c.deviceId c.deviceName c.groupId
    updateTaskMeta env c.taskId fun m =>
      { m with deviceIds := c.deviceIds, deviceTotal := c.deviceIds.length }
    registerChildren tenant rest

/-- Read the batch and merge the new children into it, in a second read and write. -/
def mergeIntoBatch (batch : TaskId) (new : List NewChild) (pending : Nat) (message : String) :
    Program Unit := do
  let current ← getTaskMeta batch
  updateTaskMeta env batch (phaseFields (current.getD {}) new pending message)

def enqueueVpnGroupsAfterDirectPhase (tenant : TenantId) (vpn : List GroupPayload)
    (batch : TaskId) (fresh : Nat → TaskId) : Program Unit :=
  if vpn = [] then pure ()
  else do
    if ← shouldStopNow batch then
      if batch ≠ "" then
        updateTaskMeta env batch (stoppedFields "Parada solicitada. Fase VPN nao sera iniciada.")
      else return ()
    else if batch ≠ "" then do
      let new := vpnChildren vpn fresh
      registerChildren env tenant new
      mergeIntoBatch env batch new 0 (vpnMessage new)
    else return ()

def enqueueJumpAndVpnAfterDirectPhase (tenant : TenantId) (jump vpn : List GroupPayload)
    (batch : TaskId) (fresh : Nat → TaskId) : Program Unit :=
  -- without a jump phase, or with one that has no device, the VPN callback takes over
  if jump = [] then enqueueVpnGroupsAfterDirectPhase env tenant vpn batch fresh
  else do
    if ← shouldStopNow batch then
      if batch ≠ "" then
        updateTaskMeta env batch
          (stoppedFields "Parada solicitada. Fases Jump/VPN nao serao iniciadas.")
      else return ()
    else
      let new := jumpChildren jump fresh
      if new = [] then enqueueVpnGroupsAfterDirectPhase env tenant vpn batch fresh
      else if batch ≠ "" then do
        registerChildren env tenant new
        mergeIntoBatch env batch new vpn.length
          (jumpMessage new (phaseGroups jump).length vpn.length)
      else return ()

end BackupCenter.Realtime
