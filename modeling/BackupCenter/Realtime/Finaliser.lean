import BackupCenter.Realtime.Calls
import BackupCenter.Tasks.FollowupCandidates

/-!
# The finaliser that every child runs

`_maybe_finalize_bulk_and_schedule_followup` scans the children, writes the snapshot of a
finished batch, and schedules a follow-up unless the decision key says that another call
has already decided.
-/
namespace BackupCenter.Realtime

open BackupCenter.Lib BackupCenter.Tasks BackupCenter.Bulk

variable (env : Env)

/-- The time to live of the decision key: thirty days. -/
def decisionTtl : Nat := 60 * 60 * 24 * 30

def notNeededFields (counts : String → Nat) (m : TaskMeta) : TaskMeta :=
  { m with
    followup := { m.followup with
      decided := true, status := some .notNeeded, candidateCount := 0, categories := counts } }

def scheduledFields (call : FollowupCall) (counts : String → Nat) (now : Timestamp)
    (m : TaskMeta) : TaskMeta :=
  { m with
    followup := { m.followup with
      decided := true, status := some .scheduled, taskId := call.taskId
      candidateCount := call.deviceIds.length, categories := counts
      delaySeconds := call.countdown, scheduledAt := some now } }

/-- The batch meta that the rest of the call works with; a batch not completed yet is
written and read again. -/
def finalizeBatch (batch : TaskId) (bulkMeta : TaskMeta) (snapshot : Snapshot) :
    Program TaskMeta :=
  if bulkMeta.completed then pure (bulkMeta.applySnapshot snapshot)
  else do
    updateTaskMeta env batch (·.applySnapshot snapshot)
    match ← getTaskMeta batch with
    | some m => return m.applySnapshot snapshot
    | none => return {}

/-- Collect the candidates and schedule their follow-up, if there are any. -/
def decideFollowup (batch : TaskId) (bulkMeta : TaskMeta) (now : Timestamp)
    (followupTaskId : TaskId) : Program Unit := do
  let w ← readChildren bulkMeta.childIds unread
  let (candidateIds, counts) := collectBulkTransientFollowupCandidates env w bulkMeta
  let tenantId := strip bulkMeta.tenantId
  if candidateIds = [] ∨ tenantId = "" then
    updateTaskMeta env batch (notNeededFields counts)
  else do
    let call : FollowupCall :=
      { tenantId, deviceIds := candidateIds, sourceBulkTaskId := batch, taskId := followupTaskId
        countdown := env.bulkTransientFollowupDelaySeconds }
    scheduleFollowup call
    updateTaskMeta env batch (scheduledFields call counts now)

def maybeFinalizeBulkAndScheduleFollowup (batch : TaskId) (now : Timestamp)
    (followupTaskId : TaskId) : Program Unit :=
  if batch = "" then pure ()
  else do
    let bulkMeta := (← getTaskMeta batch).getD {}
    if !bulkMeta.isBulk then return ()
    else do
      let w ← readChildren bulkMeta.childIds unread
      match buildBulkTerminalSnapshot env w bulkMeta now with
      | none => return ()
      | some snapshot => do
        let bulkMeta ← finalizeBatch env batch bulkMeta snapshot
        if bulkMeta.operationKind ≠ some .backupBulk then return ()
        else if !env.bulkTransientFollowupEnabled || bulkMeta.cancelRequested then return ()
        else
          if ← Client.setnx (.followupDecision batch) decisionTtl (.text "1") then
            decideFollowup env batch bulkMeta now followupTaskId
          else return ()

end BackupCenter.Realtime
