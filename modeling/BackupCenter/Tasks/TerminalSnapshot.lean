import BackupCenter.Lib.Accumulate
import BackupCenter.Tasks.Diagnostics

/-!
# The worker's tally of a finished batch

`buildBulkTerminalSnapshot` walks over the children, gives up at the first one
that is not terminal, and otherwise adds up what each child's result reports. The
tally of one child is first read off its result (`reportedTally`) and then
completed to the number of devices the batch recorded for it (`completeTally`).
-/
namespace BackupCenter.Tasks

open BackupCenter.Lib

/-- The stored statuses that end a child. -/
def terminalStatuses : List Status :=
  [.success, .failed, .failure, .error, .stopped, .revoked, .completed]

def bulkChildTaskIsTerminal (w : World) (childId : TaskId) : Bool :=
  let childMeta := w.taskMeta childId
  childMeta.completed ||
    childMeta.status.any terminalStatuses.contains ||
    (w.celery childId).state.any [.success, .failure, .revoked].contains

/-- The stored result, else the result backend's, else an empty dictionary. -/
def bulkChildResult (w : World) (childId : TaskId) : ResultDict :=
  match (w.taskMeta childId).result with
  | some r => r
  | none => ((w.celery childId).result).getD {}

/-- What one child adds to the snapshot. -/
structure ChildTally where
  success : Bool
  successDevices : Nat
  failedDevices : Nat
  deriving Repr, DecidableEq

/-- The device count of a child, with the source's floor of one. -/
def childDeviceTotal (m : TaskMeta) (childId : TaskId) : Nat :=
  max 1 ((m.childTaskDeviceCount childId).getD 1)

/-- The counters as the result dictionary states them. -/
def reportedTally (r : ResultDict) (deviceTotal : Nat) : ChildTally :=
  match r.details with
  | some _ =>
    let counted := r.total.isSome || r.success.isSome || r.failed.isSome
    let failed := if counted then r.failed.getD 0 else 0
    ⟨failed == 0, if counted then r.success.getD 0 else 0, failed⟩
  | none =>
    match r.success with
    | some s => if s ≠ 0 then ⟨true, 1, 0⟩ else ⟨false, 0, 1⟩
    | none =>
      if r.error ≠ "" then ⟨false, 0, deviceTotal⟩
      -- nothing in the dictionary: the child is taken for a success
      else ⟨true, deviceTotal, 0⟩

/-- Devices that the result does not account for take the child's verdict. -/
def completeTally (t : ChildTally) (deviceTotal : Nat) : ChildTally :=
  if t.successDevices + t.failedDevices = 0 then
    if t.success then { t with successDevices := deviceTotal }
    else { t with failedDevices := deviceTotal }
  else if t.successDevices + t.failedDevices < deviceTotal then
    let missing := deviceTotal - (t.successDevices + t.failedDevices)
    if t.success then { t with successDevices := t.successDevices + missing }
    else { t with failedDevices := t.failedDevices + missing }
  else t

def childTally (w : World) (m : TaskMeta) (childId : TaskId) : ChildTally :=
  completeTally (reportedTally (bulkChildResult w childId) (childDeviceTotal m childId))
    (childDeviceTotal m childId)

/-- The failure categories that one child's result adds. -/
def countFailures (env : Env) (r : ResultDict) (deviceTotal : Nat) (counts : String → Nat) :
    String → Nat :=
  match r.details with
  | some items =>
    (items.filter (!·.success)).foldl
      (fun c d => countCategory c (tallyCategory env d.failureCategory d.message) 1) counts
  | none =>
    match r.success with
    | some s =>
      if s ≠ 0 then counts
      else countCategory counts (tallyCategory env r.failureCategory r.message) 1
    | none =>
      if r.error ≠ "" then countCategory counts (tallyCategory env "" r.error) (max 1 deviceTotal)
      else counts

/-- The accumulators of the loop over the children. -/
structure SnapshotTally where
  doneTasks : Nat := 0
  successTasks : Nat := 0
  failedTasks : Nat := 0
  doneDevices : Nat := 0
  successDevices : Nat := 0
  failedDevices : Nat := 0
  failureCategoryCounts : String → Nat := fun _ => 0

def SnapshotTally.start (m : TaskMeta) : SnapshotTally where
  doneDevices := m.skippedJumpUnreachable
  failedDevices := m.skippedJumpUnreachable
  failureCategoryCounts := countCategory (fun _ => 0) "connection" m.skippedJumpUnreachable

def SnapshotTally.add (env : Env) (w : World) (m : TaskMeta) (t : SnapshotTally)
    (childId : TaskId) : SnapshotTally :=
  let c := childTally w m childId
  { doneTasks := t.doneTasks + 1
    successTasks := t.successTasks + if c.success then 1 else 0
    failedTasks := t.failedTasks + if c.success then 0 else 1
    doneDevices := t.doneDevices + (c.successDevices + c.failedDevices)
    successDevices := t.successDevices + c.successDevices
    failedDevices := t.failedDevices + c.failedDevices
    failureCategoryCounts :=
      countFailures env (bulkChildResult w childId) (childDeviceTotal m childId)
        t.failureCategoryCounts }

/-- The loop; a child that is not terminal ends it with nothing. -/
def tallyChildren (env : Env) (w : World) (m : TaskMeta) :
    SnapshotTally → List TaskId → Option SnapshotTally
  | t, [] => some t
  | t, childId :: rest =>
    if bulkChildTaskIsTerminal w childId then tallyChildren env w m (t.add env w m childId) rest
    else none

/-- The fields that a ready snapshot writes into the batch meta. -/
structure Snapshot where
  status : Status
  completed : Bool := true
  completedAt : Timestamp
  message : String
  totalTasks : Nat
  doneTasks : Nat
  successTasks : Nat
  failedTasks : Nat
  runningTasks : Nat := 0
  queuedTasks : Nat := 0
  totalDevices : Nat
  doneDevices : Nat
  successDevices : Nat
  failedDevices : Nat
  finishedTaskIds : List TaskId
  failureCategoryCounts : String → Nat

def snapshotStatus (m : TaskMeta) (t : SnapshotTally) : Status :=
  if m.cancelRequested then .stopped
  else if 0 < t.failedDevices then .failed
  else .success

def snapshotMessage (m : TaskMeta) (t : SnapshotTally) : String :=
  let verb := if m.cancelRequested then "Interrompido" else "Finalizado"
  s!"{verb}. Sucesso: {t.successDevices} | Falhas: {t.failedDevices}"

/-- `none` where the source answers `False, {}`: the batch is not finished. -/
def buildBulkTerminalSnapshot (env : Env) (w : World) (m : TaskMeta) (now : Timestamp) :
    Option Snapshot :=
  let totalTasks := max m.totalTasks m.childIds.length
  if totalTasks = 0 then none
  else if m.childIds.length < totalTasks then none
  else (tallyChildren env w m (.start m) m.childIds).map fun t =>
    { status := snapshotStatus m t
      completedAt := now
      message := snapshotMessage m t
      totalTasks := totalTasks
      doneTasks := t.doneTasks
      successTasks := t.successTasks
      failedTasks := t.failedTasks
      totalDevices :=
        max (max m.totalDevices t.doneDevices) (m.childIds.map (childDeviceTotal m)).sum
      doneDevices := t.doneDevices
      successDevices := t.successDevices
      failedDevices := t.failedDevices
      finishedTaskIds := m.childIds
      failureCategoryCounts := t.failureCategoryCounts }

/-- `update_task_meta(batch, **snapshot)` on the stored meta. -/
def TaskMeta.applySnapshot (m : TaskMeta) (s : Snapshot) : TaskMeta :=
  { m with
    status := some s.status, completed := s.completed, completedAt := some s.completedAt
    message := s.message, totalTasks := s.totalTasks, doneTasks := s.doneTasks
    successTasks := s.successTasks, failedTasks := s.failedTasks
    runningTasks := s.runningTasks, queuedTasks := s.queuedTasks
    totalDevices := s.totalDevices, doneDevices := s.doneDevices
    successDevices := s.successDevices, failedDevices := s.failedDevices
    finishedTaskIds := s.finishedTaskIds, failureCategoryCounts := s.failureCategoryCounts }

variable {env : Env} {w : World} {m : TaskMeta} {now : Timestamp} {s : Snapshot}

theorem childDeviceTotal_pos (m : TaskMeta) (childId : TaskId) :
    0 < childDeviceTotal m childId := by
  simp only [childDeviceTotal]; omega

theorem tallyChildren_eq_some {t t' : SnapshotTally} {cs : List TaskId} :
    tallyChildren env w m t cs = some t' ↔
      (∀ c ∈ cs, bulkChildTaskIsTerminal w c = true) ∧
        cs.foldl (SnapshotTally.add env w m) t = t' := by
  induction cs generalizing t with
  | nil => simp [tallyChildren]
  | cons c cs ih =>
    rw [tallyChildren]
    split
    next hc => simp [ih, hc]
    next hc => simp [hc]

/-- The accumulators after all children, when every one of them is terminal. -/
def finalTally (env : Env) (w : World) (m : TaskMeta) : SnapshotTally :=
  m.childIds.foldl (SnapshotTally.add env w m) (.start m)

theorem finalTally_successDevices (env : Env) (w : World) (m : TaskMeta) :
    (finalTally env w m).successDevices =
      (m.childIds.map fun c => (childTally w m c).successDevices).sum := by
  have h := foldl_counter (f := SnapshotTally.successDevices)
    (fun t c => show (t.add env w m c).successDevices = _ from rfl) m.childIds (.start m)
  exact h.trans (Nat.zero_add _)

theorem finalTally_failedDevices (env : Env) (w : World) (m : TaskMeta) :
    (finalTally env w m).failedDevices = m.skippedJumpUnreachable +
      (m.childIds.map fun c => (childTally w m c).failedDevices).sum :=
  foldl_counter (f := SnapshotTally.failedDevices)
    (fun t c => show (t.add env w m c).failedDevices = _ from rfl) m.childIds (.start m)

theorem finalTally_doneDevices (env : Env) (w : World) (m : TaskMeta) :
    (finalTally env w m).doneDevices = m.skippedJumpUnreachable +
      (m.childIds.map fun c =>
        (childTally w m c).successDevices + (childTally w m c).failedDevices).sum :=
  foldl_counter (f := SnapshotTally.doneDevices)
    (fun t c => show (t.add env w m c).doneDevices = _ from rfl) m.childIds (.start m)

/-- A snapshot exists exactly when the recorded children reach the planned number of
tasks and every one of them is terminal. -/
theorem snapshot_isSome_iff :
    (buildBulkTerminalSnapshot env w m now).isSome = true ↔
      0 < m.childIds.length ∧ m.totalTasks ≤ m.childIds.length ∧
        ∀ c ∈ m.childIds, bulkChildTaskIsTerminal w c = true := by
  simp only [buildBulkTerminalSnapshot]
  split
  next h => simp; omega
  split
  next h => simp; omega
  next h0 hlt =>
    rw [Option.isSome_map, Option.isSome_iff_exists]
    simp only [tallyChildren_eq_some, exists_and_left, exists_eq', and_true]
    constructor
    · intro h; exact ⟨by omega, by omega, h⟩
    · intro h; exact h.2.2

/-- What a ready snapshot says, in terms of the final accumulators. -/
theorem snapshot_eq_some (h : buildBulkTerminalSnapshot env w m now = some s) :
    s.successDevices = (finalTally env w m).successDevices ∧
    s.failedDevices = (finalTally env w m).failedDevices ∧
    s.doneDevices = (finalTally env w m).doneDevices ∧
    s.totalDevices = max (max m.totalDevices (finalTally env w m).doneDevices)
      (m.childIds.map (childDeviceTotal m)).sum ∧
    s.status = snapshotStatus m (finalTally env w m) := by
  simp only [buildBulkTerminalSnapshot] at h
  split at h
  · cases h
  split at h
  · cases h
  obtain ⟨t, ht, rfl⟩ := Option.map_eq_some_iff.mp h
  obtain ⟨-, rfl⟩ := tallyChildren_eq_some.mp ht
  exact ⟨rfl, rfl, rfl, rfl, rfl⟩

end BackupCenter.Tasks
