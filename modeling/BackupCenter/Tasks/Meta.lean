import BackupCenter.Lib.Text

/-!
# Task metas and Celery results

Batches and their children store the same kind of document under
`backup_center:task_meta:<id>`. A field at its default value stands for an absent
key: the source reads every field through `or 0`, `or []` or `bool(...)`, so that
the two cannot be told apart. Result dictionaries keep the presence of the keys
that the source tests with `in`.
-/
namespace BackupCenter.Tasks

abbrev TaskId := String
abbrev DeviceId := String
abbrev TenantId := String
abbrev Timestamp := Nat

/-- What the deployment fixes: environment variables, and `str.lower`. -/
structure Env where
  lower : String → String
  transientRetryDenylistNames : List String := []
  transientRetryDenylistIds : List String := []
  bulkTransientFollowupEnabled : Bool := true
  bulkTransientFollowupDelaySeconds : Nat := 600
  realtimeLogRetentionDays : Nat := 90
  bulkTenantSingleActiveLockEnabled : Bool := false
  bulkActiveLockTtl : Nat := 1800

/-- The default settings, with lower-casing of ASCII letters. -/
def Env.ascii : Env := { lower := Lib.asciiLower }

inductive CeleryState where
  | pending | received | started | retry | success | failure | revoked
  deriving Repr, DecidableEq

/-- The `status` values that the tasks and the routes write. -/
inductive Status where
  | queued | running | retrying | stopping | stopped | success | completed | failed | failure
  | error | revoked
  deriving Repr, DecidableEq

inductive OperationKind where
  | backupBulk | backupReprocess | connectionAudit
  deriving Repr, DecidableEq

/-- One entry of the `details` list of a group result. -/
structure Detail where
  deviceId : DeviceId := ""
  deviceName : String := ""
  success : Bool := false
  message : String := ""
  failureCategory : String := ""
  deriving Repr, DecidableEq

inductive Classification where
  | ready | noPing | pingOkLoginFail
  deriving Repr, DecidableEq

/-- The fields of a result whose `check_type` is `connection_audit`. -/
structure ConnectionCheck where
  classification : Option Classification := none
  pingOk : Bool := false
  loginOk : Bool := false
  deriving Repr, DecidableEq

/-- A result dictionary. `details` is `none` when the key holds no list; the three
counters are `none` when their key is absent, and a Boolean counts as 0 or 1. -/
structure ResultDict where
  details : Option (List Detail) := none
  total : Option Nat := none
  success : Option Nat := none
  failed : Option Nat := none
  error : String := ""
  message : String := ""
  failureCategory : String := ""
  connectionCheck : Option ConnectionCheck := none
  deriving Repr, DecidableEq

/-- What the Celery result backend answers. `state` is `none` when it answers nothing
or raises; `result` is `none` when the payload is not a dictionary. -/
structure AsyncResult where
  state : Option CeleryState := some .pending
  result : Option ResultDict := none
  deriving Repr, DecidableEq

inductive FollowupStatus where
  | notNeeded | scheduled | waitingLock | starting | skipped | running | failed
  deriving Repr, DecidableEq

/-- The `transient_followup_*` keys of a batch. -/
structure Followup where
  decided : Bool := false
  status : Option FollowupStatus := none
  taskId : TaskId := ""
  bulkTaskId : TaskId := ""
  candidateCount : Nat := 0
  delaySeconds : Nat := 0
  scheduledAt : Option Timestamp := none
  startedAt : Option Timestamp := none
  blockedBy : TaskId := ""
  categories : String → Nat := fun _ => 0

/-- A task meta; `{}` is also what `get_task_meta(...) or {}` yields for a missing key. -/
structure TaskMeta where
  tenantId : TenantId := ""
  isBulk : Bool := false
  operationKind : Option OperationKind := none
  status : Option Status := none
  message : String := ""
  error : String := ""
  completed : Bool := false
  completedAt : Option Timestamp := none
  lastChildActivityAt : Option Timestamp := none
  cancelRequested : Bool := false
  cancelRequestedAt : Option Timestamp := none
  forceCancelledChildIds : List TaskId := []
  childTaskIds : List TaskId := []
  childTaskDeviceCount : TaskId → Option Nat := fun _ => none
  totalTasks : Nat := 0
  doneTasks : Nat := 0
  successTasks : Nat := 0
  failedTasks : Nat := 0
  runningTasks : Nat := 0
  queuedTasks : Nat := 0
  totalDevices : Nat := 0
  doneDevices : Nat := 0
  successDevices : Nat := 0
  failedDevices : Nat := 0
  pendingDevices : Nat := 0
  runningPendingDevices : Nat := 0
  queuedPendingDevices : Nat := 0
  noPingDevices : Nat := 0
  pingOkLoginFailDevices : Nat := 0
  pingLoginOkDevices : Nat := 0
  finishedTaskIds : List TaskId := []
  failureCategoryCounts : String → Nat := fun _ => 0
  skippedJumpUnreachable : Nat := 0
  skippedJumpDeviceIds : List DeviceId := []
  processedDevices : Nat := 0
  deviceTotal : Nat := 0
  deviceIds : List DeviceId := []
  deviceId : DeviceId := ""
  deviceName : String := ""
  groupId : String := ""
  result : Option ResultDict := none
  followup : Followup := {}

/-- The child ids that the source iterates over: empty ids are dropped. -/
def TaskMeta.childIds (m : TaskMeta) : List TaskId := m.childTaskIds.filter (· ≠ "")

/-- All that the tallies of a batch read besides the batch meta itself. -/
structure World where
  taskMeta : TaskId → TaskMeta
  celery : TaskId → AsyncResult

/-- Adding one to a counter of failure categories. -/
def countCategory (counts : String → Nat) (category : String) (n : Nat) : String → Nat :=
  fun c => if c = category then counts c + n else counts c

end BackupCenter.Tasks
