import BackupCenter.Tasks.TerminalSnapshot

/-!
# The status endpoint's refresh of a batch

`refreshBulkTaskMeta` recomputes the counters of a batch from its children and
combines each of them with its previous value by `max`, so that no counter falls
back when the result backend forgets a child. The estimate of partly processed
devices, a floating-point number that only the progress bar uses, is left out.
-/
namespace BackupCenter.Web

open BackupCenter.Lib BackupCenter.Tasks

/-- What one child, or the children so far, add to the counters of the batch. -/
structure Counters where
  doneTasks : Nat := 0
  successTasks : Nat := 0
  failedTasks : Nat := 0
  runningTasks : Nat := 0
  queuedTasks : Nat := 0
  runningPendingDevices : Nat := 0
  queuedPendingDevices : Nat := 0
  doneDevices : Nat := 0
  successDevices : Nat := 0
  failedDevices : Nat := 0
  noPingDevices : Nat := 0
  pingOkLoginFailDevices : Nat := 0
  pingLoginOkDevices : Nat := 0
  failureCategoryCounts : String → Nat := fun _ => 0

def Counters.add (a b : Counters) : Counters where
  doneTasks := a.doneTasks + b.doneTasks
  successTasks := a.successTasks + b.successTasks
  failedTasks := a.failedTasks + b.failedTasks
  runningTasks := a.runningTasks + b.runningTasks
  queuedTasks := a.queuedTasks + b.queuedTasks
  runningPendingDevices := a.runningPendingDevices + b.runningPendingDevices
  queuedPendingDevices := a.queuedPendingDevices + b.queuedPendingDevices
  doneDevices := a.doneDevices + b.doneDevices
  successDevices := a.successDevices + b.successDevices
  failedDevices := a.failedDevices + b.failedDevices
  noPingDevices := a.noPingDevices + b.noPingDevices
  pingOkLoginFailDevices := a.pingOkLoginFailDevices + b.pingOkLoginFailDevices
  pingLoginOkDevices := a.pingLoginOkDevices + b.pingLoginOkDevices
  failureCategoryCounts c := a.failureCategoryCounts c + b.failureCategoryCounts c

/-- The Celery state, corrected by the child's meta when the backend forgot it. -/
def childState (w : World) (childId : TaskId) : Option CeleryState :=
  let childMeta := w.taskMeta childId
  let state := (w.celery childId).state
  if (state = some .pending ∨ state = some .received) ∧ childMeta.completed = true then
    if childMeta.status.any [.success, .completed].contains then some .success
    else if childMeta.status.any [.failed, .failure, .error, .stopped, .revoked].contains then
      some .failure
    else state
  else state

/-- The backend's result dictionary, else the stored one. -/
def childResult (w : World) (childId : TaskId) : Option ResultDict :=
  match (w.celery childId).result with
  | some r => some r
  | none => (w.taskMeta childId).result

def knownCategories : List String :=
  ["auth", "timeout", "port_refused", "vpn", "no_ping", "connection", "script", "unknown"]

/-- A category outside the fixed list is counted as unknown. -/
def knownCategory (category : String) : String :=
  if knownCategories.contains category then category else "unknown"

def oneCategory (category : String) (n : Nat) : String → Nat :=
  countCategory (fun _ => 0) category n

/-- The device counters of a child in Celery state SUCCESS, and the device total that
they are compared with. -/
structure SuccessReport where
  success : Bool
  successDevices : Nat
  failedDevices : Nat
  deviceTotal : Nat
  deriving Repr, DecidableEq

/-- The counters of a connection-audit result. -/
def auditReport (k : ConnectionCheck) : Counters :=
  if k.classification = some .ready ∨ (k.pingOk = true ∧ k.loginOk = true) then
    { successDevices := 1, pingLoginOkDevices := 1 }
  else if k.classification = some .noPing ∨ k.pingOk = false then
    { failedDevices := 1, noPingDevices := 1 }
  else { failedDevices := 1, pingOkLoginFailDevices := 1 }

/-- What a finished child's result states, before missing devices are filled in. -/
def statedReport (r : Option ResultDict) (deviceTotal : Nat) : SuccessReport :=
  match r with
  | none => ⟨true, max 1 deviceTotal, 0, deviceTotal⟩
  | some r =>
    match r.connectionCheck with
    | some k =>
      let a := auditReport k
      ⟨a.failedDevices == 0, a.successDevices, a.failedDevices, deviceTotal⟩
    | none =>
      match r.total, r.success, r.failed with
      | some total, some s, some f =>
        ⟨f == 0, s, f, if total ≠ 0 then total else deviceTotal⟩
      | _, some s, _ =>
        if s ≠ 0 then ⟨true, 1, 0, deviceTotal⟩ else ⟨false, 0, 1, deviceTotal⟩
      | _, none, _ =>
        if r.error ≠ "" then ⟨false, 0, max 1 deviceTotal, deviceTotal⟩
        else ⟨true, max 1 deviceTotal, 0, deviceTotal⟩

/-- Devices that the result does not account for are added to the successes. -/
def fillReport (t : SuccessReport) : SuccessReport :=
  if t.successDevices + t.failedDevices = 0 then
    { t with successDevices := max 1 t.deviceTotal, failedDevices := 0 }
  else if t.successDevices + t.failedDevices < t.deviceTotal then
    let missing := t.deviceTotal - (t.successDevices + t.failedDevices)
    { t with successDevices := t.successDevices + missing }
  else t

/-- The failure categories of a finished child. -/
def statedCategories (env : Env) (r : Option ResultDict) : String → Nat :=
  match r with
  | none => fun _ => 0
  | some r =>
    match r.connectionCheck with
    | some _ => fun _ => 0
    | none =>
      match r.total, r.success, r.failed with
      | some _, some _, some _ =>
        ((r.details.getD []).filter (!·.success)).foldl
          (fun c d => countCategory c
            (knownCategory (tallyCategory env d.failureCategory d.message)) 1) fun _ => 0
      | _, some s, _ =>
        if s ≠ 0 then fun _ => 0
        else oneCategory (knownCategory (tallyCategory env r.failureCategory r.message)) 1
      | _, none, _ => fun _ => 0

/-- A child in Celery state SUCCESS. -/
def finishedReport (env : Env) (w : World) (m : TaskMeta) (childId : TaskId) : Counters :=
  let result := childResult w childId
  let stated := statedReport result ((m.childTaskDeviceCount childId).getD 1)
  let filled := fillReport stated
  let audit := ((result.bind (·.connectionCheck)).map auditReport).getD {}
  { doneTasks := 1
    successTasks := if stated.success then 1 else 0
    failedTasks := if stated.success then 0 else 1
    doneDevices := filled.successDevices + filled.failedDevices
    successDevices := filled.successDevices
    failedDevices := filled.failedDevices
    noPingDevices := audit.noPingDevices
    pingOkLoginFailDevices := audit.pingOkLoginFailDevices
    pingLoginOkDevices := audit.pingLoginOkDevices
    failureCategoryCounts := statedCategories env result }

/-- `done_devices or processed_devices` of a child's own meta. -/
def reportedDone (childMeta : TaskMeta) : Nat :=
  if childMeta.doneDevices ≠ 0 then childMeta.doneDevices else childMeta.processedDevices

def isAudit (m : TaskMeta) : Bool := m.operationKind = some .connectionAudit

/-- A child in Celery state FAILURE or REVOKED: what it did not process has failed. -/
def brokenReport (w : World) (m : TaskMeta) (childId : TaskId) : Counters :=
  let childMeta := w.taskMeta childId
  let remaining := childDeviceTotal m childId - reportedDone childMeta
  { doneTasks := 1
    failedTasks := 1
    doneDevices := reportedDone childMeta + remaining
    successDevices := childMeta.successDevices
    failedDevices := childMeta.failedDevices + remaining
    pingOkLoginFailDevices := if isAudit m then childMeta.failedDevices + remaining else 0
    failureCategoryCounts := oneCategory "unknown" (max 1 remaining) }

def forceCancelledIds (m : TaskMeta) : List TaskId := m.forceCancelledChildIds.filter (· ≠ "")

/-- The children that a cancel request counts as finished without waiting for them. -/
def cancelledChild (m : TaskMeta) (state : Option CeleryState) (childId : TaskId) : Bool :=
  m.cancelRequested &&
    ((forceCancelledIds m).contains childId || (forceCancelledIds m).isEmpty) &&
    state.any [.pending, .received, .retry, .started].contains

/-- The devices that a running group has processed so far. -/
def partialReport (w : World) (m : TaskMeta) (state : Option CeleryState) (childId : TaskId) :
    Counters :=
  let childMeta := w.taskMeta childId
  if (state = some .started ∨ state = some .retry) ∧ 1 < childDeviceTotal m childId then
    { doneDevices := min (childDeviceTotal m childId) (reportedDone childMeta)
      successDevices := childMeta.successDevices
      failedDevices := childMeta.failedDevices }
  else {}

/-- A child that is not finished: cancelled, running or still in the queue. -/
def openReport (w : World) (m : TaskMeta) (state : Option CeleryState) (childId : TaskId) :
    Counters :=
  let total := childDeviceTotal m childId
  let remaining := total - reportedDone (w.taskMeta childId)
  (partialReport w m state childId).add <|
    if cancelledChild m state childId then
      { doneTasks := 1
        failedTasks := 1
        doneDevices := remaining
        failedDevices := remaining
        pingOkLoginFailDevices := if isAudit m then remaining else 0
        failureCategoryCounts := oneCategory "unknown" remaining }
    else if state = some .started then
      { runningTasks := 1, runningPendingDevices := max 1 remaining }
    else
      { queuedTasks := 1
        queuedPendingDevices := max 1 (if remaining ≠ 0 then remaining else total) }

def childReport (env : Env) (w : World) (m : TaskMeta) (childId : TaskId) : Counters :=
  match childState w childId with
  | some .success => finishedReport env w m childId
  | some .failure | some .revoked => brokenReport w m childId
  | state => openReport w m state childId

/-- The loop over the children. -/
def countChildren (env : Env) (w : World) (m : TaskMeta) : Counters :=
  m.childIds.foldl (fun t c => t.add (childReport env w m c)) {}

/-- The children that the loop has entered into the set of finished ones. -/
def finishedChildren (env : Env) (w : World) (m : TaskMeta) : List TaskId :=
  m.childIds.filter fun c => 0 < (childReport env w m c).doneTasks

/-- The fields that the refresh returns; the endpoint merges them into the stored meta. -/
structure BulkStatus where
  isBulk : Bool := true
  operationKind : OperationKind
  status : Status
  completed : Bool
  message : String
  totalTasks : Nat
  doneTasks : Nat
  successTasks : Nat
  failedTasks : Nat
  totalDevices : Nat
  doneDevices : Nat
  successDevices : Nat
  failedDevices : Nat
  runningTasks : Nat
  queuedTasks : Nat
  pendingDevices : Nat
  runningPendingDevices : Nat
  queuedPendingDevices : Nat
  noPingDevices : Nat
  pingOkLoginFailDevices : Nat
  pingLoginOkDevices : Nat
  failureCategoryCounts : String → Nat
  finishedTaskIds : List TaskId
  cancelRequested : Bool
  followup : Followup

def refreshedMessage (m : TaskMeta) (c : Counters) (totalTasks totalDevices pending : Nat)
    (completed : Bool) : String :=
  if totalTasks = 0 then
    if m.cancelRequested then "Lote interrompido pelo usuario."
    else "Nenhuma task pendente para este lote."
  else if completed then
    let verb := if m.cancelRequested then "interrompido" else "concluido"
    if isAudit m then
      s!"Lote {verb}: aptos={c.pingLoginOkDevices}, sem ping={c.noPingDevices}, " ++
        s!"ping sem login={c.pingOkLoginFailDevices} ({totalDevices} total)."
    else
      s!"Lote {verb}: {c.successDevices} dispositivos com sucesso, " ++
        s!"{c.failedDevices} com falha ({totalDevices} total)."
  else
    let groups := s!"({c.runningTasks} grupos ativos, {pending} dispositivos pendentes)."
    if m.cancelRequested then
      s!"Interrompendo lote: {c.doneDevices}/{totalDevices} concluidos " ++ groups
    else
      s!"Processando lote: {c.doneDevices}/{totalDevices} dispositivos concluidos " ++ groups

/-- The counters that never fall: each is the maximum with its previous value. -/
def monotonic (m : TaskMeta) (c : Counters) : Counters :=
  let successTasks := max c.successTasks m.successTasks
  let failedTasks := max c.failedTasks m.failedTasks
  let successDevices := max c.successDevices m.successDevices
  let failedDevices := max c.failedDevices m.failedDevices
  { c with
    doneTasks := max (max c.doneTasks m.doneTasks) (successTasks + failedTasks)
    successTasks, failedTasks
    doneDevices := max (max c.doneDevices m.doneDevices) (successDevices + failedDevices)
    successDevices, failedDevices
    noPingDevices := max c.noPingDevices m.noPingDevices
    pingOkLoginFailDevices := max c.pingOkLoginFailDevices m.pingOkLoginFailDevices
    pingLoginOkDevices := max c.pingLoginOkDevices m.pingLoginOkDevices
    failureCategoryCounts := fun cat =>
      max (c.failureCategoryCounts cat) (m.failureCategoryCounts cat) }

def refreshedStatus (m : TaskMeta) (totalTasks failedDevices : Nat) (completed : Bool) : Status :=
  if totalTasks = 0 then if m.cancelRequested then .stopped else .success
  else if completed then
    if m.cancelRequested then .stopped
    else if isAudit m then .success
    else if 0 < failedDevices then .failed
    else .success
  else if m.cancelRequested then .stopping
  else .running

def refreshBulkTaskMeta (env : Env) (w : World) (m : TaskMeta) : BulkStatus :=
  let c := monotonic m (countChildren env w m)
  let totalTasks := if m.totalTasks ≠ 0 then m.totalTasks else m.childIds.length
  let totalDevices :=
    max (if m.totalDevices ≠ 0 then m.totalDevices
      else c.doneDevices + c.runningTasks + c.queuedTasks) c.doneDevices
  let pending :=
    max (totalDevices - c.doneDevices) (c.runningPendingDevices + c.queuedPendingDevices)
  let completed := totalTasks == 0 || m.completed || totalTasks ≤ c.doneTasks
  { operationKind := m.operationKind.getD .backupBulk
    status := refreshedStatus m totalTasks c.failedDevices completed
    completed
    message := refreshedMessage m c totalTasks totalDevices pending completed
    totalTasks
    doneTasks := c.doneTasks
    successTasks := c.successTasks
    failedTasks := c.failedTasks
    totalDevices
    doneDevices := c.doneDevices
    successDevices := c.successDevices
    failedDevices := c.failedDevices
    runningTasks := c.runningTasks
    queuedTasks := totalTasks - c.doneTasks - c.runningTasks
    pendingDevices := pending
    runningPendingDevices := c.runningPendingDevices
    queuedPendingDevices := c.queuedPendingDevices
    noPingDevices := c.noPingDevices
    pingOkLoginFailDevices := c.pingOkLoginFailDevices
    pingLoginOkDevices := c.pingLoginOkDevices
    failureCategoryCounts := c.failureCategoryCounts
    finishedTaskIds :=
      sortedSet ((m.finishedTaskIds.filter (· ≠ "")) ++ finishedChildren env w m)
    cancelRequested := m.cancelRequested
    followup := m.followup }

/-- `update_task_meta(batch, **refreshed)`, on the meta stored at the time of the write. -/
def BulkStatus.applyTo (r : BulkStatus) (m : TaskMeta) : TaskMeta :=
  { m with
    isBulk := r.isBulk, operationKind := some r.operationKind, status := some r.status
    completed := r.completed, message := r.message
    totalTasks := r.totalTasks, doneTasks := r.doneTasks
    successTasks := r.successTasks, failedTasks := r.failedTasks
    totalDevices := r.totalDevices, doneDevices := r.doneDevices
    successDevices := r.successDevices, failedDevices := r.failedDevices
    runningTasks := r.runningTasks, queuedTasks := r.queuedTasks
    pendingDevices := r.pendingDevices, runningPendingDevices := r.runningPendingDevices
    queuedPendingDevices := r.queuedPendingDevices
    noPingDevices := r.noPingDevices, pingOkLoginFailDevices := r.pingOkLoginFailDevices
    pingLoginOkDevices := r.pingLoginOkDevices
    failureCategoryCounts := r.failureCategoryCounts, finishedTaskIds := r.finishedTaskIds
    cancelRequested := r.cancelRequested, followup := r.followup }

variable (env : Env) (w : World) (m : TaskMeta)

/-- Any counter that `Counters.add` adds up is the sum of what the children report. -/
theorem countChildren_counter {f : Counters → Nat}
    (hadd : ∀ a b : Counters, f (a.add b) = f a + f b) (hzero : f {} = 0) :
    f (countChildren env w m) = (m.childIds.map fun c => f (childReport env w m c)).sum := by
  rw [countChildren, foldl_counter (g := fun c => f (childReport env w m c)) fun a c => hadd a _,
    hzero, Nat.zero_add]

theorem countChildren_doneTasks : (countChildren env w m).doneTasks =
    (m.childIds.map fun c => (childReport env w m c).doneTasks).sum :=
  countChildren_counter env w m (fun _ _ => rfl) rfl

theorem countChildren_doneDevices : (countChildren env w m).doneDevices =
    (m.childIds.map fun c => (childReport env w m c).doneDevices).sum :=
  countChildren_counter env w m (fun _ _ => rfl) rfl

theorem countChildren_successDevices : (countChildren env w m).successDevices =
    (m.childIds.map fun c => (childReport env w m c).successDevices).sum :=
  countChildren_counter env w m (fun _ _ => rfl) rfl

theorem countChildren_failedDevices : (countChildren env w m).failedDevices =
    (m.childIds.map fun c => (childReport env w m c).failedDevices).sum :=
  countChildren_counter env w m (fun _ _ => rfl) rfl

/-- The counters of one refresh are ordered, whatever the children report. -/
theorem refresh_counters_ordered :
    (refreshBulkTaskMeta env w m).successDevices + (refreshBulkTaskMeta env w m).failedDevices ≤
      (refreshBulkTaskMeta env w m).doneDevices ∧
    (refreshBulkTaskMeta env w m).doneDevices ≤ (refreshBulkTaskMeta env w m).totalDevices :=
  ⟨Nat.le_max_right .., Nat.le_max_right ..⟩

end BackupCenter.Web
