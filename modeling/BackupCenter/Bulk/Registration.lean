import BackupCenter.Bulk.Phases

/-!
# Registration of a batch

Four routines enqueue a bulk backup and then write its final meta. Three of them merge
the children that a phase callback may have recorded meanwhile; the automatic follow-up
writes its own children over whatever is stored.
-/
namespace BackupCenter.Bulk

open BackupCenter.Lib BackupCenter.Tasks

inductive Routine where
  | runBackupAll | runBackupSelected | runReprocessFailures | runBulkTransientFollowup
  deriving Repr, DecidableEq

def Routine.operationKind : Routine → OperationKind
  | .runBackupAll | .runBackupSelected => .backupBulk
  | .runReprocessFailures | .runBulkTransientFollowup => .backupReprocess

/-- The routine calls `_merge_existing_bulk_children` before its final write. -/
def Routine.merges : Routine → Bool
  | .runBulkTransientFollowup => false
  | _ => true

/-- What a routine has enqueued and planned when it writes the batch meta. -/
structure Plan where
  tenantId : TenantId
  /-- The children of the direct phase. -/
  children : List NewChild
  jump : List GroupPayload := []
  vpn : List GroupPayload := []
  /-- A phase callback was dispatched. -/
  phasedDeferred : Bool := false
  eligibleDevices : Nat := 0
  skippedJumpUnreachable : Nat := 0
  skippedJumpDeviceIds : List DeviceId := []

def Plan.queuedJump (p : Plan) : Nat := payloadDevices p.jump

def Plan.queuedVpnGroups (p : Plan) : Nat := p.vpn.length

/-- The children, and the deferred jump devices and VPN groups. -/
def Plan.totalTasks (p : Plan) : Nat :=
  p.children.length + if p.phasedDeferred then p.queuedJump + p.queuedVpnGroups else 0

/-- The three fields of a batch that say which children it has. -/
structure Children where
  ids : List TaskId
  counts : TaskId → Option Nat
  total : Nat

/-- `_merge_existing_bulk_children`, on the stored meta `current`. -/
def mergeExistingBulkChildren (current : TaskMeta) (new : List NewChild) (total : Nat) :
    Children :=
  let merged := fromKeys ((new.map (·.taskId)).filter (· ≠ "") ++ current.childIds)
  { ids := merged
    counts := updateCounts current.childTaskDeviceCount new
    total := max (max total current.totalTasks) merged.length }

/-- The children that a routine records, given the meta that it has read. -/
def Routine.recorded (r : Routine) (p : Plan) (current : TaskMeta) : Children :=
  if r.merges then mergeExistingBulkChildren current p.children p.totalTasks
  else
    { ids := p.children.map (·.taskId)
      counts := updateCounts (fun _ => none) p.children
      total := p.totalTasks }

def Routine.message (r : Routine) (p : Plan) (c : Children) : String :=
  let verb := if p.phasedDeferred then "planejadas" else "enfileiradas"
  match r with
  | .runBackupAll | .runBackupSelected =>
    let n := if p.phasedDeferred then c.total else c.ids.length
    s!"{n} tarefas {verb} para processamento."
  | .runReprocessFailures => s!"{c.total} tarefas {verb} para reprocessamento."
  | .runBulkTransientFollowup => s!"{c.total} tarefas {verb} para reprocessamento automatico."

/-- The final write of a routine; `current` is the meta that the merge has read. -/
def Routine.finalFields (r : Routine) (p : Plan) (current m : TaskMeta) : TaskMeta :=
  let c := r.recorded p current
  let skipped := p.skippedJumpDeviceIds.length
  { m with
    isBulk := true
    operationKind := some r.operationKind
    status := some .running
    completed := false
    -- the follow-up leaves the field as it is
    cancelRequested := if r.merges then false else m.cancelRequested
    message := r.message p c
    totalDevices := p.eligibleDevices + skipped
    totalTasks := c.total, doneTasks := 0, successTasks := 0, failedTasks := 0
    doneDevices := skipped, successDevices := 0, failedDevices := skipped
    runningTasks := 0, queuedTasks := c.total
    childTaskIds := c.ids
    childTaskDeviceCount := c.counts
    finishedTaskIds := []
    skippedJumpUnreachable := p.skippedJumpUnreachable
    skippedJumpDeviceIds := p.skippedJumpDeviceIds
    failureCategoryCounts := countCategory (fun _ => 0) "connection" skipped }

/-! ## The phase callbacks as atomic updates -/

/-- What a callback enqueues, and how it updates the stored batch meta. -/
structure Callback where
  new : List NewChild
  update : TaskMeta → TaskMeta

/-- `enqueue_vpn_groups_after_direct_phase_task`; `stop` is the answer of its stop check. -/
def vpnCallback (stop : Bool) (vpn : List GroupPayload) (fresh : Nat → TaskId) : Callback :=
  if vpn = [] then ⟨[], id⟩
  else if stop then ⟨[], stoppedFields "Parada solicitada. Fase VPN nao sera iniciada."⟩
  else
    let new := vpnChildren vpn fresh
    ⟨new, fun m => phaseFields m new 0 (vpnMessage new) m⟩

/-- `enqueue_jump_and_vpn_after_direct_phase_task`. -/
def jumpCallback (stop : Bool) (jump vpn : List GroupPayload) (fresh : Nat → TaskId) : Callback :=
  if jump = [] then vpnCallback stop vpn fresh
  else if stop then
    ⟨[], stoppedFields "Parada solicitada. Fases Jump/VPN nao serao iniciadas."⟩
  else
    let new := jumpChildren jump fresh
    if new = [] then vpnCallback stop vpn fresh
    else ⟨new, fun m => phaseFields m new vpn.length
      (jumpMessage new (phaseGroups jump).length vpn.length) m⟩

/-- A callback leaves the recorded children as they are, or merges those it has enqueued. -/
theorem vpnCallback_cases (stop : Bool) (vpn : List GroupPayload) (fresh : Nat → TaskId) :
    let c := vpnCallback stop vpn fresh
    (c.new = [] ∧ ∀ m, (c.update m).childTaskIds = m.childTaskIds ∧
      (c.update m).childTaskDeviceCount = m.childTaskDeviceCount ∧
      (c.update m).totalTasks = m.totalTasks) ∨
    ∃ pending message, ∀ m, c.update m = phaseFields m c.new pending message m := by
  simp only [vpnCallback]
  split
  · exact .inl ⟨rfl, fun m => ⟨rfl, rfl, rfl⟩⟩
  split
  · exact .inl ⟨rfl, fun m => ⟨rfl, rfl, rfl⟩⟩
  · exact .inr ⟨_, _, fun m => rfl⟩

theorem jumpCallback_cases (stop : Bool) (jump vpn : List GroupPayload) (fresh : Nat → TaskId) :
    let c := jumpCallback stop jump vpn fresh
    (c.new = [] ∧ ∀ m, (c.update m).childTaskIds = m.childTaskIds ∧
      (c.update m).childTaskDeviceCount = m.childTaskDeviceCount ∧
      (c.update m).totalTasks = m.totalTasks) ∨
    ∃ pending message, ∀ m, c.update m = phaseFields m c.new pending message m := by
  simp only [jumpCallback]
  split
  · exact vpnCallback_cases stop vpn fresh
  split
  · exact .inl ⟨rfl, fun m => ⟨rfl, rfl, rfl⟩⟩
  split
  · exact vpnCallback_cases stop vpn fresh
  · exact .inr ⟨_, _, fun m => rfl⟩

theorem jumpChildren_eq_nil {jump : List GroupPayload} {fresh : Nat → TaskId} :
    jumpChildren jump fresh = [] ↔ jumpEntries jump = [] := by
  simp [jumpChildren]

/-- A callback enqueues nothing exactly under a stop, or without a usable device or group. -/
theorem jumpCallback_new_eq_nil (stop : Bool) (jump vpn : List GroupPayload)
    (fresh : Nat → TaskId) :
    (jumpCallback stop jump vpn fresh).new = [] ↔
      stop = true ∨ (jumpEntries jump = [] ∧ phaseGroups vpn = []) := by
  have hvpn : (vpnCallback stop vpn fresh).new = [] ↔ stop = true ∨ phaseGroups vpn = [] := by
    by_cases hv : vpn = []
    · simp [vpnCallback, hv, phaseGroups]
    · cases stop <;> simp [vpnCallback, hv, vpnChildren]
  by_cases hj : jump = []
  · simp [jumpCallback, hj, hvpn, jumpEntries, phaseGroups]
  · cases stop with
    | true => simp [jumpCallback, hj]
    | false =>
      by_cases he : jumpEntries jump = []
      · simp [jumpCallback, hj, jumpChildren_eq_nil.mpr he, he, hvpn]
      · simp [jumpCallback, hj, he, jumpChildren_eq_nil]

end BackupCenter.Bulk
