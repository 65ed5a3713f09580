import BackupCenter.Tasks.SnapshotHonesty
import BackupCenter.Web.PollRun

/-!
# The two tallies of a finished batch

The worker's snapshot and the status endpoint's refresh count the same children
separately. They differ in two ways. The snapshot gives the devices that a failed
group does not account for to the failures, the refresh to the successes. And the
snapshot adds the devices skipped in the jump preflight to the failures, while the
refresh only takes the larger of the two numbers.
-/
namespace BackupCenter.Bulk

open BackupCenter.Lib BackupCenter.Tasks BackupCenter.Web

/-- The result dictionaries that the backup tasks return for a child of `devices` devices. -/
inductive TaskResult (devices : Nat) : ResultDict → Prop where
  | single {r : ResultDict} (ok : Nat) (hd : devices = 1) (details : r.details = none)
      (total : r.total = none) (success : r.success = some ok) (failed : r.failed = none) :
      TaskResult devices r
  | group {r : ResultDict} (items : List Detail) (t s f : Nat) (details : r.details = some items)
      (total : r.total = some t) (success : r.success = some s) (failed : r.failed = some f)
      (counted : s + f ≤ t) (fits : t ≤ devices) : TaskResult devices r
  | error {r : ResultDict} (details : r.details = none) (total : r.total = none)
      (success : r.success = none) (failed : r.failed = none) (error : r.error ≠ "") :
      TaskResult devices r

/-- A child that Celery reports as SUCCESS, with one result dictionary of a backup task. -/
structure FinishedChild (w : World) (m : TaskMeta) (c : TaskId) : Prop where
  state : (w.celery c).state = some .success
  same_result : childResult w c = some (bulkChildResult w c)
  no_check : (bulkChildResult w c).connectionCheck = none
  shape : TaskResult (childDeviceTotal m c) (bulkChildResult w c)
  counted : ∃ n, m.childTaskDeviceCount c = some n ∧ 0 < n

/-- A batch as its route registered it, with all its children enqueued. -/
structure EnqueuedBatch (m : TaskMeta) : Prop extends Registered m where
  has_children : m.childIds ≠ []
  all_enqueued : m.totalTasks = m.childIds.length

/-- The snapshot exists and says of the batch what the refresh says. -/
def Agree (s : Option Snapshot) (r : BulkStatus) : Prop :=
  ∃ t, s = some t ∧ t.totalDevices = r.totalDevices ∧ t.doneDevices = r.doneDevices ∧
    t.successDevices = r.successDevices ∧ t.failedDevices = r.failedDevices ∧ t.status = r.status

/-- A group result that leaves no device of the child out: with a failure the counters add
up to all of them, without one its total is all of them (or left at zero). -/
def AccountsForAll (devices : Nat) (r : ResultDict) : Prop :=
  r.details = none ∨
    if r.failed.getD 0 = 0 then r.total.getD 0 = 0 ∨ r.total.getD 0 = devices
    else r.success.getD 0 + r.failed.getD 0 = devices

/-- The batches on which the two tallies agree. -/
structure Reconciled (w : World) (m : TaskMeta) : Prop where
  skipped_or_failed : m.skippedJumpUnreachable = 0 ∨
    ∀ c ∈ m.childIds, (bulkChildResult w c).reportsFailure = false
  accounted : ∀ c ∈ m.childIds, AccountsForAll (childDeviceTotal m c) (bulkChildResult w c)
  audit : isAudit m = true → m.cancelRequested = true ∨ m.skippedJumpUnreachable = 0 ∧
    ∀ c ∈ m.childIds, (bulkChildResult w c).reportsFailure = false

variable {env : Env} {w : World} {m : TaskMeta} {now : Timestamp} {c : TaskId}

theorem FinishedChild.childState_eq (h : FinishedChild w m c) : childState w c = some .success := by
  simp [childState, h.state]

theorem FinishedChild.terminal (h : FinishedChild w m c) : bulkChildTaskIsTerminal w c = true := by
  simp [bulkChildTaskIsTerminal, h.state]

theorem FinishedChild.count_eq (h : FinishedChild w m c) :
    (m.childTaskDeviceCount c).getD 1 = childDeviceTotal m c := by
  obtain ⟨n, hn, hpos⟩ := h.counted
  simp only [childDeviceTotal, hn, Option.getD_some]
  omega

/-- What the refresh counts for a finished child. -/
def refreshTally (w : World) (m : TaskMeta) (c : TaskId) : SuccessReport :=
  fillReport (statedReport (some (bulkChildResult w c)) (childDeviceTotal m c))

theorem FinishedChild.recorded (h : FinishedChild w m c) :
    recordedSuccesses w m c = (refreshTally w m c).successDevices ∧
    recordedFailures w m c = (refreshTally w m c).failedDevices ∧
    recordedDone w m c =
      (refreshTally w m c).successDevices + (refreshTally w m c).failedDevices := by
  simp only [recordedDone, recordedSuccesses, recordedFailures, h.childState_eq, h.same_result,
    h.count_eq]
  exact ⟨rfl, rfl, rfl⟩

/-- One child counted twice: the two tallies of a result of a backup task, by its shape. -/
theorem tallies_of_shape {d : Nat} {r : ResultDict} (hd : 0 < d) (hc : r.connectionCheck = none)
    (h : TaskResult d r) :
    let worker := completeTally (reportedTally r d) d
    let endpoint := fillReport (statedReport (some r) d)
    (endpoint.failedDevices = 0 ↔ r.reportsFailure = false) ∧
    endpoint.failedDevices ≤ worker.failedDevices ∧
    (AccountsForAll d r →
      worker.successDevices = endpoint.successDevices ∧
        worker.failedDevices = endpoint.failedDevices) ∧
    (¬ AccountsForAll d r →
      if r.reportsFailure then endpoint.failedDevices < worker.failedDevices
      else endpoint.successDevices < worker.successDevices) := by
  cases h with
  | single ok hone details total success failed =>
    subst hone
    by_cases hok : ok = 0
    · simp [completeTally, reportedTally, fillReport, statedReport, ResultDict.reportsFailure,
        AccountsForAll, hc, details, total, success, hok]
    · simp [completeTally, reportedTally, fillReport, statedReport, ResultDict.reportsFailure,
        AccountsForAll, hc, details, total, success, hok]
  | error details total success failed error =>
    simp [completeTally, reportedTally, fillReport, statedReport, ResultDict.reportsFailure,
      AccountsForAll, hc, details, total, success, error]
    omega
  | group items t s f details total success failed counted fits =>
    have hw : reportedTally r d = ⟨f == 0, s, f⟩ := by
      simp [reportedTally, details, total, success, failed]
    have he : statedReport (some r) d = ⟨f == 0, s, f, if t ≠ 0 then t else d⟩ := by
      simp only [statedReport, hc, total, success, failed]
    have hr : r.reportsFailure = (f != 0) := by
      simp [ResultDict.reportsFailure, details, failed]
    have ha : AccountsForAll d r ↔ if f = 0 then t = 0 ∨ t = d else s + f = d := by
      simp [AccountsForAll, details, total, success, failed]
    rw [hw, he, hr, ha]
    simp only [completeTally, fillReport]
    by_cases hf : f = 0
    · by_cases ht : t = 0
      · -- nothing was counted: both sides take the child for a whole success
        obtain rfl : s = 0 := by omega
        simp [hf, ht]; omega
      · simp [hf, ht]
        split_ifs <;> simp <;> omega
    · have ht : t ≠ 0 := by omega
      simp [hf, ht]
      split_ifs <;> simp <;> omega

theorem FinishedChild.tallies (h : FinishedChild w m c) :
    ((refreshTally w m c).failedDevices = 0 ↔ (bulkChildResult w c).reportsFailure = false) ∧
    (refreshTally w m c).failedDevices ≤ (childTally w m c).failedDevices ∧
    (AccountsForAll (childDeviceTotal m c) (bulkChildResult w c) →
      (childTally w m c).successDevices = (refreshTally w m c).successDevices ∧
        (childTally w m c).failedDevices = (refreshTally w m c).failedDevices) ∧
    (¬ AccountsForAll (childDeviceTotal m c) (bulkChildResult w c) →
      if (bulkChildResult w c).reportsFailure then
        (refreshTally w m c).failedDevices < (childTally w m c).failedDevices
      else (refreshTally w m c).successDevices < (childTally w m c).successDevices) :=
  tallies_of_shape (childDeviceTotal_pos m c) h.no_check h.shape

/-- Sums over the children of a batch, as both sides build them. -/
def workerSuccesses (w : World) (m : TaskMeta) : Nat :=
  (m.childIds.map fun c => (childTally w m c).successDevices).sum

def workerFailures (w : World) (m : TaskMeta) : Nat :=
  (m.childIds.map fun c => (childTally w m c).failedDevices).sum

def endpointSuccesses (w : World) (m : TaskMeta) : Nat :=
  (m.childIds.map fun c => (refreshTally w m c).successDevices).sum

def endpointFailures (w : World) (m : TaskMeta) : Nat :=
  (m.childIds.map fun c => (refreshTally w m c).failedDevices).sum

theorem workerFailures_eq_zero_iff : workerFailures w m = 0 ↔
    ∀ c ∈ m.childIds, (bulkChildResult w c).reportsFailure = false := by
  simp only [workerFailures, List.sum_eq_zero_iff_forall_eq_nat, List.mem_map,
    forall_exists_index, and_imp, forall_apply_eq_imp_iff₂, childTally_failedDevices]

theorem endpointFailures_le (hfin : ∀ c ∈ m.childIds, FinishedChild w m c) :
    endpointFailures w m ≤ workerFailures w m :=
  List.sum_le_sum fun c hc => (hfin c hc).tallies.2.1

/-- The sums over the children agree exactly when every child accounts for its devices. -/
theorem sums_agree_iff (hfin : ∀ c ∈ m.childIds, FinishedChild w m c) :
    workerSuccesses w m = endpointSuccesses w m ∧ workerFailures w m = endpointFailures w m ↔
      ∀ c ∈ m.childIds, AccountsForAll (childDeviceTotal m c) (bulkChildResult w c) := by
  constructor
  · rintro ⟨hS, hF⟩
    have hpoint : ∀ c ∈ m.childIds,
        (refreshTally w m c).failedDevices = (childTally w m c).failedDevices :=
      (sum_map_eq_iff fun c hc => (hfin c hc).tallies.2.1).mp hF.symm
    -- a child that is not accounted for then has no failure, so it can only lack successes
    have hle : ∀ c ∈ m.childIds,
        (refreshTally w m c).successDevices ≤ (childTally w m c).successDevices := by
      intro c hc
      obtain ⟨-, -, heq, hne⟩ := (hfin c hc).tallies
      by_cases ha : AccountsForAll (childDeviceTotal m c) (bulkChildResult w c)
      · exact (heq ha).1.ge
      · have hlt := hne ha
        have hp := hpoint c hc
        split_ifs at hlt <;> omega
    have hsucc := (sum_map_eq_iff hle).mp hS.symm
    intro c hc
    by_contra ha
    have hlt := (hfin c hc).tallies.2.2.2 ha
    have hp := hpoint c hc
    have hs := hsucc c hc
    split_ifs at hlt <;> omega
  · intro hall
    exact ⟨sum_map_congr fun c hc => ((hfin c hc).tallies.2.2.1 (hall c hc)).1,
      sum_map_congr fun c hc => ((hfin c hc).tallies.2.2.1 (hall c hc)).2⟩

/-- The status that the number of failed devices gives a completed batch. -/
def verdict (m : TaskMeta) (audit : Bool) (failed : Nat) : Status :=
  if m.cancelRequested then .stopped else if audit then .success
  else if 0 < failed then .failed else .success

/-- The worker's snapshot of a finished batch. -/
theorem snapshot_values (env : Env) (now : Timestamp) (hb : EnqueuedBatch m)
    (hfin : ∀ c ∈ m.childIds, FinishedChild w m c) :
    ∃ s, buildBulkTerminalSnapshot env w m now = some s ∧
      s.successDevices = workerSuccesses w m ∧
      s.failedDevices = m.skippedJumpUnreachable + workerFailures w m ∧
      s.doneDevices = workerSuccesses w m + (m.skippedJumpUnreachable + workerFailures w m) ∧
      s.totalDevices = max (batchDevices m) s.doneDevices ∧
      s.status = verdict m false s.failedDevices := by
  have hpos : 0 < m.childIds.length := List.length_pos_iff.mpr hb.has_children
  have hsome : (buildBulkTerminalSnapshot env w m now).isSome = true :=
    snapshot_isSome_iff.mpr ⟨hpos, hb.all_enqueued.le, fun c hc => (hfin c hc).terminal⟩
  obtain ⟨s, hs⟩ := Option.isSome_iff_exists.mp hsome
  obtain ⟨h1, h2, h3, h4, h5⟩ := snapshot_eq_some hs
  have hsucc : s.successDevices = workerSuccesses w m := h1.trans (finalTally_successDevices ..)
  have hfail : s.failedDevices = m.skippedJumpUnreachable + workerFailures w m :=
    h2.trans (finalTally_failedDevices ..)
  have hdone : s.doneDevices =
      workerSuccesses w m + (m.skippedJumpUnreachable + workerFailures w m) := by
    rw [h3, finalTally_doneDevices, List.sum_map_add, workerSuccesses, workerFailures]
    omega
  refine ⟨s, hs, hsucc, hfail, hdone, ?_, ?_⟩
  · have hle : (m.childIds.map (childDeviceTotal m)).sum ≤ batchDevices m := Nat.le_add_right ..
    rw [h4, ← h3, hb.total_devices]
    omega
  · rw [h5, h2]; rfl

theorem doneTasks_of_finished (env : Env) (hfin : ∀ c ∈ m.childIds, FinishedChild w m c) :
    (countChildren env w m).doneTasks = m.childIds.length := by
  have hone : ∀ c ∈ m.childIds, (childReport env w m c).doneTasks = 1 := by
    intro c hc
    simp only [childReport, (hfin c hc).childState_eq, finishedReport]
  rw [countChildren_doneTasks, sum_map_congr hone]
  simp

/-- The refresh takes the batch for completed, and gives it the verdict on its failures. -/
theorem refresh_status (env : Env) (hb : EnqueuedBatch m)
    (hfin : ∀ c ∈ m.childIds, FinishedChild w m c) :
    (refreshBulkTaskMeta env w m).completed = true ∧
    (refreshBulkTaskMeta env w m).status =
      verdict m (isAudit m) (refreshBulkTaskMeta env w m).failedDevices := by
  have hpos : 0 < m.childIds.length := List.length_pos_iff.mpr hb.has_children
  have htasks : m.totalTasks ≠ 0 := by rw [hb.all_enqueued]; omega
  have hle : m.totalTasks ≤ (monotonic m (countChildren env w m)).doneTasks := by
    rw [hb.all_enqueued, ← doneTasks_of_finished env hfin]
    exact (Nat.le_max_left ..).trans (Nat.le_max_left ..)
  have hcompleted : (refreshBulkTaskMeta env w m).completed = true := by
    simp [refreshBulkTaskMeta, htasks, hle]
  refine ⟨hcompleted, ?_⟩
  have hst : (refreshBulkTaskMeta env w m).status = refreshedStatus m
      (if m.totalTasks ≠ 0 then m.totalTasks else m.childIds.length)
      (refreshBulkTaskMeta env w m).failedDevices (refreshBulkTaskMeta env w m).completed := rfl
  rw [hst, hcompleted]
  simp [refreshedStatus, verdict, htasks]

/-- The status endpoint's refresh of the same batch. -/
theorem refresh_values (env : Env) (hb : EnqueuedBatch m)
    (hfin : ∀ c ∈ m.childIds, FinishedChild w m c) :
    let r := refreshBulkTaskMeta env w m
    r.successDevices = endpointSuccesses w m ∧
    r.failedDevices = max (endpointFailures w m) m.skippedJumpUnreachable ∧
    r.doneDevices =
      endpointSuccesses w m + max (endpointFailures w m) m.skippedJumpUnreachable ∧
    r.totalDevices = max (batchDevices m) r.doneDevices ∧
    r.status = verdict m (isAudit m) r.failedDevices := by
  have hS : (m.childIds.map (recordedSuccesses w m)).sum = endpointSuccesses w m :=
    sum_map_congr fun c hc => (hfin c hc).recorded.1
  have hF : (m.childIds.map (recordedFailures w m)).sum = endpointFailures w m :=
    sum_map_congr fun c hc => (hfin c hc).recorded.2.1
  have hD : (m.childIds.map (recordedDone w m)).sum =
      endpointSuccesses w m + endpointFailures w m := by
    rw [endpointSuccesses, endpointFailures, ← List.sum_map_add]
    exact sum_map_congr fun c hc => (hfin c hc).recorded.2.2
  have hcounters := poll_counters env w m
  simp only [hS, hF, hD, hb.success_zero, hb.failed_skipped, hb.done_skipped] at hcounters
  obtain ⟨h1, h2, h3⟩ := hcounters
  have h4 : ((refreshBulkTaskMeta env w m).applyTo m).totalDevices =
      max m.totalDevices ((refreshBulkTaskMeta env w m).applyTo m).doneDevices :=
    poll_total env w m fun h0 => childIds_eq_nil_of_batchDevices (hb.total_devices ▸ h0)
  rw [hb.total_devices] at h4
  simp only [BulkStatus.applyTo] at h1 h2 h3 h4
  refine ⟨by omega, by omega, by omega, h4, (refresh_status env hb hfin).2⟩

/-- **The two tallies of a finished batch agree exactly on the reconciled ones.** -/
theorem tallies_agree_iff (env : Env) (w : World) (m : TaskMeta) (now : Timestamp)
    (hb : EnqueuedBatch m) (hfin : ∀ c ∈ m.childIds, FinishedChild w m c) :
    Agree (buildBulkTerminalSnapshot env w m now) (refreshBulkTaskMeta env w m) ↔
      Reconciled w m := by
  obtain ⟨s, hs, s1, s2, s3, s4, s5⟩ := snapshot_values env now hb hfin
  obtain ⟨r1, r2, r3, r4, r5⟩ := refresh_values env hb hfin
  have hle := endpointFailures_le hfin
  have hzero := workerFailures_eq_zero_iff (w := w) (m := m)
  have hsums := sums_agree_iff hfin
  rw [hs]
  constructor
  · rintro ⟨t, ht, -, -, hsucc, hfail, hstatus⟩
    obtain rfl := Option.some.inj ht
    rw [s1, r1] at hsucc
    have hfail' := hfail
    rw [s2, r2] at hfail'
    have hskip : m.skippedJumpUnreachable = 0 ∨ workerFailures w m = 0 := by omega
    refine ⟨hskip.imp_right hzero.mp, hsums.mp ⟨hsucc, by omega⟩, fun haudit => ?_⟩
    rw [s5, r5, hfail, haudit] at hstatus
    by_cases hcancel : m.cancelRequested = true
    · exact .inl hcancel
    · right
      have hnone : (refreshBulkTaskMeta env w m).failedDevices = 0 := by
        simp only [verdict, hcancel, Bool.false_eq_true, ↓reduceIte] at hstatus
        split at hstatus
        · cases hstatus
        · omega
      rw [← hzero]
      omega
  · rintro ⟨hskip, hacc, haudit⟩
    obtain ⟨hsucc, hfail⟩ := hsums.mpr hacc
    rw [← hzero] at hskip
    have hF : s.failedDevices = (refreshBulkTaskMeta env w m).failedDevices := by omega
    refine ⟨s, rfl, by omega, by omega, by omega, hF, ?_⟩
    rw [s5, r5, hF]
    cases ha : isAudit m with
    | false => rfl
    | true =>
      rcases haudit ha with hcancel | ⟨h0, hnone⟩
      · simp [verdict, hcancel]
      · have hf0 : (refreshBulkTaskMeta env w m).failedDevices = 0 := by
          rw [← hzero] at hnone
          omega
        simp [verdict, hf0]

/-- One device of the batch was skipped; the only one enqueued has failed. -/
def skippedBatch : TaskMeta :=
  { isBulk := true, operationKind := some .backupBulk, status := some .running
    childTaskIds := ["device"], totalTasks := 1, totalDevices := 2
    childTaskDeviceCount := fun c => if c = "device" then some 1 else none
    skippedJumpUnreachable := 1, doneDevices := 1, failedDevices := 1 }

def failedDeviceWorld : World where
  taskMeta _ := { status := some .failed, completed := true }
  celery _ := { state := some .success, result := some { success := some 0, message := "timeout" } }

/-- Two devices failed, and the refresh reports one. -/
theorem skipped_device_absorbed :
    ¬ ∀ (env : Env) (w : World) (m : TaskMeta) (now : Timestamp), EnqueuedBatch m →
      (∀ c ∈ m.childIds, FinishedChild w m c) →
      Agree (buildBulkTerminalSnapshot env w m now) (refreshBulkTaskMeta env w m) := by
  intro hall
  have hb : EnqueuedBatch skippedBatch := ⟨⟨rfl, rfl, rfl, rfl⟩, by decide, rfl⟩
  have hfin : ∀ c ∈ skippedBatch.childIds, FinishedChild failedDeviceWorld skippedBatch c := by
    intro c hc
    obtain rfl : c = "device" := by simpa [TaskMeta.childIds, skippedBatch] using hc
    exact ⟨rfl, rfl, rfl, .single 0 rfl rfl rfl rfl rfl, 1, rfl, by decide⟩
  obtain ⟨s, hs, -, -, -, hfail, -⟩ := hall .ascii failedDeviceWorld skippedBatch 0 hb hfin
  obtain rfl := Option.some.inj hs
  exact absurd hfail (by decide)

/-- A group of two devices of which one failed. -/
def halfFailedWorld : World where
  taskMeta _ := { status := some .failed, completed := true }
  celery _ :=
    { state := some .success
      result := some { details := some [], total := some 2, success := some 1, failed := some 1 } }

theorem half_failed_group_agrees :
    Agree (buildBulkTerminalSnapshot .ascii halfFailedWorld groupBatch 0)
      (refreshBulkTaskMeta .ascii halfFailedWorld groupBatch) := by
  have hb : EnqueuedBatch groupBatch := ⟨⟨rfl, rfl, rfl, rfl⟩, by decide, rfl⟩
  have hids : ∀ c ∈ groupBatch.childIds, c = "group" := by decide
  refine (tallies_agree_iff .ascii halfFailedWorld groupBatch 0 hb fun c hc => ?_).mpr
    ⟨.inl rfl, fun c hc => ?_, by decide⟩
  · obtain rfl := hids c hc
    exact ⟨rfl, rfl, rfl, .group [] 2 1 1 rfl rfl rfl rfl (by decide) (by decide), 2, rfl,
      by decide⟩
  · obtain rfl := hids c hc
    exact .inr (by decide)

end BackupCenter.Bulk
