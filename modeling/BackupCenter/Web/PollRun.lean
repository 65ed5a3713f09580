import BackupCenter.Lib.Exec
import BackupCenter.Web.BulkStatus

/-!
# A batch under repeated status polls

Between two polls the children change in any way; each poll merges the refreshed
counters into the stored meta. Success and failure are maximised separately, so a
child whose reported successes are later replaced by failures counts twice. The
invariant below holds along every run in which no child does.
-/
namespace BackupCenter.Web

open BackupCenter.Lib BackupCenter.Tasks

/-- The devices given at registration: those of the children and those skipped because
their jump host was unreachable. -/
def batchDevices (m : TaskMeta) : Nat :=
  (m.childIds.map (childDeviceTotal m)).sum + m.skippedJumpUnreachable

/-- The counters that the enqueuing routes write for a batch. -/
structure Registered (m : TaskMeta) : Prop where
  success_zero : m.successDevices = 0
  failed_skipped : m.failedDevices = m.skippedJumpUnreachable
  done_skipped : m.doneDevices = m.skippedJumpUnreachable
  total_devices : m.totalDevices = batchDevices m

/-- Devices that the child's records give as backed up: the interim counter of a running
group, the count of the result once there is one. -/
def recordedSuccesses (w : World) (m : TaskMeta) (c : TaskId) : Nat :=
  match childState w c with
  | some .success =>
    (fillReport (statedReport (childResult w c) ((m.childTaskDeviceCount c).getD 1))).successDevices
  | some .failure | some .revoked => (w.taskMeta c).successDevices
  | some .started | some .retry =>
    if 1 < childDeviceTotal m c then (w.taskMeta c).successDevices else 0
  | _ => 0

/-- Devices that the child's records give as failed; a broken or cancelled child fails
with everything it did not process. -/
def recordedFailures (w : World) (m : TaskMeta) (c : TaskId) : Nat :=
  let unprocessed := childDeviceTotal m c - reportedDone (w.taskMeta c)
  let stopped := if cancelledChild m (childState w c) c then unprocessed else 0
  match childState w c with
  | some .success =>
    (fillReport (statedReport (childResult w c) ((m.childTaskDeviceCount c).getD 1))).failedDevices
  | some .failure | some .revoked => (w.taskMeta c).failedDevices + unprocessed
  | some .started | some .retry =>
    (if 1 < childDeviceTotal m c then (w.taskMeta c).failedDevices else 0) + stopped
  | _ => stopped

/-- Devices that the child's records give as processed, one way or the other. -/
def recordedDone (w : World) (m : TaskMeta) (c : TaskId) : Nat :=
  let done := reportedDone (w.taskMeta c)
  let unprocessed := childDeviceTotal m c - done
  let stopped := if cancelledChild m (childState w c) c then unprocessed else 0
  match childState w c with
  | some .success => recordedSuccesses w m c + recordedFailures w m c
  | some .failure | some .revoked => done + unprocessed
  | some .started | some .retry =>
    (if 1 < childDeviceTotal m c then min (childDeviceTotal m c) done else 0) + stopped
  | _ => stopped

inductive PollEvent where
  /-- A call of the refresh, with the children as they are then, merged into the meta. -/
  | poll (w : World)
  /-- A cancel request for the given children. -/
  | cancel (forced : List TaskId)

/-- The stored batch meta, and the most successes and the most failures of each child that
a poll has seen so far. -/
structure PollState where
  batch : TaskMeta
  seenSuccesses : TaskId → Nat := fun _ => 0
  seenFailures : TaskId → Nat := fun _ => 0

def pollStep (env : Env) (s : PollState) : PollEvent → Option PollState
  | .poll w => some
    { batch := (refreshBulkTaskMeta env w s.batch).applyTo s.batch
      seenSuccesses := fun c => max (s.seenSuccesses c) (recordedSuccesses w s.batch c)
      seenFailures := fun c => max (s.seenFailures c) (recordedFailures w s.batch c) }
  | .cancel forced => some
    { s with
      batch := { s.batch with
        status := some .stopping, completed := false, cancelRequested := true
        forceCancelledChildIds := forced } }

/-- The most successes and the most failures that polls have seen of a child, this poll
included, fit into its devices together: no device is reported both ways. -/
def NoDeviceTwice (s : PollState) : PollEvent → Prop
  | .poll w => ∀ c ∈ s.batch.childIds,
      max (s.seenSuccesses c) (recordedSuccesses w s.batch c) +
        max (s.seenFailures c) (recordedFailures w s.batch c) ≤ childDeviceTotal s.batch c ∧
      recordedDone w s.batch c ≤ childDeviceTotal s.batch c
  | .cancel _ => True

instance (s : PollState) : (e : PollEvent) → Decidable (NoDeviceTwice s e)
  | .poll _ => inferInstanceAs (Decidable (∀ c ∈ s.batch.childIds, _ ≤ _ ∧ _ ≤ _))
  | .cancel _ => inferInstanceAs (Decidable True)

/-- The counters of the stored meta are ordered and bounded by the batch. -/
structure Bounded (devices : Nat) (m : TaskMeta) : Prop where
  outcomes_le_done : m.successDevices + m.failedDevices ≤ m.doneDevices
  done_le_total : m.doneDevices ≤ m.totalDevices
  total_le : m.totalDevices ≤ devices

variable {env : Env} {w : World} {m : TaskMeta} {s' : PollState}

theorem childReport_devices (env : Env) (w : World) (m : TaskMeta) (c : TaskId) :
    (childReport env w m c).successDevices = recordedSuccesses w m c ∧
    (childReport env w m c).failedDevices = recordedFailures w m c ∧
    (childReport env w m c).doneDevices = recordedDone w m c := by
  cases hs : childState w c with
  | none =>
    simp [childReport, recordedSuccesses, recordedFailures, recordedDone, hs, openReport,
      partialReport, Counters.add, cancelledChild]
  | some st =>
    cases st <;>
      simp [childReport, recordedSuccesses, recordedFailures, recordedDone, hs, openReport,
        finishedReport, brokenReport, partialReport, Counters.add] <;>
      split_ifs <;> simp

/-- What a poll leaves in the stored counters, in terms of the children's records. -/
theorem poll_counters (env : Env) (w : World) (m : TaskMeta) :
    let m' := (refreshBulkTaskMeta env w m).applyTo m
    m'.successDevices = max (m.childIds.map (recordedSuccesses w m)).sum m.successDevices ∧
    m'.failedDevices = max (m.childIds.map (recordedFailures w m)).sum m.failedDevices ∧
    m'.doneDevices = max (max (m.childIds.map (recordedDone w m)).sum m.doneDevices)
      (m'.successDevices + m'.failedDevices) := by
  have hS : (countChildren env w m).successDevices = (m.childIds.map (recordedSuccesses w m)).sum :=
    (countChildren_successDevices env w m).trans
      (sum_map_congr fun c _ => (childReport_devices env w m c).1)
  have hF : (countChildren env w m).failedDevices = (m.childIds.map (recordedFailures w m)).sum :=
    (countChildren_failedDevices env w m).trans
      (sum_map_congr fun c _ => (childReport_devices env w m c).2.1)
  have hD : (countChildren env w m).doneDevices = (m.childIds.map (recordedDone w m)).sum :=
    (countChildren_doneDevices env w m).trans
      (sum_map_congr fun c _ => (childReport_devices env w m c).2.2)
  refine ⟨?_, ?_, ?_⟩
  · rw [← hS]; rfl
  · rw [← hF]; rfl
  · rw [← hD]; rfl

/-- The stored total is the larger of the devices given before and those counted as done. A
batch without a total would take its running and queued children for one, but has none. -/
theorem poll_total (env : Env) (w : World) (m : TaskMeta)
    (h : m.totalDevices = 0 → m.childIds = []) :
    ((refreshBulkTaskMeta env w m).applyTo m).totalDevices =
      max m.totalDevices ((refreshBulkTaskMeta env w m).applyTo m).doneDevices := by
  simp only [BulkStatus.applyTo, refreshBulkTaskMeta]
  by_cases h0 : m.totalDevices = 0
  · have hc : countChildren env w m = {} := by simp [countChildren, h h0]
    simp only [h0, ne_eq, not_true_eq_false, ↓reduceIte, hc, monotonic]
    omega
  · simp only [ne_eq, h0, not_false_eq_true, ↓reduceIte]

/-- What holds of the stored counters between polls of the batch registered as `m₀`. -/
structure PollInv (m₀ : TaskMeta) (s : PollState) : Prop where
  children : s.batch.childIds = m₀.childIds
  counts : s.batch.childTaskDeviceCount = m₀.childTaskDeviceCount
  success_le : s.batch.successDevices ≤ (m₀.childIds.map s.seenSuccesses).sum
  failed_le : s.batch.failedDevices ≤
    max (m₀.childIds.map s.seenFailures).sum m₀.skippedJumpUnreachable
  outcomes_le : s.batch.successDevices + s.batch.failedDevices ≤ s.batch.doneDevices
  done_le : s.batch.doneDevices ≤ batchDevices m₀
  total_eq : s.batch.totalDevices = batchDevices m₀

theorem PollInv.start {m₀ : TaskMeta} (h : Registered m₀) : PollInv m₀ { batch := m₀ } where
  children := rfl
  counts := rfl
  success_le := by simp [h.success_zero]
  failed_le := by simp [h.failed_skipped]
  outcomes_le := by simp [h.success_zero, h.failed_skipped, h.done_skipped]
  done_le := by simp [h.done_skipped, batchDevices]
  total_eq := h.total_devices

/-- A batch without devices has no children. -/
theorem childIds_eq_nil_of_batchDevices (h : batchDevices m = 0) : m.childIds = [] := by
  simp only [batchDevices, Nat.add_eq_zero_iff, List.sum_eq_zero_iff_forall_eq_nat, List.mem_map,
    forall_exists_index, and_imp, forall_apply_eq_imp_iff₂] at h
  apply List.eq_nil_iff_forall_not_mem.mpr
  intro c hc
  have := childDeviceTotal_pos m c
  have := h.1 c hc
  omega

theorem PollInv.poll {m₀ : TaskMeta} {s : PollState} (h : PollInv m₀ s)
    (hok : NoDeviceTwice s (.poll w)) (hs : pollStep env s (.poll w) = some s') :
    PollInv m₀ s' := by
  obtain rfl := Option.some.inj hs
  obtain ⟨hS, hF, hD⟩ := poll_counters env w s.batch
  have htot : ((refreshBulkTaskMeta env w s.batch).applyTo s.batch).totalDevices =
      max s.batch.totalDevices ((refreshBulkTaskMeta env w s.batch).applyTo s.batch).doneDevices :=
    poll_total env w s.batch fun h0 => h.children ▸
      childIds_eq_nil_of_batchDevices (h.total_eq ▸ h0)
  have hdev : ∀ c, childDeviceTotal s.batch c = childDeviceTotal m₀ c := fun c => by
    rw [childDeviceTotal, childDeviceTotal, h.counts]
  simp only [NoDeviceTwice, h.children, hdev] at hok
  rw [h.children] at hS hF hD
  -- the sums over the children are ordered summand by summand
  have hsucc : (m₀.childIds.map (recordedSuccesses w s.batch)).sum ≤
      (m₀.childIds.map fun c => max (s.seenSuccesses c) (recordedSuccesses w s.batch c)).sum :=
    List.sum_le_sum fun c _ => Nat.le_max_right ..
  have hsucc' : (m₀.childIds.map s.seenSuccesses).sum ≤
      (m₀.childIds.map fun c => max (s.seenSuccesses c) (recordedSuccesses w s.batch c)).sum :=
    List.sum_le_sum fun c _ => Nat.le_max_left ..
  have hfail : (m₀.childIds.map (recordedFailures w s.batch)).sum ≤
      (m₀.childIds.map fun c => max (s.seenFailures c) (recordedFailures w s.batch c)).sum :=
    List.sum_le_sum fun c _ => Nat.le_max_right ..
  have hfail' : (m₀.childIds.map s.seenFailures).sum ≤
      (m₀.childIds.map fun c => max (s.seenFailures c) (recordedFailures w s.batch c)).sum :=
    List.sum_le_sum fun c _ => Nat.le_max_left ..
  have hboth :
      (m₀.childIds.map fun c => max (s.seenSuccesses c) (recordedSuccesses w s.batch c)).sum
      + (m₀.childIds.map fun c => max (s.seenFailures c) (recordedFailures w s.batch c)).sum ≤
      (m₀.childIds.map (childDeviceTotal m₀)).sum := by
    rw [← List.sum_map_add]
    exact List.sum_le_sum fun c hc => (hok c hc).1
  have hdone : (m₀.childIds.map (recordedDone w s.batch)).sum ≤
      (m₀.childIds.map (childDeviceTotal m₀)).sum :=
    List.sum_le_sum fun c hc => (hok c hc).2
  have hN : batchDevices m₀ =
      (m₀.childIds.map (childDeviceTotal m₀)).sum + m₀.skippedJumpUnreachable := rfl
  have h1 := h.success_le
  have h2 := h.failed_le
  have h3 := h.done_le
  have h4 := h.total_eq
  have hle : ((refreshBulkTaskMeta env w s.batch).applyTo s.batch).doneDevices ≤
      batchDevices m₀ := by omega
  exact
    { children := h.children
      counts := h.counts
      success_le := by simp only; omega
      failed_le := by simp only; omega
      outcomes_le := by simp only; omega
      done_le := hle
      total_eq := by simp only [htot]; omega }

/-- **The counters of a polled batch stay bounded by its devices** along every run in which
no device is reported both ways. -/
theorem polled_batch_bounded (env : Env) (m₀ : TaskMeta) (es : List PollEvent) (s' : PollState)
    (hreg : Registered m₀) (hok : Along (pollStep env) NoDeviceTwice { batch := m₀ } es)
    (hrun : exec (pollStep env) { batch := m₀ } es = some s') :
    Bounded (batchDevices m₀) s'.batch := by
  have hinv : PollInv m₀ s' := by
    refine exec_invariant (fun s e t hs he ht => ?_) (PollInv.start hreg) hok hrun
    cases e with
    | poll w => exact hs.poll he ht
    | cancel forced =>
      obtain rfl := Option.some.inj ht
      exact ⟨hs.children, hs.counts, hs.success_le, hs.failed_le, hs.outcomes_le, hs.done_le,
        hs.total_eq⟩
  exact ⟨hinv.outcomes_le, hinv.total_eq ▸ hinv.done_le, hinv.total_eq.le⟩

/-- A batch of one VPN group of two devices, as the route registers it. -/
def groupBatch : TaskMeta :=
  { isBulk := true, operationKind := some .backupBulk, status := some .running
    childTaskIds := ["group"], totalTasks := 1, totalDevices := 2
    childTaskDeviceCount := fun c => if c = "group" then some 2 else none }

/-- The group has backed up its first device. -/
def halfwayWorld : World where
  taskMeta _ :=
    { status := some .running, processedDevices := 1, doneDevices := 1, successDevices := 1 }
  celery _ := { state := some .started }

/-- An exception ended the group; its result reports nothing but the error. -/
def brokenGroupWorld : World where
  taskMeta _ :=
    { status := some .failed, completed := true, error := "tunnel"
      processedDevices := 1, doneDevices := 1, successDevices := 1 }
  celery _ := { state := some .success, result := some { error := "tunnel" } }

/-- One success seen halfway and two failures at the end make three devices out of two. -/
theorem broken_group_counted_twice :
    ¬ ∀ (env : Env) (m₀ : TaskMeta) (es : List PollEvent) (s' : PollState), Registered m₀ →
      exec (pollStep env) { batch := m₀ } es = some s' →
      Bounded (batchDevices m₀) s'.batch := by
  intro hall
  have h := hall .ascii groupBatch [.poll halfwayWorld, .poll brokenGroupWorld] _
    ⟨rfl, rfl, rfl, rfl⟩ rfl
  exact absurd h.total_le (by decide)

/-- The group ends well instead. -/
def finishedGroupWorld : World where
  taskMeta _ :=
    { status := some .success, completed := true
      processedDevices := 2, doneDevices := 2, successDevices := 2 }
  celery _ :=
    { state := some .success
      result := some { details := some [], total := some 2, success := some 2, failed := some 0 } }

theorem polled_group_bounded :
    ∃ s', exec (pollStep .ascii) { batch := groupBatch }
        [.poll halfwayWorld, .poll finishedGroupWorld] = some s' ∧
      Bounded (batchDevices groupBatch) s'.batch := by
  refine ⟨_, rfl, polled_batch_bounded .ascii groupBatch
    [.poll halfwayWorld, .poll finishedGroupWorld] _ ⟨rfl, rfl, rfl, rfl⟩ ?_ rfl⟩
  refine ⟨by decide, fun s' hs => ⟨?_, fun _ _ => trivial⟩⟩
  obtain rfl := Option.some.inj hs
  decide

end BackupCenter.Web
