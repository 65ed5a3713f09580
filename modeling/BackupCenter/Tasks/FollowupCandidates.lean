import BackupCenter.Tasks.TerminalSnapshot

/-!
# The candidates of an automatic follow-up

When a batch is finished, the devices that failed for a transient reason are collected
from three shapes of results: the entries of a group result, a child's own result, and
the devices skipped in the jump preflight.
-/
namespace BackupCenter.Tasks

open BackupCenter.Lib

/-- The arguments of one `_bulk_append_transient_candidate` call. -/
structure Candidate where
  deviceId : DeviceId
  deviceName : String := ""
  category : String
  message : String
  deriving Repr, DecidableEq

variable (env : Env)

/-- Whether the call adds its device. -/
def Candidate.accepted (c : Candidate) : Bool :=
  strip c.deviceId ≠ "" && normalize env c.category ≠ "" &&
    shouldRetryTransientFailure env (normalize env c.category) c.message c.deviceName
      (strip c.deviceId)

def skippedMessage : String := "Jump Host indisponivel no preflight do lote."

def skippedCandidates (m : TaskMeta) : List Candidate :=
  m.skippedJumpDeviceIds.map fun d =>
    { deviceId := d, category := "connection", message := skippedMessage }

/-- Python's `a or b or ...` on strings. -/
def firstText : List String → String
  | [] => ""
  | s :: rest => if s ≠ "" then s else firstText rest

/-- The failed entries of a group result. -/
def detailCandidates (items : List Detail) : List Candidate :=
  (items.filter (!·.success)).map fun d =>
    { deviceId := strip d.deviceId, deviceName := strip d.deviceName
      category := statedCategory env d.failureCategory d.message, message := d.message }

/-- The devices of a child whose own result is a failure. -/
def failedChildCandidates (childMeta : TaskMeta) (r : ResultDict) : List Candidate :=
  let category := statedCategory env r.failureCategory
    (firstText [r.message, r.error, childMeta.message, childMeta.error])
  let devices :=
    if strip childMeta.deviceId ≠ "" then [strip childMeta.deviceId]
    else childMeta.deviceIds.filter (· ≠ "")
  devices.map fun d =>
    { deviceId := d, deviceName := strip childMeta.deviceName, category
      message := firstText [r.message, r.error] }

def childCandidates (w : World) (childId : TaskId) : List Candidate :=
  let r := bulkChildResult w childId
  match r.details with
  | some items => detailCandidates env items
  | none =>
    if (r.success.isSome || r.error ≠ "") && r.success.getD 0 = 0 then
      failedChildCandidates env (w.taskMeta childId) r
    else []

def acceptedCandidates (w : World) (m : TaskMeta) : List Candidate :=
  (skippedCandidates m ++ m.childIds.flatMap (childCandidates env w)).filter (·.accepted env)

/-- The device ids, sorted and without repetition, and the counts of their categories. -/
def collectBulkTransientFollowupCandidates (w : World) (m : TaskMeta) :
    List DeviceId × (String → Nat) :=
  let accepted := acceptedCandidates env w m
  (sortedSet (accepted.map fun c => strip c.deviceId),
    accepted.foldl (fun counts c => countCategory counts (normalize env c.category) 1) fun _ => 0)

/-- The filter accepts a failure of the category that its stated category, or else its
message, stands for. -/
def Retriable (stated fallback message deviceName deviceId : String) : Prop :=
  shouldRetryTransientFailure env (normalize env (statedCategory env stated fallback)) message
    deviceName deviceId = true

/-- A device was skipped in the jump preflight, or failed for a retriable reason. -/
inductive FailedTransiently (w : World) (m : TaskMeta) (d : DeviceId) : Prop where
  | skipped (raw : DeviceId) (hmem : raw ∈ m.skippedJumpDeviceIds) (hid : strip raw = d)
  /-- An entry of a group result. -/
  | detail (id : TaskId) (hchild : id ∈ m.childIds) (items : List Detail) (item : Detail)
    (hitems : (bulkChildResult w id).details = some items) (hmem : item ∈ items)
    (hfailed : item.success = false) (hid : strip (strip item.deviceId) = d)
    (hretry : Retriable env item.failureCategory item.message item.message
      (strip item.deviceName) d)
  /-- The result of a child, for the child's device or devices. -/
  | child (id : TaskId) (hchild : id ∈ m.childIds)
    (hreported : (bulkChildResult w id).success.isSome = true ∨ (bulkChildResult w id).error ≠ "")
    (hfailed : (bulkChildResult w id).success.getD 0 = 0) (fallback : String)
    (hid : strip (strip (w.taskMeta id).deviceId) = d ∨
      ∃ raw ∈ (w.taskMeta id).deviceIds, strip raw = d)
    (hretry : Retriable env (bulkChildResult w id).failureCategory fallback
      (firstText [(bulkChildResult w id).message, (bulkChildResult w id).error])
      (strip (w.taskMeta id).deviceName) d)

variable {env} {w : World} {m : TaskMeta}

theorem Candidate.retriable {c : Candidate} (h : c.accepted env = true) :
    shouldRetryTransientFailure env (normalize env c.category) c.message c.deviceName
      (strip c.deviceId) = true := by
  simp only [Candidate.accepted, Bool.and_eq_true] at h
  exact h.2

theorem failed_of_childCandidate {id : TaskId} (hchild : id ∈ m.childIds) {c : Candidate}
    (hc : c ∈ childCandidates env w id) (hacc : c.accepted env = true) :
    FailedTransiently env w m (strip c.deviceId) := by
  have hretry := Candidate.retriable hacc
  simp only [childCandidates] at hc
  split at hc
  next items hitems =>
    simp only [detailCandidates, List.mem_map, List.mem_filter] at hc
    obtain ⟨item, ⟨hmem, hfailed⟩, rfl⟩ := hc
    exact .detail id hchild items item hitems hmem (by simpa using hfailed) rfl hretry
  next =>
    split at hc
    next hfailed =>
      simp only [failedChildCandidates, List.mem_map] at hc
      obtain ⟨d, hd, rfl⟩ := hc
      simp only [Bool.and_eq_true, Bool.or_eq_true, decide_eq_true_eq] at hfailed
      refine .child id hchild hfailed.1 hfailed.2 _ ?_ hretry
      split at hd
      · obtain rfl := List.mem_singleton.mp hd
        exact .inl rfl
      · exact .inr ⟨d, List.mem_of_mem_filter hd, rfl⟩
    next => cases hc

/-- Every collected device was skipped or failed for a retriable reason. -/
theorem collected_failed {d : DeviceId}
    (h : d ∈ (collectBulkTransientFollowupCandidates env w m).1) :
    FailedTransiently env w m d := by
  simp only [collectBulkTransientFollowupCandidates, mem_sortedSet, List.mem_map,
    acceptedCandidates, List.mem_filter, List.mem_append, List.mem_flatMap] at h
  obtain ⟨c, ⟨hmem, hacc⟩, rfl⟩ := h
  rcases hmem with hmem | ⟨id, hchild, hc⟩
  · simp only [skippedCandidates, List.mem_map] at hmem
    obtain ⟨raw, hraw, rfl⟩ := hmem
    exact .skipped raw hraw rfl
  · exact failed_of_childCandidate hchild hc hacc

end BackupCenter.Tasks
