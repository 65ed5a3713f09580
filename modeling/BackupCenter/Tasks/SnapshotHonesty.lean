import BackupCenter.Tasks.TerminalSnapshot

/-!
# When the snapshot reports only what was backed up

A child's result dictionary may say nothing: a group task that stored only its
error, a worker that was killed, a result that is not published yet because the
finaliser runs in the child's own `finally` block. `bulkChildResult` then yields an
empty dictionary, and the snapshot takes the child for a full success. The results
below say exactly which batches this reaches.
-/
namespace BackupCenter.Tasks

/-- The dictionary reports at least one device backed up. -/
def ResultDict.reportsSuccess (r : ResultDict) : Bool :=
  r.success.getD 0 != 0 || (r.details.getD []).any (·.success)

/-- The dictionary reports a failure of at least one device. -/
def ResultDict.reportsFailure (r : ResultDict) : Bool :=
  match r.details with
  | some _ => r.failed.getD 0 != 0
  | none =>
    match r.success with
    | some s => s == 0
    | none => r.error != ""

/-- Failures that a group result counts by itself; other results fail as a whole. -/
def ResultDict.countedFailures (r : ResultDict) : Nat :=
  if r.details.isSome then r.failed.getD 0 else 0

/-- Devices that the dictionary reports as backed up. -/
def ResultDict.reportedBackups (r : ResultDict) : Nat :=
  if r.details.isSome then r.success.getD 0 else if r.success.getD 0 ≠ 0 then 1 else 0

/-- Every dictionary stored anywhere for the child. -/
def resultDicts (w : World) (childId : TaskId) : List ResultDict :=
  (w.taskMeta childId).result.toList ++ (w.celery childId).result.toList

/-- The stored status or the Celery state says that the child did not succeed. -/
def DidNotSucceed (w : World) (childId : TaskId) : Prop :=
  (∃ st ∈ [Status.failed, .failure, .error, .stopped, .revoked],
    (w.taskMeta childId).status = some st) ∨
  (w.celery childId).state = some .failure ∨ (w.celery childId).state = some .revoked

/-- The step of the loop for this child adds its devices to the failures only. -/
def AddsOnlyFailures (env : Env) (w : World) (m : TaskMeta) (childId : TaskId) : Prop :=
  ∀ t : SnapshotTally,
    (t.add env w m childId).successTasks = t.successTasks ∧
    (t.add env w m childId).successDevices = t.successDevices ∧
    (t.add env w m childId).failedDevices = t.failedDevices + childDeviceTotal m childId

/-- The snapshot counts no success that was not reported, and says `success` only for a
batch all of whose devices are reported as backed up. -/
structure HonestSnapshot (env : Env) (w : World) (m : TaskMeta) (s : Snapshot) : Prop where
  failed_children : ∀ c ∈ m.childIds, DidNotSucceed w c →
    (∀ r ∈ resultDicts w c, r.reportsSuccess = false) → AddsOnlyFailures env w m c
  success_complete : s.status = .success → m.skippedJumpUnreachable = 0 ∧
    ∀ c ∈ m.childIds, childDeviceTotal m c ≤ (bulkChildResult w c).reportedBackups

/-- The child's dictionary neither reports a failure nor accounts for all its devices. -/
def SilentChild (w : World) (m : TaskMeta) (childId : TaskId) : Prop :=
  (bulkChildResult w childId).reportsFailure = false ∧
    (bulkChildResult w childId).reportedBackups < childDeviceTotal m childId

/-- No silent child where it shows: an unsuccessful child reports its failure, and no
child at all is silent unless something else keeps the batch from being a success. -/
structure ResultsSpeak (w : World) (m : TaskMeta) : Prop where
  unsuccessful : ∀ c ∈ m.childIds, DidNotSucceed w c →
    (∀ r ∈ resultDicts w c, r.reportsSuccess = false) → ¬ SilentChild w m c ∧
      (bulkChildResult w c).countedFailures ≤ childDeviceTotal m c
  covered : m.cancelRequested = true ∨ 0 < m.skippedJumpUnreachable ∨
    (∃ c ∈ m.childIds, (bulkChildResult w c).reportsFailure = true) ∨
    ∀ c ∈ m.childIds, ¬ SilentChild w m c

variable {env : Env} {w : World} {m : TaskMeta} {now : Timestamp} {s : Snapshot} {c : TaskId}

theorem bulkChildResult_quiet (h : ∀ r ∈ resultDicts w c, r.reportsSuccess = false) :
    (bulkChildResult w c).reportsSuccess = false := by
  simp only [bulkChildResult]
  cases hm : (w.taskMeta c).result with
  | some r => exact h r (by simp [resultDicts, hm])
  | none =>
    cases hc : (w.celery c).result with
    | some r => exact h r (by simp [resultDicts, hc])
    | none => rfl

theorem reportedTally_success (r : ResultDict) (d : Nat) :
    (reportedTally r d).success = !r.reportsFailure := by
  simp only [reportedTally, ResultDict.reportsFailure]
  cases r.details with
  | some items =>
    cases hf : r.failed with
    | none => simp
    | some f => simp [bne]
  | none =>
    cases hs : r.success with
    | some n => by_cases hn : n = 0 <;> simp [hn]
    | none => by_cases he : r.error = "" <;> simp [he]

/-- Before completion, a child's failed devices tell whether its result reports a failure. -/
theorem reportedTally_failedDevices (r : ResultDict) {d : Nat} (hd : 0 < d) :
    (reportedTally r d).failedDevices = 0 ↔ r.reportsFailure = false := by
  simp only [reportedTally, ResultDict.reportsFailure]
  cases r.details with
  | some items => cases hf : r.failed <;> simp
  | none =>
    cases hs : r.success with
    | some n => by_cases hn : n = 0 <;> simp [hn]
    | none =>
      by_cases he : r.error = ""
      · simp [he]
      · simp [he]; omega

/-- A failure without a reported success counts no success, and fits the child's devices
exactly when the failures that a group counts by itself do. -/
theorem reportedTally_quiet {r : ResultDict} (hq : r.reportsSuccess = false) {d : Nat} (hd : 0 < d)
    (hr : r.reportsFailure = true) :
    (reportedTally r d).successDevices = 0 ∧
      ((reportedTally r d).failedDevices ≤ d ↔ r.countedFailures ≤ d) := by
  simp only [ResultDict.reportsSuccess, Bool.or_eq_false_iff, bne_eq_false_iff_eq] at hq
  simp only [ResultDict.reportsFailure] at hr
  simp only [reportedTally, ResultDict.countedFailures]
  cases hd : r.details with
  | some items => cases hf : r.failed <;> simp [hq.1]
  | none =>
    cases hs : r.success with
    | some n =>
      have hn : n = 0 := by simpa [hs] using hq.1
      simp [hn]; omega
    | none =>
      have he : r.error ≠ "" := by simpa [hd, hs] using hr
      simp [he]

theorem completeTally_success (t : ChildTally) (d : Nat) :
    (completeTally t d).success = t.success := by
  simp only [completeTally]
  split_ifs <;> rfl

theorem completeTally_failedDevices {t : ChildTally} {d : Nat} (hd : 0 < d)
    (ht : t.success = true ↔ t.failedDevices = 0) :
    (completeTally t d).failedDevices = 0 ↔ t.failedDevices = 0 := by
  simp only [completeTally]
  split_ifs with h0 hs hlt hs
  · rfl
  · have := mt ht.mpr hs
    simp; omega
  · rfl
  · have := mt ht.mpr hs
    simp; omega
  · rfl

theorem completeTally_eq_failed_iff {t : ChildTally} {d : Nat}
    (ht : t.success = false → t.successDevices = 0) :
    completeTally t d = ⟨false, 0, d⟩ ↔ t.success = false ∧ t.failedDevices ≤ d := by
  obtain ⟨ok, s, f⟩ := t
  cases ok with
  | true =>
    have h := completeTally_success ⟨true, s, f⟩ d
    refine ⟨fun he => ?_, fun he => absurd he.1 (by simp)⟩
    rw [he] at h
    cases h
  | false =>
    obtain rfl : s = 0 := ht rfl
    simp only [completeTally, Bool.false_eq_true, ↓reduceIte]
    split_ifs with h0 hlt
    · exact ⟨fun _ => ⟨trivial, by omega⟩, fun _ => rfl⟩
    · simp only [ChildTally.mk.injEq, true_and]; omega
    · simp only [ChildTally.mk.injEq, true_and]; omega

/-- A child adds to the failed devices exactly when its result reports a failure. -/
theorem childTally_failedDevices (w : World) (m : TaskMeta) (c : TaskId) :
    (childTally w m c).failedDevices = 0 ↔ (bulkChildResult w c).reportsFailure = false := by
  have hd := childDeviceTotal_pos m c
  have hf := reportedTally_failedDevices (bulkChildResult w c) hd
  rw [childTally, completeTally_failedDevices hd, hf]
  rw [reportedTally_success, hf, Bool.not_eq_true']

/-- Without a reported success, the child is tallied as a whole failure exactly when its
result reports the failure of at most all its devices. -/
theorem childTally_eq_failed_iff (hq : (bulkChildResult w c).reportsSuccess = false) :
    childTally w m c = ⟨false, 0, childDeviceTotal m c⟩ ↔
      (bulkChildResult w c).reportsFailure = true ∧
        (bulkChildResult w c).countedFailures ≤ childDeviceTotal m c := by
  have hd := childDeviceTotal_pos m c
  have hs := reportedTally_success (bulkChildResult w c) (childDeviceTotal m c)
  rw [childTally, completeTally_eq_failed_iff, hs, Bool.not_eq_false']
  · exact and_congr_right fun hr => (reportedTally_quiet hq hd hr).2
  · intro hr
    rw [hs, Bool.not_eq_false'] at hr
    exact (reportedTally_quiet hq hd hr).1

theorem addsOnlyFailures_iff :
    AddsOnlyFailures env w m c ↔ childTally w m c = ⟨false, 0, childDeviceTotal m c⟩ := by
  simp only [AddsOnlyFailures, SnapshotTally.add]
  constructor
  · intro h
    obtain ⟨hs, hd, hf⟩ := h {}
    cases ht : childTally w m c with
    | mk success successDevices failedDevices =>
      rw [ht] at hs hd hf
      cases success with
      | true => simp at hs
      | false => simp at hd hf; simp [hd, hf]
  · intro h t
    simp [h]

/-- A child without a reported success is silent or reports a failure. -/
theorem not_silentChild_iff (hq : (bulkChildResult w c).reportsSuccess = false) :
    ¬ SilentChild w m c ↔ (bulkChildResult w c).reportsFailure = true := by
  have hd := childDeviceTotal_pos m c
  have h0 : (bulkChildResult w c).reportedBackups = 0 := by
    simp only [ResultDict.reportsSuccess, Bool.or_eq_false_iff, bne_eq_false_iff_eq] at hq
    simp [ResultDict.reportedBackups, hq.1]
  simp [SilentChild, h0, hd]

/-- The snapshot says `success` when nothing was stopped, skipped or reported as failed. -/
theorem snapshot_success_iff (h : buildBulkTerminalSnapshot env w m now = some s) :
    s.status = .success ↔ m.cancelRequested = false ∧ m.skippedJumpUnreachable = 0 ∧
      ∀ c ∈ m.childIds, (bulkChildResult w c).reportsFailure = false := by
  obtain ⟨-, -, -, -, hst⟩ := snapshot_eq_some h
  have hfail : (finalTally env w m).failedDevices = 0 ↔ m.skippedJumpUnreachable = 0 ∧
      ∀ c ∈ m.childIds, (bulkChildResult w c).reportsFailure = false := by
    rw [finalTally_failedDevices, Nat.add_eq_zero_iff]
    simp only [List.sum_eq_zero_iff_forall_eq_nat, List.mem_map, forall_exists_index, and_imp,
      forall_apply_eq_imp_iff₂, childTally_failedDevices]
  rw [hst, snapshotStatus, ← hfail]
  cases m.cancelRequested with
  | true => simp
  | false => simp [Nat.pos_iff_ne_zero]

/-- The snapshot is honest exactly when the children's results speak for themselves. -/
theorem honestSnapshot_iff (env : Env) (w : World) (m : TaskMeta) (now : Timestamp) (s : Snapshot)
    (h : buildBulkTerminalSnapshot env w m now = some s) :
    HonestSnapshot env w m s ↔ ResultsSpeak w m := by
  have hsucc := snapshot_success_iff h
  constructor
  · rintro ⟨hfailed, hcomplete⟩
    constructor
    · intro c hc hbad hquiet
      have hq := bulkChildResult_quiet hquiet
      rw [not_silentChild_iff hq]
      exact (childTally_eq_failed_iff hq).mp (addsOnlyFailures_iff.mp (hfailed c hc hbad hquiet))
    · by_cases hok : s.status = .success
      · right; right; right
        rintro c hc ⟨-, hlt⟩
        have hle := (hcomplete hok).2 c hc
        omega
      · rw [hsucc] at hok
        by_cases hcancel : m.cancelRequested = true
        · exact .inl hcancel
        by_cases hskip : m.skippedJumpUnreachable = 0
        · right; right; left
          simp only [hcancel, hskip, true_and, not_forall] at hok
          obtain ⟨c, hc, hr⟩ := hok
          exact ⟨c, hc, by simpa using hr⟩
        · exact .inr (.inl (by omega))
  · rintro ⟨hunsuccessful, hcovered⟩
    constructor
    · intro c hc hbad hquiet
      have hq := bulkChildResult_quiet hquiet
      have hspeak := hunsuccessful c hc hbad hquiet
      rw [not_silentChild_iff hq] at hspeak
      exact addsOnlyFailures_iff.mpr ((childTally_eq_failed_iff hq).mpr hspeak)
    · intro hok
      obtain ⟨hcancel, hskip, hnone⟩ := hsucc.mp hok
      refine ⟨hskip, fun c hc => ?_⟩
      rcases hcovered with h1 | h1 | ⟨d, hd, hr⟩ | h1
      · rw [hcancel] at h1; cases h1
      · omega
      · rw [hnone d hd] at hr; cases hr
      · exact not_lt.mp fun hlt => h1 c hc ⟨hnone c hc, hlt⟩

/-- A batch of one VPN group of two devices, at the moment when the group's task has
stored only its error and finalises the batch from its own `finally` block. -/
def crashedGroupWorld : World where
  taskMeta _ := { status := some .failed, completed := true, error := "tunnel" }
  celery _ := { state := some .started }

def crashedGroupBatch : TaskMeta :=
  { isBulk := true, childTaskIds := ["group"], totalTasks := 1, totalDevices := 2
    childTaskDeviceCount := fun c => if c = "group" then some 2 else none }

/-- Both devices of the crashed group are counted as backed up. -/
theorem crashed_group_counted_as_success :
    ¬ ∀ (env : Env) (w : World) (m : TaskMeta) (now : Timestamp) (s : Snapshot),
      buildBulkTerminalSnapshot env w m now = some s → HonestSnapshot env w m s := by
  intro hall
  have hhonest := hall .ascii crashedGroupWorld crashedGroupBatch 0 _ rfl
  have hle := (hhonest.success_complete (by decide)).2 "group" (by decide)
  exact absurd hle (by decide)

/-- The same batch, with the group's error published as its result. -/
def reportedGroupWorld : World where
  taskMeta _ := { status := some .failed, completed := true, error := "tunnel" }
  celery _ := { state := some .success, result := some { error := "tunnel" } }

theorem honestSnapshot_reported_group :
    ∃ s, buildBulkTerminalSnapshot .ascii reportedGroupWorld crashedGroupBatch 0 = some s ∧
      s.failedDevices = 2 ∧ HonestSnapshot .ascii reportedGroupWorld crashedGroupBatch s := by
  refine ⟨_, rfl, rfl, (honestSnapshot_iff _ _ _ _ _ rfl).mpr ⟨?_, ?_⟩⟩
  · rintro c hc - -
    obtain rfl : c = "group" := by simpa [TaskMeta.childIds, crashedGroupBatch] using hc
    exact ⟨fun h => absurd h.1 (by decide), by decide⟩
  · exact .inr (.inr (.inl ⟨"group", by decide, by decide⟩))

end BackupCenter.Tasks
