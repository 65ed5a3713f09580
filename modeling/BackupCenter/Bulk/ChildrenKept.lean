import BackupCenter.Bulk.Registration
import Mathlib.Data.List.Perm.Subperm

/-!
# Two writers of the children of a batch

The phase callback is dispatched before the enqueuing routine writes its final meta, so
the two writes come in either order. Whoever comes second must merge. A child that is
enqueued but not recorded is never accounted for.
-/
namespace BackupCenter.Bulk

open BackupCenter.Lib BackupCenter.Tasks

/-- A routine and the callback that it has dispatched. The task ids are fresh: non-empty
and distinct. -/
structure Race where
  routine : Routine
  plan : Plan
  stop : Bool
  fresh : Nat → TaskId
  ids_nodup : ((plan.children ++ (jumpCallback stop plan.jump plan.vpn fresh).new).map
    (·.taskId)).Nodup
  ids_nonempty : ∀ c ∈ plan.children ++ (jumpCallback stop plan.jump plan.vpn fresh).new,
    c.taskId ≠ ""

def Race.callback (r : Race) : Callback := jumpCallback r.stop r.plan.jump r.plan.vpn r.fresh

/-- Every child that one of the two has enqueued. -/
def Race.enqueued (r : Race) : List NewChild := r.plan.children ++ r.callback.new

inductive WriteOrder where
  | routineFirst | callbackFirst
  deriving Repr, DecidableEq

/-- The stored meta after both writes. -/
def Race.outcome (r : Race) (order : WriteOrder) (m : TaskMeta) : TaskMeta :=
  let routineWrite := fun m => r.routine.finalFields r.plan m m
  match order with
  | .routineFirst => r.callback.update (routineWrite m)
  | .callbackFirst => routineWrite (r.callback.update m)

/-- The meta records every enqueued child with its device count, and plans for them all. -/
structure RecordsAll (enqueued : List NewChild) (m : TaskMeta) : Prop where
  recorded : ∀ c ∈ enqueued, c.taskId ∈ m.childIds
  counted : ∀ c ∈ enqueued, m.childTaskDeviceCount c.taskId = some c.deviceCount
  planned : enqueued.length ≤ m.totalTasks

theorem updateCounts_of_mem {counts : TaskId → Option Nat} {new : List NewChild} {c : NewChild}
    (hnd : (new.map (·.taskId)).Nodup) (hc : c ∈ new) :
    updateCounts counts new c.taskId = some c.deviceCount := by
  induction new with
  | nil => cases hc
  | cons d ds ih =>
    obtain ⟨hd, hds⟩ := List.nodup_cons.mp hnd
    simp only [updateCounts, List.find?_cons]
    rcases List.mem_cons.mp hc with rfl | hc
    · simp
    · have hne : d.taskId ≠ c.taskId := fun he =>
        hd (List.mem_map.mpr ⟨c, hc, he.symm⟩)
      simp only [hne, decide_false]
      exact ih hds hc

theorem updateCounts_of_not_mem {counts : TaskId → Option Nat} {new : List NewChild} {id : TaskId}
    (h : id ∉ new.map (·.taskId)) : updateCounts counts new id = counts id := by
  have hnone : new.find? (fun c => decide (c.taskId = id)) = none :=
    List.find?_eq_none.mpr fun c hc => by
      simpa using fun he : c.taskId = id => h (he ▸ List.mem_map_of_mem hc)
  simp only [updateCounts, hnone]

theorem mem_childIds {m : TaskMeta} {id : TaskId} :
    id ∈ m.childIds ↔ id ∈ m.childTaskIds ∧ id ≠ "" := by
  simp [TaskMeta.childIds]

/-- A list of distinct ids that are all recorded is no longer than the record. -/
theorem length_le_of_recorded {enqueued : List NewChild} {ids : List TaskId}
    (hnd : (enqueued.map (·.taskId)).Nodup) (h : ∀ c ∈ enqueued, c.taskId ∈ ids) :
    enqueued.length ≤ ids.length := by
  have hsub : enqueued.map (·.taskId) ⊆ ids := by
    intro id hid
    obtain ⟨c, hc, rfl⟩ := List.mem_map.mp hid
    exact h c hc
  simpa using (List.subperm_of_subset hnd hsub).length_le

section Merges

variable {old new : List NewChild} {m : TaskMeta}

/-- A merge of new children keeps those already recorded, and records the new ones. -/
theorem RecordsAll.phaseFields (h : RecordsAll old m)
    (hnd : ((old ++ new).map (·.taskId)).Nodup) (hne : ∀ c ∈ new, c.taskId ≠ "")
    (pending : Nat) (message : String) :
    RecordsAll (old ++ new) (phaseFields m new pending message m) := by
  have hdisj := hnd
  rw [List.map_append, List.nodup_append] at hdisj
  have hrec : ∀ c ∈ old ++ new, c.taskId ∈ fromKeys (m.childIds ++ new.map (·.taskId)) := by
    intro c hc
    rw [mem_fromKeys, List.mem_append]
    rcases List.mem_append.mp hc with hc | hc
    · exact .inl (h.recorded c hc)
    · exact .inr (List.mem_map_of_mem hc)
  refine ⟨fun c hc => mem_childIds.mpr ⟨hrec c hc, ?_⟩, fun c hc => ?_, ?_⟩
  · rcases List.mem_append.mp hc with hc | hc
    · exact (mem_childIds.mp (h.recorded c hc)).2
    · exact hne c hc
  · rcases List.mem_append.mp hc with hc | hc
    · have hnot : c.taskId ∉ new.map (·.taskId) := fun hin =>
        hdisj.2.2 _ (List.mem_map_of_mem hc) _ hin rfl
      exact (updateCounts_of_not_mem hnot).trans (h.counted c hc)
    · exact updateCounts_of_mem hdisj.2.1 hc
  · have hlen := length_le_of_recorded hnd hrec
    simp only [Bulk.phaseFields]
    omega

/-- The final write of a merging routine keeps the children already recorded. -/
theorem RecordsAll.finalFields {r : Routine} (hr : r.merges = true) {p : Plan}
    (h : RecordsAll old m) (hnd : ((p.children ++ old).map (·.taskId)).Nodup)
    (hne : ∀ c ∈ p.children, c.taskId ≠ "") (m' : TaskMeta) :
    RecordsAll (p.children ++ old) (r.finalFields p m m') := by
  have hdisj := hnd
  rw [List.map_append, List.nodup_append] at hdisj
  have hrec : ∀ c ∈ p.children ++ old, c.taskId ∈
      fromKeys ((p.children.map (·.taskId)).filter (· ≠ "") ++ m.childIds) := by
    intro c hc
    rw [mem_fromKeys, List.mem_append]
    rcases List.mem_append.mp hc with hc | hc
    · exact .inl (List.mem_filter.mpr ⟨List.mem_map_of_mem hc, by simpa using hne c hc⟩)
    · exact .inr (h.recorded c hc)
  refine ⟨fun c hc => mem_childIds.mpr ⟨?_, ?_⟩, fun c hc => ?_, ?_⟩
  · simp only [Routine.finalFields, Routine.recorded, hr, ↓reduceIte]
    exact hrec c hc
  · rcases List.mem_append.mp hc with hc | hc
    · exact hne c hc
    · exact (mem_childIds.mp (h.recorded c hc)).2
  · simp only [Routine.finalFields, Routine.recorded, hr, ↓reduceIte, mergeExistingBulkChildren]
    rcases List.mem_append.mp hc with hc | hc
    · exact updateCounts_of_mem hdisj.1 hc
    · have hnot : c.taskId ∉ p.children.map (·.taskId) := fun hin =>
        hdisj.2.2 _ hin _ (List.mem_map_of_mem hc) rfl
      exact (updateCounts_of_not_mem hnot).trans (h.counted c hc)
  · have hlen := length_le_of_recorded hnd hrec
    simp only [Routine.finalFields, Routine.recorded, hr, ↓reduceIte, mergeExistingBulkChildren]
    omega

theorem RecordsAll.empty (m : TaskMeta) : RecordsAll [] m where
  recorded c hc := by cases hc
  counted c hc := by cases hc
  planned := Nat.zero_le _

/-- Every routine records the children that it has enqueued itself. -/
theorem recordsAll_finalFields (r : Routine) {p : Plan}
    (hnd : (p.children.map (·.taskId)).Nodup) (hne : ∀ c ∈ p.children, c.taskId ≠ "")
    (m m' : TaskMeta) : RecordsAll p.children (r.finalFields p m m') := by
  by_cases hr : r.merges = true
  · have h := (RecordsAll.empty m).finalFields hr (p := p) (by simpa using hnd) hne m'
    simpa using h
  · refine ⟨fun c hc => mem_childIds.mpr ⟨?_, hne c hc⟩, fun c hc => ?_, ?_⟩
    · simpa [Routine.finalFields, Routine.recorded, hr] using ⟨c, hc, rfl⟩
    · simpa [Routine.finalFields, Routine.recorded, hr] using updateCounts_of_mem hnd hc
    · simp [Routine.finalFields, Routine.recorded, hr, Plan.totalTasks]

end Merges

variable (r : Race)

theorem Race.plan_nodup : (r.plan.children.map (·.taskId)).Nodup := by
  have h := r.ids_nodup
  rw [List.map_append, List.nodup_append] at h
  exact h.1

/-- The callback's update records what the callback has enqueued, on top of `old`. -/
theorem Race.recordsAll_callback {old : List NewChild} {m : TaskMeta} (h : RecordsAll old m)
    (hnd : ((old ++ r.callback.new).map (·.taskId)).Nodup) :
    RecordsAll (old ++ r.callback.new) (r.callback.update m) := by
  rcases jumpCallback_cases r.stop r.plan.jump r.plan.vpn r.fresh with ⟨hnew, hsame⟩ | ⟨n, msg, hup⟩
  · obtain ⟨h1, h2, h3⟩ := hsame m
    have hnew' : r.callback.new = [] := hnew
    rw [hnew', List.append_nil]
    refine ⟨fun c hc => ?_, fun c hc => ?_, ?_⟩
    · have hrec := h.recorded c hc
      rw [mem_childIds] at hrec ⊢
      rwa [← h1] at hrec
    · exact (congrFun h2 _).trans (h.counted c hc)
    · exact h.planned.trans_eq h3.symm
  · have hup' : r.callback.update m = Bulk.phaseFields m r.callback.new n msg m := hup m
    rw [hup']
    exact h.phaseFields hnd (fun c hc => r.ids_nonempty c (List.mem_append_right _ hc)) n msg

/-- The callback finds a stop, or neither a jump device nor a VPN group to enqueue. -/
def Race.NothingDeferred (r : Race) : Prop :=
  r.stop = true ∨ (jumpEntries r.plan.jump = [] ∧ phaseGroups r.plan.vpn = [])

/-- **No enqueued child is forgotten** exactly when the routine merges, or writes first, or
the callback has nothing to enqueue. -/
theorem children_kept_iff (r : Race) (order : WriteOrder) (m : TaskMeta) :
    RecordsAll r.enqueued (r.outcome order m) ↔
      r.routine.merges = true ∨ order = .routineFirst ∨ r.NothingDeferred := by
  have hnothing : r.NothingDeferred ↔ r.callback.new = [] :=
    (jumpCallback_new_eq_nil r.stop r.plan.jump r.plan.vpn r.fresh).symm
  rw [hnothing]
  have hne : ∀ c ∈ r.plan.children, c.taskId ≠ "" := fun c hc =>
    r.ids_nonempty c (List.mem_append_left _ hc)
  constructor
  · intro h
    by_contra hno
    simp only [not_or, Bool.not_eq_true] at hno
    obtain ⟨hmerges, horder, hnew⟩ := hno
    obtain ⟨c, hc⟩ := List.exists_mem_of_ne_nil _ hnew
    cases order with
    | routineFirst => exact horder rfl
    | callbackFirst =>
      -- the follow-up has written only its own ids, and the callback's are not among them
      have hrec := (mem_childIds.mp (h.recorded c (List.mem_append_right _ hc))).1
      simp only [Race.outcome, Routine.finalFields, Routine.recorded, hmerges,
        Bool.false_eq_true, ↓reduceIte] at hrec
      have hnd := r.ids_nodup
      rw [List.map_append, List.nodup_append] at hnd
      exact hnd.2.2 _ hrec _ (List.mem_map_of_mem hc) rfl
  · intro h
    cases order with
    | routineFirst =>
      exact r.recordsAll_callback (recordsAll_finalFields _ r.plan_nodup hne _ _) r.ids_nodup
    | callbackFirst =>
      have hnd := r.ids_nodup
      by_cases hnew : r.callback.new = []
      · rw [Race.enqueued, hnew, List.append_nil]
        exact recordsAll_finalFields _ r.plan_nodup hne _ _
      · have hmerges : r.routine.merges = true := by
          rcases h with h | h | h
          · exact h
          · cases h
          · exact absurd h hnew
        have hcb : RecordsAll r.callback.new (r.callback.update m) := by
          have hn : (([] ++ r.callback.new).map NewChild.taskId).Nodup := by
            rw [List.map_append, List.nodup_append] at hnd
            exact hnd.2.1
          simpa using r.recordsAll_callback (RecordsAll.empty m) hn
        exact hcb.finalFields hmerges hnd hne _

/-- A follow-up with one direct device and one jump device. -/
def followupRace : Race where
  routine := .runBulkTransientFollowup
  plan :=
    { tenantId := "t", phasedDeferred := true, eligibleDevices := 2
      children := [{ taskId := "device-direct-1", deviceId := "a", deviceIds := ["a"] }]
      jump := [{ groupId := "g", deviceIds := ["b"] }] }
  stop := false
  fresh _ := "jump-1"
  ids_nodup := by decide
  ids_nonempty := by decide

/-- The callback runs before the follow-up writes its meta: its jump device is forgotten. -/
theorem followup_forgets_jump_child :
    ¬ ∀ (r : Race) (order : WriteOrder) (m : TaskMeta),
      RecordsAll r.enqueued (r.outcome order m) := by
  intro hall
  have h := (hall followupRace .callbackFirst {}).recorded
    { taskId := "jump-1", deviceId := "b", deviceName := "Jump Host g", groupId := "g"
      deviceIds := ["b"] } (by decide)
  exact absurd h (by decide)

end BackupCenter.Bulk
