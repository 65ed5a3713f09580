import BackupCenter.Tasks.Meta
import Mathlib.Algebra.BigOperators.Group.List.Basic
import Mathlib.Algebra.Order.Ring.Nat
import Mathlib.Data.List.Dedup
import Mathlib.Data.List.Nodup

/-!
# The phases of a bulk backup

A phased batch first runs its direct children; a callback then enqueues the jump-host
devices one by one, and another one the VPN groups. Each of them merges the children
that it has enqueued into the batch meta.
-/
namespace BackupCenter.Bulk

open BackupCenter.Lib BackupCenter.Tasks

/-- `dict.fromkeys`: the first occurrence of every element, in order. -/
def fromKeys : List TaskId → List TaskId
  | [] => []
  | x :: xs => x :: (fromKeys xs).filter (· ≠ x)

@[simp] theorem mem_fromKeys {x : TaskId} {xs : List TaskId} : x ∈ fromKeys xs ↔ x ∈ xs := by
  induction xs with
  | nil => simp [fromKeys]
  | cons y ys ih =>
    simp only [fromKeys, List.mem_cons, List.mem_filter, ih, decide_eq_true_eq]
    by_cases h : x = y <;> simp [h]

theorem nodup_fromKeys (xs : List TaskId) : (fromKeys xs).Nodup := by
  induction xs with
  | nil => exact List.nodup_nil
  | cons x xs ih =>
    refine List.nodup_cons.mpr ⟨by simp, ih.filter _⟩

/-- One group of a phase, as the enqueuing routine hands it to the callback. -/
structure GroupPayload where
  groupId : String
  groupName : String := ""
  deviceIds : List DeviceId
  forceVpn : Bool := false
  deriving Repr, DecidableEq

/-- The groups that a callback does not skip. -/
def phaseGroups (payload : List GroupPayload) : List GroupPayload :=
  payload.filter fun g => strip g.groupId ≠ "" ∧ g.deviceIds ≠ []

/-- The devices of the jump phase with their groups; a device seen before is skipped. -/
def jumpEntries (payload : List GroupPayload) : List (DeviceId × GroupPayload) :=
  (phaseGroups payload).foldl (fun entries g =>
    entries ++ ((sortedSet g.deviceIds).filter fun d => !(entries.map Prod.fst).contains d).map
      (·, g)) []

/-- A child that a routine has enqueued. -/
structure NewChild where
  taskId : TaskId
  deviceId : DeviceId := ""
  deviceName : String := ""
  groupId : String := ""
  deviceIds : List DeviceId
  deriving Repr, DecidableEq

def NewChild.deviceCount (c : NewChild) : Nat := c.deviceIds.length

/-- One task for each device; `fresh` yields the new task ids. -/
def jumpChildren (payload : List GroupPayload) (fresh : Nat → TaskId) : List NewChild :=
  (jumpEntries payload).zipIdx.map fun (e, i) =>
    let groupName := strip (if e.2.groupName ≠ "" then e.2.groupName else strip e.2.groupId)
    { taskId := fresh i, deviceId := e.1, deviceName := s!"Jump Host {groupName}"
      groupId := strip e.2.groupId, deviceIds := [e.1] }

/-- One task for each group. -/
def vpnChildren (payload : List GroupPayload) (fresh : Nat → TaskId) : List NewChild :=
  (phaseGroups payload).zipIdx.map fun (g, i) =>
    let groupId := strip g.groupId
    { taskId := fresh i, deviceName := s!"Grupo VPN {groupId}"
      groupId := groupId, deviceIds := sortedSet g.deviceIds }

/-- `counts.update(...)` with the device counts of the new children. -/
def updateCounts (counts : TaskId → Option Nat) (new : List NewChild) : TaskId → Option Nat :=
  fun id => match new.find? (·.taskId = id) with
    | some c => some c.deviceCount
    | none => counts id

/-- The fields that a phase callback writes, computed from the meta it has read. -/
def phaseFields (current : TaskMeta) (new : List NewChild) (pending : Nat) (message : String)
    (m : TaskMeta) : TaskMeta :=
  let merged := fromKeys (current.childIds ++ new.map (·.taskId))
  { m with
    childTaskIds := merged
    childTaskDeviceCount := updateCounts current.childTaskDeviceCount new
    totalTasks := max current.totalTasks (merged.length + pending)
    status := some .running
    message := message }

def jumpMessage (jump : List NewChild) (groups pendingVpn : Nat) : String :=
  s!"Fase Jump Host iniciada com {jump.length} dispositivo(s) em {groups} grupo(s). " ++
    s!"Fase VPN pendente: {pendingVpn} grupo(s)."

def vpnMessage (vpn : List NewChild) : String :=
  s!"Fase direta concluida. {vpn.length} grupo(s) VPN enfileirado(s) para a fase final."

/-- The fields written by a callback that finds a stop. -/
def stoppedFields (message : String) (m : TaskMeta) : TaskMeta :=
  { m with status := some .stopping, message := message }

/-- The fields that a cancel request writes. -/
def cancelFields (forced : List TaskId) (now : Timestamp) (m : TaskMeta) : TaskMeta :=
  { m with
    cancelRequested := true
    status := some .stopping
    completed := false
    message := "Solicitacao de parada recebida. Interrompendo tasks em andamento..."
    forceCancelledChildIds := forced
    cancelRequestedAt := some now }

/-! ## Payloads of the enqueuing routines -/

/-- What the enqueuing routines make sure of when they hand over a phase: every group has
an id and devices, and no device is in two groups. -/
structure WellFormedPayload (payload : List GroupPayload) : Prop where
  named : ∀ g ∈ payload, strip g.groupId ≠ ""
  inhabited : ∀ g ∈ payload, g.deviceIds ≠ []
  distinct : (payload.flatMap (·.deviceIds)).Nodup

/-- The number of devices of a payload. -/
def payloadDevices (payload : List GroupPayload) : Nat :=
  (payload.map fun g => g.deviceIds.length).sum

variable {payload : List GroupPayload}

theorem phaseGroups_eq (h : WellFormedPayload payload) : phaseGroups payload = payload :=
  List.filter_eq_self.mpr fun g hg => by
    simpa using ⟨h.named g hg, h.inhabited g hg⟩

/-- With distinct devices, the loop over the groups enters every device once. -/
theorem length_jumpLoop (groups : List GroupPayload) (entries : List (DeviceId × GroupPayload))
    (h : (entries.map Prod.fst ++ groups.flatMap (·.deviceIds)).Nodup) :
    (groups.foldl (fun entries g =>
      entries ++ ((sortedSet g.deviceIds).filter fun d => !(entries.map Prod.fst).contains d).map
        (·, g)) entries).length = entries.length + payloadDevices groups := by
  induction groups generalizing entries with
  | nil => simp [payloadDevices]
  | cons g gs ih =>
    obtain ⟨hold, hall, hdisj⟩ := List.nodup_append.mp h
    rw [List.flatMap_cons] at hall hdisj
    obtain ⟨hg, hgs, hcross⟩ := List.nodup_append.mp hall
    have hkeep : (sortedSet g.deviceIds).filter
        (fun d => !(entries.map Prod.fst).contains d) = sortedSet g.deviceIds := by
      apply List.filter_eq_self.mpr
      intro d hd
      have hmem : d ∈ g.deviceIds := mem_sortedSet.mp hd
      have hnot : d ∉ entries.map Prod.fst := fun hin =>
        hdisj d hin d (List.mem_append_left _ hmem) rfl
      simpa using hnot
    rw [List.foldl_cons, hkeep, ih]
    · have hlen : (sortedSet g.deviceIds).length = g.deviceIds.length := by
        rw [length_sortedSet, List.dedup_eq_self.mpr hg]
      simp only [List.length_append, List.length_map, hlen, payloadDevices, List.map_cons,
        List.sum_cons]
      omega
    · have hfst : (entries ++ (sortedSet g.deviceIds).map (·, g)).map Prod.fst =
          entries.map Prod.fst ++ sortedSet g.deviceIds := by
        simp [Function.comp_def]
      rw [hfst, List.append_assoc]
      refine List.nodup_append.mpr ⟨hold, List.nodup_append.mpr ⟨?_, hgs, ?_⟩, ?_⟩
      · exact (List.perm_insertionSort _ _).nodup_iff.mpr (List.nodup_dedup _)
      · exact fun d hd e he => hcross d (mem_sortedSet.mp hd) e he
      · intro d hd e he
        apply hdisj d hd e
        rcases List.mem_append.mp he with he | he
        · exact List.mem_append_left _ (mem_sortedSet.mp he)
        · exact List.mem_append_right _ he

theorem length_jumpChildren (h : WellFormedPayload payload) (fresh : Nat → TaskId) :
    (jumpChildren payload fresh).length = payloadDevices payload := by
  have hloop := length_jumpLoop payload [] (by simpa using h.distinct)
  simp only [jumpChildren, List.length_map, List.length_zipIdx, jumpEntries, phaseGroups_eq h]
  simpa using hloop

theorem length_vpnChildren (h : WellFormedPayload payload) (fresh : Nat → TaskId) :
    (vpnChildren payload fresh).length = payload.length := by
  simp only [vpnChildren, List.length_map, List.length_zipIdx, phaseGroups_eq h]

/-- A payload with a group has a device. -/
theorem payloadDevices_pos (h : WellFormedPayload payload) (hne : payload ≠ []) :
    0 < payloadDevices payload := by
  obtain ⟨g, gs, rfl⟩ := List.exists_cons_of_ne_nil hne
  have hg := List.length_pos_iff.mpr (h.inhabited g (List.mem_cons_self ..))
  simp only [payloadDevices, List.map_cons, List.sum_cons]
  omega

end BackupCenter.Bulk
