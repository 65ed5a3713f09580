import BackupCenter.Bulk.PhasedRun

/-!
# How the enqueuing routines group the devices of a phase

A routine puts the devices of a phase into a bucket, one entry for each group, and hands
the sorted entries to the callbacks. Devices with different ids make a well-formed payload,
and the payload plans every one of them, so a routine's own buckets make a phased batch.
-/
namespace BackupCenter.Bulk

open BackupCenter.Lib BackupCenter.Tasks

/-- A device as the buckets look at it; a group id is the text of a UUID. -/
structure GroupedDevice where
  id : DeviceId
  groupId : String
  groupName : Option String
  /-- the subgroup of the device forces the VPN of the group -/
  forceVpn : Bool := false
  plain : strip groupId = groupId
  nonempty : groupId ≠ ""

/-- Extends the entry of the device's group, and leaves any other as it is. -/
def GroupedDevice.extend (d : GroupedDevice) (e : GroupPayload) : GroupPayload :=
  if e.groupId = d.groupId then
    { e with deviceIds := e.deviceIds ++ [d.id], forceVpn := e.forceVpn || d.forceVpn }
  else e

@[simp] theorem GroupedDevice.groupId_extend (d : GroupedDevice) (e : GroupPayload) :
    (d.extend e).groupId = e.groupId := by
  unfold extend
  split <;> rfl

theorem GroupedDevice.mem_extend {d : GroupedDevice} {e : GroupPayload} {i : DeviceId}
    (h : i ∈ (d.extend e).deviceIds) : i ∈ e.deviceIds ∨ i = d.id ∧ d.groupId = e.groupId := by
  unfold extend at h
  split at h
  next hgroup =>
    rcases List.mem_append.mp h with h | h
    · exact .inl h
    · exact .inr ⟨List.mem_singleton.mp h, hgroup.symm⟩
  next => exact .inl h

/-- `_append_group_phase_bucket` for a device with a group; the bucket is a dictionary with the
group ids as keys. -/
def appendGroupPhaseBucket (bucket : List GroupPayload) (d : GroupedDevice) : List GroupPayload :=
  if bucket.any fun e => e.groupId = d.groupId then
    bucket.map d.extend
  else
    bucket ++
      [{ groupId := d.groupId, groupName := d.groupName.getD d.groupId, deviceIds := [d.id],
         forceVpn := d.forceVpn }]

def groupPhaseBucket (devices : List GroupedDevice) : List GroupPayload :=
  devices.foldl appendGroupPhaseBucket []

/-- The entry of the payload for an entry of the bucket. -/
def finalizeEntry (e : GroupPayload) : GroupPayload where
  groupId := strip e.groupId
  groupName := strip e.groupName
  deviceIds := sortedSet e.deviceIds
  forceVpn := e.forceVpn

/-- `_finalize_group_phase_payload` -/
def finalizeGroupPhasePayload (env : Env) (bucket : List GroupPayload) : List GroupPayload :=
  ((bucket.insertionSort fun a b => env.lower a.groupName ≤ env.lower b.groupName).map
    finalizeEntry).filter (·.deviceIds ≠ [])

/-- The entries have different groups, and each lists devices of its group. -/
structure BucketOf (devices : List GroupedDevice) (bucket : List GroupPayload) : Prop where
  keys : (bucket.map (·.groupId)).Nodup
  members : ∀ e ∈ bucket, ∀ i ∈ e.deviceIds, ∃ d ∈ devices, d.id = i ∧ d.groupId = e.groupId

theorem BucketOf.append {devices : List GroupedDevice} {bucket : List GroupPayload}
    (h : BucketOf devices bucket) (d : GroupedDevice) :
    BucketOf (devices ++ [d]) (appendGroupPhaseBucket bucket d) := by
  have hold : ∀ e ∈ bucket, ∀ i ∈ e.deviceIds,
      ∃ a ∈ devices ++ [d], a.id = i ∧ a.groupId = e.groupId := by
    intro e he i hi
    obtain ⟨a, ha, hai⟩ := h.members e he i hi
    exact ⟨a, List.mem_append_left _ ha, hai⟩
  have hself : d ∈ devices ++ [d] := List.mem_append_right _ (List.mem_singleton_self d)
  unfold appendGroupPhaseBucket
  split
  next hknown =>
    constructor
    · have hkeys : (bucket.map d.extend).map (·.groupId) = bucket.map (·.groupId) := by
        simp [Function.comp_def]
      exact hkeys ▸ h.keys
    · intro e he i hi
      obtain ⟨e₀, he₀, rfl⟩ := List.mem_map.mp he
      rw [d.groupId_extend]
      rcases d.mem_extend hi with hi | ⟨rfl, hgroup⟩
      · exact hold e₀ he₀ i hi
      · exact ⟨d, hself, rfl, hgroup⟩
  next hnew =>
    constructor
    · rw [List.map_append, List.nodup_append]
      refine ⟨h.keys, List.nodup_singleton _, fun g hg g' hg' => ?_⟩
      obtain ⟨e, he, rfl⟩ := List.mem_map.mp hg
      obtain rfl := List.mem_singleton.mp hg'
      intro hsame
      exact hnew (List.any_eq_true.mpr ⟨e, he, decide_eq_true hsame⟩)
    · intro e he i hi
      rcases List.mem_append.mp he with he | he
      · exact hold e he i hi
      · obtain rfl := List.mem_singleton.mp he
        exact ⟨d, hself, (List.mem_singleton.mp hi).symm, rfl⟩

theorem bucketOf_groupPhaseBucket (devices : List GroupedDevice) :
    BucketOf devices (groupPhaseBucket devices) := by
  have hfold : ∀ (rest seen : List GroupedDevice) (bucket : List GroupPayload),
      BucketOf seen bucket →
        BucketOf (seen ++ rest) (rest.foldl appendGroupPhaseBucket bucket) := by
    intro rest
    induction rest with
    | nil =>
      intro seen bucket h
      simpa using h
    | cons d ds ih =>
      intro seen bucket h
      have hnext := ih (seen ++ [d]) _ (h.append d)
      rwa [List.append_assoc, List.singleton_append] at hnext
  exact hfold devices [] [] ⟨List.nodup_nil, nofun⟩

/-- Entries of different groups share no device. -/
theorem BucketOf.disjoint {devices : List GroupedDevice} {bucket : List GroupPayload}
    (h : BucketOf devices bucket) (hids : (devices.map GroupedDevice.id).Nodup)
    {e e' : GroupPayload} (he : e ∈ bucket) (he' : e' ∈ bucket) (hne : e.groupId ≠ e'.groupId) :
    List.Disjoint e.deviceIds e'.deviceIds := by
  intro i hi hi'
  obtain ⟨d, hd, hid, hgroup⟩ := h.members e he i hi
  obtain ⟨d', hd', hid', hgroup'⟩ := h.members e' he' i hi'
  have hsame : d = d' := List.inj_on_of_nodup_map hids hd hd' (hid.trans hid'.symm)
  exact hne (hgroup.symm.trans (hsame ▸ hgroup'))

/-- The payload of devices with different ids is well formed. -/
theorem wellFormed_finalizeGroupPhasePayload (env : Env) (devices : List GroupedDevice)
    (hids : (devices.map GroupedDevice.id).Nodup) :
    WellFormedPayload (finalizeGroupPhasePayload env (groupPhaseBucket devices)) := by
  have hb := bucketOf_groupPhaseBucket devices
  have hentry : ∀ g ∈ finalizeGroupPhasePayload env (groupPhaseBucket devices),
      g.deviceIds ≠ [] ∧ g.deviceIds.Nodup ∧
      ∀ i ∈ g.deviceIds, ∃ d ∈ devices, d.id = i ∧ d.groupId = g.groupId := by
    intro g hg
    obtain ⟨hmem, hne⟩ := List.mem_filter.mp hg
    obtain ⟨e, he, rfl⟩ := List.mem_map.mp hmem
    have hbucket : e ∈ groupPhaseBucket devices := (List.mem_insertionSort _).mp he
    refine ⟨of_decide_eq_true hne, ?_, fun i hi => ?_⟩
    · exact (List.perm_insertionSort _ _).nodup_iff.mpr (List.nodup_dedup _)
    · obtain ⟨d, hd, hid, hgroup⟩ := hb.members e hbucket i (mem_sortedSet.mp hi)
      refine ⟨d, hd, hid, ?_⟩
      show d.groupId = strip e.groupId
      rw [← hgroup, d.plain]
  refine ⟨fun g hg => ?_, fun g hg => (hentry g hg).1, ?_⟩
  · obtain ⟨hne, -, hmem⟩ := hentry g hg
    obtain ⟨i, hi⟩ := List.exists_mem_of_ne_nil _ hne
    obtain ⟨d, -, -, hgroup⟩ := hmem i hi
    rw [← hgroup, d.plain]
    exact d.nonempty
  · refine List.nodup_flatMap.mpr ⟨fun g hg => (hentry g hg).2.1, List.Pairwise.filter _ ?_⟩
    have hsorted := List.perm_insertionSort
      (fun a b : GroupPayload => env.lower a.groupName ≤ env.lower b.groupName)
      (groupPhaseBucket devices)
    have hkeys := List.pairwise_map.mp ((hsorted.map (·.groupId)).nodup_iff.mpr hb.keys)
    refine List.pairwise_map.mpr (hkeys.imp_of_mem fun {e e'} he he' hne => ?_)
    intro i hi hi'
    exact hb.disjoint hids (hsorted.mem_iff.mp he) (hsorted.mem_iff.mp he') hne
      (mem_sortedSet.mp hi) (mem_sortedSet.mp hi')

/-! ## Every deferred device is planned -/

/-- In a bucket with different groups, exactly one entry is extended. -/
theorem perm_map_extend (d : GroupedDevice) (bucket : List GroupPayload)
    (hkeys : (bucket.map (·.groupId)).Nodup) (hknown : ∃ e ∈ bucket, e.groupId = d.groupId) :
    ((bucket.map d.extend).flatMap (·.deviceIds)).Perm
      (d.id :: bucket.flatMap (·.deviceIds)) := by
  induction bucket with
  | nil => simp at hknown
  | cons e es ih =>
    rw [List.map_cons, List.nodup_cons] at hkeys
    rw [List.map_cons, List.flatMap_cons, List.flatMap_cons]
    by_cases hgroup : e.groupId = d.groupId
    · have hrest : es.map d.extend = es := by
        refine (List.map_congr_left fun a ha => ?_).trans (List.map_id es)
        have hother : a.groupId ≠ d.groupId := by
          intro hsame
          exact hkeys.1 (hgroup ▸ hsame ▸ List.mem_map_of_mem ha)
        exact if_neg hother
      have hentry : (d.extend e).deviceIds = e.deviceIds ++ [d.id] := by
        rw [GroupedDevice.extend, if_pos hgroup]
      rw [hrest, hentry, List.append_assoc, List.singleton_append]
      exact List.perm_middle
    · have hentry : d.extend e = e := if_neg hgroup
      have htail : ∃ a ∈ es, a.groupId = d.groupId := by
        obtain ⟨a, ha, hsame⟩ := hknown
        rcases List.mem_cons.mp ha with rfl | ha
        · exact absurd hsame hgroup
        · exact ⟨a, ha, hsame⟩
      rw [hentry]
      exact ((ih hkeys.2 htail).append_left e.deviceIds).trans List.perm_middle

theorem perm_appendGroupPhaseBucket {devices : List GroupedDevice} {bucket : List GroupPayload}
    (h : BucketOf devices bucket) (d : GroupedDevice) :
    ((appendGroupPhaseBucket bucket d).flatMap (·.deviceIds)).Perm
      (d.id :: bucket.flatMap (·.deviceIds)) := by
  unfold appendGroupPhaseBucket
  split
  next hknown =>
    obtain ⟨e, he, hsame⟩ := List.any_eq_true.mp hknown
    exact perm_map_extend d bucket h.keys ⟨e, he, of_decide_eq_true hsame⟩
  next hnew =>
    rw [List.flatMap_append, List.flatMap_singleton]
    exact List.perm_append_singleton d.id _

/-- The bucket lists every device once. -/
theorem perm_groupPhaseBucket (devices : List GroupedDevice) :
    ((groupPhaseBucket devices).flatMap (·.deviceIds)).Perm (devices.map GroupedDevice.id) := by
  induction devices using List.reverseRecOn with
  | nil => rfl
  | append_singleton ds d ih =>
    have hb := bucketOf_groupPhaseBucket ds
    have hstep : groupPhaseBucket (ds ++ [d]) = appendGroupPhaseBucket (groupPhaseBucket ds) d := by
      rw [groupPhaseBucket, List.foldl_append]
      rfl
    rw [hstep, List.map_append, List.map_singleton]
    have hnew := (perm_appendGroupPhaseBucket hb d).trans (ih.cons d.id)
    exact hnew.trans (List.perm_append_singleton d.id _).symm

/-- Leaving out the empty entries, and repetitions where there are none, loses no device. -/
theorem payloadDevices_map_finalizeEntry (bucket : List GroupPayload)
    (h : ∀ e ∈ bucket, e.deviceIds.Nodup) :
    payloadDevices ((bucket.map finalizeEntry).filter (·.deviceIds ≠ [])) =
      (bucket.flatMap (·.deviceIds)).length := by
  induction bucket with
  | nil => rfl
  | cons e es ih =>
    have hlen : (finalizeEntry e).deviceIds.length = e.deviceIds.length := by
      show (sortedSet e.deviceIds).length = _
      rw [length_sortedSet, List.dedup_eq_self.mpr (h e (List.mem_cons_self ..))]
    have hes := ih fun a ha => h a (List.mem_cons_of_mem _ ha)
    rw [List.map_cons, List.flatMap_cons, List.length_append, ← hes, ← hlen]
    unfold payloadDevices
    by_cases hempty : (finalizeEntry e).deviceIds = []
    · simp [hempty]
    · simp [hempty]

/-- The payload plans every device once. -/
theorem payloadDevices_finalizeGroupPhasePayload (env : Env) (devices : List GroupedDevice)
    (hids : (devices.map GroupedDevice.id).Nodup) :
    payloadDevices (finalizeGroupPhasePayload env (groupPhaseBucket devices)) =
      devices.length := by
  have hperm := perm_groupPhaseBucket devices
  have hnodup : ∀ e ∈ groupPhaseBucket devices, e.deviceIds.Nodup :=
    (List.nodup_flatMap.mp (hperm.nodup_iff.mpr hids)).1
  have hsorted := List.perm_insertionSort
    (fun a b : GroupPayload => env.lower a.groupName ≤ env.lower b.groupName)
    (groupPhaseBucket devices)
  unfold finalizeGroupPhasePayload
  rw [payloadDevices_map_finalizeEntry _ fun e he => hnodup e (hsorted.mem_iff.mp he)]
  calc _ = ((groupPhaseBucket devices).flatMap (·.deviceIds)).length :=
        (hsorted.flatMap_right _).length_eq
    _ = (devices.map GroupedDevice.id).length := hperm.length_eq
    _ = devices.length := List.length_map _

/-- The jump callback enqueues one task for each device behind a jump host. -/
theorem length_jumpChildren_groupPhaseBucket (env : Env) (devices : List GroupedDevice)
    (hids : (devices.map GroupedDevice.id).Nodup) (fresh : Nat → TaskId) :
    (jumpChildren (finalizeGroupPhasePayload env (groupPhaseBucket devices)) fresh).length =
      devices.length := by
  rw [length_jumpChildren (wellFormed_finalizeGroupPhasePayload env devices hids),
    payloadDevices_finalizeGroupPhasePayload env devices hids]

theorem finalizeGroupPhasePayload_eq_nil (env : Env) (devices : List GroupedDevice)
    (hids : (devices.map GroupedDevice.id).Nodup) :
    finalizeGroupPhasePayload env (groupPhaseBucket devices) = [] ↔ devices = [] := by
  constructor
  · intro h
    have hcount := payloadDevices_finalizeGroupPhasePayload env devices hids
    rw [h] at hcount
    exact List.length_eq_zero_iff.mp hcount.symm
  · rintro rfl
    rfl

/-- What a routine has found: its direct children, and the devices of the deferred phases. -/
structure PhasedDevices where
  routine : Routine
  /-- The plan of the direct phase. -/
  plan : Plan
  jump : List GroupedDevice
  vpn : List GroupedDevice
  jump_ids : (jump.map GroupedDevice.id).Nodup
  vpn_ids : (vpn.map GroupedDevice.id).Nodup
  ids_nodup : (plan.children.map NewChild.taskId).Nodup
  ids_nonempty : ∀ c ∈ plan.children, c.taskId ≠ ""
  nonempty : plan.children ≠ [] ∨ jump ≠ [] ∨ vpn ≠ []

namespace PhasedDevices

variable (env : Env) (devices : PhasedDevices)

def jumpPayload : List GroupPayload :=
  finalizeGroupPhasePayload env (groupPhaseBucket devices.jump)

def vpnPayload : List GroupPayload :=
  finalizeGroupPhasePayload env (groupPhaseBucket devices.vpn)

/-- The plan with its deferred phases. -/
def phasedPlan : Plan :=
  { devices.plan with
    jump := devices.jumpPayload env
    vpn := devices.vpnPayload env
    phasedDeferred := devices.jumpPayload env ≠ [] ∨ devices.vpnPayload env ≠ [] }

/-- A task for each direct child, each device behind a jump host and each VPN group. -/
theorem totalTasks_phasedPlan :
    (devices.phasedPlan env).totalTasks =
      devices.plan.children.length + devices.jump.length + (devices.vpnPayload env).length := by
  have hjump : payloadDevices (devices.jumpPayload env) = devices.jump.length :=
    payloadDevices_finalizeGroupPhasePayload env devices.jump devices.jump_ids
  show devices.plan.children.length + (if decide (devices.jumpPayload env ≠ [] ∨
    devices.vpnPayload env ≠ []) = true then payloadDevices (devices.jumpPayload env) +
      (devices.vpnPayload env).length else 0) = _
  split
  next => rw [hjump, Nat.add_assoc]
  next hnone =>
    simp only [decide_eq_true_eq, not_or, not_not] at hnone
    have hnojump := (finalizeGroupPhasePayload_eq_nil env devices.jump devices.jump_ids).mp hnone.1
    rw [hnojump, hnone.2]
    rfl

/-- What a routine plans from its devices is a phased batch. -/
def batch : PhasedBatch where
  routine := devices.routine
  plan := devices.phasedPlan env
  deferred := rfl
  jump_wf := wellFormed_finalizeGroupPhasePayload env devices.jump devices.jump_ids
  vpn_wf := wellFormed_finalizeGroupPhasePayload env devices.vpn devices.vpn_ids
  ids_nodup := devices.ids_nodup
  ids_nonempty := devices.ids_nonempty
  has_tasks := by
    rw [totalTasks_phasedPlan]
    rcases devices.nonempty with h | h | h
    · have := List.length_pos_iff.mpr h
      omega
    · have := List.length_pos_iff.mpr h
      omega
    · have hvpn : devices.vpnPayload env ≠ [] :=
        (finalizeGroupPhasePayload_eq_nil env devices.vpn devices.vpn_ids).not.mpr h
      have := List.length_pos_iff.mpr hvpn
      omega

end PhasedDevices

end BackupCenter.Bulk
