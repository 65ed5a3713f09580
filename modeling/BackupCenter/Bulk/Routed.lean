import BackupCenter.Bulk.Grouping
import BackupCenter.Lib.UuidText
import BackupCenter.Tenants.ConnectionMode

/-!
# The routing loop of a bulk backup

The route over all devices and the automatic follow-up sort the devices into the phases of a batch,
each with helpers of its own: devices with a tunnel and devices behind a jump host by group, and
the direct ones by group too, unless the batch is about one group only.
-/
namespace BackupCenter.Bulk

open BackupCenter.Lib BackupCenter.Tasks
open BackupCenter.Tenants (ConnectionMode Database Device DeviceGroup DeviceSubgroup Extra
  deviceConnectionOverride getEffectiveConnectionType groupUsesVpnTunnel isTruthy orElse orText)

/-! ## Lookups of the override -/

section Lookups

variable (env : Tenants.Env)

/-- `_normalize_connection_type` -/
def normalizeConnectionType (rawValue : String) : Option ConnectionMode :=
  let raw := env.lower (strip rawValue)
  if raw = "jump" ∨ raw = "jump_host" then some .jumpHost
  else if raw = "direct" then some .direct
  else if raw = "vpn" then some .vpn
  else none

/-- `_normalize_auto_connection_type`, the same text -/
def normalizeAutoConnectionType (rawValue : String) : Option ConnectionMode :=
  normalizeConnectionType env rawValue

/-- `_device_subgroup_connection_type` -/
def deviceSubgroupConnectionType (subgroup : Option DeviceSubgroup)
    (extraParameters : Option Extra) : Option ConnectionMode :=
  match (subgroup.filter DeviceSubgroup.isActive).bind fun g =>
      normalizeConnectionType env g.connectionType with
  | some conn => some conn
  | none =>
    let extra := extraParameters.getD []
    if extra = [] then none
    else
      let modern := extra.lookup "connection_subgroup_type"
      let legacy := extra.lookup "subgroup_connection_type"
      let conn := normalizeConnectionType env (orText (orElse modern legacy))
      let enabled := isTruthy env
        (if (extra.lookup "connection_subgroup_enabled").isSome then
          extra.lookup "connection_subgroup_enabled"
        else extra.lookup "subgroup_connection_enabled")
      conn.filter fun _ => enabled || modern.isSome || legacy.isSome

/-- `_auto_device_subgroup_connection_type` -/
def autoDeviceSubgroupConnectionType (subgroup : Option DeviceSubgroup)
    (extraParameters : Option Extra) : Option ConnectionMode :=
  match (subgroup.filter DeviceSubgroup.isActive).bind fun g =>
      normalizeAutoConnectionType env g.connectionType with
  | some conn => some conn
  | none =>
    let extra := extraParameters.getD []
    let modern := extra.lookup "connection_subgroup_type"
    let legacy := extra.lookup "subgroup_connection_type"
    let conn := normalizeAutoConnectionType env (orText (orElse modern legacy))
    let enabled := isTruthy env
      (if (extra.lookup "connection_subgroup_enabled").isSome then
        extra.lookup "connection_subgroup_enabled"
      else extra.lookup "subgroup_connection_enabled")
    conn.filter fun _ => enabled || modern.isSome || legacy.isSome

theorem normalizeConnectionType_eq (value : String) :
    normalizeConnectionType env value = Tenants.normalizeConnectionTypeValue env value := by
  unfold normalizeConnectionType Tenants.normalizeConnectionTypeValue
  dsimp only
  split_ifs with hjump hdirect hvpn
  · rfl
  · rw [hdirect] at hvpn
    exact absurd hvpn (by decide)
  · rfl
  · rfl
  · rfl

theorem autoDeviceSubgroupConnectionType_eq (subgroup : Option DeviceSubgroup)
    (extraParameters : Option Extra) :
    autoDeviceSubgroupConnectionType env subgroup extraParameters =
      deviceConnectionOverride env subgroup (extraParameters.getD []) := by
  have hnormalize : normalizeConnectionType env = Tenants.normalizeConnectionTypeValue env :=
    funext (normalizeConnectionType_eq env)
  unfold autoDeviceSubgroupConnectionType deviceConnectionOverride normalizeAutoConnectionType
  cases h : (subgroup.filter DeviceSubgroup.isActive).bind fun g =>
      normalizeConnectionType env g.connectionType with
  | some conn =>
    rw [hnormalize] at h
    rw [h]
  | none =>
    rw [hnormalize] at h
    rw [hnormalize, h]

variable {env}

/-- Without any key the lookup of a type finds none. -/
theorem normalizeConnectionTypeValue_empty (hlower : env.lower "" = "") :
    Tenants.normalizeConnectionTypeValue env (orText (orElse none none)) = none := by
  have hraw : env.lower (strip (orText (orElse none none))) = "" := hlower
  unfold Tenants.normalizeConnectionTypeValue
  rw [hraw]
  rfl

theorem deviceSubgroupConnectionType_eq (hlower : env.lower "" = "")
    (subgroup : Option DeviceSubgroup) (extraParameters : Option Extra) :
    deviceSubgroupConnectionType env subgroup extraParameters =
      deviceConnectionOverride env subgroup (extraParameters.getD []) := by
  rw [← autoDeviceSubgroupConnectionType_eq]
  unfold deviceSubgroupConnectionType autoDeviceSubgroupConnectionType normalizeAutoConnectionType
  simp only [normalizeConnectionType_eq]
  cases (subgroup.filter DeviceSubgroup.isActive).bind fun g =>
    Tenants.normalizeConnectionTypeValue env g.connectionType with
  | some conn => rfl
  | none =>
    dsimp only
    split
    · next hextra =>
      simp only [hextra, List.lookup_nil]
      rw [normalizeConnectionTypeValue_empty hlower]
      rfl
    · rfl

end Lookups

/-! ## The loop -/

section Loop

variable (env : Tenants.Env) (db : Database)

/-- `device.group` -/
def groupOf (d : Device) : Option DeviceGroup := d.groupId.bind db.deviceGroups.find

/-- `device.subgroup` -/
def subgroupOf (d : Device) : Option DeviceSubgroup := d.subgroupId.bind db.deviceSubgroups.find

/-- `get_effective_connection_type(group, device=device)` -/
def effectiveConnectionType (d : Device) (group : DeviceGroup) : Option ConnectionMode :=
  getEffectiveConnectionType env (some group) (subgroupOf db d) d.extraParameters

/-- A device with a group, as the buckets look at it. -/
def groupedDevice (d : Device) (group : DeviceGroup) (forceVpn : Bool) : GroupedDevice where
  id := uuidText d.id
  groupId := uuidText group.id
  groupName := some group.name
  forceVpn := forceVpn
  plain := strip_uuidText group.id
  nonempty := uuidText_ne_empty group.id

/-- The dictionaries of the loop. -/
structure PhaseBuckets where
  directByGroup : List GroupPayload := []
  jumpByGroup : List GroupPayload := []
  vpnByGroup : List GroupPayload := []
  directNoGroupDevices : List Device := []

/-- One device of the loop of `run_backup_all`. -/
def routeDevice (singleGroupMode : Bool) (b : PhaseBuckets) (d : Device) : PhaseBuckets :=
  match groupOf db d with
  | none => { b with directNoGroupDevices := b.directNoGroupDevices ++ [d] }
  | some group =>
    let subgroupMode :=
      deviceSubgroupConnectionType env (subgroupOf db d) (some d.extraParameters)
    let forceVpnSubgroup := decide (subgroupMode = some .vpn) && !groupUsesVpnTunnel env group
    if effectiveConnectionType env db d group = some .vpn then
      { b with
        vpnByGroup :=
          appendGroupPhaseBucket b.vpnByGroup (groupedDevice d group forceVpnSubgroup) }
    else if effectiveConnectionType env db d group = some .jumpHost then
      { b with
        jumpByGroup := appendGroupPhaseBucket b.jumpByGroup (groupedDevice d group false) }
    else if singleGroupMode then
      { b with directNoGroupDevices := b.directNoGroupDevices ++ [d] }
    else
      { b with
        directByGroup := appendGroupPhaseBucket b.directByGroup (groupedDevice d group false) }

/-- What the loop hands to the phases. -/
structure PhasePayloads where
  direct : List GroupPayload
  jump : List GroupPayload
  vpn : List GroupPayload
  directNoGroupDevices : List Device

/-- The routing of `run_backup_all` -/
def runBackupAllPhases (singleGroupMode : Bool) (devices : List Device) : PhasePayloads :=
  let b := devices.foldl (routeDevice env db singleGroupMode) {}
  { direct := finalizeGroupPhasePayload { lower := env.lower } b.directByGroup
    jump := finalizeGroupPhasePayload { lower := env.lower } b.jumpByGroup
    vpn := finalizeGroupPhasePayload { lower := env.lower } b.vpnByGroup
    directNoGroupDevices := b.directNoGroupDevices }

/-- `_auto_append_group_phase_bucket`, the same text -/
def autoAppendGroupPhaseBucket (bucket : List GroupPayload) (d : GroupedDevice) :
    List GroupPayload :=
  appendGroupPhaseBucket bucket d

/-- `_auto_finalize_group_phase_payload`, the same text -/
def autoFinalizeGroupPhasePayload (env : Tasks.Env) (bucket : List GroupPayload) :
    List GroupPayload :=
  finalizeGroupPhasePayload env bucket

/-- One device of the loop of the automatic follow-up. -/
def autoRouteDevice (b : PhaseBuckets) (d : Device) : PhaseBuckets :=
  match groupOf db d with
  | none => { b with directNoGroupDevices := b.directNoGroupDevices ++ [d] }
  | some group =>
    let subgroupMode :=
      autoDeviceSubgroupConnectionType env (subgroupOf db d) (some d.extraParameters)
    let forceVpnSubgroup := decide (subgroupMode = some .vpn) && !groupUsesVpnTunnel env group
    if effectiveConnectionType env db d group = some .vpn then
      { b with
        vpnByGroup :=
          autoAppendGroupPhaseBucket b.vpnByGroup (groupedDevice d group forceVpnSubgroup) }
    else if effectiveConnectionType env db d group = some .jumpHost then
      { b with
        jumpByGroup := autoAppendGroupPhaseBucket b.jumpByGroup (groupedDevice d group false) }
    else
      { b with
        directByGroup :=
          autoAppendGroupPhaseBucket b.directByGroup (groupedDevice d group false) }

/-- The routing of the automatic follow-up. -/
def autoFollowupPhases (devices : List Device) : PhasePayloads :=
  let b := devices.foldl (autoRouteDevice env db) {}
  { direct := autoFinalizeGroupPhasePayload { lower := env.lower } b.directByGroup
    jump := autoFinalizeGroupPhasePayload { lower := env.lower } b.jumpByGroup
    vpn := autoFinalizeGroupPhasePayload { lower := env.lower } b.vpnByGroup
    directNoGroupDevices := b.directNoGroupDevices }

/-! ## What the routing promises -/

/-- The phase of a device: the mode of its group and itself, direct without a group. -/
def phaseOf (d : Device) : ConnectionMode :=
  match groupOf db d with
  | none => .direct
  | some group => (effectiveConnectionType env db d group).getD .direct

/-- The device is listed by an entry of its own group. -/
def ListedByGroup (d : Device) (payload : List GroupPayload) : Prop :=
  ∃ group, groupOf db d = some group ∧
    ∃ e ∈ payload, e.groupId = uuidText group.id ∧ uuidText d.id ∈ e.deviceIds

/-- Where the device is to be found. -/
def Placed (singleGroupMode : Bool) (p : PhasePayloads) (d : Device) : Prop :=
  match phaseOf env db d with
  | .vpn => ListedByGroup db d p.vpn
  | .jumpHost => ListedByGroup db d p.jump
  | .direct =>
    if groupOf db d = none ∨ singleGroupMode = true then d ∈ p.directNoGroupDevices
    else ListedByGroup db d p.direct

def listedIds (payload : List GroupPayload) : List DeviceId := payload.flatMap (·.deviceIds)

/-- Every device is in the batch once and where it belongs, and a tunnel is only forced for a device
that needs it while its group does not. -/
structure WellRouted (singleGroupMode : Bool) (devices : List Device) (p : PhasePayloads) :
    Prop where
  once : (listedIds p.direct ++ listedIds p.jump ++ listedIds p.vpn ++
    p.directNoGroupDevices.map fun d => uuidText d.id).Perm (devices.map fun d => uuidText d.id)
  placed : ∀ d ∈ devices, Placed env db singleGroupMode p d
  forced : ∀ e ∈ p.direct ++ p.jump ++ p.vpn, e.forceVpn = true →
    ∃ d ∈ devices, uuidText d.id ∈ e.deviceIds ∧
      deviceConnectionOverride env (subgroupOf db d) d.extraParameters = some .vpn ∧
      ∃ group, groupOf db d = some group ∧ groupUsesVpnTunnel env group = false

end Loop

/-! ## Payloads -/

section Payload

variable {env : Tasks.Env} {ds : List GroupedDevice} {d : GroupedDevice} {e : GroupPayload}

theorem groupPhaseBucket_concat (ds : List GroupedDevice) (d : GroupedDevice) :
    groupPhaseBucket (ds ++ [d]) = appendGroupPhaseBucket (groupPhaseBucket ds) d := by
  unfold groupPhaseBucket
  rw [List.foldl_append, List.foldl_cons, List.foldl_nil]

/-- The entries of a payload are those of the bucket, finished. -/
theorem mem_finalizeGroupPhasePayload {bucket : List GroupPayload} :
    e ∈ finalizeGroupPhasePayload env bucket ↔
      (∃ e₀ ∈ bucket, finalizeEntry e₀ = e) ∧ e.deviceIds ≠ [] := by
  unfold finalizeGroupPhasePayload
  rw [List.mem_filter, decide_eq_true_eq, List.mem_map]
  simp only [List.mem_insertionSort]

/-- A payload lists every device once. -/
theorem perm_listedIds (hids : (ds.map GroupedDevice.id).Nodup) :
    (listedIds (finalizeGroupPhasePayload env (groupPhaseBucket ds))).Perm
      (ds.map GroupedDevice.id) := by
  have hbucket := perm_groupPhaseBucket ds
  have hnodup : ∀ e ∈ groupPhaseBucket ds, e.deviceIds.Nodup :=
    (List.nodup_flatMap.mp (hbucket.nodup_iff.mpr hids)).1
  have hempty : ∀ l : List GroupPayload, listedIds (l.filter (·.deviceIds ≠ [])) = listedIds l := by
    intro l
    induction l with
    | nil => rfl
    | cons e l ih =>
      unfold listedIds at ih ⊢
      by_cases he : e.deviceIds = []
      · simpa [he] using ih
      · simpa [he] using ih
  have hsorted := List.perm_insertionSort
    (fun a b : GroupPayload => env.lower a.groupName ≤ env.lower b.groupName) (groupPhaseBucket ds)
  unfold finalizeGroupPhasePayload
  rw [hempty, listedIds, List.flatMap_map]
  refine (List.Perm.flatMap_left _ fun e he => ?_).trans
    ((hsorted.flatMap_right (·.deviceIds)).trans hbucket)
  show (sortedSet e.deviceIds).Perm e.deviceIds
  unfold sortedSet
  rw [(hnodup e (hsorted.mem_iff.mp he)).dedup]
  exact List.perm_insertionSort ..

/-- A device is listed by an entry of its group. -/
theorem exists_own_entry (hids : (ds.map GroupedDevice.id).Nodup) (hd : d ∈ ds) :
    ∃ e ∈ finalizeGroupPhasePayload env (groupPhaseBucket ds),
      e.groupId = d.groupId ∧ d.id ∈ e.deviceIds := by
  have hlisted : d.id ∈ listedIds (finalizeGroupPhasePayload env (groupPhaseBucket ds)) :=
    (perm_listedIds hids).mem_iff.mpr (List.mem_map_of_mem hd)
  obtain ⟨e, he, hmem⟩ := List.mem_flatMap.mp hlisted
  obtain ⟨⟨e₀, he₀, rfl⟩, -⟩ := mem_finalizeGroupPhasePayload.mp he
  obtain ⟨d', hd', hid, hgroup⟩ :=
    (bucketOf_groupPhaseBucket ds).members e₀ he₀ d.id (mem_sortedSet.mp hmem)
  have hsame : d' = d := List.inj_on_of_nodup_map hids hd' hd hid
  refine ⟨_, he, ?_, hmem⟩
  show strip e₀.groupId = d.groupId
  rw [← hgroup, hsame, d.plain]

/-- Only a device that forces the tunnel makes an entry force it. -/
theorem forced_appendGroupPhaseBucket {bucket : List GroupPayload}
    (h : ∀ e ∈ bucket, e.forceVpn = true → ∃ d ∈ ds, d.id ∈ e.deviceIds ∧ d.forceVpn = true)
    (d : GroupedDevice) :
    ∀ e ∈ appendGroupPhaseBucket bucket d, e.forceVpn = true →
      ∃ d' ∈ ds ++ [d], d'.id ∈ e.deviceIds ∧ d'.forceVpn = true := by
  have hold : ∀ e ∈ bucket, e.forceVpn = true →
      ∃ d' ∈ ds ++ [d], d'.id ∈ e.deviceIds ∧ d'.forceVpn = true := by
    intro e he hforced
    obtain ⟨d', hd', hmem⟩ := h e he hforced
    exact ⟨d', List.mem_append_left _ hd', hmem⟩
  have hself : d ∈ ds ++ [d] := List.mem_append_right _ (List.mem_singleton_self d)
  unfold appendGroupPhaseBucket
  split
  · intro e he hforced
    obtain ⟨e₀, he₀, rfl⟩ := List.mem_map.mp he
    unfold GroupedDevice.extend at hforced ⊢
    split at hforced
    · next hgroup =>
      rw [if_pos hgroup]
      rcases Bool.or_eq_true_iff.mp hforced with hforced | hforced
      · obtain ⟨d', hd', hmem, hforces⟩ := hold e₀ he₀ hforced
        exact ⟨d', hd', List.mem_append_left _ hmem, hforces⟩
      · exact ⟨d, hself, List.mem_append_right _ (List.mem_singleton_self _), hforced⟩
    · next hgroup =>
      rw [if_neg hgroup]
      exact hold e₀ he₀ hforced
  · intro e he hforced
    rcases List.mem_append.mp he with he | he
    · exact hold e he hforced
    · rw [List.mem_singleton.mp he] at hforced ⊢
      exact ⟨d, hself, List.mem_singleton_self _, hforced⟩

theorem forced_groupPhaseBucket (ds : List GroupedDevice) :
    ∀ e ∈ groupPhaseBucket ds, e.forceVpn = true →
      ∃ d ∈ ds, d.id ∈ e.deviceIds ∧ d.forceVpn = true := by
  induction ds using List.reverseRecOn with
  | nil => nofun
  | append_singleton ds d ih =>
    rw [groupPhaseBucket_concat]
    exact forced_appendGroupPhaseBucket ih d

theorem exists_forcing (he : e ∈ finalizeGroupPhasePayload env (groupPhaseBucket ds))
    (hforced : e.forceVpn = true) : ∃ d ∈ ds, d.id ∈ e.deviceIds ∧ d.forceVpn = true := by
  obtain ⟨⟨e₀, he₀, rfl⟩, -⟩ := mem_finalizeGroupPhasePayload.mp he
  obtain ⟨d, hd, hmem, hforces⟩ := forced_groupPhaseBucket ds e₀ he₀ hforced
  exact ⟨d, hd, mem_sortedSet.mpr hmem, hforces⟩

end Payload

/-! ## The loop, all at once -/

section Run

variable {env : Tenants.Env} {db : Database} {singleGroupMode : Bool} {devices : List Device}
  {d : Device} {group : DeviceGroup} {mode : ConnectionMode}

theorem effectiveConnectionType_isSome (env : Tenants.Env) (db : Database) (d : Device)
    (group : DeviceGroup) : (effectiveConnectionType env db d group).isSome = true := by
  unfold effectiveConnectionType getEffectiveConnectionType
  split <;> rfl

theorem phaseOf_of_group (env : Tenants.Env) (h : groupOf db d = some group) :
    effectiveConnectionType env db d group = some (phaseOf env db d) := by
  obtain ⟨mode, hmode⟩ := Option.isSome_iff_exists.mp
    (effectiveConnectionType_isSome env db d group)
  unfold phaseOf
  rw [h]
  dsimp only
  rw [hmode]
  rfl

/-- The override of a device needs the tunnel that its group does not have. -/
def forcesVpn (env : Tenants.Env) (db : Database) (d : Device) (group : DeviceGroup) : Bool :=
  decide (deviceConnectionOverride env (subgroupOf db d) d.extraParameters = some .vpn) &&
    !groupUsesVpnTunnel env group

/-- What a device of this phase puts into the bucket of the phase. -/
def bucketDevice (env : Tenants.Env) (db : Database) (mode : ConnectionMode) (d : Device) :
    Option GroupedDevice :=
  (groupOf db d).bind fun group =>
    if phaseOf env db d = mode then
      some (groupedDevice d group (decide (mode = .vpn) && forcesVpn env db d group))
    else none

/-- A direct device of a batch about one group, or a device without a group. -/
def listedAlone (env : Tenants.Env) (db : Database) (singleGroupMode : Bool) (d : Device) : Bool :=
  (groupOf db d).isNone || (singleGroupMode && decide (phaseOf env db d = .direct))

/-- What a device of the direct phase puts into its bucket. -/
def directDevice (env : Tenants.Env) (db : Database) (singleGroupMode : Bool) (d : Device) :
    Option GroupedDevice :=
  if singleGroupMode then none else bucketDevice env db .direct d

/-- The dictionaries after some devices. -/
def bucketsOf (env : Tenants.Env) (db : Database) (singleGroupMode : Bool)
    (devices : List Device) : PhaseBuckets where
  directByGroup := groupPhaseBucket (devices.filterMap (directDevice env db singleGroupMode))
  jumpByGroup := groupPhaseBucket (devices.filterMap (bucketDevice env db .jumpHost))
  vpnByGroup := groupPhaseBucket (devices.filterMap (bucketDevice env db .vpn))
  directNoGroupDevices := devices.filter (listedAlone env db singleGroupMode)

theorem bucket_concat (f : Device → Option GroupedDevice) (devices : List Device) (d : Device) :
    groupPhaseBucket ((devices ++ [d]).filterMap f) =
      match f d with
      | none => groupPhaseBucket (devices.filterMap f)
      | some g => appendGroupPhaseBucket (groupPhaseBucket (devices.filterMap f)) g := by
  rw [List.filterMap_append]
  cases h : f d with
  | none => rw [List.filterMap_cons_none h, List.filterMap_nil, List.append_nil]
  | some g =>
    rw [List.filterMap_cons_some h, List.filterMap_nil]
    exact groupPhaseBucket_concat _ g

theorem routeDevice_bucketsOf (hlower : env.lower "" = "") (singleGroupMode : Bool)
    (devices : List Device) (d : Device) :
    routeDevice env db singleGroupMode (bucketsOf env db singleGroupMode devices) d =
      bucketsOf env db singleGroupMode (devices ++ [d]) := by
  unfold routeDevice
  rw [deviceSubgroupConnectionType_eq hlower]
  unfold bucketsOf
  simp only [bucket_concat, List.filter_append, List.filter_singleton]
  cases hgroup : groupOf db d with
  | none =>
    simp [directDevice, bucketDevice, listedAlone, hgroup]
  | some group =>
    have hphase := phaseOf_of_group env hgroup
    cases hmode : phaseOf env db d <;> cases singleGroupMode <;>
      simp [directDevice, bucketDevice, listedAlone, forcesVpn, hgroup, hphase, hmode]

theorem foldl_routeDevice (hlower : env.lower "" = "") (singleGroupMode : Bool)
    (devices : List Device) :
    devices.foldl (routeDevice env db singleGroupMode) {} =
      bucketsOf env db singleGroupMode devices := by
  induction devices using List.reverseRecOn with
  | nil => rfl
  | append_singleton devices d ih =>
    rw [List.foldl_append, List.foldl_cons, List.foldl_nil, ih]
    exact routeDevice_bucketsOf hlower singleGroupMode devices d

theorem bucketDevice_eq_some {g : GroupedDevice} (h : bucketDevice env db mode d = some g) :
    ∃ group, groupOf db d = some group ∧ phaseOf env db d = mode ∧
      g = groupedDevice d group (decide (mode = .vpn) && forcesVpn env db d group) := by
  unfold bucketDevice at h
  obtain ⟨group, hgroup, hsome⟩ := Option.bind_eq_some_iff.mp h
  split at hsome
  · next hphase => exact ⟨group, hgroup, hphase, (Option.some.inj hsome).symm⟩
  · cases hsome

theorem directDevice_eq_some {g : GroupedDevice}
    (h : directDevice env db singleGroupMode d = some g) :
    bucketDevice env db .direct d = some g := by
  unfold directDevice at h
  split at h
  · cases h
  · exact h

/-- What is put into a bucket carries the id of its device. -/
theorem ids_sublist {f : Device → Option GroupedDevice}
    (hf : ∀ d g, f d = some g → g.id = uuidText d.id) (devices : List Device) :
    ((devices.filterMap f).map GroupedDevice.id).Sublist
      (devices.map fun d => uuidText d.id) := by
  induction devices with
  | nil => exact .slnil
  | cons d devices ih =>
    cases h : f d with
    | none =>
      rw [List.filterMap_cons_none h]
      exact ih.cons _
    | some g =>
      rw [List.filterMap_cons_some h, List.map_cons, List.map_cons, hf d g h]
      exact ih.cons_cons _

theorem id_bucketDevice (mode : ConnectionMode) :
    ∀ d g, bucketDevice env db mode d = some g → g.id = uuidText d.id := by
  intro d g h
  obtain ⟨group, -, -, rfl⟩ := bucketDevice_eq_some h
  rfl

theorem id_directDevice :
    ∀ d g, directDevice env db singleGroupMode d = some g → g.id = uuidText d.id :=
  fun d g h => id_bucketDevice .direct d g (directDevice_eq_some h)

theorem nodup_texts (hids : (devices.map Device.id).Nodup) :
    (devices.map fun d => uuidText d.id).Nodup := by
  have htexts := hids.map uuidText_injective
  rwa [List.map_map] at htexts

/-- Each device goes into one of the four lists. -/
theorem one_place (env : Tenants.Env) (db : Database) (singleGroupMode : Bool) (d : Device) :
    ((directDevice env db singleGroupMode d).map GroupedDevice.id).toList ++
      ((bucketDevice env db .jumpHost d).map GroupedDevice.id).toList ++
      ((bucketDevice env db .vpn d).map GroupedDevice.id).toList ++
      (if listedAlone env db singleGroupMode d then [uuidText d.id] else []) = [uuidText d.id] := by
  unfold directDevice bucketDevice listedAlone
  cases hgroup : groupOf db d with
  | none => cases singleGroupMode <;> rfl
  | some group =>
    cases hphase : phaseOf env db d <;> cases singleGroupMode <;> rfl

theorem map_id_filterMap (f : Device → Option GroupedDevice) (devices : List Device) :
    (devices.filterMap f).map GroupedDevice.id =
      devices.flatMap fun d => ((f d).map GroupedDevice.id).toList := by
  rw [List.map_filterMap, List.filterMap_eq_flatMap_toList]

theorem perm_places (env : Tenants.Env) (db : Database) (singleGroupMode : Bool)
    (devices : List Device) :
    ((devices.filterMap (directDevice env db singleGroupMode)).map GroupedDevice.id ++
      (devices.filterMap (bucketDevice env db .jumpHost)).map GroupedDevice.id ++
      (devices.filterMap (bucketDevice env db .vpn)).map GroupedDevice.id ++
      (devices.filter (listedAlone env db singleGroupMode)).map fun d => uuidText d.id).Perm
        (devices.map fun d => uuidText d.id) := by
  have halone : ((devices.filter (listedAlone env db singleGroupMode)).map fun d => uuidText d.id) =
      devices.flatMap fun d =>
        if listedAlone env db singleGroupMode d then [uuidText d.id] else [] := by
    induction devices with
    | nil => rfl
    | cons d devices ih =>
      rw [List.flatMap_cons, ← ih]
      cases h : listedAlone env db singleGroupMode d <;> simp [h]
  rw [map_id_filterMap, map_id_filterMap, map_id_filterMap, halone, List.map_eq_flatMap]
  refine (((List.flatMap_append_perm _ _ _).append_right _).append_right _).trans ?_
  refine ((List.flatMap_append_perm _ _ _).append_right _).trans ?_
  refine (List.flatMap_append_perm _ _ _).trans ?_
  rw [List.flatMap_congr fun d _ => one_place env db singleGroupMode d]

/-- The payload of a phase lists its devices by group. -/
theorem listedByGroup_of_bucketDevice {f : Device → Option GroupedDevice} {g : GroupedDevice}
    (hids : (devices.map Device.id).Nodup)
    (hf : ∀ d g, f d = some g → g.id = uuidText d.id) (hd : d ∈ devices) (h : f d = some g)
    (hgroup : groupOf db d = some group) (hg : g.groupId = uuidText group.id) :
    ListedByGroup db d
      (finalizeGroupPhasePayload { lower := env.lower }
        (groupPhaseBucket (devices.filterMap f))) := by
  have hnodup := (nodup_texts hids).sublist (ids_sublist hf devices)
  obtain ⟨e, he, heGroup, hmem⟩ := exists_own_entry hnodup (List.mem_filterMap.mpr ⟨d, hd, h⟩)
  exact ⟨group, hgroup, e, he, heGroup.trans hg, hf d g h ▸ hmem⟩

theorem placed_runBackupAllPhases (hlower : env.lower "" = "")
    (hids : (devices.map Device.id).Nodup) (hd : d ∈ devices) :
    Placed env db singleGroupMode (runBackupAllPhases env db singleGroupMode devices) d := by
  unfold runBackupAllPhases
  rw [foldl_routeDevice hlower]
  unfold Placed bucketsOf
  dsimp only
  have hbucket : ∀ mode group, groupOf db d = some group → phaseOf env db d = mode →
      bucketDevice env db mode d =
        some (groupedDevice d group (decide (mode = .vpn) && forcesVpn env db d group)) := by
    intro mode group hgroup hphase
    unfold bucketDevice
    rw [hgroup, Option.bind_some, if_pos hphase]
  have hnone : phaseOf env db d ≠ .direct → ∃ group, groupOf db d = some group := by
    intro hphase
    cases hgroup : groupOf db d with
    | none =>
      refine absurd ?_ hphase
      rw [phaseOf, hgroup]
    | some group => exact ⟨group, rfl⟩
  cases hphase : phaseOf env db d with
  | vpn =>
    obtain ⟨group, hgroup⟩ := hnone (by rw [hphase]; decide)
    exact listedByGroup_of_bucketDevice hids (id_bucketDevice .vpn) hd
      (hbucket .vpn group hgroup hphase) hgroup rfl
  | jumpHost =>
    obtain ⟨group, hgroup⟩ := hnone (by rw [hphase]; decide)
    exact listedByGroup_of_bucketDevice hids (id_bucketDevice .jumpHost) hd
      (hbucket .jumpHost group hgroup hphase) hgroup rfl
  | direct =>
    dsimp only
    split
    · next halone =>
      refine List.mem_filter.mpr ⟨hd, ?_⟩
      unfold listedAlone
      rcases halone with halone | halone
      · rw [halone]
        rfl
      · rw [halone, hphase]
        exact Bool.or_true _
    · next halone =>
      rw [not_or] at halone
      obtain ⟨group, hgroup⟩ := Option.ne_none_iff_exists'.mp halone.1
      have hdirect : directDevice env db singleGroupMode d = some _ :=
        (if_neg halone.2).trans (hbucket .direct group hgroup hphase)
      exact listedByGroup_of_bucketDevice hids id_directDevice hd hdirect hgroup rfl

theorem forced_runBackupAllPhases (hlower : env.lower "" = "") {e : GroupPayload}
    (he : e ∈ (runBackupAllPhases env db singleGroupMode devices).direct ++
      (runBackupAllPhases env db singleGroupMode devices).jump ++
      (runBackupAllPhases env db singleGroupMode devices).vpn) (hforced : e.forceVpn = true) :
    ∃ d ∈ devices, uuidText d.id ∈ e.deviceIds ∧
      deviceConnectionOverride env (subgroupOf db d) d.extraParameters = some .vpn ∧
      ∃ group, groupOf db d = some group ∧ groupUsesVpnTunnel env group = false := by
  unfold runBackupAllPhases at he
  rw [foldl_routeDevice hlower] at he
  unfold bucketsOf at he
  dsimp only at he
  have hphase : ∀ (f : Device → Option GroupedDevice) mode,
      (∀ d g, f d = some g → bucketDevice env db mode d = some g) →
      e ∈ finalizeGroupPhasePayload { lower := env.lower }
        (groupPhaseBucket (devices.filterMap f)) →
      ∃ d ∈ devices, ∃ group, groupOf db d = some group ∧ uuidText d.id ∈ e.deviceIds ∧
        (decide (mode = .vpn) && forcesVpn env db d group) = true := by
    intro f mode hf hmem
    obtain ⟨g, hg, hlisted, hforces⟩ := exists_forcing hmem hforced
    obtain ⟨d, hd, hsome⟩ := List.mem_filterMap.mp hg
    obtain ⟨group, hgroup, -, rfl⟩ := bucketDevice_eq_some (hf d g hsome)
    exact ⟨d, hd, group, hgroup, hlisted, hforces⟩
  rcases List.mem_append.mp he with he | he
  · rcases List.mem_append.mp he with he | he
    · obtain ⟨_, -, _, -, -, hnever⟩ := hphase _ .direct (fun _ _ => directDevice_eq_some) he
      cases hnever
    · obtain ⟨_, -, _, -, -, hnever⟩ := hphase _ .jumpHost (fun _ _ h => h) he
      cases hnever
  · obtain ⟨d, hd, group, hgroup, hlisted, hforces⟩ := hphase _ .vpn (fun _ _ h => h) he
    unfold forcesVpn at hforces
    rw [Bool.and_eq_true, Bool.and_eq_true, decide_eq_true_eq, decide_eq_true_eq,
      Bool.not_eq_true'] at hforces
    exact ⟨d, hd, hlisted, hforces.2.1, group, hgroup, hforces.2.2⟩

theorem once_runBackupAllPhases (hlower : env.lower "" = "")
    (hids : (devices.map Device.id).Nodup) :
    (listedIds (runBackupAllPhases env db singleGroupMode devices).direct ++
      listedIds (runBackupAllPhases env db singleGroupMode devices).jump ++
      listedIds (runBackupAllPhases env db singleGroupMode devices).vpn ++
      (runBackupAllPhases env db singleGroupMode devices).directNoGroupDevices.map
        fun d => uuidText d.id).Perm (devices.map fun d => uuidText d.id) := by
  have hpayload : ∀ f : Device → Option GroupedDevice,
      (∀ d g, f d = some g → g.id = uuidText d.id) →
      (listedIds (finalizeGroupPhasePayload { lower := env.lower }
        (groupPhaseBucket (devices.filterMap f)))).Perm
          ((devices.filterMap f).map GroupedDevice.id) :=
    fun f hf => perm_listedIds ((nodup_texts hids).sublist (ids_sublist hf devices))
  unfold runBackupAllPhases
  rw [foldl_routeDevice hlower]
  unfold bucketsOf
  exact ((((hpayload _ id_directDevice).append (hpayload _ (id_bucketDevice .jumpHost))).append
    (hpayload _ (id_bucketDevice .vpn))).append_right _).trans
      (perm_places env db singleGroupMode devices)

/-- The copies of the follow-up do what a batch over all groups does. -/
theorem autoFollowupPhases_eq (hlower : env.lower "" = "") (devices : List Device) :
    autoFollowupPhases env db devices = runBackupAllPhases env db false devices := by
  have hstep : autoRouteDevice env db = routeDevice env db false := by
    funext b d
    unfold autoRouteDevice routeDevice
    rw [autoDeviceSubgroupConnectionType_eq, deviceSubgroupConnectionType_eq hlower]
    rfl
  unfold autoFollowupPhases runBackupAllPhases
  rw [hstep]
  rfl

/-- The routing is a partition of the devices, the follow-up routes like the batch over all groups,
and the three lookups of the override agree. -/
theorem routing_partition (env : Tenants.Env) (hlower : env.lower "" = "") (db : Database)
    (devices : List Device) (hids : (devices.map Device.id).Nodup) :
    (∀ singleGroupMode, WellRouted env db singleGroupMode devices
      (runBackupAllPhases env db singleGroupMode devices)) ∧
    WellRouted env db false devices (autoFollowupPhases env db devices) ∧
    ∀ subgroup extraParameters,
      deviceSubgroupConnectionType env subgroup extraParameters =
          deviceConnectionOverride env subgroup (extraParameters.getD []) ∧
        autoDeviceSubgroupConnectionType env subgroup extraParameters =
          deviceConnectionOverride env subgroup (extraParameters.getD []) := by
  have hrouted : ∀ singleGroupMode, WellRouted env db singleGroupMode devices
      (runBackupAllPhases env db singleGroupMode devices) := fun singleGroupMode =>
    { once := once_runBackupAllPhases hlower hids
      placed := fun d hd => placed_runBackupAllPhases hlower hids hd
      forced := fun e he hforced => forced_runBackupAllPhases hlower he hforced }
  refine ⟨hrouted, ?_, fun subgroup extraParameters =>
    ⟨deviceSubgroupConnectionType_eq hlower subgroup extraParameters,
      autoDeviceSubgroupConnectionType_eq env subgroup extraParameters⟩⟩
  rw [autoFollowupPhases_eq hlower]
  exact hrouted false

end Run

/-! ## A batch about one group -/

def headquarters : DeviceGroup where
  id := 1
  tenantId := 1
  name := "Matriz"
  slug := "matriz"

def headquartersRouter : Device where
  id := 2
  tenantId := 1
  groupId := some 1
  name := "router"
  ipAddress := "10.0.0.2"
  username := "backup"
  passwordEncrypted := ""

def headquartersDb : Database where
  devices := ⟨[headquartersRouter], by decide⟩
  deviceGroups := ⟨[headquarters], by decide⟩

theorem routing_partition_headquarters :
    (∀ singleGroupMode, WellRouted .ascii headquartersDb singleGroupMode [headquartersRouter]
      (runBackupAllPhases .ascii headquartersDb singleGroupMode [headquartersRouter])) ∧
    WellRouted .ascii headquartersDb false [headquartersRouter]
      (autoFollowupPhases .ascii headquartersDb [headquartersRouter]) ∧
    ∀ subgroup extraParameters,
      deviceSubgroupConnectionType .ascii subgroup extraParameters =
          deviceConnectionOverride .ascii subgroup (extraParameters.getD []) ∧
        autoDeviceSubgroupConnectionType .ascii subgroup extraParameters =
          deviceConnectionOverride .ascii subgroup (extraParameters.getD []) :=
  routing_partition .ascii rfl headquartersDb [headquartersRouter] (by decide)

/-- A direct device of the one group has no entry in any payload. -/
theorem headquarters_listed_alone :
    groupOf headquartersDb headquartersRouter = some headquarters ∧
      phaseOf .ascii headquartersDb headquartersRouter = .direct ∧
      ¬ ListedByGroup headquartersDb headquartersRouter
        (runBackupAllPhases .ascii headquartersDb true [headquartersRouter]).direct := by
  have hdirect : (runBackupAllPhases .ascii headquartersDb true [headquartersRouter]).direct =
      [] := by decide +kernel
  refine ⟨by decide +kernel, by decide +kernel, ?_⟩
  rw [hdirect]
  exact fun ⟨_, _, _, he, _⟩ => nomatch he

end BackupCenter.Bulk
