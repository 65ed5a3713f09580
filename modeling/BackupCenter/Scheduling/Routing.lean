import BackupCenter.Scheduling.Schedules
import BackupCenter.Tenants.ConnectionMode

/-!
# The tasks of a tenant's batch

A device is backed up directly, over the jump host of its group or through the tunnel of its
group. A batch hands every device to the workers once.
-/
namespace BackupCenter.Scheduling

open BackupCenter.Lib BackupCenter.Tenants

/-- `device.group` -/
def Site.group (site : Site) (d : Device) : Option DeviceGroup :=
  d.groupId.bind site.db.deviceGroups.find

/-- `get_effective_connection_type(device.group, device=device)` -/
def Site.effectiveConnectionType (site : Site) (d : Device) : Option ConnectionMode :=
  getEffectiveConnectionType site.env (site.group d)
    (d.subgroupId.bind site.db.deviceSubgroups.find)
    d.extraParameters

/-- How a backup is handed to the workers; a tunnel serves the devices of one group. -/
inductive Route where
  | direct
  | jump
  | vpn (group tenant : Uuid)
  deriving DecidableEq

/-- The branches of the routing loop; without a group there is neither a tunnel nor a jump
host. -/
def Site.route (site : Site) (d : Device) : Route :=
  match site.group d with
  | none => .direct
  | some group =>
    if site.effectiveConnectionType d = some .vpn then .vpn group.id d.tenantId
    else if site.effectiveConnectionType d = some .jumpHost then .jump
    else .direct

/-- `_bastion_key_for_device` -/
def Site.bastionKey (site : Site) (d : Device) : String :=
  match site.group d with
  | none => "sem-bastion"
  | some group =>
    let host := site.env.lower (strip (group.jumpHost.getD ""))
    if host = "" then "sem-bastion"
    else
      let port := (group.jumpPort.filter (· ≠ 0)).getD 22
      s!"{host}:{port}"

/-- `_interleave_by_bastion`: the devices in turn, with their countdowns. -/
def Site.interleaveByBastion (site : Site) (devices : List Device) : List (Device × Nat) :=
  let buckets := (bucketBy site.bastionKey devices).map fun b => (0, b.2)
  (takeTurns devices.length buckets).map fun p => (p.1, p.2 * site.stagger)

/-- A task handed to the broker. -/
inductive Enqueued where
  /-- `run_backup_task.apply_async(args=[device_id], countdown=...)` -/
  | direct (device : Uuid) (countdown : Nat)
  /-- the same with `queue="jump_queue"` -/
  | jump (device : Uuid) (countdown : Nat)
  /-- `run_vpn_group_backups_task.apply_async(args=[group_id, tenant_id, device_ids])` -/
  | vpnGroup (group tenant : Uuid) (devices : List Uuid)
  deriving DecidableEq

/-- The devices that the task will back up, each with its route. -/
def Enqueued.carried : Enqueued → List (Route × Uuid)
  | direct d _ => [(.direct, d)]
  | jump d _ => [(.jump, d)]
  | vpnGroup g t ds => ds.map fun d => (.vpn g t, d)

/-- `sorted(set(ids))`; the texts of UUIDs are ordered like their values. -/
def sortedIds (ids : List Uuid) : List Uuid := ids.dedup.insertionSort (· ≤ ·)

section Messages

variable (site : Site)

/-- Every other second one of the direct devices. -/
def directMessages (devices : List Device) : List Enqueued :=
  ((devices.filter fun d => site.route d = .direct).zipIdx).map fun (d, idx) =>
    .direct d.id (idx * 2)

def jumpMessages (devices : List Device) : List Enqueued :=
  (site.interleaveByBastion (devices.filter fun d => site.route d = .jump)).map
    fun (d, countdown) => .jump d.id countdown

/-- The devices that go through the tunnel of a group, with the group. -/
def tunnelled (devices : List Device) : List (Uuid × Uuid) :=
  devices.filterMap fun d => match site.route d with
    | .vpn group _ => some (group, d.id)
    | _ => none

/-- The task of one tunnel. -/
def groupMessage (tenant : Uuid) (entry : Uuid × List (Uuid × Uuid)) : Option Enqueued :=
  let uniqueDeviceIds := sortedIds (entry.2.map Prod.snd)
  if uniqueDeviceIds = [] then none else some (.vpnGroup entry.1 tenant uniqueDeviceIds)

def vpnMessages (tenant : Uuid) (devices : List Device) : List Enqueued :=
  (bucketBy Prod.fst (tunnelled site devices)).filterMap (groupMessage tenant)

/-- What a tenant's batch enqueues, in order. -/
def tenantMessages (tenant : Uuid) (eligible : List Device) : List Enqueued :=
  directMessages site eligible ++ jumpMessages site eligible ++ vpnMessages site tenant eligible

end Messages

/-! ## Every device once -/

section Routing

variable {site : Site} {tenant : Uuid} {devices : List Device}

/-- A device with the route that the batch takes to it. -/
def Site.routed (site : Site) (d : Device) : Route × Uuid := (site.route d, d.id)

theorem carried_directMessages : (directMessages site devices).flatMap Enqueued.carried =
    (devices.filter fun d => site.route d = .direct).map site.routed := by
  have hroute : ∀ d ∈ devices.filter fun d => site.route d = .direct,
      site.routed d = (Route.direct, d.id) := by
    intro d hd
    rw [Site.routed, of_decide_eq_true (List.mem_filter.mp hd).2]
  unfold directMessages
  rw [List.map_congr_left hroute, List.flatMap_map]
  generalize devices.filter (fun d => site.route d = .direct) = ds
  have hfirst : (ds.zipIdx.map fun p => (Route.direct, p.1.id)) =
      (ds.zipIdx.map Prod.fst).map fun d => (Route.direct, d.id) := by
    rw [List.map_map]
    rfl
  show (ds.zipIdx.flatMap fun p => [(Route.direct, p.1.id)]) = _
  rw [← List.map_eq_flatMap, hfirst, List.zipIdx_map_fst]

/-- The interleaved devices are the devices. -/
theorem interleaveByBastion_perm (ds : List Device) :
    ((site.interleaveByBastion ds).map Prod.fst).Perm ds := by
  have hbuckets : (((bucketBy site.bastionKey ds).map fun b => (0, b.2)).flatMap Prod.snd).Perm
      ds := by
    rw [List.flatMap_map]
    exact flatMap_bucketBy site.bastionKey ds
  unfold Site.interleaveByBastion
  rw [List.map_map]
  exact (takeTurns_perm (Nat.le_of_eq hbuckets.length_eq)).trans hbuckets

theorem carried_jumpMessages : ((jumpMessages site devices).flatMap Enqueued.carried).Perm
    ((devices.filter fun d => site.route d = .jump).map site.routed) := by
  have hroute : ∀ d ∈ devices.filter fun d => site.route d = .jump,
      site.routed d = (Route.jump, d.id) := by
    intro d hd
    rw [Site.routed, of_decide_eq_true (List.mem_filter.mp hd).2]
  rw [List.map_congr_left hroute]
  have hturns := (@interleaveByBastion_perm site
    (devices.filter fun d => site.route d = .jump)).map fun d => (Route.jump, d.id)
  rw [List.map_map] at hturns
  unfold jumpMessages
  rw [List.flatMap_map]
  show ((site.interleaveByBastion _).flatMap fun p => [(Route.jump, p.1.id)]).Perm _
  rw [← List.map_eq_flatMap]
  exact hturns

theorem tenant_of_route {d : Device} {g t : Uuid} (h : site.route d = .vpn g t) :
    t = d.tenantId := by
  unfold Site.route at h
  split at h
  · cases h
  · split_ifs at h
    exact (Route.vpn.inj h).2.symm

/-- The devices behind the tunnels, as pairs and as devices. -/
theorem map_tunnelled (htenant : ∀ d ∈ devices, d.tenantId = tenant) :
    (tunnelled site devices).map (fun p => (Route.vpn p.1 tenant, p.2)) =
      (devices.filter fun d => site.route d ≠ .direct ∧ site.route d ≠ .jump).map site.routed := by
  induction devices with
  | nil => rfl
  | cons d ds ih =>
    have hrest := ih fun d' hd => htenant d' (List.mem_cons_of_mem _ hd)
    unfold tunnelled at hrest ⊢
    cases hroute : site.route d with
    | direct => simpa [hroute] using hrest
    | jump => simpa [hroute] using hrest
    | vpn group t =>
      obtain rfl : t = tenant :=
        (tenant_of_route hroute).trans (htenant d (List.mem_cons_self ..))
      simpa [hroute, Site.routed] using hrest

theorem sortedIds_perm {ids : List Uuid} (h : ids.Nodup) : (sortedIds ids).Perm ids := by
  unfold sortedIds
  rw [h.dedup]
  exact List.perm_insertionSort ..

/-- The tasks of the tunnels carry what is in their buckets. -/
theorem carried_groupMessages {buckets : List (Uuid × List (Uuid × Uuid))}
    (hkeys : ∀ b ∈ buckets, ∀ e ∈ b.2, e.1 = b.1)
    (hids : ((buckets.flatMap Prod.snd).map Prod.snd).Nodup) :
    ((buckets.filterMap (groupMessage tenant)).flatMap Enqueued.carried).Perm
      ((buckets.flatMap Prod.snd).map fun e => (Route.vpn e.1 tenant, e.2)) := by
  induction buckets with
  | nil => exact .refl _
  | cons b rest ih =>
    rw [List.flatMap_cons, List.map_append, List.nodup_append] at hids
    have hrest := ih (fun b' hb => hkeys b' (List.mem_cons_of_mem _ hb)) hids.2.1
    have hsorted := sortedIds_perm hids.1
    have hentries : (b.2.map fun e => (Route.vpn e.1 tenant, e.2)) =
        (b.2.map Prod.snd).map fun d => (Route.vpn b.1 tenant, d) := by
      rw [List.map_map]
      apply List.map_congr_left
      intro e he
      rw [hkeys b (List.mem_cons_self ..) e he]
      rfl
    have hhead : ((groupMessage tenant b).toList.flatMap Enqueued.carried).Perm
        (b.2.map fun e => (Route.vpn e.1 tenant, e.2)) := by
      rw [hentries]
      unfold groupMessage
      dsimp only
      split_ifs with hnone
      · rw [hnone] at hsorted
        rw [hsorted.symm.eq_nil]
        exact .refl _
      · simpa [Enqueued.carried] using hsorted.map fun d => (Route.vpn b.1 tenant, d)
    have hsplit : ((b :: rest).filterMap (groupMessage tenant)) =
        (groupMessage tenant b).toList ++ rest.filterMap (groupMessage tenant) := by
      rw [List.filterMap_cons]
      cases groupMessage tenant b <;> rfl
    rw [hsplit, List.flatMap_append, List.flatMap_cons, List.map_append]
    exact hhead.append hrest

theorem carried_vpnMessages (htenant : ∀ d ∈ devices, d.tenantId = tenant)
    (hids : (devices.map Device.id).Nodup) :
    ((vpnMessages site tenant devices).flatMap Enqueued.carried).Perm
      ((devices.filter fun d => site.route d ≠ .direct ∧ site.route d ≠ .jump).map
        site.routed) := by
  rw [← map_tunnelled htenant]
  have hbuckets := flatMap_bucketBy Prod.fst (tunnelled site devices)
  have htunnelled : ((tunnelled site devices).map Prod.snd).Nodup := by
    have hsame := congrArg (List.map Prod.snd) (@map_tunnelled site tenant _ htenant)
    rw [List.map_map, List.map_map] at hsame
    have hfiltered := (List.filter_sublist (l := devices)
      (p := fun d => site.route d ≠ .direct ∧ site.route d ≠ .jump)).map Device.id
    exact (show (tunnelled site devices).map Prod.snd = _ from hsame) ▸ hfiltered.nodup hids
  refine (carried_groupMessages (fun b hb => key_of_mem_bucketBy b hb) ?_).trans (hbuckets.map _)
  exact ((hbuckets.map Prod.snd).nodup_iff).mpr htunnelled

/-- **A batch carries each of its devices once**, by the device's own route. -/
theorem carried_tenantMessages (htenant : ∀ d ∈ devices, d.tenantId = tenant)
    (hids : (devices.map Device.id).Nodup) :
    ((tenantMessages site tenant devices).flatMap Enqueued.carried).Perm
      (devices.map site.routed) := by
  have hpartition : ((devices.filter fun d => site.route d = .direct) ++
      ((devices.filter fun d => site.route d = .jump) ++
        devices.filter fun d => site.route d ≠ .direct ∧ site.route d ≠ .jump)).Perm devices := by
    have hothers := @filter_or_perm _ devices (fun d => decide (site.route d = .jump))
      (fun d => decide (site.route d ≠ .direct ∧ site.route d ≠ .jump))
      (fun d _ hd => by simp [of_decide_eq_true hd])
    have hall := @filter_or_perm _ devices (fun d => decide (site.route d = .direct))
      (fun d => decide (site.route d = .jump) ||
        decide (site.route d ≠ .direct ∧ site.route d ≠ .jump))
      (fun d _ hd => by simp [of_decide_eq_true hd])
    refine ((hothers.append_left _).trans hall).trans (List.Perm.of_eq ?_)
    apply List.filter_eq_self.mpr
    intro d _
    cases site.route d <;> simp
  unfold tenantMessages
  rw [List.flatMap_append, List.flatMap_append, carried_directMessages, List.append_assoc]
  refine ((carried_jumpMessages.append (carried_vpnMessages htenant hids)).append_left _).trans ?_
  rw [← List.map_append, ← List.map_append]
  exact hpartition.map site.routed

end Routing

end BackupCenter.Scheduling
