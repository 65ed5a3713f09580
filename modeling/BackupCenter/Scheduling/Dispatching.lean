import BackupCenter.Scheduling.Exactness

/-!
# What an execution hands over

While an execution hands over the devices of a tenant, it still has the schedules of the tenant
as it visited them. So every schedule is handed over once, with the next run that was stored.
-/
namespace BackupCenter.Scheduling

open BackupCenter.Lib BackupCenter.Tenants

section Dispatches

variable {site : Site} {x : Choices} {now : Int} {rows : List Tracked}

/-- The dispatches of a tenant's batch. -/
def tenantDispatches (site : Site) (x : Choices) (now : Int) (rows : List Tracked)
    (tenant : Uuid) : List Dispatch :=
  (tenantMessages site tenant (eligibleDevices site x tenant)).flatMap (dispatches now rows)

/-- The dispatches of all batches; each finishes its schedules before the next. -/
def batchDispatches (site : Site) (x : Choices) (now : Int) :
    List Uuid → List Tracked → List Dispatch
  | [], _ => []
  | tenant :: rest, rows =>
    tenantDispatches site x now rows tenant ++
      batchDispatches site x now rest (finishTenant site now tenant rows)

theorem handOver_eq_some {device : Uuid} {t : Tracked} {d : Dispatch}
    (h : t.handOver now device = some d) : t.current.deviceId = device ∧
      t.current.id = d.schedule ∧ t.current.nextRunAt = some d.window ∧ d.now = now := by
  unfold Tracked.handOver at h
  split at h
  next hdevice =>
    obtain ⟨window, hwindow, rfl⟩ := Option.map_eq_some_iff.mp h
    exact ⟨hdevice, rfl, hwindow, rfl⟩
  next => cases h

theorem mem_dispatches {e : Enqueued} {d : Dispatch} (h : d ∈ dispatches now rows e) :
    ∃ p ∈ e.carried, ∃ t ∈ rows, t.current.deviceId = p.2 ∧ t.current.id = d.schedule ∧
      t.current.nextRunAt = some d.window ∧ d.now = now := by
  obtain ⟨p, hp, hd⟩ := List.mem_flatMap.mp h
  obtain ⟨t, ht, hsome⟩ := List.mem_filterMap.mp hd
  exact ⟨p, hp, t, ht, handOver_eq_some hsome⟩

theorem mem_tenantDispatches {tenant : Uuid} {d : Dispatch}
    (h : d ∈ tenantDispatches site x now rows tenant) :
    ∃ t ∈ rows, t.current.id = d.schedule ∧ t.current.nextRunAt = some d.window ∧ d.now = now ∧
      site.tenantOf t.current = some tenant := by
  obtain ⟨e, he, hd⟩ := List.mem_flatMap.mp h
  obtain ⟨p, hp, t, ht, hdevice, hid, hwindow, hnow⟩ := mem_dispatches hd
  have hcarried := (carried_batch tenant).mem_iff.mp (List.mem_flatMap.mpr ⟨e, he, hp⟩)
  obtain ⟨device, hmem, rfl⟩ := List.mem_map.mp hcarried
  obtain ⟨hdb, htenant⟩ := mem_eligibleDevices hmem
  refine ⟨t, ht, hid, hwindow, hnow, ?_⟩
  have hfind : site.db.devices.find t.current.deviceId = some device :=
    Table.find_eq_some.mpr ⟨hdb, hdevice.symm⟩
  unfold Site.tenantOf Site.device
  rw [hfind, Option.map_some, htenant]

/-- The rows of other tenants are still as they were visited. -/
theorem mem_of_finishTenant {tenant other : Uuid} {t : Tracked}
    (h : t ∈ finishTenant site now tenant rows) (ht : site.tenantOf t.current = some other)
    (hne : other ≠ tenant) : t ∈ rows := by
  rcases mem_finishTenant h with ⟨a, ha, rfl, -⟩ | ⟨a, ha, time, next, rfl, hdone⟩
  · exact ha
  · have hsame : some tenant = some other := hdone.symm.trans ht
    exact absurd (Option.some.inj hsame).symm hne

/-- Every dispatch has the next run with which its schedule was visited. -/
theorem mem_batchDispatches {tenants : List Uuid} (hnodup : tenants.Nodup) {d : Dispatch}
    (h : d ∈ batchDispatches site x now tenants rows) :
    ∃ t ∈ rows, t.current.id = d.schedule ∧ t.current.nextRunAt = some d.window ∧ d.now = now ∧
      ∃ tenant ∈ tenants, site.tenantOf t.current = some tenant := by
  induction tenants generalizing rows with
  | nil => cases h
  | cons tenant tenants ih =>
    obtain ⟨hnew, hnodup⟩ := List.nodup_cons.mp hnodup
    rcases List.mem_append.mp h with h | h
    · obtain ⟨t, ht, hid, hwindow, hnow, htenant⟩ := mem_tenantDispatches h
      exact ⟨t, ht, hid, hwindow, hnow, tenant, List.mem_cons_self .., htenant⟩
    · obtain ⟨t, ht, hid, hwindow, hnow, other, hother, htenant⟩ := ih hnodup h
      have hne : other ≠ tenant := fun hsame => hnew (hsame ▸ hother)
      exact ⟨t, mem_of_finishTenant ht htenant hne, hid, hwindow, hnow, other,
        List.mem_cons_of_mem _ hother, htenant⟩

/-- A schedule belongs to one device, so a batch hands it over at most once. -/
theorem nodup_tenantDispatches (tenant : Uuid) (hids : (rows.map (·.current.id)).Nodup) :
    ((tenantDispatches site x now rows tenant).map Dispatch.schedule).Nodup := by
  have hdevices : (((tenantMessages site tenant (eligibleDevices site x tenant)).flatMap
      Enqueued.carried).map Prod.snd).Nodup := by
    apply (((carried_batch tenant).map Prod.snd).nodup_iff).mpr
    rw [List.map_map]
    exact nodup_eligibleDevices tenant
  unfold tenantDispatches dispatches
  rw [← List.flatMap_assoc, List.map_flatMap, List.nodup_flatMap]
  constructor
  · intro p _
    rw [List.map_filterMap, List.Nodup, List.pairwise_filterMap]
    refine (List.pairwise_map.mp hids).imp fun {a b} hne c hc c' hc' he => hne ?_
    obtain ⟨d, hd, rfl⟩ := Option.map_eq_some_iff.mp hc
    obtain ⟨d', hd', rfl⟩ := Option.map_eq_some_iff.mp hc'
    exact (handOver_eq_some hd).2.1.trans (he.trans (handOver_eq_some hd').2.1.symm)
  · refine (List.pairwise_map.mp hdevices).imp fun {p q} hne => ?_
    intro schedule hp hq
    obtain ⟨d, hd, rfl⟩ := List.mem_map.mp hp
    obtain ⟨d', hd', hsame⟩ := List.mem_map.mp hq
    obtain ⟨t, ht, hhand⟩ := List.mem_filterMap.mp hd
    obtain ⟨t', ht', hhand'⟩ := List.mem_filterMap.mp hd'
    obtain ⟨hdevice, hid, -⟩ := handOver_eq_some hhand
    obtain ⟨hdevice', hid', -⟩ := handOver_eq_some hhand'
    have hrow : t = t' :=
      List.inj_on_of_nodup_map hids ht ht' (hid.trans (hsame.symm.trans hid'.symm))
    exact hne (hdevice.symm.trans (hrow ▸ hdevice'))

theorem finishTenant_ids (tenant : Uuid) :
    (finishTenant site now tenant rows).map (·.current.id) = rows.map (·.current.id) := by
  unfold finishTenant
  rw [List.map_map]
  apply List.map_congr_left
  intro t _
  dsimp only [Function.comp_apply]
  split <;> rfl

/-- **An execution hands over each schedule at most once.** -/
theorem nodup_batchDispatches {tenants : List Uuid} (hnodup : tenants.Nodup)
    (hids : (rows.map (·.current.id)).Nodup) :
    ((batchDispatches site x now tenants rows).map Dispatch.schedule).Nodup := by
  induction tenants generalizing rows with
  | nil => exact List.nodup_nil
  | cons tenant tenants ih =>
    obtain ⟨hnew, htenants⟩ := List.nodup_cons.mp hnodup
    have hrest := ih htenants ((@finishTenant_ids site now rows tenant).symm ▸ hids)
    unfold batchDispatches
    rw [List.map_append, List.nodup_append]
    refine ⟨nodup_tenantDispatches tenant hids, hrest, fun schedule hhead other htail hsame => ?_⟩
    obtain ⟨d, hd, rfl⟩ := List.mem_map.mp hhead
    obtain ⟨d', hd', rfl⟩ := List.mem_map.mp htail
    obtain ⟨t, ht, hid, -, -, htenant⟩ := mem_tenantDispatches hd
    obtain ⟨t', ht', hid', -, -, owner, howner, htenant'⟩ := mem_batchDispatches htenants hd'
    have hne : owner ≠ tenant := fun he => hnew (he ▸ howner)
    have hrow : t = t' := List.inj_on_of_nodup_map hids ht (mem_of_finishTenant ht' htenant' hne)
      (hid.trans (hsame.trans hid'.symm))
    rw [hrow] at htenant
    exact hne (Option.some.inj (htenant'.symm.trans htenant))

end Dispatches

end BackupCenter.Scheduling
