import BackupCenter.Scheduling.Exactness
import BackupCenter.Scheduling.Routine

/-!
# Runs of the daily routine

One row for each device that takes part is what every writer relies on and what no constraint
enforces. A row that a request left inactive while its device takes part is not seen by the
periodic task, which then adds another one.
-/
namespace BackupCenter.Scheduling

open BackupCenter.Lib BackupCenter.Tenants

/-! ## What the periodic task writes -/

section Task

variable {site : Site} {x : Choices} {s s' : Scheduled} {report : Report}

/-- The rows that an execution adds. -/
def addedSchedules (site : Site) (x : Choices) (s : Scheduled) : List Schedule :=
  newSchedules site x s.now (firstRows site x s.schedules)

theorem run_started
    (h : (runScheduledBackups site x).run (DbCommand.handle site) s = (some report, s')) :
    ∃ rows table, Session site s.now s.schedules (addedSchedules site x s) rows table ∧
      (runRows site x s.now (addedSchedules site x s) rows).run (DbCommand.handle site) s =
        (some report, s') := by
  unfold runScheduledBackups at h
  rw [Prog.run_bind] at h
  change Prog.run (DbCommand.handle site) (Prog.ask (DbCommand.querySchedules []) >>= _) s = _ at h
  rw [Prog.run_bind] at h
  change Prog.run (DbCommand.handle site) (if addedSchedules site x s = [] then _ else _) s = _ at h
  split_ifs at h with hadded
  · rw [hadded]
    exact ⟨_, _, session_of_first hadded, h⟩
  · rw [Prog.run_bind] at h
    change Prog.run (DbCommand.handle site)
      (if (s.schedules.addAll (addedSchedules site x s)).isSome = true then _ else _) s = _ at h
    split_ifs at h with hflushed
    · obtain ⟨table, hinserted⟩ := Option.isSome_iff_exists.mp hflushed
      rw [Prog.run_bind] at h
      exact ⟨_, table, session_of_second hinserted, h⟩
    · cases h

/-- An added row is that of an enabled device without an active one. -/
theorem mem_addedSchedules {r : Schedule} (h : r ∈ addedSchedules site x s) :
    r.isActive = some true ∧ ∃ d ∈ site.db.devices, site.enabledDevice d = true ∧
      r.deviceId = d.id ∧ ∀ a ∈ s.schedules, a.deviceId = d.id → a.isActive ≠ some true := by
  obtain ⟨d, hd, rfl⟩ := List.mem_map.mp h
  obtain ⟨hdevice, hmissing⟩ := List.mem_filter.mp hd
  obtain ⟨hmem, henabled⟩ := List.mem_filter.mp ((x.devices.perm _).mem_iff.mp hdevice)
  refine ⟨rfl, d, hmem, henabled, rfl, fun a ha hid hactive => ?_⟩
  have hfound : site.device a = some d := Table.find_eq_some.mpr ⟨hmem, hid.symm⟩
  have hseen : a ∈ firstRows site x s.schedules := by
    refine mem_firstRows.mpr ⟨ha, ?_⟩
    unfold Site.enabledSchedule
    simp [hactive, hfound, henabled]
  have hlisted : d.id ∈ (firstRows site x s.schedules).map Schedule.deviceId :=
    List.mem_map.mpr ⟨a, hseen, hid⟩
  rw [List.contains_iff_mem.mpr hlisted] at hmissing
  cases hmissing

/-- Every such device gets one. -/
theorem exists_addedSchedule {d : Device} (hd : d ∈ site.db.devices)
    (henabled : site.enabledDevice d = true)
    (hnone : ∀ a ∈ s.schedules, a.deviceId = d.id → a.isActive ≠ some true) :
    ∃ r ∈ addedSchedules site x s, r.deviceId = d.id := by
  refine (newSchedules_cover hd henabled).resolve_left fun ⟨r, hr, hid⟩ => ?_
  obtain ⟨hmem, hr⟩ := mem_firstRows.mp hr
  exact hnone r hmem hid (of_decide_eq_true (Bool.and_eq_true_iff.mp hr).1)

theorem nodup_addedSchedules : ((addedSchedules site x s).map Schedule.deviceId).Nodup := by
  unfold addedSchedules newSchedules
  rw [List.map_map]
  have hids : ((x.devices.apply (site.db.devices.rows.filter site.enabledDevice)).map
      Device.id).Nodup :=
    (((x.devices.perm _).map Device.id).nodup_iff).mpr
      ((List.filter_sublist.map Device.id).nodup site.db.devices.nodup)
  exact (List.filter_sublist.map Device.id).nodup hids

/-- An execution adds its rows and changes neither the device nor the activity of any row. -/
theorem run_schedules
    (h : (runScheduledBackups site x).run (DbCommand.handle site) s = (some report, s')) :
    ∃ (table : Table Schedule) (f : Update Schedule),
      (∀ r, r ∈ table ↔ r ∈ s.schedules ∨ r ∈ addedSchedules site x s) ∧
      s'.schedules = table.modify (fun _ => true) f ∧
      ∀ r, (f.apply r).deviceId = r.deviceId ∧ (f.apply r).isActive = r.isActive := by
  obtain ⟨rows, _, hsession, hrun⟩ := run_started h
  obtain ⟨table, hinserted, hschedules, -⟩ := run_runRows hrun
  exact ⟨table, _, fun r => mem_of_addAll hinserted, hschedules, updates_keeps⟩

/-- Every row of an enabled device is active. -/
def RowsSeen (site : Site) (schedules : Table Schedule) : Prop :=
  ∀ r ∈ schedules, ∀ d, site.device r = some d → site.enabledDevice d = true →
    r.isActive = some true

/-- An execution adds a second row exactly for a device whose row it does not see. -/
theorem oneEach_run_iff (hone : OneEach s.schedules)
    (h : (runScheduledBackups site x).run (DbCommand.handle site) s = (some report, s')) :
    OneEach s'.schedules ↔ RowsSeen site s.schedules := by
  obtain ⟨table, f, htable, hschedules, hkeeps⟩ := run_schedules h
  have hmem : ∀ r', r' ∈ s'.schedules ↔ ∃ r ∈ table, r' = f.apply r := by
    intro r'
    rw [hschedules, Table.mem_modify]
    exact Iff.rfl
  constructor
  · intro hone' r hr d hfound henabled
    by_contra hidle
    obtain ⟨hd, hid⟩ := Table.find_eq_some.mp hfound
    have hnone : ∀ a ∈ s.schedules, a.deviceId = d.id → a.isActive ≠ some true := by
      intro a ha hdevice
      rw [hone a ha r hr (hdevice.trans hid)]
      exact hidle
    obtain ⟨a, ha, hdevice⟩ := @exists_addedSchedule site x s d hd henabled hnone
    have hr' := (htable r).mpr (.inl hr)
    have ha' := (htable a).mpr (.inr ha)
    have hsame := hone' _ ((hmem _).mpr ⟨r, hr', rfl⟩) _ ((hmem _).mpr ⟨a, ha', rfl⟩)
      ((hkeeps r).1.trans (hid.symm.trans (hdevice.symm.trans (hkeeps a).1.symm)))
    have hkey : key r = key a :=
      (f.keeps r).symm.trans ((congrArg key hsame).trans (f.keeps a))
    rw [Table.eq_of_key hr' ha' hkey] at hidle
    exact hidle (mem_addedSchedules ha).1
  · intro hseen a' ha' b' hb' hdevice
    obtain ⟨a, ha, rfl⟩ := (hmem a').mp ha'
    obtain ⟨b, hb, rfl⟩ := (hmem b').mp hb'
    rw [(hkeeps a).1, (hkeeps b).1] at hdevice
    have hmixed : ∀ old ∈ s.schedules, ∀ new ∈ addedSchedules site x s,
        old.deviceId ≠ new.deviceId := by
      intro old hold new hnew hsame
      obtain ⟨-, d, hd, henabled, hid, hnone⟩ := mem_addedSchedules hnew
      have hfound : site.device old = some d :=
        Table.find_eq_some.mpr ⟨hd, hid.symm.trans hsame.symm⟩
      exact hnone old hold (hsame.trans hid) (hseen old hold d hfound henabled)
    congr 1
    rcases (htable a).mp ha with ha | ha
    · rcases (htable b).mp hb with hb | hb
      · exact hone a ha b hb hdevice
      · exact absurd hdevice (hmixed a ha b hb)
    · rcases (htable b).mp hb with hb | hb
      · exact absurd hdevice.symm (hmixed b hb a ha)
      · exact List.inj_on_of_nodup_map nodup_addedSchedules ha hb hdevice

end Task

/-! ## One row for each device -/

/-- The task as a step. -/
theorem step_run {x : Choices} {s s' : Deployment}
    (h : RoutineEvent.step s (.runScheduledBackups x) = some s') :
    ∃ report, (runScheduledBackups s.site x).run (DbCommand.handle s.site) s.scheduled =
      (some report, s'.scheduled) ∧ s'.site = s.site := by
  simp only [RoutineEvent.step] at h
  split_ifs at h with hreport
  obtain ⟨report, hreport⟩ := Option.isSome_iff_exists.mp hreport
  obtain rfl := Option.some.inj h
  exact ⟨report, Prod.ext hreport rfl, rfl⟩

/-- The device has an active row. -/
def Active (schedules : Table Schedule) (device : Uuid) : Prop :=
  ∃ r ∈ schedules, r.deviceId = device ∧ r.isActive = some true

/-- The device has a row that is not active. -/
def Idle (schedules : Table Schedule) (device : Uuid) : Prop :=
  ∃ r ∈ schedules, r.deviceId = device ∧ r.isActive ≠ some true

/-- How the rows of a device go with whether it takes part: which of taking part, having an active
row and having another one go together. -/
structure RoutineRule where
  holds : Prop → Prop → Prop → Prop
  on : holds True True False
  off : ∀ idle, holds False False idle
  seen : ∀ active idle, holds True active idle → ¬ idle

/-- A device that takes part has no inactive row. -/
def RoutineRule.seenRows : RoutineRule where
  holds takesPart _ idle := takesPart → ¬ idle
  on _ := not_false
  off _ h := h.elim
  seen _ _ h := h trivial

/-- A device has an active row and no other if it takes part, and no active one otherwise. -/
def RoutineRule.inStep : RoutineRule where
  holds takesPart active idle := (takesPart ↔ active) ∧ (takesPart → ¬ idle)
  on := ⟨Iff.rfl, fun _ => not_false⟩
  off _ := ⟨Iff.rfl, False.elim⟩
  seen _ _ h := h.2 trivial

/-- Each device has at most one row, by the rule, and each row has its device. -/
structure Deployment.Follows (rule : RoutineRule) (s : Deployment) : Prop where
  oneEach : OneEach s.schedules
  known : ∀ r ∈ s.schedules, ∃ d ∈ s.site.db.devices, d.id = r.deviceId
  fits : ∀ d ∈ s.site.db.devices, rule.holds (d.backupScheduled = some true)
    (Active s.schedules d.id) (Idle s.schedules d.id)

section Follows

variable {rule : RoutineRule} {s s' : Deployment}

theorem RoutineRule.holds_on {p a i : Prop} (hp : p) (ha : a) (hi : ¬ i) : rule.holds p a i := by
  rw [eq_true hp, eq_true ha, eq_false hi]
  exact rule.on

theorem RoutineRule.holds_off {p a i : Prop} (hp : ¬ p) (ha : ¬ a) : rule.holds p a i := by
  rw [eq_false hp, eq_false ha]
  exact rule.off i

/-- A device that the step leaves as it was, one that takes part with its only row active, or one
that does not and has none. -/
theorem Deployment.Follows.of (h : s.Follows rule) (hone : OneEach s'.schedules)
    (hknown : ∀ r ∈ s'.schedules, ∃ d ∈ s'.site.db.devices, d.id = r.deviceId)
    (hdevice : ∀ d' ∈ s'.site.db.devices,
      (∃ d ∈ s.site.db.devices, d.id = d'.id ∧
        (d'.backupScheduled = some true ↔ d.backupScheduled = some true) ∧
        (Active s'.schedules d.id ↔ Active s.schedules d.id) ∧
        (Idle s'.schedules d.id ↔ Idle s.schedules d.id)) ∨
      (d'.backupScheduled = some true ∧ Active s'.schedules d'.id ∧ ¬ Idle s'.schedules d'.id) ∨
      (d'.backupScheduled ≠ some true ∧ ¬ Active s'.schedules d'.id)) : s'.Follows rule where
  oneEach := hone
  known := hknown
  fits d' hd' := by
    rcases hdevice d' hd' with ⟨d, hd, hid, hflag, hactive, hidle⟩ | ⟨hon, hactive, hidle⟩ |
      ⟨hoff, hactive⟩
    · rw [← hid, hflag, hactive, hidle]
      exact h.fits d hd
    · exact rule.holds_on hon hactive hidle
    · exact rule.holds_off hoff hactive

/-- Whether a device has an active row, or another one, is a matter of its rows. -/
theorem active_idle_congr {t t' : Table Schedule} (device : Uuid)
    (h : ∀ r : Schedule, r.deviceId = device → (r ∈ t' ↔ r ∈ t)) :
    (Active t' device ↔ Active t device) ∧ (Idle t' device ↔ Idle t device) := by
  constructor
  · refine exists_congr fun r => ⟨fun ⟨hr, hid, ha⟩ => ⟨(h r hid).mp hr, hid, ha⟩,
      fun ⟨hr, hid, ha⟩ => ⟨(h r hid).mpr hr, hid, ha⟩⟩
  · refine exists_congr fun r => ⟨fun ⟨hr, hid, ha⟩ => ⟨(h r hid).mp hr, hid, ha⟩,
      fun ⟨hr, hid, ha⟩ => ⟨(h r hid).mpr hr, hid, ha⟩⟩

/-- A device that was put on a daily time has its row active, and no other. -/
theorem Written.active {t t' : Table Schedule} {ds : List Uuid} {time : String}
    {nextRun : Uuid → Int} (h : Written t t' ds time nextRun) (hone : OneEach t) {d : Uuid}
    (hd : d ∈ ds) : Active t' d ∧ ¬ Idle t' d := by
  obtain ⟨r, hr, hid, hdaily⟩ := h.row d hd
  have hactive : r.isActive = some true := by
    rw [← hdaily]
    rfl
  refine ⟨⟨r, hr, hid, hactive⟩, fun ⟨r', hr', hid', hidle⟩ => ?_⟩
  rw [h.oneEach hone r' hr' r hr (hid'.trans hid.symm)] at hidle
  exact hidle hactive

/-- Devices that take part are put on a daily time. -/
theorem Deployment.Follows.written (h : s.Follows rule) {ds : List Uuid} {time : String}
    {nextRun : Uuid → Int} (hwritten : Written s.schedules s'.schedules ds time nextRun)
    (hkept : ∀ d ∈ s.site.db.devices, ∃ d' ∈ s'.site.db.devices, d'.id = d.id)
    (hnew : ∀ i ∈ ds, ∃ d' ∈ s'.site.db.devices, d'.id = i ∧ d'.backupScheduled = some true)
    (hother : ∀ d' ∈ s'.site.db.devices, d'.id ∉ ds → ∃ d ∈ s.site.db.devices, d.id = d'.id ∧
      (d'.backupScheduled = some true ↔ d.backupScheduled = some true)) : s'.Follows rule := by
  refine h.of (hwritten.oneEach h.oneEach) (fun r hr => ?_) (fun d' hd' => ?_)
  · by_cases hds : r.deviceId ∈ ds
    · obtain ⟨d', hd', hid, -⟩ := hnew _ hds
      exact ⟨d', hd', hid⟩
    · obtain ⟨d, hd, hid⟩ := h.known r ((hwritten.other r hds).mp hr)
      obtain ⟨d', hd', hid'⟩ := hkept d hd
      exact ⟨d', hd', hid'.trans hid⟩
  · by_cases hds : d'.id ∈ ds
    · obtain ⟨d, hd, hid, hon⟩ := hnew _ hds
      obtain rfl := Table.eq_of_key hd hd' hid
      obtain ⟨hactive, hidle⟩ := hwritten.active h.oneEach hds
      exact .inr (.inl ⟨hon, hactive, hidle⟩)
    · obtain ⟨d, hd, hid, hflag⟩ := hother d' hd' hds
      have hrows := active_idle_congr d.id fun r hr =>
        hwritten.other r (hr.trans hid ▸ hds)
      exact .inl ⟨d, hd, hid, hflag, hrows⟩

/-- Without a row that is written, only a change of who takes part matters. -/
theorem Deployment.Follows.kept (h : s.Follows rule) (hschedules : s'.schedules = s.schedules)
    (hkept : ∀ d ∈ s.site.db.devices, ∃ d' ∈ s'.site.db.devices, d'.id = d.id)
    (hflags : ∀ d' ∈ s'.site.db.devices, ∃ d ∈ s.site.db.devices, d.id = d'.id ∧
      (d'.backupScheduled = some true ↔ d.backupScheduled = some true)) : s'.Follows rule := by
  have hwritten : Written s.schedules s'.schedules [] "" fun _ => 0 := by
    rw [hschedules]
    exact ⟨id, fun _ _ => Iff.rfl, fun _ hd => absurd hd List.not_mem_nil⟩
  exact h.written hwritten hkept (fun _ hi => absurd hi List.not_mem_nil)
    fun d' hd' _ => hflags d' hd'

end Follows

/-- The request is cut off between its two commits. -/
def RoutineEvent.cutOff : RoutineEvent → Bool
  | .createDevice _ _ _ cutOff | .updateDevice _ _ _ cutOff => cutOff
  | _ => false

/-- An edit is cut off that switches a device on whose row is not active. -/
def RoutineEvent.CutsOn (s : Deployment) : RoutineEvent → Prop
  | .updateDevice _ deviceId data cutOff => cutOff = true ∧ Idle s.schedules deviceId ∧
      ∃ d ∈ s.site.db.devices, d.id = deviceId ∧ (data.apply d).backupScheduled = some true
  | _ => False

section Steps

variable {rule : RoutineRule} {s s' : Deployment}

/-- A device without a row is added. -/
theorem Deployment.Follows.added (h : s.Follows rule) {d : Device} {devices : Table Device}
    (hadd : s.site.db.devices.add d = some devices)
    (hnew : rule.holds (d.backupScheduled = some true) False False) :
    (s.withDevices devices).Follows rule := by
  have hfresh : ∀ r ∈ s.schedules, r.deviceId ≠ d.id := by
    intro r hr hid
    obtain ⟨a, ha, hida⟩ := h.known r hr
    have hnone := Table.add_isSome.mp (Option.isSome_of_eq_some hadd)
    have hfound : s.site.db.devices.find d.id = some a :=
      Table.find_eq_some.mpr ⟨ha, hida.trans hid⟩
    exact absurd (hnone.symm.trans hfound) nofun
  constructor
  · exact h.oneEach
  · intro r hr
    obtain ⟨a, ha, hid⟩ := h.known r hr
    exact ⟨a, (Table.mem_of_add hadd).mpr (.inr ha), hid⟩
  · intro a ha
    rcases (Table.mem_of_add hadd).mp ha with rfl | ha
    · have hactive : ¬ Active (s.withDevices devices).schedules a.id :=
        fun ⟨r, hr, hid, _⟩ => hfresh r hr hid
      have hidle : ¬ Idle (s.withDevices devices).schedules a.id :=
        fun ⟨r, hr, hid, _⟩ => hfresh r hr hid
      rw [eq_false hactive, eq_false hidle]
      exact hnew
    · exact h.fits a ha

theorem follows_createDevice (h : s.Follows rule) {x : RequestChoices} {limit : Option Int}
    {data : Device} {cutOff : Bool} (hstep : createDevice x limit data cutOff s = some s')
    (hcut : cutOff = true → rule.holds True False False) : s'.Follows rule := by
  obtain ⟨d, devices, -, -, -, hadd, ⟨hfirst, rfl⟩ | ⟨-, hon, schedules, time, nextRun, hwritten,
    rfl⟩⟩ := createDevice_cases hstep
  · apply h.added hadd
    by_cases hon : d.backupScheduled = some true
    · rw [eq_true hon]
      exact hcut (hfirst.resolve_right (not_not.mpr hon))
    · rw [eq_false hon]
      exact rule.off False
  · refine h.written hwritten (fun a ha => ⟨a, (Table.mem_of_add hadd).mpr (.inr ha), rfl⟩) ?_ ?_
    · intro i hi
      obtain rfl := List.mem_singleton.mp hi
      exact ⟨d, (Table.mem_of_add hadd).mpr (.inl rfl), rfl, hon⟩
    · intro a ha hne
      rcases (Table.mem_of_add hadd).mp ha with rfl | ha
      · exact absurd (List.mem_singleton.mpr rfl) hne
      · exact ⟨a, ha, rfl, Iff.rfl⟩

/-- The devices after a change of some of them. -/
theorem devices_modify (t : Table Device) (p : Device → Bool) (f : Update Device) :
    (∀ d ∈ t, ∃ d' ∈ t.modify p f, d'.id = d.id) ∧
      ∀ d' ∈ t.modify p f, ∃ d ∈ t, d.id = d'.id ∧ d' = if p d then f.apply d else d := by
  have hid : ∀ d : Device, (if p d then f.apply d else d).id = d.id := by
    intro d
    split
    · exact f.keeps d
    · rfl
  constructor
  · exact fun d hd => ⟨_, Table.mem_modify.mpr ⟨d, hd, rfl⟩, hid d⟩
  · intro d' hd'
    obtain ⟨d, hd, rfl⟩ := Table.mem_modify.mp hd'
    exact ⟨d, hd, (hid d).symm, rfl⟩

theorem follows_updateDevice (h : s.Follows rule) {x : RequestChoices} {deviceId : Uuid}
    {data : Update Device} {cutOff : Bool}
    (hstep : updateDevice x deviceId data cutOff s = some s')
    (hcut : cutOff = true → ∀ d ∈ s.site.db.devices, d.id = deviceId →
      rule.holds ((data.apply d).backupScheduled = some true) (Active s.schedules deviceId)
        (Idle s.schedules deviceId)) : s'.Follows rule := by
  obtain ⟨d, hd, rfl, t, rfl, hcases⟩ := updateDevice_cases hstep
  obtain ⟨hkept, hback⟩ := devices_modify s.site.db.devices (fun a => a.id = d.id) data
  have hself : data.apply d ∈ s.site.db.devices.modify (fun a => a.id = d.id) data :=
    Table.mem_modify.mpr ⟨d, hd, by simp⟩
  have hid : (data.apply d).id = d.id := data.keeps d
  have hothers : ∀ d' ∈ s.site.db.devices.modify (fun a => a.id = d.id) data, d'.id ≠ d.id →
      d' ∈ s.site.db.devices := by
    intro d' hd' hne
    obtain ⟨a, ha, hida, he⟩ := hback d' hd'
    have hfar : ¬ a.id = d.id := fun hsame => hne (hida.symm.trans hsame)
    rw [he, if_neg (by simpa using hfar)]
    exact ha
  rcases hcases with ⟨hcutOff, rfl⟩ | ⟨-, hon, schedules, time, nextRun, hwritten, rfl⟩ |
    ⟨-, hoff, rfl⟩
  · constructor
    · exact h.oneEach
    · intro r hr
      obtain ⟨a, ha, hida⟩ := h.known r hr
      obtain ⟨a', ha', hida'⟩ := hkept a ha
      exact ⟨a', ha', hida'.trans hida⟩
    · intro a ha
      by_cases hsame : a.id = d.id
      · obtain rfl := Table.eq_of_key ha hself (hsame.trans hid.symm)
        rw [hsame]
        exact hcut hcutOff d hd rfl
      · exact h.fits a (hothers a ha hsame)
  · refine h.written hwritten hkept ?_ ?_
    · intro i hi
      obtain rfl := List.mem_singleton.mp hi
      exact ⟨_, hself, hid, hon⟩
    · intro a ha hne
      exact ⟨a, hothers a ha fun hsame => hne (List.mem_singleton.mpr hsame), rfl, Iff.rfl⟩
  · obtain ⟨hstopped, hother, hrows⟩ := stopSchedule_spec (x := x) (t := s.schedules) d.id
    obtain ⟨hone, hidle⟩ := hstopped h.oneEach
    refine h.of hone (fun r hr => ?_) (fun a ha => ?_)
    · obtain ⟨r', hr', hdevice, -⟩ := hrows r hr
      obtain ⟨a, ha, hida⟩ := h.known r' hr'
      obtain ⟨a', ha', hida'⟩ := hkept a ha
      exact ⟨a', ha', hida'.trans (hida.trans hdevice)⟩
    · by_cases hsame : a.id = d.id
      · obtain rfl := Table.eq_of_key ha hself (hsame.trans hid.symm)
        refine .inr (.inr ⟨hoff, fun ⟨r, hr, hdevice, hactive⟩ => ?_⟩)
        rw [hidle r hr (hdevice.trans hsame)] at hactive
        cases hactive
      · have hrows := active_idle_congr a.id fun r hr =>
          hother r fun hdevice => hsame (hr.symm.trans hdevice)
        exact .inl ⟨a, hothers a ha hsame, rfl, Iff.rfl, hrows⟩

theorem follows_applyDaily (h : s.Follows rule) {x : RequestChoices} {devices : List Device}
    {timeStr : String} {applyScope : ApplyScope} {affected : Nat}
    (hdevices : devices.Sublist s.site.db.devices.rows)
    (hstep : applyDailyToDevices x devices timeStr applyScope s = some (s', affected)) :
    s'.Follows rule := by
  obtain ⟨targets, hsub, -, hwritten, hs'⟩ :=
    applyDaily_spec ((hdevices.map Device.id).nodup s.site.db.devices.nodup) hstep
  have hsite : s'.site.db.devices = switchOn (targets.map Device.id) s.site.db.devices := by
    rw [hs']
    rfl
  obtain ⟨hkept, hback⟩ := devices_modify s.site.db.devices
    (fun d => (targets.map Device.id).contains d.id) intoRoutine
  refine h.written hwritten (hsite ▸ hkept) ?_ ?_
  · intro i hi
    obtain ⟨d, hd, rfl⟩ := List.mem_map.mp hi
    have hcontains := List.contains_iff_mem.mpr hi
    refine ⟨{ d with backupScheduled := some true }, ?_, rfl, rfl⟩
    rw [hsite]
    refine Table.mem_modify.mpr ⟨d, (hsub.trans hdevices).subset hd, ?_⟩
    rw [hcontains]
    rfl
  · intro d' hd' hne
    rw [hsite] at hd'
    obtain ⟨d, hd, hid, he⟩ := hback d' hd'
    rw [if_neg fun hcontains => hne (hid ▸ List.contains_iff_mem.mp hcontains)] at he
    exact ⟨d, hd, hid, by rw [he]⟩

theorem follows_run (h : s.Follows rule) {x : Choices} {report : Report}
    (hrun : (runScheduledBackups s.site x).run (DbCommand.handle s.site) s.scheduled =
      (some report, s'.scheduled)) (hsite : s'.site = s.site) : s'.Follows rule := by
  have hseen : RowsSeen s.site s.schedules := by
    intro r hr d hfound henabled
    obtain ⟨hd, hid⟩ := Table.find_eq_some.mp hfound
    by_contra hidle
    have hon : d.backupScheduled = some true := by
      unfold Site.enabledDevice at henabled
      simp only [Bool.and_eq_true, decide_eq_true_eq] at henabled
      exact henabled.1.2
    have hfits := h.fits d hd
    rw [eq_true hon] at hfits
    exact rule.seen _ _ hfits ⟨r, hr, hid.symm, hidle⟩
  have hone := (oneEach_run_iff h.oneEach hrun).mpr hseen
  obtain ⟨table, f, htable, hschedules, hkeeps⟩ := run_schedules hrun
  have hmem : ∀ r', r' ∈ s'.schedules ↔ ∃ r ∈ table, r' = f.apply r := by
    intro r'
    unfold Deployment.schedules
    rw [hschedules, Table.mem_modify]
    exact Iff.rfl
  refine h.of hone (fun r' hr' => ?_) (fun d hd => ?_)
  · obtain ⟨r, hr, rfl⟩ := (hmem r').mp hr'
    rw [(hkeeps r).1, hsite]
    rcases (htable r).mp hr with hr | hr
    · exact h.known r hr
    · obtain ⟨-, d, hd, -, hid, -⟩ := mem_addedSchedules hr
      exact ⟨d, hd, hid.symm⟩
  · rw [hsite] at hd
    by_cases hnew : ∃ r ∈ addedSchedules s.site x s.scheduled, r.deviceId = d.id
    · -- the new row is the only one, and it is active
      obtain ⟨r, hr, hid⟩ := hnew
      obtain ⟨hactive, d', hd', henabled, hid', -⟩ := mem_addedSchedules hr
      obtain rfl := Table.eq_of_key hd' hd (hid'.symm.trans hid)
      have hr' : f.apply r ∈ s'.schedules := (hmem _).mpr ⟨r, (htable r).mpr (.inr hr), rfl⟩
      have hrow : (f.apply r).deviceId = d'.id := (hkeeps r).1.trans hid
      have hon : (f.apply r).isActive = some true := (hkeeps r).2.trans hactive
      refine .inr (.inl ⟨?_, ⟨_, hr', hrow, hon⟩, fun hother => ?_⟩)
      · unfold Site.enabledDevice at henabled
        simp only [Bool.and_eq_true, decide_eq_true_eq] at henabled
        exact henabled.1.2
      · obtain ⟨a, ha, hida, hidle⟩ := hother
        rw [hone a ha _ hr' (hida.trans hrow.symm)] at hidle
        exact hidle hon
    · -- its rows are the old ones
      have hold : ∀ r ∈ table, r.deviceId = d.id → r ∈ s.schedules := by
        intro r hr hid
        exact ((htable r).mp hr).resolve_right fun hadded => hnew ⟨r, hadded, hid⟩
      have hrows : ∀ P : Option Bool → Prop,
          (∃ r ∈ s'.schedules, r.deviceId = d.id ∧ P r.isActive) ↔
            ∃ r ∈ s.schedules, r.deviceId = d.id ∧ P r.isActive := by
        intro P
        constructor
        · intro hnow
          obtain ⟨r', hr', hid, hP⟩ := hnow
          obtain ⟨r, hr, rfl⟩ := (hmem r').mp hr'
          rw [(hkeeps r).1] at hid
          rw [(hkeeps r).2] at hP
          exact ⟨r, hold r hr hid, hid, hP⟩
        · intro hbefore
          obtain ⟨r, hr, hid, hP⟩ := hbefore
          refine ⟨f.apply r, (hmem _).mpr ⟨r, (htable r).mpr (.inl hr), rfl⟩,
            (hkeeps r).1.trans hid, ?_⟩
          rw [(hkeeps r).2]
          exact hP
      exact .inl ⟨d, hd, rfl, Iff.rfl, hrows (· = some true), hrows (· ≠ some true)⟩

theorem activeDevices_sublist (site : Site) (tenantId : Uuid) :
    (site.activeDevices tenantId).Sublist site.db.devices.rows := List.filter_sublist

/-- What the requests keep of the rule; the cut-off ones have a proviso. -/
theorem follows_step (h : s.Follows rule) {e : RoutineEvent} (hstep : e.step s = some s')
    (hcreate : ∀ x limit data, e = .createDevice x limit data true →
      rule.holds True False False)
    (hupdate : ∀ x deviceId data, e = .updateDevice x deviceId data true →
      ∀ d ∈ s.site.db.devices, d.id = deviceId →
        rule.holds ((data.apply d).backupScheduled = some true) (Active s.schedules deviceId)
          (Idle s.schedules deviceId)) : s'.Follows rule := by
  cases e with
  | wait time =>
    obtain rfl := Option.some.inj hstep
    exact h.kept rfl (fun d hd => ⟨d, hd, rfl⟩) fun d hd => ⟨d, hd, rfl, Iff.rfl⟩
  | configure deviceGroups deviceSubgroups deviceTypes =>
    obtain rfl := Option.some.inj hstep
    exact h.kept rfl (fun d hd => ⟨d, hd, rfl⟩) fun d hd => ⟨d, hd, rfl, Iff.rfl⟩
  | createDevice x limit data cutOff =>
    exact follows_createDevice h hstep fun hcut => hcreate x limit data (hcut ▸ rfl)
  | updateDevice x deviceId data cutOff =>
    exact follows_updateDevice h hstep fun hcut => hupdate x deviceId data (hcut ▸ rfl)
  | deleteDevice deviceId =>
    obtain rfl := Option.some.inj hstep
    obtain ⟨hkept, hback⟩ := devices_modify s.site.db.devices (fun d => d.id = deviceId) retired
    refine h.kept rfl hkept fun d' hd' => ?_
    obtain ⟨d, hd, hid, he⟩ := hback d' hd'
    refine ⟨d, hd, hid, ?_⟩
    rw [he]
    split <;> rfl
  | applyDailySchedule x session tenantSlug form =>
    obtain ⟨reply, hok⟩ := toOption_map_fst hstep
    obtain ⟨tenant, affected, -, -, hdone⟩ := applyDailySchedule_ok hok
    exact follows_applyDaily h (activeDevices_sublist ..) hdone
  | enableBackupQueueAll x session tenantSlug =>
    obtain ⟨reply, hok⟩ := toOption_map_fst hstep
    obtain ⟨tenant, dailyTime, affected, -, hdone⟩ := enableBackupQueueAll_ok hok
    exact follows_applyDaily h (activeDevices_sublist ..) hdone
  | runScheduledBackups x =>
    obtain ⟨report, hrun, hsite⟩ := step_run hstep
    exact follows_run h hrun hsite

end Steps

/-! ## What an execution reports -/

section Report

variable {site : Site} {x : Choices} {now : Int} {s s' : Scheduled} {report : Report}

theorem runRows_report {added : List Schedule} {rows : List Tracked}
    (h : (runRows site x now added rows).run (DbCommand.handle site) s = (some report, s')) :
    report.schedulesChecked = rows.length ∧
      report.initializedNextRun = added.length + (initialiseRows site now [] rows).initialized := by
  unfold runRows at h
  rw [Prog.run_bind] at h
  generalize (runTenants site x now (sortedIds (initialiseRows site now [] rows).due)
    { rows := (initialiseRows site now [] rows).rows }).run (DbCommand.handle site) s = result at h
  obtain ⟨b, t⟩ := result
  dsimp only at h
  rw [Prog.run_bind] at h
  generalize (Prog.ask (DbCommand.commit added b.rows)).run (DbCommand.handle site) t = answer at h
  obtain ⟨committed, u⟩ := answer
  cases committed with
  | false => cases (Prod.mk.inj h).1
  | true =>
    obtain rfl := Option.some.inj (Prod.mk.inj h).1
    exact ⟨rfl, rfl⟩

theorem initialised_eq_zero {done todo : List Tracked}
    (h : ∀ t ∈ todo, t.current.nextRunAt ≠ none) :
    (initialiseRows site now done todo).initialized = 0 := by
  induction todo generalizing done with
  | nil => rfl
  | cons t todo ih =>
    unfold initialiseRows
    have hrest := @ih (done ++ [visitRow site now done t todo])
      fun t' ht' => h t' (List.mem_cons_of_mem _ ht')
    have hhead := h t List.mem_cons_self
    simp [hrest, hhead]

/-- Every row has a next run. -/
def Timed (schedules : Table Schedule) : Prop := ∀ r ∈ schedules, r.nextRunAt ≠ none

/-- The rows that an execution adds or visits have a next run afterwards. -/
theorem timed_run (htimed : Timed s.schedules)
    (h : (runScheduledBackups site x).run (DbCommand.handle site) s = (some report, s')) :
    Timed s'.schedules := by
  obtain ⟨rows, _, hsession, hrun⟩ := run_started h
  obtain ⟨table, hinserted, hschedules, -⟩ := run_runRows hrun
  obtain rfl := Option.some.inj (hinserted.symm.trans hsession.inserted)
  obtain ⟨hloaded, hsame, hvisited, hsettled⟩ := hsession.finished
  have htable : ∀ r ∈ table, r.nextRunAt ≠ none := by
    intro r hr
    rcases (mem_of_addAll hinserted).mp hr with hr | hr
    · exact htimed r hr
    · obtain ⟨d, -, rfl⟩ := List.mem_map.mp hr
      exact Option.some_ne_none _
  intro r' hr'
  rw [hschedules, Table.mem_modify] at hr'
  obtain ⟨r, hr, rfl⟩ := hr'
  obtain ⟨hwritten, hleft⟩ := apply_updates hloaded hsame hr
  rw [if_pos rfl]
  by_cases henabled : site.enabledSchedule r = true
  · obtain ⟨t, ht, rfl, happly⟩ := hwritten henabled
    rw [happly]
    by_cases hdue : ∃ tenant, site.tenantOf t.loaded = some tenant ∧
        site.isDue s.now s.schedules tenant = true
    · obtain ⟨tenant, htenant, hdue⟩ := hdue
      obtain ⟨_, next, -, hall⟩ := hsettled tenant hdue
      rw [(hall t ht ((hsame t ht).tenantOf.trans htenant)).2]
      exact Option.some_ne_none _
    · obtain ⟨next, hnext, -⟩ := hvisited t ht fun tenant htenant hof =>
        hdue ⟨tenant, htenant, hof⟩
      rw [hnext]
      exact Option.some_ne_none _
  · rw [hleft henabled]
    exact htable r hr

end Report

section InStep

variable {s s' : Deployment}

theorem Written.timed {t t' : Table Schedule} {ds : List Uuid} {time : String}
    {nextRun : Uuid → Int} (h : Written t t' ds time nextRun) (hone : OneEach t)
    (htimed : Timed t) : Timed t' := by
  intro r hr
  by_cases hds : r.deviceId ∈ ds
  · obtain ⟨w, hw, hid, hdaily⟩ := h.row _ hds
    rw [h.oneEach hone r hr w hw hid.symm, ← hdaily]
    exact Option.some_ne_none _
  · exact htimed r ((h.other r hds).mp hr)

theorem timed_step (hone : OneEach s.schedules) (htimed : Timed s.schedules) {e : RoutineEvent}
    (hstep : e.step s = some s') : Timed s'.schedules := by
  by_cases hrequest : ∀ x, e ≠ .runScheduledBackups x
  · rcases request_schedules hstep hrequest with hsame | ⟨_, _, _, hwritten⟩ | ⟨x, device, hstop⟩
    · exact hsame ▸ htimed
    · exact hwritten.timed hone htimed
    · obtain ⟨-, -, hrows⟩ := stopSchedule_spec (x := x) (t := s.schedules) device
      rw [hstop]
      intro r hr
      obtain ⟨a, ha, -, hnext⟩ := hrows r hr
      exact hnext ▸ htimed a ha
  · obtain ⟨x, he⟩ := not_forall_not.mp hrequest
    subst he
    obtain ⟨report, hrun, -⟩ := step_run hstep
    exact timed_run htimed hrun

/-- In step, the enabled schedules are those of the enabled devices, one for each. -/
theorem Deployment.Follows.enabledSchedules_perm (h : s.Follows .inStep) :
    ((s.schedules.rows.filter s.site.enabledSchedule).map Schedule.deviceId).Perm
      ((s.site.db.devices.rows.filter s.site.enabledDevice).map Device.id) := by
  have hrows : ((s.schedules.rows.filter s.site.enabledSchedule).map Schedule.deviceId).Nodup := by
    refine List.Nodup.map_on (fun a ha b hb hid => ?_)
      ((List.Nodup.of_map _ s.schedules.nodup).filter _)
    exact h.oneEach a (List.mem_filter.mp ha).1 b (List.mem_filter.mp hb).1 hid
  refine (List.perm_ext_iff_of_nodup hrows
    ((List.filter_sublist.map Device.id).nodup s.site.db.devices.nodup)).mpr fun i => ?_
  constructor
  · intro hi
    obtain ⟨r, hr, rfl⟩ := List.mem_map.mp hi
    have henabled := (List.mem_filter.mp hr).2
    unfold Site.enabledSchedule at henabled
    rw [Bool.and_eq_true, Option.any_eq_true] at henabled
    obtain ⟨-, d, hd, henabled⟩ := henabled
    obtain ⟨hmem, hid⟩ := Table.find_eq_some.mp hd
    exact List.mem_map.mpr ⟨d, List.mem_filter.mpr ⟨hmem, henabled⟩, hid⟩
  · intro hi
    obtain ⟨d, hd, rfl⟩ := List.mem_map.mp hi
    obtain ⟨hmem, henabled⟩ := List.mem_filter.mp hd
    have hon : d.backupScheduled = some true := by
      have hparts := henabled
      unfold Site.enabledDevice at hparts
      simp only [Bool.and_eq_true, decide_eq_true_eq] at hparts
      exact hparts.1.2
    obtain ⟨r, hr, hid, hactive⟩ := (h.fits d hmem).1.mp hon
    have hfound : s.site.device r = some d := Table.find_eq_some.mpr ⟨hmem, hid.symm⟩
    refine List.mem_map.mpr ⟨r, List.mem_filter.mpr ⟨hr, ?_⟩, hid⟩
    unfold Site.enabledSchedule
    simp [hactive, hfound, henabled]

/-- In step, an execution adds no row, and it checks one for each enabled device. -/
theorem Deployment.Follows.run_report (h : s.Follows .inStep) (htimed : Timed s.schedules)
    {x : Choices} {report : Report} {t : Scheduled}
    (hrun : (runScheduledBackups s.site x).run (DbCommand.handle s.site) s.scheduled =
      (some report, t)) : report.initializedNextRun = 0 ∧
      report.schedulesChecked = (s.site.db.devices.rows.filter s.site.enabledDevice).length := by
  have hadded : addedSchedules s.site x s.scheduled = [] := by
    refine List.eq_nil_iff_forall_not_mem.mpr fun r hr => ?_
    obtain ⟨-, d, hd, henabled, -, hnone⟩ := mem_addedSchedules hr
    have hmem : d.id ∈ (s.site.db.devices.rows.filter s.site.enabledDevice).map Device.id :=
      List.mem_map_of_mem (List.mem_filter.mpr ⟨hd, henabled⟩)
    obtain ⟨a, ha, hid⟩ := List.mem_map.mp (h.enabledSchedules_perm.mem_iff.mpr hmem)
    obtain ⟨ha, hactive⟩ := List.mem_filter.mp ha
    exact hnone a ha hid (of_decide_eq_true (Bool.and_eq_true_iff.mp hactive).1)
  obtain ⟨rows, table, hsession, hrows⟩ := run_started hrun
  rw [hadded] at hsession hrows
  obtain ⟨hchecked, hinitialised⟩ := runRows_report hrows
  obtain rfl : s.schedules = table := Option.some.inj hsession.inserted
  have hperm : (rows.map Tracked.loaded).Perm
      (s.schedules.rows.filter s.site.enabledSchedule) := by
    have hloaded : (rows.map Tracked.loaded).Nodup := by
      apply List.Nodup.of_map Schedule.id
      rw [List.map_map]
      exact hsession.nodup
    refine (List.perm_ext_iff_of_nodup hloaded
      ((List.Nodup.of_map _ s.schedules.nodup).filter _)).mpr fun r => ?_
    rw [hsession.loaded, List.mem_filter]
    exact Iff.rfl
  constructor
  · rw [hinitialised, initialised_eq_zero, List.length_nil]
    intro r hr
    rw [hsession.untouched r hr]
    exact htimed _ ((hsession.loaded _).mp (List.mem_map_of_mem hr)).1
  · have hlength := hperm.length_eq
    have hdevices := h.enabledSchedules_perm.length_eq
    rw [List.length_map] at hlength hdevices
    rw [List.length_map] at hdevices
    omega

end InStep

/-! ## Whole runs -/

section Runs

variable {s s' : Deployment} {e : RoutineEvent}

/-- An execution that commits meets no row that it does not see. -/
def RoutineEvent.Sees (s : Deployment) (e : RoutineEvent) : Prop :=
  ∀ x, e = .runScheduledBackups x → (e.step s).isSome = true → RowsSeen s.site s.schedules

/-- Only the task adds a row to another one. -/
theorem oneEach_step (hone : OneEach s.schedules) (hstep : e.step s = some s') :
    OneEach s'.schedules ↔ e.Sees s := by
  by_cases hrequest : ∀ x, e ≠ .runScheduledBackups x
  · have hone' : OneEach s'.schedules := by
      rcases request_schedules hstep hrequest with hsame | ⟨_, _, _, hwritten⟩ | ⟨x, device, hstop⟩
      · exact hsame ▸ hone
      · exact hwritten.oneEach hone
      · exact hstop ▸ ((stopSchedule_spec device).1 hone).1
    exact ⟨fun _ x he => absurd he (hrequest x), fun _ => hone'⟩
  · obtain ⟨x, he⟩ := not_forall_not.mp hrequest
    subst he
    obtain ⟨report, hrun, -⟩ := step_run hstep
    rw [show OneEach s'.schedules ↔ _ from oneEach_run_iff hone hrun]
    refine ⟨fun hseen _ _ _ => hseen, fun hsees => ?_⟩
    exact hsees x rfl (Option.isSome_of_eq_some hstep)

theorem follows_seenRows_step (h : s.Follows .seenRows) (hcut : ¬ e.CutsOn s)
    (hstep : e.step s = some s') : s'.Follows .seenRows := by
  refine follows_step h hstep (fun _ _ _ _ _ => not_false) fun x deviceId data he d hd hid => ?_
  subst he
  exact fun hon hidle => hcut ⟨rfl, hidle, d, hd, hid, hon⟩

/-- **One row for each device.** No device ever has two rows exactly if each execution of the task
that commits sees every row of the devices that it backs up, and that is so as long as no edit that
switches a device on is cut off between its two commits. -/
theorem one_row_each (s : Deployment) (h : s.Follows .seenRows) (es : List RoutineEvent) :
    ((∀ es₁ es₂ s', es = es₁ ++ es₂ → exec RoutineEvent.step s es₁ = some s' →
        OneEach s'.schedules) ↔
      Along RoutineEvent.step (fun s e => e.Sees s) s es) ∧
    (Along RoutineEvent.step (fun s e => ¬ e.CutsOn s) s es →
      ∀ s', exec RoutineEvent.step s es = some s' → s'.Follows .seenRows) := by
  constructor
  · refine prefixes_iff_along_all (fun s e hstuck x _ hsome => ?_)
      (fun s e s' hone hstep => oneEach_step hone hstep) h.oneEach
    rw [hstuck] at hsome
    cases hsome
  · intro hcut s' hrun
    exact exec_invariant (fun s e s' h hcut hstep => follows_seenRows_step h hcut hstep) h hcut
      hrun

/-- A device that does not take part, with the row of a time when it did. -/
def switchedOff : Deployment where
  site :=
    { env := .ascii
      digits := .onlyAscii
      zone := .fixed (-3 * hour)
      db :=
        { tenants := [{ id := 1, slug := "acme", accessUnlimited := true }]
          devices := { rows :=
            [{ plainDevice 10 none [] with backupScheduled := some false }] }
          deviceGroups :=
            { rows := [{ id := 20, tenantId := 1, name := "POP", slug := "pop" }] } } }
  scheduled :=
    { schedules := { rows :=
        [{ id := 30, deviceId := 10, time := "03:00", isActive := some false
           nextRunAt := some 0 }] } }

theorem switchedOff_follows : switchedOff.Follows .seenRows where
  oneEach a ha b hb _ := (List.mem_singleton.mp ha).trans (List.mem_singleton.mp hb).symm
  known r hr := by
    obtain rfl := List.mem_singleton.mp hr
    exact ⟨_, List.mem_singleton_self _, rfl⟩
  fits d hd := by
    obtain rfl := List.mem_singleton.mp hd
    exact fun hon _ => absurd hon (by decide)

def switchOnCutOff : RoutineEvent :=
  .updateDevice { fresh := (· + 100) } 10 intoRoutine true

/-- After an edit that was cut off, the next execution gives the device a second row. -/
theorem one_row_each_cutOff : ¬ ∀ es₁ es₂ s',
    [switchOnCutOff, .runScheduledBackups smallChoices] = es₁ ++ es₂ →
      exec RoutineEvent.step switchedOff es₁ = some s' → OneEach s'.schedules := by
  intro hall
  have hsees := (one_row_each switchedOff switchedOff_follows _).1.mp hall
  obtain ⟨t, ht⟩ := Option.isSome_iff_exists.mp
    (show (switchOnCutOff.step switchedOff).isSome = true by decide +kernel)
  have hseen := (hsees.2 t ht).1 smallChoices rfl
  obtain rfl := Option.some.inj ht
  have hactive := hseen (by decide +kernel) _ List.mem_cons_self _ rfl (by decide +kernel)
  exact absurd hactive (by decide)

/-- The devices that take part are those with an active row, and each row has a next run. -/
structure Deployment.InStep (s : Deployment) : Prop where
  follows : s.Follows .inStep
  timed : Timed s.schedules

theorem inStep_step (h : s.InStep) (hwhole : e.cutOff = false) (hstep : e.step s = some s') :
    s'.InStep where
  follows := by
    refine follows_step h.follows hstep (fun x limit data he => ?_) (fun x deviceId data he => ?_)
    · subst he
      cases hwhole
    · subst he
      cases hwhole
  timed := timed_step h.follows.oneEach h.timed hstep

/-- **In step.** As long as no request is cut off, the devices that take part are those with an
active row. An execution then adds no row, sets no first run, and checks one row for each enabled
device. -/
theorem in_step_forever (s : Deployment) (h : s.InStep) (es : List RoutineEvent)
    (hcut : ∀ e ∈ es, e.cutOff = false) (s' : Deployment)
    (hrun : exec RoutineEvent.step s es = some s') :
    s'.InStep ∧
      ∀ x report t, (runScheduledBackups s'.site x).run (DbCommand.handle s'.site) s'.scheduled =
        (some report, t) → report.initializedNextRun = 0 ∧
        report.schedulesChecked =
          (s'.site.db.devices.rows.filter s'.site.enabledDevice).length := by
  have hinv : s'.InStep :=
    exec_invariant (fun s e s' h hwhole hstep => inStep_step h hwhole.2 hstep) h
      (along_true.and_mem hcut) hrun
  exact ⟨hinv, fun x report t hreport => hinv.follows.run_report hinv.timed hreport⟩

end Runs

/-- The device is switched on, and all devices are put on one time. -/
def switchOnAndApply : List RoutineEvent :=
  [.updateDevice { fresh := (· + 100) } 10 intoRoutine false,
    .applyDailySchedule { fresh := (· + 200) } ⟨7, .tenantAdmin, "acme"⟩ "acme"
      { dailyTime := some "04:30", applyScope := some "all" }, .wait 172800000000]

theorem switchedOff_inStep : switchedOff.InStep where
  follows :=
    { oneEach := switchedOff_follows.oneEach
      known := switchedOff_follows.known
      fits := by
        intro d hd
        obtain rfl := List.mem_singleton.mp hd
        refine RoutineRule.inStep.holds_off (by decide) fun ⟨r, hr, _, hactive⟩ => ?_
        obtain rfl := List.mem_singleton.mp hr
        cases hactive }
  timed r hr := by
    obtain rfl := List.mem_singleton.mp hr
    exact Option.some_ne_none _

theorem in_step_forever_switchedOn : ∃ s' report t,
    exec RoutineEvent.step switchedOff switchOnAndApply = some s' ∧
      (runScheduledBackups s'.site smallChoices).run (DbCommand.handle s'.site) s'.scheduled =
        (some report, t) ∧ report.initializedNextRun = 0 ∧ report.schedulesChecked = 1 := by
  obtain ⟨u, hu⟩ := Option.isSome_iff_exists.mp
    (show (exec RoutineEvent.step switchedOff
      (switchOnAndApply ++ [.runScheduledBackups smallChoices])).isSome = true by decide +kernel)
  obtain ⟨s', hs', hstep⟩ := exec_concat hu
  obtain ⟨report, hreport, -⟩ := step_run hstep
  obtain ⟨-, hruns⟩ := in_step_forever switchedOff switchedOff_inStep switchOnAndApply
    (by decide) s' hs'
  obtain ⟨hinitialised, hchecked⟩ := hruns smallChoices report _ hreport
  have hcount : (exec RoutineEvent.step switchedOff switchOnAndApply).map (fun s =>
      (s.site.db.devices.rows.filter s.site.enabledDevice).length) = some 1 := by decide +kernel
  rw [hs'] at hcount
  exact ⟨s', report, _, hs', hreport, hinitialised, hchecked.trans (Option.some.inj hcount)⟩

end BackupCenter.Scheduling
