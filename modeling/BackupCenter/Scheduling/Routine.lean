import BackupCenter.Scheduling.Run
import BackupCenter.Tenants.Placement

/-!
# The daily routine of a tenant

A device takes part in the automatic backups if `backup_scheduled` is set, and a row of `schedules`
says when. Nothing in the database ties the two together: the requests that create or edit a
device write both, in two commits, and so do those that put all devices of a tenant on a daily
time, in one. The periodic task adds the rows that it misses.
-/
namespace BackupCenter.Scheduling

open BackupCenter.Lib BackupCenter.Tenants

/-- The deployment between two requests. -/
structure Deployment where
  site : Site
  scheduled : Scheduled := {}

def Deployment.schedules (s : Deployment) : Table Schedule := s.scheduled.schedules

def Deployment.withDevices (s : Deployment) (devices : Table Device) : Deployment :=
  { s with site.db.devices := devices }

def Deployment.withSchedules (s : Deployment) (schedules : Table Schedule) : Deployment :=
  { s with scheduled.schedules := schedules }

/-- What a request leaves open: the ids of new rows, how long it takes until a device has its turn,
and the order of the rows that a query returns. -/
structure RequestChoices where
  fresh : Uuid → Uuid
  delay : Uuid → Nat := fun _ => 0
  rows : RowOrder Schedule := .asStored

/-! ## Writing a row -/

def Schedule.daily (time : String) (nextRun : Int) (r : Schedule) : Schedule :=
  { r with
    frequency := .daily
    time := time
    dayOfWeek := none
    dayOfMonth := none
    isActive := some true
    nextRunAt := some nextRun }

/-- A row of the device, or a new one, becomes its daily schedule. -/
def saveDaily (schedules : Table Schedule) (schedule : Option Schedule) (id device : Uuid)
    (time : String) (nextRun : Int) : Option (Table Schedule) :=
  match schedule with
  | some r => some (schedules.modify (fun a => a.id = r.id) { apply := .daily time nextRun })
  | none => schedules.add (.daily time nextRun { id, deviceId := device, time })

section Service

variable (site : Site) (x : RequestChoices) (now : Int)

/-- `_infer_tenant_daily_schedule_time` -/
def inferTenantDailyScheduleTime (schedules : Table Schedule) (tenantId : Uuid) : String :=
  let rows := x.rows.apply (schedules.rows.filter fun r => r.isActive = some true &&
    (site.device r).any fun d =>
      d.tenantId = tenantId && d.isActive ≠ some false && d.backupScheduled = some true)
  let times := (rows.filter fun r => r.time ≠ "").map fun r =>
    site.digits.sanitizeDailyTime r.time
  (mostCommon times).getD "02:00"

/-- `query(Schedule).filter(Schedule.device_id == device_id).first()` -/
def firstSchedule (schedules : Table Schedule) (device : Uuid) : Option Schedule :=
  (x.rows.apply (schedules.rows.filter fun r => r.deviceId = device)).head?

/-- `_ensure_global_daily_schedule` -/
def ensureGlobalDailySchedule (schedules : Table Schedule) (device : Device) :
    Option (Table Schedule) :=
  let inferredTime := inferTenantDailyScheduleTime site x schedules device.tenantId
  saveDaily schedules (firstSchedule x schedules device.id) (x.fresh device.id) device.id
    inferredTime (site.nextRunAt inferredTime (now + x.delay device.id))

/-- The schedule of a device that does not take part any longer. -/
def stopSchedule (schedules : Table Schedule) (device : Uuid) : Table Schedule :=
  match firstSchedule x schedules device with
  | some r => schedules.modify (fun a => a.id = r.id) { apply := fun a =>
      { a with isActive := some false } }
  | none => schedules

end Service

/-! ## `DeviceService` -/

/-- `create_device`; `limit` is that of the plan. A request that is cut off has made its first
commit only. -/
def createDevice (x : RequestChoices) (limit : Option Int) (data : Device) (cutOff : Bool)
    (s : Deployment) : Option Deployment := do
  let tenant ← s.site.db.tenants.find? fun t => t.id = data.tenantId
  guard ((checkCanAddDevice s.site.db tenant limit).allowed = true)
  let groupId ← data.groupId
  let group ← s.site.db.deviceGroups.find groupId
  guard (group.tenantId = tenant.id ∧ group.isActive = some true)
  let device := { data with subgroupId := none, isActive := some true }
  let s := s.withDevices (← s.site.db.devices.add device)
  if cutOff ∨ device.backupScheduled ≠ some true then return s
  else
    return s.withSchedules
      (← ensureGlobalDailySchedule s.site x s.scheduled.now s.schedules device)

/-- `update_device`, for any columns in the dictionary. -/
def updateDevice (x : RequestChoices) (deviceId : Uuid) (data : Update Device) (cutOff : Bool)
    (s : Deployment) : Option Deployment := do
  let device := data.apply (← s.site.db.devices.find deviceId)
  let s := s.withDevices (s.site.db.devices.modify (fun d => d.id = deviceId) data)
  if cutOff then return s
  else if device.backupScheduled = some true then
    return s.withSchedules
      (← ensureGlobalDailySchedule s.site x s.scheduled.now s.schedules device)
  else return s.withSchedules (stopSchedule x s.schedules device.id)

theorem key_retired (d : Device) : key { d with isActive := some false } = key d := rfl

def retired : Update Device where
  apply d := { d with isActive := some false }
  keeps := key_retired

/-- `delete_device` -/
def deleteDevice (deviceId : Uuid) (s : Deployment) : Deployment :=
  s.withDevices (s.site.db.devices.modify (fun d => d.id = deviceId) retired)

/-! ## The schedules page -/

/-- The filter of both routes: an active device, in no group or in an active one. -/
def Site.activeDevice (site : Site) (d : Device) : Bool :=
  d.isActive = some true &&
    match d.groupId with
    | none => true
    | some g => (site.db.deviceGroups.find g).any fun group => group.isActive = some true

def Site.activeDevices (site : Site) (tenantId : Uuid) : List Device :=
  site.db.devices.rows.filter fun d => d.tenantId = tenantId && site.activeDevice d

inductive ApplyScope where
  | missing
  | all
  deriving DecidableEq

/-- The row that is kept for a device when the next one of its rows is read. -/
def keptSchedule (current : Option Schedule) (r : Schedule) : Option Schedule :=
  match current with
  | none => some r
  | some c => if c.isActive ≠ some true ∧ r.isActive = some true then some r else some c

/-- `schedules_by_device.get(device_id)`: the first row of the device, or its first active one. -/
def chosenSchedule (existing : List Schedule) (device : Uuid) : Option Schedule :=
  (existing.filter fun r => r.deviceId = device).foldl keptSchedule none

/-- The device takes part, and one of its rows is active. -/
def inRoutine (existing : List Schedule) (d : Device) : Bool :=
  d.backupScheduled = some true &&
    existing.any fun r => r.deviceId = d.id && r.isActive = some true

def targetDevices (existing : List Schedule) (devices : List Device) : ApplyScope → List Device
  | .missing => devices.filter fun d => !inRoutine existing d
  | .all => devices

/-- The loop over the target devices, with the rows that were there before it. -/
def saveDailyAll (site : Site) (x : RequestChoices) (now : Int) (existing : List Schedule)
    (timeStr : String) : List Device → Table Schedule → Option (Table Schedule)
  | [], schedules => some schedules
  | d :: ds, schedules => do
    let schedules ← saveDaily schedules (chosenSchedule existing d.id) (x.fresh d.id) d.id
      (site.digits.sanitizeDailyTime timeStr) (site.nextRunAt timeStr (now + x.delay d.id))
    saveDailyAll site x now existing timeStr ds schedules

theorem key_intoRoutine (d : Device) : key { d with backupScheduled := some true } = key d := rfl

def intoRoutine : Update Device where
  apply d := { d with backupScheduled := some true }
  keeps := key_intoRoutine

/-- `backup_scheduled` is set on the devices. -/
def switchOn (ids : List Uuid) (devices : Table Device) : Table Device :=
  devices.modify (fun d => ids.contains d.id) intoRoutine

/-- `_apply_daily_to_devices` with the commit, and how many devices it has affected. -/
def applyDailyToDevices (x : RequestChoices) (devices : List Device) (timeStr : String)
    (applyScope : ApplyScope) (s : Deployment) : Option (Deployment × Nat) := do
  let deviceIds := devices.map Device.id
  let existing := x.rows.apply (s.schedules.rows.filter fun r => deviceIds.contains r.deviceId)
  let targets := targetDevices existing devices applyScope
  let schedules ← saveDailyAll s.site x s.scheduled.now existing timeStr targets s.schedules
  let devices := switchOn (targets.map Device.id) s.site.db.devices
  return ((s.withDevices devices).withSchedules schedules, targets.length)

/-- What the routes answer. -/
inductive RoutineReply where
  | page (r : Reply)
  /-- a flash of the category `info` -/
  | info (message : String)
  deriving DecidableEq

/-- `re.match(r"^([01]\d|2[0-3]):([0-5]\d)$", value)` -/
def isValidTime (digits : Digits) (value : String) : Bool :=
  let digit (c : Char) : Bool := (digits.value c).isSome
  let oneOf (chars : List Char) (c : Char) : Bool := chars.contains c
  match value.toList with
  | h :: h' :: colon :: m :: m' :: rest =>
    (oneOf ['0', '1'] h && digit h' || h = '2' && oneOf ['0', '1', '2', '3'] h') &&
      colon = ':' && oneOf ['0', '1', '2', '3', '4', '5'] m && digit m' &&
      (rest = [] || rest = ['\n'])
  | _ => false

structure DailyForm where
  dailyTime : Option String := none
  applyScope : Option String := none

/-- `apply_scope`; what is neither of the two counts as `missing`. -/
def DailyForm.scope (form : DailyForm) : ApplyScope :=
  if strip ((nonempty form.applyScope).getD "missing") = "all" then .all else .missing

/-- The guards of both routes. -/
def routineTenant (session : Tenants.Session) (tenantSlug : String) (s : Deployment) :
    Except RoutineReply Tenant := do
  orRefuse (tenantAdminRequired session) .page
  orRefuse (getDbAndTenant session tenantSlug s.site.db) .page

abbrev RoutineResult := Except RoutineReply (Deployment × RoutineReply)

/-- `apply_daily_schedule` -/
def applyDailySchedule (x : RequestChoices) (session : Tenants.Session) (tenantSlug : String)
    (form : DailyForm) (s : Deployment) : RoutineResult := do
  let tenant ← routineTenant session tenantSlug s
  let timeStr := strip (form.dailyTime.getD "")
  require (isValidTime s.site.digits timeStr = true)
    (.page (.flash "Horario invalido. Use o formato HH:MM." .error))
  let devices := s.site.activeDevices tenant.id
  require (devices ≠ [])
    (.page (.flash "Nenhum dispositivo ativo encontrado para aplicar agendamento." .warning))
  let (s, affected) ← demand (applyDailyToDevices x devices timeStr form.scope s)
    (.page .serverError)
  require (affected ≠ 0)
    (.info "Nenhum dispositivo precisa de sincronizacao no modo selecionado.")
  return (s, .page (.flash (match form.scope with
    | .missing =>
      s!"Rotina diaria {timeStr} sincronizada para {affected} dispositivos pendentes."
    | .all => s!"Rotina diaria {timeStr} regravada para {affected} dispositivos ativos.")
      .success))

/-- `enable_backup_queue_all` -/
def enableBackupQueueAll (x : RequestChoices) (session : Tenants.Session) (tenantSlug : String)
    (s : Deployment) : RoutineResult := do
  let tenant ← routineTenant session tenantSlug s
  let nothing : RoutineReply := .info ("Todos os dispositivos ativos ja estao com backup " ++
    "automatico habilitado e rotina sincronizada.")
  let devices := s.site.activeDevices tenant.id
  require (devices ≠ []) nothing
  let dailyTime := inferTenantDailyScheduleTime s.site x s.schedules tenant.id
  let (s, affected) ← demand (applyDailyToDevices x devices dailyTime .missing s)
    (.page .serverError)
  require (affected ≠ 0) nothing
  return (s, .page (.flash ("Backup automatico habilitado e rotina sincronizada para " ++
    s!"{affected} dispositivos ativos.") .success))

/-! ## Runs -/

inductive RoutineEvent where
  | wait (time : Nat)
  /-- what the pages of groups, subgroups and device types do -/
  | configure (deviceGroups : Table DeviceGroup) (deviceSubgroups : Table DeviceSubgroup)
      (deviceTypes : List DeviceType)
  | createDevice (x : RequestChoices) (limit : Option Int) (data : Device) (cutOff : Bool)
  | updateDevice (x : RequestChoices) (deviceId : Uuid) (data : Update Device) (cutOff : Bool)
  | deleteDevice (deviceId : Uuid)
  | applyDailySchedule (x : RequestChoices) (session : Tenants.Session) (tenantSlug : String)
      (form : DailyForm)
  | enableBackupQueueAll (x : RequestChoices) (session : Tenants.Session) (tenantSlug : String)
  | runScheduledBackups (x : Choices)

/-- The requests and the executions of the task one after the other. One that is refused, or that
draws an id that is taken, does not count. -/
def RoutineEvent.step (s : Deployment) : RoutineEvent → Option Deployment
  | .wait time => some { s with scheduled.now := s.scheduled.now + time }
  | .configure deviceGroups deviceSubgroups deviceTypes => some { s with
      site.db.deviceGroups := deviceGroups
      site.db.deviceSubgroups := deviceSubgroups
      site.deviceTypes := deviceTypes }
  | .createDevice x limit data cutOff => Scheduling.createDevice x limit data cutOff s
  | .updateDevice x deviceId data cutOff => Scheduling.updateDevice x deviceId data cutOff s
  | .deleteDevice deviceId => some (Scheduling.deleteDevice deviceId s)
  | .applyDailySchedule x session tenantSlug form =>
    (Scheduling.applyDailySchedule x session tenantSlug form s).toOption.map Prod.fst
  | .enableBackupQueueAll x session tenantSlug =>
    (Scheduling.enableBackupQueueAll x session tenantSlug s).toOption.map Prod.fst
  | .runScheduledBackups x =>
    let (report, scheduled) :=
      (Scheduling.runScheduledBackups s.site x).run (DbCommand.handle s.site) s.scheduled
    if report.isSome then some { s with scheduled } else none

/-! ## What is written of the rows -/

/-- No device has two rows. -/
def OneEach (schedules : Table Schedule) : Prop :=
  ∀ a ∈ schedules, ∀ b ∈ schedules, a.deviceId = b.deviceId → a = b

/-- A row was written for its device: over another one of it, or because it had none. -/
structure Saved (before after : Table Schedule) (w : Schedule) : Prop where
  mem : ∀ r, r ∈ after ↔ r = w ∨ r ∈ before ∧ r.id ≠ w.id
  own : ∀ r ∈ before, r.id = w.id → r.deviceId = w.deviceId
  reuse : ∀ r ∈ before, r.deviceId = w.deviceId → ∃ r' ∈ before, r'.id = w.id

section Saving

variable {t t' : Table Schedule} {w r : Schedule} {time : String} {nextRun : Int}

theorem Saved.other (h : Saved t t' w) (hr : r.deviceId ≠ w.deviceId) : r ∈ t' ↔ r ∈ t := by
  rw [h.mem]
  constructor
  · rintro (rfl | ⟨hold, -⟩)
    · exact absurd rfl hr
    · exact hold
  · intro hold
    exact .inr ⟨hold, fun hid => hr (h.own r hold hid)⟩

/-- With one row for each device, the device has the written row and no other. -/
theorem Saved.only (h : Saved t t' w) (hone : OneEach t) (hr : r ∈ t')
    (hdevice : r.deviceId = w.deviceId) : r = w := by
  rcases (h.mem r).mp hr with rfl | ⟨hold, hid⟩
  · rfl
  · obtain ⟨r', hr', hid'⟩ := h.reuse r hold hdevice
    have hsame := hone r hold r' hr' (hdevice.trans (h.own r' hr' hid').symm)
    exact absurd (hsame ▸ hid') hid

theorem Saved.oneEach (h : Saved t t' w) (hone : OneEach t) : OneEach t' := by
  intro a ha b hb hdevice
  by_cases hw : a.deviceId = w.deviceId
  · rw [h.only hone ha hw, h.only hone hb (hdevice.symm.trans hw)]
  · exact hone a ((h.other hw).mp ha) b ((h.other (hdevice ▸ hw)).mp hb) hdevice

/-- A row that is changed is written over itself. -/
theorem saved_modify (hr : r ∈ t) (f : Update Schedule)
    (hdevice : (f.apply r).deviceId = r.deviceId) :
    Saved t (t.modify (fun a => a.id = r.id) f) (f.apply r) := by
  have hid : (f.apply r).id = r.id := f.keeps r
  constructor
  · intro a
    rw [Table.mem_modify, hid]
    constructor
    · rintro ⟨b, hb, rfl⟩
      by_cases hsame : b.id = r.id
      · obtain rfl := Table.eq_of_key hb hr hsame
        exact .inl (by simp)
      · exact .inr (by simpa [hsame] using hb)
    · rintro (rfl | ⟨ha, hne⟩)
      · exact ⟨r, hr, by simp⟩
      · exact ⟨a, ha, by simp [hne]⟩
  · intro a ha hsame
    rw [Table.eq_of_key ha hr (hsame.trans hid), hdevice]
  · exact fun _ _ _ => ⟨r, hr, hid.symm⟩

/-- A row that is added is written if its device had none. -/
theorem saved_add (h : t.add w = some t') (hnone : ∀ r ∈ t, r.deviceId ≠ w.deviceId) :
    Saved t t' w := by
  have hnew : t.find w.id = none := Table.add_isSome.mp (Option.isSome_of_eq_some h)
  have hfresh : ∀ r ∈ t, r.id ≠ w.id := by
    intro r hr hid
    have hfound : t.find w.id = some r := Table.find_eq_some.mpr ⟨hr, hid⟩
    exact absurd (hnew.symm.trans hfound) nofun
  constructor
  · intro r
    rw [Table.mem_of_add h]
    exact or_congr_right ⟨fun hr => ⟨hr, hfresh r hr⟩, And.left⟩
  · exact fun r hr hid => absurd hid (hfresh r hr)
  · exact fun r hr hdevice => absurd hdevice (hnone r hr)

/-- The row is on the daily time. -/
def Schedule.IsDaily (time : String) (nextRun : Int) (r : Schedule) : Prop :=
  r.daily time nextRun = r

theorem saved_daily {schedule : Option Schedule} {id device : Uuid}
    (h : saveDaily t schedule id device time nextRun = some t')
    (hsome : ∀ r, schedule = some r → r ∈ t ∧ r.deviceId = device)
    (hnone : schedule = none → ∀ r ∈ t, r.deviceId ≠ device) :
    ∃ w, Saved t t' w ∧ w.deviceId = device ∧ w.IsDaily time nextRun := by
  cases schedule with
  | none => exact ⟨_, saved_add h (hnone rfl), rfl, rfl⟩
  | some r =>
    obtain ⟨hr, rfl⟩ := hsome r rfl
    obtain rfl := Option.some.inj h
    exact ⟨_, saved_modify hr { apply := .daily time nextRun } rfl, rfl, rfl⟩

end Saving

/-! ## What the requests write -/

/-- Each of the devices was put on a daily time, and no other row was written. -/
structure Written (before after : Table Schedule) (devices : List Uuid) (time : String)
    (nextRun : Uuid → Int) : Prop where
  oneEach : OneEach before → OneEach after
  other : ∀ r : Schedule, r.deviceId ∉ devices → (r ∈ after ↔ r ∈ before)
  row : ∀ d ∈ devices, ∃ r ∈ after, r.deviceId = d ∧ r.IsDaily time (nextRun d)

section Written

variable {site : Site} {x : RequestChoices} {now : Int} {t t' : Table Schedule}

theorem Saved.written {w : Schedule} {device : Uuid} {time : String} {nextRun : Uuid → Int}
    (h : Saved t t' w) (hdevice : w.deviceId = device) (hdaily : w.IsDaily time (nextRun device)) :
    Written t t' [device] time nextRun where
  oneEach := h.oneEach
  other r hr := h.other fun he => hr (List.mem_singleton.mpr (he.trans hdevice))
  row d hd := by
    obtain rfl := List.mem_singleton.mp hd
    exact ⟨w, (h.mem w).mpr (.inl rfl), hdevice, hdaily⟩

theorem firstSchedule_eq_some {device : Uuid} {r : Schedule}
    (h : firstSchedule x t device = some r) : r ∈ t ∧ r.deviceId = device := by
  have hmem := (x.rows.perm _).mem_iff.mp (List.mem_of_head? h)
  obtain ⟨hr, hdevice⟩ := List.mem_filter.mp hmem
  exact ⟨hr, of_decide_eq_true hdevice⟩

theorem firstSchedule_eq_none {device : Uuid} (h : firstSchedule x t device = none) :
    ∀ r ∈ t, r.deviceId ≠ device := by
  intro r hr hdevice
  have hmem : r ∈ x.rows.apply (t.rows.filter fun r => r.deviceId = device) :=
    (x.rows.perm _).mem_iff.mpr (List.mem_filter.mpr ⟨hr, decide_eq_true hdevice⟩)
  rw [List.head?_eq_none_iff.mp h] at hmem
  exact absurd hmem List.not_mem_nil

theorem written_ensure {device : Device}
    (h : ensureGlobalDailySchedule site x now t device = some t') :
    ∃ time nextRun, Written t t' [device.id] time nextRun := by
  obtain ⟨w, hsaved, hdevice, hdaily⟩ := saved_daily h
    (fun _ hfirst => firstSchedule_eq_some hfirst) (fun hfirst => firstSchedule_eq_none hfirst)
  exact ⟨_, fun _ => _, hsaved.written hdevice hdaily⟩

/-- What stopping leaves of the rows of the device, and of the others. -/
theorem stopSchedule_spec (device : Uuid) :
    (OneEach t → OneEach (stopSchedule x t device) ∧
      ∀ r ∈ stopSchedule x t device, r.deviceId = device → r.isActive = some false) ∧
    (∀ r : Schedule, r.deviceId ≠ device → (r ∈ stopSchedule x t device ↔ r ∈ t)) ∧
    ∀ r ∈ stopSchedule x t device,
      ∃ a ∈ t, a.deviceId = r.deviceId ∧ a.nextRunAt = r.nextRunAt := by
  unfold stopSchedule
  cases hfirst : firstSchedule x t device with
  | none =>
    have hnone := firstSchedule_eq_none hfirst
    exact ⟨fun hone => ⟨hone, fun r hr hdevice => absurd hdevice (hnone r hr)⟩,
      fun _ _ => Iff.rfl, fun r hr => ⟨r, hr, rfl, rfl⟩⟩
  | some a =>
    obtain ⟨ha, rfl⟩ := firstSchedule_eq_some hfirst
    have hsaved := saved_modify ha { apply := fun a => { a with isActive := some false } } rfl
    refine ⟨fun hone => ⟨hsaved.oneEach hone, fun r hr hdevice => ?_⟩,
      fun r hr => hsaved.other hr, fun r hr => ?_⟩
    · rw [hsaved.only hone hr hdevice]
    · rcases (hsaved.mem r).mp hr with rfl | ⟨hold, -⟩
      · exact ⟨a, ha, rfl, rfl⟩
      · exact ⟨r, hold, rfl, rfl⟩

/-- Of several rows one is kept. -/
theorem foldl_keptSchedule (rows : List Schedule) (current : Option Schedule) :
    (∀ r, rows.foldl keptSchedule current = some r → r ∈ rows ∨ current = some r) ∧
      (rows.foldl keptSchedule current = none → rows = [] ∧ current = none) := by
  induction rows generalizing current with
  | nil => exact ⟨fun r h => .inr h, fun h => ⟨rfl, h⟩⟩
  | cons a rows ih =>
    have hkept : keptSchedule current a = some a ∨
        keptSchedule current a = current ∧ current ≠ none := by
      unfold keptSchedule
      cases current with
      | none => exact .inl rfl
      | some c =>
        dsimp only
        split
        · exact .inl rfl
        · exact .inr ⟨rfl, nofun⟩
    obtain ⟨hsome, hnone⟩ := ih (keptSchedule current a)
    rw [List.foldl_cons]
    constructor
    · intro r hr
      rcases hsome r hr with hmem | hr
      · exact .inl (List.mem_cons_of_mem _ hmem)
      · rcases hkept with hnew | ⟨hold, -⟩
        · exact .inl (Option.some.inj (hnew.symm.trans hr) ▸ List.mem_cons_self)
        · exact .inr (hold.symm.trans hr)
    · intro hr
      obtain ⟨-, hr⟩ := hnone hr
      rcases hkept with hnew | ⟨hold, hne⟩
      · cases hnew.symm.trans hr
      · exact absurd (hold.symm.trans hr) hne

/-- The row that is chosen is one of the device, if it has any. -/
theorem chosenSchedule_spec (existing : List Schedule) (device : Uuid) :
    (∀ r, chosenSchedule existing device = some r → r ∈ existing ∧ r.deviceId = device) ∧
      (chosenSchedule existing device = none → ∀ r ∈ existing, r.deviceId ≠ device) := by
  obtain ⟨hsome, hnone⟩ := foldl_keptSchedule (existing.filter fun r => r.deviceId = device) none
  constructor
  · intro r hr
    obtain ⟨hmem, hdevice⟩ := List.mem_filter.mp ((hsome r hr).resolve_right nofun)
    exact ⟨hmem, of_decide_eq_true hdevice⟩
  · intro hr r hmem hdevice
    have hfiltered : r ∈ existing.filter fun r => r.deviceId = device :=
      List.mem_filter.mpr ⟨hmem, decide_eq_true hdevice⟩
    rw [(hnone hr).1] at hfiltered
    exact absurd hfiltered List.not_mem_nil

/-- The loop over devices whose rows were all there before it. -/
theorem written_all {existing : List Schedule} {timeStr : String} {ds : List Device}
    (h : saveDailyAll site x now existing timeStr ds t = some t')
    (hnodup : (ds.map Device.id).Nodup)
    (hexisting : ∀ r : Schedule, r.deviceId ∈ ds.map Device.id → (r ∈ existing ↔ r ∈ t)) :
    Written t t' (ds.map Device.id) (site.digits.sanitizeDailyTime timeStr)
      fun d => site.nextRunAt timeStr (now + x.delay d) := by
  induction ds generalizing t with
  | nil =>
    obtain rfl := Option.some.inj h
    exact ⟨id, fun _ _ => Iff.rfl, fun d hd => absurd hd List.not_mem_nil⟩
  | cons d ds ih =>
    obtain ⟨u, hu, hrest⟩ := Option.bind_eq_some_iff.mp h
    obtain ⟨hnew, hnodup⟩ := List.nodup_cons.mp hnodup
    obtain ⟨hsome, hnone⟩ := chosenSchedule_spec existing d.id
    have hown : ∀ r : Schedule, r.deviceId = d.id → (r ∈ existing ↔ r ∈ t) :=
      fun r hr => hexisting r (hr ▸ List.mem_cons_self)
    obtain ⟨w, hsaved, hdevice, hdaily⟩ := saved_daily hu
      (fun r hr => ⟨(hown r (hsome r hr).2).mp (hsome r hr).1, (hsome r hr).2⟩)
      (fun hr r hmem hid => hnone hr r ((hown r hid).mpr hmem) hid)
    have hfirst : Written t u [d.id] (site.digits.sanitizeDailyTime timeStr)
        fun d => site.nextRunAt timeStr (now + x.delay d) := hsaved.written hdevice hdaily
    have hwritten := ih hrest hnodup fun r hr => by
      have hne : r.deviceId ∉ [d.id] := fun he => hnew (List.mem_singleton.mp he ▸ hr)
      rw [hfirst.other r hne]
      exact hexisting r (List.mem_cons_of_mem _ hr)
    constructor
    · exact fun hone => hwritten.oneEach (hfirst.oneEach hone)
    · intro r hr
      rw [List.map_cons, List.mem_cons, not_or] at hr
      rw [hwritten.other r hr.2, hfirst.other r fun he => hr.1 (List.mem_singleton.mp he)]
    · intro d' hd'
      rcases List.mem_cons.mp hd' with rfl | hd'
      · obtain ⟨r, hr, hid, hrow⟩ := hfirst.row d.id List.mem_cons_self
        exact ⟨r, (hwritten.other r (hid ▸ hnew)).mpr hr, hid, hrow⟩
      · exact hwritten.row d' hd'

/-- What the two routes write: the target devices are switched on and put on the time. -/
theorem applyDaily_spec {x : RequestChoices} {devices : List Device} {timeStr : String}
    {applyScope : ApplyScope} {s s' : Deployment} {affected : Nat}
    (hdevices : (devices.map Device.id).Nodup)
    (h : applyDailyToDevices x devices timeStr applyScope s = some (s', affected)) :
    ∃ targets : List Device, targets.Sublist devices ∧ (applyScope = .all → targets = devices) ∧
      Written s.schedules s'.schedules (targets.map Device.id)
        (s.site.digits.sanitizeDailyTime timeStr)
        (fun d => s.site.nextRunAt timeStr (s.scheduled.now + x.delay d)) ∧
      s' = (s.withDevices (switchOn (targets.map Device.id) s.site.db.devices)).withSchedules
        s'.schedules := by
  obtain ⟨schedules, hsaved, hs'⟩ := Option.bind_eq_some_iff.mp h
  obtain ⟨rfl, -⟩ := Prod.mk.inj (Option.some.inj hs')
  have hsub : ∀ existing, (targetDevices existing devices applyScope).Sublist devices := by
    intro existing
    cases applyScope with
    | missing => exact List.filter_sublist
    | all => exact .refl _
  refine ⟨_, hsub _, fun hall => ?_, written_all hsaved ?_ fun r hr => ?_, rfl⟩
  · rw [hall]
    rfl
  · exact ((hsub _).map Device.id).nodup hdevices
  · have hid : (devices.map Device.id).contains r.deviceId = true :=
      List.contains_iff_mem.mpr (((hsub _).map Device.id).subset hr)
    rw [(x.rows.perm _).mem_iff, List.mem_filter, hid]
    exact and_iff_left rfl

end Written

theorem toOption_map_fst {r : RoutineResult} {s' : Deployment}
    (h : r.toOption.map Prod.fst = some s') : ∃ reply, r = .ok (s', reply) := by
  cases r with
  | error _ => cases h
  | ok c =>
    obtain rfl := Option.some.inj h
    exact ⟨c.2, rfl⟩

theorem nodup_activeDevices (site : Site) (tenantId : Uuid) :
    ((site.activeDevices tenantId).map Device.id).Nodup :=
  (List.filter_sublist.map Device.id).nodup site.db.devices.nodup

/-- What a route of the schedules page does when it succeeds. -/
theorem applyDailySchedule_ok {x : RequestChoices} {session : Tenants.Session} {tenantSlug : String}
    {form : DailyForm} {s s' : Deployment} {reply : RoutineReply}
    (h : applyDailySchedule x session tenantSlug form s = .ok (s', reply)) :
    ∃ tenant affected, s.site.db.tenantBySlug tenantSlug = some tenant ∧
      s.site.activeDevices tenant.id ≠ [] ∧
      applyDailyToDevices x (s.site.activeDevices tenant.id) (strip (form.dailyTime.getD ""))
        form.scope s = some (s', affected) := by
  simp only [applyDailySchedule, routineTenant, bind_eq_ok, orRefuse_eq_ok, getDbAndTenant_eq_ok,
    require_eq_ok, demand_eq_ok, pure_eq_ok] at h
  obtain ⟨tenant, ⟨-, -, -, htenant⟩, -, -, -, hdevices, c, hc, -, -, hs'⟩ := h
  obtain ⟨rfl, -⟩ := Prod.mk.inj hs'
  exact ⟨tenant, c.2, htenant, hdevices, hc⟩

theorem enableBackupQueueAll_ok {x : RequestChoices} {session : Tenants.Session}
    {tenantSlug : String} {s s' : Deployment} {reply : RoutineReply}
    (h : enableBackupQueueAll x session tenantSlug s = .ok (s', reply)) :
    ∃ tenant dailyTime affected, s.site.db.tenantBySlug tenantSlug = some tenant ∧
      applyDailyToDevices x (s.site.activeDevices tenant.id) dailyTime .missing s =
        some (s', affected) := by
  simp only [enableBackupQueueAll, routineTenant, bind_eq_ok, orRefuse_eq_ok, getDbAndTenant_eq_ok,
    require_eq_ok, demand_eq_ok, pure_eq_ok] at h
  obtain ⟨tenant, ⟨-, -, -, htenant⟩, -, -, c, hc, -, -, hs'⟩ := h
  obtain ⟨rfl, -⟩ := Prod.mk.inj hs'
  exact ⟨tenant, _, c.2, htenant, hc⟩

/-- The first commit of `create_device`, and the second one if there is one. -/
theorem createDevice_cases {x : RequestChoices} {limit : Option Int} {data : Device}
    {cutOff : Bool} {s s' : Deployment} (h : createDevice x limit data cutOff s = some s') :
    ∃ (d : Device) (devices : Table Device), d.id = data.id ∧ d.tenantId = data.tenantId ∧
      d.backupScheduled = data.backupScheduled ∧ s.site.db.devices.add d = some devices ∧
      ((cutOff = true ∨ d.backupScheduled ≠ some true) ∧ s' = s.withDevices devices ∨
        cutOff = false ∧ d.backupScheduled = some true ∧ ∃ schedules time nextRun,
          Written s.schedules schedules [d.id] time nextRun ∧
          s' = (s.withDevices devices).withSchedules schedules) := by
  obtain ⟨tenant, -, h⟩ := Option.bind_eq_some_iff.mp h
  obtain ⟨-, -, h⟩ := Option.bind_eq_some_iff.mp h
  obtain ⟨groupId, -, h⟩ := Option.bind_eq_some_iff.mp h
  obtain ⟨group, -, h⟩ := Option.bind_eq_some_iff.mp h
  obtain ⟨-, -, h⟩ := Option.bind_eq_some_iff.mp h
  obtain ⟨devices, hdevices, h⟩ := Option.bind_eq_some_iff.mp h
  refine ⟨{ data with subgroupId := none, isActive := some true }, devices, rfl, rfl, rfl,
    hdevices, ?_⟩
  split_ifs at h with hfirst
  · exact .inl ⟨hfirst, (Option.some.inj h).symm⟩
  · obtain ⟨schedules, hschedules, hs'⟩ := Option.bind_eq_some_iff.mp h
    obtain ⟨time, nextRun, hwritten⟩ := written_ensure hschedules
    rw [not_or, not_not, Bool.not_eq_true] at hfirst
    exact .inr ⟨hfirst.1, hfirst.2, schedules, time, nextRun, hwritten, (Option.some.inj hs').symm⟩

/-- The first commit of `update_device`, and the second one by what it has made of the device. -/
theorem updateDevice_cases {x : RequestChoices} {deviceId : Uuid} {data : Update Device}
    {cutOff : Bool} {s s' : Deployment} (h : updateDevice x deviceId data cutOff s = some s') :
    ∃ d ∈ s.site.db.devices, d.id = deviceId ∧
      ∃ t, t = s.withDevices (s.site.db.devices.modify (fun d => d.id = deviceId) data) ∧
      (cutOff = true ∧ s' = t ∨
        cutOff = false ∧ (data.apply d).backupScheduled = some true ∧
          (∃ schedules time nextRun, Written s.schedules schedules [deviceId] time nextRun ∧
            s' = t.withSchedules schedules) ∨
        cutOff = false ∧ (data.apply d).backupScheduled ≠ some true ∧
          s' = t.withSchedules (stopSchedule x s.schedules deviceId)) := by
  obtain ⟨d, hd, h⟩ := Option.bind_eq_some_iff.mp h
  obtain ⟨hmem, rfl⟩ := Table.find_eq_some.mp hd
  have hid : (data.apply d).id = d.id := data.keeps d
  refine ⟨d, hmem, rfl, _, rfl, ?_⟩
  cases cutOff with
  | true => exact .inl ⟨rfl, (Option.some.inj h).symm⟩
  | false =>
    right
    by_cases hon : (data.apply d).backupScheduled = some true
    · simp only [Bool.false_eq_true, if_false, if_pos hon] at h
      obtain ⟨schedules, hschedules, hs'⟩ := Option.bind_eq_some_iff.mp h
      obtain ⟨time, nextRun, hwritten⟩ := written_ensure hschedules
      rw [hid] at hwritten
      exact .inl ⟨rfl, hon, schedules, time, nextRun, hwritten, (Option.some.inj hs').symm⟩
    · simp only [Bool.false_eq_true, if_false, if_neg hon, hid] at h
      exact .inr ⟨rfl, hon, (Option.some.inj h).symm⟩

/-- What a request does to the rows: nothing, or it puts devices on a daily time, or it stops the
row of a device. -/
theorem request_schedules {s s' : Deployment} {e : RoutineEvent} (hstep : e.step s = some s')
    (hrequest : ∀ x, e ≠ .runScheduledBackups x) :
    s'.schedules = s.schedules ∨
      (∃ devices time nextRun, Written s.schedules s'.schedules devices time nextRun) ∨
      ∃ x device, s'.schedules = stopSchedule x s.schedules device := by
  cases e with
  | wait time =>
    obtain rfl := Option.some.inj hstep
    exact .inl rfl
  | configure deviceGroups deviceSubgroups deviceTypes =>
    obtain rfl := Option.some.inj hstep
    exact .inl rfl
  | createDevice x limit data cutOff =>
    obtain ⟨d, devices, -, -, -, -, ⟨-, rfl⟩ | ⟨-, -, schedules, time, nextRun, hwritten, rfl⟩⟩ :=
      createDevice_cases hstep
    · exact .inl rfl
    · exact .inr (.inl ⟨_, time, nextRun, hwritten⟩)
  | updateDevice x deviceId data cutOff =>
    obtain ⟨d, -, rfl, t, rfl, hcases⟩ := updateDevice_cases hstep
    rcases hcases with ⟨-, rfl⟩ | ⟨-, -, schedules, time, nextRun, hwritten, rfl⟩ | ⟨-, -, rfl⟩
    · exact .inl rfl
    · exact .inr (.inl ⟨_, time, nextRun, hwritten⟩)
    · exact .inr (.inr ⟨x, d.id, rfl⟩)
  | deleteDevice deviceId =>
    obtain rfl := Option.some.inj hstep
    exact .inl rfl
  | applyDailySchedule x session tenantSlug form =>
    obtain ⟨reply, hok⟩ := toOption_map_fst hstep
    obtain ⟨tenant, affected, -, -, hdone⟩ := applyDailySchedule_ok hok
    obtain ⟨_, -, -, hwritten, -⟩ := applyDaily_spec (nodup_activeDevices ..) hdone
    exact .inr (.inl ⟨_, _, _, hwritten⟩)
  | enableBackupQueueAll x session tenantSlug =>
    obtain ⟨reply, hok⟩ := toOption_map_fst hstep
    obtain ⟨tenant, dailyTime, affected, -, hdone⟩ := enableBackupQueueAll_ok hok
    obtain ⟨_, -, -, hwritten, -⟩ := applyDaily_spec (nodup_activeDevices ..) hdone
    exact .inr (.inl ⟨_, _, _, hwritten⟩)
  | runScheduledBackups x => exact absurd rfl (hrequest x)

end BackupCenter.Scheduling
