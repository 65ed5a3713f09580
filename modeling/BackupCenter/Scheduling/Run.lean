import BackupCenter.Lib.Interleaving
import BackupCenter.Scheduling.Routing

/-!
# The periodic task

`run_scheduled_backups` after its guard. An execution reads the schedules, works on objects of
its own session, hands tasks to the broker as it goes, and writes what it changed in one commit
at the end. A second query returns the objects of the first one again, with what the session
knows of them.
-/
namespace BackupCenter.Scheduling

open BackupCenter.Lib BackupCenter.Tenants

/-- An object of the session: a row as it was loaded or inserted, and as it is now. -/
structure Tracked where
  loaded : Schedule
  current : Schedule

def Tracked.load (r : Schedule) : Tracked := ⟨r, r⟩

def Tracked.edit (t : Tracked) (f : Schedule → Schedule) : Tracked :=
  { t with current := f t.current }

/-- The column is written only if the session changed it. -/
def written {α : Type} [DecidableEq α] (loaded current stored : α) : α :=
  if current = loaded then stored else current

/-- `UPDATE schedules SET ... WHERE id = ...` with the columns that were changed. -/
def Tracked.update (t : Tracked) (stored : Schedule) : Schedule :=
  { stored with
    frequency := written t.loaded.frequency t.current.frequency stored.frequency
    time := written t.loaded.time t.current.time stored.time
    dayOfWeek := written t.loaded.dayOfWeek t.current.dayOfWeek stored.dayOfWeek
    dayOfMonth := written t.loaded.dayOfMonth t.current.dayOfMonth stored.dayOfMonth
    lastRunAt := written t.loaded.lastRunAt t.current.lastRunAt stored.lastRunAt
    nextRunAt := written t.loaded.nextRunAt t.current.nextRunAt stored.nextRunAt }

/-- The updates of all objects of the session. -/
def updates (rows : List Tracked) : Update Schedule where
  apply r :=
    match rows.find? fun t => t.loaded.id = r.id with
    | some t => t.update r
    | none => r
  keeps r := by split <;> rfl

/-- A device was handed to the workers while `window` was the next run of its schedule. -/
structure Dispatch where
  device : Uuid
  schedule : Uuid
  window : Int
  now : Int
  deriving DecidableEq

inductive DbCommand where
  /-- `utc_now_naive()` -/
  | utcNow
  /-- the query for the schedules, in a transaction that has inserted `pending` -/
  | querySchedules (pending : List Schedule)
  /-- `db.flush()` of new rows; it fails if one of them has the id of another row -/
  | flush (added : List Schedule)
  /-- `apply_async`, with the schedules of the devices that the task carries -/
  | enqueue (e : Enqueued) (dispatches : List Dispatch)
  /-- `db.commit()` -/
  | commit (added : List Schedule) (rows : List Tracked)

abbrev DbCommand.Answer : DbCommand → Type
  | .utcNow => Int
  | .querySchedules _ => List Schedule
  | .flush _ => Bool
  | .enqueue .. => Unit
  | .commit .. => Bool

/-- What the executions share. `dispatched` lists what was handed over; no program reads it. -/
structure Scheduled where
  schedules : Table Schedule := .empty
  now : Int := 0
  queue : List Enqueued := []
  dispatched : List Dispatch := []

def DbCommand.handle (site : Site) : (c : DbCommand) → Scheduled → c.Answer × Scheduled
  | .utcNow, s => (s.now, s)
  | .querySchedules pending, s =>
    ((s.schedules.rows ++ pending).filter site.enabledSchedule, s)
  | .flush added, s => ((s.schedules.addAll added).isSome, s)
  | .enqueue e dispatches, s =>
    ((), { s with queue := s.queue ++ [e], dispatched := s.dispatched ++ dispatches })
  | .commit added rows, s =>
    match s.schedules.addAll added with
    | some table => (true, { s with schedules := table.modify (fun _ => true) (updates rows) })
    | none => (false, s)

abbrev DbProgram := Prog DbCommand DbCommand.Answer

/-- What an execution leaves open: the ids of new rows and the order of the rows that a query
returns. -/
structure Choices where
  fresh : Uuid → Uuid
  firstRows : RowOrder Schedule := .asStored
  rows : RowOrder Schedule := .asStored
  devices : RowOrder Device := .asStored
  tenantDevices : Uuid → RowOrder Device := fun _ => .asStored

/-- The result of the task. -/
structure Report where
  schedulesChecked : Nat
  tenantBatchesQueued : Nat := 0
  devicesQueued : Nat := 0
  directDevicesQueued : Nat := 0
  jumpDevicesQueued : Nat := 0
  vpnGroupsQueued : Nat := 0
  initializedNextRun : Nat
  deriving Repr, DecidableEq

section Task

variable (site : Site) (x : Choices) (now : Int)

/-- A row for each enabled device that has none. -/
def newSchedules (rows : List Schedule) : List Schedule :=
  ((x.devices.apply (site.db.devices.rows.filter site.enabledDevice)).filter fun d =>
    !(rows.map Schedule.deviceId).contains d.id).map fun d =>
      let scheduleTime := site.tenantDailyTime rows (some d.tenantId)
      { id := x.fresh d.id, deviceId := d.id, time := scheduleTime
        nextRunAt := some (site.nextRunAt scheduleTime now) }

/-- The object that the session already has for a row, or a new one. -/
def sameObject (rows : List Schedule) (r : Schedule) : Tracked :=
  .load ((rows.find? fun a => a.id = r.id).getD r)

/-- The rows after the first loop, the tenants that are due, and how many rows got their first
next run. -/
structure Pass where
  rows : List Tracked
  due : List Uuid := []
  initialized : Nat := 0

/-- One turn of the first loop, between the rows that were visited and those that were not. -/
def visitRow (done : List Tracked) (t : Tracked) (todo : List Tracked) : Tracked :=
  let r := { t.current with frequency := .daily, dayOfWeek := none, dayOfMonth := none }
  let rows := (done ++ { t with current := r } :: todo).map Tracked.current
  let time :=
    if r.time = "" then site.tenantDailyTime rows (site.tenantOf r)
    else site.digits.sanitizeDailyTime r.time
  let firstRun := site.nextRunAt (if time = "" then "02:00" else time) now
  { t with current := { r with time := time, nextRunAt := some (r.nextRunAt.getD firstRun) } }

/-- The tenant of a row whose next run has come; a row without one is not due. -/
def dueTenant (r : Schedule) : Option Uuid :=
  r.nextRunAt.bind fun next => if next ≤ now then site.tenantOf r else none

/-- The first loop over the rows. -/
def initialiseRows (done : List Tracked) : List Tracked → Pass
  | [] => { rows := done }
  | t :: todo =>
    let rest := initialiseRows (done ++ [visitRow site now done t todo]) todo
    { rows := rest.rows
      due := (dueTenant site now t.current).toList ++ rest.due
      initialized := rest.initialized + if t.current.nextRunAt = none then 1 else 0 }

/-- The enabled devices of the tenant whose type is not excluded. -/
def eligibleDevices (tenant : Uuid) : List Device :=
  ((x.tenantDevices tenant).apply (site.db.devices.rows.filter fun d =>
    d.tenantId = tenant && site.enabledDevice d)).filter fun d => !site.excluded d

/-- The dispatch of a schedule with its device, as the session sees it. -/
def Tracked.handOver (device : Uuid) (t : Tracked) : Option Dispatch :=
  if t.current.deviceId = device then
    t.current.nextRunAt.map fun window => ⟨device, t.current.id, window, now⟩
  else none

/-- The schedules of the devices that a task carries. -/
def dispatches (rows : List Tracked) (e : Enqueued) : List Dispatch :=
  e.carried.flatMap fun p => rows.filterMap (Tracked.handOver now p.2)

def enqueueAll (rows : List Tracked) : List Enqueued → DbProgram Unit
  | [] => pure ()
  | e :: es => do
    Prog.ask (DbCommand.enqueue e (dispatches now rows e))
    enqueueAll rows es

/-- The rows after some of the tenants, and the counters. -/
structure Batch where
  rows : List Tracked
  tenants : Nat := 0
  devices : Nat := 0
  direct : Nat := 0
  jump : Nat := 0
  vpnGroups : Nat := 0

/-- What the second loop writes to the schedules of a tenant. -/
def finishSchedule (tenantTime : String) (nextRun : Int) (r : Schedule) : Schedule :=
  { r with
    frequency := .daily
    time := tenantTime
    dayOfWeek := none
    dayOfMonth := none
    lastRunAt := some now
    nextRunAt := some nextRun }

def finishTenant (tenant : Uuid) (rows : List Tracked) : List Tracked :=
  let tenantTime := site.tenantDailyTime (rows.map Tracked.current) (some tenant)
  let nextRun := site.nextRunAt tenantTime (now + second)
  rows.map fun t =>
    if site.tenantOf t.current = some tenant then t.edit (finishSchedule now tenantTime nextRun)
    else t

def runTenant (tenant : Uuid) (b : Batch) : DbProgram Batch := do
  let eligible := eligibleDevices site x tenant
  enqueueAll now b.rows (tenantMessages site tenant eligible)
  return {
    rows := finishTenant site now tenant b.rows
    tenants := b.tenants + 1
    devices := b.devices + eligible.length
    direct := b.direct + (directMessages site eligible).length
    jump := b.jump + (jumpMessages site eligible).length
    vpnGroups := b.vpnGroups + (vpnMessages site tenant eligible).length }

/-- The second loop, over the tenants that are due. -/
def runTenants : List Uuid → Batch → DbProgram Batch
  | [], b => pure b
  | tenant :: rest, b => do
    let b ← runTenant site x now tenant b
    runTenants rest b

/-- The task from its first loop on; no report means that an exception was raised. -/
def runRows (added : List Schedule) (rows : List Tracked) : DbProgram (Option Report) := do
  let pass := initialiseRows site now [] rows
  let b ← runTenants site x now (sortedIds pass.due) { rows := pass.rows }
  let committed ← Prog.ask (DbCommand.commit added b.rows)
  if committed then
    return some {
      schedulesChecked := rows.length
      tenantBatchesQueued := b.tenants
      devicesQueued := b.devices
      directDevicesQueued := b.direct
      jumpDevicesQueued := b.jump
      vpnGroupsQueued := b.vpnGroups
      initializedNextRun := added.length + pass.initialized }
  else return none

end Task

/-- `run_scheduled_backups` when it is not blocked. -/
def runScheduledBackups (site : Site) (x : Choices) : DbProgram (Option Report) := do
  let now ← Prog.ask DbCommand.utcNow
  let found ← Prog.ask (DbCommand.querySchedules [])
  let first := x.firstRows.apply found
  let added := newSchedules site x now first
  if added = [] then runRows site x now [] (first.map .load)
  else do
    let flushed ← Prog.ask (DbCommand.flush added)
    if flushed then do
      let again ← Prog.ask (DbCommand.querySchedules added)
      runRows site x now added ((x.rows.apply again).map (sameObject first))
    else return none

end BackupCenter.Scheduling
