import BackupCenter.Executor.Vpn
import BackupCenter.Tasks.Diagnostics
import BackupCenter.Tenants.ConnectionMode

/-!
# The task of a VPN group

`run_vpn_group_backups_task` looks its devices up again, backs them up one after another, in one
VPN session if one of them needs it, and stores the counts in its meta. The devices are backed up
under the circuit breaker and the slots of their bastion and under a deadline of their own; each
of these can raise, and two handlers at the end of the task answer what was not caught before.
-/
namespace BackupCenter.Bulk

open BackupCenter.Lib
open BackupCenter.Executor (Exn VpnWorld vpnSession)
open BackupCenter.Tasks (Status classifyFailure)
open BackupCenter.Tenants (Uuid Device DeviceGroup getEffectiveConnectionType)

/-! ## One device -/

/-- `JumpHostSlotTimeoutError` and `JumpHostSlotCancelledError`. -/
def isSlotError (e : Exn) : Bool :=
  e.cls = .exception &&
    ["JumpHostSlotTimeoutError", "JumpHostSlotCancelledError"].contains e.name

/-- `DeviceExecutionDeadlineExceeded`, which a timer raises wherever the device's backup is. -/
def isDeadline (e : Exn) : Bool :=
  e.cls = .exception && e.name = "DeviceExecutionDeadlineExceeded"

/-- What the backup of one device meets. -/
structure DeviceRun where
  /-- a stop is requested before the device -/
  stop : Bool := false
  /-- why the circuit breaker of its bastion is open, if it is -/
  breaker : Except Exn (Option String) := .ok none
  /-- the wait for a slot -/
  slot : Except Exn Unit := .ok ()
  /-- `run_backup_for_device_id` -/
  executor : Except Exn (Bool × Option String)
  /-- the release of the slot -/
  leave : Except Exn Unit := .ok ()
  /-- what is recorded about the bastion afterwards -/
  bookkeeping : Except Exn Unit := .ok ()

/-- `run_backup_for_device_id` inside the slot. -/
def DeviceRun.inSlot (r : DeviceRun) : Except Exn (Bool × Option String) := do
  r.slot
  ensuring r.executor r.leave

/-- What is known of a device after its turn. -/
structure Attempted where
  success : Bool
  message : String
  failureCategory : Option String

/-- A device in its turn; `behindJump` says whether the breaker of a bastion is asked first. -/
structure Visit where
  device : Device
  behindJump : Bool
  run : DeviceRun

/-- The part of `_execute_device_with_guards` after the circuit breaker. -/
def Visit.underSlot (lower : String → String) (v : Visit) : Except Exn Attempted := do
  let (success, answer) ← catching isSlotError v.run.inSlot fun e => .ok (false, some e.text)
  let text := strip (answer.getD "")
  let message := if text = "" then "Falha sem mensagem retornada pelo executor." else text
  v.run.bookkeeping
  return {
    success := success
    message := message
    failureCategory :=
      if success then none else some (classifyFailure { lower := lower } message) }

/-- `_execute_device_with_guards` -/
def Visit.executeDeviceWithGuards (lower : String → String) (v : Visit) : Except Exn Attempted :=
  if v.behindJump then do
    match ← v.run.breaker with
    | some reason =>
      return { success := false, message := reason, failureCategory := some "circuit_breaker" }
    | none => v.underSlot lower
  else v.underSlot lower

/-! ## The loop -/

structure GroupDetail where
  deviceId : Option Uuid
  deviceName : String
  success : Bool
  message : String
  failureCategory : Option String := none

inductive GroupMode where
  | groupDirect
  | vpnGroup
  deriving DecidableEq

def GroupMode.text : GroupMode → String
  | groupDirect => "group_direct"
  | vpnGroup => "vpn_group"

/-- What the messages of the two loops call the group. -/
def GroupMode.label : GroupMode → String
  | groupDirect => "grupo direto"
  | vpnGroup => "grupo VPN"

/-- The counts of the result and the variables of the loop. -/
structure Tally where
  success : Nat := 0
  failed : Nat := 0
  processed : Nat := 0
  cancelled : Bool := false
  details : List GroupDetail := []

def Tally.count (t : Tally) (device : Device) (a : Attempted) : Tally where
  success := if a.success then t.success + 1 else t.success
  failed := if a.success then t.failed else t.failed + 1
  processed := t.processed + 1
  cancelled := t.cancelled
  details := t.details ++ [{
    deviceId := some device.id
    deviceName := device.name
    success := a.success
    message := a.message
    failureCategory := a.failureCategory }]

/-- A stop request counts the remaining devices as failed. -/
def Tally.interrupt (t : Tally) (total : Nat) : Tally :=
  { t with
    cancelled := true
    failed := t.failed + (total - t.processed)
    details := t.details ++ [{
      deviceId := none
      deviceName := "Lote"
      success := false
      message := "Interrompido por parada forçada com " ++ toString t.processed ++ "/" ++
        toString total ++ " processados." }] }

def deadlineExceeded (mode : GroupMode) (maxSeconds : Nat) : Attempted where
  success := false
  message := "Timeout por dispositivo no " ++ mode.label ++ " (" ++ toString maxSeconds ++
    "s excedido). Possivel SSH/Telnet congelado; demais dispositivos do grupo nao foram bloqueados."
  failureCategory := some "timeout"

/-- The turn of one device. -/
def Visit.attempt (lower : String → String) (mode : GroupMode) (maxSeconds : Nat) (v : Visit) :
    Except Exn Attempted :=
  catching isDeadline (v.executeDeviceWithGuards lower) fun _ =>
    .ok (deadlineExceeded mode maxSeconds)

def processDevices (lower : String → String) (mode : GroupMode) (maxSeconds total : Nat) :
    Tally → List Visit → Except Exn Tally
  | t, [] => .ok t
  | t, v :: rest =>
    if v.run.stop then .ok (t.interrupt total)
    else do
      let a ← v.attempt lower mode maxSeconds
      processDevices lower mode maxSeconds total (t.count v.device a) rest

/-! ## The task -/

structure GroupResult where
  groupId : Uuid
  groupName : Option String
  mode : String
  total : Nat
  success : Nat
  failed : Nat
  error : String := ""
  details : List GroupDetail

/-- The last update of the task's meta, with `completed=True`. -/
structure FinalReport where
  status : Status
  message : String
  error : String := ""
  result : Option GroupResult := none

/-- A run of the task, with all that it meets. The routes enqueue it with distinct devices. -/
structure GroupTask where
  vpn : VpnWorld
  database : Tenants.Database
  order : RowOrder Device := .asStored
  tenantId : Uuid
  groupId : Uuid
  deviceIds : List Uuid
  nonempty : deviceIds ≠ [] := by decide
  distinct : deviceIds.Nodup := by decide
  forceVpn : Bool := false
  /-- `VPN_GROUP_DEVICE_MAX_SECONDS` -/
  maxSeconds : Nat := 120
  /-- an exception of the database -/
  queryError : Option String := none
  stopBefore : Bool := false
  /-- `ensure_worker_ready` -/
  workerReady : Except Exn Unit := .ok ()
  run : Uuid → DeviceRun

namespace GroupTask

variable (T : GroupTask) (group : DeviceGroup)

def groupRow : Option DeviceGroup :=
  (T.database.deviceGroups.find T.groupId).filter fun g => g.tenantId = T.tenantId

def eligible (d : Device) : Bool :=
  d.tenantId = T.tenantId && d.groupId = some T.groupId && d.isActive = some true &&
    d.backupScheduled = some true && (T.deviceIds.isEmpty || T.deviceIds.contains d.id)

/-- The devices as the task looks them up. -/
def devices : List Device := T.order.apply (T.database.devices.rows.filter T.eligible)

def connectionMode (d : Device) : Option Tenants.ConnectionMode :=
  getEffectiveConnectionType T.vpn.env (some group)
    (d.subgroupId.bind T.database.deviceSubgroups.find) d.extraParameters

def vpnRequiredDevices : List Device :=
  if T.forceVpn then T.devices
  else T.devices.filter fun d => T.connectionMode group d = some .vpn

def mode : GroupMode := if (T.vpnRequiredDevices group).isEmpty then .groupDirect else .vpnGroup

def visits : List Visit :=
  T.devices.map fun d =>
    { device := d
      behindJump := T.connectionMode group d = some .jumpHost &&
        (Tenants.nonempty group.jumpHost).isSome
      run := T.run d.id }

def loop : Except Exn Tally :=
  processDevices T.vpn.env.lower (T.mode group) T.maxSeconds T.devices.length {} (T.visits group)

/-- The two ways through the devices. -/
def workflow : Except Exn Tally :=
  match T.mode group with
  | .groupDirect => T.loop group
  | .vpnGroup => do
    T.workerReady
    vpnSession T.vpn group (T.loop group)

def result (mode : String) (t : Tally) : GroupResult where
  groupId := T.groupId
  groupName := some group.name
  mode := mode
  total := T.devices.length
  success := t.success
  failed := t.failed
  details := t.details

def finished (t : Tally) : FinalReport where
  status := if t.cancelled then .stopped else if t.failed = 0 then .success else .failed
  message := (if t.cancelled then "Interrompido. Sucesso: " else "Finalizado. Sucesso: ") ++
    toString t.success ++ " | Falhas: " ++ toString t.failed
  result := some (T.result group (T.mode group).text t)

def nothingEligible : FinalReport where
  status := .success
  message := "Nenhum dispositivo elegivel para backup."
  result := some (T.result group "group" {})

def stoppedBefore : FinalReport where
  status := .stopped
  message := "Grupo " ++ group.name ++ " interrompido por parada forçada."
  result := some (T.result group "group"
    { failed := T.devices.length
      details := [{
        deviceId := none
        deviceName := "Lote"
        success := false
        message := "Interrompido por parada forçada antes do inicio da execucao." }] })

def notFound : FinalReport where
  status := .failed
  message := "Grupo " ++ toString T.groupId ++ " nao encontrado."
  error := "Grupo " ++ toString T.groupId ++ " nao encontrado."

def inactive : FinalReport where
  status := .failed
  message := "Grupo " ++ group.name ++ " inativo. Execucao VPN bloqueada."
  error := "Grupo " ++ group.name ++ " inativo. Execucao VPN bloqueada."

/-- The body of the `try`. -/
def body : Except Exn FinalReport :=
  match T.queryError with
  | some text => .error { text := text }
  | none =>
    match T.groupRow with
    | none => .ok T.notFound
    | some group =>
      if group.isActive ≠ some true then .ok (inactive group)
      else if T.devices.isEmpty then .ok (T.nothingEligible group)
      else if T.stopBefore then .ok (T.stoppedBefore group)
      else (T.workflow group).map (T.finished group)

/-- `except VpnError` -/
def vpnFailed (e : Exn) : FinalReport :=
  let failedTotal := if T.devices.isEmpty then 1 else T.devices.length
  let failure (deviceId : Option Uuid) (deviceName : String) : GroupDetail :=
    { deviceId := deviceId
      deviceName := deviceName
      success := false
      message := "Falha de VPN: " ++ e.text
      failureCategory := some "vpn" }
  { status := .failed
    message := "Falha de VPN: " ++ e.text
    error := e.text
    result := some {
      groupId := T.groupId
      groupName := T.groupRow.map DeviceGroup.name
      mode := "vpn_group"
      total := failedTotal
      success := 0
      failed := failedTotal
      error := e.text
      details :=
        if T.devices.isEmpty then
          [failure none ((T.groupRow.map DeviceGroup.name).getD "Grupo VPN")]
        else T.devices.map fun d => failure (some d.id) d.name } }

/-- `except Exception`, which stores no result. -/
def failed (e : Exn) : FinalReport where
  status := .failed
  message := "Erro no backup do grupo: " ++ e.text
  error := e.text

/-- The last update, or nothing where an exception outside `Exception` leaves the task. -/
def finalReport : Option FinalReport :=
  match T.body with
  | .ok report => some report
  | .error e =>
    if e.isVpnError then some (T.vpnFailed e)
    else if e.isException then some (failed e)
    else none

end GroupTask
end BackupCenter.Bulk
