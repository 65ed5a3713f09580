import BackupCenter.Executor.Vpn
import BackupCenter.JumpHost.Breaker
import BackupCenter.JumpHost.Slots
import BackupCenter.Lib.Contracts
import BackupCenter.Tasks.Diagnostics

/-!
# The task of one device

`run_backup_task` asks four guards, takes a slot of the device's bastion, runs the executor in it
and settles the answer: meta, log, metrics, adaptive slots, circuit breaker, and a retry where the
failure is transient. Any of its commands can raise, the soft time limit of Celery at any moment;
three handlers answer, and the parent batch is evaluated at the end.
-/
namespace BackupCenter.Tasks

open BackupCenter.Lib
open BackupCenter.Executor (Exn)
open BackupCenter.JumpHost (LockInfo BreakerVerdict)

/-! ## Commands -/

/-- The dictionary that an attempt returns; `device_id` is that of the task. -/
structure DeviceResult where
  success : Bool := false
  message : String := ""
  failureCategory : Option String := none
  error : String := ""
  deriving DecidableEq

/-- The arguments of `update_task_meta`. -/
structure MetaUpdate where
  status : Status
  progress : Option Nat := some 100
  message : String
  completed : Bool := true
  result : Option DeviceResult := none
  error : String := ""
  deriving DecidableEq

/-- What the task uses of `_resolve_device_observability_context`. -/
structure Observability where
  deviceName : String
  jumpHost : String

inductive DeviceCommand where
  | resolveObservability
  | emitStarted
  | touchBulkActivity
  | shouldStopNow
  | validateDeviceExecutionAllowed
  | resolveDeviceVpnRequirement
  | ensureWorkerReady
  | updateTaskMeta (u : MetaUpdate)
  | appendTaskLog (deviceName message level : String)
  /-- the histogram and the counter of an attempt -/
  | observeAttempt (outcome category : String)
  | countRetry (category reason : String)
  | emitFinished (outcome category message : String)
  | checkJumpHostCircuitBreaker (label : String)
  /-- `__enter__` and `__exit__` of `_jump_host_lock_context` -/
  | enterSlot
  | leaveSlot
  /-- `run_backup_for_device_id` -/
  | runExecutor
  | recordJumpHostDuration (lock : Option LockInfo)
  | adaptJumpHostSlots (lock : Option LockInfo) (success : Bool) (message : String)
  | recordJumpHostOutcome (label : String) (success : Bool)
  /-- `self.retry`, which raises `Retry` once the next attempt is in its queue -/
  | retry (countdown : Nat)
  | resolveJumpHostLock
  | maybeFinalizeBulk
  /-- the failed backup and the failure fields of the device, after the soft time limit -/
  | persistTimeout

namespace DeviceCommand

@[reducible] def Reply : DeviceCommand → Type
  | resolveObservability => Observability
  | shouldStopNow => Bool
  | validateDeviceExecutionAllowed => Bool × Option String × Option String
  | resolveDeviceVpnRequirement => Bool × Option String
  | checkJumpHostCircuitBreaker _ => BreakerVerdict
  | enterSlot => Option LockInfo
  | runExecutor => Bool × Option String
  | resolveJumpHostLock => Option LockInfo
  | _ => Unit

/-- Every command can raise. -/
abbrev Answer (c : DeviceCommand) : Type := Except Exn c.Reply

end DeviceCommand

/-- What leaves a block: `Retry`, which only `self.retry` raises, or another exception. -/
inductive Raised where
  | retry
  | exn (e : Exn)
  deriving DecidableEq

/-- An exception in the body of the `try`, with the value of `lock_info` at that moment. -/
structure Escape where
  raised : Raised
  lockInfo : Option LockInfo := none

abbrev DeviceProgram (α : Type) := Raising DeviceCommand.Answer Raised α

def ask (c : DeviceCommand) : DeviceProgram c.Reply :=
  ExceptT.mk do
    match ← Prog.ask c with
    | .ok r => pure (.ok r)
    | .error e => pure (.error (.exn e))

/-! ## The exceptions that the handlers tell apart -/

def isNamed (name : String) (e : Exn) : Bool := e.cls = .exception && e.name = name

def isSlotCancelled : Exn → Bool := isNamed "JumpHostSlotCancelledError"

def isSlotTimeout : Exn → Bool := isNamed "JumpHostSlotTimeoutError"

def isSoftTimeLimit : Exn → Bool := isNamed "SoftTimeLimitExceeded"

/-- `_safe_error_text` -/
def safeErrorText (e : Exn) : String :=
  if strip e.text ≠ "" then strip e.text
  else if e.name ≠ "" then e.name
  else "Erro sem detalhe."

/-- `CB_FAILURE_CATEGORIES` -/
def cbFailureCategories : List String :=
  ["timeout", "connection", "jump_session_closed", "port_refused", "no_ping",
    "jump_host_slot_timeout"]

/-- What the breaker is told about a category: a device behind the bastion that answers with no
banner speaks for the bastion, a failure that is not one of the transport says nothing. -/
def blame (category : String) : Option Bool :=
  if category = "banner_timeout" then some true
  else if cbFailureCategories.contains category then some false
  else none

/-- `text or fallback` -/
def orText (text fallback : String) : String := if text = "" then fallback else text

/-! ## An attempt -/

/-- `delivery_info` of the request -/
structure DeliveryInfo where
  routingKey : String := ""
  exchange : String := ""
  queue : String := ""

/-- `_current_task_queue` -/
def currentTaskQueue (d : DeliveryInfo) : String :=
  strip (orText d.routingKey (orText d.exchange d.queue))

/-- One delivery of the task. -/
structure Attempt where
  env : Env
  deviceId : DeviceId
  bulkTaskId : Option TaskId := none
  deliveryInfo : DeliveryInfo := {}
  /-- `self.request.retries` -/
  retries : Nat := 0
  maxRetries : Nat := 1
  softTimeLimitSeconds : Nat := 480

namespace Attempt

variable (T : Attempt)

/-- `bool(bulk_task_id)` -/
def inBatch : Bool := T.bulkTaskId.any (· ≠ "")

/-- `_track_attempt_outcome` -/
def trackAttemptOutcome (outcome category message : String) (retryScheduled : Bool) :
    DeviceProgram Unit := do
  ask (.observeAttempt outcome category)
  if retryScheduled then ask (.countRetry category outcome)
  ask (.emitFinished outcome category message)
  ask .touchBulkActivity

/-- The log lines of an attempt that ends. -/
structure Ending where
  update : MetaUpdate
  deviceName : String := "Sistema"
  log : String
  level : String
  outcome : String := "failed"
  category : String
  message : String

/-- An update of the meta, a line in the log, and the metrics of the attempt. -/
def conclude (x : Ending) : DeviceProgram Unit := do
  ask (.updateTaskMeta x.update)
  ask (.appendTaskLog x.deviceName x.log x.level)
  trackAttemptOutcome x.outcome x.category x.message false

/-- Concludes with a refusal and answers its result. -/
def refuse (x : Ending) (r : DeviceResult) : DeviceProgram (Option DeviceResult) := do
  conclude { x with update.result := some r }
  return some r

/-- The next guard is asked if the one before refused nothing. -/
def orElse (p q : DeviceProgram (Option DeviceResult)) : DeviceProgram (Option DeviceResult) := do
  match ← p with
  | some r => return some r
  | none => q

/-! ### The guards -/

def stopGuard : DeviceProgram (Option DeviceResult) := do
  ask .touchBulkActivity
  if ← ask .shouldStopNow then
    let r : DeviceResult := { message := "Backup interrompido pelo operador (parada forçada)." }
    refuse
      { update := { status := .stopped, message := "Execucao interrompida por parada forçada." }
        log := "Task interrompida por parada forçada."
        level := "warning"
        outcome := "stopped"
        category := "cancelled"
        message := r.message } r
  else return none

def policyGuard : DeviceProgram (Option DeviceResult) := do
  let (allowed, blockMessage, blockCategory) ← ask .validateDeviceExecutionAllowed
  if allowed then return none
  else
    let message := (Tenants.nonempty blockMessage).getD "Execucao bloqueada por politica de estado."
    let category := (Tenants.nonempty blockCategory).getD "blocked"
    refuse
      { update := { status := .failed, message := message }
        log := message
        level := "warning"
        category := category
        message := message } { message := message, failureCategory := some category }

/-- The refusal of a worker that cannot reach a VPN. -/
def refuseVpn (vpnGroupName : Option String) (message : String) :
    DeviceProgram (Option DeviceResult) :=
  refuse
    { update := { status := .failed, message := message }
      deviceName := (Tenants.nonempty vpnGroupName).getD "VPN"
      log := message
      level := "error"
      category := "vpn_worker"
      message := message } { message := message, failureCategory := some "vpn_worker" }

/-- `ensure_worker_ready`, whose `VpnError` is a refusal. -/
def workerGuard (vpnGroupName : Option String) : DeviceProgram (Option DeviceResult) :=
  (do ask .ensureWorkerReady; return none : DeviceProgram _).handle fun
    | .retry => throw .retry
    | .exn e =>
      if e.isVpnError then
        refuseVpn vpnGroupName ("Worker VPN indisponivel para este backup: " ++ e.text)
      else throw (.exn e)

/-- A device behind a VPN belongs in the queue of the VPN workers. -/
def queueGuard (vpnGroupName : Option String) : DeviceProgram (Option DeviceResult) :=
  let currentQueue := currentTaskQueue T.deliveryInfo
  if currentQueue = "vpn_queue" then workerGuard vpnGroupName
  else if currentQueue = "" then return none
  else
    refuseVpn vpnGroupName
      ("Dispositivo configurado para VPN, mas a task caiu na fila '" ++ currentQueue ++
        "'. Reenfileire pela vpn_queue para evitar worker sem NetworkManager.")

def vpnGuard : DeviceProgram (Option DeviceResult) := do
  let (requiresVpn, vpnGroupName) ← ask .resolveDeviceVpnRequirement
  if requiresVpn then T.queueGuard vpnGroupName else return none

def breakerGuard (label : String) : DeviceProgram (Option DeviceResult) := do
  ask (.updateTaskMeta
    { status := .running
      progress := some 10
      message := "Iniciando conexao com o dispositivo..."
      completed := false })
  ask (.appendTaskLog "Sistema" ("Backup iniciado para dispositivo " ++ T.deviceId) "info")
  if label = "direct" then return none
  else
    let verdict ← ask (.checkJumpHostCircuitBreaker label)
    if verdict.isOpen then
      refuse
        { update := { status := .failed, message := verdict.reason }
          log := verdict.reason
          level := "warning"
          outcome := "circuit_breaker"
          category := "circuit_breaker"
          message := verdict.reason }
        { message := verdict.reason, failureCategory := some "circuit_breaker" }
    else return none

def guards (label : String) : DeviceProgram (Option DeviceResult) :=
  orElse stopGuard (orElse policyGuard (orElse T.vpnGuard (T.breakerGuard label)))

/-! ### The run and its answer -/

/-- The message of the executor, as the task goes on with it. -/
def executorMessage (success : Bool) (message : Option String) : String :=
  let text := strip (message.getD "")
  if !success && text = "" then "Falha sem mensagem retornada pelo executor." else text

def executorResult (success : Bool) (message : Option String) : DeviceResult where
  success := success
  message := executorMessage success message
  failureCategory :=
    if success then none else some (classifyFailure T.env (executorMessage success message))

/-- `should_retry`; the stop request is asked only where the answer matters. -/
def shouldRetry (deviceName category message : String) : DeviceProgram Bool := do
  if T.inBatch || T.maxRetries ≤ T.retries then return false
  else if ← ask .shouldStopNow then return false
  else return shouldRetryTransientFailure T.env category message deviceName T.deviceId

def retryCountdown : Nat := 30 + T.retries * 30

/-- Puts the next attempt in the queue. -/
def scheduleRetry {α : Type} (category message : String) : DeviceProgram α := do
  let countdown := toString T.retryCountdown
  let line := "Falha transitória (" ++ category ++ "). Retentando em " ++ countdown ++
    "s (tentativa " ++ toString (T.retries + 1) ++ "/" ++ toString T.maxRetries ++ ")."
  ask (.appendTaskLog "Sistema" line "warning")
  ask (.updateTaskMeta
    { status := .retrying
      progress := some 0
      message := "Falha transitória. Retentando em " ++ countdown ++ "s..."
      completed := false })
  trackAttemptOutcome "retry_scheduled" (orText category "failure") message true
  ask (.retry T.retryCountdown)
  throw .retry

/-- What the breaker of the bastion is told, if there is a bastion. -/
def reportOutcome (label : String) (outcome : Option Bool) : DeviceProgram Unit :=
  if label = "direct" then return ()
  else
    match outcome with
    | some success => ask (.recordJumpHostOutcome label success)
    | none => return ()

def settleSuccess (label : String) (lock : Option LockInfo) (r : DeviceResult) :
    DeviceProgram DeviceResult := do
  ask (.recordJumpHostDuration lock)
  ask (.adaptJumpHostSlots lock true r.message)
  reportOutcome label (some true)
  conclude
    { update :=
        { status := .success
          message := orText r.message "Backup concluido com sucesso."
          result := some r }
      log := "Backup finalizado com sucesso."
      level := "success"
      outcome := "success"
      category := "none"
      message := r.message }
  return r

def settleFailure (o : Observability) (lock : Option LockInfo) (r : DeviceResult)
    (category : String) : DeviceProgram DeviceResult := do
  ask (.adaptJumpHostSlots lock false r.message)
  reportOutcome o.jumpHost (blame category)
  if ← T.shouldRetry (strip o.deviceName) category r.message then
    T.scheduleRetry category r.message
  else
    conclude
      { update :=
          { status := .failed
            message := orText r.message "Backup finalizado com falha."
            result := some r }
        log := "Backup finalizado com falha."
        level := "error"
        category := orText category "failure"
        message := r.message }
    return r

/-- What follows the slot. -/
def settle (o : Observability) (lock : Option LockInfo) (success : Bool)
    (message : Option String) : DeviceProgram DeviceResult :=
  let r := T.executorResult success message
  match r.failureCategory with
  | none => settleSuccess o.jumpHost lock r
  | some category => T.settleFailure o lock r category

/-- The slot, the run in it and its answer; what escapes carries the lock once it is known. -/
def underSlot (o : Observability) : Raising DeviceCommand.Answer Escape DeviceResult := do
  let lock ← (ask .enterSlot).relabel fun e => { raised := e }
  let (success, message) ← ((ask .runExecutor).ensuring (ask .leaveSlot)).relabel
    fun e => { raised := e, lockInfo := lock }
  (T.settle o lock success message).relabel fun e => { raised := e, lockInfo := lock }

/-- The body of the `try`. -/
def body (o : Observability) : Raising DeviceCommand.Answer Escape DeviceResult := do
  match ← (T.guards o.jumpHost).relabel fun e => { raised := e } with
  | some r => return r
  | none => T.underSlot o

/-! ### The handlers -/

/-- `if not lock_info: lock_info = _resolve_jump_host_lock(device_id)` -/
def lockOrResolve (lock : Option LockInfo) : DeviceProgram (Option LockInfo) :=
  match lock with
  | some l => return some l
  | none => ask .resolveJumpHostLock

def onSlotCancelled (e : Exn) : DeviceProgram DeviceResult := do
  let r : DeviceResult := { message := e.text, failureCategory := some "cancelled" }
  conclude
    { update := { status := .stopped, message := e.text, result := some r }
      log := e.text
      level := "warning"
      outcome := "stopped"
      category := "jump_host_slot_cancelled"
      message := e.text }
  return r

def onSlotTimeout (lock : Option LockInfo) (e : Exn) : DeviceProgram DeviceResult := do
  let lock ← lockOrResolve lock
  ask (.adaptJumpHostSlots lock false e.text)
  let r : DeviceResult := { message := e.text, failureCategory := some "jump_host_slot_timeout" }
  conclude
    { update := { status := .failed, message := e.text, result := some r }
      log := e.text
      level := "error"
      category := "jump_host_slot_timeout"
      message := e.text }
  return r

def onException (lock : Option LockInfo) (e : Exn) : DeviceProgram DeviceResult := do
  let errorText := safeErrorText e
  let lock ← lockOrResolve lock
  ask (.adaptJumpHostSlots lock false errorText)
  let category := orText (classifyFailure T.env errorText) "task_exception"
  let r : DeviceResult :=
    { message := "Erro na task: " ++ errorText, failureCategory := some category }
  conclude
    { update := { status := .failed, message := r.message, result := some r }
      log := "Erro na task (" ++ category ++ "): " ++ errorText
      level := "error"
      category := category
      message := errorText }
  return r

/-- The `except` clauses, in their order. -/
def onEscape (x : Escape) : DeviceProgram DeviceResult :=
  match x.raised with
  | .retry => throw .retry
  | .exn e =>
    if isSlotCancelled e then onSlotCancelled e
    else if isSlotTimeout e then onSlotTimeout x.lockInfo e
    else if e.isException then T.onException x.lockInfo e
    else throw (.exn e)

/-- A block whose exceptions are logged and dropped. -/
def logged (p : DeviceProgram Unit) : DeviceProgram Unit :=
  p.handle fun
    | .retry => throw .retry
    | .exn e => if e.isException then return () else throw (.exn e)

/-- `_internal_run_backup_task` -/
def internalRunBackupTask : DeviceProgram DeviceResult := do
  let o ← ask .resolveObservability
  ask .emitStarted
  let o := { o with jumpHost := orText o.jumpHost "unknown" }
  ((T.body o).handle T.onEscape).ensuring (logged (ask .maybeFinalizeBulk))

def onSoftTimeLimit : DeviceProgram DeviceResult := do
  let limit := toString T.softTimeLimitSeconds
  ask (.updateTaskMeta
    { status := .failed
      progress := none
      message := "Timeout absoluto de socket/Worker atingido (" ++ limit ++ "s)."
      error := "SoftTimeLimitExceeded." })
  let line := "Processo interrompido à força pelo limite de tempo do sistema. " ++
    "Possível timeout silencioso no equipamento originado."
  ask (.appendTaskLog T.deviceId line "error")
  logged (ask .persistTimeout)
  return { error := "Timeout absoluto (" ++ limit ++ "s) atingido." }

/-- `run_backup_task` -/
def runBackupTask : DeviceProgram DeviceResult :=
  T.internalRunBackupTask.handle fun
    | .retry => throw .retry
    | .exn e => if isSoftTimeLimit e then T.onSoftTimeLimit else throw (.exn e)

end Attempt
end BackupCenter.Tasks
