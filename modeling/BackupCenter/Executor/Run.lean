import BackupCenter.Executor.Collect
import BackupCenter.Lib.Accumulate
import BackupCenter.Quota.PlanLimits
import BackupCenter.Tasks.Diagnostics

/-!
# One run

`run_backup_for_device_id` reads the device, collects without a session, checks the file and the
storage quota, and persists the result in a session of its own, once more if the connection drops.
Whatever is raised on the way is turned into an answer without a row.
-/
namespace BackupCenter.Executor

open BackupCenter.Lib
open BackupCenter.Quota (BackupStatus)
open BackupCenter.Tenants (DeviceGroup DeviceSubgroup Extra JsonValue Uuid nonempty)

/-! ## The database -/

/-- The answer of `validate_backup_integrity`. -/
structure Integrity where
  ok : Bool
  reason : String := ""
  deriving DecidableEq

structure BackupMeta where
  deviceType : Option String
  scriptName : Option String
  failureCategory : Option String
  failureLabel : Option String
  integrity : Option Integrity
  deriving DecidableEq

structure Backup where
  deviceId : Uuid
  status : BackupStatus
  errorMessage : Option String
  configData : BackupMeta
  filePath : Option String
  fileSizeBytes : Option Nat
  hashSha256 : Option String
  startedAt : Int
  completedAt : Int
  durationSeconds : Int
  deriving DecidableEq

instance : Keyed Quota.Tenant Uuid := ⟨Quota.Tenant.id⟩

structure Database where
  devices : Table Device
  tenants : Table Quota.Tenant
  backups : List Backup := []

/-- `device.tenant` -/
def Database.tenantOf (db : Database) (deviceId : Uuid) : Option Quota.Tenant :=
  (db.devices.find deviceId).bind fun d => db.tenants.find d.tenantId

def Database.ownedBy (db : Database) (tenantId deviceId : Uuid) : Bool :=
  (db.devices.find deviceId).any (·.tenantId = tenantId)

/-- The bytes of a row that count for a tenant. -/
def Database.countedBytes (db : Database) (tenantId : Uuid) (b : Backup) : Nat :=
  if db.ownedBy tenantId b.deviceId then b.fileSizeBytes.getD 0 else 0

/-- `get_storage_used_bytes` -/
def Database.storageUsedBytes (db : Database) (tenantId : Uuid) : Nat :=
  (db.backups.map (db.countedBytes tenantId)).sum

/-! ## Connection drops -/

structure DbError where
  text : String
  connectionInvalidated : Bool := false

/-- `_is_connection_drop_error` -/
def isConnectionDropError (lower : String → String) (e : DbError) : Bool :=
  e.connectionInvalidated || containsAny (lower e.text)
    ["server closed the connection unexpectedly", "connection not open", "connection refused",
      "could not connect to server", "ssl connection has been closed unexpectedly"]

/-- How the database takes the result: it commits; the connection drops once, before or after the
server committed; or it refuses the row. -/
inductive Persistence (lower : String → String) where
  | commits
  | drops (e : DbError) (recognised : isConnectionDropError lower e = true) (committed : Bool)
  | refuses (e : DbError) (unrecognised : isConnectionDropError lower e = false)

/-! ## The outcome of a run -/

/-- What a run meets from its start to its end. -/
structure RunWorld extends ScriptWorld where
  /-- the first session and its queries -/
  opening : Except Exn Unit := .ok ()
  deviceType : Option DeviceType
  group : Option DeviceGroup := none
  subgroup : Option DeviceSubgroup := none
  /-- size and digest of the file at a path, if there is one -/
  file : String → Except Exn (Option (Nat × String))
  validateBackupIntegrity : Option String → Except Exn Integrity
  /-- the session of the quota check -/
  quotaSession : Except Exn Unit := .ok ()
  startedAt : Int := 0
  completedAt : Int := 0
  now : Int := 0
  isoformat : Int → String := toString
  persistence : Persistence env.lower := .commits

structure Outcome where
  success : Bool
  message : String
  filePath : Option String
  fileSize : Option Nat
  fileHash : Option String
  integrity : Option Integrity := none
  deriving DecidableEq

variable (w : RunWorld)

def RunWorld.target (device : Device) (manageVpn : Bool) : RunTarget where
  device := device
  deviceType := w.deviceType
  group := w.group
  subgroup := w.subgroup
  manageVpn := manageVpn

/-- Size and digest of the collected file. -/
def fileFacts (path : Option String) : Except Exn (Option (Nat × String)) :=
  match nonempty path with
  | none => .ok none
  | some p => w.file p

/-- The outcome after the validation of the file. -/
def Outcome.validated (o : Outcome) (integrity : Integrity) : Outcome :=
  if integrity.ok then { o with integrity := some integrity }
  else
    { o with
      success := false
      message := "Falha de integridade do arquivo pós-coleta: " ++
        (if integrity.reason = "" then "erro de validacao" else integrity.reason) ++ "."
      integrity := some integrity }

/-- The outcome of a collection and of its file, before the validation. -/
def Collected.outcome (c : Collected) (facts : Option (Nat × String)) : Outcome where
  success := c.success
  message := c.message
  filePath := c.filePath
  fileSize := facts.map Prod.fst
  fileHash := facts.map Prod.snd

/-- The look at the file of a collection, and its validation. -/
def inspected (c : Collected) : Except Exn Outcome := do
  let facts ← fileFacts w c.filePath
  if c.success then
    let integrity ← w.validateBackupIntegrity c.filePath
    return (c.outcome facts).validated integrity
  else return c.outcome facts

/-- From the collection to the validation of its file. -/
def measured (t : RunTarget) : Except Exn Outcome := do
  let c ← executeBackup w.toScriptWorld t
  inspected w c

/-- `success and file_size` -/
def Outcome.needsQuota (o : Outcome) : Bool := o.success && 0 < o.fileSize.getD 0

/-- The outcome under the storage quota, with what the tenant's backups take. -/
def Outcome.underQuota (o : Outcome) (tenant : Quota.Tenant) (used : Nat) : Outcome :=
  let check := Quota.checkStorageBeforeBackup tenant used (o.fileSize.getD 0 : Nat)
  if check.allowed then o
  else
    { o with
      success := false, message := check.reason, filePath := none, fileSize := none
      fileHash := none }

/-- What the check finds in the database. -/
def quotaOutcome (deviceId : Uuid) (db : Database) (o : Outcome) : Outcome :=
  match db.tenantOf deviceId with
  | none => o
  | some tenant => o.underQuota tenant (db.storageUsedBytes tenant.id)

def quotaChecked (deviceId : Uuid) (db : Database) (o : Outcome) : Except Exn Outcome :=
  if o.needsQuota then do
    w.quotaSession
    return quotaOutcome deviceId db o
  else .ok o

/-! ## Persisting -/

/-- `FAILURE_LABELS` -/
def failureLabels : List (String × String) :=
  [("auth", "Autenticacao"), ("timeout", "Timeout"),
    ("banner_timeout", "Banner SSH (sobrecarga/lentidao)"),
    ("jump_session_closed", "Sessao Jump Host encerrada"), ("port_refused", "Porta recusada"),
    ("vpn", "VPN"), ("vpn_worker", "Worker VPN"), ("config", "Cadastro/configuração"),
    ("no_ping", "Sem ping"), ("connection", "Conectividade"),
    ("circuit_breaker", "Jump Host bloqueado (Circuit Breaker)"), ("script", "Script"),
    ("unknown", "Outros")]

/-- `failure_label` -/
def failureLabel (lower : String → String) (category : String) : String :=
  (failureLabels.lookup (lower (strip category))).getD "Outros"

def RunWorld.failureCategory (o : Outcome) : Option String :=
  if o.success then none
  else some (Tasks.classifyFailure { lower := w.env.lower } o.message)

/-- The message that is stored and returned. -/
def RunWorld.finalMessage (o : Outcome) : String :=
  if o.success then o.message
  else if o.message = "" ∨ o.message = "Falha ao realizar backup" then
    "Falha sistêmica classificada como: " ++
      failureLabel w.env.lower ((w.failureCategory o).getD "") ++ "."
  else o.message

def Outcome.status (o : Outcome) : BackupStatus := if o.success then .success else .failed

/-- The row of a run. -/
def backupRow (deviceId : Uuid) (o : Outcome) : Backup where
  deviceId := deviceId
  status := o.status
  errorMessage := if o.success then none else some (w.finalMessage o)
  configData :=
    { deviceType := w.deviceType.map DeviceType.name
      scriptName := w.deviceType.bind DeviceType.scriptName
      failureCategory := w.failureCategory o
      failureLabel := (w.failureCategory o).map (failureLabel w.env.lower)
      integrity := o.integrity }
  filePath := o.filePath
  fileSizeBytes := o.fileSize
  hashSha256 := o.fileHash
  startedAt := w.startedAt
  completedAt := w.completedAt
  durationSeconds := max 0 (w.completedAt - w.startedAt)

def put (extra : Extra) (name : String) (value : JsonValue) : Extra :=
  (name, value) :: extra.filter (·.1 ≠ name)

def pop (extra : Extra) (name : String) : Extra := extra.filter (·.1 ≠ name)

def jsonText (text : String) : JsonValue := ⟨text, text ≠ ""⟩

def jsonBool (b : Bool) : JsonValue := ⟨if b then "True" else "False", b⟩

/-- `extra_parameters` after a run -/
def RunWorld.extraAfter (o : Outcome) (extra : Extra) : Extra :=
  let extra := put extra "last_backup_integrity_ok"
    (jsonBool ((o.integrity.map Integrity.ok).getD o.success))
  let extra :=
    match o.integrity with
    | some integrity => put extra "last_backup_integrity_reason" (jsonText integrity.reason)
    | none => extra
  if o.success then
    ["last_backup_failure_category", "last_backup_failure_label", "last_backup_failure_message",
      "last_backup_failure_at"].foldl pop extra
  else
    let category := (w.failureCategory o).getD "unknown"
    let extra := put extra "last_backup_failure_category" (jsonText category)
    let extra := put extra "last_backup_failure_label"
      (jsonText (failureLabel w.env.lower category))
    let extra := put extra "last_backup_failure_message" (jsonText (w.finalMessage o))
    put extra "last_backup_failure_at" (jsonText (w.isoformat w.completedAt ++ "Z"))

/-- The device after a run. -/
def RunWorld.ran (o : Outcome) : Update Device where
  apply d :=
    { d with
      lastBackupAt := some w.now
      lastBackupStatus := some (if o.success then "success" else "failure")
      extraParameters := w.extraAfter o d.extraParameters }

/-- What `_persist_backup_result` commits. -/
def Database.record (db : Database) (deviceId : Uuid) (o : Outcome) : Database :=
  { db with
    backups := db.backups ++ [backupRow w deviceId o]
    devices := db.devices.modify (fun d => d.id = deviceId) (w.ran o) }

/-- `_persist_backup_result`, when the database commits; a device that is gone is an error. -/
def persistBackupResult (deviceId : Uuid) (o : Outcome) (db : Database) :
    Except Exn (Bool × String) × Database :=
  match db.devices.find deviceId with
  | none =>
    (.ok (false, "Dispositivo nao encontrado ao persistir resultado do backup."), db)
  | some _ => (.ok (o.success, w.finalMessage o), db.record w deviceId o)

/-- The attempt to persist, and the second one after a connection drop. -/
def persisted (deviceId : Uuid) (o : Outcome) (db : Database) :
    Except Exn (Bool × String) × Database :=
  match w.persistence with
  | .commits => persistBackupResult w deviceId o db
  | .refuses e _ => (.ok (false, e.text), db)
  | .drops _ _ committed =>
    -- the second session does not know whether the first one committed
    persistBackupResult w deviceId o (if committed then db.record w deviceId o else db)

/-- `except Exception as e: return False, str(e)` -/
def answerException (e : Exn) : Except Exn (Bool × String) :=
  if e.isException then .ok (false, e.text) else .error e

/-- Everything before the result is persisted. -/
def prepared (deviceId : Uuid) (device : Device) (manageVpn : Bool) (db : Database) :
    Except Exn Outcome := do
  let o ← measured w (w.target device manageVpn)
  quotaChecked w deviceId db o

/-- `run_backup_for_device_id` -/
def runBackupForDeviceId (deviceId : Uuid) (manageVpn : Bool) (db : Database) :
    Except Exn (Bool × String) × Database :=
  match w.opening with
  | .error e => (answerException e, db)
  | .ok () =>
    match db.devices.find deviceId with
    | none => (.ok (false, "Dispositivo nao encontrado"), db)
    | some device =>
      match prepared w deviceId device manageVpn db with
      | .error e => (answerException e, db)
      | .ok o => persisted w deviceId o db

end BackupCenter.Executor
