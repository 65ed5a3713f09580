import BackupCenter.Executor.Run
import BackupCenter.Lib.Interleaving
import BackupCenter.Lib.Patch
import BackupCenter.Tenants.Subgroups

/-!
# The writers of `extra_parameters`

One JSON column of a device is shared by audits, backup runs, subgroup actions and edits. Each of
them loads the whole dictionary, changes some keys of its copy, and assigns the copy to the column;
the commit writes it if it differs from what the session had loaded.
-/
namespace BackupCenter.Extras

open BackupCenter.Lib BackupCenter.Executor
open BackupCenter.Tenants (Extra JsonValue Device legacyKeys)

abbrev ExtraPatch := Patch String JsonValue

/-- The column, which may be NULL, and what the committed operations have set and removed. -/
structure ExtraDb where
  column : Option Extra
  committed : List ExtraPatch := []
  deriving DecidableEq

/-- `device.extra_parameters or {}` -/
def ExtraDb.extra (db : ExtraDb) : Extra := db.column.getD []

/-- A copy with its changes, in a session that had loaded the column. -/
structure Pending where
  loaded : Option Extra
  copy : Extra
  patch : ExtraPatch
  deriving DecidableEq

/-- What the session assigns to the column. -/
def Pending.value (w : Pending) : Extra := patched w.copy w.patch

/-- The flush emits no UPDATE for a value equal to the loaded one. -/
def Pending.unchanged (w : Pending) : Bool :=
  w.loaded.any fun loaded => AgreeOn (fun _ => True) w.value loaded

/-- One query, or one commit. -/
inductive ExtraCmd where
  | read
  | commit (w : Pending)
  deriving DecidableEq

def ExtraAns : ExtraCmd → Type
  | .read => Option Extra
  | .commit _ => Unit

def handleExtra : (c : ExtraCmd) → ExtraDb → ExtraAns c × ExtraDb
  | .read, db => (db.column, db)
  | .commit w, db =>
    ((), { column := if w.unchanged then db.column else some w.value
           committed := db.committed ++ [w.patch] })

abbrev ExtraProg := Prog ExtraCmd ExtraAns Unit

/-- Load the column, change keys of a copy, and commit it in the same session, unless the commit
fails. -/
def loadAndCommit (commits : Bool) (changes : Extra → ExtraPatch) : ExtraProg :=
  .call .read fun (column : Option Extra) =>
  let copy := column.getD []
  if commits then .call (.commit ⟨column, copy, changes copy⟩) .ret else .ret ()

/-! ## Connection audits -/

def jsonNumber (n : Int) : JsonValue := ⟨toString n, n ≠ 0⟩

def jsonOptional : Option String → JsonValue
  | some text => jsonText text
  | none => ⟨"None", false⟩

/-- What `diagnose_access_chain` answers. -/
structure ServiceResult where
  ok : Bool
  message : Option String
  tcpOk : Bool
  jumpHostOk : Bool
  routeOk : Bool
  category : Option String
  /-- `service_result.get("steps") or []` -/
  steps : JsonValue := ⟨"[]", false⟩
  elapsedMs : Int

/-- What one attempt to persist an audit meets: an error at its query, an error at its commit, which
the server has executed or not, or none. -/
inductive Attempt where
  | noSession
  | fails (committed : Bool)
  | commits
  deriving DecidableEq

/-- What an audit meets from its start to its end. -/
structure AuditWorld where
  lower : String → String
  ipAddress : String
  useTelnet : Bool
  nowIso : String
  pingOk : Bool
  /-- `_should_stop_now(bulk_task_id)`, after the ping -/
  stopped : Bool := false
  /-- the answer of the diagnosis; none when an exception ends the audit before it is persisted -/
  service : Option ServiceResult
  attempts : List Attempt := [.commits]

section Recommendation

variable (lower : String → String)

/-- `_normalize_category` -/
def normalizeCategory (category : String) : String :=
  let value := lower (strip category)
  if value ∈ ["jump_host_access_failed", "jump_host_no_route", "device_auth_failed", "timeout",
    "connectivity_failed", "vpn_failed", "ok", "disabled", "not_configured"] then value
  else "connectivity_failed"

def recommendationForCategory (category targetIp : String) : String :=
  match normalizeCategory lower category with
  | "jump_host_access_failed" =>
    "Senha ou chave do Jump Host podem estar incorretas, expiradas ou sem permissao."
  | "jump_host_no_route" =>
    "Jump Host acessivel, mas sem rota ou porta aberta ate " ++
      (if targetIp = "" then "o dispositivo final" else targetIp) ++
      ". Validar rota, ACL e firewall."
  | "device_auth_failed" =>
    "Dispositivo respondeu ao acesso, mas rejeitou login. Revisar usuario, senha e " ++
      "metodo SSH/Telnet."
  | "timeout" =>
    "Timeout no caminho. Verificar latencia, sobrecarga do Jump Host e disponibilidade da " ++
      "porta de gerencia."
  | "vpn_failed" =>
    "Falha ao preparar VPN do grupo. Validar tunel, credenciais e estado da interface."
  | "not_configured" =>
    "Grupo com Jump Host sem host/usuario/credencial suficientes para operar."
  | "disabled" => "Grupo nao usa Jump Host neste momento."
  | _ => "Falha de conectividade. Validar reachability, rota e porta de gerencia."

end Recommendation

/-- The keys that are set after the ping. -/
def AuditWorld.pinged (a : AuditWorld) : ExtraPatch :=
  [("connection_test_last_at", some (jsonText a.nowIso)),
    ("connection_test_ping_ok", some (jsonBool a.pingOk)),
    ("connection_test_login_ok", some (jsonBool false)),
    ("connection_test_protocol", some (jsonText (if a.useTelnet then "telnet" else "ssh")))]

def AuditWorld.interrupted : ExtraPatch :=
  [("connection_test_group", some (jsonText "ping_ok_login_fail")),
    ("connection_test_message", some (jsonText "Teste interrompido por solicitacao de parada."))]

def AuditWorld.classification (a : AuditWorld) (r : ServiceResult) : String :=
  if r.ok then "ready" else if a.pingOk || r.tcpOk then "ping_ok_login_fail" else "no_ping"

def AuditWorld.diagnosed (a : AuditWorld) (r : ServiceResult) : ExtraPatch :=
  let category := r.category.getD ""
  [("connection_test_group", some (jsonText (a.classification r))),
    ("connection_test_login_ok", some (jsonBool r.ok)),
    ("connection_test_tcp_ok", some (jsonBool r.tcpOk)),
    ("connection_test_jump_host_ok", some (jsonBool r.jumpHostOk)),
    ("connection_test_route_ok", some (jsonBool r.routeOk)),
    ("connection_test_failure_category", some (jsonText category)),
    ("connection_test_steps", some r.steps),
    ("connection_test_recommendation",
      some (jsonText (recommendationForCategory a.lower category a.ipAddress))),
    ("connection_test_message", some (jsonOptional r.message)),
    ("connection_test_elapsed_ms", some (jsonNumber r.elapsedMs))]

/-- The changes that an audit persists, if it gets that far. -/
def AuditWorld.changes (a : AuditWorld) : Option ExtraPatch :=
  if a.stopped then some (a.pinged ++ AuditWorld.interrupted)
  else a.service.map fun r => a.pinged ++ a.diagnosed r

/-- `_persist_connection_audit_state`: every attempt loads the row, and assigns the copy of the
audit. -/
def persistConnectionAuditState (copy : Extra) (patch : ExtraPatch) : List Attempt → ExtraProg
  | [] => .ret ()
  | .noSession :: rest => persistConnectionAuditState copy patch rest
  | .fails committed :: rest =>
    .call .read fun (loaded : Option Extra) =>
    if committed then
      .call (.commit ⟨loaded, copy, patch⟩) fun _ => persistConnectionAuditState copy patch rest
    else persistConnectionAuditState copy patch rest
  | .commits :: _ =>
    .call .read fun (loaded : Option Extra) => .call (.commit ⟨loaded, copy, patch⟩) .ret

/-- `run_device_connection_audit_task`, from `_load_device_for_connection_audit` on -/
def runDeviceConnectionAuditTask (a : AuditWorld) : ExtraProg :=
  .call .read fun (column : Option Extra) =>
  match a.changes with
  | none => .ret ()
  | some patch => persistConnectionAuditState (column.getD []) patch (a.attempts.take 3)

/-! ## Backup runs -/

def failureKeys : List String :=
  ["last_backup_failure_category", "last_backup_failure_label", "last_backup_failure_message",
    "last_backup_failure_at"]

/-- The changes of `_persist_backup_result`. -/
def backupChanges (w : RunWorld) (o : Outcome) : ExtraPatch :=
  [("last_backup_integrity_ok", some (jsonBool ((o.integrity.map Integrity.ok).getD o.success)))] ++
  (o.integrity.elim [] fun integrity =>
    [("last_backup_integrity_reason", some (jsonText integrity.reason))]) ++
  if o.success then failureKeys.map fun key => (key, none)
  else
    let category := (w.failureCategory o).getD "unknown"
    [("last_backup_failure_category", some (jsonText category)),
      ("last_backup_failure_label", some (jsonText (failureLabel w.env.lower category))),
      ("last_backup_failure_message", some (jsonText (w.finalMessage o))),
      ("last_backup_failure_at", some (jsonText (w.isoformat w.completedAt ++ "Z")))]

/-- A copy with these changes is what the run leaves in the row. -/
theorem patched_backupChanges (w : RunWorld) (o : Outcome) (extra : Extra) :
    patched extra (backupChanges w o) = w.extraAfter o extra := by
  unfold backupChanges RunWorld.extraAfter failureKeys
  cases o.integrity with
  | none => cases o.success <;> rfl
  | some integrity => cases o.success <;> rfl

/-- The result of a run is persisted in one session, and once more after a connection drop. -/
def persistBackupResult (w : RunWorld) (o : Outcome) : ExtraProg :=
  match w.persistence with
  | .commits => loadAndCommit true fun _ => backupChanges w o
  | .refuses _ _ => loadAndCommit false fun _ => backupChanges w o
  | .drops _ _ committed => do
    loadAndCommit committed fun _ => backupChanges w o
    loadAndCommit true fun _ => backupChanges w o

/-- The failure that a run is given when it exceeds its soft time limit. -/
def timeoutChanges (nowIso : String) : ExtraPatch :=
  [("last_backup_failure_category", some (jsonText "timeout")),
    ("last_backup_failure_label", some (jsonText "Timeout absoluto (Celery)")),
    ("last_backup_failure_message",
      some (jsonText "Falha durante o backup. Detalhe: SoftTimeLimitExceeded()")),
    ("last_backup_failure_at", some (jsonText (nowIso ++ "Z")))]

/-! ## Subgroup actions -/

/-- `bulk_subgroup_connection` for a device that it moves -/
def subgroupChanges : ExtraPatch := legacyKeys.map fun key => (key, none)

/-! ## Edits of the device -/

/-- The columns of the selected device type. -/
structure TypeParameters where
  requiredParameters : Option String := none
  scriptName : Option String := none

structure EditForm where
  get : String → Option String
  selectedType : Option TypeParameters := none

def builtinDeviceFields : List String :=
  ["username", "password", "ip_address", "host", "hostname", "port", "use_telnet"]

def zabbixDbExtraFields : List String := ["db_name", "db_user", "db_password"]

def zabbixDefaultExcludeTables : String :=
  "history,history_uint,history_str,history_log,history_text,trends,trends_uint"

/-- Parameters are separated by commas and line breaks. -/
def parseRequiredParameters (raw : Option String) : List String :=
  let lines := (raw.getD "").toList.splitOnP fun c => c = ',' || isLineBreak c
  ((lines.map fun line => strip (String.ofList line)).filter (· ≠ "")).eraseDups

section Collect

variable (lower : String → String) (form : EditForm)

def isSensitiveParameter (name : String) : Bool :=
  containsAny (lower (strip name)) ["password", "secret", "token", "key"]

def EditForm.isZabbix : Bool :=
  lower (strip ((form.selectedType.bind (·.scriptName)).getD "")) = "zabbix_backup.py"

def normalizeZabbixDbType (raw : String) : String :=
  let raw := lower (strip raw)
  if raw ∈ ["postgres", "postgresql", "postgre", "postgree", "pgsql"] then "postgres"
  else if raw ∈ ["mariadb", "mysql"] then "mariadb"
  else "postgres"

def normalizeZabbixCredentialsMode (raw : Option String) : String :=
  if lower (strip (raw.getD "")) = "automatic" then "automatic" else "manual"

/-- `str(form.get(field) or extra.get(name) or "")` -/
def EditForm.orStored (extra : Extra) (field name : String) : String :=
  match (form.get field).filter (· ≠ "") with
  | some text => text
  | none => ((extra.lookup name).filter (·.truthy)).elim "" (·.text)

/-- One required parameter, after the changes so far. -/
def collectParameter (existing : Extra) (p : ExtraPatch) (name : String) : ExtraPatch :=
  if name ∈ builtinDeviceFields then p
  else
    let value := strip ((form.get ("extra__" ++ name)).getD "")
    if value ≠ "" then p ++ [(name, some (jsonText value))]
    -- stored database credentials are not removed by empty fields
    else if form.isZabbix lower && name ∈ zabbixDbExtraFields then p
    else if isSensitiveParameter lower name && ((patched existing p).lookup name).isSome then p
    else p ++ [(name, none)]

/-- What `_collect_device_extra_parameters` sets and removes, in order. -/
def collectDeviceExtraParameters (existing : Extra) : ExtraPatch :=
  let zabbix := form.isZabbix lower
  let mode : ExtraPatch :=
    if zabbix then [("db_credentials_mode", some (jsonText
      (normalizeZabbixCredentialsMode lower (form.get "extra__db_credentials_mode"))))]
    else []
  let names := parseRequiredParameters (form.selectedType.bind (·.requiredParameters))
  let p := names.foldl (collectParameter lower form existing) mode
  if zabbix then
    let dbType := normalizeZabbixDbType lower
      (form.orStored (patched existing p) "extra__db_type" "db_type")
    let p := p ++ [("db_type", some (jsonText dbType))]
    let exclude := strip
      (form.orStored (patched existing p) "extra__exclude_tables" "exclude_tables")
    p ++ [("exclude_tables",
      some (jsonText (if exclude = "" then zabbixDefaultExcludeTables else exclude)))]
  else p

end Collect

/-! ## Operations on one device -/

/-- An operation; `commits` says whether its commit succeeds. -/
inductive ExtraOp where
  | audit (a : AuditWorld)
  | backup (w : RunWorld) (o : Outcome)
  | softTimeLimit (nowIso : String) (commits : Bool)
  | subgroup (commits : Bool)
  | editDevice (lower : String → String) (form : EditForm) (commits : Bool)
  | clearBackupError (commits : Bool)

def ExtraOp.program : ExtraOp → ExtraProg
  | .audit a => runDeviceConnectionAuditTask a
  | .backup w o => persistBackupResult w o
  | .softTimeLimit nowIso commits => loadAndCommit commits fun _ => timeoutChanges nowIso
  | .subgroup commits => loadAndCommit commits fun _ => subgroupChanges
  | .editDevice lower form commits =>
    loadAndCommit commits (collectDeviceExtraParameters lower form)
  | .clearBackupError commits =>
    loadAndCommit commits fun _ => failureKeys.map fun key => (key, none)

def extraWriters : Semantics ExtraDb ExtraCmd ExtraAns Unit ExtraOp Empty where
  handle := handleExtra
  program := ExtraOp.program
  environment e _ := e.elim

abbrev ExtraClients := Clients ExtraDb ExtraCmd ExtraAns Unit
abbrev ExtraEvent := ClientEvent ExtraOp Empty

end BackupCenter.Extras
