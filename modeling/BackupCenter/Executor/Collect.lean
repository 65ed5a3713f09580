import BackupCenter.Executor.Vpn
import BackupCenter.Tenants.ConnectionMode

/-!
# Collecting a backup

`execute_backup` checks the script and the credentials, runs the script through the VPN of the
group if it has one, and answers with success, message and file. Failures of the script are turned
into such an answer; what is raised before the script starts is not.
-/
namespace BackupCenter.Executor

open BackupCenter.Lib
open BackupCenter.Tenants (DeviceGroup DeviceSubgroup Uuid nonempty getEffectiveConnectionType)

/-- A device with the columns that a run writes. -/
structure Device extends Tenants.Device where
  lastBackupAt : Option Int := none
  lastBackupStatus : Option String := some "never"

instance : Keyed Device Uuid := ⟨fun d => d.id⟩

structure DeviceType where
  name : String
  scriptName : Option String

/-- What `_load_script` and the look at its functions give. -/
inductive LoadedScript where
  | notLoaded (error : Option String)
  | withoutEntry
  | loaded

/-- What `realizar_backup` returns: a tuple, or one value; parts that are missing are `none`. -/
structure ScriptResult where
  success : Option Bool
  message : Option String := none
  explicitPath : Option String := none

/-- Success, message and file of a collection. -/
structure Collected where
  success : Bool
  message : String
  filePath : Option String := none
  deriving DecidableEq

def failed (message : String) : Collected := { success := false, message := message }

/-- What a collection meets in its worker. -/
structure ScriptWorld extends VpnWorld where
  script : LoadedScript := .loaded
  /-- `_get_backup_path` creates the directory -/
  backupPath : Except Exn Unit := .ok ()
  /-- what stands before the `try` of `_execute_script` -/
  beforeScript : Except Exn Unit := .ok ()
  /-- method and port of a precheck that stops the run -/
  precheck : Except Exn (Option (String × String)) := .ok none
  realizarBackup : Except Exn ScriptResult
  /-- the newest file of the directory that this run wrote -/
  newFile : Except Exn (Option String) := .ok none
  /-- `sanitize_operational_message`, if it does not raise -/
  sanitize : String → Option String := some

variable (w : ScriptWorld)

/-! ## The script -/

def ScriptWorld.sanitized (message : String) : String := (w.sanitize message).getD message

/-- `friendly_failure_message` for the two categories that are used here -/
def friendlyFailureMessage (base detail : String) : String :=
  let clean := strip detail
  let low := w.env.lower clean
  let base :=
    if contains low "jump host respondeu" && contains low "dispositivo destino" &&
        containsAny low ["nao abriu", "não abriu"] then
      "Falha de conectividade com o dispositivo."
    else base
  let clean := w.sanitized clean
  if clean = "" then base else base ++ " Detalhe: " ++ clean

/-- The message of a script that raised. -/
def scriptErrorMessage (e : Exn) : String :=
  let message := w.sanitized e.text
  let low := w.env.lower message
  if containsAny low ["timed out", "timeout", "authentication timeout", "read timeout"] then
    friendlyFailureMessage w "Tempo esgotado aguardando resposta do equipamento."
      "Tempo esgotado aguardando resposta do equipamento."
  else if containsAny low ["unable to connect", "connection refused", "no route to host",
      "network is unreachable", "tcp connection"] then
    friendlyFailureMessage w "Falha de conectividade com o dispositivo." message
  else "Erro durante backup: " ++ message

/-- What the script's answer comes to. -/
def scriptAnswer (result : ScriptResult) : Except Exn Collected :=
  let message := (nonempty result.message).map w.sanitized
  if result.success = some true then do
    let filePath ←
      match nonempty result.explicitPath with
      | some path => .ok (some path)
      | none => w.newFile
    match nonempty filePath with
    | some path =>
      return { success := true, message := (nonempty message).getD "Backup realizado com sucesso"
               filePath := some path }
    | none => return failed "Comando executado, mas nenhum arquivo novo foi gerado nesta execucao."
  else .ok (failed ((nonempty message).getD "Falha ao realizar backup"))

/-- The body of the `try` of `_execute_script`. -/
def scriptBody : Except Exn Collected := do
  match ← w.precheck with
  | some (tcpMethod, tcpPort) =>
    return failed ("Rede inalcançável (" ++ tcpMethod ++ "): Não foi possível acessar a porta " ++
      tcpPort ++ ". Backup abortado via precheck/fail-fast.")
  | none =>
    let result ← w.realizarBackup
    scriptAnswer w result

/-- `_execute_script` -/
def executeScript : Except Exn Collected := do
  w.beforeScript
  catching Exn.isException (scriptBody w) fun e => .ok (failed (scriptErrorMessage w e))

/-! ## Credentials and connection -/

/-- A decryption with the handler around it. -/
def decryptOr (decrypted : Except Exn String) (what advice : String) :
    Except Exn (String ⊕ Collected) :=
  catching Exn.isException (decrypted.map .inl) fun e =>
    .ok (.inr (failed ("Falha ao descriptografar " ++ what ++ " (" ++ e.name ++ "). " ++ advice)))

/-- The checks of the bastion's credentials; the failure that they end in, if any. -/
def checkJumpHost (group : DeviceGroup) : Except Exn (Option Collected) := do
  match ← decryptOr (decryptIfSet w.decrypt group.jumpPasswordEncrypted) "senha do Jump Host"
      "Regrave a senha do grupo." with
  | .inr failure => return some failure
  | .inl jumpPassword =>
    match ← decryptOr (decryptIfSet w.decrypt group.jumpKeyEncrypted) "chave do Jump Host"
        "Regrave a chave do grupo." with
    | .inr failure => return some failure
    | .inl jumpKey =>
      if (nonempty group.jumpUsername).isNone then
        return some (failed
          "Jump Host configurado sem usuario. Ajuste o grupo antes de executar o backup.")
      else if jumpPassword = "" ∧ jumpKey = "" then
        return some (failed
          "Jump Host sem credencial (senha/chave). Ajuste o grupo antes de executar o backup.")
      else return none

/-- The group whose bastion the run uses. -/
def jumpHostGroup (device : Device) (group : Option DeviceGroup)
    (subgroup : Option DeviceSubgroup) : Option DeviceGroup :=
  group.filter fun g =>
    getEffectiveConnectionType w.env (some g) subgroup device.extraParameters = some .jumpHost &&
      (nonempty g.jumpHost).isSome

/-- A bastion that the collection does not use is not checked. -/
def checkedJump (jump : Option DeviceGroup) : Except Exn (Option Collected) :=
  match jump with
  | some g => checkJumpHost w g
  | none => .ok none

/-- The group whose tunnel the run brings up itself. -/
def vpnGroup (device : Device) (group : Option DeviceGroup) (subgroup : Option DeviceSubgroup)
    (manageVpn : Bool) : Option DeviceGroup :=
  group.filter fun g =>
    getEffectiveConnectionType w.env (some g) subgroup device.extraParameters = some .vpn &&
      manageVpn

/-- The script, inside the VPN session if there is one. -/
def connected (vpn : Option DeviceGroup) : Except Exn Collected :=
  match vpn with
  | some g =>
    catching Exn.isVpnError (vpnSession w.toVpnWorld g (executeScript w)) fun e =>
      .ok (failed ("Falha ao preparar VPN: " ++ e.text))
  | none => executeScript w

/-- What a run knows of its device from the first session. -/
structure RunTarget where
  device : Device
  deviceType : Option DeviceType
  group : Option DeviceGroup := none
  subgroup : Option DeviceSubgroup := none
  manageVpn : Bool := true

/-- `device_type.script_name`, if there is one. -/
def RunTarget.scriptName (t : RunTarget) : Option String :=
  t.deviceType.bind fun type => nonempty type.scriptName

/-- From the credentials of the device on. -/
def collectWith (t : RunTarget) : Except Exn Collected := do
  match ← decryptOr (w.decrypt t.device.passwordEncrypted) "credencial do dispositivo"
      "Regrave a senha do equipamento." with
  | .inr failure => return failure
  | .inl _ =>
    match ← checkedJump w (jumpHostGroup w t.device t.group t.subgroup) with
    | some failure => return failure
    | none => connected w (vpnGroup w t.device t.group t.subgroup t.manageVpn)

/-- `execute_backup` -/
def executeBackup (t : RunTarget) : Except Exn Collected :=
  match t.scriptName with
  | none => .ok (failed "Tipo de dispositivo sem script configurado")
  | some scriptName =>
    match w.script with
    | .notLoaded error =>
      match nonempty error with
      | some reason =>
        .ok (failed ("Falha ao carregar script " ++ scriptName ++ ": " ++ reason))
      | none => .ok (failed ("Script " ++ scriptName ++ " nao encontrado"))
    | .withoutEntry =>
      .ok (failed ("Script " ++ scriptName ++ " nao tem funcao realizar_backup"))
    | .loaded => do
      w.backupPath
      collectWith w t

/-! ## What leaves a collection -/

/-- An exception that `except Exception` takes. -/
def Handled (e : Exn) : Prop := e.isException = true

/-- Nothing is raised before the script, and the script raises nothing outside `Exception`. -/
def ScriptContained : Prop :=
  NeverRaises w.beforeScript ∧
    (w.beforeScript = .ok () → OnlyRaises Handled (scriptBody w))

/-- The key of a bastion is only decrypted after its password. -/
def JumpContained (g : DeviceGroup) : Prop :=
  OnlyRaises Handled (decryptIfSet w.decrypt g.jumpPasswordEncrypted) ∧
    ∀ password, decryptIfSet w.decrypt g.jumpPasswordEncrypted = .ok password →
      OnlyRaises Handled (decryptIfSet w.decrypt g.jumpKeyEncrypted)

/-- The script, or the VPN session around it, raises nothing that is not handled. -/
def ConnectedContained : Option DeviceGroup → Prop
  | some g => VpnContained w.toVpnWorld g (executeScript w)
  | none => ScriptContained w

/-- Every exception of a collection is handled, as far as it gets. -/
def CollectContained (t : RunTarget) : Prop :=
  t.scriptName ≠ none → w.script = .loaded → NeverRaises w.backupPath ∧
    (w.backupPath = .ok () → OnlyRaises Handled (w.decrypt t.device.passwordEncrypted) ∧
      ∀ password, w.decrypt t.device.passwordEncrypted = .ok password →
        (∀ g, jumpHostGroup w t.device t.group t.subgroup = some g → JumpContained w g) ∧
        ((∀ g, jumpHostGroup w t.device t.group t.subgroup = some g →
            checkJumpHost w g = .ok none) →
          ConnectedContained w (vpnGroup w t.device t.group t.subgroup t.manageVpn)))

variable {w}

theorem neverRaises_executeScript : NeverRaises (executeScript w) ↔ ScriptContained w := by
  unfold executeScript ScriptContained NeverRaises
  rw [onlyRaises_seq]
  apply and_congr_right
  intro _
  apply imp_congr_right
  intro _
  exact neverRaises_catching fun e => onlyRaises_ok

theorem neverRaises_decryptOr {decrypted : Except Exn String} {what advice : String} :
    NeverRaises (decryptOr decrypted what advice) ↔ OnlyRaises Handled decrypted :=
  (neverRaises_catching fun _ => onlyRaises_ok).trans onlyRaises_map

/-- The answer of a decryption with its handler. -/
theorem decryptOr_inl {decrypted : Except Exn String} {what advice password : String} :
    decryptOr decrypted what advice = .ok (.inl password) ↔ decrypted = .ok password := by
  cases decrypted with
  | ok p => simp [decryptOr, catching, Except.map]
  | error e =>
    by_cases h : e.isException = true
    · simp [decryptOr, catching, Except.map, h]
    · simp [decryptOr, catching, Except.map, h]

theorem neverRaises_checkJumpHost {g : DeviceGroup} :
    NeverRaises (checkJumpHost w g) ↔ JumpContained w g := by
  unfold checkJumpHost JumpContained NeverRaises
  rw [onlyRaises_bind, ← NeverRaises, neverRaises_decryptOr]
  apply and_congr_right
  intro _
  constructor
  · intro h password hpassword
    have hin := h (.inl password) (decryptOr_inl.mpr hpassword)
    exact neverRaises_decryptOr.mp (onlyRaises_bind.mp hin).1
  · intro h a ha
    cases a with
    | inr failure => exact onlyRaises_ok
    | inl password =>
      refine onlyRaises_bind.mpr ⟨neverRaises_decryptOr.mpr (h password (decryptOr_inl.mp ha)), ?_⟩
      intro b _
      cases b with
      | inr failure => exact onlyRaises_ok
      | inl key =>
        dsimp only
        split
        · exact onlyRaises_ok
        · split
          · exact onlyRaises_ok
          · exact onlyRaises_ok

theorem neverRaises_connected {vpn : Option DeviceGroup} :
    NeverRaises (connected w vpn) ↔ ConnectedContained w vpn := by
  cases vpn with
  | none => exact neverRaises_executeScript
  | some g =>
    have hhandled : NeverRaises (connected w (some g)) ↔
        OnlyRaises Expected (vpnSession w.toVpnWorld g (executeScript w)) :=
      neverRaises_catching fun _ => onlyRaises_ok
    rw [hhandled, onlyRaises_vpnSession]
    rfl

theorem neverRaises_checkedJump {jump : Option DeviceGroup} :
    NeverRaises (checkedJump w jump) ↔ ∀ g, jump = some g → JumpContained w g := by
  cases jump with
  | none => simp only [checkedJump, NeverRaises, onlyRaises_ok, reduceCtorEq, false_imp_iff,
      implies_true]
  | some g => simp only [checkedJump, neverRaises_checkJumpHost, Option.some.injEq, forall_eq']

theorem checkedJump_none {jump : Option DeviceGroup} :
    checkedJump w jump = .ok none ↔ ∀ g, jump = some g → checkJumpHost w g = .ok none := by
  cases jump with
  | none => simp only [checkedJump, reduceCtorEq, false_imp_iff, implies_true]
  | some g => simp only [checkedJump, Option.some.injEq, forall_eq']

theorem neverRaises_collectWith {t : RunTarget} :
    NeverRaises (collectWith w t) ↔
      OnlyRaises Handled (w.decrypt t.device.passwordEncrypted) ∧
        ∀ password, w.decrypt t.device.passwordEncrypted = .ok password →
          (∀ g, jumpHostGroup w t.device t.group t.subgroup = some g → JumpContained w g) ∧
          ((∀ g, jumpHostGroup w t.device t.group t.subgroup = some g →
              checkJumpHost w g = .ok none) →
            ConnectedContained w (vpnGroup w t.device t.group t.subgroup t.manageVpn)) := by
  unfold collectWith NeverRaises
  rw [onlyRaises_bind, ← NeverRaises, neverRaises_decryptOr]
  apply and_congr_right
  intro _
  constructor
  · intro h password hpassword
    have hin := h (.inl password) (decryptOr_inl.mpr hpassword)
    dsimp only at hin
    rw [onlyRaises_bind] at hin
    obtain ⟨hjump, hrest⟩ := hin
    refine ⟨neverRaises_checkedJump.mp hjump, fun hpasses => ?_⟩
    exact neverRaises_connected.mp (hrest none (checkedJump_none.mpr hpasses))
  · intro h a ha
    cases a with
    | inr failure => exact onlyRaises_ok
    | inl password =>
      obtain ⟨hjump, hconnected⟩ := h password (decryptOr_inl.mp ha)
      dsimp only
      rw [onlyRaises_bind]
      refine ⟨neverRaises_checkedJump.mpr hjump, fun b hb => ?_⟩
      cases b with
      | some failure => exact onlyRaises_ok
      | none => exact neverRaises_connected.mpr (hconnected (checkedJump_none.mp hb))

/-- Exactly what keeps every exception in a collection. -/
theorem neverRaises_executeBackup {t : RunTarget} :
    NeverRaises (executeBackup w t) ↔ CollectContained w t := by
  unfold executeBackup CollectContained
  cases hname : t.scriptName with
  | none => simp [NeverRaises]
  | some scriptName =>
    cases hscript : w.script with
    | notLoaded error =>
      refine iff_of_true ?_ (by simp)
      dsimp only
      split
      · exact onlyRaises_ok
      · exact onlyRaises_ok
    | withoutEntry => simp [NeverRaises]
    | loaded =>
      simp only [ne_eq, reduceCtorEq, not_false_eq_true, forall_const, ← neverRaises_collectWith]
      exact onlyRaises_seq

end BackupCenter.Executor
