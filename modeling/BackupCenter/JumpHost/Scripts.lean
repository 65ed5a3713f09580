import BackupCenter.JumpHost.Contacts
import Mathlib.Data.List.Basic

/-!
# What the backup scripts contact

`realizar_backup` of every script, as far as it opens connections: the drivers that it tries, the
order of the fallbacks, and the shortcuts that some scripts take besides Netmiko. `executeBackup`
runs the script of a device type, after a precheck of the network.
-/
namespace BackupCenter.JumpHost

open BackupCenter.Lib

inductive Script where
  /-- `run_profile_backup` with the candidates of the profile -/
  | profile (candidates : List String)
  /-- `run_basic_netmiko_backup` -/
  | basic (driver : String)
  /-- `run_olt_cli_backup`, and the scripts that open one session in the same way -/
  | oltCli
  | huaweiOlt
  | intelbrasOlt
  | switchHuawei
  | huaweiNe
  /-- the scripts for the OLTs and the switches of Datacom -/
  | datacom
  | switchTplink
  | mikrotikRos
  | mikrotikDownload
  | fiberhome
  | switchCisco
  | zabbix
  | grafana
  deriving DecidableEq

/-- The files under `backup_scripts` with a `realizar_backup`. -/
def backupScripts : List (String × Script) :=
  [("Ubiquiti_olt_netmiko.py", .profile ["cisco_ios", "tplink_jetstream", "huawei", "zte_zxros"]),
    ("Zabbix_backup.py", .zabbix),
    ("a10_cgnat_netmiko.py", .profile ["a10", "linux", "cisco_ios"]),
    ("cdata_olt_netmiko.py", .basic "cisco_ios"),
    ("checkpoint_firewall_netmiko.py", .basic "checkpoint_gaia"),
    ("cianet_olt_netmiko.py", .oltCli),
    ("cisco_router_netmiko.py", .basic "cisco_ios"),
    ("datacom_olt_netmiko.py", .datacom),
    ("digistar_olt_netmiko.py", .oltCli),
    ("fiberhome_olt_netmiko.py", .fiberhome),
    ("fortinet_firewall_netmiko.py", .basic "fortinet"),
    ("furukawa_olt_netmiko.py", .basic "cisco_ios"),
    ("grafana_backup.py", .grafana),
    ("hillstone_cgnat_netmiko.py", .profile ["linux", "cisco_ios"]),
    ("huawei_ne_router_netmiko.py", .huaweiNe),
    ("huawei_olt.py", .huaweiOlt),
    ("intelbras_olt_netmiko.py", .intelbrasOlt),
    ("ixc_erp_netmiko.py", .basic "linux"),
    ("juniper_router_netmiko.py", .basic "juniper_junos"),
    ("maxprint_olt_netmiko.py", .oltCli),
    ("mikrotik_download_backups.py", .mikrotikDownload),
    ("mikrotik_ros_netmiko.py", .mikrotikRos),
    ("mkauth_erp_netmiko.py", .basic "linux"),
    ("nokia_olt_netmiko.py", .profile ["cisco_ios", "tplink_jetstream", "huawei", "zte_zxros"]),
    ("nokia_router_netmiko.py", .profile ["nokia_sros", "nokia_srl", "juniper_junos", "cisco_ios"]),
    ("parks_olt_netmiko.py", .oltCli),
    ("pfsense_firewall_netmiko.py", .basic "pfsense_os"),
    ("sap_erp_netmiko.py", .basic "linux"),
    ("sgp_erp_netmiko.py", .basic "linux"),
    ("shoreline_olt_netmiko.py", .profile ["cisco_ios", "tplink_jetstream", "huawei", "zte_zxros"]),
    ("sonicwall_firewall_netmiko.py", .basic "sonicwall"),
    ("switch_arista_netmiko.py", .profile ["arista_eos", "cisco_ios"]),
    ("switch_aruba_netmiko.py", .basic "aruba_os"),
    ("switch_cisco_netmiko.py", .switchCisco),
    ("switch_datacom_netmiko.py", .datacom),
    ("switch_dell_netmiko.py", .basic "dell_os10"),
    ("switch_extreme_netmiko.py", .basic "extreme_exos"),
    ("switch_huawei_netmiko.py", .switchHuawei),
    ("switch_intelbras_netmiko.py", .profile ["cisco_ios", "tplink_jetstream"]),
    ("switch_juniper_netmiko.py", .profile ["juniper_junos"]),
    ("switch_nokia_netmiko.py", .profile ["nokia_sros", "cisco_ios", "juniper_junos"]),
    ("switch_tplink_netmiko.py", .switchTplink),
    ("switch_ubiquiti_netmiko.py", .profile ["vyos", "linux", "cisco_ios"]),
    ("switch_zte_netmiko.py", .basic "zte_zxros"),
    ("think_olt_netmiko.py", .profile ["cisco_ios", "tplink_jetstream", "huawei", "zte_zxros"]),
    ("topsap_erp_netmiko.py", .basic "linux"),
    ("tplink_olt_netmiko.py", .oltCli),
    ("unifibra_olt_netmiko.py", .profile ["cisco_ios", "tplink_jetstream", "huawei", "zte_zxros"]),
    ("vcorp_cgnat_netmiko.py", .basic "linux"),
    ("voalle_erp_netmiko.py", .basic "linux"),
    ("vsol_olt_netmiko.py", .oltCli),
    ("zte_olt_netmiko.py", .oltCli)]

/-- `_with_telnet_fallback`: with telnet, the telnet drivers come first. -/
def withTelnetFallback (candidates : List String) (useTelnet : Bool) : List String :=
  if useTelnet then
    let telnetFirst := candidates.filterMap fun item =>
      if "_telnet".toList <:+ item.toList then some item
      else if item = "cisco_ios" ∨ item = "huawei" then some (item ++ "_telnet")
      else none
    (telnetFirst ++ candidates).eraseDups
  else candidates

namespace Access

variable (w : Access)

/-- The first candidate with which a connection opens, or the errors of all of them. -/
def firstConnected : List String → List String → Operation (Except (List String) String)
  | [], errors => return .error errors
  | driver :: rest, errors => do
    match ← w.contact (.connectHandler driver) with
    | .done _ => return .ok driver
    | .unusable text | .raised text =>
      firstConnected rest (errors ++ [driver ++ ": " ++ text])

/-- One connection as a test, another one for the backup. -/
def testedBackup (candidates : List String) : Operation Bool := do
  match ← w.firstConnected candidates [] with
  | .ok driver => w.collects (.connectHandler driver)
  | .error _ => return false

def isPreLoginClose (reason : String) : Bool :=
  containsAny (w.env.lower reason) ["conexao encerrada antes", "connection closed",
    "closed by remote host", "eof", "error reading ssh protocol banner"]

def huaweiOlt : Operation Bool := do
  match ← w.contact .openPexpectSession with
  | .done _ => return true
  | .unusable reason =>
    if w.scriptTelnet && w.isPreLoginClose reason then w.collects .openPexpectSession
    else return false
  | .raised _ => return false

def intelbrasOlt : Operation Bool := do
  if w.scriptTelnet then
    match ← w.contact .openPexpectSession with
    | .done _ => w.collects .openPexpectSession
    | _ => return false
  else w.testedBackup ["cisco_ios"]

def isSshAlgorithmError (detail : String) : Bool :=
  containsAny (w.env.lower detail) ["incompatible ssh peer", "no acceptable kex algorithm",
    "no matching key exchange", "kex algorithm", "no matching cipher", "no acceptable ciphers"]

def switchHuawei : Operation Bool := do
  let candidates :=
    withTelnetFallback ["huawei", "cisco_ios", "tplink_jetstream"] w.scriptTelnet
  match ← w.firstConnected candidates [] with
  | .error errors =>
    if !w.scriptTelnet && w.isSshAlgorithmError (strip ("; ".intercalate (errors.take 3))) then
      w.collects .openPexpectSession
    else return false
  | .ok driver =>
    match ← w.contact (.connectHandler driver) with
    | .done _ => return true
    | .unusable _ => w.collects (.connectHandler driver)
    | .raised _ => return false

/-- Some tries, until a connection opens. -/
def tries (attempt : Attempt) : Nat → Operation Bool
  | 0 => return false
  | left + 1 => do
    match ← w.contact attempt with
    | .done _ => return true
    | _ => tries attempt left

/-- One session for each of the virtual systems; one that fails is skipped. -/
def virtualSystems : Nat → Operation Unit
  | 0 => return ()
  | left + 1 => do
    let _ ← w.contact (.connectHandler "huawei")
    virtualSystems left

def systemsBackup : Operation Bool := do
  match ← w.contact (.connectHandler "huawei") with
  | .done systems => do
    w.virtualSystems systems
    return true
  | _ => return false

def huaweiNe : Operation Bool := do
  if ← w.tries (.connectHandler "huawei") 3 then w.systemsBackup else return false

/-- The banner is probed with a connection of its own. -/
def mikrotikRos : Operation Bool := do
  match ← w.contact .tcpConnect with
  | .unusable _ => return false
  | _ => w.collects (.connectHandler "mikrotik_routeros")

def mikrotikDownload : Operation Bool := do
  match ← w.contact .createSshClient with
  | .done _ => return true
  | _ => if w.sshpass then w.collects .sshpass else return false

def isAuthFailureText (text : String) : Bool :=
  containsAny (w.env.lower text) ["bad username", "bad password", "bad username or bad password",
    "login failed", "authentication failed", "permission denied"]

def fiberhome : Operation Bool := do
  if w.scriptTelnet then
    match ← w.contact .tcpConnect with
    | .done _ =>
      match ← w.contact (.connectHandler "cisco_ios_telnet") with
      | .done _ => return true
      | .unusable text | .raised text =>
        if w.isAuthFailureText text then return false else w.collects .spawnTelnet
    | _ => return false
  else w.testedBackup ["cisco_ios", "cisco_ios_telnet"]

def switchCisco : Operation Bool := do
  match ← w.firstConnected (withTelnetFallback ["cisco_ios", "huawei"] w.scriptTelnet) [] with
  | .error _ => if w.scriptTelnet then w.collects .spawnTelnet else return false
  | .ok driver =>
    match ← w.contact (.connectHandler driver) with
    | .done _ => return true
    | _ => if w.scriptTelnet then w.collects .spawnTelnet else return false

/-! ## Parameters -/

def parameter (key : String) : String :=
  match w.device.extraParameters.lookup key with
  | some value => if value.truthy then value.text else ""
  | none => ""

/-- `_normalize_db_type` gives a database that is known. -/
def dbTypeKnown : Bool :=
  ["postgres", "postgresql", "postgre", "postgree", "pgsql", "mariadb", "mysql"].contains
    (w.env.lower (strip (w.parameter "db_type")))

def dbAutomatic : Bool :=
  w.env.lower (strip (w.parameter "db_credentials_mode")) = "automatic"

def dbComplete : Bool :=
  ["db_name", "db_user", "db_password"].all fun key => strip (w.parameter key) ≠ ""

/-- The name and the user of the database, from its server where they are not given. -/
def discover : Operation Bool := do
  if w.dbAutomatic || !w.dbComplete then w.collects (.connectHandler "linux") else return true

def zabbix : Operation Bool := do
  match ← w.contact (.connectHandler "linux") with
  | .done _ =>
    if !w.dbTypeKnown then return false
    else if ← w.discover then
      match ← w.contact (.connectHandler "linux") with
      | .done _ =>
        match ← w.contact .sshClient with
        | .done _ => do
          let _ ← w.contact (.connectHandler "linux")
          return true
        | _ => return false
      | _ => return false
    else return false
  | _ => return false

/-- The dashboards, one request each. -/
def dashboards : Nat → Operation Bool
  | 0 => return true
  | left + 1 => do
    match ← w.contact .http with
    | .raised _ => return false
    | _ => dashboards left

def grafana : Operation Bool := do
  match ← w.contact .http with
  | .done _ =>
    match ← w.contact .http with
    | .done boards => w.dashboards boards
    | _ => return false
  | _ => return false

/-- The password among the parameters, or the one of the device. -/
def hasPassword (password : String) : Bool :=
  match w.device.extraParameters.lookup "password" with
  | some value => value.truthy
  | none => password ≠ ""

/-- The parameters without which a script does nothing. -/
def hasParameters (password : String) : Script → Bool
  | .grafana => w.extra "grafana_url" && w.extra "api_key"
  | .zabbix => w.hasPassword password && w.extra "db_type"
  | _ => w.hasPassword password

def connections : Script → Operation Bool
  | .profile candidates => w.testedBackup (withTelnetFallback candidates w.scriptTelnet)
  | .basic driver => w.testedBackup [driver]
  | .oltCli => w.collects .openPexpectSession
  | .huaweiOlt => w.huaweiOlt
  | .intelbrasOlt => w.intelbrasOlt
  | .switchHuawei => w.switchHuawei
  | .huaweiNe => w.huaweiNe
  | .datacom => w.testedBackup [if w.scriptTelnet then "cisco_ios_telnet" else "cisco_ios"]
  | .switchTplink => w.testedBackup
      (if w.scriptTelnet then ["cisco_ios_telnet", "tplink_jetstream", "cisco_ios"]
        else ["tplink_jetstream", "cisco_ios"])
  | .mikrotikRos => w.mikrotikRos
  | .mikrotikDownload => w.mikrotikDownload
  | .fiberhome => w.fiberhome
  | .switchCisco => w.switchCisco
  | .zabbix => w.zabbix
  | .grafana => w.grafana

def realizarBackup (password : String) (script : Script) : Operation Bool :=
  if w.hasParameters password script then w.connections script else return false

/-! ## The run -/

def precheckRuns : Bool :=
  w.precheckEnabled && !(w.jump.isSome && (w.precheckSkipForJump || w.useTelnet))

/-- The network precheck with its confirming retries; the run goes on unless it fails fast. -/
def precheckPasses : Operation Bool := do
  if w.precheckRuns then
    match ← w.contact .precheck with
    | .done _ => return true
    | .raised _ => return false
    | .unusable _ =>
      if w.precheckFailFast && !(w.jump.isSome && w.ignoreJumpTcpFail) then
        w.tries .precheck w.confirmRetries
      else return true
  else return true

/-- The precheck, and then the script. -/
def run (password : String) (script : Script) : Operation Bool := do
  if ← w.precheckPasses then w.realizarBackup password script else return false

end Access

/-- `execute_backup`, from the look at the script on. -/
def Site.executeBackup (s : Site) : Operation Bool :=
  match backupScripts.lookup s.scriptName with
  | none => return false
  | some script =>
    match s.env.decryptPassword s.device.passwordEncrypted with
    | none => return false
    | some password =>
      match s.executorJumpHost with
      | none => return false
      | some jump => Access.run { s with jump := jump } password script

end BackupCenter.JumpHost
