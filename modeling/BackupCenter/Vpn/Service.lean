import BackupCenter.Executor.Vpn
import BackupCenter.Lib.Processes
import BackupCenter.Lib.UuidText

/-!
# The VPN service of a shared worker

`vpn_service` as the processes of a worker run it, with `VPN_ISOLATED_WORKER` off: each `nmcli` call
and each file lock is one command, and other processes may act between any two of them.
-/
namespace BackupCenter.Vpn

open BackupCenter.Lib
open BackupCenter.Executor (Exn vpnError shouldRetryVpnConnectError decryptIfSet hasTunnel)
open BackupCenter.Tenants (DeviceGroup)

/-! ## Commands -/

/-- A VPN connection profile. -/
structure Profile where
  name : String
  /-- `vpn.data` -/
  vpnData : String
  /-- `vpn.secrets` -/
  secrets : String
  deriving DecidableEq

/-- The calls of `nmcli`. -/
inductive Nmcli where
  | generalStatus
  | showActive
  | showProfiles
  | down (name : String)
  | delete (name : String)
  | add (profile : Profile)
  | up (name : String) (ifname : Option String)
  /-- a call that is not about VPN connections -/
  | other (args : List String)
  deriving DecidableEq

def Nmcli.args : Nmcli → List String
  | generalStatus => ["--terse", "--fields", "RUNNING", "general", "status"]
  | showActive => ["--terse", "--fields", "NAME,TYPE,STATE", "con", "show", "--active"]
  | showProfiles => ["--terse", "--fields", "NAME,TYPE", "con", "show"]
  | down name => ["connection", "down", name]
  | delete name => ["connection", "delete", name]
  | add p =>
    ["connection", "add", "type", "vpn", "con-name", p.name, "vpn-type", "l2tp", "vpn.data",
      p.vpnData, "vpn.secrets", p.secrets]
  | up name none => ["connection", "up", name]
  | up name (some ifname) => ["connection", "up", name, "ifname", ifname]
  | other args => args

/-- A line of a listing, split at its colons; the list of all profiles has no state. -/
structure Row where
  name : String
  connType : String
  state : String := ""
  deriving DecidableEq

/-- A `CompletedProcess`; the rows are the lines of `stdout` that have all their parts. -/
structure NmcliResult where
  returncode : Int
  stdout : String := ""
  stderr : String := ""
  rows : List Row := []
  deriving DecidableEq

inductive LockFile where
  /-- `LOCK_FILE` -/
  | all
  /-- the file of a group in `GROUP_LOCK_DIR` -/
  | group (name : String)
  deriving DecidableEq

/-- What a process asks of its host. -/
inductive Ask where
  /-- `shutil.which("nmcli")` -/
  | which
  /-- the reason for which this worker took `nmcli` for unusable a short while ago -/
  | unavailable
  | nmcli (c : Nmcli)
  /-- Open a lock file and wait for its lock. -/
  | flock (f : LockFile)
  | unlock (f : LockFile)
  | pkill (pattern : String)
  /-- The time of a waiting loop is over. -/
  | expired
  /-- The body of a session begins. -/
  | enter (group : DeviceGroup)
  | leave
  /-- whatever the body does -/
  | work (what : String)

def Ask.Answer : Ask → Type
  | which | expired => Bool
  | unavailable => Option String
  | nmcli _ => Except Exn NmcliResult
  | flock _ => Except Exn Unit
  | unlock _ | pkill _ | enter _ | leave => Unit
  | work _ => Except Exn String

/-- A program that returns or raises. -/
abbrev Act (α : Type) := ExceptT Exn (Prog Ask Ask.Answer) α

def ask (c : Ask) : Prog Ask Ask.Answer c.Answer := Prog.ask c

def which : Act Bool := ask .which

def unavailable : Act (Option String) := ask .unavailable

def expired : Act Bool := ask .expired

/-- `try: x`, `except Exception: pass` -/
def quietly (x : Act Unit) : Act Unit :=
  tryCatch x fun e => if e.isException then return () else throw e

section Service

variable (lower : String → String) (decrypt : String → Except Exn String)

/-- `_run_nmcli` -/
def runNmcli (c : Nmcli) (check : Bool) : Act NmcliResult := do
  let result ← (.mk (ask (.nmcli c)) : Act NmcliResult)
  if check = true ∧ result.returncode ≠ 0 then
    let details :=
      if strip result.stderr ≠ "" then strip result.stderr
      else if strip result.stdout ≠ "" then strip result.stdout
      else "code=" ++ toString result.returncode
    throw (vpnError ("nmcli " ++ " ".intercalate c.args ++ " falhou: " ++ details))
  else return result

/-- `_nm_escape` -/
def nmEscape (value : String) : String :=
  String.ofList (value.toList.flatMap fun c => if c = '\\' ∨ c = ',' then ['\\', c] else [c])

/-- `_connection_name` -/
def connectionName (group : DeviceGroup) : String :=
  "group_vpn_" ++ String.ofList (((uuidText group.id).toList.filter (· != '-')).take 12)

/-- The profile that `connect_group_vpn` adds, with the data of the group. -/
def groupProfile (group : DeviceGroup) : Except Exn Profile := do
  let vpnServer := strip (group.vpnServer.getD "")
  let vpnUser := strip (group.vpnUsername.getD "")
  let vpnPass ← decryptIfSet decrypt group.vpnPasswordEncrypted
  let vpnIpsec ← decryptIfSet decrypt group.vpnIpsecSecretEncrypted
  if vpnServer = "" ∨ vpnUser = "" ∨ vpnPass = "" then
    .error (vpnError ("Grupo '" ++ group.name ++
      "' está com VPN ativa, mas faltam dados (server/user/password)."))
  else
    .ok
      { name := connectionName group
        vpnData := "gateway=" ++ nmEscape vpnServer ++ ",user=" ++ nmEscape vpnUser ++
          if vpnIpsec = "" then "" else ",ipsec-enabled=yes"
        secrets := "password-flags=0,password=" ++ nmEscape vpnPass ++
          if vpnIpsec = "" then "" else ",ipsec-psk-flags=0,ipsec-psk=" ++ nmEscape vpnIpsec }

/-- `_should_retry_activation_with_eth0` -/
def shouldRetryActivationWithEth0 (message : String) : Bool :=
  let normalized := lower (strip message)
  contains normalized "could not find source connection" ||
    (contains normalized "connection activation failed" &&
      containsAny normalized ["unknown reason", "nm_device=eth0", "device=eth0"])

/-- `_ensure_nmcli` -/
def ensureNmcli : Act Unit := do
  if (← which) = false then
    throw (vpnError "nmcli não encontrado. VPN por L2TP/IPsec indisponível neste worker.")
  else
    match ← unavailable with
    | some reason => throw (vpnError reason)
    | none =>
      tryCatch
        (do
          let result ← runNmcli .generalStatus false
          let output := lower (strip (result.stdout ++ " " ++ result.stderr))
          if result.returncode ≠ 0 ∨ contains output "running" = false then
            let details :=
              if output = "" then "code=" ++ toString result.returncode else output
            throw (vpnError ("NetworkManager indisponível neste worker para VPN L2TP/IPsec " ++
              "(nmcli general status: " ++ details ++ ")."))
          else return ())
        fun e =>
          if e.isException ∧ !e.isVpnError then
            throw (vpnError ("Falha ao validar backend de VPN no worker: " ++ e.text))
          else throw e

/-- Take down and remove the VPN connections of some rows. -/
def removeRows : List Row → Act Unit
  | [] => return ()
  | row :: rows => do
    let _ ← runNmcli (.down row.name) false
    let _ ← runNmcli (.delete row.name) false
    removeRows rows

/-- `_cleanup_active_vpns` -/
def cleanupActiveVpns (keep : String) : Act Unit := do
  let result ← runNmcli .showActive false
  removeRows (result.rows.filter fun row =>
    row.connType = "vpn" && row.state = "activated" && row.name ≠ keep)

/-- `_cleanup_vpn_profiles`; nothing is kept under the empty name. -/
def cleanupVpnProfiles (keep : String) : Act Unit := do
  cleanupActiveVpns keep
  let result ← runNmcli .showProfiles false
  removeRows (result.rows.filter fun row =>
    row.connType = "vpn" && (keep = "" || row.name ≠ keep))

/-- `_wait_for_vpn_quiescent`; each round takes a second at least. -/
def waitForVpnQuiescent : Nat → Act Unit
  | 0 => return ()
  | seconds + 1 => do
    if ← expired then return ()
    else
      let result ← runNmcli .showActive false
      if result.rows.any fun row => row.connType = "vpn" && row.state = "activated" then
        waitForVpnQuiescent seconds
      else return ()

def emitNmDiagnostics : Act Unit := do
  quietly (do let _ ← runNmcli (.other ["device", "status"]) false)
  quietly (do
    let _ ← runNmcli
      (.other ["--terse", "--fields", "NAME,TYPE,DEVICE,STATE", "con", "show", "--active"]) false)

/-- `_retry_connection_up_on_eth0` -/
def retryConnectionUpOnEth0 (name : String) : Act Unit := do
  let _ ← runNmcli (.other ["connection", "up", "container-eth0"]) false
  let _ ← runNmcli (.up name (some "eth0")) true

/-- Add the profile and bring it up. -/
def activate (profile : Profile) : Act Unit := do
  let _ ← runNmcli (.down profile.name) false
  let _ ← runNmcli (.delete profile.name) false
  let _ ← runNmcli (.add profile) true
  tryCatch (do let _ ← runNmcli (.up profile.name none) true) fun e =>
    if e.isVpnError ∧ shouldRetryActivationWithEth0 lower e.text then do
      emitNmDiagnostics
      retryConnectionUpOnEth0 profile.name
    else throw e

/-- `connect_group_vpn` -/
def connectGroupVpn (group : DeviceGroup) : Act (Option String) := do
  ensureNmcli lower
  if hasTunnel group then
    let profile ← (.mk (.ret (groupProfile decrypt group)) : Act Profile)
    cleanupVpnProfiles profile.name
    waitForVpnQuiescent 20
    let _ ← runNmcli (.down profile.name) false
    let _ ← runNmcli (.delete profile.name) false
    tryCatch (activate lower profile) fun e =>
      if e.isException then do
        emitNmDiagnostics
        cleanupVpnProfiles ""
        waitForVpnQuiescent 20
        throw e
      else throw e
    return some profile.name
  else return none

/-- `disconnect_group_vpn` -/
def disconnectGroupVpn (group : DeviceGroup) : Act Unit := do
  if hasTunnel group then
    let _ ← runNmcli (.down (connectionName group)) false
    let _ ← runNmcli (.delete (connectionName group)) false
    cleanupVpnProfiles ""
    waitForVpnQuiescent 20
  else return ()

def pkillAll : List String → Act Unit
  | [] => return ()
  | pattern :: patterns => do
    let () ← ask (.pkill pattern)
    pkillAll patterns

/-- `CONNECT_RETRIES` and `RESET_BACKEND_ON_CONNECT_FAILURE` -/
structure Settings where
  connectRetries : Nat := 3
  resetBackendOnConnectFailure : Bool := true

variable (settings : Settings)

/-- `_reset_vpn_backend_after_failure` -/
def resetVpnBackendAfterFailure : Act Unit := do
  if settings.resetBackendOnConnectFailure then
    quietly (cleanupVpnProfiles "")
    pkillAll ["nm-l2tp-service", "xl2tpd", "pppd", "charon", "starter"]
    quietly (do
      let _ ← runNmcli (.other ["connection", "up", "container-eth0"]) false
      let _ ← runNmcli (.other ["device", "reapply", "eth0"]) false)
    quietly (waitForVpnQuiescent 20)
  else return ()

/-- The attempts of `vpn_session` to connect, with so many left after the first. -/
def connectWithRetries (group : DeviceGroup) : Nat → Act Unit
  | 0 =>
    tryCatch (do let _ ← connectGroupVpn lower decrypt group) fun e =>
      if e.isVpnError then do
        resetVpnBackendAfterFailure settings
        throw e
      else throw e
  | left + 1 =>
    tryCatch (do let _ ← connectGroupVpn lower decrypt group) fun e =>
      if e.isVpnError then
        if shouldRetryVpnConnectError lower e.text then do
          quietly (resetVpnBackendAfterFailure settings)
          connectWithRetries group left
        else do
          resetVpnBackendAfterFailure settings
          throw e
      else throw e

/-- The lock file of a group, whose name keeps the letters, digits and dashes of its id. -/
def groupLockFile (group : DeviceGroup) : LockFile :=
  .group (String.ofList ((strip (uuidText group.id)).toList.filter fun c =>
    c.isAlphanum || c = '-' || c = '_') ++ ".lock")

def release : List LockFile → Prog Ask Ask.Answer Unit
  | [] => .ret ()
  | f :: fs => .call (.unlock f) fun _ => release fs

/-- The `finally` of `vpn_session`: an exception of the clean-up replaces the outcome, and the locks
are released in any case. -/
def finish {α : Type} (group : DeviceGroup) (connected : Bool) (locks : List LockFile)
    (outcome : Except Exn α) : Prog Ask Ask.Answer (Except Exn α) := do
  let cleaned ← (if connected then disconnectGroupVpn group
    else quietly (cleanupVpnProfiles "")).run
  release locks
  match cleaned with
  | .error e => return .error e
  | .ok () => return outcome

/-- The body of a `with vpn_session(...)`: it works, and takes no part in the VPN. -/
structure Body where
  run : Act String
  isWork : Prog.Always (fun c => ∃ what, c = .work what) run.run

/-- `vpn_session` around its body -/
def vpnSession (group : DeviceGroup) (body : Body) : Prog Ask Ask.Answer (Except Exn String) := do
  match (← ask (.flock (groupLockFile group)) : Except Exn Unit) with
  | .error e => finish group false [] (.error e)
  | .ok () =>
    match (← ask (.flock .all) : Except Exn Unit) with
    | .error e => finish group false [groupLockFile group] (.error e)
    | .ok () =>
      match ← (connectWithRetries lower decrypt settings group
        (max 1 settings.connectRetries - 1)).run with
      | .error e => finish group false [.all, groupLockFile group] (.error e)
      | .ok () =>
        let () ← ask (.enter group)
        let outcome ← body.run.run
        let () ← ask .leave
        finish group true [.all, groupLockFile group] outcome

/-- The VPN of `run_group_vpn_test_task`; all exceptions become a message. -/
def runGroupVpnTestTask (group : DeviceGroup) : Prog Ask Ask.Answer (Except Exn String) := do
  if group.usesVpn = some true then
    (do
      let name ← connectGroupVpn lower decrypt group
      disconnectGroupVpn group
      return name.getD "" : Act String).run
  else return .ok "Grupo sem VPN habilitada."

/-! ## The host -/

/-- The VPN profiles that NetworkManager knows, and those that are active. -/
structure NetworkManager where
  profiles : List Profile := []
  active : List Profile := []
  active_subset : active ⊆ profiles := by simp
  deriving DecidableEq

namespace NetworkManager

def down (nm : NetworkManager) (name : String) : NetworkManager where
  profiles := nm.profiles
  active := nm.active.filter (·.name ≠ name)
  active_subset := fun _ hp => nm.active_subset (List.mem_of_mem_filter hp)

def delete (nm : NetworkManager) (name : String) : NetworkManager where
  profiles := nm.profiles.filter (·.name ≠ name)
  active := nm.active.filter (·.name ≠ name)
  active_subset := fun _ hp => by
    obtain ⟨hp, hname⟩ := List.mem_filter.mp hp
    exact List.mem_filter.mpr ⟨nm.active_subset hp, hname⟩

def add (nm : NetworkManager) (profile : Profile) : NetworkManager where
  profiles := nm.profiles ++ [profile]
  active := nm.active
  active_subset := fun _ hp => List.mem_append_left _ (nm.active_subset hp)

/-- The first profile of this name becomes active. -/
def up (nm : NetworkManager) (name : String) : NetworkManager :=
  match hfind : nm.profiles.find? (·.name = name) with
  | none => nm
  | some p =>
    { profiles := nm.profiles
      active := if p ∈ nm.active then nm.active else p :: nm.active
      active_subset := by
        split
        · exact nm.active_subset
        · exact List.cons_subset.mpr ⟨List.mem_of_find?_eq_some hfind, nm.active_subset⟩ }

/-- Some connections break. -/
def kill (nm : NetworkManager) (names : List String) : NetworkManager where
  profiles := nm.profiles
  active := nm.active.filter (·.name ∉ names)
  active_subset := fun _ hp => nm.active_subset (List.mem_of_mem_filter hp)

end NetworkManager

/-- The documented effect of a call that succeeds. -/
def Nmcli.apply (nm : NetworkManager) : Nmcli → NetworkManager
  | down name => nm.down name
  | delete name => nm.delete name
  | add profile => nm.add profile
  | up name _ => nm.up name
  | generalStatus | showActive | showProfiles | other _ => nm

/-- The call can succeed: what it names exists. -/
def Nmcli.isPossible (nm : NetworkManager) : Nmcli → Bool
  | down name => nm.active.any (·.name = name)
  | delete name | up name _ => nm.profiles.any (·.name = name)
  | generalStatus | showActive | showProfiles | add _ | other _ => true

/-- The VPN rows of the listing that a call prints. -/
def Nmcli.rows (nm : NetworkManager) : Nmcli → List Row
  | showActive => nm.active.map fun p => { name := p.name, connType := "vpn", state := "activated" }
  | showProfiles => nm.profiles.map fun p => { name := p.name, connType := "vpn" }
  | generalStatus | down _ | delete _ | add _ | up _ _ | other _ => []

/-- How a command ends, as far as the host decides it. A call that fails or raises may have taken
its effect all the same. -/
inductive Choice where
  /-- with this output, and these rows for what is not a VPN -/
  | succeeds (stdout : String) (others : List Row)
  | fails (took : Bool) (result : NmcliResult)
  | raises (took : Bool) (e : Exn)
  | tells (answer : Bool)
  | explains (reason : Option String)
  | kills (names : List String)
  | works (result : Except Exn String)
  | done

def performNmcli (c : Nmcli) (choice : Choice) (nm : NetworkManager) :
    Option (Except Exn NmcliResult × NetworkManager) :=
  match choice with
  | .succeeds stdout others =>
    if c.isPossible nm ∧ others.all (·.connType ≠ "vpn") then
      some (.ok { returncode := 0, stdout := stdout, rows := c.rows nm ++ others }, c.apply nm)
    else none
  | .fails took result =>
    if result.returncode = 0 then none else some (.ok result, if took then c.apply nm else nm)
  | .raises took e => some (.error e, if took then c.apply nm else nm)
  | _ => none

/-- NetworkManager, who holds the file locks, and which processes are in the body of a session. -/
structure Host where
  nm : NetworkManager := {}
  locks : LockFile → Option Nat := fun _ => none
  bodies : List (Nat × DeviceGroup) := []

/-- Process `i` executes a command. -/
def perform (i : Nat) (choice : Choice) (h : Host) : (c : Ask) → Option (c.Answer × Host)
  | .which | .expired =>
    match choice with
    | .tells answer => some (answer, h)
    | _ => none
  | .unavailable =>
    match choice with
    | .explains reason => some (reason, h)
    | _ => none
  | .nmcli c => (performNmcli c choice h.nm).map fun r => (r.1, { h with nm := r.2 })
  | .flock f =>
    match choice with
    | .done =>
      if h.locks f = none then
        some (.ok (), { h with locks := Function.update h.locks f (some i) })
      else none
    | .raises _ e => some (.error e, h)
    | _ => none
  | .unlock f =>
    match choice with
    | .done =>
      if h.locks f = some i then some ((), { h with locks := Function.update h.locks f none })
      else some ((), h)
    | _ => none
  | .pkill _ =>
    match choice with
    | .kills names => some ((), { h with nm := h.nm.kill names })
    | _ => none
  | .enter group =>
    match choice with
    | .done => some ((), { h with bodies := (i, group) :: h.bodies })
    | _ => none
  | .leave =>
    match choice with
    | .done => some ((), { h with bodies := h.bodies.filter (·.1 ≠ i) })
    | _ => none
  | .work _ =>
    match choice with
    | .works result => some (result, h)
    | _ => none

/-- What a worker starts. -/
inductive Call where
  | session (group : DeviceGroup) (body : Body)
  | groupVpnTest (group : DeviceGroup)

def worker (lower : String → String) (decrypt : String → Except Exn String) (settings : Settings) :
    Kernel Host Ask Ask.Answer (Except Exn String) Call Choice where
  perform := perform
  program
    | .session group body => vpnSession lower decrypt settings group body
    | .groupVpnTest group => runGroupVpnTestTask lower decrypt group

end Service

end BackupCenter.Vpn
