import BackupCenter.Lib.Patterns
import BackupCenter.Lib.Text
import BackupCenter.Tenants.ConnectionMode

/-!
# Contacts with a device

Every connection that `diagnose_access_chain` and a backup script may open for a device, and by
which route it goes: from the worker itself, or through the jump host of the group. What comes after
an attempt depends on how it ended, and a program over the attempts has every fallback of the
source. The services and the scripts build the jump host's configuration each on their own, and hand
it on in different ways.
-/
namespace BackupCenter.JumpHost

open BackupCenter.Lib
open BackupCenter.Tenants (DeviceGroup DeviceSubgroup Device JsonValue ConnectionMode nonempty
  getEffectiveConnectionType)

/-! ## The configuration of the jump host -/

structure JumpConfig where
  host : String
  port : Int
  username : String
  password : Option String
  key : Option String

/-- A device with what its operations meet in the worker. -/
structure Site where
  env : Tenants.Env
  device : Device
  group : Option DeviceGroup
  subgroup : Option DeviceSubgroup := none
  scriptName : String
  typeName : String
  /-- the `jump_host` entry of the extra parameters -/
  extraJumpHost : Option JumpConfig := none
  /-- a Netmiko driver talks through the `sock` that it is given -/
  usesSock : String → Bool
  /-- the host in a URL -/
  urlHost : String → String
  /-- `shutil.which("sshpass")` -/
  sshpass : Bool := true
  precheckEnabled : Bool := true
  precheckSkipForJump : Bool := true
  precheckFailFast : Bool := true
  ignoreJumpTcpFail : Bool := false
  confirmRetries : Nat := 1

namespace Site

variable (s : Site)

def connectionType : Option ConnectionMode :=
  getEffectiveConnectionType s.env s.group s.subgroup s.device.extraParameters

/-- `uses_jump_host` -/
def usesJumpHost : Bool := s.connectionType = some .jumpHost

/-- The address as the connections use it. -/
def target : String := strip s.device.ipAddress

/-- A host name as it is compared with another one. -/
def hostKey (host : String) : String := s.env.lower (strip host)

def useTelnet : Bool := s.device.useTelnet = some true

def extra (key : String) : Bool := (s.device.extraParameters.lookup key).any JsonValue.truthy

/-- `use_telnet` and `usar_telnet` of the parameters and of the arguments -/
def scriptTelnet : Bool := s.useTelnet || s.extra "use_telnet" || s.extra "usar_telnet"

/-- `decrypt_password(value) if value else None`; `none` where it raises -/
def decryptIfSet (value : Option String) : Option (Option String) :=
  match nonempty value with
  | none => some none
  | some encrypted => (s.env.decryptPassword encrypted).map some

def jumpConfig (group : DeviceGroup) (host username : String) (password key : Option String) :
    JumpConfig where
  host := strip host
  port := match group.jumpPort with
    | none => 22
    | some port => if port = 0 then 22 else port
  username := strip username
  password := password
  key := key

/-- `_build_jump_host_config`; `none` where it raises. A configuration that is missing or incomplete
gives the same as a device without jump host. -/
def buildJumpHostConfig : Option (Option JumpConfig) :=
  match s.group with
  | none => some none
  | some group =>
    match nonempty group.jumpHost, nonempty group.jumpUsername with
    | some host, some username =>
      if s.usesJumpHost then do
        let password ← s.decryptIfSet group.jumpPasswordEncrypted
        let key ← s.decryptIfSet group.jumpKeyEncrypted
        if nonempty password = none ∧ nonempty key = none then some none
        else some (some (jumpConfig group host username password key))
      else some none
    | _, _ => some none

/-- `_should_bypass_jump_host` -/
def shouldBypassJumpHost (jump : Option JumpConfig) : Bool :=
  jump.any fun cfg => s.hostKey s.device.ipAddress ≠ "" && s.hostKey cfg.host ≠ "" &&
    s.hostKey s.device.ipAddress = s.hostKey cfg.host

/-- The jump host of a backup run; `none` where the run is refused. -/
def executorJumpHost : Option (Option JumpConfig) :=
  match s.group with
  | none => some s.extraJumpHost
  | some group =>
    match nonempty group.jumpHost with
    | none => some s.extraJumpHost
    | some host =>
      if s.usesJumpHost then do
        let password ← s.decryptIfSet group.jumpPasswordEncrypted
        let key ← s.decryptIfSet group.jumpKeyEncrypted
        let username ← nonempty group.jumpUsername
        if nonempty password = none ∧ nonempty key = none then none
        else some (some (jumpConfig group host username password key))
      else some s.extraJumpHost

end Site

/-! ## Attempts and their routes -/

inductive Attempt where
  /-- a connection to the jump host itself -/
  | jumpHost
  /-- a channel of the jump host's connection -/
  | channel
  /-- `socket.create_connection` -/
  | tcpConnect
  /-- `run_network_precheck` -/
  | precheck
  /-- `ConnectHandler` of `_test_netmiko` -/
  | testHandler (driver : String)
  /-- `client.connect` of `_test_ssh` -/
  | testSsh
  /-- `ConnectHandler` under the patcher of the executor -/
  | connectHandler (driver : String)
  | openPexpectSession
  | createSshClient
  /-- `pexpect.spawn` of a telnet client -/
  | spawnTelnet
  /-- the commands of `_download_via_sshpass` -/
  | sshpass
  /-- `paramiko.SSHClient().connect` without a socket -/
  | sshClient
  /-- `requests.get` -/
  | http
  deriving DecidableEq

inductive Route where
  /-- from the worker to the address of the device -/
  | direct
  | jump
  /-- to another address -/
  | other
  deriving DecidableEq

/-- An operation on a device with the jump host that it has found. -/
structure Access extends Site where
  jump : Option JumpConfig

namespace Access

variable (w : Access)

def hasHost : Bool := w.jump.any fun cfg => cfg.host ≠ ""

/-- `_is_enabled` of the patcher -/
def isEnabled : Bool := w.jump.any fun cfg => cfg.host ≠ "" && cfg.username ≠ ""

/-- `_patched_connect_handler` opens a channel of the jump host as the socket. -/
def patched : Bool :=
  w.isEnabled && w.target ≠ "" &&
    w.jump.all fun cfg => w.hostKey cfg.host = "" || w.hostKey w.target ≠ w.hostKey cfg.host

def grafanaUrl : String := ((w.device.extraParameters.lookup "grafana_url").map (·.text)).getD ""

def routeOf : Attempt → Route
  | .jumpHost => .other
  | .channel => .jump
  | .tcpConnect | .spawnTelnet | .sshpass | .sshClient => .direct
  | .precheck | .openPexpectSession | .createSshClient => if w.hasHost then .jump else .direct
  | .testHandler driver => if w.jump.isSome && w.usesSock driver then .jump else .direct
  | .testSsh => if w.jump.isSome then .jump else .direct
  | .connectHandler driver => if w.patched && w.usesSock driver then .jump else .direct
  | .http => if w.urlHost w.grafanaUrl = w.target then .direct else .other

end Access

structure Contact where
  attempt : Attempt
  route : Route

/-- How an attempt ends, together with what is done in its session. -/
inductive Answer where
  /-- as it should; of a list, with its length -/
  | done (listed : Nat)
  /-- connected, but without a login or without anything of use -/
  | unusable (reason : String)
  | raised (detail : String)

instance : Nonempty Answer := ⟨.raised ""⟩

def Answer.isDone : Answer → Bool
  | .done _ => true
  | _ => false

def Answer.text : Answer → String
  | .done _ => ""
  | .unusable reason => reason
  | .raised detail => detail

abbrev Operation (ρ : Type) := Prog Contact (fun _ => Answer) ρ

namespace Access

variable (w : Access)

def contact (attempt : Attempt) : Operation Answer :=
  Prog.ask { attempt := attempt, route := w.routeOf attempt }

/-- One attempt decides. -/
def collects (attempt : Attempt) : Operation Bool := do
  let answer ← w.contact attempt
  return answer.isDone

end Access

end BackupCenter.JumpHost
