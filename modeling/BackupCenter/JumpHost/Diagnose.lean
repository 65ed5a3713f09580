import BackupCenter.JumpHost.Scripts

/-!
# The connection test

`diagnose_access_chain` of the connection test service. It reaches the device, through the jump host
if it has found one, tries the drivers of Netmiko one after the other, and has a fallback of its own
for each protocol.
-/
namespace BackupCenter.JumpHost

open BackupCenter.Lib

/-- The drivers for what the name of the script or of the type contains. -/
def driversByToken : List (List String × List String) :=
  [(["tplink", "tp-link", "jetstream"], ["tplink_jetstream", "cisco_ios"]),
    (["huawei"], ["huawei", "cisco_ios"]),
    (["mikrotik"], ["mikrotik_routeros", "cisco_ios"]),
    (["cisco"], ["cisco_ios", "cisco_xe"]),
    (["juniper"], ["juniper_junos"]),
    (["ubiquiti"], ["vyos", "linux", "cisco_ios"]),
    (["nokia"], ["nokia_sros", "nokia_srl", "juniper_junos", "cisco_ios"]),
    (["arista"], ["arista_eos", "cisco_ios"]),
    (["a10"], ["a10", "linux", "cisco_ios"]),
    (["hillstone"], ["linux", "cisco_ios"]),
    (["olt"], ["huawei", "zte_zxros", "tplink_jetstream", "cisco_ios"])]

/-- `_candidate_device_types` -/
def Site.candidateDeviceTypes (s : Site) : List String :=
  let token := s.env.lower s.scriptName ++ " " ++ s.env.lower s.typeName
  let found := (driversByToken.filter fun row => containsAny token row.1).flatMap (·.2)
  let candidates :=
    if found = [] then ["cisco_ios", "huawei", "tplink_jetstream", "linux"] else found.eraseDups
  withTelnetFallback candidates s.useTelnet

namespace Access

variable (w : Access)

/-- The jump host, its login, and a channel to the device; without a jump host, the port. -/
def reachDevice : Operation Bool := do
  if w.jump.isSome then
    if ← w.collects .jumpHost then
      if ← w.collects .jumpHost then w.collects .channel else return false
    else return false
  else w.collects .tcpConnect

/-- The loop of `_test_netmiko`, with a channel of its own for every driver. -/
def tryDrivers : List String → Operation Bool
  | [] => return false
  | driver :: rest => do
    if ← (if w.jump.isSome then w.collects .channel else return true) then
      if ← w.collects (.testHandler driver) then return true else tryDrivers rest
    else tryDrivers rest

/-- `_test_netmiko`; `none` where the login at the jump host raises. -/
def testNetmiko : Operation (Option Bool) := do
  if ← (if w.jump.isSome then w.collects .jumpHost else return true) then do
    let ok ← w.tryDrivers w.candidateDeviceTypes
    return some ok
  else return none

/-- `_test_ssh` -/
def testSsh : Operation Bool := do
  if w.jump.isSome then
    if ← w.collects .jumpHost then
      if ← w.collects .channel then w.collects .testSsh else return false
    else return false
  else w.collects .testSsh

/-- `_run` of the diagnosis: whether its result is `ok`. -/
def diagnoseRun : Operation Bool := do
  if ← w.reachDevice then
    match ← w.testNetmiko with
    | none => return false
    | some true => return true
    | some false => if w.useTelnet then w.collects .spawnTelnet else w.testSsh
  else return false

end Access

/-- `diagnose_access_chain` -/
def Site.diagnoseAccessChain (s : Site) : Operation Bool :=
  match s.env.decryptPassword s.device.passwordEncrypted with
  | none => return false
  | some _ =>
    match s.buildJumpHostConfig with
    | none => return false
    | some jump =>
      let jump := if s.shouldBypassJumpHost jump then none else jump
      Access.diagnoseRun { s with jump := jump }

end BackupCenter.JumpHost
