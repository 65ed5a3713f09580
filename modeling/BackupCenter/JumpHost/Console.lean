import BackupCenter.Lib.Text

/-!
# The console of the jump host

`exec_console_command` of the jump host service: which texts it refuses, the line that it sends to
the jump host for the others, and what it makes of the answer.
-/
namespace BackupCenter.JumpHost.Console

open BackupCenter.Lib

abbrev Text := List Char

/-! ## The policy -/

def isSafeCommandChar (c : Char) : Bool := c.isAlphanum || "_./:@=,+% \"'-".toList.contains c

/-- `SAFE_COMMAND_RE.match`; its `$` also stands before a line break at the end. -/
def safeCommandRe (text : Text) : Bool :=
  let body := if text.getLast? = some '\n' then text.dropLast else text
  1 ≤ body.length && body.length ≤ 300 && body.all isSafeCommandChar

/-- `FORBIDDEN_COMMAND_TOKENS` -/
def forbiddenCommandTokens : List Text :=
  ["sudo", "su ", "rm ", "shutdown", "reboot", "systemctl ", "service ", "mkfs", "dd ", "passwd",
    "useradd", "usermod", "chmod 777", "chown ", "iptables ", "nft ", "docker ", "podman ",
    "kill ", "pkill ", "curl ", "wget ", "scp ", "sftp "].map String.toList

/-- `SAFE_COMMAND_PREFIXES` -/
def safeCommandPrefixes : List Text :=
  ["hostname", "whoami", "uptime", "date", "pwd", "uname", "cat /etc/os-release", "df ", "free ",
    "ip ", "ss ", "netstat ", "route", "traceroute ", "tracepath ", "ping ", "nc ", "telnet ",
    "ssh "].map String.toList

/-- `_ssh_host_key_safe_flags`, for the value of the environment variable -/
def sshHostKeySafeFlags (setting : Option String) : Text :=
  let strict := asciiLower (strip (setting.getD "0"))
  if strict ∈ ["1", "true", "yes", "on", "strict"] then "-o StrictHostKeyChecking=yes ".toList
  else "-o StrictHostKeyChecking=no -o UserKnownHostsFile=/dev/null ".toList

/-! ## The line -/

/-- `text.replace(old, new, 1)`, for a text that is replaced -/
def replaceFirst (old new : Text) : Text → Text
  | [] => []
  | c :: cs =>
    if old <+: c :: cs then new ++ (c :: cs).drop old.length else c :: replaceFirst old new cs

/-- `lower`, for a text that has passed `SAFE_COMMAND_RE` -/
def lower (text : Text) : Text := text.map Char.toLower

def safeFlags (setting : Option String) : Text :=
  "-o BatchMode=yes ".toList ++ sshHostKeySafeFlags setting ++ "-o ConnectTimeout=8 ".toList ++
    "-o NumberOfPasswordPrompts=0 ".toList

/-- The command that is run, and its limit in seconds. -/
def safeCommand (setting : Option String) (rawCommand : Text) (timeout : Nat) : Text × Nat :=
  if "ping ".toList <+: lower rawCommand ∧ ¬ "-c".toList <:+: rawCommand then
    (replaceFirst "ping ".toList "ping -c 5 -W 2 ".toList rawCommand, timeout)
  else if "ssh ".toList <+: lower rawCommand then
    ("ssh ".toList ++ safeFlags setting ++ (rawCommand.drop 4).dropWhile isSpace, 22)
  else (rawCommand, timeout)

/-- `exec_command` -/
def execCommand (setting : Option String) (rawCommand : Text) (timeout : Nat) : Text :=
  let (safeCommand, timeout) := safeCommand setting rawCommand timeout
  "timeout ".toList ++ (toString timeout).toList ++ ' ' :: safeCommand

/-! ## The answer -/

structure Reply where
  ok : Bool
  output : Option Text
  error : Text

/-- What `update_group_state` is given, without the times. -/
structure StateUpdate where
  succeeded : Bool
  status : String
  lastFailureCategory : Option String
  lastFailureMessage : Option Text
  lastConsoleCommand : Text
  lastConsoleOutput : Option Text

/-- The line that was sent, the limit of the channel, and what came of it. -/
structure Execution where
  line : Text
  channelTimeout : Nat
  reply : Reply
  update : StateUpdate

/-- What the output and the errors of the line come to, or the exception. -/
def answered (rawCommand : Text) : Except Text (Text × Text) → Reply × StateUpdate
  | .ok (output, error) =>
    let ok := stripChars error = []
    (⟨ok, some (stripChars output), stripChars error⟩,
      { succeeded := ok
        status := if ok then "healthy" else "degraded"
        lastFailureCategory := if ok then none else some "connectivity_failed"
        lastFailureMessage := if ok then none else some ((stripChars error).take 500)
        lastConsoleCommand := rawCommand
        lastConsoleOutput := some ((if output = [] then error else output).take 2000) })
  | .error text =>
    let message := if text = [] then "Falha ao executar comando no Jump Host.".toList else text
    (⟨false, none, message⟩,
      { succeeded := false
        status := "unhealthy"
        lastFailureCategory := some
          (if "timeout".toList <:+: lower message then "timeout" else "jump_host_access_failed")
        lastFailureMessage := some (message.take 500)
        lastConsoleCommand := rawCommand
        lastConsoleOutput := none })

/-- `exec_console_command`, where `remote` runs a line on the jump host. -/
def execConsoleCommand {Host : Type} (remote : Host → Text → Nat → Except Text (Text × Text))
    (setting : Option String) (jumpHost : Option Host) (command : Option Text) (timeout : Nat) :
    Except String Execution :=
  let rawCommand := stripChars (command.getD [])
  if rawCommand = [] then .error "Informe um comando para executar."
  else if !safeCommandRe rawCommand then .error "Comando contem caracteres nao permitidos."
  else if forbiddenCommandTokens.any fun token => token <:+: lower rawCommand then
    .error "Comando bloqueado por politica de seguranca."
  else if !(safeCommandPrefixes.any fun start => start <+: lower rawCommand) then
    .error ("Comando fora da whitelist operacional. Use hostname, uptime, ip, ss, ping, nc, " ++
      "traceroute ou telnet.")
  else
    match jumpHost with
    | none => .error "Jump Host nao configurado para este grupo."
    | some host =>
      let line := execCommand setting rawCommand timeout
      let channelTimeout := (safeCommand setting rawCommand timeout).2 + 3
      let (reply, update) := answered rawCommand (remote host line channelTimeout)
      .ok ⟨line, channelTimeout, reply, update⟩

end BackupCenter.JumpHost.Console
