import BackupCenter.Lib.Shell
import BackupCenter.Lib.Text
import Mathlib.Data.List.DropRight

/-!
# Command lines for the shell of the bastion

What the program has the shell of a bastion (jump host) execute for a device: the probes of
`_probe_tcp_via_jump_exec`, each a script in double quotes, and the lines that
`open_pexpect_session` types. The address and the user name are those that `create_device` has
stored, trimmed and otherwise as they came.
-/
namespace BackupCenter.Bastion

open BackupCenter.Lib
open BackupCenter.Lib.Shell

structure Device where
  ipAddress : List Char
  username : List Char
  port : Int

/-- `_sanitize_connection_fields` of the connection fields of a device -/
def sanitizeConnectionFields (data : Device) : Device :=
  { data with ipAddress := stripChars data.ipAddress, username := stripChars data.username }

def intText (n : Int) : List Char := (toString n).toList

/-- A trimmed text does not end in a line break, so that `$` is the end of it. -/
def isSafeShellHost (host : List Char) : Bool :=
  let value := stripChars host
  value ≠ [] && value.all fun c => c.isAlphanum || ['.', '_', ':', '-'].contains c

inductive Command where
  | nc
  | bashTcp
  /-- the probe by telnet -/
  | telnetProbe
  | ssh
  | sshLegacy
  | telnet
  deriving DecidableEq

/-- `_probe_tcp_via_jump_exec`: the probes, which are tried one after the other -/
def probes (host : List Char) (port timeoutSeconds : Int) : List (Command × List Char) :=
  let hostText := stripChars host
  let timeoutValue := intText (max 1 timeoutSeconds)
  let hostQuoted := quote hostText
  let portText := intText port
  if hostText = [] then []
  else
    [(.nc, "sh -lc \"command -v nc >/dev/null 2>&1 && nc -z -w ".toList ++ timeoutValue ++
      ' ' :: hostQuoted ++ ' ' :: portText ++ " >/dev/null 2>&1\"".toList)] ++
    if isSafeShellHost hostText then
      [(.bashTcp, ("sh -lc \"command -v bash >/dev/null 2>&1 && " ++
          "command -v timeout >/dev/null 2>&1 && timeout ").toList ++ timeoutValue ++
          " bash -lc '</dev/tcp/".toList ++ hostText ++ '/' :: portText ++
          "' >/dev/null 2>&1\"".toList),
        (.telnetProbe, ("sh -lc \"command -v telnet >/dev/null 2>&1 && " ++
          "command -v timeout >/dev/null 2>&1 && timeout ").toList ++ timeoutValue ++
          " sh -lc 'echo quit | telnet ".toList ++ hostText ++ ' ' :: portText ++
          " >/dev/null 2>&1'\"".toList)]
    else []

def sshHostKeyOptions (strict : Bool) : String :=
  if strict then "-o StrictHostKeyChecking=yes"
  else "-o StrictHostKeyChecking=no -o UserKnownHostsFile=/dev/null"

/-- `ssh` with the options, for the user at the address -/
def sshLine (strict : Bool) (options : String) (d : Device) : List Char :=
  ("ssh " ++ sshHostKeyOptions strict ++ " -o ConnectTimeout=25 " ++ options).toList ++
    d.username ++ '@' :: d.ipAddress ++ " -p ".toList ++ intText d.port

def sshCommand (strict : Bool) (d : Device) : List Char :=
  sshLine strict
    ("-o HostKeyAlgorithms=+ssh-rsa,ssh-dss " ++
      "-o KexAlgorithms=+diffie-hellman-group1-sha1,diffie-hellman-group14-sha1 " ++
      "-o Ciphers=+aes128-cbc,3des-cbc ") d

def sshLegacyCommand (strict : Bool) (d : Device) : List Char :=
  sshLine strict
    ("-o PreferredAuthentications=password,keyboard-interactive " ++
      "-o PubkeyAuthentication=no " ++
      "-o HostKeyAlgorithms=+ssh-rsa,ssh-dss " ++
      "-o PubkeyAcceptedAlgorithms=+ssh-rsa,ssh-dss " ++
      "-o KexAlgorithms=+diffie-hellman-group1-sha1,diffie-hellman-group14-sha1," ++
      "diffie-hellman-group-exchange-sha1 " ++
      "-o Ciphers=+aes128-cbc,3des-cbc,aes256-cbc " ++
      "-o MACs=+hmac-sha1,hmac-md5 ") d

def telnetCommand (d : Device) : List Char :=
  "telnet ".toList ++ d.ipAddress ++ ' ' :: intText d.port

/-- The lines that are typed into the shell. -/
def typedLines (strict : Bool) (d : Device) : List (Command × List Char) :=
  [(.ssh, sshCommand strict d), (.sshLegacy, sshLegacyCommand strict d), (.telnet, telnetCommand d)]

/-- Every line that the shell of the bastion may have to execute for a device. -/
def commandLines (strict : Bool) (timeoutSeconds : Int) (d : Device) :
    List (Command × List Char) :=
  probes d.ipAddress d.port timeoutSeconds ++ typedLines strict d

/-! ## The commands that are meant -/

def word (text : String) : Token := .word text.toList

/-- `>/dev/null 2>&1` -/
def quiet : List Token :=
  [.op ['>'], word "/dev/null", .ioNumber ['2'], .op ['>', '&'], word "1"]

/-- `command -v … >/dev/null 2>&1 &&` -/
def available (program : String) : List Token :=
  [word "command", word "-v", word program] ++ quiet ++ [.op ['&', '&']]

/-- `sh -lc` with a script -/
def script (text : List Char) : List Token := [word "sh", word "-lc", .word text]

/-- A text that no program takes for an option. -/
def IsOperand (text : List Char) : Prop := text.head? ≠ some '-'

/-- A line that a terminal hands over as it was typed. -/
def Typable (line : List Char) : Prop := ∀ c ∈ line, ¬(c.toNat < 32 ∨ c.toNat = 127)

instance (line : List Char) : Decidable (Typable line) :=
  inferInstanceAs (Decidable (∀ c ∈ line, _))

/-- The options of `ssh`, each after its `-o`. -/
def sshWords (strict : Bool) (options : List String) : List Token :=
  word "ssh" :: ((if strict then ["StrictHostKeyChecking=yes"]
    else ["StrictHostKeyChecking=no", "UserKnownHostsFile=/dev/null"]) ++
      "ConnectTimeout=25" :: options).flatMap fun o => [word "-o", word o]

def sshOptions : List String :=
  ["HostKeyAlgorithms=+ssh-rsa,ssh-dss",
    "KexAlgorithms=+diffie-hellman-group1-sha1,diffie-hellman-group14-sha1",
    "Ciphers=+aes128-cbc,3des-cbc"]

def sshLegacyOptions : List String :=
  ["PreferredAuthentications=password,keyboard-interactive", "PubkeyAuthentication=no",
    "HostKeyAlgorithms=+ssh-rsa,ssh-dss", "PubkeyAcceptedAlgorithms=+ssh-rsa,ssh-dss",
    "KexAlgorithms=+diffie-hellman-group1-sha1,diffie-hellman-group14-sha1," ++
      "diffie-hellman-group-exchange-sha1",
    "Ciphers=+aes128-cbc,3des-cbc,aes256-cbc", "MACs=+hmac-sha1,hmac-md5"]

def userAt (d : Device) : List Char := d.username ++ '@' :: d.ipAddress

/-- A typed line that runs `ssh` for the user at the address. -/
def ReadsSsh (strict : Bool) (options : List String) (d : Device) (line : List Char) : Prop :=
  tokensOf line = some (sshWords strict options ++
    [.word (userAt d), word "-p", .word (intText d.port)]) ∧
  IsOperand (userAt d) ∧ Typable line

/-- At every level at which the line is read it is the command that was meant, of which the address,
or the user at the address, is one literal word. -/
def Literal (strict : Bool) (timeoutSeconds : Int) (d : Device) (line : List Char) :
    Command → Prop
  | .nc => ∃ text, tokensOf line = some (script text) ∧
      tokensOf text = some (available "nc" ++
        [word "nc", word "-z", word "-w", .word (intText (max 1 timeoutSeconds)),
          .word d.ipAddress, .word (intText d.port)] ++ quiet) ∧
      IsOperand d.ipAddress
  | .bashTcp => ∃ text inner, tokensOf line = some (script text) ∧
      tokensOf text = some (available "bash" ++ available "timeout" ++
        [word "timeout", .word (intText (max 1 timeoutSeconds)), word "bash", word "-lc",
          .word inner] ++ quiet) ∧
      tokensOf inner =
        some [.op ['<'], .word ("/dev/tcp/".toList ++ d.ipAddress ++ '/' :: intText d.port)]
  | .telnetProbe => ∃ text inner, tokensOf line = some (script text) ∧
      tokensOf text = some (available "telnet" ++ available "timeout" ++
        [word "timeout", .word (intText (max 1 timeoutSeconds)), word "sh", word "-lc",
          .word inner]) ∧
      tokensOf inner = some ([word "echo", word "quit", .op ['|'], word "telnet",
        .word d.ipAddress, .word (intText d.port)] ++ quiet) ∧
      IsOperand d.ipAddress
  | .ssh => ReadsSsh strict sshOptions d line
  | .sshLegacy => ReadsSsh strict sshLegacyOptions d line
  | .telnet => tokensOf line =
        some [word "telnet", .word d.ipAddress, .word (intText d.port)] ∧
      IsOperand d.ipAddress ∧ Typable line

end BackupCenter.Bastion
