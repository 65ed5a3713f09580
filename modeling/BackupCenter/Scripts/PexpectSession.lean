import BackupCenter.Lib.Prog
import BackupCenter.Lib.Text
import Mathlib.Algebra.Group.Nat.Defs

/-!
# Interactive sessions through a bastion

A script drives a terminal program through `pexpect`. Behind a bastion the program is an `ssh` to
it, with its private key in a temporary file, and the command for the device is typed into the
shell that it opens.
-/
namespace BackupCenter.Scripts

open BackupCenter.Lib

/-! ## Asking the machine -/

/-- The exceptions of a session, which the code tells apart. -/
inductive Exn where
  | runtimeError (text : String)
  /-- `pexpect.EOF` or `pexpect.TIMEOUT` -/
  | pexpect (text : String)
  | other (text : String)
  deriving DecidableEq

/-- `str(exc)` -/
def Exn.text : Exn → String
  | runtimeError text | pexpect text | other text => text

/-- A pattern of `expect`. -/
inductive Pattern where
  | regex (text : String)
  | timeout
  | eof
  deriving DecidableEq

/-- What a script asks of the machine and of the sessions it holds. -/
inductive Ask where
  | mkstemp
  /-- write the key into its file -/
  | writeKey (path text : String)
  | chmod (path : String)
  /-- `pexpect.spawn`, with the key file that the command names -/
  | spawn (command : String) (keyPath : Option String)
  | expect (session : Nat) (patterns : List Pattern) (timeout : Nat)
  | sendline (session : Nat) (line : String)
  | readNonblocking (session : Nat)
  /-- `before` and `after`, where both are text -/
  | surrounding (session : Nat)
  | time
  | sleep (tenths : Nat)
  /-- `os.remove`, of a file that exists -/
  | remove (path : String)
  | close (session : Nat)

def Ask.Answer : Ask → Type
  | mkstemp => Except Exn String
  | spawn _ _ => Except Exn Nat
  | expect _ _ _ => Except Exn Nat
  | readNonblocking _ => Except Exn String
  | surrounding _ => Option (String × String)
  | time => Nat
  | sleep _ => Unit
  | writeKey _ _ | chmod _ | sendline _ _ | remove _ | close _ => Except Exn Unit

/-- A program that returns. -/
abbrev Act (α : Type) := Prog Ask Ask.Answer α

/-- A program that returns or raises. -/
abbrev Step (α : Type) := ExceptT Exn (Prog Ask Ask.Answer) α

def ask (c : Ask) : Act c.Answer := Prog.ask c

def expect (session : Nat) (patterns : List Pattern) (timeout : Nat) : Step Nat :=
  .mk (ask (.expect session patterns timeout))

def sendline (session : Nat) (line : String) : Step Unit := .mk (ask (.sendline session line))

def surrounding (session : Nat) : Step (Option (String × String)) := ask (.surrounding session)

def time : Step Nat := ask .time

def sleep (tenths : Nat) : Act Unit := ask (.sleep tenths)

/-! ## The key -/

/-- What `base64` and `cryptography` read in the text of a key. -/
structure KeyFormats where
  /-- `base64.b64decode(text, validate=True)` -/
  b64decode : String → Option (List UInt8)
  /-- the private key in these DER bytes, written as PEM -/
  derToPem : List UInt8 → Option String

/-- Pieces of 64 characters. -/
def pemLines : Nat → List Char → List String
  | 0, _ => []
  | _ + 1, [] => []
  | rounds + 1, c :: body =>
    String.ofList ((c :: body).take 64) :: pemLines rounds ((c :: body).drop 64)

/-- `_wrap_pem` -/
def wrapPem (header body : String) : String :=
  let body := String.join (words body)
  "-----BEGIN " ++ header ++ "-----\n" ++
    "\n".intercalate (pemLines body.length body.toList) ++
    "\n-----END " ++ header ++ "-----\n"

/-- `normalize_private_key_text` -/
def normalizePrivateKeyText (formats : KeyFormats) (rawKey : String) : String :=
  if rawKey = "" then rawKey
  else
    let rawKey := strip rawKey
    if contains rawKey "BEGIN " then rawKey
    else
      let compact := String.join (words rawKey)
      if compact = "" then rawKey
      else
        let padding := String.ofList (List.replicate ((4 - compact.length % 4) % 4) '=')
        match formats.b64decode (compact ++ padding) with
        | none => rawKey
        | some decoded => (formats.derToPem decoded).getD (wrapPem "PRIVATE KEY" compact)

/-! ## Opening a session -/

/-- `jump_host` -/
structure JumpHost where
  host : String
  username : String
  port : Option Int := none
  key : Option String := none
  password : Option String := none

/-- The environment of a worker. -/
structure ShellSettings where
  pexpectAvailable : Bool := true
  formats : KeyFormats
  /-- `ssh_host_key_options()` -/
  sshHostKeyOptions : String
  /-- `JUMP_HOST_SHELL_RETRIES` -/
  shellRetries : Int := 7
  /-- `JUMP_HOST_SHELL_PROBE_TIMEOUT_SECONDS` -/
  shellProbeTimeout : Nat := 14
  /-- `JUMP_TARGET_PROBE_TIMEOUT_SECONDS` -/
  targetProbeTimeout : Nat := 15

/-- A `pexpect.spawn` object, with its `_jump_key_path`. -/
structure Session where
  id : Nat
  jumpKeyPath : Option String
  deriving DecidableEq

/-- What `open_pexpect_session` is called with. -/
structure Target where
  command : String
  jumpHost : Option JumpHost
  timeout : Nat

section Opening

variable (settings : ShellSettings)

/-- The key to be written for a bastion, if there is one. -/
def keyText (jumpHost : JumpHost) : Option String :=
  let text := normalizePrivateKeyText settings.formats (jumpHost.key.getD "")
  if text = "" then none else some text

def jumpCommand (jumpHost : JumpHost) (timeout : Nat) (keyPath : Option String) : String :=
  "ssh -tt " ++ settings.sshHostKeyOptions ++ " -o LogLevel=ERROR -o ConnectionAttempts=1 " ++
    "-o PreferredAuthentications=publickey,password,keyboard-interactive " ++
    "-o PubkeyAuthentication=yes -o PasswordAuthentication=yes -o ServerAliveInterval=30 " ++
    "-o ServerAliveCountMax=2 -o ConnectTimeout=" ++ toString timeout ++ " " ++
    (match keyPath with
      | none => ""
      | some path => "-i " ++ path ++ " ") ++
    "-p " ++ toString (if jumpHost.port.getD 0 = 0 then 22 else jumpHost.port.getD 0) ++ " " ++
    jumpHost.username ++ "@" ++ jumpHost.host

/-- `_build_jump_spawn_command` -/
def buildJumpSpawnCommand (jumpHost : JumpHost) (timeout : Nat) :
    Act (Except Exn (String × Option String)) :=
  if jumpHost.host = "" ∨ jumpHost.username = "" then
    .ret (.error (.other "Jump Host invalido para sessao interativa."))
  else
    match keyText settings jumpHost with
    | none => .ret (.ok (jumpCommand settings jumpHost timeout none, none))
    | some text =>
      .call .mkstemp fun
        | .error e => .ret (.error e)
        | .ok path =>
          .call (.writeKey path text) fun
            | .error e => .ret (.error e)
            | .ok () =>
              .call (.chmod path) fun
                | .error e => .ret (.error e)
                | .ok () =>
                  .ret (.ok (jumpCommand settings jumpHost timeout (some path), some path))

/-- `" ".join(text.split())[:limit]`, empty where there is no text -/
def shortened (limit : Nat) (around : Option (String × String)) : String :=
  let text := ((around.map fun p => p.1 ++ " " ++ p.2).map strip).getD ""
  String.ofList ((" ".intercalate (words text)).toList.take limit)

def shellPrompt : Pattern := .regex "(?m)^[^\\r\\n]*[#$>] ?$"

def shellPatterns : List Pattern :=
  [.regex "(?i)are you sure you want to continue connecting",
    .regex "(?i)password\\s*:",
    .regex ("(?i)(permission denied|too many authentication failures|" ++
      "kex_exchange_identification|administratively prohibited|channel open failed|" ++
      "no route to host|network is unreachable)"),
    shellPrompt, .timeout, .eof]

/-- The dialogue until the bastion shows the prompt of its shell. -/
def waitForShell (session : Nat) (password : String) (timeout : Nat) : Nat → Step Unit
  | 0 => throw (.runtimeError "Nao foi possivel abrir shell interativo no Jump Host.")
  | left + 1 => do
    match ← expect session shellPatterns timeout with
    | 0 =>
      sendline session "yes"
      waitForShell session password timeout left
    | 1 =>
      if password = "" then
        throw (.runtimeError "Jump Host solicitou senha, mas nenhuma senha foi configurada.")
      else
        sendline session password
        waitForShell session password timeout left
    | 2 =>
      let detail := shortened 240 (← surrounding session)
      let text := "Falha ao autenticar/estabelecer sessao no Jump Host"
      throw (.runtimeError (text ++ if detail = "" then "." else ": " ++ detail))
    | 3 => return ()
    | 4 =>
      sendline session ""
      waitForShell session password timeout left
    | _ =>
      let detail := shortened 220 (← surrounding session)
      let text := "Sessao com Jump Host encerrada antes do shell ficar disponivel."
      throw (.runtimeError (text ++ if detail = "" then "" else " Detalhe: " ++ detail))

/-- `_drain_spawn_buffer` -/
def drainSpawnBuffer (session : Nat) : Nat → Act Unit
  | 0 => .ret ()
  | reads + 1 =>
    .call (.readNonblocking session) fun
      | .error _ => .ret ()
      | .ok chunk => if chunk = "" then .ret () else drainSpawnBuffer session reads

/-- The shell must answer before the command is typed. -/
def probeShell (session : Nat) : Step Unit := do
  let timeout := max 4 settings.shellProbeTimeout
  let token := "__BC_JH_READY_" ++ toString (← time) ++ "__"
  sendline session ("echo " ++ token)
  match ← expect session [.regex token, shellPrompt, .timeout, .eof] timeout with
  | 3 =>
    throw (.runtimeError ("Sessao com Jump Host encerrada antes do shell ficar disponivel. " ++
      "Detalhe: encerrada durante validacao do shell interativo."))
  | 2 =>
    sendline session ""
    match ← expect session [shellPrompt, .timeout, .eof] timeout with
    | 0 => return ()
    | _ =>
      throw (.runtimeError ("Sessao com Jump Host encerrada antes do shell ficar disponivel. " ++
        "Detalhe: shell nao respondeu ao probe de prontidao."))
  | _ => return ()

def deviceResponsePatterns : List Pattern :=
  [.regex "(?i)(login|username|password|user\\s*name|usuario)",
    .regex "(?i)(connected to|escape character|trying \\d)",
    .regex "(?i)(ssh:|openssh|protocol|banner|welcome|warning)",
    .regex "(?i)(connection refused|no route|failed|error|unable)",
    shellPrompt, .timeout, .eof]

/-- The device must answer, and not the shell of the bastion. -/
def probeDevice (session : Nat) : Step Unit := do
  let timeout := max 8 settings.targetProbeTimeout
  match ← expect session deviceResponsePatterns timeout with
  | 3 =>
    let detail := shortened 200 (← surrounding session)
    throw (.runtimeError ("Falha de conectividade com o dispositivo. Detalhe: " ++ detail))
  | 4 | 5 | 6 =>
    let detail := shortened 200 (← surrounding session)
    throw (.runtimeError (strip ("Falha de conectividade com o dispositivo. Detalhe: " ++
      "Jump Host respondeu mas o dispositivo destino não abriu conexao. " ++ detail)))
  | _ => return ()

/-- `except (RuntimeError, pexpect.EOF, pexpect.TIMEOUT)` -/
def asRuntimeError : Exn → Exn
  | .pexpect text => .runtimeError text
  | e => e

def lstrip (text : String) : String := String.ofList (text.toList.dropWhile isSpace)

/-- The part of an attempt that may raise after the session has been spawned. -/
def startCommand (target : Target) (jumpHost : JumpHost) (session : Nat) : Step Unit := do
  waitForShell session (jumpHost.password.getD "") target.timeout 16
  drainSpawnBuffer session 8
  probeShell settings session
  sendline session target.command
  if ["telnet", "ssh", "nc "].any (·.toList.isPrefixOf (lstrip target.command).toList) then
    tryCatch (probeDevice settings session) fun e => throw (asRuntimeError e)
  else
    sleep 2

/-- `close_pexpect_session` -/
def closePexpectSession : Option Session → Act Unit
  | none => .ret ()
  | some session =>
    match session.jumpKeyPath with
    | none => .ret ()
    | some path => .call (.remove path) fun _ => .ret ()

/-- The attempts to open a shell on the bastion, `attempt` first, with so many left. -/
def openThroughJumpHost (target : Target) (jumpHost : JumpHost) (attempt : Nat) :
    Nat → Act (Except Exn Session)
  | 0 => .ret (.error (.runtimeError "Nao foi possivel abrir shell interativo no Jump Host."))
  | left + 1 => do
    match ← buildJumpSpawnCommand settings jumpHost target.timeout with
    | .error e => return .error e
    | .ok (command, keyPath) =>
      match (← ask (.spawn command keyPath) : Except Exn Nat) with
      | .error e => return .error e
      | .ok id =>
        match ← (startCommand settings target jumpHost id).run with
        | .ok () => return .ok { id := id, jumpKeyPath := keyPath }
        | .error e =>
          closePexpectSession (some { id := id, jumpKeyPath := keyPath })
          if left = 0 then return .error e
          else
            sleep (min 120 (15 * 2 ^ (attempt - 1)))
            openThroughJumpHost target jumpHost (attempt + 1) left

/-- `open_pexpect_session` -/
def openPexpectSession (target : Target) : Act (Except Exn Session) :=
  match target.jumpHost.filter (·.host ≠ "") with
  | some jumpHost =>
    openThroughJumpHost settings target jumpHost 1 (max 1 settings.shellRetries).toNat
  | none =>
    if settings.pexpectAvailable then
      .call (.spawn target.command none) fun answer =>
        .ret (answer.map fun id => { id := id, jumpKeyPath := none })
    else .ret (.error (.other "pexpect is not installed."))

/-! ## Scripts -/

/-- The commands of a dialogue; none of them opens or closes anything. -/
def Ask.isDialogue : Ask → Bool
  | expect .. | sendline .. | readNonblocking .. | surrounding .. | time | sleep .. => true
  | mkstemp | writeKey .. | chmod .. | spawn .. | remove .. | close .. => false

/-- What a script does with a session that it was handed, up to a return or an exception. -/
structure Dialogue (α : Type) where
  run : Session → Act (Except Exn α)
  isDialogue : ∀ session, (run session).Always (·.isDialogue = true)

/-- The entry function of a script by its uses of sessions: each is opened under a `try` with
`close_pexpect_session` in its `finally`, and what came of it decides how the script goes on. -/
inductive Script (α ρ : Type) where
  | ret (r : ρ)
  | use (target : Target) (body : Dialogue α) (next : Except Exn α → Script α ρ)

/-- `realizar_backup` -/
def Script.realizarBackup {α ρ : Type} : Script α ρ → Act ρ
  | ret r => .ret r
  | use target body next => do
    match ← openPexpectSession settings target with
    | .error e =>
      closePexpectSession none
      (next (.error e)).realizarBackup
    | .ok session =>
      let r ← body.run session
      closePexpectSession (some session)
      (next r).realizarBackup

end Opening

end BackupCenter.Scripts
