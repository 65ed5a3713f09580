import BackupCenter.Lib.Patch
import BackupCenter.Lib.Text

/-!
# The MikroTik download script

The script lists the backup files of a device, downloads them into one local directory, and asks the
device to remove those for which a local file exists. It goes over SFTP, and starts again with `scp`
when that raises.
-/
namespace BackupCenter.Mikrotik

open BackupCenter.Lib

/-- What the file system of the device holds under a name. -/
inductive Entry where
  | file (content : String)
  | directory
  deriving DecidableEq

/-- One attempt to fetch a file: it is complete, or it fails after it has written something or
nothing to the local file. -/
inductive Transfer where
  | complete
  | fails (written : Option String)
  deriving DecidableEq

/-- What the script meets. -/
structure ScriptWorld where
  password : Option String
  /-- `str(parametros.get('delete_after_download', 'false'))` -/
  deleteParameter : String := "true"
  dirPath : String := "/app/storage/backups"
  /-- what the device holds, until it removes something -/
  device : Dict String Entry
  /-- the names of the files that a command asks the device to remove -/
  removedBy : String → List String
  /-- the local directory before the script starts -/
  left : Dict String String := []
  connect : Except String Unit := .ok ()
  /-- stdout, stderr and exit code of `/file print` -/
  sshListing : Except String (String × String × Int)
  openSftp : Except String Unit := .ok ()
  /-- the attempts with and without a leading slash -/
  sftpGet : String → Transfer × Transfer
  /-- the error that `ssh_execute` raises for a removal -/
  sshRemoval : String → Option String := fun _ => none
  sshpassInstalled : Bool := true
  sshpassListing : Bool × String := (false, "")
  scp : String → Transfer := fun _ => .fails none

variable (w : ScriptWorld)

def ScriptWorld.deleteAfterDownload : Bool := asciiLower w.deleteParameter = "true"

/-! ## The listing -/

/-- A character under `re.IGNORECASE`. -/
def foldCase (c : Char) : Char :=
  if c.toNat = 0x130 ∨ c.toNat = 0x131 then 'i'
  else if c.toNat = 0x17f then 's'
  else if c.toNat = 0x212a then 'k'
  else c.toLower

/-- `re.search(r"\.(backup|zip|rsc)$", name, re.IGNORECASE)` -/
def isBackupName (name : String) : Bool :=
  [".backup", ".zip", ".rsc"].any fun ending => ending.toList <:+ name.toList.map foldCase

/-- The name in a line of the listing: its second word. -/
def listedName (line : String) : Option String :=
  let text := strip line
  if text = "" || text.startsWith "#" || (asciiLower text).startsWith "flags:" then none
  else
    match words text with
    | _ :: name :: _ => if isBackupName name then some name else none
    | _ => none

/-- `_parse_backup_files` -/
def parseBackupFiles (output : String) : List String :=
  ((textLines output).filterMap listedName).eraseDups

/-! ## Downloads and removals -/

/-- `os.path.basename` -/
def basename (name : String) : String :=
  String.ofList (name.toList.reverse.takeWhile (· ≠ '/')).reverse

/-- The local directory, and what has been done so far. -/
structure Progress where
  files : Dict String String
  /-- the files of the device that were downloaded completely -/
  fetched : List String := []
  /-- the files that the device was asked to remove -/
  asked : List String := []

/-- `os.path.exists` for the local file of a name -/
def hasLocal (files : Dict String String) (name : String) : Bool :=
  (files.lookup (basename name)).isSome

/-- Only a file can be fetched completely. -/
def Transfer.completes (entry : Option Entry) : Transfer → Bool
  | .complete => entry.any fun e => e ≠ .directory
  | .fails _ => false

/-- What an attempt writes to the local file. -/
def Transfer.written (entry : Option Entry) : Transfer → Option String
  | .complete =>
    match entry with
    | some (.file content) => some content
    | _ => none
  | .fails written => written

/-- The attempts in turn, until one is complete. -/
def attempted (entry : Option Entry) : List Transfer → List String × Bool
  | [] => ([], false)
  | t :: ts =>
    if t.completes entry then ((t.written entry).toList, true)
    else
      let (written, downloaded) := attempted entry ts
      ((t.written entry).toList ++ written, downloaded)

/-- One round of a download loop, which counts the files. -/
def downloadFile (transfers : String → List Transfer) (p : Progress × Nat) (name : String) :
    Progress × Nat :=
  let (written, downloaded) := attempted (w.device.lookup name) (transfers name)
  let files := written.foldl (fun files content => assign files (basename name, some content))
    p.1.files
  ({ p.1 with
      files
      fetched := if downloaded then p.1.fetched ++ [name] else p.1.fetched },
    if downloaded && hasLocal files name then p.2 + 1 else p.2)

/-- The removal loop looks only whether there is a local file of the base name. -/
def removeFiles (command : String → String) (removal : String → Option String) :
    List String → Progress → Except String Unit × Progress
  | [], p => (.ok (), p)
  | name :: names, p =>
    if hasLocal p.files name then
      let p := { p with asked := p.asked ++ w.removedBy (command name) }
      match removal name with
      | some e => (.error e, p)
      | none => removeFiles command removal names p
    else removeFiles command removal names p

/-- `str.replace` with a single character -/
def replaceChar (c : Char) (new : String) (text : String) : String :=
  String.ofList (text.toList.flatMap fun d => if d = c then new.toList else [d])

/-- The command of the SFTP transport, which leaves backslashes as they are. -/
def sftpRemoveCommand (name : String) : String :=
  "/file remove [find name=\"" ++ replaceChar '"' "\\\"" name ++ "\"]"

def sshpassRemoveCommand (name : String) : String :=
  "/file remove [find name=\"" ++ replaceChar '"' "\\\"" (replaceChar '\\' "\\\\" name) ++ "\"]"

abbrev Answer := Bool × String × Option String

def nothingFound : String :=
  "Nenhum ficheiro de backup (.backup, .zip, .rsc) encontrado no dispositivo."

def nothingDownloaded : String := "Nenhum ficheiro pôde ser baixado com sucesso."

/-- Steps 3 and 4 of both transports. -/
def downloadAndRemove (transfers : String → List Transfer) (command : String → String)
    (removal : String → Option String) (names : List String) (p : Progress) :
    Except String Answer × Progress :=
  let (p, count) := names.foldl (downloadFile w transfers) (p, 0)
  if count = 0 then (.error nothingDownloaded, p)
  else
    let message := toString count ++ " de " ++ toString names.length ++
      " ficheiros de backup foram baixados com sucesso."
    match if w.deleteAfterDownload then removeFiles w command removal names p else (.ok (), p) with
    | (.error e, p) => (.error e, p)
    | (.ok (), p) => (.ok (true, message, some w.dirPath), p)

def sftpTransfers (name : String) : List Transfer := [(w.sftpGet name).1, (w.sftpGet name).2]

/-- `_download_via_paramiko` -/
def downloadViaParamiko (p : Progress) : Except String Answer × Progress :=
  match w.connect, w.sshListing with
  | .error e, _ => (.error e, p)
  | .ok (), .error e => (.error e, p)
  | .ok (), .ok (stdout, stderr, exitCode) =>
    if exitCode ≠ 0 ∧ stdout = "" then
      (.error ("Falha ao listar ficheiros via SSH. stderr=" ++ strip stderr), p)
    else
      let names := parseBackupFiles stdout
      if names = [] then (.ok (true, nothingFound, some w.dirPath), p)
      else
        match w.openSftp with
        | .error e => (.error e, p)
        | .ok () =>
          downloadAndRemove w (sftpTransfers w) sftpRemoveCommand w.sshRemoval names p

/-- `_download_via_sshpass` -/
def downloadViaSshpass (p : Progress) : Except String Answer × Progress :=
  if w.sshpassListing.1 then
    let names := parseBackupFiles w.sshpassListing.2
    if names = [] then (.ok (true, nothingFound, some w.dirPath), p)
    else
      -- `run_command` raises nothing
      downloadAndRemove w (fun name => [w.scp name]) sshpassRemoveCommand (fun _ => none) names p
  else (.error "Não foi possível conectar e listar os ficheiros no dispositivo.", p)

/-- `realizar_backup` -/
def realizarBackup : (Answer × Option String) × Progress :=
  let start : Progress := { files := w.left }
  if w.password.getD "" = "" then
    (((false, "Falha: 'password' é um parâmetro obrigatório.", none), some "CONFIGURACAO"), start)
  else
    match downloadViaParamiko w start with
    | (.ok answer, p) => ((answer, none), p)
    | (.error e, p) =>
      let failed (e : String) : Answer × Option String :=
        ((false, "Ocorreu um erro inesperado: " ++ e, none), some "SCRIPT")
      if w.sshpassInstalled then
        match downloadViaSshpass w p with
        | (.ok answer, p) => ((answer, none), p)
        | (.error e, p) => (failed e, p)
      else
        (failed (e ++ ". Também não há 'sshpass' instalado para fallback."), p)

end BackupCenter.Mikrotik
