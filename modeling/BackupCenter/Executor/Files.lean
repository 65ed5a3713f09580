import BackupCenter.Lib.Exec
import BackupCenter.Lib.Paths
import BackupCenter.Lib.Workers

/-!
# The files of parallel runs

Every run collects into a file whose path is made of sanitized names and of the second in which
the script asks for it. The executor takes the path that the script returns, or the newest file
of the directory if it is not older than the run.
-/
namespace BackupCenter.Executor.Files

open BackupCenter.Lib

abbrev Path := List Char

structure FilesEnv where
  /-- `str.isalnum` of one character -/
  isalnum : Char → Bool
  /-- `BACKUP_BASE_DIR` -/
  backupBaseDir : Path
  /-- `os.getcwd()` -/
  cwd : Path
  /-- `time.strftime('%Y-%m-%d_%H-%M-%S')` at a moment -/
  strftime : Nat → List Char
  /-- `sha256` -/
  digest : String → String

section Paths

variable (env : FilesEnv)

/-- The characters that both sanitizers keep, trimmed, with underscores for blanks. -/
def safeName (name : List Char) : List Char :=
  (stripChars (name.filter fun c => env.isalnum c || [' ', '_', '-'].contains c)).map
    fun c => if c = ' ' then '_' else c

/-- `sanitize` of `_get_backup_path` -/
def sanitize (name : List Char) : List Char :=
  if name = [] then "unnamed".toList else safeName env name

/-- `sanitize_path_component` -/
def sanitizePathComponent (name : List Char) : List Char :=
  if name = [] ∨ safeName env name = [] then "UNNAMED".toList else safeName env name

/-- `os.path.join` of several parts -/
def joinPaths (path : Path) (names : List Path) : Path := names.foldl joinPath path

/-- `_get_backup_path` -/
def getBackupPath (tenantSlug groupName deviceName : List Char) : Path :=
  joinPaths env.backupBaseDir [sanitize env tenantSlug, sanitize env groupName,
    sanitize env deviceName]

/-- `prepare_backup_path` at a moment -/
def prepareBackupPath (baseDir provName typeName devName extension : List Char) (now : Nat) :
    Path :=
  let base :=
    if baseDir = [] then joinPaths env.cwd ["storage".toList, "backups".toList] else baseDir
  let filename := "backup_".toList ++ env.strftime now ++ '.' :: extension
  joinPath (joinPaths base [sanitizePathComponent env provName, sanitizePathComponent env typeName,
    sanitizePathComponent env devName]) filename

/-- What a script does with the file that it writes. -/
inductive Script where
  /-- it asks `prepare_backup_path` for a path, and returns it -/
  | saves (extension : List Char)
  /-- it writes into its directory, and returns no path -/
  | leaves (name : List Char)

/-- What a run starts with, and what its device answers. -/
structure Job where
  tenantSlug : List Char
  groupName : List Char
  typeName : List Char
  deviceName : List Char
  /-- the texts of `extra_parameters`, which replace arguments of the script -/
  extra : List (String × List Char) := []
  script : Script
  answer : String

/-- An argument of the script, after `kwargs.update(device.extra_parameters)`. -/
def Job.argument (j : Job) (name : String) (value : List Char) : List Char :=
  (j.extra.lookup name).getD value

/-- The directory of the run. -/
def Job.backupDir (j : Job) : Path := getBackupPath env j.tenantSlug j.groupName j.deviceName

/-- The path that the script writes to. -/
def Job.target (j : Job) (now : Nat) : Path :=
  match j.script with
  | .saves extension =>
    prepareBackupPath env (j.argument "backup_base_path" (j.backupDir env))
      (j.argument "nome_provedor" j.groupName) (j.argument "nome_tipo_equip" j.typeName)
      (j.argument "nome_dispositivo" j.deviceName) extension now
  | .leaves name => joinPath (j.argument "backup_dir" (j.backupDir env)) name

end Paths

/-! ## The disk -/

structure DiskFile where
  path : Path
  content : String
  mtime : Nat
  deriving DecidableEq

def fileAt (files : List DiskFile) (path : Path) : Option DiskFile :=
  files.find? fun f => f.path = path

/-- `os.remove` -/
def without (files : List DiskFile) (path : Path) : List DiskFile :=
  files.filter fun f => f.path ≠ path

/-- Write a file, in place of one at its path. -/
def put (files : List DiskFile) (f : DiskFile) : List DiskFile := without files f.path ++ [f]

/-- The files that `os.listdir` finds in a directory. -/
def listed (files : List DiskFile) (dir : Path) : List DiskFile :=
  files.filter fun f =>
    let name := f.path.drop (joinPath dir []).length
    (joinPath dir []).isPrefixOf f.path && (name ≠ [] && !name.contains '/')

/-- The fallback of `execute_backup` may take this file: the newest of the directory, if it was
written since the script started. -/
def MayPick (files : List DiskFile) (dir : Path) (wall : Nat) (path : Path) : Prop :=
  ∃ f ∈ listed files dir, f.path = path ∧ wall ≤ f.mtime ∧ ∀ g ∈ listed files dir, g.mtime ≤ f.mtime

instance (files : List DiskFile) (dir : Path) (wall : Nat) (path : Path) :
    Decidable (MayPick files dir wall path) :=
  inferInstanceAs (Decidable (∃ f ∈ listed files dir, _))

/-! ## Runs -/

/-- Where a run stands, with `script_started_wall`, the path that its script has, the path that
`execute_backup` returns, and the digest of the file there. -/
inductive Phase where
  | started (wall : Nat)
  | located (wall : Nat) (path : Path)
  | opened (wall : Nat) (path : Path)
  | wrote (wall : Nat) (path : Path)
  | collected (path : Path)
  | measured (path : Path) (hash : Option String)
  | ended

structure Run where
  job : Job
  phase : Phase

/-- What a row says of a file. -/
structure FileRow where
  run : Nat
  path : Path
  success : Bool
  hash : Option String

structure Disk where
  /-- in milliseconds -/
  now : Nat := 0
  files : List DiskFile := []
  runs : List Run := []
  rows : List FileRow := []
  /-- the files that each run has written, removed or picked up -/
  touched : List (Nat × Path) := []

inductive FileEvent where
  | tick (d : Nat)
  | start (job : Job)
  | advance (i : Nat)
  /-- the fallback finds a file -/
  | pick (i : Nat) (path : Path)
  /-- the script fails, or the fallback finds no file -/
  | fail (i : Nat)
  /-- the row is inserted; `valid` is the verdict on the file -/
  | record (i : Nat) (valid : Bool)
  /-- the storage quota refuses the file, which is removed; the row has no path -/
  | refuse (i : Nat)

def Disk.move (s : Disk) (i : Nat) (r : Run) (phase : Phase) : Disk :=
  { s with runs := s.runs.set i { r with phase := phase } }

def Disk.touch (s : Disk) (i : Nat) (path : Path) : Disk :=
  { s with touched := s.touched ++ [(i, path)] }

/-- The next step of a run, where there is no choice. -/
def Disk.advance (env : FilesEnv) (s : Disk) (i : Nat) (r : Run) : Option Disk :=
  match r.phase with
  | .started wall => some (s.move i r (.located wall (r.job.target env s.now)))
  | .located wall path =>
    -- `open(path, "w")` empties the file
    some { (s.move i r (.opened wall path)).touch i path with
      files := put s.files ⟨path, "", s.now⟩ }
  | .opened wall path =>
    some { s.move i r (.wrote wall path) with files := put s.files ⟨path, r.job.answer, s.now⟩ }
  | .wrote _ path =>
    match r.job.script with
    | .saves _ => some (s.move i r (.collected path))
    | .leaves _ => none
  | .collected path =>
    some (s.move i r (.measured path ((fileAt s.files path).map fun f => env.digest f.content)))
  | .measured .. | .ended => none

/-- The fallback takes a file. -/
def Disk.pick (env : FilesEnv) (s : Disk) (i : Nat) (r : Run) (path : Path) : Option Disk :=
  match r.phase, r.job.script with
  | .wrote wall _, .leaves _ =>
    if MayPick s.files (r.job.backupDir env) wall path then
      some ((s.move i r (.collected path)).touch i path)
    else none
  | _, _ => none

/-- The run ends without a file. -/
def Disk.fail (s : Disk) (i : Nat) (r : Run) : Option Disk :=
  match r.phase with
  | .started _ | .located .. | .opened .. | .wrote .. => some (s.move i r .ended)
  | _ => none

def Disk.record (s : Disk) (i : Nat) (r : Run) (valid : Bool) : Option Disk :=
  match r.phase with
  | .measured path hash =>
    some { s.move i r .ended with rows := s.rows ++ [⟨i, path, valid && hash.isSome, hash⟩] }
  | _ => none

def Disk.refuse (s : Disk) (i : Nat) (r : Run) : Option Disk :=
  match r.phase with
  | .measured path _ =>
    some { (s.move i r .ended).touch i path with files := without s.files path }
  | _ => none

def fileStep (env : FilesEnv) (s : Disk) : FileEvent → Option Disk
  | .tick d => some { s with now := s.now + d }
  -- `script_started_wall` is five seconds before the start
  | .start job => some { s with runs := s.runs ++ [⟨job, .started (s.now - 5000)⟩] }
  | .advance i => (s.runs[i]?).bind (s.advance env i)
  | .pick i path => (s.runs[i]?).bind fun r => s.pick env i r path
  | .fail i => (s.runs[i]?).bind (s.fail i)
  | .record i valid => (s.runs[i]?).bind fun r => s.record i r valid
  | .refuse i => (s.runs[i]?).bind (s.refuse i)

end BackupCenter.Executor.Files
