import BackupCenter.Mikrotik.Download

/-!
# Removed files are saved

What the transfers write and what the device is asked to remove, over both transports, as functions
of the listings and of the outcomes of the transfers; and when every file that is removed is saved.
-/
namespace BackupCenter.Mikrotik

open BackupCenter.Lib

variable (w : ScriptWorld)

/-! ## What the script gets to -/

/-- The writes of the attempts to fetch a file. -/
def ScriptWorld.writesOf (transfers : String → List Transfer) (name : String) :
    Patch String String :=
  (attempted (w.device.lookup name) (transfers name)).1.map fun content =>
    (basename name, some content)

def ScriptWorld.isFetched (transfers : String → List Transfer) (name : String) : Bool :=
  (attempted (w.device.lookup name) (transfers name)).2

/-- The names up to the first one whose removal raises. -/
def reachedUntil (removal : String → Option String) : List String → List String
  | [] => []
  | name :: names => if (removal name).isSome then [name] else name :: reachedUntil removal names

/-- What the device is asked to remove by one transport. -/
def ScriptWorld.askedFor (transfers : String → List Transfer) (command : String → String)
    (removal : String → Option String) (names : List String) (writes : Patch String String) :
    List String :=
  if w.deleteAfterDownload && names.any (w.isFetched transfers) then
    (reachedUntil removal (names.filter (hasLocal (patched w.left writes)))).flatMap fun name =>
      w.removedBy (command name)
  else []

/-- The listing that the SFTP transport works with. -/
def ScriptWorld.sftpListing : Option (List String) :=
  if w.password.getD "" = "" then none
  else
    match w.connect, w.sshListing with
    | .ok (), .ok (stdout, _, exitCode) =>
      if exitCode ≠ 0 ∧ stdout = "" then none else some (parseBackupFiles stdout)
    | _, _ => none

/-- The names that the SFTP transport tries to download. -/
def ScriptWorld.sftpNames : List String :=
  match w.openSftp with
  | .ok () => w.sftpListing.getD []
  | .error _ => []

def ScriptWorld.sftpWrites : Patch String String :=
  w.sftpNames.flatMap (w.writesOf (sftpTransfers w))

/-- The SFTP transport raises: at its start, after no download, or at a removal. -/
def ScriptWorld.sftpRaises : Bool :=
  match w.sftpListing with
  | none => w.password.getD "" ≠ ""
  | some listed =>
    listed ≠ [] && (!w.sftpNames.any (w.isFetched (sftpTransfers w)) ||
      w.deleteAfterDownload &&
        (w.sftpNames.filter (hasLocal (patched w.left w.sftpWrites))).any fun name =>
          (w.sshRemoval name).isSome)

/-- The names that the fallback tries to download. -/
def ScriptWorld.scpNames : List String :=
  if w.sftpRaises && w.sshpassInstalled && w.sshpassListing.1 then
    parseBackupFiles w.sshpassListing.2
  else []

def ScriptWorld.scpTransfers (name : String) : List Transfer := [w.scp name]

/-- Everything that is written to the local directory, in order. -/
def ScriptWorld.writes : Patch String String :=
  w.sftpWrites ++ w.scpNames.flatMap (w.writesOf w.scpTransfers)

def ScriptWorld.fetched : List String :=
  w.sftpNames.filter (w.isFetched (sftpTransfers w)) ++
    w.scpNames.filter (w.isFetched w.scpTransfers)

def ScriptWorld.asked : List String :=
  w.askedFor (sftpTransfers w) sftpRemoveCommand w.sshRemoval w.sftpNames w.sftpWrites ++
    w.askedFor w.scpTransfers sshpassRemoveCommand (fun _ => none) w.scpNames w.writes

/-! ## The loops -/

variable {w} {transfers : String → List Transfer} {names : List String}

/-- The last thing that a complete attempt writes is the file. -/
theorem attempted_complete {entry : Option Entry} {ts : List Transfer}
    (h : (attempted entry ts).2 = true) :
    ∃ content written, entry = some (.file content) ∧
      (attempted entry ts).1 = written ++ [content] := by
  induction ts with
  | nil => cases h
  | cons t ts ih =>
    unfold attempted at h ⊢
    split
    next hcompletes =>
      cases t with
      | fails written => cases hcompletes
      | complete =>
        obtain ⟨e, rfl, hfile⟩ := (Option.any_eq_true _ _).mp hcompletes
        cases e with
        | directory => cases hfile
        | file content => exact ⟨content, [], rfl, rfl⟩
    next hfails =>
      rw [if_neg hfails] at h
      obtain ⟨content, written, hentry, hwritten⟩ := ih h
      refine ⟨content, (t.written entry).toList ++ written, hentry, ?_⟩
      dsimp only
      rw [hwritten, List.append_assoc]

/-- What a complete download writes last. -/
theorem writes_of_fetched {name : String} (h : w.isFetched transfers name = true) :
    ∃ content, w.device.lookup name = some (.file content) ∧
      (basename name, some content) ∈ w.writesOf transfers name := by
  obtain ⟨content, written, hentry, hwritten⟩ := attempted_complete h
  refine ⟨content, hentry, ?_⟩
  rw [ScriptWorld.writesOf, hwritten]
  simp

/-- Everything that is written is a content. -/
theorem isSome_of_mem_writesOf {name : String} {a : String × Option String}
    (h : a ∈ w.writesOf transfers name) : a.2.isSome = true := by
  obtain ⟨content, _, rfl⟩ := List.mem_map.mp h
  rfl

theorem files_downloadFile {p : Progress × Nat} {name : String} :
    (downloadFile w transfers p name).1.files =
      patched p.1.files (w.writesOf transfers name) := by
  rw [ScriptWorld.writesOf, patched, List.foldl_map]
  rfl

/-- A complete download counts, since its local file exists. -/
theorem count_downloadFile {p : Progress × Nat} {name : String} :
    (downloadFile w transfers p name).2 =
      if w.isFetched transfers name then p.2 + 1 else p.2 := by
  have hcount : (downloadFile w transfers p name).2 = if w.isFetched transfers name &&
      hasLocal (downloadFile w transfers p name).1.files name
      then p.2 + 1 else p.2 := rfl
  rw [hcount]
  by_cases hfetched : w.isFetched transfers name = true
  · obtain ⟨content, _, hmem⟩ := writes_of_fetched hfetched
    have hsome : hasLocal (downloadFile w transfers p name).1.files name = true := by
      rw [files_downloadFile, hasLocal, lookup_patched]
      cases hgiven : (w.writesOf transfers name).given (basename name) with
      | none => exact absurd rfl (given_eq_none.mp hgiven _ hmem)
      | some value => exact isSome_of_mem_writesOf (mem_of_given hgiven)
    rw [hfetched, hsome]
    rfl
  · rw [Bool.not_eq_true] at hfetched
    rw [hfetched]
    rfl

/-- The download loop: the writes of all names, and the names whose download is complete. -/
theorem foldl_downloadFile (p : Progress × Nat) :
    names.foldl (downloadFile w transfers) p =
      ({ files := patched p.1.files (names.flatMap (w.writesOf transfers))
         fetched := p.1.fetched ++ names.filter (w.isFetched transfers)
         asked := p.1.asked }, p.2 + names.countP (w.isFetched transfers)) := by
  induction names generalizing p with
  | nil => simp [patched]
  | cons name names ih =>
    have hfetched : (downloadFile w transfers p name).1.fetched =
        if w.isFetched transfers name then p.1.fetched ++ [name] else p.1.fetched := rfl
    have hasked : (downloadFile w transfers p name).1.asked = p.1.asked := rfl
    rw [List.foldl_cons, ih, files_downloadFile, ← patched_append, List.flatMap_cons, hfetched,
      hasked, count_downloadFile]
    by_cases h : w.isFetched transfers name = true
    · rw [if_pos h, if_pos h, List.filter_cons_of_pos h, List.countP_cons_of_pos h,
        List.append_assoc, List.singleton_append, Nat.add_assoc, Nat.add_comm 1]
    · rw [if_neg h, if_neg h, List.filter_cons_of_neg h, List.countP_cons_of_neg h]

/-- The removal loop asks for every name with a local file, until a removal raises. -/
theorem removeFiles_eq {command : String → String} {removal : String → Option String}
    {p : Progress} :
    (removeFiles w command removal names p).2 =
      { p with asked := p.asked ++ (reachedUntil removal
          (names.filter (hasLocal p.files))).flatMap fun name => w.removedBy (command name) } ∧
    ((∃ e, (removeFiles w command removal names p).1 = .error e) ↔
      (names.filter (hasLocal p.files)).any (fun name => (removal name).isSome) = true) := by
  induction names generalizing p with
  | nil => exact ⟨by simp [removeFiles, reachedUntil], by simp [removeFiles]⟩
  | cons name names ih =>
    unfold removeFiles
    by_cases hlocal : hasLocal p.files name = true
    · rw [if_pos hlocal, List.filter_cons_of_pos hlocal]
      unfold reachedUntil
      cases hremoval : removal name with
      | some e => simp [hremoval]
      | none =>
        obtain ⟨hstate, hraises⟩ :=
          ih (p := { p with asked := p.asked ++ w.removedBy (command name) })
        simp only [hremoval, Option.isSome_none, Bool.false_eq_true, if_false, List.any_cons,
          Bool.false_or, List.flatMap_cons]
        refine ⟨?_, hraises⟩
        rw [hstate, List.append_assoc]
    · rw [if_neg hlocal, List.filter_cons_of_neg hlocal]
      exact ih

/-- Steps 3 and 4 of a transport. -/
theorem downloadAndRemove_eq (transfers : String → List Transfer) (command : String → String)
    (removal : String → Option String) (names : List String) (p : Progress) :
    (downloadAndRemove w transfers command removal names p).2 =
      { files := patched p.files (names.flatMap (w.writesOf transfers))
        fetched := p.fetched ++ names.filter (w.isFetched transfers)
        asked := p.asked ++ if w.deleteAfterDownload && names.any (w.isFetched transfers) then
            (reachedUntil removal (names.filter
              (hasLocal (patched p.files (names.flatMap (w.writesOf transfers)))))).flatMap
              fun name => w.removedBy (command name)
          else [] } ∧
    ((∃ e, (downloadAndRemove w transfers command removal names p).1 = .error e) ↔
      (!names.any (w.isFetched transfers) || w.deleteAfterDownload &&
        (names.filter (hasLocal (patched p.files (names.flatMap (w.writesOf transfers))))).any
          fun name => (removal name).isSome) = true) := by
  unfold downloadAndRemove
  rw [foldl_downloadFile]
  dsimp only
  rw [Nat.zero_add]
  by_cases hany : names.any (w.isFetched transfers) = true
  · have hcount : names.countP (w.isFetched transfers) ≠ 0 := by
      rw [ne_eq, List.countP_eq_zero]
      obtain ⟨name, hname, hfetched⟩ := List.any_eq_true.mp hany
      exact fun hnone => hnone name hname hfetched
    rw [if_neg hcount, hany]
    by_cases hdelete : w.deleteAfterDownload = true
    · rw [if_pos hdelete, hdelete]
      obtain ⟨hstate, hraises⟩ := removeFiles_eq (w := w) (p :=
        { files := patched p.files (names.flatMap (w.writesOf transfers))
          fetched := p.fetched ++ names.filter (w.isFetched transfers)
          asked := p.asked })
      simp only [Bool.not_true, Bool.false_or, Bool.true_and, if_true]
      rw [← hraises, ← hstate]
      generalize removeFiles w command removal names _ = removed
      obtain ⟨result, p'⟩ := removed
      cases result with
      | error e => exact ⟨rfl, by simp⟩
      | ok => exact ⟨rfl, by simp⟩
    · rw [if_neg hdelete]
      rw [Bool.not_eq_true] at hdelete
      rw [hdelete]
      exact ⟨by simp, by simp⟩
  · have hcount : names.countP (w.isFetched transfers) = 0 := by
      rw [List.countP_eq_zero]
      intro name hname hfetched
      exact hany (List.any_eq_true.mpr ⟨name, hname, hfetched⟩)
    rw [if_pos hcount]
    rw [Bool.not_eq_true] at hany
    rw [hany]
    exact ⟨by simp, by simp⟩

/-! ## The script -/

/-- Without a listing the SFTP transport raises at once. -/
theorem downloadViaParamiko_unlisted {p : Progress} (hpassword : w.password.getD "" ≠ "")
    (h : w.sftpListing = none) : ∃ e, downloadViaParamiko w p = (.error e, p) := by
  rw [ScriptWorld.sftpListing, if_neg hpassword] at h
  unfold downloadViaParamiko
  cases hconnect : w.connect with
  | error e => exact ⟨e, rfl⟩
  | ok =>
    cases hlisting : w.sshListing with
    | error e => exact ⟨e, rfl⟩
    | ok listing =>
      rw [hconnect, hlisting] at h
      dsimp only at h ⊢
      split at h
      next hcode =>
        rw [if_pos hcode]
        exact ⟨_, rfl⟩
      next => cases h

theorem downloadViaParamiko_listed {p : Progress} (h : w.sftpListing = some names) :
    downloadViaParamiko w p =
      if names = [] then (.ok (true, nothingFound, some w.dirPath), p)
      else
        match w.openSftp with
        | .error e => (.error e, p)
        | .ok () =>
          downloadAndRemove w (sftpTransfers w) sftpRemoveCommand w.sshRemoval names p := by
  unfold ScriptWorld.sftpListing at h
  unfold downloadViaParamiko
  split at h
  · cases h
  · split at h
    next hconnect hlisting =>
      split at h
      next => cases h
      next hcode =>
        obtain rfl := Option.some.inj h
        rw [hconnect, hlisting]
        dsimp only
        exact (if_neg hcode).trans rfl
    next => cases h

/-- Without names there is nothing to download. -/
theorem nothing_of_nil (h : w.sftpNames = []) :
    w.sftpWrites = [] ∧ w.sftpNames.filter (w.isFetched (sftpTransfers w)) = [] ∧
      w.askedFor (sftpTransfers w) sftpRemoveCommand w.sshRemoval w.sftpNames w.sftpWrites =
        [] := by
  rw [ScriptWorld.sftpWrites, ScriptWorld.askedFor, h]
  exact ⟨rfl, rfl, by simp⟩

/-- What the SFTP transport leaves, and when the fallback starts. -/
theorem downloadViaParamiko_eq (hpassword : w.password.getD "" ≠ "") :
    (downloadViaParamiko w { files := w.left }).2 =
      { files := patched w.left w.sftpWrites
        fetched := w.sftpNames.filter (w.isFetched (sftpTransfers w))
        asked := w.askedFor (sftpTransfers w) sftpRemoveCommand w.sshRemoval w.sftpNames
          w.sftpWrites } ∧
    ((∃ e, (downloadViaParamiko w { files := w.left }).1 = .error e) ↔ w.sftpRaises = true) := by
  have hnames : w.sftpNames = match w.openSftp with
      | .ok () => w.sftpListing.getD []
      | .error _ => [] := rfl
  unfold ScriptWorld.sftpRaises
  cases hlisting : w.sftpListing with
  | none =>
    have hnil : w.sftpNames = [] := by
      rw [hnames, hlisting]
      split <;> rfl
    obtain ⟨hwrites, hfetched, hasked⟩ := nothing_of_nil hnil
    obtain ⟨e, he⟩ := downloadViaParamiko_unlisted (p := { files := w.left }) hpassword hlisting
    rw [he, hwrites, hfetched, ← hwrites, hasked, hwrites]
    exact ⟨rfl, by simp [hpassword]⟩
  | some listed =>
    rw [downloadViaParamiko_listed hlisting]
    by_cases hempty : listed = []
    · have hnil : w.sftpNames = [] := by
        rw [hnames, hlisting, hempty]
        split <;> rfl
      obtain ⟨hwrites, hfetched, hasked⟩ := nothing_of_nil hnil
      rw [if_pos hempty, hwrites, hfetched, ← hwrites, hasked, hwrites]
      exact ⟨rfl, by simp [hempty]⟩
    · rw [if_neg hempty]
      cases hopen : w.openSftp with
      | error e =>
        have hnil : w.sftpNames = [] := by rw [hnames, hopen]
        obtain ⟨hwrites, hfetched, hasked⟩ := nothing_of_nil hnil
        rw [hwrites, hfetched, ← hwrites, hasked, hwrites, hnil]
        exact ⟨rfl, by simp [hempty]⟩
      | ok =>
        have hlisted : w.sftpNames = listed := by rw [hnames, hopen, hlisting]; rfl
        obtain ⟨hstate, hraises⟩ := downloadAndRemove_eq (w := w) (sftpTransfers w)
          sftpRemoveCommand w.sshRemoval listed { files := w.left }
        dsimp only
        rw [hstate, hraises, ScriptWorld.sftpWrites, hlisted, ScriptWorld.askedFor]
        exact ⟨rfl, by simp [hempty]⟩

/-- The fallback goes on with what the SFTP transport has left. -/
theorem downloadViaSshpass_eq (p : Progress) (hlisting : w.sshpassListing.1 = true) :
    (downloadViaSshpass w p).2 =
      { files := patched p.files ((parseBackupFiles w.sshpassListing.2).flatMap
          (w.writesOf w.scpTransfers))
        fetched := p.fetched ++
          (parseBackupFiles w.sshpassListing.2).filter (w.isFetched w.scpTransfers)
        asked := p.asked ++ if w.deleteAfterDownload &&
            (parseBackupFiles w.sshpassListing.2).any (w.isFetched w.scpTransfers) then
            (reachedUntil (fun _ => none) ((parseBackupFiles w.sshpassListing.2).filter
              (hasLocal (patched p.files ((parseBackupFiles w.sshpassListing.2).flatMap
                (w.writesOf w.scpTransfers)))))).flatMap
              fun name => w.removedBy (sshpassRemoveCommand name)
          else [] } := by
  unfold downloadViaSshpass
  rw [if_pos hlisting]
  dsimp only
  split
  next hnil =>
    rw [hnil]
    simp [patched]
  next => exact (downloadAndRemove_eq w.scpTransfers sshpassRemoveCommand (fun _ => none) _ p).1

/-- **What the script leaves**: the last writes of all transfers, the complete downloads, and the
names that the device was asked to remove. -/
theorem realizarBackup_eq (w : ScriptWorld) :
    (realizarBackup w).2 =
      { files := patched w.left w.writes, fetched := w.fetched, asked := w.asked } := by
  by_cases hpassword : w.password.getD "" = ""
  · have hsftp : w.sftpNames = [] := by
      unfold ScriptWorld.sftpNames ScriptWorld.sftpListing
      rw [if_pos hpassword]
      split <;> rfl
    have hraises : w.sftpRaises = false := by
      unfold ScriptWorld.sftpRaises ScriptWorld.sftpListing
      rw [if_pos hpassword]
      simp [hpassword]
    have hscp : w.scpNames = [] := by simp [ScriptWorld.scpNames, hraises]
    unfold realizarBackup ScriptWorld.writes ScriptWorld.fetched ScriptWorld.asked
      ScriptWorld.sftpWrites ScriptWorld.askedFor
    rw [if_pos hpassword, hsftp, hscp]
    simp [patched]
  · obtain ⟨hstate, hraises⟩ := downloadViaParamiko_eq hpassword
    unfold realizarBackup
    rw [if_neg hpassword]
    dsimp only
    generalize downloadViaParamiko w { files := w.left } = sftp at hstate hraises ⊢
    obtain ⟨result, p⟩ := sftp
    dsimp only at hstate hraises
    have hnoScp : w.scpNames = [] →
        p = { files := patched w.left w.writes, fetched := w.fetched, asked := w.asked } := by
      intro hscp
      rw [hstate, ScriptWorld.writes, ScriptWorld.fetched, ScriptWorld.asked, hscp]
      simp [ScriptWorld.askedFor]
    cases result with
    | ok answer =>
      apply hnoScp
      have hquiet : ¬ w.sftpRaises = true := by
        rw [← hraises]
        simp
      simp [ScriptWorld.scpNames, hquiet]
    | error e =>
      have hraised : w.sftpRaises = true := hraises.mp ⟨e, rfl⟩
      dsimp only
      by_cases hinstalled : w.sshpassInstalled = true
      · rw [if_pos hinstalled]
        by_cases hlisting : w.sshpassListing.1 = true
        · have hscp : w.scpNames = parseBackupFiles w.sshpassListing.2 := by
            simp [ScriptWorld.scpNames, hraised, hinstalled, hlisting]
          have hfinal := downloadViaSshpass_eq p hlisting
          rw [hstate, ← hscp] at hfinal
          have hboth : (downloadViaSshpass w p).2 =
              { files := patched w.left w.writes, fetched := w.fetched, asked := w.asked } := by
            rw [hstate, hfinal, ← patched_append]
            rfl
          rw [← hboth]
          split
          next h => rw [h]
          next h => rw [h]
        · have hsshpass : downloadViaSshpass w p =
              (.error "Não foi possível conectar e listar os ficheiros no dispositivo.", p) := by
            rw [downloadViaSshpass, if_neg hlisting]
          rw [hsshpass]
          apply hnoScp
          simp [ScriptWorld.scpNames, hlisting]
      · rw [if_neg hinstalled]
        apply hnoScp
        simp [ScriptWorld.scpNames, hinstalled]

/-! ## Every removed file is saved -/

variable (w)

/-- Every file that the device was asked to remove was downloaded completely, to a local file that
holds its content; and different files have different local files. -/
structure SavedBeforeRemoval (p : Progress) : Prop where
  saved : ∀ name ∈ p.asked, ∀ entry, w.device.lookup name = some entry → name ∈ p.fetched ∧
    ∃ content, entry = .file content ∧ p.files.lookup (basename name) = some content
  apart : ∀ a ∈ p.fetched, ∀ b ∈ p.fetched, basename a = basename b → a = b

/-- For every file that a removal command names, one of its transfers is complete, and so is the
last write to its local file; and complete transfers have different local files. -/
structure ScriptWorld.Careful : Prop where
  complete : ∀ name ∈ w.asked, ∀ entry, w.device.lookup name = some entry → name ∈ w.fetched ∧
    ∃ content, entry = .file content ∧ w.writes.given (basename name) = some (some content)
  apart : ∀ a ∈ w.fetched, ∀ b ∈ w.fetched, basename a = basename b → a = b

variable {w}

/-- A complete transfer has written its local file. -/
theorem given_writes_of_fetched {name : String} (h : name ∈ w.fetched) :
    w.writes.given (basename name) ≠ none := by
  intro hnone
  rw [ScriptWorld.fetched, List.mem_append, List.mem_filter, List.mem_filter] at h
  rcases h with ⟨hname, hfetched⟩ | ⟨hname, hfetched⟩
  · obtain ⟨content, _, hwrites⟩ := writes_of_fetched hfetched
    have hmem : (basename name, some content) ∈ w.writes :=
      List.mem_append_left _ (List.mem_flatMap.mpr ⟨name, hname, hwrites⟩)
    exact given_eq_none.mp hnone _ hmem rfl
  · obtain ⟨content, _, hwrites⟩ := writes_of_fetched hfetched
    have hmem : (basename name, some content) ∈ w.writes :=
      List.mem_append_right _ (List.mem_flatMap.mpr ⟨name, hname, hwrites⟩)
    exact given_eq_none.mp hnone _ hmem rfl

/-- The text between the quotes of a remove command. -/
def namedFile (command : String) : List String :=
  [String.ofList ((command.toList.drop "/file remove [find name=\"".length).dropLast.dropLast)]

/-- Two backups on the device; the first download fails. -/
def failingDownload : ScriptWorld where
  password := some "x"
  device := [("a.rsc", .file "new"), ("b.rsc", .file "b")]
  removedBy := namedFile
  sshListing := .ok ("0 a.rsc script\n1 b.rsc script\n", "", 0)
  sftpGet := fun name =>
    if name = "a.rsc" then (.fails none, .fails none) else (.complete, .complete)

/-- A file of that name is left from an earlier run. -/
def leftover : ScriptWorld := { failingDownload with left := [("a.rsc", "old")] }

/-- The download fails after a part. -/
def partialDownload : ScriptWorld :=
  { failingDownload with
    sftpGet := fun name =>
      if name = "a.rsc" then (.fails (some "ne"), .fails none) else (.complete, .complete) }

/-- Two files with one base name. -/
def sameBasename : ScriptWorld :=
  { failingDownload with
    device := [("flash/a.rsc", .file "one"), ("a.rsc", .file "two")]
    sshListing := .ok ("0 flash/a.rsc script\n1 a.rsc script\n", "", 0)
    sftpGet := fun _ => (.complete, .complete) }

/-- The names that the device was asked to remove, and the local files. -/
def outcome (w : ScriptWorld) : List String × Dict String String :=
  ((realizarBackup w).2.asked, (realizarBackup w).2.files)

end BackupCenter.Mikrotik
