import BackupCenter.Retention.Purge

/-!
# Rows and files of the purges

What a purge leaves of the files and of the rows, for every pattern of failures, and when the two
fit together. A file is gone as soon as it is removed; its row stays if the commit fails.
-/
namespace BackupCenter.Retention

open BackupCenter.Lib
open BackupCenter.Quota (BackupStatus)
open BackupCenter.Tenants (Uuid Device DeviceGroup)

variable (w : PurgeWorld)

/-! ## What a purge gets to -/

/-- The tenants whose files are removed: up to the first one whose commit fails. -/
def PurgeWorld.reached : List Tenant → List Tenant
  | [] => []
  | t :: ts =>
    if w.cutoff t = none then []
    else if w.commitFails t.id then [t]
    else t :: reached ts

/-- The tenants whose rows are deleted. -/
def PurgeWorld.committed : List Tenant → List Tenant
  | [] => []
  | t :: ts =>
    if w.cutoff t = none then []
    else if w.commitFails t.id then []
    else t :: committed ts

/-- The row is one of an expired backup of the tenant. -/
def Store.expiredFor (s : Store) (t : Tenant) (b : Backup) : Prop :=
  ∃ cutoff, w.cutoff t = some cutoff ∧ s.isExpired t.id cutoff b = true

namespace PurgeTask

def pathOf : PurgeTask → Backup → Option String
  | .expired => expiredPath
  | .failed => failedPath

/-- The task gets to the file of the row. -/
def Attempts (s : Store) : PurgeTask → Backup → Prop
  | .expired, b => ∃ t ∈ w.reached s.activeTenants, s.expiredFor w t b
  | .failed, b => s.isFailed w.failedCutoff b = true

/-- The task gets to commit the deletion of the row. -/
def Deletes (s : Store) : PurgeTask → Backup → Prop
  | .expired, b => ∃ t ∈ w.committed s.activeTenants, s.expiredFor w t b
  | .failed, b => w.failedCommitFails = false ∧ s.isFailed w.failedCutoff b = true

end PurgeTask

/-- The files and rows that are left, when the files of the rows in `attempts` were removed as
far as possible and the rows in `deletes` deleted. -/
structure Effect (pathOf : Backup → Option String) (attempts deletes : Backup → Prop)
    (s s' : Store) : Prop where
  files : ∀ file, file ∈ s'.files ↔
    file ∈ s.files ∧ ∀ b ∈ s.backups, attempts b → w.takes pathOf b ≠ some file
  backups : ∀ b, b ∈ s'.backups ↔ b ∈ s.backups ∧ ¬ deletes b

variable {w} {s s' : Store} {pathOf : Backup → Option String} {attempts deletes : Backup → Prop}

theorem mem_removeFile {files : List String × Nat} {b : Backup} {file : String} :
    file ∈ (removeFile w pathOf files b).1 ↔ file ∈ files.1 ∧ w.takes pathOf b ≠ some file := by
  unfold removeFile PurgeWorld.takes
  cases pathOf b with
  | none => simp
  | some path =>
    by_cases hfails : w.removeFails b.id = true
    · simp [hfails]
    · have hne : (some path).map w.canonical ≠ some file ↔ file ≠ w.canonical path := by
        rw [Option.map_some, ne_eq, Option.some_inj, eq_comm]
      rw [if_neg hfails, hne]
      dsimp only
      split
      · rw [List.mem_filter, decide_eq_true_iff]
      next hmem =>
        refine (and_iff_left_of_imp fun hfile heq => ?_).symm
        rw [heq] at hfile
        exact hmem hfile

/-- A loop over rows leaves the files that no row takes. -/
theorem mem_foldl_removeFile {batch : List Backup} {files : List String × Nat} {file : String} :
    file ∈ (batch.foldl (removeFile w pathOf) files).1 ↔
      file ∈ files.1 ∧ ∀ b ∈ batch, w.takes pathOf b ≠ some file := by
  induction batch generalizing files with
  | nil => simp
  | cons b batch ih =>
    rw [List.foldl_cons, ih, mem_removeFile, and_assoc, List.forall_mem_cons]

/-- One batch: the rows in `p`, whose commit succeeds or fails. -/
theorem effect_batch {p : Backup → Bool} {files : List String × Nat}
    (hfiles : files = (s.backups.rows.filter p).foldl (removeFile w pathOf) (s.files, 0)) :
    Effect w pathOf (fun b => p b = true) (fun _ => False) s { s with files := files.1 } ∧
    Effect w pathOf (fun b => p b = true) (fun b => p b = true) s
      { s with files := files.1, backups := s.backups.erase p } := by
  have hleft : ∀ file, file ∈ files.1 ↔
      file ∈ s.files ∧ ∀ b ∈ s.backups, p b = true → w.takes pathOf b ≠ some file := by
    intro file
    rw [hfiles, mem_foldl_removeFile]
    simp only [List.mem_filter, and_imp]
    exact Iff.rfl
  constructor
  · exact { files := hleft, backups := fun b => by simp }
  · exact { files := hleft, backups := fun b => by simp [Table.mem_erase] }

/-- A purge goes on with the rows that are left. -/
theorem Effect.then {s₁ s₂ : Store} {p : Backup → Prop}
    (h₁ : Effect w pathOf p p s s₁) (h₂ : Effect w pathOf attempts deletes s₁ s₂) :
    Effect w pathOf (fun b => p b ∨ attempts b) (fun b => p b ∨ deletes b) s s₂ where
  files := by
    intro file
    rw [h₂.files, h₁.files, and_assoc]
    apply and_congr_right
    intro _
    constructor
    · rintro ⟨hp, hrest⟩ b hb (hpb | hattempt)
      · exact hp b hb hpb
      · by_cases hpb : p b
        · exact hp b hb hpb
        · exact hrest b ((h₁.backups b).mpr ⟨hb, hpb⟩) hattempt
    · intro h
      constructor
      · exact fun b hb hpb => h b hb (.inl hpb)
      · exact fun b hb hattempt => h b ((h₁.backups b).mp hb).1 (.inr hattempt)
  backups := by
    intro b
    rw [h₂.backups, h₁.backups, and_assoc, not_or]

theorem Effect.congr {attempts' deletes' : Backup → Prop}
    (h : Effect w pathOf attempts deletes s s') (ha : ∀ b, attempts b ↔ attempts' b)
    (hd : ∀ b, deletes b ↔ deletes' b) : Effect w pathOf attempts' deletes' s s' := by
  rwa [show attempts' = attempts from funext fun b => propext (ha b).symm,
    show deletes' = deletes from funext fun b => propext (hd b).symm]

/-- The loop over the tenants. -/
theorem effect_purgeTenants (ts : List Tenant) (done : Purged) (s : Store) :
    Effect w expiredPath (fun b => ∃ t ∈ w.reached ts, s.expiredFor w t b)
      (fun b => ∃ t ∈ w.committed ts, s.expiredFor w t b) s (purgeTenants w ts done s).2 := by
  induction ts generalizing done s with
  | nil => exact { files := fun _ => by simp [purgeTenants, PurgeWorld.reached]
                   backups := fun _ => by simp [purgeTenants, PurgeWorld.committed] }
  | cons t ts ih =>
    unfold purgeTenants PurgeWorld.reached PurgeWorld.committed
    cases hcutoff : w.cutoff t with
    | none => exact { files := fun _ => by simp, backups := fun _ => by simp }
    | some cutoff =>
      have hexpired : ∀ b, s.isExpired t.id cutoff b = true ↔ s.expiredFor w t b := by
        intro b
        simp [Store.expiredFor, hcutoff]
      dsimp only
      generalize hfiles : (s.backups.rows.filter (s.isExpired t.id cutoff)).foldl
        (removeFile w expiredPath) (s.files, 0) = files
      obtain ⟨hfail, hcommit⟩ := effect_batch hfiles.symm
      have hsome : ¬ (some cutoff = none) := Option.some_ne_none cutoff
      rw [if_neg hsome, if_neg hsome]
      by_cases hfails : w.commitFails t.id = true
      · rw [if_pos hfails, if_pos hfails, if_pos hfails]
        exact hfail.congr (fun b => by simp [hexpired]) fun b => by simp
      · rw [if_neg hfails, if_neg hfails, if_neg hfails]
        refine (hcommit.then (ih _ _)).congr (fun b => ?_) fun b => ?_
        · rw [List.exists_mem_cons_iff, hexpired]
          exact Iff.rfl
        · rw [List.exists_mem_cons_iff, hexpired]
          exact Iff.rfl

/-- What each task leaves, for every pattern of failures. -/
theorem effect_run (w : PurgeWorld) (s : Store) (task : PurgeTask) :
    Effect w task.pathOf (task.Attempts w s) (task.Deletes w s) s (task.run w s).2 := by
  cases task with
  | expired => exact effect_purgeTenants _ _ s
  | failed =>
    unfold PurgeTask.run purgeFailedBackupsPeriodic
    dsimp only
    generalize hfiles : (s.backups.rows.filter (s.isFailed w.failedCutoff)).foldl
      (removeFile w failedPath) (s.files, 0) = files
    obtain ⟨hfail, hcommit⟩ := effect_batch hfiles.symm
    by_cases hfails : w.failedCommitFails = true
    · rw [if_pos hfails]
      exact hfail.congr (fun _ => Iff.rfl) fun b => by simp [PurgeTask.Deletes, hfails]
    · rw [if_neg hfails]
      exact hcommit.congr (fun _ => Iff.rfl) fun b => by simp [PurgeTask.Deletes, hfails]

/-! ## Rows and files -/

variable (w)

/-- Rows and files were kept together: a row that is left still has the file that it had, and the
file of a deleted row is gone, unless a row that is left refers to it. -/
structure Together (s s' : Store) : Prop where
  kept : ∀ b ∈ s'.backups, ∀ file, w.fileOf b = some file → file ∈ s.files → file ∈ s'.files
  gone : ∀ b ∈ s.backups, b ∉ s'.backups → ∀ file, w.fileOf b = some file →
    file ∉ s'.files ∨ ∃ b' ∈ s'.backups, w.fileOf b' = some file

/-- The device of the backup is active, and so is its group, if it is in one; and the backup is
older than its tenant keeps backups. -/
def Store.MayExpire (s : Store) (b : Backup) : Prop :=
  ∃ d t created, s.devices.find b.deviceId = some d ∧ t ∈ s.tenants ∧ t.id = d.tenantId ∧
    d.isActive = some true ∧
    (∀ groupId, d.groupId = some groupId →
      ∃ g, s.deviceGroups.find groupId = some g ∧ g.isActive = some true) ∧
    b.createdAt = some created ∧ created < w.now t.id - w.retentionDays t * microsecondsPerDay

/-- The purge deletes no backup that it has to preserve. -/
def PurgeTask.Spares (s s' : Store) : PurgeTask → Prop
  | .expired => ∀ b ∈ s.backups, b ∉ s'.backups → s.MayExpire w b
  | .failed => True

/-- A file that the purge takes away belongs to rows only whose deletion is committed; and the
purge takes the file of every row whose deletion is committed, unless the file belongs to a row that
stays. -/
structure PurgeTask.Matched (s : Store) (task : PurgeTask) : Prop where
  owners : ∀ b ∈ s.backups, task.Attempts w s b → ∀ file ∈ s.files,
    w.takes task.pathOf b = some file →
    ∀ b' ∈ s.backups, w.fileOf b' = some file → task.Deletes w s b'
  taken : ∀ b ∈ s.backups, task.Deletes w s b → ∀ file ∈ s.files, w.fileOf b = some file →
    ∃ b' ∈ s.backups, (task.Attempts w s b' ∧ w.takes task.pathOf b' = some file) ∨
      (¬ task.Deletes w s b' ∧ w.fileOf b' = some file)

variable {w} {task : PurgeTask}

theorem mem_of_committed {t : Tenant} {ts : List Tenant} (h : t ∈ w.committed ts) : t ∈ ts := by
  induction ts with
  | nil => exact h
  | cons t' ts ih =>
    unfold PurgeWorld.committed at h
    split at h
    · cases h
    · split at h
      · cases h
      · rcases List.mem_cons.mp h with rfl | h
        · exact List.mem_cons_self ..
        · exact List.mem_cons_of_mem _ (ih h)

theorem mayExpire_of_expiredFor {t : Tenant} {b : Backup} (ht : t ∈ s.tenants)
    (h : s.expiredFor w t b) : s.MayExpire w b := by
  obtain ⟨cutoff, hcutoff, hexpired⟩ := h
  obtain ⟨d, hd, hrow⟩ := (Option.any_eq_true _ _).mp hexpired
  simp only [Bool.and_eq_true, decide_eq_true_iff, Option.any_eq_true, Store.active,
    Bool.or_eq_true] at hrow
  obtain ⟨⟨htenant, created, hcreated, hold⟩, hactive, hgroup⟩ := hrow
  unfold PurgeWorld.cutoff at hcutoff
  dsimp only at hcutoff
  split at hcutoff
  · obtain rfl := Option.some.inj hcutoff
    refine ⟨d, t, created, hd, ht, htenant.symm, hactive, fun groupId hid => ?_, hcreated, hold⟩
    rw [hid] at hgroup
    rcases hgroup with hnone | ⟨g, hg, hisActive⟩
    · cases hnone
    · exact ⟨g, hg, hisActive⟩
  · cases hcutoff

theorem spares_run (w : PurgeWorld) (s : Store) (task : PurgeTask) :
    task.Spares w s (task.run w s).2 := by
  cases task with
  | failed => trivial
  | expired =>
    intro b hb hgone
    have hdeleted : PurgeTask.expired.Deletes w s b := by
      by_contra hnot
      exact hgone (((effect_run w s .expired).backups b).mpr ⟨hb, hnot⟩)
    obtain ⟨t, ht, hexpired⟩ := hdeleted
    have hmem : t ∈ s.activeTenants := mem_of_committed ht
    exact mayExpire_of_expiredFor (List.mem_of_mem_filter hmem) hexpired

/-- Rows and files are kept together exactly if the files taken and the rows deleted match. -/
theorem together_iff (h : Effect w task.pathOf (task.Attempts w s) (task.Deletes w s) s s') :
    Together w s s' ↔ task.Matched w s := by
  constructor
  · intro htogether
    constructor
    · intro b hb hattempt file hfile htakes b' hb' hfileOf
      by_contra hstays
      have hleft : file ∈ s'.files :=
        htogether.kept b' ((h.backups b').mpr ⟨hb', hstays⟩) file hfileOf hfile
      exact ((h.files file).mp hleft).2 b hb hattempt htakes
    · intro b hb hdeletes file hfile hfileOf
      have hgone : b ∉ s'.backups := fun hb' => ((h.backups b).mp hb').2 hdeletes
      rcases htogether.gone b hb hgone file hfileOf with hremoved | ⟨b', hb', hfileOf'⟩
      · by_contra hnone
        apply hremoved
        rw [h.files]
        refine ⟨hfile, fun b' hb' hattempt htakes => hnone ?_⟩
        exact ⟨b', hb', .inl ⟨hattempt, htakes⟩⟩
      · obtain ⟨hb', hstays⟩ := (h.backups b').mp hb'
        exact ⟨b', hb', .inr ⟨hstays, hfileOf'⟩⟩
  · intro hmatched
    constructor
    · intro b hb file hfileOf hfile
      obtain ⟨hb, hstays⟩ := (h.backups b).mp hb
      rw [h.files]
      refine ⟨hfile, fun b' hb' hattempt htakes => hstays ?_⟩
      exact hmatched.owners b' hb' hattempt file hfile htakes b hb hfileOf
    · intro b hb hgone file hfileOf
      have hdeletes : task.Deletes w s b := by
        by_contra hnot
        exact hgone ((h.backups b).mpr ⟨hb, hnot⟩)
      by_cases hfile : file ∈ s.files
      · obtain ⟨b', hb', ⟨hattempt, htakes⟩ | ⟨hstays, hfileOf'⟩⟩ :=
          hmatched.taken b hb hdeletes file hfile hfileOf
        · exact .inl fun hleft => ((h.files file).mp hleft).2 b' hb' hattempt htakes
        · exact .inr ⟨b', (h.backups b').mpr ⟨hb', hstays⟩, hfileOf'⟩
      · exact .inl fun hleft => hfile ((h.files file).mp hleft).1

/-- **A purge keeps rows and files together**, and spares the backups that it has to preserve,
exactly if the files that it takes and the rows that it deletes match. -/
theorem purge_iff (w : PurgeWorld) (s : Store) (task : PurgeTask) :
    (Together w s (task.run w s).2 ∧ task.Spares w s (task.run w s).2) ↔ task.Matched w s :=
  (and_iff_left (spares_run w s task)).trans (together_iff (effect_run w s task))

/-! ## Three ways to part a row from its file -/

def day (n : Int) : Int := n * microsecondsPerDay

/-- A worker that runs in `/app`. -/
def worker : PurgeWorld where
  canonical := join "/app"
  now := fun _ => day 739000
  started := day 739000

def backupAt (id : Uuid) (path : String) (age : Int) : Backup where
  id := id
  deviceId := 1
  filePath := some path
  status := some .failed
  createdAt := some (day (739000 - age))

def oneDevice (backups : Table Backup) (files : List String) : Store where
  tenants := { rows := [{ id := 1 }] }
  devices := { rows := [{ id := 1, tenantId := 1, name := "r1", ipAddress := "10.0.0.1"
                          username := "admin", passwordEncrypted := "x" }] }
  backups := backups
  files := files

/-- An expired backup with a path relative to the storage. -/
def relativePath : Store :=
  oneDevice { rows := [backupAt 1 "acme/r1.rsc" 100] } ["/app/storage/backups/acme/r1.rsc"]

/-- An old and a new backup with one path. -/
def sharedPath : Store :=
  oneDevice { rows := [backupAt 1 "/b/r1.rsc" 100, backupAt 2 "/b/r1.rsc" 1] } ["/b/r1.rsc"]

/-- The files and the rows that a task leaves. -/
def left (w : PurgeWorld) (s : Store) (task : PurgeTask) : List String × List Uuid :=
  ((task.run w s).2.files, (task.run w s).2.backups.rows.map Backup.id)

/-- A relative path is not found by the purge of expired backups; a commit that fails leaves a row
without its file; so does an old backup that shares its path. -/
theorem purges_part_rows_from_files :
    (¬ ∀ (w : PurgeWorld) (s : Store) (task : PurgeTask), Together w s (task.run w s).2) ∧
    left worker relativePath .expired = (["/app/storage/backups/acme/r1.rsc"], []) ∧
    left worker relativePath .failed = ([], []) ∧
    left { worker with commitFails := fun _ => true } sharedPath .expired = ([], [1, 2]) ∧
    left worker sharedPath .expired = ([], [2]) ∧
    left worker sharedPath .failed = ([], [2]) := by
  have hshared : left worker sharedPath .expired = ([], [2]) := by decide +kernel
  refine ⟨fun hall => ?_, by decide +kernel, by decide +kernel, by decide +kernel, hshared,
    by decide +kernel⟩
  have hrow : backupAt 2 "/b/r1.rsc" 1 ∈ (PurgeTask.expired.run worker sharedPath).2.backups.rows :=
    by decide +kernel
  have hkept := (hall worker sharedPath .expired).kept _ hrow "/b/r1.rsc" (by decide) (by decide)
  have hempty : (PurgeTask.expired.run worker sharedPath).2.files = [] := congrArg Prod.fst hshared
  rw [hempty] at hkept
  cases hkept

end BackupCenter.Retention
