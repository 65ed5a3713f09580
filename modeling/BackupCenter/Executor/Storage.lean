import BackupCenter.Executor.Recorded
import BackupCenter.Lib.Accumulate
import BackupCenter.Lib.Exec
import BackupCenter.Lib.Workers

/-!
# The storage quota under parallel runs

Any number of workers run backups at once. A run collects without the database, then reads the sum
of what the tenant stores and compares, and later inserts its row in another session; other runs
may do the same in between.
-/
namespace BackupCenter.Executor

open BackupCenter.Lib
open BackupCenter.Tenants (Uuid)

/-! ## Workers -/

/-- Where a run stands: before the collection, before the quota check, before its result is
persisted (with the sum that the check read, if there was one), or at its end. -/
inductive WorkerPhase where
  | collecting
  | measured (o : Outcome)
  | checked (o : Outcome) (used : Option Nat)
  | ended

structure Worker where
  world : RunWorld
  deviceId : Uuid
  device : Device
  manageVpn : Bool
  /-- whether `os.remove` works -/
  removes : Bool
  phase : WorkerPhase := .collecting
  /-- the quota check stopped the backup -/
  refused : Bool := false

structure Pool where
  db : Database
  /-- the run whose file is at a path -/
  disk : String → Option Nat := fun _ => none
  workers : List Worker := []
  /-- the rows that the runs inserted -/
  inserted : List (Nat × Backup) := []

inductive PoolEvent where
  | start (world : RunWorld) (deviceId : Uuid) (manageVpn removes : Bool)
  | advance (i : Nat)

/-- The disk after a collection. -/
def wrote (disk : String → Option Nat) (i : Nat) (o : Outcome) : String → Option Nat :=
  match o.filePath, o.fileSize with
  | some path, some _ => Function.update disk path (some i)
  | _, _ => disk

/-- `os.remove(file_path)`, whose failure is only logged -/
def removed (disk : String → Option Nat) (works : Bool) (path : Option String) :
    String → Option Nat :=
  match path with
  | some path => if works then Function.update disk path none else disk
  | none => disk

/-- The sum that the quota check reads. -/
def Database.usedFor (db : Database) (deviceId : Uuid) : Option Nat :=
  (db.tenantOf deviceId).map fun tenant => db.storageUsedBytes tenant.id

def Pool.put (s : Pool) (i : Nat) (k : Worker) : Pool := { s with workers := s.workers.set i k }

/-- The quota check of a run, with the removal of a file that does not fit. -/
def Pool.check (s : Pool) (i : Nat) (k : Worker) (o : Outcome) : Pool :=
  let checked := quotaOutcome k.deviceId s.db o
  let refused := !checked.success
  { s with
    disk := if refused then removed s.disk k.removes o.filePath else s.disk
    workers := s.workers.set i
      { k with phase := .checked checked (s.db.usedFor k.deviceId), refused := refused } }

/-- The end of a run, with the rows that it inserts. -/
def Pool.persist (s : Pool) (i : Nat) (k : Worker) (o : Outcome) : Pool :=
  let db := (persisted k.world k.deviceId o s.db).2
  { s with
    db := db
    workers := s.workers.set i { k with phase := .ended }
    inserted := s.inserted ++ (db.backups.drop s.db.backups.length).map fun row => (i, row) }

/-- The next step of a run. -/
def Pool.advance (s : Pool) (i : Nat) (k : Worker) : Option Pool :=
  match k.phase with
  | .collecting =>
    match measured k.world (k.world.target k.device k.manageVpn) with
    | .error _ => some (s.put i { k with phase := .ended })
    | .ok o =>
      some { s.put i { k with phase := .measured o } with disk := wrote s.disk i o }
  | .measured o =>
    if o.needsQuota then
      match k.world.quotaSession with
      | .error _ => some (s.put i { k with phase := .ended })
      | .ok () => some (s.check i k o)
    else some (s.put i { k with phase := .checked o none })
  | .checked o _ => some (s.persist i k o)
  | .ended => none

def poolStep (s : Pool) : PoolEvent → Option Pool
  | .start world deviceId manageVpn removes =>
    match world.opening, s.db.devices.find deviceId with
    | .ok (), some device =>
      some { s with workers := s.workers ++ [⟨world, deviceId, device, manageVpn, removes,
        .collecting, false⟩] }
    -- the run ends without a row
    | _, _ => some s
  | .advance i => do
    let k ← s.workers[i]?
    s.advance i k

/-- A run that nothing interrupts leaves the database as `run_backup_for_device_id` does. -/
theorem run_alone (w : RunWorld) (deviceId : Uuid) (manageVpn removes : Bool) (db : Database) :
    ∃ n s, exec poolStep { db := db }
        (.start w deviceId manageVpn removes :: List.replicate n (.advance 0)) = some s ∧
      s.db = (runBackupForDeviceId w deviceId manageVpn db).2 := by
  unfold runBackupForDeviceId
  cases hopening : w.opening with
  | error e => exact ⟨0, { db := db }, by simp [exec, poolStep, hopening], rfl⟩
  | ok u =>
    cases hfind : db.devices.find deviceId with
    | none => exact ⟨0, { db := db }, by simp [exec, poolStep, hopening, hfind], rfl⟩
    | some device =>
      have hstart : poolStep { db := db } (.start w deviceId manageVpn removes) =
          some { db := db
                 workers := [⟨w, deviceId, device, manageVpn, removes, .collecting, false⟩] } := by
        simp [poolStep, hopening, hfind]
      dsimp only
      cases hmeasured : measured w (w.target device manageVpn) with
      | error e =>
        have hprepared : prepared w deviceId device manageVpn db = .error e := by
          rw [prepared, hmeasured]
          rfl
        rw [hprepared]
        refine ⟨1, ?_⟩
        rw [exec, hstart]
        simp [exec, poolStep, Pool.advance, hmeasured, Pool.put]
      | ok o =>
        have hprepared : prepared w deviceId device manageVpn db =
            quotaChecked w deviceId db o := by
          rw [prepared, hmeasured]
          rfl
        rw [hprepared, quotaChecked]
        by_cases hneeds : o.needsQuota = true
        · cases hsession : w.quotaSession with
          | error e =>
            refine ⟨2, ?_⟩
            rw [exec, hstart, if_pos hneeds]
            simp [exec, poolStep, Pool.advance, hmeasured, Pool.put, hneeds, hsession]
          | ok u =>
            refine ⟨3, ?_⟩
            rw [exec, hstart, if_pos hneeds]
            simp [exec, poolStep, Pool.advance, hmeasured, Pool.put, hneeds, hsession, Pool.check,
              Pool.persist]
        · refine ⟨3, ?_⟩
          rw [exec, hstart, if_neg hneeds]
          simp [exec, poolStep, Pool.advance, hmeasured, Pool.put, hneeds, Pool.persist]

/-! ## The claim on the quota and its condition -/

/-- The backups of a tenant keep its limit, and a backup that the check stopped has neither a file
nor a size. -/
structure QuotaHolds (tenant : Quota.Tenant) (s : Pool) : Prop where
  within : (s.db.storageUsedBytes tenant.id : Int) ≤ Quota.storageLimitBytes tenant.plan
  noFile : ∀ i k, s.workers[i]? = some k → k.refused = true → ∀ path, s.disk path ≠ some i
  noSize : ∀ i k, s.workers[i]? = some k → k.refused = true →
    ∀ row, (i, row) ∈ s.inserted → row.fileSizeBytes = none

/-- The connection drops after the server committed, and the result is inserted again. -/
def Persistence.repeats {lower : String → String} : Persistence lower → Bool
  | .drops _ _ committed => committed
  | _ => false

/-- A file that does not fit can be removed; and a row with a size is only inserted, and only
once, for a run that passed the check, while the sum is still the one that the check read. -/
def PhaseKept (tenantId : Uuid) (s : Pool) (k : Worker) : WorkerPhase → Prop
  | .measured o => o.needsQuota = true → (quotaOutcome k.deviceId s.db o).success = false →
      k.removes = true
  | .checked o used => 0 < s.db.countedBytes tenantId (backupRow k.world k.deviceId o) →
      o.success = true ∧ used = some (s.db.storageUsedBytes tenantId) ∧
        k.world.persistence.repeats = false
  | _ => True

instance (tenantId : Uuid) (s : Pool) (k : Worker) :
    (phase : WorkerPhase) → Decidable (PhaseKept tenantId s k phase)
  | .collecting => .isTrue trivial
  | .measured _ => inferInstanceAs (Decidable (_ → _))
  | .checked _ _ => inferInstanceAs (Decidable (_ → _))
  | .ended => .isTrue trivial

def CheckKept (tenantId : Uuid) (s : Pool) : PoolEvent → Prop
  | .start .. => True
  | .advance i => ∀ k ∈ s.workers[i]?, PhaseKept tenantId s k k.phase

instance (tenantId : Uuid) (s : Pool) : (e : PoolEvent) → Decidable (CheckKept tenantId s e)
  | .start .. => .isTrue trivial
  | .advance i => inferInstanceAs (Decidable (∀ k ∈ s.workers[i]?, _))

/-! ## What a run stores -/

section

variable {w : RunWorld} {deviceId tenantId : Uuid} {o : Outcome} {db : Database}
  {tenant : Quota.Tenant}

theorem record_ownedBy (other : Uuid) :
    (db.record w deviceId o).ownedBy tenantId other = db.ownedBy tenantId other := by
  have hfind : (db.devices.modify (fun d => d.id = deviceId) (w.ran o)).find other = _ :=
    Table.find_modify
  unfold Database.ownedBy Database.record
  rw [hfind]
  cases db.devices.find other with
  | none => rfl
  | some d =>
    rw [Option.map_some, Option.any_some, Option.any_some]
    split
    · rfl
    · rfl

/-- The rows that a run inserts: its own, at most once unless the connection drops after the
commit. Nothing else changes for the quota. -/
theorem persisted_rows (w : RunWorld) (deviceId : Uuid) (o : Outcome) (db : Database) : ∃ n,
    (persisted w deviceId o db).2.backups =
        db.backups ++ List.replicate n (backupRow w deviceId o) ∧
      (persisted w deviceId o db).2.tenants = db.tenants ∧
      (∀ t d, (persisted w deviceId o db).2.ownedBy t d = db.ownedBy t d) ∧
      (w.persistence.repeats = false → n ≤ 1) := by
  have hone : ∀ db : Database, ∃ n, n ≤ 1 ∧ (persistBackupResult w deviceId o db).2.backups =
      db.backups ++ List.replicate n (backupRow w deviceId o) ∧
      (persistBackupResult w deviceId o db).2.tenants = db.tenants ∧
      ∀ t d, (persistBackupResult w deviceId o db).2.ownedBy t d = db.ownedBy t d := by
    intro db
    unfold persistBackupResult
    cases hfind : db.devices.find deviceId with
    | none => exact ⟨0, by omega, by simp, rfl, fun _ _ => rfl⟩
    | some device => exact ⟨1, by omega, rfl, rfl, fun _ d => record_ownedBy d⟩
  unfold persisted
  generalize w.persistence = persistence
  cases persistence with
  | commits =>
    obtain ⟨n, hn, hrows, htenants, howned⟩ := hone db
    exact ⟨n, hrows, htenants, howned, fun _ => hn⟩
  | refuses e unrecognised => exact ⟨0, by simp, rfl, fun _ _ => rfl, fun _ => by omega⟩
  | drops e recognised committed =>
    cases committed with
    | false =>
      obtain ⟨n, hn, hrows, htenants, howned⟩ := hone db
      exact ⟨n, hrows, htenants, howned, fun _ => hn⟩
    | true =>
      obtain ⟨n, hn, hrows, htenants, howned⟩ := hone (db.record w deviceId o)
      refine ⟨n + 1, ?_, htenants, ?_, nofun⟩
      · dsimp only
        rw [if_pos rfl, hrows, Database.record, List.append_assoc, List.replicate_succ]
        rfl
      · intro t d
        exact (howned t d).trans (record_ownedBy d)

/-- The sum after a run. -/
theorem storageUsed_persisted {n : Nat} {db' : Database}
    (hrows : db'.backups = db.backups ++ List.replicate n (backupRow w deviceId o))
    (howned : ∀ t d, db'.ownedBy t d = db.ownedBy t d) :
    db'.storageUsedBytes tenantId =
      db.storageUsedBytes tenantId + n * db.countedBytes tenantId (backupRow w deviceId o) := by
  have hsame : db'.countedBytes tenantId = db.countedBytes tenantId := by
    funext b
    rw [Database.countedBytes, Database.countedBytes, howned]
  unfold Database.storageUsedBytes
  rw [hrows, hsame, sum_map_replicate]

theorem countedBytes_backupRow : db.countedBytes tenantId (backupRow w deviceId o) =
    if db.ownedBy tenantId deviceId then o.fileSize.getD 0 else 0 := rfl

/-- The quota check either leaves the outcome or takes file and size from it. -/
theorem quotaOutcome_cases (deviceId : Uuid) (db : Database) (o : Outcome) :
    quotaOutcome deviceId db o = o ∨
      (quotaOutcome deviceId db o).success = false ∧
        (quotaOutcome deviceId db o).fileSize = none := by
  unfold quotaOutcome
  split
  · exact .inl rfl
  · unfold Outcome.underQuota
    dsimp only
    split
    · exact .inl rfl
    · exact .inr ⟨rfl, rfl⟩

/-- A backup of the tenant that passes the check fits next to what the check read. -/
theorem fits_of_check (hknown : db.tenants.find tenant.id = some tenant)
    (hcounted : tenant.accessUnlimited = false)
    (hlimit : 0 < Quota.storageLimitBytes tenant.plan) (hneeds : o.needsQuota = true)
    (howned : db.ownedBy tenant.id deviceId = true)
    (hpasses : (quotaOutcome deviceId db o).success = true) :
    db.usedFor deviceId = some (db.storageUsedBytes tenant.id) ∧
      (db.storageUsedBytes tenant.id + o.fileSize.getD 0 : Int) ≤
        Quota.storageLimitBytes tenant.plan := by
  obtain ⟨device, hdevice, htenant⟩ := (Option.any_eq_true _ _).mp howned
  have htenantOf : db.tenantOf deviceId = some tenant := by
    rw [Database.tenantOf, hdevice, Option.bind_some, of_decide_eq_true htenant, hknown]
  obtain ⟨hsuccess, hsize⟩ := Bool.and_eq_true_iff.mp hneeds
  rw [Database.usedFor, htenantOf]
  refine ⟨rfl, ?_⟩
  rw [quotaOutcome, htenantOf] at hpasses
  dsimp only [Outcome.underQuota] at hpasses
  rw [← Quota.checkStorage_allowed hcounted hlimit (by simpa using hsize)]
  split at hpasses
  next hallowed => exact hallowed
  next => cases hpasses

/-! ## The invariant -/

/-- What a run in some phase has on the disk and in the database. -/
def PhaseInv (tenant : Quota.Tenant) (db : Database) (files : String → Prop) (rows : Backup → Prop)
    (k : Worker) : WorkerPhase → Prop
  | .collecting => k.refused = false ∧ (∀ path, ¬ files path) ∧ ∀ row, ¬ rows row
  | .measured o =>
    k.refused = false ∧ (∀ path, files path → o.filePath = some path) ∧ ∀ row, ¬ rows row
  | .checked o used =>
    (k.refused = true → o.fileSize = none ∧ ∀ path, ¬ files path) ∧ (∀ row, ¬ rows row) ∧
      (o.success = true → db.ownedBy tenant.id k.deviceId = true → ∀ n, used = some n →
        (n + o.fileSize.getD 0 : Int) ≤ Quota.storageLimitBytes tenant.plan)
  | .ended =>
    k.refused = true → (∀ path, ¬ files path) ∧ ∀ row, rows row → row.fileSizeBytes = none

/-- The run `i` is where `k` says. -/
def RunInv (tenant : Quota.Tenant) (s : Pool) (i : Nat) (k : Worker) : Prop :=
  PhaseInv tenant s.db (fun path => s.disk path = some i) (fun row => (i, row) ∈ s.inserted) k
    k.phase

structure PoolInv (tenant : Quota.Tenant) (s : Pool) : Prop where
  known : s.db.tenants.find tenant.id = some tenant
  within : (s.db.storageUsedBytes tenant.id : Int) ≤ Quota.storageLimitBytes tenant.plan
  runs : ∀ i k, s.workers[i]? = some k → RunInv tenant s i k
  unused : ∀ i, s.workers[i]? = none → (∀ path, s.disk path ≠ some i) ∧
    ∀ row, (i, row) ∉ s.inserted

/-- A run stays where it is while it has no more files and rows than before. -/
theorem PhaseInv.mono {db' : Database} {files files' : String → Prop} {rows rows' : Backup → Prop}
    {k : Worker} {phase : WorkerPhase} (h : PhaseInv tenant db files rows k phase)
    (howned : ∀ t d, db'.ownedBy t d = db.ownedBy t d)
    (hfiles : ∀ path, files' path → files path) (hrows : ∀ row, rows' row → rows row) :
    PhaseInv tenant db' files' rows' k phase := by
  cases phase with
  | collecting =>
    exact ⟨h.1, fun path hp => h.2.1 path (hfiles path hp), fun row hr => h.2.2 row (hrows row hr)⟩
  | measured o =>
    exact ⟨h.1, fun path hp => h.2.1 path (hfiles path hp), fun row hr => h.2.2 row (hrows row hr)⟩
  | checked o used =>
    refine ⟨fun hrefused => ?_, fun row hr => h.2.1 row (hrows row hr), ?_⟩
    · obtain ⟨hsize, hnone⟩ := h.1 hrefused
      exact ⟨hsize, fun path hp => hnone path (hfiles path hp)⟩
    · intro hsuccess hdevice
      exact h.2.2 hsuccess (howned _ _ ▸ hdevice)
  | ended =>
    intro hrefused
    obtain ⟨hnone, hsize⟩ := h hrefused
    exact ⟨fun path hp => hnone path (hfiles path hp), fun row hr => hsize row (hrows row hr)⟩

variable {s s' : Pool} {i : Nat} {k k' : Worker}

/-- One run moves; the disk and the rows of the others do not grow. -/
theorem PoolInv.move (hinv : PoolInv tenant s) (hk : s.workers[i]? = some k)
    (hworkers : s'.workers = s.workers.set i k')
    (htenants : s'.db.tenants = s.db.tenants)
    (howned : ∀ t d, s'.db.ownedBy t d = s.db.ownedBy t d)
    (hwithin : (s'.db.storageUsedBytes tenant.id : Int) ≤ Quota.storageLimitBytes tenant.plan)
    (hdisk : ∀ j path, j ≠ i → s'.disk path = some j → s.disk path = some j)
    (hrows : ∀ j row, j ≠ i → (j, row) ∈ s'.inserted → (j, row) ∈ s.inserted)
    (hmoved : RunInv tenant s' i k') : PoolInv tenant s' where
  known := htenants ▸ hinv.known
  within := hwithin
  runs := by
    intro j x hx
    rw [hworkers] at hx
    rcases getElem?_moved hk hx with ⟨rfl, rfl⟩ | ⟨hji, hx⟩
    · exact hmoved
    · exact (hinv.runs j x hx).mono howned (fun path => hdisk j path hji)
        (fun row => hrows j row hji)
  unused := by
    intro j hj
    rw [hworkers] at hj
    have hnone := getElem?_moved_none hj
    have hji : j ≠ i := by
      rintro rfl
      rw [hk] at hnone
      cases hnone
    obtain ⟨hfiles, hnorows⟩ := hinv.unused j hnone
    exact ⟨fun path hp => hfiles path (hdisk j path hji hp),
      fun row hr => hnorows row (hrows j row hji hr)⟩

/-- A run moves on without touching the disk and the database. -/
theorem PoolInv.put (hinv : PoolInv tenant s) (hk : s.workers[i]? = some k)
    (hmoved : RunInv tenant (s.put i k') i k') : PoolInv tenant (s.put i k') :=
  hinv.move hk rfl rfl (fun _ _ => rfl) hinv.within (fun _ _ _ h => h) (fun _ _ _ h => h) hmoved

theorem disk_wrote {disk : String → Option Nat} {path : String} {j : Nat}
    (h : wrote disk i o path = some j) : disk path = some j ∨ j = i ∧ o.filePath = some path := by
  unfold wrote at h
  cases hpath : o.filePath with
  | none =>
    rw [hpath] at h
    exact .inl h
  | some p =>
    cases hsize : o.fileSize with
    | none =>
      rw [hpath, hsize] at h
      exact .inl h
    | some n =>
      rw [hpath, hsize] at h
      dsimp only at h
      by_cases hp : path = p
      · subst hp
        rw [Function.update_self] at h
        exact .inr ⟨(Option.some.inj h).symm, rfl⟩
      · rw [Function.update_of_ne hp] at h
        exact .inl h

theorem disk_removed {disk : String → Option Nat} {works : Bool} {file : Option String}
    {path : String} {j : Nat} (h : removed disk works file path = some j) :
    disk path = some j ∧ (works = true → file ≠ some path) := by
  unfold removed at h
  split at h
  next p =>
    split at h
    next hworks =>
      by_cases hp : path = p
      · subst hp
        rw [Function.update_self] at h
        cases h
      · rw [Function.update_of_ne hp] at h
        exact ⟨h, fun _ he => hp (Option.some.inj he).symm⟩
    next hworks => exact ⟨h, fun hw => absurd hw hworks⟩
  next => exact ⟨h, fun _ => by simp⟩

/-! ## What one step preserves -/

theorem PoolInv.start (hinv : PoolInv tenant s) {manageVpn removes : Bool}
    (h : poolStep s (.start w deviceId manageVpn removes) = some s') : PoolInv tenant s' := by
  simp only [poolStep] at h
  split at h
  next device _ hdevice =>
    obtain rfl := Option.some.inj h
    obtain ⟨hnone, hnorows⟩ := hinv.unused s.workers.length (List.getElem?_eq_none (Nat.le_refl _))
    constructor
    · exact hinv.known
    · exact hinv.within
    · intro j x hx
      rcases getElem?_started hx with hx | ⟨rfl, rfl⟩
      · exact hinv.runs j x hx
      · exact ⟨rfl, hnone, hnorows⟩
    · intro j hj
      apply hinv.unused j
      rw [List.getElem?_eq_none_iff, List.length_append] at hj
      rw [List.getElem?_eq_none_iff]
      omega
  next =>
    obtain rfl := Option.some.inj h
    exact hinv

/-- The quota check: a backup that does not fit leaves nothing, one that fits is within what the
check read. -/
theorem PoolInv.check (hinv : PoolInv tenant s) (hcounted : tenant.accessUnlimited = false)
    (hlimit : 0 < Quota.storageLimitBytes tenant.plan) (hk : s.workers[i]? = some k)
    (hphase : k.phase = .measured o) (hneeds : o.needsQuota = true)
    (hremoves : (quotaOutcome k.deviceId s.db o).success = false → k.removes = true) :
    PoolInv tenant (s.check i k o) := by
  have hrun := hinv.runs i k hk
  rw [RunInv, hphase] at hrun
  obtain ⟨_, hfiles, hnorows⟩ := hrun
  have hdisk : ∀ j path, (s.check i k o).disk path = some j → s.disk path = some j := by
    intro j path hp
    unfold Pool.check at hp
    dsimp only at hp
    split at hp
    · exact (disk_removed hp).1
    · exact hp
  refine hinv.move hk rfl rfl (fun _ _ => rfl) hinv.within (fun j path _ hp => hdisk j path hp)
    (fun _ _ _ hr => hr) ⟨?_, hnorows, ?_⟩
  · intro hrefused
    have hstopped : (quotaOutcome k.deviceId s.db o).success = false := by simpa using hrefused
    rcases quotaOutcome_cases k.deviceId s.db o with hsame | hsame
    · rw [hsame] at hstopped
      rw [Outcome.needsQuota, hstopped] at hneeds
      cases hneeds
    · refine ⟨hsame.2, fun path hp => ?_⟩
      have hfile := hfiles path (hdisk i path hp)
      have hp' : removed s.disk k.removes o.filePath path = some i := by
        simpa [Pool.check, hstopped] using hp
      exact (disk_removed hp').2 (hremoves hstopped) hfile
  · intro hpasses howned n hn
    obtain ⟨hused, hfits⟩ := fits_of_check hinv.known hcounted hlimit hneeds howned hpasses
    rcases quotaOutcome_cases k.deviceId s.db o with hsame | hsame
    · rw [hsame]
      obtain rfl := Option.some.inj (hused.symm.trans hn)
      exact hfits
    · rw [hsame.1] at hpasses
      cases hpasses

/-- Persisting: the row of a run that passed the check fits next to what is stored now. -/
theorem PoolInv.persist (hinv : PoolInv tenant s) (hk : s.workers[i]? = some k)
    {used : Option Nat} (hphase : k.phase = .checked o used)
    (hkept : 0 < s.db.countedBytes tenant.id (backupRow k.world k.deviceId o) →
      o.success = true ∧ used = some (s.db.storageUsedBytes tenant.id) ∧
        k.world.persistence.repeats = false) :
    PoolInv tenant (s.persist i k o) := by
  have hrun := hinv.runs i k hk
  rw [RunInv, hphase] at hrun
  obtain ⟨hstopped, hnorows, hfits⟩ := hrun
  obtain ⟨n, hrows, htenants, howned, honce⟩ :=
    persisted_rows k.world k.deviceId o s.db
  have hinserted : (s.persist i k o).inserted =
      s.inserted ++ List.replicate n (i, backupRow k.world k.deviceId o) := by
    dsimp only [Pool.persist]
    rw [hrows, List.drop_left, List.map_replicate]
  have hmem : ∀ j row, (j, row) ∈ (s.persist i k o).inserted →
      (j, row) ∈ s.inserted ∨ j = i ∧ row = backupRow k.world k.deviceId o := by
    intro j row hr
    rw [hinserted] at hr
    rcases List.mem_append.mp hr with hr | hr
    · exact .inl hr
    · exact .inr (Prod.mk.inj (List.eq_of_mem_replicate hr))
  have hwithin : ((s.persist i k o).db.storageUsedBytes tenant.id : Int) ≤
      Quota.storageLimitBytes tenant.plan := by
    have hsum : (s.persist i k o).db.storageUsedBytes tenant.id = _ :=
      storageUsed_persisted hrows howned
    rw [hsum]
    have hbefore := hinv.within
    rcases Nat.eq_zero_or_pos
        (s.db.countedBytes tenant.id (backupRow k.world k.deviceId o)) with hzero | hpos
    · rw [hzero, Nat.mul_zero]
      exact hbefore
    · obtain ⟨hsuccess, hused, hrepeats⟩ := hkept hpos
      have hn := honce hrepeats
      have hdevice : s.db.ownedBy tenant.id k.deviceId = true := by
        by_contra hother
        rw [countedBytes_backupRow, if_neg hother] at hpos
        exact absurd hpos (Nat.lt_irrefl 0)
      have hbytes : s.db.countedBytes tenant.id (backupRow k.world k.deviceId o) =
          o.fileSize.getD 0 := by
        rw [countedBytes_backupRow, if_pos hdevice]
      have hroom := hfits hsuccess hdevice _ hused
      rw [hbytes]
      rcases Nat.le_one_iff_eq_zero_or_eq_one.mp hn with rfl | rfl
      · simpa using hbefore
      · simpa using hroom
  refine hinv.move hk rfl htenants howned hwithin (fun _ _ _ h => h) ?_ ?_
  · intro j row hji hr
    rcases hmem j row hr with hr | ⟨hj, _⟩
    · exact hr
    · exact absurd hj hji
  · intro hrefused
    obtain ⟨hsize, hnone⟩ := hstopped hrefused
    refine ⟨hnone, fun row hr => ?_⟩
    rcases hmem i row hr with hr | ⟨_, rfl⟩
    · exact absurd hr (hnorows row)
    · exact hsize

theorem PoolInv.advance (hinv : PoolInv tenant s) (hcounted : tenant.accessUnlimited = false)
    (hlimit : 0 < Quota.storageLimitBytes tenant.plan) (hk : s.workers[i]? = some k)
    (hkept : PhaseKept tenant.id s k k.phase) (h : s.advance i k = some s') :
    PoolInv tenant s' := by
  have hrun := hinv.runs i k hk
  unfold Pool.advance at h
  unfold RunInv at hrun
  cases hphase : k.phase with
  | collecting =>
    rw [hphase] at h hrun
    obtain ⟨hrefused, hnone, hnorows⟩ := hrun
    cases hmeasured : measured k.world (k.world.target k.device k.manageVpn) with
    | error e =>
      simp only [hmeasured] at h
      obtain rfl := Option.some.inj h
      exact hinv.put hk fun h => absurd (hrefused.symm.trans h) Bool.false_ne_true
    | ok o =>
      simp only [hmeasured] at h
      obtain rfl := Option.some.inj h
      refine hinv.move hk rfl rfl (fun _ _ => rfl) hinv.within ?_ (fun _ _ _ hr => hr)
        ⟨hrefused, ?_, hnorows⟩
      · intro j path hji hp
        exact (disk_wrote hp).resolve_right fun he => hji he.1
      · intro path hp
        exact ((disk_wrote hp).resolve_left (hnone path)).2
  | measured o =>
    rw [hphase] at h hrun hkept
    obtain ⟨hrefused, hfiles, hnorows⟩ := hrun
    dsimp only at h
    split at h
    next hneeds =>
      split at h
      next =>
        obtain rfl := Option.some.inj h
        exact hinv.put hk fun h => absurd (hrefused.symm.trans h) Bool.false_ne_true
      next =>
        obtain rfl := Option.some.inj h
        exact hinv.check hcounted hlimit hk hphase hneeds (hkept hneeds)
    next =>
      obtain rfl := Option.some.inj h
      refine hinv.put hk ⟨?_, hnorows, fun _ _ n hn => ?_⟩
      · exact fun h => absurd (hrefused.symm.trans h) Bool.false_ne_true
      · cases hn
  | checked o used =>
    rw [hphase] at h hkept
    obtain rfl := Option.some.inj h
    exact hinv.persist hk hphase hkept
  | ended =>
    rw [hphase] at h
    cases h

/-! ## Every run -/

theorem PoolInv.holds (hinv : PoolInv tenant s) : QuotaHolds tenant s := by
  have hclean : ∀ i k, s.workers[i]? = some k → k.refused = true →
      (∀ path, s.disk path ≠ some i) ∧
        ∀ row, (i, row) ∈ s.inserted → row.fileSizeBytes = none := by
    intro i k hk hrefused
    have hrun := hinv.runs i k hk
    unfold RunInv at hrun
    cases hphase : k.phase with
    | collecting =>
      rw [hphase] at hrun
      exact absurd (hrun.1.symm.trans hrefused) Bool.false_ne_true
    | measured o =>
      rw [hphase] at hrun
      exact absurd (hrun.1.symm.trans hrefused) Bool.false_ne_true
    | checked o used =>
      rw [hphase] at hrun
      exact ⟨(hrun.1 hrefused).2, fun row hr => absurd hr (hrun.2.1 row)⟩
    | ended =>
      rw [hphase] at hrun
      exact hrun hrefused
  exact ⟨hinv.within, fun i k hk h => (hclean i k hk h).1, fun i k hk h => (hclean i k hk h).2⟩

/-- From a database within the limit, any runs keep the quota of the tenant as long as each sized
row is the one that its check allowed. -/
theorem quotaHolds_of_checkKept (tenant : Quota.Tenant) (db : Database) (es : List PoolEvent)
    (s : Pool) (hknown : db.tenants.find tenant.id = some tenant)
    (hcounted : tenant.accessUnlimited = false)
    (hlimit : 0 < Quota.storageLimitBytes tenant.plan)
    (hwithin : (db.storageUsedBytes tenant.id : Int) ≤ Quota.storageLimitBytes tenant.plan)
    (hkept : Along poolStep (CheckKept tenant.id) { db := db } es)
    (hrun : exec poolStep { db := db } es = some s) : QuotaHolds tenant s := by
  have hstart : PoolInv tenant { db := db } := by
    constructor
    · exact hknown
    · exact hwithin
    · intro i k hk
      cases hk
    · intro i _
      exact ⟨fun path => Option.some_ne_none _ |>.symm, fun row => List.not_mem_nil⟩
  have hstep : ∀ s e s', PoolInv tenant s → CheckKept tenant.id s e → poolStep s e = some s' →
      PoolInv tenant s' := by
    intro s e s' hinv hok hs
    cases e with
    | start world deviceId manageVpn removes => exact hinv.start hs
    | advance i =>
      obtain ⟨k, hk, hadvance⟩ := Option.bind_eq_some_iff.mp hs
      exact hinv.advance hcounted hlimit hk (hok k hk) hadvance
  exact (exec_invariant hstep hstart hkept hrun).holds

end

/-! ## Examples -/

/-- One gigabyte of storage. -/
def smallTenant : Quota.Tenant where
  id := 1
  plan := some { storageQuotaGb := some 1 }

def smallSite : Database := { oneRouter with tenants := { rows := [smallTenant] } }

/-- A run that collects a file of so many bytes. -/
def sizedRun (bytes : Nat) : RunWorld :=
  { smoothRun with file := fun _ => .ok (some (bytes, "5f2a")) }

/-- The file of this run is no valid configuration. -/
def invalidRun (bytes : Nat) : RunWorld :=
  { sizedRun bytes with
    validateBackupIntegrity := fun _ => .ok { ok := false, reason := "arquivo truncado" } }

/-- One run after the other; the second file does not fit. -/
def twoRuns : List PoolEvent :=
  [.start (sizedRun 600000000) 1 true true, .advance 0, .advance 0, .advance 0,
    .start (sizedRun 600000000) 1 true true, .advance 1, .advance 1, .advance 1]

theorem twoRuns_hold : QuotaHolds smallTenant
    ((exec poolStep { db := smallSite } twoRuns).get (by decide)) :=
  quotaHolds_of_checkKept smallTenant smallSite twoRuns _ rfl rfl (by decide) (by decide)
    (along_of_check (by decide)) (Option.some_get _).symm

/-- Two runs that check side by side exceed the limit together, a run whose file is not valid
stores its size without a check, and a file that does not fit and cannot be removed stays. -/
theorem quota_exceeded :
    smallSite.storageUsedBytes 1 = 0 ∧ Quota.storageLimitBytes smallTenant.plan = 1073741824 ∧
    (exec poolStep { db := smallSite }
      [.start (sizedRun 600000000) 1 true true, .start (sizedRun 600000000) 1 true true,
        .advance 0, .advance 1, .advance 0, .advance 1, .advance 0, .advance 1]).any
      (fun s => s.db.storageUsedBytes 1 = 1200000000) = true ∧
    (exec poolStep { db := smallSite }
      [.start (invalidRun 2000000000) 1 true true, .advance 0, .advance 0, .advance 0]).any
      (fun s => s.db.storageUsedBytes 1 = 2000000000) = true ∧
    (exec poolStep { db := smallSite }
      [.start (sizedRun 2000000000) 1 true false, .advance 0, .advance 0, .advance 0]).any
      (fun s => s.disk "core.rsc" = some 0 ∧ s.workers[0]?.any Worker.refused) = true := by
  decide

end BackupCenter.Executor
