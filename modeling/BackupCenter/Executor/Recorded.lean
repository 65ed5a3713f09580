import BackupCenter.Executor.Run

/-!
# One row for one run

Which runs leave exactly one row that agrees with their answer and with the device: those in which
nothing is raised before the result is persisted, and whose result is not persisted twice.
-/
namespace BackupCenter.Executor

open BackupCenter.Lib
open BackupCenter.Quota (BackupStatus)
open BackupCenter.Tenants (Uuid)

/-- One new row for the device; it is a success exactly if the answer is one, and the device
says the same. -/
def OneRow (deviceId : Uuid) (db : Database)
    (run : Except Exn (Bool × String) × Database) : Prop :=
  ∃ row success message device, run.1 = .ok (success, message) ∧
    run.2.backups = db.backups ++ [row] ∧ row.deviceId = deviceId ∧
    row.status = (if success then .success else .failed) ∧
    run.2.devices.find deviceId = some device ∧
    device.lastBackupStatus = some (if success then "success" else "failure")

/-- The database commits the result once. -/
def Persistence.Once {lower : String → String} : Persistence lower → Prop
  | .commits => True
  | .drops _ _ committed => committed = false
  | .refuses _ _ => False

variable (w : RunWorld)

/-- Nothing is raised before the result is persisted, as far as the run gets: by the first
session, by the collection, by the look at the file, by its validation, by the quota session. -/
def RunContained (t : RunTarget) : Prop :=
  NeverRaises w.opening ∧ CollectContained w.toScriptWorld t ∧
    ∀ c, executeBackup w.toScriptWorld t = .ok c →
      NeverRaises (fileFacts w c.filePath) ∧
      (c.success = true → NeverRaises (w.validateBackupIntegrity c.filePath)) ∧
      ∀ size digest integrity, c.success = true → 0 < size →
        fileFacts w c.filePath = .ok (some (size, digest)) →
        w.validateBackupIntegrity c.filePath = .ok integrity → integrity.ok = true →
        NeverRaises w.quotaSession

variable {w} {t : RunTarget} {db : Database} {deviceId : Uuid} {device : Device} {o : Outcome}
  {manageVpn : Bool}

/-! ## What is raised before the result is persisted -/

theorem validated_needsQuota {integrity : Integrity} :
    (o.validated integrity).needsQuota = true ↔
      integrity.ok = true ∧ o.success = true ∧ 0 < o.fileSize.getD 0 := by
  unfold Outcome.validated Outcome.needsQuota
  by_cases hok : integrity.ok = true
  · simp [hok]
  · simp [hok]

theorem neverRaises_quotaChecked :
    NeverRaises (quotaChecked w deviceId db o) ↔
      (o.needsQuota = true → NeverRaises w.quotaSession) := by
  unfold quotaChecked
  by_cases hneeds : o.needsQuota = true
  · rw [if_pos hneeds, NeverRaises, onlyRaises_seq]
    simp only [hneeds, forall_const]
    exact and_iff_left fun _ => onlyRaises_ok
  · rw [if_neg hneeds]
    exact iff_of_true onlyRaises_ok fun h => absurd h hneeds

theorem inspected_ok {c : Collected} :
    inspected w c = .ok o ↔ ∃ facts, fileFacts w c.filePath = .ok facts ∧
      if c.success then ∃ integrity, w.validateBackupIntegrity c.filePath = .ok integrity ∧
        o = (c.outcome facts).validated integrity
      else o = c.outcome facts := by
  unfold inspected
  rw [bind_eq_ok]
  apply exists_congr
  intro facts
  apply and_congr_right
  intro _
  by_cases hsuccess : c.success = true
  · simp only [hsuccess, if_true, bind_eq_ok, pure_eq_ok]
    exact exists_congr fun _ => and_congr_right fun _ => eq_comm
  · simp only [hsuccess, Bool.false_eq_true, if_false, pure_eq_ok]
    exact eq_comm

theorem neverRaises_inspected {c : Collected} :
    NeverRaises (inspected w c) ↔ NeverRaises (fileFacts w c.filePath) ∧
      (c.success = true → NeverRaises (w.validateBackupIntegrity c.filePath)) := by
  unfold inspected NeverRaises
  rw [onlyRaises_bind]
  apply and_congr_right
  intro hfacts
  obtain ⟨facts, hok⟩ := neverRaises_iff.mp hfacts
  by_cases hsuccess : c.success = true
  · simp only [hsuccess, if_true, forall_const, onlyRaises_bind]
    constructor
    · exact fun h => (h facts hok).1
    · exact fun h _ _ => ⟨h, fun _ _ => onlyRaises_ok⟩
  · simp only [hsuccess, Bool.false_eq_true, if_false, false_imp_iff, iff_true]
    exact fun _ _ => onlyRaises_ok

/-- A run checks the quota for a validated file that is not empty. -/
theorem needsQuota_inspected {c : Collected} {Q : Prop} :
    (∀ o, inspected w c = .ok o → o.needsQuota = true → Q) ↔
      ∀ size digest integrity, c.success = true → 0 < size →
        fileFacts w c.filePath = .ok (some (size, digest)) →
        w.validateBackupIntegrity c.filePath = .ok integrity → integrity.ok = true → Q := by
  constructor
  · intro h size digest integrity hsuccess hsize hfacts hvalid hok
    apply h ((c.outcome (some (size, digest))).validated integrity)
    · rw [inspected_ok]
      refine ⟨_, hfacts, ?_⟩
      rw [if_pos hsuccess]
      exact ⟨integrity, hvalid, rfl⟩
    · exact validated_needsQuota.mpr ⟨hok, hsuccess, hsize⟩
  · intro h o ho hneeds
    obtain ⟨facts, hfacts, ho⟩ := inspected_ok.mp ho
    by_cases hsuccess : c.success = true
    · rw [if_pos hsuccess] at ho
      obtain ⟨integrity, hvalid, rfl⟩ := ho
      obtain ⟨hok, _, hsize⟩ := validated_needsQuota.mp hneeds
      cases facts with
      | none => simp [Collected.outcome] at hsize
      | some f => exact h f.1 f.2 integrity hsuccess hsize hfacts hvalid hok
    · rw [if_neg hsuccess] at ho
      simp [ho, Outcome.needsQuota, Collected.outcome, hsuccess] at hneeds

/-- Exactly what keeps every exception before the result is persisted. -/
theorem neverRaises_prepared (db : Database) (deviceId : Uuid) :
    NeverRaises w.opening ∧ NeverRaises (prepared w deviceId device manageVpn db) ↔
      RunContained w (w.target device manageVpn) := by
  unfold RunContained
  apply and_congr_right
  intro _
  generalize hexec : executeBackup w.toScriptWorld (w.target device manageVpn) = x
  have hmeasured : measured w (w.target device manageVpn) = x >>= inspected w := by
    rw [measured, hexec]
  unfold prepared
  rw [NeverRaises, onlyRaises_bind, hmeasured, onlyRaises_bind, ← NeverRaises, ← hexec,
    neverRaises_executeBackup, hexec, and_assoc]
  apply and_congr_right
  intro _
  constructor
  · rintro ⟨hinspected, hquota⟩ c hc
    obtain ⟨hfacts, hvalid⟩ := neverRaises_inspected.mp (hinspected c hc)
    refine ⟨hfacts, hvalid, needsQuota_inspected.mp fun o ho => ?_⟩
    exact neverRaises_quotaChecked.mp (hquota o (bind_eq_ok.mpr ⟨c, hc, ho⟩))
  · intro h
    constructor
    · intro c hc
      obtain ⟨hfacts, hvalid, _⟩ := h c hc
      exact neverRaises_inspected.mpr ⟨hfacts, hvalid⟩
    · intro o ho
      obtain ⟨c, hc, ho⟩ := bind_eq_ok.mp ho
      exact neverRaises_quotaChecked.mpr (needsQuota_inspected.mpr (h c hc).2.2 o ho)

/-! ## What is persisted -/

theorem record_find (h : db.devices.find deviceId = some device) :
    (db.record w deviceId o).devices.find deviceId = some ((w.ran o).apply device) := by
  have hfind : (db.devices.modify (fun d => key d = deviceId) (w.ran o)).find deviceId = _ :=
    Table.find_modify_self
  rw [h] at hfind
  exact hfind

/-- A result that is persisted once is one row that agrees with everything. -/
theorem oneRow_record (h : db.devices.find deviceId = some device) :
    OneRow deviceId db (.ok (o.success, w.finalMessage o), db.record w deviceId o) :=
  ⟨backupRow w deviceId o, o.success, _, _, rfl, rfl, rfl, rfl, record_find h, rfl⟩

/-- The result of a run is one row exactly if the database commits it once. -/
theorem oneRow_persisted (h : db.devices.find deviceId = some device) :
    OneRow deviceId db (persisted w deviceId o db) ↔ w.persistence.Once := by
  unfold persisted
  generalize w.persistence = persistence
  cases persistence with
  | commits =>
    rw [persistBackupResult, h]
    exact iff_of_true (oneRow_record h) trivial
  | refuses e unrecognised =>
    refine iff_of_false ?_ id
    rintro ⟨row, success, message, d, _, hrows, _⟩
    exact absurd hrows (by simp)
  | drops e recognised committed =>
    cases committed with
    | false =>
      dsimp only
      rw [if_neg Bool.false_ne_true, persistBackupResult, h]
      exact iff_of_true (oneRow_record h) rfl
    | true =>
      dsimp only
      rw [if_pos rfl, persistBackupResult, record_find h]
      refine iff_of_false ?_ (by simp [Persistence.Once])
      rintro ⟨row, success, message, d, _, hrows, _⟩
      have hlength := congrArg List.length hrows
      simp [Database.record] at hlength

/-- A run of an existing device leaves one row that agrees with its answer exactly if nothing is
raised before the result is persisted and the database commits it once. -/
theorem oneRow_iff (w : RunWorld) (db : Database) (deviceId : Uuid) (manageVpn : Bool)
    (device : Device) (h : db.devices.find deviceId = some device) :
    OneRow deviceId db (runBackupForDeviceId w deviceId manageVpn db) ↔
      RunContained w (w.target device manageVpn) ∧ w.persistence.Once := by
  have hraised : ∀ e, ¬ OneRow deviceId db (answerException e, db) := by
    rintro e ⟨row, success, message, d, _, hrows, _⟩
    exact absurd hrows (by simp)
  rw [← neverRaises_prepared db deviceId]
  unfold runBackupForDeviceId
  cases hopening : w.opening with
  | error e =>
    refine iff_of_false (hraised e) ?_
    simp [NeverRaises]
  | ok u =>
    rw [h]
    dsimp only
    cases hprepared : prepared w deviceId device manageVpn db with
    | error e =>
      refine iff_of_false (hraised e) ?_
      simp [NeverRaises]
    | ok o =>
      dsimp only
      rw [oneRow_persisted h]
      simp [NeverRaises]

/-! ## Examples -/

def router : Device where
  id := 1
  tenantId := 1
  groupId := some 1
  name := "core"
  ipAddress := "10.0.0.1"
  username := "backup"
  passwordEncrypted := "x"

def oneRouter : Database where
  devices := { rows := [router] }
  tenants := { rows := [{ id := 1, plan := some {} }] }

/-- A group behind an L2TP tunnel. -/
def vpnSite : Tenants.DeviceGroup where
  id := 1
  tenantId := 1
  name := "Filial"
  slug := "filial"
  connectionType := some "vpn"
  usesVpn := some true
  vpnServer := some "vpn.acme.net"
  vpnUsername := some "acme"
  vpnPasswordEncrypted := some "y"

/-- A run in which everything works. -/
def smoothRun : RunWorld where
  env := Tenants.Env.ascii
  decrypt := .ok
  realizarBackup := .ok { success := some true, explicitPath := some "core.rsc" }
  deviceType := some { name := "MikroTik", scriptName := some "mikrotik.py" }
  group := some vpnSite
  file := fun _ => .ok (some (4096, "5f2a"))
  validateBackupIntegrity := fun _ => .ok { ok := true }

/-- `server closed the connection unexpectedly` -/
def closedByServer : DbError where
  text := "server closed the connection unexpectedly"
  connectionInvalidated := true

def droppedRun (committed : Bool) : RunWorld :=
  { smoothRun with persistence := .drops closedByServer (by decide) committed }

/-- `nmcli` hangs while the tunnel is brought up. -/
def hangingRun : RunWorld :=
  { smoothRun with
    attempts := fun _ =>
      { nmcli := .error { name := "TimeoutExpired", text := "nmcli timed out" } } }

theorem droppedRun_contained :
    RunContained (droppedRun false) ((droppedRun false).target router true) :=
  (neverRaises_prepared oneRouter 1).mp ⟨onlyRaises_ok, neverRaises_iff.mpr ⟨_, rfl⟩⟩

/-- The connection drops before the commit, and the second session makes the one row. -/
theorem droppedRun_oneRow :
    OneRow 1 oneRouter (runBackupForDeviceId (droppedRun false) 1 true oneRouter) :=
  (oneRow_iff (droppedRun false) oneRouter 1 true router rfl).mpr ⟨droppedRun_contained, rfl⟩

/-- A hanging `nmcli` leaves no row, and a connection that drops after the commit leaves two. -/
theorem none_or_two_rows :
    ((runBackupForDeviceId hangingRun 1 true oneRouter).2.backups.length = 0 ∧
      ¬ OneRow 1 oneRouter (runBackupForDeviceId hangingRun 1 true oneRouter)) ∧
    (runBackupForDeviceId (droppedRun true) 1 true oneRouter).2.backups.length = 2 ∧
      ¬ OneRow 1 oneRouter (runBackupForDeviceId (droppedRun true) 1 true oneRouter) := by
  have hcount : ∀ run, OneRow 1 oneRouter run → run.2.backups.length = 1 := by
    rintro run ⟨row, success, message, d, _, hrows, _⟩
    rw [hrows]
    rfl
  have hnone : (runBackupForDeviceId hangingRun 1 true oneRouter).2.backups.length = 0 := by
    decide
  have htwo : (runBackupForDeviceId (droppedRun true) 1 true oneRouter).2.backups.length = 2 := by
    decide
  refine ⟨⟨hnone, fun h => ?_⟩, htwo, fun h => ?_⟩
  · rw [hcount _ h] at hnone
    cases hnone
  · rw [hcount _ h] at htwo
    cases htwo

end BackupCenter.Executor
