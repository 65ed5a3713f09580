import BackupCenter.JumpHost.Confined

/-!
# Devices behind a jump host

When the diagnosis is confined, and when both operations of a device with a jump host are. A
configuration that is missing or incomplete is for the diagnosis a device without jump host; its
telnet fallback knows no jump host at all.
-/
namespace BackupCenter.JumpHost

open BackupCenter.Lib
open BackupCenter.Tenants (DeviceGroup)

namespace Access

variable {w : Access}

/-! ## The diagnosis -/

section Always

theorem collects_always {attempt : Attempt} (h : w.routeOf attempt ≠ .direct) :
    (w.collects attempt).Always Contact.NotDirect := ⟨h, fun _ _ => trivial⟩

theorem jumpHost_always : (w.collects .jumpHost).Always Contact.NotDirect := collects_always nofun

theorem channel_always : (w.collects .channel).Always Contact.NotDirect := collects_always nofun

/-- A step after another one that decides. -/
theorem ite_always {c : Bool} {ρ : Type} {p q : Operation ρ} (hp : p.Always Contact.NotDirect)
    (hq : q.Always Contact.NotDirect) :
    (if c = true then p else q).Always Contact.NotDirect :=
  Prog.respects_ite (fun _ => hp) fun _ => hq

variable (hjump : w.jump.isSome = true)
include hjump

theorem reachDevice_always : w.reachDevice.Always Contact.NotDirect := by
  refine Prog.respects_ite (fun _ => ?_) fun hnone => absurd hjump hnone
  refine jumpHost_always.bind fun reached => ite_always ?_ trivial
  exact jumpHost_always.bind fun login => ite_always channel_always trivial

theorem testSsh_always : w.testSsh.Always Contact.NotDirect := by
  refine Prog.respects_ite (fun _ => ?_) fun hnone => absurd hjump hnone
  refine jumpHost_always.bind fun login => ite_always ?_ trivial
  refine channel_always.bind fun opened => ite_always (collects_always ?_) trivial
  simp [routeOf, hjump]

theorem tryDrivers_always {drivers : List String} (hsock : ∀ d ∈ drivers, w.usesSock d = true) :
    (w.tryDrivers drivers).Always Contact.NotDirect := by
  induction drivers with
  | nil => trivial
  | cons d rest ih =>
    obtain ⟨hd, hrest⟩ := List.forall_mem_cons.mp hsock
    have hroute : w.routeOf (.testHandler d) ≠ .direct := by simp [routeOf, hjump, hd]
    refine Prog.Always.bind (ite_always channel_always trivial) fun opened => ?_
    refine ite_always ?_ (ih hrest)
    exact (collects_always hroute).bind fun ok => ite_always trivial (ih hrest)

theorem testNetmiko_always (hsock : ∀ d ∈ w.candidateDeviceTypes, w.usesSock d = true) :
    w.testNetmiko.Always Contact.NotDirect := by
  refine Prog.Always.bind (ite_always jumpHost_always trivial) fun login => ite_always ?_ trivial
  exact (tryDrivers_always hjump hsock).bind fun ok => trivial

theorem diagnoseRun_always (hssh : w.useTelnet = false)
    (hsock : ∀ d ∈ w.candidateDeviceTypes, w.usesSock d = true) :
    w.diagnoseRun.Always Contact.NotDirect := by
  refine (reachDevice_always hjump).bind fun reached => ite_always ?_ trivial
  refine (testNetmiko_always hjump hsock).bind fun tested => ?_
  match tested with
  | none => trivial
  | some true => trivial
  | some false =>
    show (if w.useTelnet = true then _ else _ : Operation Bool).Always _
    rw [hssh]
    exact testSsh_always hjump

/-- Without the jump host the diagnosis ends at its first step. -/
theorem diagnoseRun_fails :
    w.diagnoseRun.Respects (fun _ => True) JumpRaises (· = false) := by
  refine Prog.respects_bind_iff.mpr
    (Prog.respects_ite (fun _ => ⟨trivial, fun a ha => ?_⟩) fun hnone => absurd hjump hnone)
  obtain ⟨detail, rfl⟩ := ha (.inl rfl)
  rfl

end Always

section Reached

variable {ok : Contact → Prop}

theorem reachDevice_reaches {post : Bool → Prop}
    (h : w.reachDevice.Respects ok (fun _ _ => True) post) : post true := by
  change (if w.jump.isSome = true then _ else _ : Operation Bool).Respects _ _ _ at h
  split at h
  · exact ((h.2 (.done 0) trivial).2 (.done 0) trivial).2 (.done 0) trivial
  · exact h.2 (.done 0) trivial

/-- The loop after a channel for its first driver has opened. -/
theorem tryDrivers_cons {post : Bool → Prop} {d : String} {rest : List String}
    (h : (w.tryDrivers (d :: rest)).Respects ok (fun _ _ => True) post) :
    ok ⟨.testHandler d, w.routeOf (.testHandler d)⟩ ∧
      (w.tryDrivers rest).Respects ok (fun _ _ => True) post := by
  have hopened := Prog.respects_bind_iff.mp h
  have htest : (w.collects (.testHandler d) >>= fun tested =>
      if tested = true then pure true else w.tryDrivers rest).Respects ok (fun _ _ => True)
        post := by
    split at hopened
    · exact hopened.2 (.done 0) trivial
    · exact hopened
  exact ⟨htest.1, htest.2 (.raised "") trivial⟩

theorem tryDrivers_reaches {post : Bool → Prop} {drivers : List String}
    (h : (w.tryDrivers drivers).Respects ok (fun _ _ => True) post) : post false := by
  induction drivers with
  | nil => exact h
  | cons d rest ih => exact ih (tryDrivers_cons h).2

theorem usesSock_of_always {drivers : List String} {post : Bool → Prop}
    (h : (w.tryDrivers drivers).Respects Contact.NotDirect (fun _ _ => True) post) :
    ∀ d ∈ drivers, w.usesSock d = true := by
  induction drivers with
  | nil => exact fun d hd => absurd hd List.not_mem_nil
  | cons d rest ih =>
    obtain ⟨hd, hrest⟩ := tryDrivers_cons h
    refine List.forall_mem_cons.mpr ⟨?_, ih hrest⟩
    by_contra hnot
    exact hd (if_neg (by simp [hnot]))

/-- The drivers are tried. -/
theorem testNetmiko_reaches {post : Option Bool → Prop}
    (h : w.testNetmiko.Respects ok (fun _ _ => True) post) :
    (w.tryDrivers w.candidateDeviceTypes).Respects ok (fun _ _ => True) fun b => post (some b) := by
  have hlogin := Prog.respects_bind_iff.mp h
  have htried : (w.tryDrivers w.candidateDeviceTypes >>= fun tested =>
      pure (some tested)).Respects ok (fun _ _ => True) post := by
    split at hlogin
    · exact hlogin.2 (.done 0) trivial
    · exact hlogin
  exact Prog.respects_bind_iff.mp htried

end Reached

theorem confined_diagnoseRun_iff :
    Confined w.diagnoseRun ↔ w.jump.isSome = true ∧ w.useTelnet = false ∧
      ∀ d ∈ w.candidateDeviceTypes, w.usesSock d = true := by
  rw [confined_iff]
  constructor
  · rintro ⟨h, -⟩
    have hjump : w.jump.isSome = true := by
      by_contra hnone
      have hreach := h.of_bind
      change (if w.jump.isSome = true then _ else _ : Operation Bool).Always _ at hreach
      rw [if_neg hnone] at hreach
      exact absurd rfl hreach.1
    have htested := testNetmiko_reaches
      (Prog.respects_bind_iff.mp (reachDevice_reaches (Prog.respects_bind_iff.mp h)))
    refine ⟨hjump, ?_, ?_⟩
    · have hfallback := tryDrivers_reaches htested
      change (if w.useTelnet = true then _ else _ : Operation Bool).Always _ at hfallback
      by_contra htelnet
      rw [if_pos (Bool.eq_true_of_not_eq_false htelnet)] at hfallback
      exact absurd rfl hfallback.1
    · exact usesSock_of_always htested
  · rintro ⟨hjump, hssh, hsock⟩
    exact ⟨diagnoseRun_always hjump hssh hsock, diagnoseRun_fails hjump⟩

end Access

/-! ## Jump devices -/

namespace Site

/-- A device behind a jump host that is not the jump host itself. -/
structure IsJumpDevice (s : Site) : Prop where
  mode : s.connectionType = some .jumpHost
  address : ∀ group ∈ s.group, ∀ host ∈ group.jumpHost,
    s.hostKey s.device.ipAddress ≠ s.hostKey host

/-- The diagnosis needs a complete configuration, SSH, and drivers that use the socket. -/
def DiagnosesThrough (s : Site) : Prop :=
  ∀ _password ∈ s.env.decryptPassword s.device.passwordEncrypted,
    ∀ jump ∈ s.buildJumpHostConfig, jump.isSome = true ∧ s.useTelnet = false ∧
      ∀ d ∈ s.candidateDeviceTypes, s.usesSock d = true

/-- What the run needs, unless it is refused before its first connection. -/
def RunsThrough (s : Site) : Prop :=
  ∀ script ∈ backupScripts.lookup s.scriptName,
    ∀ password ∈ s.env.decryptPassword s.device.passwordEncrypted,
      ∀ jump ∈ s.executorJumpHost, Access.RunsThrough { s with jump := jump } password script

variable {s : Site}

theorem host_of_buildJumpHostConfig {cfg : JumpConfig}
    (h : s.buildJumpHostConfig = some (some cfg)) :
    ∃ group ∈ s.group, ∃ host ∈ group.jumpHost, cfg.host = strip host := by
  unfold buildJumpHostConfig at h
  split at h
  · cases h
  next group hgroup =>
  split at h
  next host username hhost huser =>
    have hmem : host ∈ group.jumpHost := (Option.filter_eq_some_iff.mp hhost).1
    split at h
    · obtain ⟨password, -, h⟩ := Option.bind_eq_some_iff.mp h
      obtain ⟨key, -, h⟩ := Option.bind_eq_some_iff.mp h
      split at h
      · cases h
      · have hcfg := Option.some.inj (Option.some.inj h)
        exact ⟨group, hgroup, host, hmem, by rw [← hcfg]; rfl⟩
    · cases h
  · cases h

theorem shouldBypassJumpHost_false (h : s.IsJumpDevice) {jump : Option JumpConfig}
    (hjump : s.buildJumpHostConfig = some jump) : s.shouldBypassJumpHost jump = false := by
  cases jump with
  | none => rfl
  | some cfg =>
    obtain ⟨group, hgroup, host, hhost, hcfg⟩ := host_of_buildJumpHostConfig hjump
    have hne := h.address group hgroup host hhost
    have hkey : s.hostKey cfg.host = s.hostKey host := by
      rw [hcfg, hostKey, strip_strip]
      rfl
    simp [shouldBypassJumpHost, hkey, hne]

theorem confined_ret : Confined (Prog.ret false) :=
  fun _ => ⟨fun _ hc => absurd hc List.not_mem_nil, fun _ => rfl⟩

theorem confined_diagnose_iff (h : s.IsJumpDevice) :
    Confined s.diagnoseAccessChain ↔ s.DiagnosesThrough := by
  unfold diagnoseAccessChain DiagnosesThrough
  cases s.env.decryptPassword s.device.passwordEncrypted with
  | none => exact ⟨fun _ => nofun, fun _ => confined_ret⟩
  | some password =>
    cases hbuild : s.buildJumpHostConfig with
    | none => exact ⟨fun _ => nofun, fun _ => confined_ret⟩
    | some jump =>
      simp only [shouldBypassJumpHost_false h hbuild, Option.mem_def, Option.some.injEq,
        forall_eq']
      exact Access.confined_diagnoseRun_iff

theorem confined_executeBackup_iff : Confined s.executeBackup ↔ s.RunsThrough := by
  unfold executeBackup RunsThrough
  cases backupScripts.lookup s.scriptName with
  | none => exact ⟨fun _ => nofun, fun _ => confined_ret⟩
  | some script =>
    cases s.env.decryptPassword s.device.passwordEncrypted with
    | none => exact ⟨fun _ => nofun, fun _ => confined_ret⟩
    | some password =>
      cases s.executorJumpHost with
      | none => exact ⟨fun _ => nofun, fun _ => confined_ret⟩
      | some jump =>
        simp only [Option.mem_def, Option.some.injEq, forall_eq']
        exact Access.confined_run_iff

/-- A jump device is contacted only through its jump host, exactly under these conditions. -/
theorem confined_iff_through (h : s.IsJumpDevice) :
    Confined s.diagnoseAccessChain ∧ Confined s.executeBackup ↔
      s.DiagnosesThrough ∧ s.RunsThrough := by
  rw [confined_diagnose_iff h, confined_executeBackup_iff]

/-! ## Devices behind a jump host -/

instance (w : Access) (script : Script) : Decidable (w.StaysThrough script) :=
  inferInstanceAs (Decidable (_ ∧ _))

instance (w : Access) (password : String) (script : Script) :
    Decidable (w.RunsThrough password script) := inferInstanceAs (Decidable (_ ∧ _))

instance : Decidable s.DiagnosesThrough :=
  inferInstanceAs (Decidable (∀ _ ∈ s.env.decryptPassword _, ∀ jump ∈ s.buildJumpHostConfig, _))

instance : Decidable s.RunsThrough :=
  inferInstanceAs (Decidable (∀ script ∈ backupScripts.lookup s.scriptName,
    ∀ password ∈ s.env.decryptPassword _, ∀ jump ∈ s.executorJumpHost, _))

def jumpGroup : DeviceGroup where
  id := 1
  tenantId := 1
  name := "Filial"
  slug := "filial"
  connectionType := some "jump_host"
  jumpHost := some "10.0.0.1"
  jumpUsername := some "jump"
  jumpPasswordEncrypted := some "secret"

/-- A router of Cisco, with SSH. -/
def ciscoRouter : Site where
  env := .ascii
  device :=
    { id := 1, tenantId := 1, name := "core", ipAddress := "192.168.0.1", username := "admin"
      passwordEncrypted := "secret" }
  group := some jumpGroup
  scriptName := "cisco_router_netmiko.py"
  typeName := "Cisco"
  usesSock := fun driver => !"_telnet".toList.isSuffixOf driver.toList
  urlHost := fun _ => ""

theorem ciscoRouter_isJumpDevice : ciscoRouter.IsJumpDevice where
  mode := by decide +kernel
  address := by decide +kernel

theorem confined_ciscoRouter : Confined ciscoRouter.diagnoseAccessChain ∧
    Confined ciscoRouter.executeBackup :=
  (confined_iff_through ciscoRouter_isJumpDevice).mpr (by decide +kernel)

def telnetRouter : Site :=
  { ciscoRouter with device := { ciscoRouter.device with useTelnet := some true } }

def mikrotikRouter : Site := { ciscoRouter with scriptName := "mikrotik_download_backups.py" }

/-- The group has no password and no key for its jump host. -/
def keylessRouter : Site :=
  { ciscoRouter with group := some { jumpGroup with jumpPasswordEncrypted := none } }

theorem not_confined : (telnetRouter.IsJumpDevice ∧ ¬ Confined telnetRouter.diagnoseAccessChain) ∧
    (keylessRouter.IsJumpDevice ∧ ¬ Confined keylessRouter.diagnoseAccessChain) ∧
    mikrotikRouter.IsJumpDevice ∧ ¬ Confined mikrotikRouter.executeBackup := by
  have htelnet : telnetRouter.IsJumpDevice := ⟨by decide +kernel, by decide +kernel⟩
  have hkeyless : keylessRouter.IsJumpDevice := ⟨by decide +kernel, by decide +kernel⟩
  have hmikrotik : mikrotikRouter.IsJumpDevice := ⟨by decide +kernel, by decide +kernel⟩
  refine ⟨⟨htelnet, ?_⟩, ⟨hkeyless, ?_⟩, hmikrotik, ?_⟩
  · rw [confined_diagnose_iff htelnet]
    decide +kernel
  · rw [confined_diagnose_iff hkeyless]
    decide +kernel
  · rw [confined_executeBackup_iff]
    decide +kernel

end Site

end BackupCenter.JumpHost
