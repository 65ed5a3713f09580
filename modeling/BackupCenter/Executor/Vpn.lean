import BackupCenter.Lib.Guarded
import BackupCenter.Tenants.Schema

/-!
# The VPN session around a backup

`vpn_session` takes two file locks, connects the tunnel of the group with some retries, and on
every way out takes the tunnel down and releases the locks. Its caller expects a `VpnError`;
decryption, a missing or hanging `nmcli`, and the locks can raise something else.
-/
namespace BackupCenter.Executor

open BackupCenter.Lib
open BackupCenter.Tenants (DeviceGroup nonempty)

/-! ## Exceptions -/

/-- The classes that the handlers tell apart; `baseException` is one outside `Exception`. -/
inductive ExnClass where
  | vpnError
  | exception
  | baseException
  deriving DecidableEq

structure Exn where
  cls : ExnClass := .exception
  /-- `__class__.__name__` -/
  name : String := "Exception"
  /-- `str(e)` -/
  text : String
  deriving DecidableEq

def Exn.isVpnError (e : Exn) : Bool := e.cls = .vpnError

/-- `except Exception` -/
def Exn.isException (e : Exn) : Bool := e.cls ≠ .baseException

def vpnError (text : String) : Exn := { cls := .vpnError, name := "VpnError", text := text }

/-! ## Connecting -/

/-- `_should_retry_vpn_connect_error` -/
def shouldRetryVpnConnectError (lower : String → String) (message : String) : Bool :=
  let normalized := lower (strip message)
  normalized ≠ "" &&
    !containsAny normalized ["no valid secrets", "faltam dados", "missing vpn",
      "invalid password", "authentication failed"] &&
    containsAny normalized ["could not find source connection", "connection activation failed",
      "vpn service stopped unexpectedly", "unknown reason", "timeout expired", "nm_device=eth0",
      "device=eth0"]

/-- One attempt to connect, as it finds the worker: why NetworkManager is not usable, if it is
not, and how the `nmcli` commands end. -/
structure VpnAttempt where
  backend : Option String := none
  nmcli : Except Exn Unit := .ok ()

/-- `decrypt_password(value) if value else ""` -/
def decryptIfSet (decrypt : String → Except Exn String) (value : Option String) :
    Except Exn String :=
  match nonempty value with
  | none => .ok ""
  | some encrypted => decrypt encrypted

/-- `_group_has_vpn_credentials` -/
def groupHasVpnCredentials (group : DeviceGroup) : Bool :=
  strip (group.vpnServer.getD "") ≠ "" && strip (group.vpnUsername.getD "") ≠ "" &&
    (nonempty group.vpnPasswordEncrypted).isSome

/-- The group has a tunnel to connect. -/
def hasTunnel (group : DeviceGroup) : Bool :=
  group.usesVpn = some true || groupHasVpnCredentials group

/-- `connect_group_vpn` -/
def connectGroupVpn (decrypt : String → Except Exn String) (group : DeviceGroup)
    (attempt : VpnAttempt) : Except Exn Unit :=
  match attempt.backend with
  | some reason => .error (vpnError reason)
  | none =>
    if hasTunnel group then do
      let vpnPass ← decryptIfSet decrypt group.vpnPasswordEncrypted
      let _ ← decryptIfSet decrypt group.vpnIpsecSecretEncrypted
      if strip (group.vpnServer.getD "") = "" ∨ strip (group.vpnUsername.getD "") = "" ∨
          vpnPass = "" then
        .error (vpnError ("Grupo '" ++ group.name ++
          "' está com VPN ativa, mas faltam dados (server/user/password)."))
      else attempt.nmcli
    else .ok ()

/-- What a VPN session meets in its worker. -/
structure VpnWorld where
  env : Tenants.Env
  decrypt : String → Except Exn String
  /-- `VPN_ISOLATED_WORKER` -/
  isolated : Bool := false
  /-- `CONNECT_RETRIES` -/
  connectRetries : Nat := 3
  acquireGroupLock : Except Exn Unit := .ok ()
  acquireLock : Except Exn Unit := .ok ()
  attempts : Nat → VpnAttempt := fun _ => {}
  /-- how the `nmcli` commands of `disconnect_group_vpn` end -/
  disconnect : Except Exn Unit := .ok ()
  releaseLock : Except Exn Unit := .ok ()
  releaseGroupLock : Except Exn Unit := .ok ()

variable (w : VpnWorld) (group : DeviceGroup)

def VpnWorld.connect (attempt : Nat) : Except Exn Unit :=
  connectGroupVpn w.decrypt group (w.attempts attempt)

/-- A failed attempt after which another is made, if there is one left. -/
def VpnWorld.retries (e : Exn) : Bool :=
  e.isVpnError && shouldRetryVpnConnectError w.env.lower e.text

/-- The loop over the attempts, from `attempt` on with so many left. -/
def connectWithRetries : Nat → Nat → Except Exn Unit
  | 0, _ => .ok ()
  | left + 1, attempt =>
    catching Exn.isVpnError (w.connect group attempt) fun e =>
      if left = 0 ∨ !shouldRetryVpnConnectError w.env.lower e.text then .error e
      else connectWithRetries left (attempt + 1)

/-- `disconnect_group_vpn` -/
def disconnectGroupVpn : Except Exn Unit := if hasTunnel group then w.disconnect else .ok ()

/-- The global lock, which an isolated worker does not need. -/
def VpnWorld.lockGlobal : Except Exn Unit := if w.isolated then .ok () else w.acquireLock

def VpnWorld.unlock : Except Exn Unit := do
  if w.isolated then .ok () else w.releaseLock
  w.releaseGroupLock

/-- `vpn_session` around `body`. The clean-up of a tunnel that is not connected swallows its own
errors. -/
def vpnSession {α : Type} (body : Except Exn α) : Except Exn α := do
  w.acquireGroupLock
  match w.lockGlobal with
  | .error e => ensuring (.error e) w.releaseGroupLock
  | .ok () =>
    ensuring (do
      connectWithRetries w group (max 1 w.connectRetries) 1
      ensuring body (disconnectGroupVpn w group)) w.unlock

/-! ## What leaves a session -/

/-- An exception that the caller of a session expects. -/
def Expected (e : Exn) : Prop := e.isVpnError = true

/-- Before attempt `attempt`, all the others failed in a way that is retried. -/
def Attempted (attempt : Nat) : Prop :=
  ∀ earlier, 1 ≤ earlier → earlier < attempt →
    ∃ e, w.connect group earlier = .error e ∧ w.retries e = true

/-- Every attempt that is made fails with a `VpnError`, if it fails. -/
def ConnectContained : Prop :=
  ∀ attempt, 1 ≤ attempt → attempt ≤ max 1 w.connectRetries → Attempted w group attempt →
    OnlyRaises Expected (w.connect group attempt)

/-- Locks, tunnel and body raise nothing but a `VpnError`, as far as they are reached and as an
exception of the clean-up does not hide that of the body. -/
def VpnContained {α : Type} (body : Except Exn α) : Prop :=
  OnlyRaises Expected w.acquireGroupLock ∧ (w.acquireGroupLock = .ok () →
    (∀ e, w.lockGlobal = .error e → OnlyRaises Expected w.releaseGroupLock ∧
      (w.releaseGroupLock = .ok () → Expected e)) ∧
    (w.lockGlobal = .ok () → OnlyRaises Expected w.unlock ∧ (w.unlock = .ok () →
      ConnectContained w group ∧
      (connectWithRetries w group (max 1 w.connectRetries) 1 = .ok () →
        OnlyRaises Expected (disconnectGroupVpn w group) ∧
        (disconnectGroupVpn w group = .ok () → OnlyRaises Expected body)))))

variable {w group}

/-- The loop lets only `VpnError`s out exactly if no attempt that it makes raises another. -/
theorem onlyRaises_connect (left attempt : Nat) :
    OnlyRaises Expected (connectWithRetries w group (left + 1) attempt) ↔
      ∀ k, k ≤ left → (∀ j, j < k → ∃ e, w.connect group (attempt + j) = .error e ∧
        w.retries e = true) → OnlyRaises Expected (w.connect group (attempt + k)) := by
  induction left generalizing attempt with
  | zero =>
    rw [connectWithRetries, onlyRaises_catching]
    constructor
    · intro h k hk _ e he
      obtain rfl : k = 0 := by omega
      have := h e he
      by_cases hvpn : e.isVpnError = true
      · exact hvpn
      · simp [hvpn] at this
        exact this
    · intro h e he
      have hvpn : e.isVpnError = true := h 0 (Nat.le_refl 0) (fun j hj => absurd hj (by omega)) e he
      rw [if_pos hvpn]
      simp only [true_or, if_true, onlyRaises_error]
      exact hvpn
  | succ left ih =>
    rw [connectWithRetries, onlyRaises_catching]
    constructor
    · intro h k hk hearlier e he
      cases k with
      | zero =>
        by_cases hvpn : e.isVpnError = true
        · exact hvpn
        · have := h e he
          simpa [hvpn] using this
      | succ k =>
        obtain ⟨e₀, he₀, hretry⟩ := hearlier 0 (by omega)
        obtain ⟨hvpn, hshould⟩ := Bool.and_eq_true_iff.mp hretry
        have hnext := h e₀ he₀
        rw [if_pos hvpn, if_neg (by simp [hshould])] at hnext
        have hrest := (ih (attempt + 1)).mp hnext k (by omega)
        rw [show attempt + (k + 1) = attempt + 1 + k by omega] at he
        apply hrest _ e he
        intro j hj
        obtain ⟨e', he', hretry'⟩ := hearlier (j + 1) (by omega)
        rw [show attempt + (j + 1) = attempt + 1 + j by omega] at he'
        exact ⟨e', he', hretry'⟩
    · intro h e he
      have hvpn : e.isVpnError = true := h 0 (by omega) (fun j hj => absurd hj (by omega)) e he
      rw [if_pos hvpn]
      by_cases hshould : shouldRetryVpnConnectError w.env.lower e.text = true
      · rw [if_neg (by simp [hshould]), ih]
        intro k hk hearlier
        have hall := h (k + 1) (by omega)
        rw [show attempt + (k + 1) = attempt + 1 + k by omega] at hall
        apply hall
        intro j hj
        cases j with
        | zero => exact ⟨e, he, by simp [VpnWorld.retries, hvpn, hshould]⟩
        | succ j =>
          obtain ⟨e', he', hretry'⟩ := hearlier j (by omega)
          rw [show attempt + 1 + j = attempt + (j + 1) by omega] at he'
          exact ⟨e', he', hretry'⟩
      · rw [if_pos (by simp [hshould])]
        exact onlyRaises_error.mpr hvpn

theorem onlyRaises_connectWithRetries :
    OnlyRaises Expected (connectWithRetries w group (max 1 w.connectRetries) 1) ↔
      ConnectContained w group := by
  obtain ⟨left, hleft⟩ : ∃ left, max 1 w.connectRetries = left + 1 :=
    ⟨max 1 w.connectRetries - 1, by omega⟩
  unfold ConnectContained Attempted
  rw [hleft, onlyRaises_connect]
  constructor
  · intro h attempt hpos hle hearlier
    have hall := h (attempt - 1) (by omega)
    rw [show 1 + (attempt - 1) = attempt by omega] at hall
    apply hall
    intro j hj
    exact hearlier (1 + j) (by omega) (by omega)
  · intro h k hk hearlier
    apply h (1 + k) (by omega) (by omega)
    intro j hj hjk
    have hprev := hearlier (j - 1) (by omega)
    rwa [show 1 + (j - 1) = j by omega] at hprev

/-- Exactly what keeps everything but a `VpnError` in a session. -/
theorem onlyRaises_vpnSession {α : Type} {body : Except Exn α} :
    OnlyRaises Expected (vpnSession w group body) ↔ VpnContained w group body := by
  unfold vpnSession VpnContained
  rw [onlyRaises_bind]
  apply and_congr_right
  intro _
  constructor
  · intro h hlock
    have hin := h () hlock
    cases hglobal : w.lockGlobal with
    | error e =>
      rw [hglobal] at hin
      refine ⟨fun e' he' => ?_, fun hok => ?_⟩
      · obtain rfl := Except.error.inj he'
        simpa using onlyRaises_ensuring.mp hin
      · cases hok
    | ok u =>
      rw [hglobal] at hin
      refine ⟨fun e' he' => ?_, fun _ => ?_⟩
      · cases he'
      · simpa [onlyRaises_ensuring, onlyRaises_seq, onlyRaises_connectWithRetries] using hin
  · intro h u hlock
    obtain ⟨herror, hok⟩ := h hlock
    cases hglobal : w.lockGlobal with
    | error e => simpa [onlyRaises_ensuring] using herror e hglobal
    | ok u =>
      simpa [onlyRaises_ensuring, onlyRaises_seq, onlyRaises_connectWithRetries] using hok hglobal

end BackupCenter.Executor
