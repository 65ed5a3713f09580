import BackupCenter.Lib.Interleaving

/-!
# A guest among the clients

A run with one client whose steps are told apart from those of the others. Taking its
events out of a schedule gives the run without it, so that what the guest means to the
others is a comparison of two runs.
-/
namespace BackupCenter.Lib

variable {σ Cmd Call ε ρ τ : Type} {Ans : Cmd → Type}

structure Guested (σ Cmd : Type) (Ans : Cmd → Type) (ρ τ : Type) where
  host : Clients σ Cmd Ans ρ
  guest : Prog Cmd Ans τ

inductive GuestEvent (ε : Type) where
  | host (e : ε)
  | guest

/-- The host takes a step, or the guest executes its next command. -/
def guestStep (S : Semantics σ Cmd Ans ρ Call ε) (s : Guested σ Cmd Ans ρ τ) :
    GuestEvent (ClientEvent Call ε) → Option (Guested σ Cmd Ans ρ τ)
  | .host e => (clientStep S s.host e).map fun h => { s with host := h }
  | .guest =>
    match s.guest with
    | .call c next =>
      let (a, t) := S.handle c s.host.shared
      some { host := { s.host with shared := t }, guest := next a }
    | .ret _ => none

/-- The schedule without the guest. -/
def hostEvents : List (GuestEvent ε) → List ε
  | [] => []
  | .host e :: es => e :: hostEvents es
  | .guest :: es => hostEvents es

variable {S : Semantics σ Cmd Ans ρ Call ε} {s s' : Guested σ Cmd Ans ρ τ}

theorem guestStep_host {e : ClientEvent Call ε} (h : guestStep S s (.host e) = some s') :
    clientStep S s.host e = some s'.host ∧ s'.guest = s.guest := by
  obtain ⟨t, ht, rfl⟩ := Option.map_eq_some_iff.mp h
  exact ⟨ht, rfl⟩

theorem guestStep_guest (h : guestStep S s .guest = some s') : ∃ c next,
    s.guest = .call c next ∧ s'.guest = next (S.handle c s.host.shared).1 ∧
      s'.host = { s.host with shared := (S.handle c s.host.shared).2 } := by
  simp only [guestStep] at h
  split at h
  next c next hc =>
    obtain rfl := Option.some.inj h
    exact ⟨c, next, hc, rfl, rfl⟩
  next => cases h

/-- A guest that has returned takes no further step, so that it can be left out. -/
theorem exec_returned {r : τ} {es : List (GuestEvent (ClientEvent Call ε))}
    (hret : s.guest = .ret r) (hrun : exec (guestStep S) s es = some s') :
    exec (clientStep S) s.host (hostEvents es) = some s'.host := by
  induction es generalizing s with
  | nil =>
    obtain rfl := Option.some.inj hrun
    rfl
  | cons e es ih =>
    obtain ⟨t, ht, hrest⟩ := exec_cons hrun
    cases e with
    | host e =>
      obtain ⟨hhost, hguest⟩ := guestStep_host ht
      rw [hostEvents, exec, hhost]
      exact ih (hguest.trans hret) hrest
    | guest =>
      obtain ⟨c, next, hc, -⟩ := guestStep_guest ht
      cases hret.symm.trans hc

/-- A guest keeps to the commands that its program keeps to. -/
theorem guest_always {ok : Cmd → Prop} {es : List (GuestEvent (ClientEvent Call ε))}
    (h : s.guest.Always ok) (hrun : exec (guestStep S) s es = some s') : s'.guest.Always ok := by
  have hstep : ∀ (t : Guested σ Cmd Ans ρ τ) e t', t.guest.Always ok →
      guestStep S t e = some t' → t'.guest.Always ok := by
    intro t e t' ht hstep
    cases e with
    | host e =>
      obtain ⟨-, hguest⟩ := guestStep_host hstep
      exact hguest ▸ ht
    | guest =>
      obtain ⟨c, next, hc, hguest, -⟩ := guestStep_guest hstep
      rw [hc] at ht
      exact hguest ▸ ht.2 _ trivial
  exact exec_invariant_all hstep h hrun

/-- The guest runs to its end while the host waits. -/
theorem exec_guest_alone (S : Semantics σ Cmd Ans ρ Call ε) (c : Clients σ Cmd Ans ρ)
    (p : Prog Cmd Ans τ) : ∃ n,
      exec (guestStep S) ⟨c, p⟩ (List.replicate n .guest) =
        some ⟨{ c with shared := (p.run S.handle c.shared).2 },
          .ret (p.run S.handle c.shared).1⟩ := by
  induction p generalizing c with
  | ret r => exact ⟨0, rfl⟩
  | call cmd next ih =>
    obtain ⟨n, hn⟩ := ih (S.handle cmd c.shared).1 { c with shared := (S.handle cmd c.shared).2 }
    exact ⟨n + 1, hn⟩

theorem hostEvents_replicate (n : Nat) (es : List (GuestEvent ε)) :
    hostEvents (List.replicate n .guest ++ es) = hostEvents es := by
  induction n with
  | zero => rfl
  | succ n ih => exact ih

end BackupCenter.Lib
