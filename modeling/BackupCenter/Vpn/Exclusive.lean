import BackupCenter.Vpn.Service

/-!
# One tunnel at a time

Between sessions only the file locks order the calls of `nmcli`. A session that fails to get a lock
cleans up all the same, a VPN test takes no lock, and a group without VPN data gets a session
without a tunnel; where none of this happens and `nmcli` can list and delete, the body of a session
has the tunnel of its group and no other, and the host's `nmcli` to itself.
-/
namespace BackupCenter.Vpn

open BackupCenter.Lib
open BackupCenter.Executor (Exn hasTunnel)
open BackupCenter.Tenants (DeviceGroup)

/-! ## The promise -/

abbrev Worker := Processes Host Ask Ask.Answer (Except Exn String)

/-- The tunnel of the group is active, and no other. -/
def OwnTunnel (decrypt : String → Except Exn String) (group : DeviceGroup) (nm : NetworkManager) :
    Prop :=
  ∃ profile, groupProfile decrypt group = .ok profile ∧ nm.active = [profile]

structure Exclusive (decrypt : String → Except Exn String) (s : Worker) : Prop where
  /-- a body has its own tunnel only -/
  tunnel : ∀ b ∈ s.shared.bodies, OwnTunnel decrypt b.2 s.shared.nm
  /-- while a body runs, no process is about to call `nmcli` -/
  quiet : ∀ (i : Nat) (c : Nmcli) next, s.shared.bodies ≠ [] →
    s.processes[i]? ≠ some (.call (.nmcli c) next)
  /-- a process that has returned holds no lock -/
  released : ∀ (i : Nat) (r : Except Exn String) (f : LockFile),
    s.processes[i]? = some (.ret r) → s.shared.locks f ≠ some i

/-! ## The condition -/

/-- No lock acquisition fails, and `nmcli` fails neither to list the profiles nor to delete one that
exists. -/
def untroubled (nm : NetworkManager) : Ask → Choice → Bool
  | .flock _, .raises _ _ => false
  | .nmcli .showProfiles, .fails _ _ => false
  | .nmcli (.delete name), .fails took _ => took || nm.profiles.all (·.name ≠ name)
  | _, _ => true

/-- Besides, no VPN is tested, and sessions are for groups that have a tunnel. -/
def orderly (s : Worker) : ProcessEvent Call Choice → Bool
  | .start (.session group _) => hasTunnel group
  | .start (.groupVpnTest group) => group.usesVpn ≠ some true
  | .step i choice =>
    match s.processes[i]? with
    | some (.call c _) => untroubled s.shared.nm c choice
    | _ => true

def Orderly (s : Worker) (e : ProcessEvent Call Choice) : Prop := orderly s e = true

instance (s : Worker) (e : ProcessEvent Call Choice) : Decidable (Orderly s e) :=
  inferInstanceAs (Decidable (orderly s e = true))

/-! ## What a process knows -/

/-- The locks that a process holds, and whether it is in the body of a session. -/
structure Held where
  all : Bool := false
  group : Option LockFile := none
  body : Option DeviceGroup := none

/-- A process takes the lock of its group first and the lock of all then, uses `nmcli` under both,
and enters a body with its own tunnel only. -/
def Held.Allows (decrypt : String → Except Exn String) (held : Held) (nm : NetworkManager) :
    Ask → Prop
  | .nmcli _ | .pkill _ => held.all = true ∧ held.body = none
  | .flock .all => held.all = false ∧ held.body = none
  | .flock (.group _) => held.all = false ∧ held.group = none ∧ held.body = none
  | .unlock .all => held.all = true ∧ held.body = none
  | .unlock (.group name) => held.all = false ∧ held.group = some (.group name) ∧ held.body = none
  | .enter group => held.all = true ∧ held.body = none ∧ OwnTunnel decrypt group nm
  | .leave => held.all = true ∧ held.body ≠ none
  | _ => True

/-- A command with its answer, as the process sees it: NetworkManager changes under its hands only
if it does not hold the lock of all. -/
def Held.Moves (held : Held) (nm : NetworkManager) :
    (c : Ask) → c.Answer → Held → NetworkManager → Prop
  | .nmcli c, answer, held', nm' =>
    held' = held ∧ ∃ choice, untroubled nm (.nmcli c) choice = true ∧
      performNmcli c choice nm = some (answer, nm')
  | .pkill _, _, held', _ => held' = held
  | .flock .all, answer, held', _ => answer = .ok () ∧ held' = { held with all := true }
  | .flock (.group name), answer, held', _ =>
    answer = .ok () ∧ held' = { held with group := some (.group name) }
  | .unlock .all, _, held', _ => held' = { held with all := false }
  | .unlock (.group _), _, held', _ => held' = { held with group := none }
  | .enter group, _, held', nm' => held' = { held with body := some group } ∧ nm' = nm
  | .leave, _, held', nm' => held' = { held with body := none } ∧ nm' = nm
  | .which, _, held', nm' | .expired, _, held', nm' | .unavailable, _, held', nm'
  | .work _, _, held', nm' => held' = held ∧ nm' = nm

section Safe

variable (decrypt : String → Except Exn String) {ρ τ : Type}

/-- The program keeps to what it is allowed, and ends in its postcondition. -/
def Safe (Q : ρ → Held → NetworkManager → Prop) :
    Prog Ask Ask.Answer ρ → Held → NetworkManager → Prop
  | .ret r, held, nm => Q r held nm
  | .call c next, held, nm =>
    held.Allows decrypt nm c ∧
      ∀ answer held' nm', held.Moves nm c answer held' nm' → Safe Q (next answer) held' nm'

variable {decrypt} {Q Q' : ρ → Held → NetworkManager → Prop}
  {Q₂ : τ → Held → NetworkManager → Prop} {held : Held} {nm : NetworkManager}

theorem Safe.imp {p : Prog Ask Ask.Answer ρ} (h : Safe decrypt Q p held nm)
    (himp : ∀ r held nm, Q r held nm → Q' r held nm) : Safe decrypt Q' p held nm := by
  induction p generalizing held nm with
  | ret r => exact himp r held nm h
  | call c next ih => exact ⟨h.1, fun a held' nm' hm => ih a (h.2 a held' nm' hm)⟩

theorem Safe.bind {p : Prog Ask Ask.Answer ρ} {f : ρ → Prog Ask Ask.Answer τ}
    (h : Safe decrypt Q p held nm)
    (hf : ∀ r held nm, Q r held nm → Safe decrypt Q₂ (f r) held nm) :
    Safe decrypt Q₂ (p >>= f) held nm := by
  induction p generalizing held nm with
  | ret r => exact hf r held nm h
  | call c next ih => exact ⟨h.1, fun a held' nm' hm => ih a (h.2 a held' nm' hm)⟩

theorem Safe.ask {c : Ask} {f : c.Answer → Prog Ask Ask.Answer ρ} (hc : held.Allows decrypt nm c)
    (hf : ∀ answer held' nm', held.Moves nm c answer held' nm' →
      Safe decrypt Q (f answer) held' nm') :
    Safe decrypt Q (Vpn.ask c >>= f) held nm :=
  ⟨hc, hf⟩

end Safe

/-! ## Under the lock of all -/

section Calls

variable {lower : String → String} {decrypt : String → Except Exn String} {α β : Type}
  {held : Held} {nm : NetworkManager} {Q : Except Exn α → NetworkManager → Prop}

/-- A program that calls `nmcli` under the locks and keeps them. -/
def Calls (decrypt : String → Except Exn String) (held : Held) (x : Act α)
    (Q : Except Exn α → NetworkManager → Prop) (nm : NetworkManager) : Prop :=
  Safe decrypt (fun r held' nm' => held' = held ∧ Q r nm') x.run held nm

theorem Calls.imp {Q' : Except Exn α → NetworkManager → Prop} {x : Act α}
    (h : Calls decrypt held x Q nm) (himp : ∀ r nm, Q r nm → Q' r nm) :
    Calls decrypt held x Q' nm :=
  Safe.imp h fun r _ nm hr => ⟨hr.1, himp r nm hr.2⟩

theorem Calls.pure {a : α} (h : Q (.ok a) nm) : Calls decrypt held (pure a) Q nm := ⟨rfl, h⟩

theorem Calls.throw {e : Exn} (h : Q (.error e) nm) : Calls decrypt held (throw e) Q nm :=
  ⟨rfl, h⟩

/-- What the first program leaves is where the second one starts; an exception skips it. -/
theorem Calls.bind {x : Act α} {f : α → Act β} {Q₂ : Except Exn β → NetworkManager → Prop}
    (h : Calls decrypt held x Q nm)
    (hok : ∀ a nm, Q (.ok a) nm → Calls decrypt held (f a) Q₂ nm)
    (herror : ∀ e nm, Q (.error e) nm → Q₂ (.error e) nm) :
    Calls decrypt held (x >>= f) Q₂ nm := by
  refine Safe.bind h fun r held' nm' hr => ?_
  obtain ⟨rfl, hr⟩ := hr
  cases r with
  | ok a => exact hok a nm' hr
  | error e => exact ⟨rfl, herror e nm' hr⟩

theorem Calls.tryCatch {x : Act α} {handler : Exn → Act α}
    {Q₂ : Except Exn α → NetworkManager → Prop} (h : Calls decrypt held x Q nm)
    (hok : ∀ a nm, Q (.ok a) nm → Q₂ (.ok a) nm)
    (herror : ∀ e nm, Q (.error e) nm → Calls decrypt held (handler e) Q₂ nm) :
    Calls decrypt held (tryCatch x handler) Q₂ nm := by
  refine Safe.bind h fun r held' nm' hr => ?_
  obtain ⟨rfl, hr⟩ := hr
  cases r with
  | ok a => exact ⟨rfl, hok a nm' hr⟩
  | error e => exact herror e nm' hr

theorem Calls.quietly {x : Act Unit} {Q : Except Exn Unit → NetworkManager → Prop}
    (h : Calls decrypt held x Q nm) (hpost : ∀ e nm, Q (.error e) nm → Q (.ok ()) nm) :
    Calls decrypt held (Vpn.quietly x) Q nm := by
  refine Calls.tryCatch h (fun _ _ hok => hok) fun e nm' he => ?_
  split
  · exact ⟨rfl, hpost e nm' he⟩
  · exact ⟨rfl, he⟩

/-- What is true of the result in any case. -/
theorem Calls.weaken {x : Act α} (h : Calls decrypt held x Q nm) :
    Calls decrypt held x (fun _ _ => True) nm :=
  h.imp fun _ _ _ => trivial

end Calls

theorem performNmcli_cases {c : Nmcli} {choice : Choice} {nm nm' : NetworkManager}
    {answer : Except Exn NmcliResult} (h : performNmcli c choice nm = some (answer, nm')) :
    (∃ stdout others, choice = .succeeds stdout others ∧ c.isPossible nm = true ∧
      answer = .ok { returncode := 0, stdout := stdout, rows := c.rows nm ++ others } ∧
      nm' = c.apply nm) ∨
    (∃ took result, choice = .fails took result ∧ result.returncode ≠ 0 ∧ answer = .ok result ∧
      nm' = if took then c.apply nm else nm) ∨
    ∃ took e, choice = .raises took e ∧ answer = .error e ∧
      nm' = if took then c.apply nm else nm := by
  cases choice with
  | succeeds stdout others =>
    unfold performNmcli at h
    dsimp only at h
    split at h
    next hpossible =>
      cases h
      exact .inl ⟨stdout, others, rfl, hpossible.1, rfl, rfl⟩
    next => cases h
  | fails took result =>
    unfold performNmcli at h
    dsimp only at h
    split at h
    next => cases h
    next hcode =>
      cases h
      exact .inr (.inl ⟨took, result, rfl, hcode, rfl, rfl⟩)
  | raises took e =>
    cases h
    exact .inr (.inr ⟨took, e, rfl, rfl, rfl⟩)
  | tells | explains | kills | works | done => cases h

/-! ## The parts of a connection -/

/-- The profile is the only one, active or not. -/
def Alone (profile : Profile) (nm : NetworkManager) : Prop :=
  nm.profiles = [profile] ∧ (nm.active = [] ∨ nm.active = [profile])

theorem alone_up {profile : Profile} {nm : NetworkManager} (h : Alone profile nm) :
    (nm.up profile.name).profiles = [profile] ∧ (nm.up profile.name).active = [profile] := by
  obtain ⟨hprofiles, hactive⟩ := h
  have hfound : nm.profiles.find? (·.name = profile.name) = some profile := by
    rw [hprofiles]
    exact List.find?_cons_of_pos (decide_eq_true rfl)
  unfold NetworkManager.up
  split
  · next hnone => exact absurd (hnone.symm.trans hfound) nofun
  · next p hsome =>
    obtain rfl := Option.some.inj (hsome.symm.trans hfound)
    refine ⟨hprofiles, ?_⟩
    show (if p ∈ nm.active then nm.active else p :: nm.active) = [p]
    rcases hactive with hactive | hactive
    · rw [hactive, if_neg List.not_mem_nil]
    · rw [hactive, if_pos List.mem_cons_self]

theorem alone_add {profile : Profile} {nm : NetworkManager} (h : nm.profiles = []) :
    Alone profile (nm.add profile) := by
  have hactive : nm.active = [] := List.subset_nil.mp (h ▸ nm.active_subset)
  refine ⟨?_, .inl hactive⟩
  show nm.profiles ++ [profile] = [profile]
  rw [h, List.nil_append]

section Nm

variable {lower : String → String} {decrypt : String → Except Exn String} {held : Held}
  {nm : NetworkManager} (hheld : held.all = true ∧ held.body = none)

include hheld

/-- A call under the locks, by what it may answer. -/
theorem calls_runNmcli {c : Nmcli} {check : Bool}
    {Q : Except Exn NmcliResult → NetworkManager → Prop}
    (hok : ∀ choice result nm', untroubled nm (.nmcli c) choice = true →
      performNmcli c choice nm = some (.ok result, nm') → check = false ∨ result.returncode = 0 →
      Q (.ok result) nm')
    (herror : ∀ e nm', nm' = nm ∨ nm' = c.apply nm → Q (.error e) nm') :
    Calls decrypt held (runNmcli c check) Q nm := by
  refine ⟨hheld, fun answer held' nm' hmoves => ?_⟩
  obtain ⟨rfl, choice, hchoice, hperform⟩ := hmoves
  have hstate : nm' = nm ∨ nm' = c.apply nm := by
    rcases performNmcli_cases hperform with ⟨_, _, -, -, -, h⟩ | ⟨took, _, -, -, -, h⟩ |
      ⟨took, _, -, -, h⟩
    · exact .inr h
    · cases took with
      | false => exact .inl h
      | true => exact .inr h
    · cases took with
      | false => exact .inl h
      | true => exact .inr h
  cases answer with
  | error e => exact ⟨rfl, herror e nm' hstate⟩
  | ok result =>
    show Calls decrypt held' (if check = true ∧ result.returncode ≠ 0 then _ else _) Q nm'
    split
    · exact ⟨rfl, herror _ nm' hstate⟩
    · next hcheck =>
      refine ⟨rfl, hok choice result nm' hchoice hperform ?_⟩
      by_cases hc : check = true
      · exact .inr (not_not.mp fun hne => hcheck ⟨hc, hne⟩)
      · exact .inl (Bool.eq_false_iff.mpr hc)

/-- A call that has no effect. -/
theorem calls_query {c : Nmcli} {check : Bool} (hc : ∀ nm, c.apply nm = nm) :
    Calls decrypt held (runNmcli c check) (fun _ nm' => nm' = nm) nm := by
  refine calls_runNmcli hheld (fun choice result nm' _ hperform _ => ?_) fun e nm' hnm' => ?_
  · rcases performNmcli_cases hperform with ⟨_, _, -, -, -, h⟩ | ⟨took, _, -, -, -, h⟩ |
      ⟨took, _, -, -, h⟩
    · rw [h, hc]
    · rw [h, hc, ite_self]
    · rw [h, hc, ite_self]
  · rcases hnm' with h | h
    · exact h
    · rw [h, hc]

/-- Taking a connection down removes no profile, and adds none. -/
theorem calls_down {name : String} :
    Calls decrypt held (runNmcli (.down name) false) (fun _ nm' => nm'.profiles = nm.profiles)
      nm := by
  refine calls_runNmcli hheld (fun choice result nm' _ hperform _ => ?_) fun e nm' hnm' => ?_
  · rcases performNmcli_cases hperform with ⟨_, _, -, -, -, rfl⟩ | ⟨took, _, -, -, -, rfl⟩ |
      ⟨took, _, -, -, rfl⟩
    · rfl
    · cases took <;> rfl
    · cases took <;> rfl
  · rcases hnm' with rfl | rfl
    · rfl
    · rfl

/-- A profile that was to be deleted is gone after the call. -/
theorem calls_delete {name : String} :
    Calls decrypt held (runNmcli (.delete name) false)
      (fun r nm' => nm'.profiles ⊆ nm.profiles ∧
        ((∃ result, r = .ok result) → ∀ p ∈ nm'.profiles, p.name ≠ name)) nm := by
  have hsub : (nm.delete name).profiles ⊆ nm.profiles := List.filter_sublist.subset
  have hgone : ∀ p ∈ (nm.delete name).profiles, p.name ≠ name := fun p hp =>
    of_decide_eq_true (List.mem_filter.mp hp).2
  refine calls_runNmcli hheld (fun choice result nm' hchoice hperform _ => ?_) fun e nm' hnm' => ?_
  · rcases performNmcli_cases hperform with ⟨_, _, -, -, -, rfl⟩ | ⟨took, _, rfl, -, -, rfl⟩ |
      ⟨_, _, -, hanswer, -⟩
    · exact ⟨hsub, fun _ => hgone⟩
    · cases took with
      | true => exact ⟨hsub, fun _ => hgone⟩
      | false =>
        refine ⟨List.Subset.refl _, fun _ p hp => ?_⟩
        exact of_decide_eq_true (List.all_eq_true.mp hchoice p hp)
    · cases hanswer
  · refine ⟨?_, fun ⟨_, h⟩ => nomatch h⟩
    rcases hnm' with rfl | rfl
    · exact List.Subset.refl _
    · exact hsub

theorem calls_removeRows (rows : List Row) :
    Calls decrypt held (removeRows rows)
      (fun r nm' => nm'.profiles ⊆ nm.profiles ∧
        (r = .ok () → ∀ row ∈ rows, ∀ p ∈ nm'.profiles, p.name ≠ row.name)) nm := by
  induction rows generalizing nm with
  | nil => exact ⟨rfl, List.Subset.refl _, fun _ => nofun⟩
  | cons row rows ih =>
    unfold removeRows
    refine (calls_down hheld).bind (fun _ nm₁ hdown => ?_) fun _ nm₁ hdown => ?_
    · refine (calls_delete hheld).bind (fun result nm₂ hdelete => ?_) fun _ nm₂ hdelete => ?_
      · refine ih.imp fun r nm' hr => ?_
        obtain ⟨hsub, hgone⟩ := hdelete
        rw [hdown] at hsub
        refine ⟨List.Subset.trans hr.1 hsub, fun hok row' hrow' p hp => ?_⟩
        rcases List.mem_cons.mp hrow' with rfl | hrow'
        · exact hgone ⟨result, rfl⟩ p (hr.1 hp)
        · exact hr.2 hok row' hrow' p hp
      · exact ⟨hdown ▸ hdelete.1, nofun⟩
    · exact ⟨hdown ▸ List.Subset.refl _, nofun⟩

theorem calls_cleanupActiveVpns (keep : String) :
    Calls decrypt held (cleanupActiveVpns keep) (fun _ nm' => nm'.profiles ⊆ nm.profiles) nm := by
  refine (calls_query hheld fun _ => rfl).bind (fun result nm₁ hnm => ?_) fun _ nm₁ hnm => ?_
  · subst hnm
    exact (calls_removeRows hheld _).imp fun _ _ hr => hr.1
  · subst hnm
    exact List.Subset.refl _

/-- After a clean-up there is at most the profile that was to be kept. -/
theorem calls_cleanupVpnProfiles (keep : String) :
    Calls decrypt held (cleanupVpnProfiles keep)
      (fun r nm' => r = .ok () → ∀ p ∈ nm'.profiles, p.name = keep) nm := by
  refine (calls_cleanupActiveVpns hheld keep).bind (fun _ nm₁ _ => ?_) fun _ _ _ => nofun
  refine Calls.bind (Q := fun r nm' => nm' = nm₁ ∧ ∀ result, r = .ok result →
    ∀ p ∈ nm₁.profiles, { name := p.name, connType := "vpn" } ∈ result.rows) ?_
    (fun result nm₂ hshown => ?_) fun _ _ _ => nofun
  · refine calls_runNmcli hheld (fun choice result nm' hchoice hperform _ => ?_)
      fun e nm' hnm' => ?_
    · rcases performNmcli_cases hperform with ⟨stdout, others, -, -, hanswer, rfl⟩ |
        ⟨_, _, rfl, -, -, -⟩ | ⟨_, _, -, hanswer, -⟩
      · refine ⟨rfl, fun result' hresult' p hp => ?_⟩
        cases hresult'
        cases hanswer
        exact List.mem_append_left _ (List.mem_map.mpr ⟨p, hp, rfl⟩)
      · cases hchoice
      · cases hanswer
    · refine ⟨?_, nofun⟩
      rcases hnm' with h | h
      · exact h
      · exact h
  · obtain ⟨rfl, hrows⟩ := hshown
    refine (calls_removeRows hheld _).imp fun r nm' hr hok p hp => ?_
    obtain ⟨hsub, hgone⟩ := hr
    by_contra hname
    refine hgone hok { name := p.name, connType := "vpn" } ?_ p hp rfl
    refine List.mem_filter.mpr ⟨hrows result rfl p (hsub hp), ?_⟩
    simp [hname]

theorem calls_waitForVpnQuiescent (seconds : Nat) :
    Calls decrypt held (waitForVpnQuiescent seconds) (fun _ nm' => nm' = nm) nm := by
  induction seconds with
  | zero => exact ⟨rfl, rfl⟩
  | succ seconds ih =>
    unfold waitForVpnQuiescent
    refine Calls.bind (Q := fun _ nm' => nm' = nm) ?_ (fun late nm₁ h₁ => ?_) fun _ _ h => h
    · exact ⟨trivial, fun _ _ _ h => h⟩
    · subst h₁
      split
      · exact ⟨rfl, rfl⟩
      · refine (calls_query hheld fun _ => rfl).bind (fun result nm₂ h₂ => ?_) fun _ _ h => h
        subst h₂
        split
        · exact ih
        · exact ⟨rfl, rfl⟩

theorem calls_emitNmDiagnostics :
    Calls decrypt held emitNmDiagnostics (fun _ nm' => nm' = nm) nm := by
  have hquery : ∀ (args : List String) (nm : NetworkManager),
      Calls decrypt held (quietly (do let _ ← runNmcli (.other args) false))
        (fun _ nm' => nm' = nm) nm := by
    intro args nm
    refine Calls.quietly ?_ fun _ _ h => h
    exact (calls_query hheld fun _ => rfl).bind (fun _ _ h => ⟨rfl, h⟩) fun _ _ h => h
  refine (hquery _ nm).bind (fun _ nm₁ h₁ => ?_) fun _ _ h => h
  subst h₁
  exact hquery _ nm₁

/-- The profile comes up, on the interface that was asked for. -/
theorem calls_up {profile : Profile} {ifname : Option String} (h : Alone profile nm) :
    Calls decrypt held (runNmcli (.up profile.name ifname) true)
      (fun r nm' => Alone profile nm' ∧ ((∃ result, r = .ok result) → nm'.active = [profile]))
      nm := by
  obtain ⟨hprofiles, hactive⟩ := alone_up h
  refine calls_runNmcli hheld (fun choice result nm' _ hperform hcode => ?_) fun e nm' hnm' => ?_
  · rcases performNmcli_cases hperform with ⟨_, _, -, -, -, rfl⟩ | ⟨_, _, -, hne, hanswer, -⟩ |
      ⟨_, _, -, hanswer, -⟩
    · exact ⟨⟨hprofiles, .inr hactive⟩, fun _ => hactive⟩
    · cases hanswer
      exact absurd (hcode.resolve_left (Bool.noConfusion)) hne
    · cases hanswer
  · refine ⟨?_, fun ⟨_, h⟩ => nomatch h⟩
    rcases hnm' with rfl | rfl
    · exact h
    · exact ⟨hprofiles, .inr hactive⟩

theorem calls_retryConnectionUpOnEth0 {profile : Profile} (h : Alone profile nm) :
    Calls decrypt held (retryConnectionUpOnEth0 profile.name)
      (fun r nm' => r = .ok () → nm'.active = [profile]) nm := by
  refine (calls_query hheld fun _ => rfl).bind (fun _ nm₁ h₁ => ?_) fun _ _ _ => nofun
  subst h₁
  refine (calls_up hheld h).bind (fun result nm₂ h₂ => ?_) fun _ _ _ => nofun
  exact ⟨rfl, fun _ => h₂.2 ⟨result, rfl⟩⟩

/-- Where no other profile is left, the activated one is the only one that is active. -/
theorem calls_activate {profile : Profile} (h : ∀ p ∈ nm.profiles, p.name = profile.name) :
    Calls decrypt held (activate lower profile) (fun r nm' => r = .ok () → nm'.active = [profile])
      nm := by
  unfold activate
  refine (calls_down hheld).bind (fun _ nm₁ hdown => ?_) fun _ _ _ => nofun
  refine (calls_delete hheld).bind (fun result nm₂ hdelete => ?_) fun _ _ _ => nofun
  have hempty : nm₂.profiles = [] := by
    refine List.eq_nil_iff_forall_not_mem.mpr fun p hp => ?_
    exact hdelete.2 ⟨result, rfl⟩ p hp (h p (hdown ▸ hdelete.1 hp))
  refine Calls.bind (Q := fun r nm' => (∃ result, r = .ok result) → Alone profile nm') ?_
    (fun result nm₃ hadd => ?_) fun _ _ _ => nofun
  · refine calls_runNmcli hheld (fun choice result nm' _ hperform hcode => ?_) fun e nm' _ => ?_
    · rcases performNmcli_cases hperform with ⟨_, _, -, -, -, rfl⟩ | ⟨_, _, -, hne, hanswer, -⟩ |
        ⟨_, _, -, hanswer, -⟩
      · exact fun _ => alone_add hempty
      · cases hanswer
        exact absurd (hcode.resolve_left (Bool.noConfusion)) hne
      · cases hanswer
    · exact fun ⟨_, h⟩ => nomatch h
  · have halone := hadd ⟨result, rfl⟩
    refine Calls.tryCatch (Q := fun r nm' => Alone profile nm' ∧
      (r = .ok () → nm'.active = [profile])) ?_ (fun _ _ hup _ => hup.2 rfl) fun e nm₄ hup => ?_
    · refine (calls_up hheld halone).bind (fun result nm₄ hup => ?_) fun _ _ hup => ⟨hup.1, nofun⟩
      exact ⟨rfl, hup.1, fun _ => hup.2 ⟨result, rfl⟩⟩
    · split
      · refine (calls_emitNmDiagnostics hheld).bind (fun _ nm₅ h₅ => ?_) fun _ _ _ => nofun
        subst h₅
        exact calls_retryConnectionUpOnEth0 hheld hup.1
      · exact ⟨rfl, nofun⟩

theorem calls_ensureNmcli :
    Calls decrypt held (ensureNmcli lower) (fun _ nm' => nm' = nm) nm := by
  unfold ensureNmcli
  refine Calls.bind (Q := fun _ nm' => nm' = nm) ?_ (fun found nm₁ h₁ => ?_) fun _ _ h => h
  · exact ⟨trivial, fun _ _ _ h => h⟩
  · subst h₁
    split
    · exact ⟨rfl, rfl⟩
    · refine Calls.bind (Q := fun _ nm' => nm' = nm₁) ?_ (fun reason nm₂ h₂ => ?_) fun _ _ h => h
      · exact ⟨trivial, fun _ _ _ h => h⟩
      · subst h₂
        split
        · exact ⟨rfl, rfl⟩
        · refine Calls.tryCatch (Q := fun _ nm' => nm' = nm₂) ?_ (fun _ _ h => h)
            fun e nm₃ h₃ => ?_
          · refine (calls_query hheld fun _ => rfl).bind (fun _ nm₃ h₃ => ?_) fun _ _ h => h
            dsimp only
            split
            · exact ⟨rfl, h₃⟩
            · exact ⟨rfl, h₃⟩
          · split
            · exact ⟨rfl, h₃⟩
            · exact ⟨rfl, h₃⟩

/-- A group that has a tunnel is connected to it, and to nothing else. -/
theorem calls_connectGroupVpn (group : DeviceGroup) :
    Calls decrypt held (connectGroupVpn lower decrypt group)
      (fun r nm' => (∃ name, r = .ok name) → hasTunnel group = true →
        OwnTunnel decrypt group nm') nm := by
  unfold connectGroupVpn
  refine (calls_ensureNmcli hheld).bind (fun _ nm₁ _ => ?_) fun e nm' _ => ?_
  · split
    · refine Calls.bind (Q := fun r _ => r = groupProfile decrypt group) ⟨rfl, rfl⟩
        (fun profile nm₂ hprofile => ?_) fun _ _ _ ⟨_, h⟩ => nomatch h
      refine (calls_cleanupVpnProfiles hheld _).bind (fun _ nm₃ hkept => ?_)
        fun _ _ _ ⟨_, h⟩ => nomatch h
      refine (calls_waitForVpnQuiescent hheld _).bind (fun _ nm₄ h₄ => ?_)
        fun _ _ _ ⟨_, h⟩ => nomatch h
      subst h₄
      refine (calls_down hheld).bind (fun _ nm₅ hdown => ?_) fun _ _ _ ⟨_, h⟩ => nomatch h
      refine (calls_delete hheld).bind (fun _ nm₆ hdelete => ?_) fun _ _ _ ⟨_, h⟩ => nomatch h
      have hkept' : ∀ p ∈ nm₆.profiles, p.name = profile.name :=
        fun p hp => hkept rfl p (hdown ▸ hdelete.1 hp)
      refine Calls.bind (Q := fun r nm' => r = .ok () → nm'.active = [profile]) ?_
        (fun _ nm' hactive => ⟨rfl, fun _ _ => ⟨profile, hprofile.symm, hactive rfl⟩⟩)
        fun _ _ _ ⟨_, h⟩ => nomatch h
      refine (calls_activate hheld hkept').tryCatch (fun _ _ h => h) fun e nm₇ _ => ?_
      split
      · refine (calls_emitNmDiagnostics hheld).bind (fun _ nm₈ _ => ?_) fun _ _ _ => nofun
        refine (calls_cleanupVpnProfiles hheld _).bind (fun _ nm₉ _ => ?_) fun _ _ _ => nofun
        refine (calls_waitForVpnQuiescent hheld _).bind (fun _ nm₀ _ => ?_) fun _ _ _ => nofun
        exact ⟨rfl, nofun⟩
      · exact ⟨rfl, nofun⟩
    · next htunnel => exact ⟨rfl, fun _ h => absurd h htunnel⟩
  · exact fun ⟨_, h⟩ => nomatch h

theorem calls_disconnectGroupVpn (group : DeviceGroup) :
    Calls decrypt held (disconnectGroupVpn group) (fun _ _ => True) nm := by
  unfold disconnectGroupVpn
  split
  · refine (calls_down hheld).bind (fun _ nm₁ _ => ?_) fun _ _ _ => trivial
    refine (calls_delete hheld).bind (fun _ nm₂ _ => ?_) fun _ _ _ => trivial
    refine (calls_cleanupVpnProfiles hheld _).bind (fun _ nm₃ _ => ?_) fun _ _ _ => trivial
    exact (calls_waitForVpnQuiescent hheld _).weaken
  · exact ⟨rfl, trivial⟩

theorem calls_pkillAll (patterns : List String) :
    Calls decrypt held (pkillAll patterns) (fun _ _ => True) nm := by
  induction patterns generalizing nm with
  | nil => exact ⟨rfl, trivial⟩
  | cons pattern patterns ih =>
    refine ⟨hheld, fun _ held' nm' hmoves => ?_⟩
    obtain rfl : held' = held := hmoves
    exact ih

theorem calls_resetVpnBackendAfterFailure (settings : Settings) :
    Calls decrypt held (resetVpnBackendAfterFailure settings) (fun _ _ => True) nm := by
  unfold resetVpnBackendAfterFailure
  split
  · refine Calls.bind (Calls.quietly (calls_cleanupVpnProfiles hheld _).weaken fun _ _ h => h)
      (fun _ nm₁ _ => ?_) fun _ _ h => h
    refine (calls_pkillAll hheld _).bind (fun _ nm₂ _ => ?_) fun _ _ h => h
    refine Calls.bind (Q := fun _ _ => True) (Calls.quietly ?_ fun _ _ h => h)
      (fun _ nm₃ _ => ?_) fun _ _ h => h
    · refine (calls_query hheld fun _ => rfl).bind (fun _ nm₃ _ => ?_) fun _ _ _ => trivial
      refine (calls_query hheld fun _ => rfl).bind (fun _ nm₄ _ => ?_) fun _ _ _ => trivial
      exact ⟨rfl, trivial⟩
    · exact Calls.quietly (calls_waitForVpnQuiescent hheld _).weaken fun _ _ h => h
  · exact ⟨rfl, trivial⟩

/-- The loop ends without an exception with a connection only. -/
theorem calls_connectWithRetries (settings : Settings) (group : DeviceGroup)
    (htunnel : hasTunnel group = true) (left : Nat) :
    Calls decrypt held (connectWithRetries lower decrypt settings group left)
      (fun r nm' => r = .ok () → OwnTunnel decrypt group nm') nm := by
  have hconnect : ∀ nm, Calls decrypt held
      (do let _ ← connectGroupVpn lower decrypt group)
      (fun r nm' => r = .ok () → OwnTunnel decrypt group nm') nm := by
    intro nm
    refine (calls_connectGroupVpn hheld group).bind (fun name nm₁ hown => ?_) fun _ _ _ => nofun
    exact ⟨rfl, fun _ => hown ⟨name, rfl⟩ htunnel⟩
  have hreset : ∀ (e : Exn) nm, Calls decrypt held
      (do resetVpnBackendAfterFailure settings; throw e)
      (fun r nm' => r = .ok () → OwnTunnel decrypt group nm') nm := by
    intro e nm
    refine (calls_resetVpnBackendAfterFailure hheld settings).bind (fun _ nm₁ _ => ?_)
      fun _ _ _ => nofun
    exact ⟨rfl, nofun⟩
  induction left generalizing nm with
  | zero =>
    refine (hconnect nm).tryCatch (fun _ _ h => h) fun e nm₁ _ => ?_
    split
    · exact hreset e nm₁
    · exact ⟨rfl, nofun⟩
  | succ left ih =>
    refine (hconnect nm).tryCatch (fun _ _ h => h) fun e nm₁ _ => ?_
    split
    · split
      · refine Calls.bind (Calls.quietly (calls_resetVpnBackendAfterFailure hheld settings)
          fun _ _ h => h) (fun _ nm₂ _ => ih) fun _ _ _ => nofun
      · exact hreset e nm₁
    · exact ⟨rfl, nofun⟩

end Nm

/-! ## Sessions -/

section Sessions

variable {lower : String → String} {decrypt : String → Except Exn String} {ρ : Type}
  {nm : NetworkManager}

/-- A process that has returned holds nothing. -/
def Released {ρ : Type} (_ : ρ) (held : Held) (_ : NetworkManager) : Prop := held = {}

theorem exists_groupLock (group : DeviceGroup) : ∃ name, groupLockFile group = .group name :=
  ⟨_, rfl⟩

/-- A body changes nothing about the VPN. -/
theorem safe_work {p : Prog Ask Ask.Answer ρ} (hp : p.Always fun c => ∃ what, c = .work what)
    {held : Held} :
    Safe decrypt (fun _ held' nm' => held' = held ∧ nm' = nm) p held nm := by
  induction p with
  | ret r => exact ⟨rfl, rfl⟩
  | call c next ih =>
    obtain ⟨⟨what, rfl⟩, hnext⟩ := hp
    refine ⟨trivial, fun answer held' nm' hmoves => ?_⟩
    obtain ⟨rfl, rfl⟩ := hmoves
    exact ih answer (hnext answer trivial)

/-- The clean-up ends with both locks released. -/
theorem safe_finish (group : DeviceGroup) (connected : Bool) (outcome : Except Exn String) :
    Safe decrypt Released (finish group connected [.all, groupLockFile group] outcome)
      { all := true, group := some (groupLockFile group) } nm := by
  have hheld : ({ all := true, group := some (groupLockFile group) } : Held).all = true ∧
      ({ all := true, group := some (groupLockFile group) } : Held).body = none := ⟨rfl, rfl⟩
  obtain ⟨name, hname⟩ := exists_groupLock group
  unfold finish
  refine Safe.bind (Q := fun _ held' _ =>
    held' = { all := true, group := some (groupLockFile group) }) ?_
    fun cleaned held nm₁ hlocks => ?_
  · split
    · exact Safe.imp (calls_disconnectGroupVpn hheld group) fun _ _ _ h => h.1
    · exact Safe.imp (Calls.quietly (calls_cleanupVpnProfiles hheld "").weaken fun _ _ h => h)
        fun _ _ _ h => h.1
  · subst hlocks
    rw [hname]
    refine ⟨⟨rfl, rfl⟩, fun _ held₁ nm₂ h₁ => ?_⟩
    obtain rfl : held₁ = { all := false, group := some (.group name) } := h₁
    refine ⟨⟨rfl, rfl, rfl⟩, fun _ held₂ nm₃ h₂ => ?_⟩
    obtain rfl : held₂ = {} := h₂
    cases cleaned with
    | error e => rfl
    | ok u => rfl

theorem safe_vpnSession (settings : Settings) (group : DeviceGroup)
    (htunnel : hasTunnel group = true) (body : Body) (nm : NetworkManager) :
    Safe decrypt Released (vpnSession lower decrypt settings group body) {} nm := by
  obtain ⟨name, hname⟩ := exists_groupLock group
  unfold vpnSession
  refine Safe.ask (by rw [hname]; exact ⟨rfl, rfl, rfl⟩) fun answer held₁ nm₁ h₁ => ?_
  rw [hname] at h₁
  obtain ⟨rfl, rfl⟩ := h₁
  refine Safe.ask ⟨rfl, rfl⟩ fun answer held₂ nm₂ h₂ => ?_
  obtain ⟨rfl, rfl⟩ := h₂
  refine Safe.bind (calls_connectWithRetries ⟨rfl, rfl⟩ settings group htunnel _)
    fun connected held₃ nm₃ h₃ => ?_
  obtain ⟨rfl, hown⟩ := h₃
  rw [← hname]
  cases connected with
  | error e => exact safe_finish group false (.error e)
  | ok u =>
    refine Safe.ask ⟨rfl, rfl, hown rfl⟩ fun _ held₄ nm₄ h₄ => ?_
    obtain ⟨rfl, rfl⟩ := h₄
    refine Safe.bind (safe_work body.isWork) fun outcome held₅ nm₅ h₅ => ?_
    obtain ⟨rfl, rfl⟩ := h₅
    refine Safe.ask ⟨rfl, nofun⟩ fun _ held₆ nm₆ h₆ => ?_
    obtain ⟨rfl, rfl⟩ := h₆
    exact safe_finish group true outcome

/-- Without a VPN there is nothing to test. -/
theorem safe_groupVpnTest (group : DeviceGroup) (hnone : group.usesVpn ≠ some true) :
    Safe decrypt Released (runGroupVpnTestTask lower decrypt group) {} nm := by
  unfold runGroupVpnTestTask
  rw [if_neg hnone]
  rfl

end Sessions

/-! ## The host and its processes -/

/-- What the host records of a process is what the process holds. -/
structure Matches (i : Nat) (held : Held) (h : Host) : Prop where
  all : held.all = true ↔ h.locks .all = some i
  group : ∀ name, held.group = some (.group name) ↔ h.locks (.group name) = some i
  body : ∀ g, held.body = some g ↔ (i, g) ∈ h.bodies

section Runs

variable {lower : String → String} {decrypt : String → Except Exn String} {i j : Nat}
  {held held' : Held} {h h' : Host} {choice : Choice}

/-- What one command of process `i` does to the host, as the others see it. -/
structure Step (decrypt : String → Except Exn String) (i : Nat) (held : Held) (h : Host) (c : Ask)
    (answer : c.Answer) (h' : Host) : Prop where
  /-- the process knows what it holds afterwards -/
  own : ∃ held', Matches i held' h' ∧ held.Moves h.nm c answer held' h'.nm ∧
    (held'.all = false → ∀ nm', if held.all then held.Moves h.nm c answer held' nm'
      else held.Moves nm' c answer held' nm')
  locks : ∀ j, j ≠ i → ∀ f, h'.locks f = some j ↔ h.locks f = some j
  bodies : ∀ j, j ≠ i → ∀ g, (j, g) ∈ h'.bodies ↔ (j, g) ∈ h.bodies
  /-- without the lock of all, NetworkManager is not touched -/
  nm : held.all = true ∨ h'.nm = h.nm
  /-- in a body, it is not touched either -/
  tunnel : ∀ g, (i, g) ∈ h'.bodies → h'.locks .all = some i ∧ OwnTunnel decrypt g h'.nm

/-- A command that leaves the host as it is. -/
theorem step_same {c : Ask} {answer : c.Answer} (hmatches : Matches i held h)
    (hmoves : ∀ nm, held.Moves nm c answer held nm)
    (htunnel : ∀ g, (i, g) ∈ h.bodies → h.locks .all = some i ∧ OwnTunnel decrypt g h.nm) :
    Step decrypt i held h c answer h where
  own := by
    refine ⟨held, hmatches, hmoves _, fun hall nm' => ?_⟩
    rw [hall, if_neg Bool.false_ne_true]
    exact hmoves nm'
  locks _ _ _ := Iff.rfl
  bodies _ _ _ := Iff.rfl
  nm := .inr rfl
  tunnel := htunnel

/-- A call of `nmcli`, or a kill, under the lock of all and outside of a body. -/
theorem step_nm {c : Ask} {answer : c.Answer} {nm' : NetworkManager} (hmatches : Matches i held h)
    (hheld : held.all = true ∧ held.body = none) (hmoves : held.Moves h.nm c answer held nm') :
    Step decrypt i held h c answer { h with nm := nm' } where
  own := by
    refine ⟨held, ⟨hmatches.all, hmatches.group, hmatches.body⟩, hmoves, fun hall => ?_⟩
    exact absurd (hheld.1.symm.trans hall) Bool.noConfusion
  locks _ _ _ := Iff.rfl
  bodies _ _ _ := Iff.rfl
  nm := .inl hheld.1
  tunnel g hg := by
    have hbody := (hmatches.body g).mpr hg
    exact absurd (hheld.2.symm.trans hbody) nofun

/-- Outside of a body there is nothing to show about it. -/
theorem no_body (hmatches : Matches i held h) (hbody : held.body = none) {g : DeviceGroup} :
    (i, g) ∉ h.bodies :=
  fun hg => nomatch hbody.symm.trans ((hmatches.body g).mpr hg)

theorem group_ne_all (name : String) : LockFile.group name ≠ .all := nofun

theorem step_flock {f : LockFile} {answer : Except Exn Unit} (hmatches : Matches i held h)
    (hallows : held.Allows decrypt h.nm (.flock f))
    (hchoice : untroubled h.nm (.flock f) choice = true)
    (hperform : perform i choice h (.flock f) = some (answer, h')) :
    Step decrypt i held h (.flock f) answer h' := by
  cases choice with
  | succeeds | fails | tells | explains | kills | works => cases hperform
  | raises => cases hchoice
  | done =>
    unfold perform at hperform
    dsimp only at hperform
    split at hperform
    next hfree =>
      cases hperform
      have hother : ∀ j, j ≠ i → ∀ f', Function.update h.locks f (some i) f' = some j ↔
          h.locks f' = some j := by
        intro j hj f'
        by_cases hf : f' = f
        · subst hf
          rw [Function.update_self, hfree]
          exact iff_of_false (fun he => hj (Option.some.inj he).symm) nofun
        · rw [Function.update_of_ne hf]
      cases f with
      | all =>
        refine ⟨⟨{ held with all := true }, ⟨?_, fun name => ?_, hmatches.body⟩, ⟨rfl, rfl⟩, nofun⟩,
          hother, fun _ _ _ => Iff.rfl, .inr rfl,
          fun g hg => absurd hg (no_body hmatches hallows.2)⟩
        · show true = true ↔ Function.update h.locks .all (some i) .all = some i
          rw [Function.update_self]
          exact iff_of_true rfl rfl
        · show held.group = _ ↔ Function.update h.locks .all (some i) (.group name) = some i
          rw [Function.update_of_ne (group_ne_all name)]
          exact hmatches.group name
      | group name =>
        obtain ⟨hall, hgroup, hbody⟩ := hallows
        refine ⟨⟨{ held with group := some (.group name) }, ⟨?_, fun name' => ?_, hmatches.body⟩,
          ⟨rfl, rfl⟩, fun _ nm' => ?_⟩, hother, fun _ _ _ => Iff.rfl, .inr rfl,
          fun g hg => absurd hg (no_body hmatches hbody)⟩
        · show held.all = true ↔ Function.update h.locks (.group name) (some i) .all = some i
          rw [Function.update_of_ne (group_ne_all name).symm]
          exact hmatches.all
        · show some (LockFile.group name) = _ ↔
            Function.update h.locks (.group name) (some i) (.group name') = some i
          by_cases hname : name' = name
          · subst hname
            rw [Function.update_self]
            exact iff_of_true rfl rfl
          · rw [Function.update_of_ne fun he => hname (LockFile.group.inj he),
              ← hmatches.group name', hgroup]
            refine iff_of_false (fun he => hname ?_) nofun
            exact (LockFile.group.inj (Option.some.inj he)).symm
        · split
          · exact ⟨rfl, rfl⟩
          · exact ⟨rfl, rfl⟩
    next => cases hperform

theorem step_unlock {f : LockFile} {answer : Unit} (hmatches : Matches i held h)
    (hallows : held.Allows decrypt h.nm (.unlock f))
    (hperform : perform i choice h (.unlock f) = some (answer, h')) :
    Step decrypt i held h (.unlock f) answer h' := by
  have hmine : h.locks f = some i := by
    cases f with
    | all => exact hmatches.all.mp hallows.1
    | group name => exact (hmatches.group name).mp hallows.2.1
  cases choice with
  | succeeds | fails | raises | tells | explains | kills | works => cases hperform
  | done =>
    unfold perform at hperform
    dsimp only at hperform
    rw [if_pos hmine] at hperform
    cases hperform
    have hother : ∀ j, j ≠ i → ∀ f', Function.update h.locks f none f' = some j ↔
        h.locks f' = some j := by
      intro j hj f'
      by_cases hf : f' = f
      · subst hf
        rw [Function.update_self, hmine]
        exact iff_of_false nofun fun he => hj (Option.some.inj he).symm
      · rw [Function.update_of_ne hf]
    cases f with
    | all =>
      refine ⟨⟨{ held with all := false }, ⟨?_, fun name => ?_, hmatches.body⟩, rfl,
        fun _ nm' => ?_⟩, hother, fun _ _ _ => Iff.rfl, .inr rfl,
        fun g hg => absurd hg (no_body hmatches hallows.2)⟩
      · show false = true ↔ Function.update h.locks .all none .all = some i
        rw [Function.update_self]
        exact iff_of_false nofun nofun
      · show held.group = _ ↔ Function.update h.locks .all none (.group name) = some i
        rw [Function.update_of_ne (group_ne_all name)]
        exact hmatches.group name
      · split
        · rfl
        · rfl
    | group name =>
      obtain ⟨hall, hgroup, hbody⟩ := hallows
      refine ⟨⟨{ held with group := none }, ⟨?_, fun name' => ?_, hmatches.body⟩, rfl,
        fun _ nm' => ?_⟩, hother, fun _ _ _ => Iff.rfl, .inr rfl,
        fun g hg => absurd hg (no_body hmatches hbody)⟩
      · show held.all = true ↔ Function.update h.locks (.group name) none .all = some i
        rw [Function.update_of_ne (group_ne_all name).symm]
        exact hmatches.all
      · show none = _ ↔ Function.update h.locks (.group name) none (.group name') = some i
        by_cases hname : name' = name
        · subst hname
          rw [Function.update_self]
          exact iff_of_false nofun nofun
        · rw [Function.update_of_ne fun he => hname (LockFile.group.inj he),
            ← hmatches.group name', hgroup]
          refine iff_of_false nofun fun he => hname ?_
          exact (LockFile.group.inj (Option.some.inj he)).symm
      · split
        · rfl
        · rfl

theorem step_enter {group : DeviceGroup} (hmatches : Matches i held h)
    (hallows : held.Allows decrypt h.nm (.enter group)) :
    Step decrypt i held h (.enter group) () { h with bodies := (i, group) :: h.bodies } := by
  obtain ⟨hall, hbody, htunnel⟩ := hallows
  refine ⟨⟨{ held with body := some group }, ⟨hmatches.all, hmatches.group, fun g => ?_⟩,
    ⟨rfl, rfl⟩, fun h => absurd (hall.symm.trans h) Bool.noConfusion⟩, fun _ _ _ => Iff.rfl,
    fun j hj g => ?_, .inr rfl, fun g hg => ?_⟩
  · show some group = some g ↔ (i, g) ∈ (i, group) :: h.bodies
    rw [List.mem_cons, or_iff_left (no_body hmatches hbody)]
    constructor
    · intro hg
      rw [Option.some.inj hg]
    · intro hg
      rw [(Prod.mk.inj hg).2]
  · show (j, g) ∈ (i, group) :: h.bodies ↔ (j, g) ∈ h.bodies
    rw [List.mem_cons, or_iff_right fun hjg => hj (Prod.mk.inj hjg).1]
  · have hmem : (i, g) = (i, group) :=
      (List.mem_cons.mp hg).resolve_right (no_body hmatches hbody)
    rw [(Prod.mk.inj hmem).2]
    exact ⟨hmatches.all.mp hall, htunnel⟩

theorem step_leave (hmatches : Matches i held h) (hallows : held.Allows decrypt h.nm .leave) :
    Step decrypt i held h .leave () { h with bodies := h.bodies.filter (·.1 ≠ i) } := by
  have hnone : ∀ g, (i, g) ∉ h.bodies.filter (·.1 ≠ i) := fun g hg =>
    of_decide_eq_true (List.mem_filter.mp hg).2 rfl
  refine ⟨⟨{ held with body := none }, ⟨hmatches.all, hmatches.group, fun g => ?_⟩, ⟨rfl, rfl⟩,
    fun h => absurd (hallows.1.symm.trans h) Bool.noConfusion⟩, fun _ _ _ => Iff.rfl,
    fun j hj g => ?_, .inr rfl, fun g hg => absurd hg (hnone g)⟩
  · exact iff_of_false nofun (hnone g)
  · show (j, g) ∈ h.bodies.filter (·.1 ≠ i) ↔ (j, g) ∈ h.bodies
    rw [List.mem_filter, and_iff_left (decide_eq_true hj)]

/-- A command that the process may issue, untroubled. -/
theorem perform_step {c : Ask} {answer : c.Answer} (hmatches : Matches i held h)
    (hallows : held.Allows decrypt h.nm c) (hchoice : untroubled h.nm c choice = true)
    (htunnel : ∀ g, (i, g) ∈ h.bodies → h.locks .all = some i ∧ OwnTunnel decrypt g h.nm)
    (hperform : perform i choice h c = some (answer, h')) : Step decrypt i held h c answer h' := by
  cases c with
  | flock f => exact step_flock hmatches hallows hchoice hperform
  | unlock f => exact step_unlock hmatches hallows hperform
  | nmcli c =>
    obtain ⟨⟨a, nm'⟩, hnmcli, heq⟩ := Option.map_eq_some_iff.mp hperform
    cases heq
    exact step_nm hmatches hallows ⟨rfl, choice, hchoice, hnmcli⟩
  | pkill pattern =>
    cases choice with
    | succeeds | fails | raises | tells | explains | works | done => cases hperform
    | kills names =>
      cases hperform
      exact step_nm hmatches hallows rfl
  | enter group =>
    cases choice with
    | succeeds | fails | raises | tells | explains | kills | works => cases hperform
    | done =>
      cases hperform
      exact step_enter hmatches hallows
  | leave =>
    cases choice with
    | succeeds | fails | raises | tells | explains | kills | works => cases hperform
    | done =>
      cases hperform
      exact step_leave hmatches hallows
  | which | expired =>
    cases choice with
    | succeeds | fails | raises | explains | kills | works | done => cases hperform
    | tells =>
      cases hperform
      exact step_same hmatches (fun _ => ⟨rfl, rfl⟩) htunnel
  | unavailable =>
    cases choice with
    | succeeds | fails | raises | tells | kills | works | done => cases hperform
    | explains =>
      cases hperform
      exact step_same hmatches (fun _ => ⟨rfl, rfl⟩) htunnel
  | work what =>
    cases choice with
    | succeeds | fails | raises | tells | explains | kills | done => cases hperform
    | works =>
      cases hperform
      exact step_same hmatches (fun _ => ⟨rfl, rfl⟩) htunnel

/-! ## Runs -/

/-- What a process holds fits the host and the rest of its program. -/
def Keeps (decrypt : String → Except Exn String) (i : Nat)
    (p : Prog Ask Ask.Answer (Except Exn String)) (h : Host) : Prop :=
  ∃ held, Matches i held h ∧
    ∀ nm, (held.all = true → nm = h.nm) → Safe decrypt Released p held nm

structure Inv (decrypt : String → Except Exn String) (s : Worker) : Prop where
  keeps : EachProcess (Keeps decrypt) s
  /-- only processes hold locks -/
  holders : ∀ f i, s.shared.locks f = some i → i < s.processes.length
  tunnel : ∀ i g, (i, g) ∈ s.shared.bodies →
    s.shared.locks .all = some i ∧ OwnTunnel decrypt g s.shared.nm

/-- A process that starts holds nothing. -/
theorem matches_new {s : Worker} (hinv : Inv decrypt s) :
    Matches s.processes.length {} s.shared where
  all := iff_of_false nofun fun hlock => absurd (hinv.holders _ _ hlock) (Nat.lt_irrefl _)
  group _ := iff_of_false nofun fun hlock => absurd (hinv.holders _ _ hlock) (Nat.lt_irrefl _)
  body _ := iff_of_false nofun fun hg =>
    absurd (hinv.holders _ _ (hinv.tunnel _ _ hg).1) (Nat.lt_irrefl _)

theorem inv_start {settings : Settings} {s s' : Worker} {call : Call} (hinv : Inv decrypt s)
    (hok : Orderly s (.start call))
    (hstep : processStep (worker lower decrypt settings) s (.start call) = some s') :
    Inv decrypt s' := by
  have hkeeps : EachProcess (Keeps decrypt) s' := by
    refine hinv.keeps.start hstep ⟨{}, matches_new hinv, fun nm _ => ?_⟩
    cases call with
    | session group body => exact safe_vpnSession settings group hok body nm
    | groupVpnTest group => exact safe_groupVpnTest group (of_decide_eq_true hok)
  obtain rfl := Option.some.inj hstep
  refine ⟨hkeeps, fun f i hlock => ?_, hinv.tunnel⟩
  have hlt := hinv.holders f i hlock
  rw [List.length_append]
  omega

theorem inv_step {settings : Settings} {s s' : Worker} {i : Nat} (hinv : Inv decrypt s)
    (hok : Orderly s (.step i choice))
    (hstep : processStep (worker lower decrypt settings) s (.step i choice) = some s') :
    Inv decrypt s' := by
  obtain ⟨c, next, answer, hi, hperform, hset⟩ := processStep_step hstep
  obtain ⟨held, hmatches, hsafe⟩ := hinv.keeps i _ hi
  have hchoice : untroubled s.shared.nm c choice = true := by
    unfold Orderly orderly at hok
    dsimp only at hok
    rwa [hi] at hok
  have hnow := hsafe s.shared.nm fun _ => rfl
  have hdone := perform_step hmatches hnow.1 hchoice (hinv.tunnel i) hperform
  obtain ⟨held', hmatches', hmoves, hfree⟩ := hdone.own
  have hlength : s'.processes.length = s.processes.length := by
    rw [hset, List.length_set]
  refine ⟨hinv.keeps.move hi hset ⟨held', hmatches', fun nm' hnm' => ?_⟩
    fun j p hj hp => ?_, fun f j hlock => ?_, fun j g hg => ?_⟩
  · -- what the process goes on with
    cases hall' : held'.all with
    | true =>
      rw [hnm' hall']
      exact hnow.2 _ _ _ hmoves
    | false =>
      have hnext := hfree hall' nm'
      split at hnext
      · exact hnow.2 _ _ _ hnext
      · next hall => exact (hsafe nm' fun h => absurd h hall).2 _ _ _ hnext
  · -- what the others keep
    obtain ⟨held₂, hmatches₂, hsafe₂⟩ := hp
    refine ⟨held₂, ⟨?_, fun name => ?_, fun g => ?_⟩, fun nm' hnm' => hsafe₂ nm' fun hall₂ => ?_⟩
    · rw [hmatches₂.all, hdone.locks j hj]
    · rw [hmatches₂.group, hdone.locks j hj]
    · rw [hmatches₂.body, hdone.bodies j hj]
    · rw [hnm' hall₂]
      refine hdone.nm.resolve_left fun hall => hj ?_
      exact Option.some.inj ((hmatches₂.all.mp hall₂).symm.trans (hmatches.all.mp hall))
  · by_cases hj : j = i
    · rw [hj, hlength]
      exact (List.getElem?_eq_some_iff.mp hi).1
    · rw [hlength]
      exact hinv.holders f j ((hdone.locks j hj f).mp hlock)
  · by_cases hj : j = i
    · subst hj
      exact hdone.tunnel g hg
    · obtain ⟨hlock, htunnel⟩ := hinv.tunnel j g ((hdone.bodies j hj g).mp hg)
      refine ⟨(hdone.locks j hj _).mpr hlock, ?_⟩
      rwa [hdone.nm.resolve_left fun hall => hj ?_]
      exact Option.some.inj (hlock.symm.trans (hmatches.all.mp hall))

theorem exclusive_of_inv {s : Worker} (hinv : Inv decrypt s) : Exclusive decrypt s where
  tunnel b hb := (hinv.tunnel b.1 b.2 hb).2
  quiet i c next hbodies hi := by
    obtain ⟨held, hmatches, hsafe⟩ := hinv.keeps i _ hi
    obtain ⟨hall, hbody⟩ := (hsafe s.shared.nm fun _ => rfl).1
    obtain ⟨⟨j, g⟩, hg⟩ := List.exists_mem_of_ne_nil _ hbodies
    have hlock := hmatches.all.mp hall
    obtain rfl : i = j := Option.some.inj (hlock.symm.trans (hinv.tunnel j g hg).1)
    exact no_body hmatches hbody hg
  released i r f hi hlock := by
    obtain ⟨held, hmatches, hsafe⟩ := hinv.keeps i _ hi
    obtain rfl : held = {} := hsafe s.shared.nm fun _ => rfl
    cases f with
    | all => exact absurd (hmatches.all.mpr hlock) nofun
    | group name => exact absurd ((hmatches.group name).mpr hlock) nofun

/-- For every host whose locks are free at the start and every interleaving. -/
theorem sessions_exclusive (settings : Settings) {nm : NetworkManager} {s : Worker}
    {es : List (ProcessEvent Call Choice)}
    (hok : Along (processStep (worker lower decrypt settings)) Orderly
      { shared := { nm := nm } } es)
    (hrun : exec (processStep (worker lower decrypt settings)) { shared := { nm := nm } } es =
      some s) : Exclusive decrypt s := by
  have hinit : Inv decrypt { shared := { nm := nm } } := by
    refine ⟨fun i p h => ?_, fun f i h => ?_, fun i g h => ?_⟩
    · cases h
    · cases h
    · cases h
  have hstep : ∀ t e t', Inv decrypt t → Orderly t e →
      processStep (worker lower decrypt settings) t e = some t' → Inv decrypt t' := by
    intro t e t' hinv hok hstep
    cases e with
    | start call => exact inv_start hinv hok hstep
    | step i choice => exact inv_step hinv hok hstep
  exact exclusive_of_inv (exec_invariant hstep hinit hok hrun)

end Runs

/-! ## A test during a session -/

/-- A group with the VPN data that a connection needs. -/
def vpnGroup (id : Nat) : DeviceGroup where
  id := id
  tenantId := 1
  name := "Provedor"
  slug := "provedor"
  usesVpn := some true
  vpnServer := some "10.0.0.1"
  vpnUsername := some "backup"
  vpnPasswordEncrypted := some "senha"

def emptyBody : Body where
  run := return "ok"
  isWork := trivial

def vpnWorker : Kernel Host Ask Ask.Answer (Except Exn String) Call Choice :=
  worker asciiLower .ok {}

/-- A session connects, with nothing to clean up before, and enters its body. -/
def connecting : List (ProcessEvent Call Choice) :=
  let nothing : Choice := .fails false { returncode := 10 }
  .start (.session (vpnGroup 1) emptyBody) ::
    [.done, .done, .tells true, .explains none, .succeeds "running" [], .succeeds "" [],
      .succeeds "" [], .tells false, .succeeds "" [], nothing, nothing, nothing, nothing,
      .succeeds "" [], .succeeds "" [], .done].map (.step 0)

/-- A VPN test starts meanwhile. -/
def testing : List (ProcessEvent Call Choice) :=
  connecting ++
    [.start (.groupVpnTest (vpnGroup 2)), .step 1 (.tells true), .step 1 (.explains none)]

theorem sessions_exclusive_connected :
    ∃ s, exec (processStep vpnWorker) { shared := {} } connecting = some s ∧
      s.shared.bodies ≠ [] ∧ Exclusive .ok s := by
  have hbody : (exec (processStep vpnWorker) { shared := {} } connecting).any
      (fun s => !s.shared.bodies.isEmpty) = true := by decide +kernel
  have hok : Along (processStep vpnWorker) Orderly { shared := {} } connecting :=
    along_of_check (by decide +kernel)
  obtain ⟨s, hrun, hs⟩ := (Option.any_eq_true _ _).mp hbody
  refine ⟨s, hrun, ?_, sessions_exclusive {} hok hrun⟩
  intro hnone
  rw [hnone] at hs
  cases hs

def callsNmcli : Prog Ask Ask.Answer (Except Exn String) → Bool
  | .call (.nmcli _) _ => true
  | _ => false

/-- The test is about to call `nmcli` in the middle of the body. -/
theorem test_during_session :
    ¬ ∀ (es : List (ProcessEvent Call Choice)) (s : Worker),
      exec (processStep vpnWorker) { shared := {} } es = some s → Exclusive .ok s := by
  intro hclaim
  have htest : (exec (processStep vpnWorker) { shared := {} } testing).any
      (fun s => !s.shared.bodies.isEmpty && (s.processes[1]?).any callsNmcli) = true := by
    decide +kernel
  obtain ⟨s, hrun, hs⟩ := (Option.any_eq_true _ _).mp htest
  obtain ⟨hbody, htesting⟩ := Bool.and_eq_true_iff.mp hs
  obtain ⟨p, hp, hcalls⟩ := (Option.any_eq_true _ _).mp htesting
  have hbodies : s.shared.bodies ≠ [] := by
    intro hnone
    rw [hnone] at hbody
    cases hbody
  unfold callsNmcli at hcalls
  split at hcalls
  · next c next => exact (hclaim _ s hrun).quiet 1 c next hbodies hp
  · cases hcalls

end BackupCenter.Vpn
