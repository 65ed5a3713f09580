import BackupCenter.Lib.Exec
import BackupCenter.Lib.Prog
import Mathlib.Data.List.Basic

/-!
# Interleaved clients of a shared state

Any number of clients run concurrently; each step executes one command of one client
atomically on the shared state, starts a new client, or lets the environment act. A
client that has returned stays in the list as its result.

A client acts on what it has read, and by then the shared state may have moved on. The
recorded system keeps the past states, so that an assertion can speak of the states in
which the answers were given. A program's contract is stated for an arbitrary set of
states that contains them.
-/
namespace BackupCenter.Lib

variable {σ Cmd Call ε ρ : Type} {Ans : Cmd → Type}

structure Clients (σ Cmd : Type) (Ans : Cmd → Type) (ρ : Type) where
  shared : σ
  clients : List (Prog Cmd Ans ρ) := []

inductive ClientEvent (Call ε : Type) where
  | spawn (call : Call)
  | advance (i : Nat)
  | env (e : ε)

/-- What the commands do, what a call runs, and what the environment may do. -/
structure Semantics (σ Cmd : Type) (Ans : Cmd → Type) (ρ Call ε : Type) where
  handle : (c : Cmd) → σ → Ans c × σ
  program : Call → Prog Cmd Ans ρ
  environment : ε → σ → Option σ

/-- One step of the interleaved system. -/
def clientStep (S : Semantics σ Cmd Ans ρ Call ε) (s : Clients σ Cmd Ans ρ) :
    ClientEvent Call ε → Option (Clients σ Cmd Ans ρ)
  | .spawn call => some { s with clients := s.clients ++ [S.program call] }
  | .advance i =>
    match s.clients[i]? with
    | some (.call c next) =>
      let (a, t) := S.handle c s.shared
      some { shared := t, clients := s.clients.set i (next a) }
    | _ => none
  | .env e => (S.environment e s.shared).map fun t => { s with shared := t }

variable {S : Semantics σ Cmd Ans ρ Call ε} {s s' : Clients σ Cmd Ans ρ}

/-- A client executes its next command. -/
theorem clientStep_advance {i : Nat} (h : clientStep S s (.advance i) = some s') :
    ∃ c next, s.clients[i]? = some (.call c next) ∧ s'.shared = (S.handle c s.shared).2 ∧
      s'.clients = s.clients.set i (next (S.handle c s.shared).1) := by
  simp only [clientStep] at h
  split at h
  next c next hc =>
    obtain rfl := Option.some.inj h
    exact ⟨c, next, hc, rfl, rfl⟩
  next => cases h

theorem clientStep_env {e : ε} (h : clientStep S s (.env e) = some s') :
    S.environment e s.shared = some s'.shared ∧ s'.clients = s.clients := by
  obtain ⟨t, ht, rfl⟩ := Option.map_eq_some_iff.mp h
  exact ⟨ht, rfl⟩

/-- After a replacement, a member is the new element or stood at another index. -/
theorem mem_set_cases {α : Type*} {l : List α} {i : Nat} {x y : α} (h : y ∈ l.set i x) :
    y = x ∨ ∃ j, j ≠ i ∧ l[j]? = some y := by
  obtain ⟨j, hj, hget⟩ := List.mem_iff_getElem.mp h
  by_cases hij : i = j
  · subst hij
    simp only [List.getElem_set_self] at hget
    exact .inl hget.symm
  · rw [List.getElem_set_ne hij] at hget
    rw [List.length_set] at hj
    exact .inr ⟨j, fun he => hij he.symm, by rw [List.getElem?_eq_getElem hj, hget]⟩

/-- The shared state meets `Inv`, and each client meets `P` in it. -/
def AllClients (Inv : σ → Prop) (P : Prog Cmd Ans ρ → σ → Prop) (s : Clients σ Cmd Ans ρ) : Prop :=
  Inv s.shared ∧ ∀ p ∈ s.clients, P p s.shared

/-- One step keeps an assertion about each client, if a new client meets it, the client
that moves keeps it, and what it does leaves the assertions of the others intact. -/
theorem AllClients.step {Inv : σ → Prop} {P : Prog Cmd Ans ρ → σ → Prop} {e : ClientEvent Call ε}
    (h : AllClients Inv P s) (hs : clientStep S s e = some s')
    (hspawn : ∀ call, e = .spawn call → P (S.program call) s.shared)
    (hmove : ∀ i c next, e = .advance i → s.clients[i]? = some (.call c next) →
      P (.call c next) s.shared → Inv (S.handle c s.shared).2 ∧
        P (next (S.handle c s.shared).1) (S.handle c s.shared).2 ∧
        ∀ j q, j ≠ i → s.clients[j]? = some q → P q s.shared → P q (S.handle c s.shared).2)
    (henv : ∀ x t, e = .env x → S.environment x s.shared = some t →
      Inv t ∧ ∀ q ∈ s.clients, P q s.shared → P q t) :
    AllClients Inv P s' := by
  obtain ⟨hInv, hP⟩ := h
  cases e with
  | spawn call =>
    obtain rfl := Option.some.inj hs
    refine ⟨hInv, fun p hp => ?_⟩
    rcases List.mem_append.mp hp with hp | hp
    · exact hP p hp
    · obtain rfl := List.mem_singleton.mp hp
      exact hspawn call rfl
  | advance i =>
    obtain ⟨c, next, hc, hshared, hclients⟩ := clientStep_advance hs
    obtain ⟨h1, h2, h3⟩ := hmove i c next rfl hc (hP _ (List.mem_of_getElem? hc))
    rw [AllClients, hshared, hclients]
    refine ⟨h1, fun p hp => ?_⟩
    rcases mem_set_cases hp with rfl | ⟨j, hj, hq⟩
    · exact h2
    · exact h3 j p hj hq (hP p (List.mem_of_getElem? hq))
  | env x =>
    obtain ⟨ht, hclients⟩ := clientStep_env hs
    obtain ⟨h1, h2⟩ := henv x s'.shared rfl ht
    refine ⟨h1, fun p hp => ?_⟩
    rw [hclients] at hp
    exact h2 p hp (hP p hp)

/-! ## Answers with a history -/

/-- A state with the states before it, latest first. -/
structure Recorded (σ : Type) where
  now : σ
  past : List σ := []

/-- The same system, recording its past. -/
def Semantics.recorded (S : Semantics σ Cmd Ans ρ Call ε) :
    Semantics (Recorded σ) Cmd Ans ρ Call ε where
  handle c r := ((S.handle c r.now).1, ⟨(S.handle c r.now).2, r.now :: r.past⟩)
  program := S.program
  environment x r := (S.environment x r.now).map fun t => ⟨t, r.now :: r.past⟩

/-- The answer was given in a state of `H`. -/
def AnsweredIn (handle : (c : Cmd) → σ → Ans c × σ) (H : σ → Prop) (c : Cmd) (a : Ans c) : Prop :=
  ∃ s, H s ∧ a = (handle c s).1

/-- A program that, with answers from states of `H`, issues only commands that `H` justifies,
whatever further states `H` has besides the past. -/
def Justified (handle : (c : Cmd) → σ → Ans c × σ) (ok : (σ → Prop) → Cmd → Prop)
    (p : Prog Cmd Ans ρ) (r : Recorded σ) : Prop :=
  ∀ H : σ → Prop, (∀ s ∈ r.past, H s) → p.Respects (ok H) (AnsweredIn handle H) fun _ => True

variable {S : Semantics σ Cmd Ans ρ Call ε} {ok : (σ → Prop) → Cmd → Prop}
  {Inv : Recorded σ → Prop} {s s' : Clients (Recorded σ) Cmd Ans ρ} {e : ClientEvent Call ε}

/-- One step of the recorded system: what a command needs is justified by the past. -/
theorem AllClients.recorded_step (h : AllClients Inv (Justified S.handle ok) s)
    (hs : clientStep S.recorded s e = some s')
    (hprogram : ∀ call H, (S.program call).Respects (ok H) (AnsweredIn S.handle H) fun _ => True)
    (hhandle : ∀ c, ok (fun t => t ∈ s.shared.now :: s.shared.past) c →
      Inv ⟨(S.handle c s.shared.now).2, s.shared.now :: s.shared.past⟩)
    (henv : ∀ x t, S.environment x s.shared.now = some t →
      Inv ⟨t, s.shared.now :: s.shared.past⟩) :
    AllClients Inv (Justified S.handle ok) s' := by
  have hold : ∀ (q : Prog Cmd Ans ρ) (t : σ), Justified S.handle ok q s.shared →
      Justified S.handle ok q ⟨t, s.shared.now :: s.shared.past⟩ :=
    fun q t hq H hH => hq H fun u hu => hH u (List.mem_cons_of_mem _ hu)
  refine AllClients.step h hs (fun call _ H _ => hprogram call H) (fun i c next _ _ hp => ?_)
    fun x t _ ht => ?_
  · have hnow := (hp _ fun u hu => List.mem_cons_of_mem s.shared.now hu).1
    refine ⟨hhandle c hnow, fun H hH => ?_, fun j q _ _ hq => hold q _ hq⟩
    have hmore := hp H fun u hu => hH u (List.mem_cons_of_mem _ hu)
    exact hmore.2 _ ⟨s.shared.now, hH _ (List.mem_cons_self ..), rfl⟩
  · obtain ⟨u, hu, rfl⟩ := Option.map_eq_some_iff.mp ht
    exact ⟨henv x u hu, fun q _ hq => hold q u hq⟩

end BackupCenter.Lib
