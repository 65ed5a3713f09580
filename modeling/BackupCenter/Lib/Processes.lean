import BackupCenter.Lib.Exec
import BackupCenter.Lib.Prog
import BackupCenter.Lib.Workers

/-!
# Numbered processes on one host

Any number of processes run programs on a shared state. What a command does may depend on the number
of the process that issues it and on a choice of the surroundings, and a choice may be impossible.
-/
namespace BackupCenter.Lib

variable {σ Cmd Call χ ρ : Type} {Ans : Cmd → Type}

structure Processes (σ Cmd : Type) (Ans : Cmd → Type) (ρ : Type) where
  shared : σ
  processes : List (Prog Cmd Ans ρ) := []

inductive ProcessEvent (Call χ : Type) where
  | start (call : Call)
  | step (i : Nat) (choice : χ)

/-- What the commands do, and what a call runs. -/
structure Kernel (σ Cmd : Type) (Ans : Cmd → Type) (ρ Call χ : Type) where
  perform : Nat → χ → σ → (c : Cmd) → Option (Ans c × σ)
  program : Call → Prog Cmd Ans ρ

/-- A process starts, or one of them executes its next command. -/
def processStep (K : Kernel σ Cmd Ans ρ Call χ) (s : Processes σ Cmd Ans ρ) :
    ProcessEvent Call χ → Option (Processes σ Cmd Ans ρ)
  | .start call => some { s with processes := s.processes ++ [K.program call] }
  | .step i choice =>
    match s.processes[i]? with
    | some (.call c next) =>
      (K.perform i choice s.shared c).map fun r =>
        { shared := r.2, processes := s.processes.set i (next r.1) }
    | _ => none

variable {K : Kernel σ Cmd Ans ρ Call χ} {s s' : Processes σ Cmd Ans ρ}

theorem processStep_step {i : Nat} {choice : χ} (h : processStep K s (.step i choice) = some s') :
    ∃ c next a, s.processes[i]? = some (.call c next) ∧
      K.perform i choice s.shared c = some (a, s'.shared) ∧
      s'.processes = s.processes.set i (next a) := by
  simp only [processStep] at h
  split at h
  next c next hc =>
    obtain ⟨⟨a, t⟩, hperform, rfl⟩ := Option.map_eq_some_iff.mp h
    exact ⟨c, next, a, hc, hperform, rfl⟩
  next => cases h

/-- Each process meets its assertion in the shared state. -/
def EachProcess (P : Nat → Prog Cmd Ans ρ → σ → Prop) (s : Processes σ Cmd Ans ρ) : Prop :=
  ∀ i p, s.processes[i]? = some p → P i p s.shared

/-- A process that starts meets its assertion, and the others keep theirs. -/
theorem EachProcess.start {P : Nat → Prog Cmd Ans ρ → σ → Prop} {call : Call}
    (h : EachProcess P s) (hs : processStep K s (.start call) = some s')
    (hnew : P s.processes.length (K.program call) s.shared) : EachProcess P s' := by
  obtain rfl := Option.some.inj hs
  intro i p hp
  rcases getElem?_started hp with hp | ⟨rfl, rfl⟩
  · exact h i p hp
  · exact hnew

/-- A process that moves keeps its assertion, and leaves those of the others intact. -/
theorem EachProcess.move {P : Nat → Prog Cmd Ans ρ → σ → Prop} {i : Nat} {c : Cmd}
    {next : Ans c → Prog Cmd Ans ρ} {a : Ans c} (h : EachProcess P s)
    (hi : s.processes[i]? = some (.call c next)) (hset : s'.processes = s.processes.set i (next a))
    (hown : P i (next a) s'.shared)
    (hothers : ∀ j p, j ≠ i → P j p s.shared → P j p s'.shared) : EachProcess P s' := by
  intro j p hp
  rw [hset] at hp
  rcases getElem?_moved hi hp with ⟨rfl, rfl⟩ | ⟨hj, hp⟩
  · exact hown
  · exact hothers j p hj (h j p hp)

end BackupCenter.Lib
