import BackupCenter.Lib.Interleaving

/-!
# Commands that must be earned

A client may issue a command that costs something only after answers have earned it. If
every program keeps to its own budget, then in any interleaving of them no more is spent
than has been earned.
-/
namespace BackupCenter.Lib

variable {σ Cmd Call ε ρ τ : Type} {Ans : Cmd → Type}
  {earn : (c : Cmd) → Ans c → Nat} {spend : Cmd → Nat}

namespace Prog

/-- With a budget of `n`, the program can pay for every command that it issues. -/
def Affords (earn : (c : Cmd) → Ans c → Nat) (spend : Cmd → Nat) : Nat → Prog Cmd Ans ρ → Prop
  | _, ret _ => True
  | n, call c next =>
    spend c ≤ n ∧ ∀ a, (next a).Affords earn spend (n - spend c + earn c a)

theorem Affords.mono {p : Prog Cmd Ans ρ} {n m : Nat} (h : p.Affords earn spend n) (hle : n ≤ m) :
    p.Affords earn spend m := by
  induction p generalizing n m with
  | ret r => trivial
  | call c next ih =>
    refine ⟨Nat.le_trans h.1 hle, fun a => ih a (h.2 a) ?_⟩
    omega

/-- A program that spends nothing hands its budget on. -/
theorem Always.affords_bind {p : Prog Cmd Ans ρ} {f : ρ → Prog Cmd Ans τ} {n : Nat}
    (h : p.Always fun c => spend c = 0) (hf : ∀ r, (f r).Affords earn spend n) :
    (p >>= f).Affords earn spend n := by
  induction p with
  | ret r => exact hf r
  | call c next ih =>
    have hc : spend c = 0 := h.1
    refine ⟨by omega, fun a => (ih a (h.2 a trivial)).mono ?_⟩
    omega

theorem Always.affords {p : Prog Cmd Ans ρ} {n : Nat} (h : p.Always fun c => spend c = 0) :
    p.Affords earn spend n := by
  induction p generalizing n with
  | ret r => trivial
  | call c next ih =>
    have hc : spend c = 0 := h.1
    exact ⟨by omega, fun a => ih a (h.2 a trivial)⟩

end Prog

/-- The clients' budgets add up to `n`. -/
inductive Budgeted (earn : (c : Cmd) → Ans c → Nat) (spend : Cmd → Nat) :
    List (Prog Cmd Ans ρ) → Nat → Prop where
  | nil : Budgeted earn spend [] 0
  | cons {p : Prog Cmd Ans ρ} {ps : List (Prog Cmd Ans ρ)} {k n : Nat}
    (hp : p.Affords earn spend k) (hps : Budgeted earn spend ps n) :
    Budgeted earn spend (p :: ps) (k + n)

variable {ps : List (Prog Cmd Ans ρ)} {p : Prog Cmd Ans ρ} {n : Nat}

theorem Budgeted.append (h : Budgeted earn spend ps n) (hp : p.Affords earn spend 0) :
    Budgeted earn spend (ps ++ [p]) n := by
  induction h with
  | nil => exact .cons hp .nil
  | cons hq _ ih => exact .cons hq ih

/-- The budget of one client, and those of the others. -/
theorem Budgeted.split (h : Budgeted earn spend ps n) {i : Nat} (hi : ps[i]? = some p) :
    ∃ k m, n = k + m ∧ p.Affords earn spend k ∧ ∀ (q : Prog Cmd Ans ρ) (j : Nat),
      q.Affords earn spend j → Budgeted earn spend (ps.set i q) (j + m) := by
  induction h generalizing i with
  | nil => simp at hi
  | @cons p₀ ps k n hp hps ih =>
    cases i with
    | zero =>
      obtain rfl : p₀ = p := by simpa using hi
      exact ⟨k, n, rfl, hp, fun q j hq => .cons hq hps⟩
    | succ i =>
      obtain ⟨k', m, rfl, hp', hset⟩ := ih (by simpa using hi)
      refine ⟨k', k + m, by omega, hp', fun q j hq => ?_⟩
      have := Budgeted.cons hp (hset q j hq)
      rwa [show k + (j + m) = j + (k + m) by omega] at this

/-- What has been spent and what the clients may still spend has been earned. -/
def Solvent (earn : (c : Cmd) → Ans c → Nat) (spend : Cmd → Nat) (spent earned : σ → Nat)
    (s : Clients σ Cmd Ans ρ) : Prop :=
  ∃ n, Budgeted earn spend s.clients n ∧ spent s.shared + n ≤ earned s.shared

variable {S : Semantics σ Cmd Ans ρ Call ε} {spent earned : σ → Nat} {s s' : Clients σ Cmd Ans ρ}
  {e : ClientEvent Call ε}

/-- Programs that start without a budget keep the system solvent. -/
theorem Solvent.step (h : Solvent earn spend spent earned s) (hs : clientStep S s e = some s')
    (hprogram : ∀ call, (S.program call).Affords earn spend 0)
    (hspent : ∀ c t, spent (S.handle c t).2 = spent t + spend c)
    (hearned : ∀ c t, earned (S.handle c t).2 = earned t + earn c (S.handle c t).1)
    (henv : ∀ x t u, S.environment x t = some u → spent u = spent t ∧ earned u = earned t) :
    Solvent earn spend spent earned s' := by
  obtain ⟨n, hn, hle⟩ := h
  cases e with
  | spawn call =>
    obtain rfl := Option.some.inj hs
    exact ⟨n, hn.append (hprogram call), hle⟩
  | advance i =>
    obtain ⟨c, next, hc, hshared, hclients⟩ := clientStep_advance hs
    obtain ⟨k, m, rfl, hk, hset⟩ := hn.split hc
    have hpaid := hk.1
    refine ⟨_, hclients ▸ hset _ _ (hk.2 (S.handle c s.shared).1), ?_⟩
    rw [hshared, hspent, hearned]
    omega
  | env x =>
    obtain ⟨ht, hclients⟩ := clientStep_env hs
    obtain ⟨h1, h2⟩ := henv x _ _ ht
    exact ⟨n, hclients ▸ hn, by rw [h1, h2]; exact hle⟩

end BackupCenter.Lib
