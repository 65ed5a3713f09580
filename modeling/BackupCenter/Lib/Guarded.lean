import Mathlib.Logic.Basic

/-!
# Guarded transactions and exceptions

A request passes a sequence of guards and either commits one new state with an answer or
is refused with an answer, which leaves the state as it was. What a request that got
through has passed is read off its guards by simplification.

Handlers catch some exceptions, and the exception of clean-up code replaces what went before.
`OnlyRaises P x` says which exceptions may leave `x`; each construct has the rule that says exactly
when.
-/
namespace BackupCenter.Lib

variable {α β ε ρ σ : Type}

/-- Go on under a condition only. -/
def require (c : Prop) [Decidable c] (refusal : ρ) : Except ρ Unit :=
  if c then .ok () else .error refusal

/-- Go on with a value only. -/
def demand (o : Option α) (refusal : ρ) : Except ρ α :=
  match o with
  | some a => .ok a
  | none => .error refusal

/-- Answer an error. -/
def orRefuse (x : Except ε α) (refusal : ε → ρ) : Except ρ α :=
  match x with
  | .ok a => .ok a
  | .error e => .error (refusal e)

@[simp] theorem bind_eq_ok {x : Except ρ α} {f : α → Except ρ β} {b : β} :
    (x >>= f) = .ok b ↔ ∃ a, x = .ok a ∧ f a = .ok b := by
  cases x with
  | error e => exact ⟨nofun, fun ⟨_, h, _⟩ => nomatch h⟩
  | ok a => exact ⟨fun h => ⟨a, rfl, h⟩, fun ⟨_, ha, h⟩ => Except.ok.inj ha ▸ h⟩

@[simp] theorem pure_eq_ok {a b : α} : (pure a : Except ρ α) = .ok b ↔ a = b :=
  ⟨Except.ok.inj, congrArg Except.ok⟩

@[simp] theorem require_eq_ok {c : Prop} [Decidable c] {refusal : ρ} {u : Unit} :
    require c refusal = .ok u ↔ c := by
  by_cases h : c <;> simp [require, h]

@[simp] theorem demand_eq_ok {o : Option α} {refusal : ρ} {a : α} :
    demand o refusal = .ok a ↔ o = some a := by
  cases o <;> simp [demand]

@[simp] theorem orRefuse_eq_ok {x : Except ε α} {refusal : ε → ρ} {a : α} :
    orRefuse x refusal = .ok a ↔ x = .ok a := by
  cases x <;> simp [orRefuse]

/-- The state after a request: the committed one, or the old one. -/
def settled (s : σ) (x : Except ρ (σ × ρ)) : σ × ρ :=
  match x with
  | .ok committed => committed
  | .error refusal => (s, refusal)

/-- What holds of the old state holds after the request exactly when every commit keeps it. -/
theorem settled_iff {P : σ → Prop} {s : σ} {x : Except ρ (σ × ρ)} (hs : P s) :
    P (settled s x).1 ↔ ∀ s', (∃ r, x = .ok (s', r)) → P s' := by
  cases x with
  | error r => exact ⟨fun _ _ ⟨_, h⟩ => (nomatch h), fun _ => hs⟩
  | ok c =>
    refine ⟨fun h s' ⟨r, hr⟩ => ?_, fun h => h c.1 ⟨c.2, rfl⟩⟩
    obtain rfl := Except.ok.inj hr
    exact h

theorem settled_of {P : σ → Prop} {s : σ} {x : Except ρ (σ × ρ)} (hs : P s)
    (hok : ∀ c, x = .ok c → P c.1) : P (settled s x).1 :=
  (settled_iff hs).mpr fun _ ⟨_, hr⟩ => hok _ hr

/-! ## Exceptions -/

section Exceptions

/-- `try: x`, `except` for the exceptions in `handles`. -/
def catching (handles : ε → Bool) (x : Except ε α) (handler : ε → Except ε α) : Except ε α :=
  match x with
  | .ok a => .ok a
  | .error e => if handles e then handler e else .error e

/-- `try: x`, `finally: cleanup`. -/
def ensuring (x : Except ε α) (cleanup : Except ε Unit) : Except ε α :=
  match cleanup with
  | .ok () => x
  | .error e => .error e

/-- Every exception that leaves `x` is in `P`. -/
def OnlyRaises (P : ε → Prop) (x : Except ε α) : Prop := ∀ e, x = .error e → P e

/-- No exception leaves `x`. -/
def NeverRaises (x : Except ε α) : Prop := OnlyRaises (fun _ => False) x

variable {P Q : ε → Prop} {x : Except ε α} {f : α → Except ε β} {handles : ε → Bool}
  {handler : ε → Except ε α} {cleanup : Except ε Unit}

@[simp] theorem onlyRaises_ok {a : α} : OnlyRaises P (.ok a : Except ε α) :=
  fun _ h => nomatch h

@[simp] theorem onlyRaises_error {e : ε} : OnlyRaises P (.error e : Except ε α) ↔ P e :=
  ⟨fun h => h e rfl, fun h _ he => Except.error.inj he ▸ h⟩

theorem onlyRaises_bind :
    OnlyRaises P (x >>= f) ↔ OnlyRaises P x ∧ ∀ a, x = .ok a → OnlyRaises P (f a) := by
  cases x with
  | ok a =>
    constructor
    · intro h
      refine ⟨onlyRaises_ok, fun b hb => ?_⟩
      exact Except.ok.inj hb ▸ h
    · exact fun h => h.2 a rfl
  | error e =>
    constructor
    · intro h
      refine ⟨onlyRaises_error.mpr (onlyRaises_error.mp h), fun a ha => ?_⟩
      cases ha
    · exact fun h => onlyRaises_error.mpr (onlyRaises_error.mp h.1)

theorem onlyRaises_seq {first : Except ε Unit} :
    OnlyRaises P (first >>= fun _ => x) ↔
      OnlyRaises P first ∧ (first = .ok () → OnlyRaises P x) := by
  rw [onlyRaises_bind]
  exact and_congr_right fun _ => ⟨fun h => h (), fun h _ => h⟩

theorem onlyRaises_map {g : α → β} : OnlyRaises P (x.map g) ↔ OnlyRaises P x := by
  cases x with
  | ok a => exact iff_of_true onlyRaises_ok onlyRaises_ok
  | error e => exact onlyRaises_error.trans onlyRaises_error.symm

/-- What leaves a handled body is what the handler does not take, or raises itself. -/
theorem onlyRaises_catching :
    OnlyRaises P (catching handles x handler) ↔
      ∀ e, x = .error e → if handles e then OnlyRaises P (handler e) else P e := by
  cases x with
  | ok a => simp [catching]
  | error e =>
    by_cases h : handles e = true
    · simp [catching, h]
    · simp [catching, h]

/-- The clean-up always runs, and its exception hides that of the body. -/
theorem onlyRaises_ensuring :
    OnlyRaises P (ensuring x cleanup) ↔
      OnlyRaises P cleanup ∧ (cleanup = .ok () → OnlyRaises P x) := by
  cases cleanup with
  | ok u => simp [ensuring]
  | error e => simp [ensuring]

theorem OnlyRaises.imp (h : OnlyRaises P x) (himp : ∀ e, P e → Q e) : OnlyRaises Q x :=
  fun e he => himp e (h e he)

theorem neverRaises_iff : NeverRaises x ↔ ∃ a, x = .ok a := by
  cases x with
  | ok a => exact iff_of_true onlyRaises_ok ⟨a, rfl⟩
  | error e => simp [NeverRaises]

/-- A body whose exceptions are all handled, by a handler that raises none. -/
theorem neverRaises_catching (h : ∀ e, NeverRaises (handler e)) :
    NeverRaises (catching handles x handler) ↔ OnlyRaises (fun e => handles e = true) x := by
  unfold NeverRaises
  rw [onlyRaises_catching]
  apply forall_congr'
  intro e
  apply imp_congr_right
  intro _
  by_cases hh : handles e = true
  · simp only [hh, if_true, iff_true]
    exact h e
  · simp [hh]

end Exceptions

end BackupCenter.Lib
