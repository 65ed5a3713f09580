import BackupCenter.Lib.Prog

/-!
# Contracts on what a program has done so far

A contract keeps an account of the answered commands and says which command may come next. It is
checked along the program, whatever the answers; `Keeps.sound` reads it back as a statement on every
history. A program that raises has a postcondition for each of its two ways out.
-/
namespace BackupCenter.Lib

variable {Cmd ρ τ μ ε ε' α β : Type} {Ans : Cmd → Type}

/-- The account after a command and its answer, and the commands that an account permits. -/
structure Contract (Ans : Cmd → Type) (μ : Type) where
  permits : μ → Cmd → Prop
  after : μ → (c : Cmd) → Ans c → μ

namespace Contract

variable (C : Contract Ans μ)

/-- What a history amounts to. -/
def account (m : μ) (history : List (Prog.Answered Ans)) : μ :=
  history.foldl (fun m e => C.after m e.1 e.2) m

/-- Every command of the history was permitted when it came. -/
def Observed (m : μ) (history : List (Prog.Answered Ans)) : Prop :=
  ∀ before e rest, history = before ++ e :: rest → C.permits (C.account m before) e.1

theorem observed_nil (m : μ) : C.Observed m [] := by
  intro before e rest h
  have hlength := congrArg List.length h
  simp at hlength

theorem observed_cons {m : μ} {e : Prog.Answered Ans} {history : List (Prog.Answered Ans)}
    (he : C.permits m e.1) (h : C.Observed (C.after m e.1 e.2) history) :
    C.Observed m (e :: history) := by
  intro before e' rest hsplit
  cases before with
  | nil =>
    obtain ⟨rfl, -⟩ := List.cons.inj hsplit
    exact he
  | cons first before =>
    obtain ⟨rfl, hrest⟩ := List.cons.inj hsplit
    exact h before e' rest hrest

variable {C}

/-- What every permitted command preserves holds after every observed history. -/
theorem Observed.invariant {I : μ → Prop} {m : μ} {history : List (Prog.Answered Ans)}
    (hstep : ∀ m c a, I m → C.permits m c → I (C.after m c a)) (hm : I m)
    (h : C.Observed m history) : I (C.account m history) := by
  induction history generalizing m with
  | nil => exact hm
  | cons e history ih =>
    refine ih (hstep m e.1 e.2 hm (h [] e history rfl)) fun before e' rest hsplit => ?_
    exact h (e :: before) e' rest (congrArg (e :: ·) hsplit)

end Contract

namespace Prog

/-- The answers do not depend on any state. -/
def anyAnswer (_ : Unit) (c : Cmd) (_ : Ans c) : Option Unit := some ()

/-- A history of the program with the result it returns. -/
def Performs (p : Prog Cmd Ans ρ) (history : List (Answered Ans)) (r : ρ) : Prop :=
  p.Runs anyAnswer () history r ()

/-- The history and the result if every command is answered by `oracle`. -/
def played (oracle : (c : Cmd) → Ans c) : Prog Cmd Ans ρ → List (Answered Ans) × ρ
  | ret r => ([], r)
  | call c next =>
    let rest := (next (oracle c)).played oracle
    (⟨c, oracle c⟩ :: rest.1, rest.2)

theorem performs_played (oracle : (c : Cmd) → Ans c) (p : Prog Cmd Ans ρ) :
    p.Performs (p.played oracle).1 (p.played oracle).2 := by
  induction p with
  | ret r => exact .ret r ()
  | call c next ih => exact .call rfl (ih (oracle c))

/-- From the account `m` on, only permitted commands are issued; `post` holds at the end. -/
def Keeps (C : Contract Ans μ) (post : ρ → μ → Prop) : Prog Cmd Ans ρ → μ → Prop
  | ret r, m => post r m
  | call c next, m => C.permits m c ∧ ∀ a, (next a).Keeps C post (C.after m c a)

variable {C : Contract Ans μ} {post post' : ρ → μ → Prop} {post₂ : τ → μ → Prop} {m : μ}

theorem Keeps.mono {p : Prog Cmd Ans ρ} (h : p.Keeps C post m)
    (himp : ∀ r m, post r m → post' r m) : p.Keeps C post' m := by
  induction p generalizing m with
  | ret r => exact himp r m h
  | call c next ih => exact ⟨h.1, fun a => ih a (h.2 a)⟩

theorem Keeps.bind {p : Prog Cmd Ans ρ} {f : ρ → Prog Cmd Ans τ} (h : p.Keeps C post m)
    (hf : ∀ r m, post r m → (f r).Keeps C post₂ m) : (p >>= f).Keeps C post₂ m := by
  induction p generalizing m with
  | ret r => exact hf r m h
  | call c next ih => exact ⟨h.1, fun a => ih a (h.2 a)⟩

/-- Every history observes the contract and ends in an account with the postcondition. -/
theorem Keeps.sound {p : Prog Cmd Ans ρ} (h : p.Keeps C post m) {history : List (Answered Ans)}
    {r : ρ} (hp : p.Performs history r) :
    C.Observed m history ∧ post r (C.account m history) := by
  induction p generalizing m history with
  | ret r' =>
    obtain ⟨rfl, rfl, -⟩ := runs_ret.mp hp
    exact ⟨C.observed_nil m, h⟩
  | call c next ih =>
    obtain ⟨a, u, rest, rfl, -, hnext⟩ := runs_call hp
    obtain ⟨hobserved, hpost⟩ := ih a (h.2 a) hnext
    exact ⟨C.observed_cons h.1 hobserved, hpost⟩

end Prog

/-! ## Programs that raise -/

/-- A program that returns an `α` or raises an `ε`. -/
abbrev Raising (Ans : Cmd → Type) (ε α : Type) := ExceptT ε (Prog Cmd Ans) α

namespace Raising

/-- `try: p`, `except` with a handler for every exception. -/
def handle (p : Raising Ans ε α) (handler : ε → Raising Ans ε' α) : Raising Ans ε' α :=
  ExceptT.mk do
    match ← p.run with
    | .ok a => pure (.ok a)
    | .error e => (handler e).run

/-- `try: p`, `finally: cleanup`; an exception of the clean-up replaces what went before. -/
def ensuring (p : Raising Ans ε α) (cleanup : Raising Ans ε Unit) : Raising Ans ε α :=
  ExceptT.mk do
    let r ← p.run
    match ← cleanup.run with
    | .ok () => pure r
    | .error e => pure (.error e)

/-- What leaves the program is seen by the caller as another exception. -/
def relabel (g : ε → ε') (p : Raising Ans ε α) : Raising Ans ε' α :=
  p.handle fun e => throw (g e)

/-- One postcondition for each way out. -/
def outcome (ok : α → μ → Prop) (raised : ε → μ → Prop) : Except ε α → μ → Prop
  | .ok a => ok a
  | .error e => raised e

/-- `p` keeps the contract from `m` on and leaves with `ok` or with `raised`. Irreducible, so that
no tactic runs the program to find out what the statement is. -/
@[irreducible] def Meets (C : Contract Ans μ) (ok : α → μ → Prop) (raised : ε → μ → Prop)
    (p : Raising Ans ε α) (m : μ) : Prop :=
  p.run.Keeps C (outcome ok raised) m

variable {C : Contract Ans μ} {ok ok' : α → μ → Prop} {okβ : β → μ → Prop}
  {raised raised' : ε → μ → Prop} {p : Raising Ans ε α} {m : μ}

theorem meets_iff : Meets C ok raised p m ↔ p.run.Keeps C (outcome ok raised) m := by
  unfold Meets
  rfl

theorem meets_pure {a : α} (h : ok a m) : Meets C ok raised (pure a) m := meets_iff.mpr h

theorem meets_throw {e : ε} (h : raised e m) : Meets C ok raised (throw e : Raising Ans ε α) m :=
  meets_iff.mpr h

theorem Meets.mono (h : Meets C ok raised p m) (hok : ∀ a m, ok a m → ok' a m)
    (hraised : ∀ e m, raised e m → raised' e m) : Meets C ok' raised' p m := by
  refine meets_iff.mpr ((meets_iff.mp h).mono fun r m hr => ?_)
  cases r with
  | ok a => exact hok a m hr
  | error e => exact hraised e m hr

theorem Meets.bind {f : α → Raising Ans ε β} (h : Meets C ok raised p m)
    (hf : ∀ a m, ok a m → Meets C okβ raised (f a) m) : Meets C okβ raised (p >>= f) m := by
  refine meets_iff.mpr ((meets_iff.mp h).bind fun r m hr => ?_)
  cases r with
  | ok a => exact meets_iff.mp (hf a m hr)
  | error e => exact hr

theorem Meets.handle {handler : ε → Raising Ans ε' α} {raised' : ε' → μ → Prop}
    (h : Meets C ok raised p m) (hh : ∀ e m, raised e m → Meets C ok raised' (handler e) m) :
    Meets C ok raised' (Raising.handle p handler) m := by
  refine meets_iff.mpr ((meets_iff.mp h).bind fun r m hr => ?_)
  cases r with
  | ok a => exact hr
  | error e => exact meets_iff.mp (hh e m hr)

/-- The clean-up starts from either way out of the program. -/
theorem Meets.ensuring {cleanup : Raising Ans ε Unit} (h : Meets C ok' raised' p m)
    (hok : ∀ a m, ok' a m → Meets C (fun _ => ok a) raised cleanup m)
    (hraised : ∀ e m, raised' e m → Meets C (fun _ => raised e) raised cleanup m) :
    Meets C ok raised (Raising.ensuring p cleanup) m := by
  refine meets_iff.mpr ((meets_iff.mp h).bind fun r m hr => ?_)
  cases r with
  | ok a =>
    refine (meets_iff.mp (hok a m hr)).bind fun r' m' hr' => ?_
    cases r' with
    | ok u => exact hr'
    | error e => exact hr'
  | error e =>
    refine (meets_iff.mp (hraised e m hr)).bind fun r' m' hr' => ?_
    cases r' with
    | ok u => exact hr'
    | error e' => exact hr'

theorem Meets.relabel {g : ε → ε'} {raised' : ε' → μ → Prop}
    (h : Meets C ok (fun e => raised' (g e)) p m) :
    Meets C ok raised' (Raising.relabel g p) m :=
  h.handle fun _ _ he => meets_throw he

end Raising
end BackupCenter.Lib
