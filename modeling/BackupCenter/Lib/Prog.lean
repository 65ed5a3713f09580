import Mathlib.Logic.Basic

/-!
# Client programs over atomic commands

A client issues commands one at a time and continues with the answer. `Respects` is
its contract with the other clients: as long as the answers are as assumed, it issues
only permitted commands. `Withholds` says that some results are reserved for runs in
which a marked command has been issued.

`effect s c a` is the state after command `c` was answered with `a`, and `none` where that answer
cannot come. `Runs` collects the commands of a run with their answers, whatever these are.
-/
namespace BackupCenter.Lib

/-- A program over commands `Cmd` with answers `Ans`, returning a `ρ`. -/
inductive Prog (Cmd : Type) (Ans : Cmd → Type) (ρ : Type) where
  | ret (r : ρ)
  | call (c : Cmd) (next : Ans c → Prog Cmd Ans ρ)

namespace Prog

variable {Cmd : Type} {Ans : Cmd → Type} {ρ τ : Type}

def bind : Prog Cmd Ans ρ → (ρ → Prog Cmd Ans τ) → Prog Cmd Ans τ
  | ret r, f => f r
  | call c next, f => call c fun a => (next a).bind f

instance : Monad (Prog Cmd Ans) where
  pure := ret
  bind := bind

/-- Issue one command and return its answer. -/
def ask (c : Cmd) : Prog Cmd Ans (Ans c) := call c ret

@[simp] theorem pure_eq (r : ρ) : (pure r : Prog Cmd Ans ρ) = ret r := rfl

@[simp] theorem ret_bind (r : ρ) (f : ρ → Prog Cmd Ans τ) : (ret r >>= f) = f r := rfl

@[simp] theorem call_bind (c : Cmd) (next : Ans c → Prog Cmd Ans ρ) (f : ρ → Prog Cmd Ans τ) :
    (call c next >>= f) = call c fun a => next a >>= f := rfl

@[simp] theorem ask_bind (c : Cmd) (f : Ans c → Prog Cmd Ans τ) :
    (ask c >>= f) = call c f := rfl

theorem bind_ret (p : Prog Cmd Ans ρ) : (p >>= ret) = p := by
  induction p with
  | ret r => rfl
  | call c next ih => exact congrArg (call c) (funext ih)

theorem bind_assoc {υ : Type} (p : Prog Cmd Ans ρ) (f : ρ → Prog Cmd Ans τ)
    (g : τ → Prog Cmd Ans υ) : (p >>= f >>= g) = (p >>= fun r => f r >>= g) := by
  induction p with
  | ret r => rfl
  | call c next ih => exact congrArg (call c) (funext ih)

/-- The program runs to its end, with no other client in between. -/
def run {σ : Type} (handle : (c : Cmd) → σ → Ans c × σ) : Prog Cmd Ans ρ → σ → ρ × σ
  | ret r, s => (r, s)
  | call c next, s => (next (handle c s).1).run handle (handle c s).2

/-- The commands that the program issues when it runs alone. -/
def issued {σ : Type} (handle : (c : Cmd) → σ → Ans c × σ) : Prog Cmd Ans ρ → σ → List Cmd
  | ret _, _ => []
  | call c next, s => c :: (next (handle c s).1).issued handle (handle c s).2

theorem run_bind {σ : Type} (handle : (c : Cmd) → σ → Ans c × σ) (p : Prog Cmd Ans ρ)
    (f : ρ → Prog Cmd Ans τ) (s : σ) :
    (p >>= f).run handle s = (f (p.run handle s).1).run handle (p.run handle s).2 := by
  induction p generalizing s with
  | ret r => rfl
  | call c next ih => exact ih _ _

variable {ok : Cmd → Prop} {ans : (c : Cmd) → Ans c → Prop} {mark : Cmd → Prop}
  {post post' : ρ → Prop} {post₂ : τ → Prop}

/-- While the answers satisfy `ans`, only commands in `ok` are issued; the result
satisfies `post`. -/
def Respects (ok : Cmd → Prop) (ans : (c : Cmd) → Ans c → Prop) (post : ρ → Prop) :
    Prog Cmd Ans ρ → Prop
  | ret r => post r
  | call c next => ok c ∧ ∀ a, ans c a → (next a).Respects ok ans post

theorem Respects.mono {p : Prog Cmd Ans ρ} (h : p.Respects ok ans post)
    (himp : ∀ r, post r → post' r) : p.Respects ok ans post' := by
  induction p with
  | ret r => exact himp r h
  | call c next ih => exact ⟨h.1, fun a ha => ih a (h.2 a ha)⟩

/-- Sequential composition: the second program starts from a result of the first. -/
theorem Respects.bind {p : Prog Cmd Ans ρ} {f : ρ → Prog Cmd Ans τ}
    (h : p.Respects ok ans post) (hf : ∀ r, post r → (f r).Respects ok ans post₂) :
    (p >>= f).Respects ok ans post₂ := by
  induction p with
  | ret r => exact hf r h
  | call c next ih => exact ⟨h.1, fun a ha => ih a (h.2 a ha)⟩

/-- Whatever the answers, only commands in `ok` are issued. -/
abbrev Always (ok : Cmd → Prop) (p : Prog Cmd Ans ρ) : Prop :=
  p.Respects ok (fun _ _ => True) fun _ => True

theorem Always.bind {p : Prog Cmd Ans ρ} {f : ρ → Prog Cmd Ans τ} (h : p.Always ok)
    (hf : ∀ r, (f r).Always ok) : (p >>= f).Always ok :=
  Respects.bind h fun r _ => hf r

/-- A promise about the commands alone holds under any assumption about the answers. -/
theorem Always.respects {ok' : Cmd → Prop} {p : Prog Cmd Ans ρ} (h : p.Always ok)
    (himp : ∀ c, ok c → ok' c) : p.Respects ok' ans fun _ => True := by
  induction p with
  | ret r => trivial
  | call c next ih => exact ⟨himp c h.1, fun a _ => ih a (h.2 a trivial)⟩

/-- Until a command in `mark` is issued, the program returns only results in `post`. -/
def Withholds (mark : Cmd → Prop) (post : ρ → Prop) : Prog Cmd Ans ρ → Prop
  | ret r => post r
  | call c next => mark c ∨ ∀ a, (next a).Withholds mark post

/-- Whatever the first program does, the second one withholds. -/
theorem Withholds.bind {p : Prog Cmd Ans ρ} {f : ρ → Prog Cmd Ans τ}
    (h : p.Withholds mark post) (hf : ∀ r, post r → (f r).Withholds mark post₂) :
    (p >>= f).Withholds mark post₂ := by
  induction p with
  | ret r => exact hf r h
  | call c next ih => exact h.imp_right fun hn a => ih a (hn a)

/-- A program that promises nothing withholds nothing. -/
theorem withholds_trivial (p : Prog Cmd Ans ρ) : p.Withholds mark fun _ => True := by
  induction p with
  | ret r => trivial
  | call c next ih => exact .inr ih

/-! ## Programs and what they do to their surroundings -/

section Effects

variable {σ : Type}

/-- A command with its answer. -/
abbrev Answered (Ans : Cmd → Type) := (c : Cmd) × Ans c

variable (effect : σ → (c : Cmd) → Ans c → Option σ)

/-- The program runs from one state to another with these answers, and returns the result. -/
inductive Runs : Prog Cmd Ans ρ → σ → List (Answered Ans) → ρ → σ → Prop
  | ret (r : ρ) (s : σ) : Runs (.ret r) s [] r s
  | call {c : Cmd} {next : Ans c → Prog Cmd Ans ρ} {s s' s'' : σ} {a : Ans c}
      {trace : List (Answered Ans)} {r : ρ} (heffect : effect s c a = some s')
      (hnext : Runs (next a) s' trace r s'') : Runs (.call c next) s (⟨c, a⟩ :: trace) r s''

variable {effect}

theorem runs_ret {r r' : ρ} {s s' : σ} {trace : List (Answered Ans)} :
    (ret r : Prog Cmd Ans ρ).Runs effect s trace r' s' ↔ trace = [] ∧ r' = r ∧ s' = s := by
  constructor
  · intro h
    cases h
    exact ⟨rfl, rfl, rfl⟩
  · rintro ⟨rfl, rfl, rfl⟩
    exact .ret _ _

theorem runs_call {c : Cmd} {next : Ans c → Prog Cmd Ans ρ} {r : ρ} {s s'' : σ}
    {trace : List (Answered Ans)} (h : (call c next).Runs effect s trace r s'') :
    ∃ a s' rest, trace = ⟨c, a⟩ :: rest ∧ effect s c a = some s' ∧
      (next a).Runs effect s' rest r s'' := by
  cases h with
  | call heffect hnext => exact ⟨_, _, _, rfl, heffect, hnext⟩

/-- A program that goes on with the answer to a command. -/
theorem runs_ask {c : Cmd} {f : Ans c → Prog Cmd Ans ρ} {r : ρ} {s s'' : σ}
    {trace : List (Answered Ans)} (h : (ask c >>= f).Runs effect s trace r s'') :
    ∃ a s' rest, trace = ⟨c, a⟩ :: rest ∧ effect s c a = some s' ∧
      (f a).Runs effect s' rest r s'' :=
  runs_call h

/-- A run of two programs in sequence is a run of one and then of the other. -/
theorem runs_bind {p : Prog Cmd Ans ρ} {f : ρ → Prog Cmd Ans τ} {r : τ} {s s'' : σ}
    {trace : List (Answered Ans)} (h : (p >>= f).Runs effect s trace r s'') :
    ∃ first rest r' s', trace = first ++ rest ∧ p.Runs effect s first r' s' ∧
      (f r').Runs effect s' rest r s'' := by
  induction p generalizing s trace with
  | ret r' => exact ⟨[], trace, r', s, rfl, .ret r' s, h⟩
  | call c next ih =>
    obtain ⟨a, s', rest, rfl, heffect, hnext⟩ := runs_call h
    obtain ⟨first, rest', r', t, rfl, hp, hf⟩ := ih a hnext
    exact ⟨⟨c, a⟩ :: first, rest', r', t, rfl, .call heffect hp, hf⟩

/-- Commands without an effect leave the state as it was. -/
theorem Runs.unchanged {ok : Cmd → Prop} {p : Prog Cmd Ans ρ} (hp : p.Always ok)
    (hok : ∀ s c a s', ok c → effect s c a = some s' → s' = s) {r : ρ} {s s' : σ}
    {trace : List (Answered Ans)} (h : p.Runs effect s trace r s') :
    s' = s ∧ ∀ e ∈ trace, ok e.1 := by
  induction h with
  | ret r s => exact ⟨rfl, nofun⟩
  | call heffect hnext ih =>
    obtain ⟨hs, hrest⟩ := ih (hp.2 _ trivial)
    rw [hok _ _ _ _ hp.1 heffect] at hs
    refine ⟨hs, fun e he => ?_⟩
    rcases List.mem_cons.mp he with rfl | he
    · exact hp.1
    · exact hrest e he

end Effects

end Prog
end BackupCenter.Lib
