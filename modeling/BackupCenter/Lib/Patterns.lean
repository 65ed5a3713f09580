import BackupCenter.Lib.Prog

/-!
# Programs under every pattern of answers

A program whose commands are all answered alike runs under a pattern, the sequence of the answers it
will get. `Prog.Respects` speaks of the program's tree; here it is what holds under every pattern.
-/
namespace BackupCenter.Lib

namespace Prog

variable {Cmd Answer ρ τ : Type}

/-- The commands that the program issues under a pattern of answers. -/
def issuedUnder : Prog Cmd (fun _ => Answer) ρ → (Nat → Answer) → List Cmd
  | ret _, _ => []
  | call c next, pattern => c :: (next (pattern 0)).issuedUnder fun n => pattern (n + 1)

/-- The commands with their answers. -/
def answeredUnder : Prog Cmd (fun _ => Answer) ρ → (Nat → Answer) → List (Cmd × Answer)
  | ret _, _ => []
  | call c next, pattern =>
    (c, pattern 0) :: (next (pattern 0)).answeredUnder fun n => pattern (n + 1)

/-- What the program returns under a pattern of answers. -/
def resultUnder : Prog Cmd (fun _ => Answer) ρ → (Nat → Answer) → ρ
  | ret r, _ => r
  | call _ next, pattern => (next (pattern 0)).resultUnder fun n => pattern (n + 1)

/-- An answer and the answers after it. -/
def prepend (a : Answer) (pattern : Nat → Answer) : Nat → Answer
  | 0 => a
  | n + 1 => pattern n

variable [Nonempty Answer] {ok : Cmd → Prop} {post : ρ → Prop}

theorem always_iff {p : Prog Cmd (fun _ => Answer) ρ} :
    p.Always ok ↔ ∀ pattern, ∀ c ∈ p.issuedUnder pattern, ok c := by
  induction p with
  | ret r => exact ⟨fun _ _ _ hc => absurd hc List.not_mem_nil, fun _ => trivial⟩
  | call c next ih =>
    constructor
    · rintro ⟨hc, hnext⟩ pattern d hd
      rcases List.mem_cons.mp hd with rfl | hd
      · exact hc
      · exact (ih _).mp (hnext _ trivial) _ d hd
    · intro h
      obtain ⟨a⟩ := ‹Nonempty Answer›
      refine ⟨h (fun _ => a) c (List.mem_cons_self ..), fun b _ => ?_⟩
      refine (ih b).mpr fun pattern d hd => ?_
      exact h (prepend b pattern) d (List.mem_cons_of_mem _ hd)

/-- What the program returns under the patterns that answer as assumed. -/
theorem respects_result_iff {ans : Cmd → Answer → Prop} {p : Prog Cmd (fun _ => Answer) ρ} :
    p.Respects (fun _ => True) ans post ↔
      ∀ pattern, (∀ x ∈ p.answeredUnder pattern, ans x.1 x.2) → post (p.resultUnder pattern) := by
  induction p with
  | ret r => exact ⟨fun h _ _ => h, fun h => h Classical.ofNonempty (by simp [answeredUnder])⟩
  | call c next ih =>
    constructor
    · rintro ⟨-, hnext⟩ pattern hans
      have hhead : ans c (pattern 0) := hans (c, pattern 0) (List.mem_cons_self ..)
      exact (ih _).mp (hnext _ hhead) _ fun x hx => hans x (List.mem_cons_of_mem _ hx)
    · refine fun h => ⟨trivial, fun a ha => (ih a).mpr fun pattern hans => ?_⟩
      refine h (prepend a pattern) fun x hx => ?_
      rcases List.mem_cons.mp hx with rfl | hx
      · exact ha
      · exact hans x hx

omit [Nonempty Answer] in
/-- The commands of a composition, exactly. -/
theorem respects_bind_iff {Ans : Cmd → Type} {ans : (c : Cmd) → Ans c → Prop} {post₂ : τ → Prop}
    {p : Prog Cmd Ans ρ} {f : ρ → Prog Cmd Ans τ} :
    (p >>= f).Respects ok ans post₂ ↔
      p.Respects ok ans fun r => (f r).Respects ok ans post₂ := by
  induction p with
  | ret r => exact Iff.rfl
  | call c next ih =>
    exact and_congr_right fun _ => forall_congr' fun a => imp_congr_right fun _ => ih a

omit [Nonempty Answer] in
theorem respects_ite {Ans : Cmd → Type} {ans : (c : Cmd) → Ans c → Prop} {P : Prop} [Decidable P]
    {p q : Prog Cmd Ans ρ} (hp : P → p.Respects ok ans post) (hq : ¬ P → q.Respects ok ans post) :
    (if P then p else q).Respects ok ans post := by
  split
  · exact hp ‹P›
  · exact hq ‹¬ P›

omit [Nonempty Answer] in
theorem Respects.imp_ok {Ans : Cmd → Type} {ans : (c : Cmd) → Ans c → Prop} {ok' : Cmd → Prop}
    {p : Prog Cmd Ans ρ} (h : p.Respects ok ans post) (himp : ∀ c, ok c → ok' c) :
    p.Respects ok' ans post := by
  induction p with
  | ret r => exact h
  | call c next ih => exact ⟨himp c h.1, fun a ha => ih a (h.2 a ha)⟩

omit [Nonempty Answer] in
theorem Always.of_bind {Ans : Cmd → Type} {p : Prog Cmd Ans ρ} {f : ρ → Prog Cmd Ans τ}
    (h : (p >>= f).Always ok) : p.Always ok :=
  (respects_bind_iff.mp h).mono fun _ _ => trivial

end Prog
end BackupCenter.Lib
