import BackupCenter.Lib.Guests
import Mathlib.Order.Defs.Unbundled

/-!
# Programs under interference

What the other clients do between two commands of a program is only known up to a
preorder. `Under` says that the program keeps its guarantee at every command, and ends in
its postcondition, wherever the others may have taken the state meanwhile.
-/
namespace BackupCenter.Lib

variable {σ Cmd Call ε ρ τ : Type} {Ans : Cmd → Type}

namespace Prog

variable (later : σ → σ → Prop) (handle : (c : Cmd) → σ → Ans c × σ) (ok : σ → Cmd → Prop)

def Under (post : σ → ρ → Prop) : Prog Cmd Ans ρ → σ → Prop
  | ret r, s => ∀ t, later s t → post t r
  | call c next, s =>
    ∀ t, later s t → ok t c ∧ (next (handle c t).1).Under post (handle c t).2

variable {later handle ok} {post : σ → ρ → Prop} {post₂ : σ → τ → Prop} {s t : σ}

theorem Under.imp {post' : σ → ρ → Prop} {p : Prog Cmd Ans ρ}
    (h : p.Under later handle ok post s) (himp : ∀ t r, post t r → post' t r) :
    p.Under later handle ok post' s := by
  induction p generalizing s with
  | ret r => exact fun t ht => himp t r (h t ht)
  | call c next ih => exact fun t ht => ⟨(h t ht).1, ih _ (h t ht).2⟩

/-- A program whose commands are permitted in every state. -/
theorem Under.of_always {p : Prog Cmd Ans ρ} (h : p.Always fun c => ∀ s, ok s c) :
    p.Under later handle ok (fun _ _ => True) s := by
  induction p generalizing s with
  | ret r => exact fun _ _ => trivial
  | call c next ih => exact fun t _ => ⟨h.1 t, ih _ (h.2 _ trivial)⟩

variable [IsPreorder σ later]

/-- Nothing is lost while the program waits. -/
theorem Under.mono {p : Prog Cmd Ans ρ} (h : p.Under later handle ok post s)
    (hst : later s t) : p.Under later handle ok post t := by
  cases p with
  | ret r => exact fun u hu => h u (IsTrans.trans _ _ _ hst hu)
  | call c next => exact fun u hu => h u (IsTrans.trans _ _ _ hst hu)

theorem Under.bind {p : Prog Cmd Ans ρ} {f : ρ → Prog Cmd Ans τ}
    (h : p.Under later handle ok post s)
    (hf : ∀ t r, post t r → (f r).Under later handle ok post₂ t) :
    (p >>= f).Under later handle ok post₂ s := by
  induction p generalizing s with
  | ret r => exact hf s r (h s (Std.Refl.refl s))
  | call c next ih => exact fun t ht => ⟨(h t ht).1, ih _ (h t ht).2⟩

/-- The program ends later than it started, if none of its commands takes the state back. -/
theorem Under.ends_later (hstep : ∀ t c, ok t c → later t (handle c t).2) {p : Prog Cmd Ans ρ}
    (h : p.Under later handle ok post s) :
    p.Under later handle ok (fun t r => later s t ∧ post t r) s := by
  induction p generalizing s with
  | ret r => exact fun t ht => ⟨ht, h t ht⟩
  | call c next ih =>
    intro t ht
    obtain ⟨hok, hnext⟩ := h t ht
    refine ⟨hok, (ih _ hnext).imp fun u r hu => ⟨?_, hu.2⟩⟩
    exact IsTrans.trans _ _ _ ht (IsTrans.trans _ _ _ (hstep t c hok) hu.1)

/-- Without interference the program ends in its postcondition too. -/
theorem Under.run {p : Prog Cmd Ans ρ} (h : p.Under later handle ok post s) :
    post (p.run handle s).2 (p.run handle s).1 := by
  induction p generalizing s with
  | ret r => exact h s (Std.Refl.refl s)
  | call c next ih => exact ih _ (h s (Std.Refl.refl s)).2

/-- A program that only reads leaves the state as it was. -/
theorem Under.run_reads {p : Prog Cmd Ans ρ}
    (h : p.Under later handle (fun t c => (handle c t).2 = t) post s) :
    (p.run handle s).2 = s := by
  induction p with
  | ret r => rfl
  | call c next ih =>
    obtain ⟨hreads, hnext⟩ := h s (Std.Refl.refl s)
    rw [hreads] at hnext
    show ((next (handle c s).1).run handle (handle c s).2).2 = s
    rw [hreads]
    exact ih _ hnext

end Prog

/-- A guest that only reads, while every permitted step of the host takes the state to a later
one, stays in its triple. -/
theorem exec_under {S : Semantics σ Cmd Ans ρ Call ε} {later : σ → σ → Prop}
    [IsPreorder σ later] {post : σ → τ → Prop} {Inv : Clients σ Cmd Ans ρ → Prop}
    {ok : Clients σ Cmd Ans ρ → ClientEvent Call ε → Prop}
    (hhost : ∀ r e r', Inv r → ok r e → clientStep S r e = some r' →
      Inv r' ∧ later r.shared r'.shared)
    {s s' : Guested σ Cmd Ans ρ τ} {es : List (GuestEvent (ClientEvent Call ε))}
    (hinv : Inv s.host)
    (h : s.guest.Under later S.handle (fun t c => (S.handle c t).2 = t) post s.host.shared)
    (hok : Along (guestStep S) (fun s e => ∀ e', e = .host e' → ok s.host e') s es)
    (hrun : exec (guestStep S) s es = some s') :
    Inv s'.host ∧ later s.host.shared s'.host.shared ∧
      s'.guest.Under later S.handle (fun t c => (S.handle c t).2 = t) post s'.host.shared := by
  induction es generalizing s with
  | nil =>
    obtain rfl := Option.some.inj hrun
    exact ⟨hinv, Std.Refl.refl _, h⟩
  | cons e es ih =>
    obtain ⟨t, ht, hrest⟩ := exec_cons hrun
    have hok' := hok.2 t ht
    cases e with
    | host e =>
      obtain ⟨hstep, hguest⟩ := guestStep_host ht
      obtain ⟨hinv', hlater⟩ := hhost _ e _ hinv (hok.1 e rfl) hstep
      obtain ⟨h1, h2, h3⟩ := ih hinv' (hguest ▸ h.mono hlater) hok' hrest
      exact ⟨h1, IsTrans.trans _ _ _ hlater h2, h3⟩
    | guest =>
      obtain ⟨c, next, hc, hguest, hhost'⟩ := guestStep_guest ht
      rw [hc] at h
      obtain ⟨hreads, hnext⟩ := h _ (Std.Refl.refl _)
      have hsame : t.host = s.host := by
        rw [hhost', hreads]
      rw [hreads, ← hguest] at hnext
      obtain ⟨h1, h2, h3⟩ := ih (s := t) (hsame ▸ hinv) (hsame ▸ hnext) hok' hrest
      exact ⟨h1, hsame ▸ h2, h3⟩

end BackupCenter.Lib
