import Mathlib.Logic.Basic

/-!
# Schedules of a labelled transition system

A system is a partial step function: `step s e` is the state after event `e`, and
`none` where `e` cannot happen in `s`. A schedule is a list of events. `Along`
states a condition on every step that a schedule really takes, so that a result
about "every run whose steps all meet the condition" is one application of
`exec_invariant`.
-/
namespace BackupCenter.Lib

variable {σ ε : Type*} (step : σ → ε → Option σ)

/-- Execute a schedule; it is cut off at the first event that cannot happen. -/
def exec : σ → List ε → Option σ
  | s, [] => some s
  | s, e :: es => (step s e).bind fun s' => exec s' es

/-- Each event of the schedule meets `ok` in the state in which it happens. -/
def Along (ok : σ → ε → Prop) : σ → List ε → Prop
  | _, [] => True
  | s, e :: es => ok s e ∧ ∀ s', step s e = some s' → Along ok s' es

/-- Evaluates a decidable condition along a schedule. -/
def checkAlong (ok : σ → ε → Bool) : σ → List ε → Bool
  | _, [] => true
  | s, e :: es => ok s e && (step s e).all fun s' => checkAlong ok s' es

variable {step}

theorem exec_cons {s s' : σ} {e : ε} {es : List ε} (h : exec step s (e :: es) = some s') :
    ∃ t, step s e = some t ∧ exec step t es = some s' :=
  Option.bind_eq_some_iff.mp h

theorem exec_append {s t : σ} {es fs : List ε}
    (h : exec step s es = some t) : exec step s (es ++ fs) = exec step t fs := by
  induction es generalizing s with
  | nil =>
    obtain rfl := Option.some.inj h
    rfl
  | cons e es ih =>
    obtain ⟨u, hu, hrest⟩ := exec_cons h
    rw [List.cons_append, exec, hu]
    exact ih hrest

theorem exec_split {s s' : σ} {es fs : List ε} (h : exec step s (es ++ fs) = some s') :
    ∃ t, exec step s es = some t ∧ exec step t fs = some s' := by
  induction es generalizing s with
  | nil => exact ⟨s, rfl, h⟩
  | cons e es ih =>
    obtain ⟨u, hu, hrest⟩ := exec_cons h
    obtain ⟨t, ht, hfs⟩ := ih hrest
    exact ⟨t, by rw [exec, hu]; exact ht, hfs⟩

/-- The last event of a schedule. -/
theorem exec_concat {s s' : σ} {es : List ε} {e : ε} (h : exec step s (es ++ [e]) = some s') :
    ∃ t, exec step s es = some t ∧ step t e = some s' := by
  induction es generalizing s with
  | nil =>
    obtain ⟨t, ht, hrest⟩ := exec_cons h
    exact ⟨s, rfl, ht.trans hrest⟩
  | cons a es ih =>
    obtain ⟨u, hu, hrest⟩ := exec_cons h
    obtain ⟨t, ht, hstep⟩ := ih hrest
    exact ⟨t, by rw [exec, hu]; exact ht, hstep⟩

theorem Along.mono {ok ok' : σ → ε → Prop} (himp : ∀ s e, ok s e → ok' s e) {s : σ} {es : List ε}
    (h : Along step ok s es) : Along step ok' s es := by
  induction es generalizing s with
  | nil => trivial
  | cons e es ih => exact ⟨himp s e h.1, fun s' hs => ih (h.2 s' hs)⟩

/-- Under an invariant that permitted steps preserve, a condition implied by it and by what is
permitted holds along the schedule. -/
theorem Along.of_invariant {Inv : σ → Prop} {ok ok' : σ → ε → Prop}
    (hstep : ∀ s e s', Inv s → ok s e → step s e = some s' → Inv s')
    (himp : ∀ s e, Inv s → ok s e → ok' s e) {s : σ} {es : List ε} (hi : Inv s)
    (h : Along step ok s es) : Along step ok' s es := by
  induction es generalizing s with
  | nil => trivial
  | cons e es ih => exact ⟨himp s e hi h.1, fun s' hs => ih (hstep s e s' hi h.1 hs) (h.2 s' hs)⟩

/-- What every event meets can be added to what holds along the schedule. -/
theorem Along.and_mem {ok : σ → ε → Prop} {P : ε → Prop} {s : σ} {es : List ε}
    (h : Along step ok s es) (hP : ∀ e ∈ es, P e) : Along step (fun s e => ok s e ∧ P e) s es := by
  induction es generalizing s with
  | nil => trivial
  | cons e es ih =>
    exact ⟨⟨h.1, hP e (List.mem_cons_self ..)⟩,
      fun s' hs => ih (h.2 s' hs) fun e' he' => hP e' (List.mem_cons_of_mem _ he')⟩

theorem along_of_check {ok : σ → ε → Prop} [∀ s e, Decidable (ok s e)] {s : σ} {es : List ε}
    (h : checkAlong step (fun s e => decide (ok s e)) s es = true) : Along step ok s es := by
  induction es generalizing s with
  | nil => trivial
  | cons e es ih =>
    obtain ⟨hok, hrest⟩ := Bool.and_eq_true_iff.mp h
    refine ⟨of_decide_eq_true hok, fun s' hs => ih ?_⟩
    rw [hs] at hrest
    exact hrest

/-- What holds along a schedule holds of each of its events in the state that it meets. -/
theorem Along.at_event {ok : σ → ε → Prop} {s s' : σ} {es rest : List ε} {e : ε}
    (h : Along step ok s (es ++ e :: rest)) (hrun : exec step s es = some s') : ok s' e := by
  induction es generalizing s with
  | nil =>
    obtain rfl := Option.some.inj hrun
    exact h.1
  | cons a es ih =>
    obtain ⟨t, ht, hrest⟩ := exec_cons hrun
    exact ih (h.2 t ht) hrest

/-- Two conditions that agree in every reachable state hold along the same schedules. -/
theorem along_congr {Inv : σ → Prop} {ok ok' : σ → ε → Prop}
    (hstep : ∀ s e s', Inv s → step s e = some s' → Inv s')
    (hiff : ∀ s e, Inv s → (ok s e ↔ ok' s e)) {s : σ} {es : List ε} (hi : Inv s) :
    Along step ok s es ↔ Along step ok' s es := by
  induction es generalizing s with
  | nil => exact Iff.rfl
  | cons e es ih =>
    apply and_congr (hiff s e hi)
    apply forall_congr'
    intro s'
    apply imp_congr_right
    intro hs
    exact ih (hstep s e s' hi hs)

/-- What every permitted step preserves holds in every state a permitted run reaches. -/
theorem exec_invariant {Inv : σ → Prop} {ok : σ → ε → Prop}
    (hstep : ∀ s e s', Inv s → ok s e → step s e = some s' → Inv s')
    {s s' : σ} {es : List ε} (hi : Inv s) (hok : Along step ok s es)
    (hrun : exec step s es = some s') : Inv s' := by
  induction es generalizing s with
  | nil =>
    obtain rfl := Option.some.inj hrun
    exact hi
  | cons e es ih =>
    obtain ⟨t, ht, hrest⟩ := exec_cons hrun
    exact ih (hstep s e t hi hok.1 ht) (hok.2 t ht) hrest

/-- The unconditional case: every step preserves the invariant. -/
theorem exec_invariant_all {Inv : σ → Prop}
    (hstep : ∀ s e s', Inv s → step s e = some s' → Inv s')
    {s s' : σ} {es : List ε} (hi : Inv s) (hrun : exec step s es = some s') : Inv s' := by
  induction es generalizing s with
  | nil =>
    obtain rfl := Option.some.inj hrun
    exact hi
  | cons e es ih =>
    obtain ⟨t, ht, hrest⟩ := exec_cons hrun
    exact ih (hstep s e t hi ht) hrest

/-- If one step keeps `P` exactly when it meets `ok`, then `P` holds in every state of a run
exactly when all of its steps do. -/
theorem prefixes_iff_along {Inv P : σ → Prop} {room ok : σ → ε → Prop}
    (hstuck : ∀ s e, step s e = none → ok s e)
    (hstep : ∀ s e s', Inv s → P s → room s e → step s e = some s' → Inv s' ∧ (P s' ↔ ok s e))
    {s : σ} {es : List ε} (hi : Inv s) (hP : P s) (hroom : Along step room s es) :
    (∀ es₁ es₂ s', es = es₁ ++ es₂ → exec step s es₁ = some s' → P s') ↔ Along step ok s es := by
  constructor
  · intro h
    induction es generalizing s with
    | nil => trivial
    | cons e es ih =>
      cases hs : step s e with
      | none => exact ⟨hstuck s e hs, fun s' hs' => nomatch hs.symm.trans hs'⟩
      | some t =>
        obtain ⟨hit, hiff⟩ := hstep s e t hi hP hroom.1 hs
        have hPt : P t := h [e] es t rfl (by rw [exec, hs]; rfl)
        refine ⟨hiff.mp hPt, fun s' hs' => ?_⟩
        obtain rfl := Option.some.inj (hs.symm.trans hs')
        apply ih hit hPt (hroom.2 t hs)
        intro es₁ es₂ s' hes hrun
        exact h (e :: es₁) es₂ s' (congrArg (e :: ·) hes) (by rw [exec, hs]; exact hrun)
  · intro h es₁
    induction es₁ generalizing s es with
    | nil =>
      intro es₂ s' _ hrun
      obtain rfl := Option.some.inj hrun
      exact hP
    | cons e es₁ ih =>
      rintro es₂ s' rfl hrun
      obtain ⟨t, ht, hrest⟩ := exec_cons hrun
      obtain ⟨hit, hiff⟩ := hstep s e t hi hP hroom.1 ht
      exact ih hit (hiff.mpr h.1) (hroom.2 t ht) (h.2 t ht) es₂ s' rfl hrest

theorem along_true {s : σ} {es : List ε} : Along step (fun _ _ => True) s es := by
  induction es generalizing s with
  | nil => trivial
  | cons e es ih => exact ⟨trivial, fun s' _ => ih⟩

/-- The case without an invariant on the side. -/
theorem prefixes_iff_along_all {P : σ → Prop} {ok : σ → ε → Prop}
    (hstuck : ∀ s e, step s e = none → ok s e)
    (hstep : ∀ s e s', P s → step s e = some s' → (P s' ↔ ok s e))
    {s : σ} {es : List ε} (hP : P s) :
    (∀ es₁ es₂ s', es = es₁ ++ es₂ → exec step s es₁ = some s' → P s') ↔ Along step ok s es := by
  have hboth : ∀ s e s', True → P s → True → step s e = some s' → True ∧ (P s' ↔ ok s e) :=
    fun s e s' _ hP _ hs => ⟨trivial, hstep s e s' hP hs⟩
  exact prefixes_iff_along hstuck hboth trivial hP along_true

end BackupCenter.Lib
