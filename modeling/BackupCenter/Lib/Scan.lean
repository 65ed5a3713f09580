import Mathlib.Data.List.Basic
import Mathlib.Data.List.Induction

/-!
# The longest so far

A scan reads answers in order. It keeps the longest of those it may keep, and it stops at the
first one that it accepts, whether or not that one is the longest.
-/
namespace BackupCenter.Lib

variable {α : Type*}

/-! ## The first with a property -/

/-- `a` is the first with the property, with what stands before and after it. -/
structure First (q : α → Bool) (as before : List α) (a : α) (after : List α) : Prop where
  split : as = before ++ a :: after
  holds : q a = true
  fails : ∀ b ∈ before, q b = false

theorem First.mem {q : α → Bool} {as before after : List α} {a : α}
    (h : First q as before a after) : a ∈ as := by simp [h.split]

theorem exists_first {q : α → Bool} {as : List α} (h : ∃ a ∈ as, q a = true) :
    ∃ before a after, First q as before a after := by
  cases hfind : as.find? q with
  | none =>
    obtain ⟨a, ha, hq⟩ := h
    exact absurd hq (List.find?_eq_none.mp hfind a ha)
  | some a =>
    obtain ⟨hq, before, after, hsplit, hbefore⟩ := List.find?_eq_some_iff_append.mp hfind
    exact ⟨before, a, after, hsplit, hq, fun b hb => by simpa using hbefore b hb⟩

theorem First.unique {q : α → Bool} {as before before' after after' : List α} {a a' : α}
    (h : First q as before a after) (h' : First q as before' a' after') :
    before = before' ∧ a = a' ∧ after = after' := by
  obtain ⟨rfl, ha, hbefore⟩ := h
  obtain ⟨heq, ha', hbefore'⟩ := h'
  induction before generalizing before' with
  | nil =>
    cases before' with
    | nil => exact ⟨rfl, List.cons.inj heq⟩
    | cons b before' =>
      have hb := hbefore' b (List.mem_cons_self ..)
      rw [← (List.cons.inj heq).1, ha] at hb
      cases hb
  | cons b before ih =>
    cases before' with
    | nil =>
      have hb := hbefore b (List.mem_cons_self ..)
      rw [(List.cons.inj heq).1, ha'] at hb
      cases hb
    | cons b' before' =>
      obtain ⟨hhead, htail⟩ := List.cons.inj heq
      obtain ⟨hbefores, hrest⟩ := ih
        (fun c hc => hbefore c (List.mem_cons_of_mem _ hc)) htail
        (fun c hc => hbefore' c (List.mem_cons_of_mem _ hc))
      exact ⟨by rw [hhead, hbefores], hrest⟩

/-! ## The scan -/

variable (size : α → Nat) (kept accepted : α → Bool)

/-- The answer kept after one more. -/
def keepLonger (best : Option α) (a : α) : Option α :=
  if kept a && best.all (size · < size a) then some a else best

def scanLongest : Option α → List α → Option α
  | best, [] => best
  | best, a :: as =>
    if accepted a then keepLonger size kept best a
    else scanLongest (keepLonger size kept best a) as

variable {size kept accepted}

theorem keepLonger_of_not_kept {a : α} (h : kept a = false) (best : Option α) :
    keepLonger size kept best a = best := by
  rw [keepLonger, h, Bool.false_and, if_neg Bool.false_ne_true]

/-- What a scan holds while it has accepted nothing: one of the answers it read, at least as
long as every other that it could keep. -/
structure Longest (size : α → Nat) (kept : α → Bool) (read : List α) (best : Option α) :
    Prop where
  mem : ∀ b, best = some b → b ∈ read
  covers : ∀ a ∈ read, kept a = true → ∃ b, best = some b ∧ size a ≤ size b
  kept : ∀ b, best = some b → kept b = true

theorem Longest.nil : Longest size kept ([] : List α) none :=
  ⟨fun _ h => (nomatch h), fun _ h => (nomatch h), fun _ h => (nomatch h)⟩

theorem Longest.concat {read : List α} {best : Option α} (h : Longest size kept read best)
    (a : α) : Longest size kept (read ++ [a]) (keepLonger size kept best a) := by
  unfold keepLonger
  split
  · rename_i hlonger
    rw [Bool.and_eq_true] at hlonger
    refine ⟨fun b hb => ?_, fun c hc hkept => ⟨a, rfl, ?_⟩, fun b hb => ?_⟩
    · cases hb
      exact List.mem_append_right _ (List.mem_singleton.mpr rfl)
    · rcases List.mem_append.mp hc with hc | hc
      · obtain ⟨b, rfl, hsize⟩ := h.covers c hc hkept
        have hlt : size b < size a := by simpa using hlonger.2
        omega
      · obtain rfl := List.mem_singleton.mp hc
        exact Nat.le_refl _
    · cases hb
      exact hlonger.1
  · rename_i hlonger
    refine ⟨fun b hb => List.mem_append_left _ (h.mem b hb), fun c hc hkept => ?_, h.kept⟩
    rcases List.mem_append.mp hc with hc | hc
    · exact h.covers c hc hkept
    · rw [List.mem_singleton.mp hc] at hkept ⊢
      cases best with
      | none => exact absurd (by simp [hkept]) hlonger
      | some b =>
        refine ⟨b, rfl, ?_⟩
        by_contra hlt
        exact hlonger (by simp [hkept]; omega)

/-- Answers that are not accepted only move the longest. -/
theorem scanLongest_append {read : List α} (hread : ∀ a ∈ read, accepted a = false)
    (best : Option α) (rest : List α) :
    scanLongest size kept accepted best (read ++ rest) =
      scanLongest size kept accepted (read.foldl (keepLonger size kept) best) rest := by
  induction read generalizing best with
  | nil => rfl
  | cons a read ih =>
    rw [List.cons_append, scanLongest, hread a (List.mem_cons_self ..), List.foldl_cons]
    exact ih (fun b hb => hread b (List.mem_cons_of_mem _ hb)) _

variable (size kept) in
theorem Longest.foldl (read : List α) :
    Longest size kept read (read.foldl (keepLonger size kept) none) := by
  induction read using List.reverseRecOn with
  | nil => exact Longest.nil
  | append_singleton read a ih =>
    rw [List.foldl_append]
    exact ih.concat a

/-! ## The first of the longest -/

/-- Of those kept, `a` is the longest, and the first of that length. -/
structure FirstLongest (size : α → Nat) (kept : α → Bool) (as before : List α) (a : α)
    (after : List α) : Prop where
  split : as = before ++ a :: after
  holds : kept a = true
  longer : ∀ b ∈ before, kept b = true → size b < size a
  longest : ∀ b ∈ after, kept b = true → size b ≤ size a

theorem FirstLongest.mem {as before after : List α} {a : α}
    (h : FirstLongest size kept as before a after) : a ∈ as := by simp [h.split]

theorem FirstLongest.unique {as before before' after after' : List α} {a a' : α}
    (h : FirstLongest size kept as before a after)
    (h' : FirstLongest size kept as before' a' after') :
    before = before' ∧ a = a' ∧ after = after' := by
  have heq := h.split.symm.trans h'.split
  rcases List.append_eq_append_iff.mp heq with ⟨mid, hbefore, hrest⟩ | ⟨mid, hbefore, hrest⟩
  · cases mid with
    | nil => exact ⟨by simpa using hbefore.symm, List.cons.inj hrest⟩
    | cons b mid =>
      obtain ⟨rfl, hafter⟩ := List.cons.inj hrest
      have hlt := h'.longer a (by simp [hbefore]) h.holds
      have hle := h.longest a' (by simp [hafter]) h'.holds
      omega
  · cases mid with
    | nil =>
      obtain ⟨rfl, rfl⟩ := List.cons.inj hrest
      exact ⟨by simpa using hbefore, rfl, rfl⟩
    | cons b mid =>
      obtain ⟨rfl, hafter⟩ := List.cons.inj hrest
      have hlt := h.longer a' (by simp [hbefore]) h'.holds
      have hle := h'.longest a (by simp [hafter]) h.holds
      omega

/-- The longest of all, when it may be kept, is the longest that may be kept. -/
theorem FirstLongest.restrict {as before after : List α} {a : α}
    (h : FirstLongest size (fun _ => true) as before a after) (ha : kept a = true) :
    FirstLongest size kept as before a after :=
  ⟨h.split, ha, fun b hb _ => h.longer b hb rfl, fun b hb _ => h.longest b hb rfl⟩

theorem foldl_keepLonger_of_longest {as : List α} {a : α}
    (h : ∀ b ∈ as, kept b = true → size b ≤ size a) :
    as.foldl (keepLonger size kept) (some a) = some a := by
  induction as with
  | nil => rfl
  | cons b as ih =>
    have hstays : keepLonger size kept (some a) b = some a := by
      rw [keepLonger, if_neg]
      intro hlonger
      rw [Bool.and_eq_true] at hlonger
      have hle := h b (List.mem_cons_self ..) hlonger.1
      have hlt : size a < size b := by simpa using hlonger.2
      omega
    rw [List.foldl_cons, hstays]
    exact ih fun c hc => h c (List.mem_cons_of_mem _ hc)

theorem FirstLongest.foldl_eq {as before after : List α} {a : α}
    (h : FirstLongest size kept as before a after) :
    as.foldl (keepLonger size kept) none = some a := by
  have hlongest := Longest.foldl size kept before
  have htakes : keepLonger size kept (before.foldl (keepLonger size kept) none) a = some a := by
    rw [keepLonger, if_pos]
    rw [h.holds, Bool.true_and, Option.all_eq_true]
    exact fun b hb => decide_eq_true (h.longer b (hlongest.mem b hb) (hlongest.kept b hb))
  rw [h.split, List.foldl_append, List.foldl_cons, htakes]
  exact foldl_keepLonger_of_longest h.longest

theorem exists_firstLongest {as : List α} {a : α}
    (h : as.foldl (keepLonger size kept) none = some a) :
    ∃ before after, FirstLongest size kept as before a after := by
  induction as using List.reverseRecOn with
  | nil => cases h
  | append_singleton as b ih =>
    rw [List.foldl_append, List.foldl_cons, List.foldl_nil] at h
    have hlongest := Longest.foldl size kept as
    rw [keepLonger] at h
    split at h
    · rename_i hlonger
      cases h
      rw [Bool.and_eq_true] at hlonger
      refine ⟨as, [], rfl, hlonger.1, fun c hc hkept => ?_, by simp⟩
      obtain ⟨d, hd, hsize⟩ := hlongest.covers c hc hkept
      rw [hd] at hlonger
      have hlt : size d < size a := by simpa using hlonger.2
      omega
    · rename_i hlonger
      obtain ⟨before, after, hsplit, hkept, hbefore, hafter⟩ := ih h
      refine ⟨before, after ++ [b], by rw [hsplit]; simp, hkept, hbefore, fun c hc hc' => ?_⟩
      rcases List.mem_append.mp hc with hc | hc
      · exact hafter c hc hc'
      · rw [List.mem_singleton.mp hc] at hc' ⊢
        rw [h] at hlonger
        by_contra hlt
        exact hlonger (by simp [hc']; omega)

theorem foldl_keepLonger_eq_none {as : List α}
    (h : as.foldl (keepLonger size kept) none = none) : ∀ a ∈ as, kept a = false := by
  intro a ha
  by_contra hkept
  obtain ⟨b, hb, _⟩ := (Longest.foldl size kept as).covers a ha (by simpa using hkept)
  rw [h] at hb
  cases hb

theorem foldl_keepLonger_filter (as : List α) (best : Option α) :
    (as.filter kept).foldl (keepLonger size fun _ => true) best =
      as.foldl (keepLonger size kept) best := by
  induction as generalizing best with
  | nil => rfl
  | cons a as ih =>
    rw [List.foldl_cons, List.filter_cons]
    cases hkept : kept a with
    | true =>
      have hsame : keepLonger size (fun _ => true) best a = keepLonger size kept best a := by
        rw [keepLonger, keepLonger, hkept]
      rw [if_pos rfl, List.foldl_cons, hsame]
      exact ih _
    | false =>
      rw [if_neg Bool.false_ne_true, keepLonger_of_not_kept hkept]
      exact ih _

theorem foldl_keepLonger_map {β : Type*} (f : α → β) (length : β → Nat)
    (hsize : ∀ a, length (f a) = size a) (as : List α) (best : Option α) :
    (as.map f).foldl (keepLonger length fun _ => true) (best.map f) =
      (as.foldl (keepLonger size fun _ => true) best).map f := by
  induction as generalizing best with
  | nil => rfl
  | cons a as ih =>
    have hround : keepLonger length (fun _ => true) (best.map f) (f a) =
        (keepLonger size (fun _ => true) best a).map f := by
      unfold keepLonger
      cases best with
      | none => rfl
      | some b =>
        simp only [Option.map_some, Option.all_some, hsize]
        split <;> rfl
    rw [List.map_cons, List.foldl_cons, List.foldl_cons, hround]
    exact ih _

/-! ## Scans that accept nothing, and others -/

/-- A scan that accepts nothing. -/
theorem scanLongest_of_none {as : List α} (has : ∀ a ∈ as, accepted a = false) :
    Longest size kept as (scanLongest size kept accepted none as) := by
  have h : scanLongest size kept accepted none (as ++ []) = _ := scanLongest_append has none []
  rw [List.append_nil] at h
  rw [h]
  exact Longest.foldl size kept as

/-- The first accepted answer is the result when everything kept before it is shorter; -/
theorem scanLongest_of_shorter {as before after : List α} {a : α}
    (h : First accepted as before a after) (hkept : kept a = true)
    (hshorter : ∀ b ∈ before, kept b = true → size b < size a) :
    scanLongest size kept accepted none as = some a := by
  have hlongest := Longest.foldl size kept before
  rw [h.split, scanLongest_append h.fails, scanLongest, if_pos h.holds, keepLonger, if_pos]
  rw [hkept, Bool.true_and, Option.all_eq_true]
  intro b hb
  exact decide_eq_true (hshorter b (hlongest.mem b hb) (hlongest.kept b hb))

/-- otherwise the result is one of those before it, which is not accepted. -/
theorem scanLongest_of_longer {as before after : List α} {a b : α}
    (h : First accepted as before a after) (hb : b ∈ before) (hkept : kept b = true)
    (hlonger : size a ≤ size b) :
    ∃ c ∈ before, scanLongest size kept accepted none as = some c := by
  have hlongest := Longest.foldl size kept before
  obtain ⟨c, hc, hsize⟩ := hlongest.covers b hb hkept
  refine ⟨c, hlongest.mem c hc, ?_⟩
  rw [h.split, scanLongest_append h.fails, scanLongest, if_pos h.holds, keepLonger, hc, if_neg]
  simp
  omega

end BackupCenter.Lib
