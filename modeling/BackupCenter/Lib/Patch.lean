import Mathlib.Data.List.Induction

/-!
# Dictionaries and patches

A dictionary is an association list in which the first entry of a key counts. A patch sets and
removes keys in order: the last assignment of a key decides, and a key without one keeps its value.
-/
namespace BackupCenter.Lib

variable {κ α : Type} [DecidableEq κ]

abbrev Dict (κ α : Type) := List (κ × α)

/-- Assignments in order: a value for a key, or none to remove it. -/
abbrev Patch (κ α : Type) := List (κ × Option α)

/-- `d[key] = value`, or `d.pop(key, None)` -/
def assign (d : Dict κ α) (a : κ × Option α) : Dict κ α :=
  match a.2 with
  | some value => (a.1, value) :: d.filter (·.1 ≠ a.1)
  | none => d.filter (·.1 ≠ a.1)

def patched (d : Dict κ α) (p : Patch κ α) : Dict κ α := p.foldl assign d

/-- What a patch makes of a key that it assigns. -/
def Patch.given (p : Patch κ α) (k : κ) : Option (Option α) := (p.reverse.find? (·.1 = k)).map (·.2)

variable {d d' : Dict κ α} {p q : Patch κ α} {k : κ}

theorem lookup_filter_ne {other : κ} :
    (d.filter (·.1 ≠ other)).lookup k = if k = other then none else d.lookup k := by
  induction d with
  | nil => simp
  | cons e d ih =>
    obtain ⟨key, value⟩ := e
    by_cases hkey : key = other
    · subst hkey
      rw [List.filter_cons_of_neg (by simp), ih]
      by_cases hk : k = key
      · rw [if_pos hk, if_pos hk]
      · rw [if_neg hk, if_neg hk, List.lookup_cons, beq_false_of_ne hk]
    · rw [List.filter_cons_of_pos (by simpa using hkey), List.lookup_cons, List.lookup_cons, ih]
      by_cases hk : k = key
      · subst hk
        simp [hkey]
      · rw [beq_false_of_ne hk]

theorem lookup_assign {a : κ × Option α} :
    (assign d a).lookup k = if k = a.1 then a.2 else d.lookup k := by
  obtain ⟨key, value⟩ := a
  unfold assign
  cases value with
  | none => exact lookup_filter_ne
  | some value =>
    dsimp only
    rw [List.lookup_cons]
    by_cases hk : k = key
    · simp [hk]
    · rw [beq_false_of_ne hk, if_neg hk]
      exact lookup_filter_ne.trans (if_neg hk)

theorem patched_append : patched d (p ++ q) = patched (patched d p) q := List.foldl_append

theorem given_append : (p ++ q).given k = (q.given k).or (p.given k) := by
  unfold Patch.given
  rw [List.reverse_append, List.find?_append, Option.map_or]

theorem given_concat {a : κ × Option α} :
    Patch.given (p ++ [a]) k = if k = a.1 then some a.2 else p.given k := by
  rw [given_append]
  unfold Patch.given
  rw [List.reverse_singleton, List.find?_singleton]
  by_cases hk : a.1 = k
  · simp [hk]
  · simp [hk, Ne.symm hk]

/-- A patch says nothing about a key exactly if it does not assign it. -/
theorem given_eq_none : p.given k = none ↔ ∀ a ∈ p, a.1 ≠ k := by
  rw [Patch.given, Option.map_eq_none_iff, List.find?_eq_none]
  simp

theorem mem_of_given {v : Option α} (h : p.given k = some v) : (k, v) ∈ p := by
  obtain ⟨a, hfind, rfl⟩ := Option.map_eq_some_iff.mp h
  have hkey : a.1 = k := by simpa using List.find?_some hfind
  rw [← hkey]
  exact List.mem_reverse.mp (List.mem_of_find?_eq_some hfind)

/-- The last assignment of a key decides. -/
theorem lookup_patched : (patched d p).lookup k = (p.given k).getD (d.lookup k) := by
  induction p using List.reverseRecOn with
  | nil => rfl
  | append_singleton p a ih =>
    rw [patched_append, given_concat]
    change (assign (patched d p) a).lookup k = _
    rw [lookup_assign, ih]
    split
    · rfl
    · rfl

/-! ## Dictionaries that agree -/

/-- The dictionaries have the same value of each key in `P`. -/
def AgreeOn (P : κ → Prop) (d d' : Dict κ α) : Prop := ∀ k, P k → d.lookup k = d'.lookup k

/-- Only the keys that occur have to be compared. -/
theorem agreeOn_iff {P : κ → Prop} :
    AgreeOn P d d' ↔ ∀ e ∈ d ++ d', P e.1 → d.lookup e.1 = d'.lookup e.1 := by
  constructor
  · exact fun h e _ hP => h e.1 hP
  · intro h k hP
    by_cases hk : ∃ e ∈ d ++ d', e.1 = k
    · obtain ⟨e, he, rfl⟩ := hk
      exact h e he hP
    · have hnone : ∀ l : Dict κ α, (∀ e ∈ l, e ∈ d ++ d') → l.lookup k = none := by
        intro l hl
        rw [List.lookup_eq_none_iff]
        intro e he
        simpa using fun heq => hk ⟨e, hl e he, Eq.symm heq⟩
      rw [hnone d fun e he => List.mem_append_left _ he,
        hnone d' fun e he => List.mem_append_right _ he]

instance [DecidableEq α] {P : κ → Prop} [DecidablePred P] : Decidable (AgreeOn P d d') :=
  decidable_of_iff _ agreeOn_iff.symm

/-- A patch leaves the keys alone that it does not assign. -/
theorem agreeOn_patched : AgreeOn (fun k => p.given k = none) (patched d p) d := by
  intro k hk
  rw [lookup_patched, hk]
  rfl

end BackupCenter.Lib
