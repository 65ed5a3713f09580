import Mathlib.Data.List.Basic
import Mathlib.Data.List.Perm.Subperm

/-!
# Lists of workers

A pool of workers is a list: a new worker comes at its end, and a worker that moves is replaced at
its index.
-/
namespace BackupCenter.Lib

variable {α : Type*} {workers : List α} {i j : Nat} {x y a : α}

/-- A worker after one more has started. -/
theorem getElem?_started (h : (workers ++ [y])[i]? = some x) :
    workers[i]? = some x ∨ i = workers.length ∧ x = y := by
  rcases Nat.lt_trichotomy i workers.length with hlt | heq | hgt
  · rw [List.getElem?_append_left hlt] at h
    exact .inl h
  · subst heq
    rw [List.getElem?_append_right (Nat.le_refl _), Nat.sub_self] at h
    exact .inr ⟨rfl, (Option.some.inj h).symm⟩
  · rw [List.getElem?_append_right (Nat.le_of_lt hgt)] at h
    obtain ⟨k, hk⟩ : ∃ k, i - workers.length = k + 1 := ⟨i - workers.length - 1, by omega⟩
    rw [hk] at h
    cases h

/-- A worker after one has moved. -/
theorem getElem?_moved (hi : workers[i]? = some a) (h : (workers.set i y)[j]? = some x) :
    j = i ∧ x = y ∨ j ≠ i ∧ workers[j]? = some x := by
  by_cases hji : j = i
  · subst hji
    rw [List.getElem?_set_self (List.getElem?_eq_some_iff.mp hi).1] at h
    exact .inl ⟨rfl, (Option.some.inj h).symm⟩
  · rw [List.getElem?_set_ne (Ne.symm hji)] at h
    exact .inr ⟨hji, h⟩

/-- There are as many workers after one has moved. -/
theorem getElem?_moved_none (h : (workers.set i y)[j]? = none) : workers[j]? = none := by
  rw [List.getElem?_eq_none_iff, List.length_set] at h
  exact List.getElem?_eq_none_iff.mpr h

/-- What at most one worker has is listed once. -/
theorem nodup_filterMap {β : Type*} {f : α → Option β}
    (h : ∀ (i j : Nat) (a b : α) (v : β), workers[i]? = some a → workers[j]? = some b →
      f a = some v → f b = some v → i = j) :
    (workers.filterMap f).Nodup := by
  induction workers with
  | nil => exact List.nodup_nil
  | cons w ws ih =>
    have htail : (ws.filterMap f).Nodup := by
      apply ih
      intro i j a b v ha hb hfa hfb
      exact Nat.succ.inj (h (i + 1) (j + 1) a b v ha hb hfa hfb)
    cases hw : f w with
    | none => rwa [List.filterMap_cons_none hw]
    | some v =>
      rw [List.filterMap_cons_some hw]
      refine List.nodup_cons.mpr ⟨fun hmem => ?_, htail⟩
      obtain ⟨b, hb, hv⟩ := List.mem_filterMap.mp hmem
      obtain ⟨j, hj⟩ := List.mem_iff_getElem?.mp hb
      exact absurd (h 0 (j + 1) w b v rfl hj hw hv) (Nat.succ_ne_zero j).symm

/-- The largest of some numbers, 0 if there are none. -/
def largest (ns : List Nat) : Nat := ns.foldr max 0

theorem le_largest {ns : List Nat} {n : Nat} (h : n ∈ ns) : n ≤ largest ns := by
  induction ns with
  | nil => cases h
  | cons m ms ih =>
    rw [largest, List.foldr_cons]
    rcases List.mem_cons.mp h with rfl | h
    · exact Nat.le_max_left ..
    · exact Nat.le_trans (ih h) (Nat.le_max_right ..)

/-- Distinct numbers below a bound are at most as many. -/
theorem length_le_of_nodup {ns : List Nat} {n : Nat} (hnodup : ns.Nodup) (h : ∀ m ∈ ns, m < n) :
    ns.length ≤ n := by
  have hsub : ns ⊆ List.range n := fun m hm => List.mem_range.mpr (h m hm)
  have hlength := (List.subperm_of_subset hnodup hsub).length_le
  rwa [List.length_range] at hlength

end BackupCenter.Lib
