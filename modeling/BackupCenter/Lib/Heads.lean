import Mathlib.Data.List.DropRight

/-!
# Dropping from the head and filtering

Dropping elements from the head of a list stops at the first that is to be kept; filtering
goes on. They leave the same when no element to be dropped stands behind one that is kept.
-/
namespace BackupCenter.Lib

variable {α : Type*} {p : α → Bool} {l : List α}

/-- What filtering keeps is kept by dropping from the head. -/
theorem filter_sublist_dropWhile (p : α → Bool) (l : List α) :
    List.Sublist (l.filter (!p ·)) (l.dropWhile p) := by
  induction l with
  | nil => exact List.Sublist.refl _
  | cons x l ih =>
    by_cases hx : p x = true
    · rw [List.dropWhile_cons_of_pos hx, List.filter_cons_of_neg (by simp [hx])]
      exact ih
    · rw [List.dropWhile_cons_of_neg hx]
      exact List.filter_sublist

theorem dropWhile_eq_filter (h : l.Pairwise fun x y => p x = false → p y = false) :
    l.dropWhile p = l.filter (!p ·) := by
  induction l with
  | nil => rfl
  | cons x l ih =>
    obtain ⟨hlater, hrest⟩ := List.pairwise_cons.mp h
    by_cases hx : p x = true
    · rw [List.dropWhile_cons_of_pos hx, List.filter_cons_of_neg (by simp [hx])]
      exact ih hrest
    · -- all that follows the first kept element is kept
      have hkept : p x = false := Bool.eq_false_iff.mpr hx
      rw [List.dropWhile_cons_of_neg hx, Eq.comm, List.filter_eq_self]
      intro y hy
      rcases List.mem_cons.mp hy with rfl | hy
      · rw [hkept]
        rfl
      · rw [hlater y hy hkept]
        rfl

theorem takeWhile_dropWhile_nil (p : α → Bool) (l : List α) :
    (l.dropWhile p).takeWhile p = [] := by
  rw [List.takeWhile_eq_nil_iff]
  exact List.dropWhile_get_zero_not p l

theorem length_takeWhile (p : α → Bool) (l : List α) :
    (l.takeWhile p).length = l.length - (l.dropWhile p).length := by
  have hparts := congrArg List.length (@List.takeWhile_append_dropWhile α p l)
  rw [List.length_append] at hparts
  omega

end BackupCenter.Lib
