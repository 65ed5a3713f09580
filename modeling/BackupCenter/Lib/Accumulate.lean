import Mathlib.Algebra.BigOperators.Group.List.Basic
import Mathlib.Algebra.Order.BigOperators.Group.List
import Mathlib.Algebra.Order.Monoid.Canonical.Defs
import Mathlib.Algebra.Order.Ring.Nat

/-!
# Accumulating loops

A loop that adds to the counters of a record is a left fold. When one step adds
`g x` to a counter, the whole loop adds the sum of `g` over the list.
-/
namespace BackupCenter.Lib

variable {α β : Type*}

/-- The value of one counter after the loop. -/
theorem foldl_counter {op : α → β → α} {f : α → Nat} {g : β → Nat}
    (h : ∀ a b, f (op a b) = f a + g b) (xs : List β) (a : α) :
    f (xs.foldl op a) = f a + (xs.map g).sum := by
  induction xs generalizing a with
  | nil => simp
  | cons x xs ih => rw [List.foldl_cons, ih, h, List.map_cons, List.sum_cons, Nat.add_assoc]

theorem sum_map_congr {f g : β → Nat} {xs : List β} (h : ∀ x ∈ xs, f x = g x) :
    (xs.map f).sum = (xs.map g).sum :=
  congrArg List.sum (List.map_congr_left h)

/-- Two sums of ordered summands agree only if every summand does. -/
theorem sum_map_eq_iff {f g : β → Nat} {xs : List β} (h : ∀ x ∈ xs, f x ≤ g x) :
    (xs.map f).sum = (xs.map g).sum ↔ ∀ x ∈ xs, f x = g x := by
  refine ⟨fun heq => ?_, sum_map_congr⟩
  induction xs with
  | nil => intro x hx; cases hx
  | cons y ys ih =>
    have hy := h y (List.mem_cons_self ..)
    have hys : ∀ x ∈ ys, f x ≤ g x := fun x hx => h x (List.mem_cons_of_mem _ hx)
    have hle := List.sum_le_sum hys
    simp only [List.map_cons, List.sum_cons] at heq
    have htail := ih hys (by omega)
    intro x hx
    rcases List.mem_cons.mp hx with rfl | hx
    · omega
    · exact htail x hx

/-- What a replacement does to a sum over the list. -/
theorem sum_map_set {f : α → Nat} {xs : List α} {i : Nat} {x : α} (h : xs[i]? = some x) (y : α) :
    ((xs.set i y).map f).sum + f x = (xs.map f).sum + f y := by
  induction xs generalizing i with
  | nil => cases h
  | cons z zs ih =>
    cases i with
    | zero =>
      obtain rfl := Option.some.inj h
      simp only [List.set_cons_zero, List.map_cons, List.sum_cons]
      omega
    | succ i =>
      have htail := ih h
      simp only [List.set_cons_succ, List.map_cons, List.sum_cons]
      omega

theorem sum_map_concat (f : α → Nat) (xs : List α) (x : α) :
    ((xs ++ [x]).map f).sum = (xs.map f).sum + f x := by
  simp

theorem sum_map_replicate (f : α → Nat) (xs : List α) (n : Nat) (x : α) :
    ((xs ++ List.replicate n x).map f).sum = (xs.map f).sum + n * f x := by
  induction n with
  | zero => simp
  | succ n ih =>
    rw [List.replicate_succ', ← List.append_assoc, sum_map_concat, ih, Nat.succ_mul, Nat.add_assoc]

theorem le_sum_map {f : α → Nat} {xs : List α} {x : α} (h : x ∈ xs) : f x ≤ (xs.map f).sum :=
  List.single_le_sum (fun _ _ => Nat.zero_le _) _ (List.mem_map_of_mem h)

end BackupCenter.Lib
