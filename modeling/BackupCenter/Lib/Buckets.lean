import Mathlib.Data.List.Dedup
import Mathlib.Data.List.MinMax
import Mathlib.Data.List.Perm.Basic

/-!
# Buckets

A dictionary of lists groups elements by a key, in the order in which the keys first occur.
The elements can be taken from the groups in turn, and the key of the largest group wins a vote.
-/
namespace BackupCenter.Lib

variable {α κ : Type} [DecidableEq κ]

/-- `buckets.setdefault(k, []).append(x)` -/
def putInBucket (k : κ) (x : α) : List (κ × List α) → List (κ × List α)
  | [] => [(k, [x])]
  | (k', xs) :: rest =>
    if k' = k then (k', xs ++ [x]) :: rest else (k', xs) :: putInBucket k x rest

def bucketBy (keyOf : α → κ) (xs : List α) : List (κ × List α) :=
  xs.foldl (fun buckets x => putInBucket (keyOf x) x buckets) []

/-- `Counter(xs).most_common(1)`: the first of the most frequent elements. -/
def mostCommon (xs : List κ) : Option κ :=
  ((bucketBy id xs).argmax fun bucket => bucket.2.length).map Prod.fst

/-- The elements in one of two disjoint classes. -/
theorem filter_or_perm {xs : List α} {p q : α → Bool}
    (h : ∀ x ∈ xs, p x = true → q x = false) :
    (xs.filter p ++ xs.filter q).Perm (xs.filter fun x => p x || q x) := by
  have hsplit := List.filter_append_perm p (xs.filter fun x => p x || q x)
  rw [List.filter_filter, List.filter_filter] at hsplit
  convert hsplit using 2
  · apply List.filter_congr
    intro x _
    cases p x <;> simp
  · apply List.filter_congr
    intro x hx
    cases hp : p x
    · simp
    · simp [h x hx hp]

theorem flatMap_putInBucket (k : κ) (x : α) (buckets : List (κ × List α)) :
    ((putInBucket k x buckets).flatMap Prod.snd).Perm (x :: buckets.flatMap Prod.snd) := by
  induction buckets with
  | nil => exact .refl _
  | cons b rest ih =>
    obtain ⟨k', xs⟩ := b
    unfold putInBucket
    split
    · simp only [List.flatMap_cons, List.append_assoc, List.singleton_append]
      exact List.perm_middle
    · simp only [List.flatMap_cons]
      exact (ih.append_left xs).trans List.perm_middle

theorem forall_mem_putInBucket {P : κ → α → Prop} {k : κ} {x : α} {buckets : List (κ × List α)}
    (h : ∀ b ∈ buckets, ∀ y ∈ b.2, P b.1 y) (hx : P k x) :
    ∀ b ∈ putInBucket k x buckets, ∀ y ∈ b.2, P b.1 y := by
  induction buckets with
  | nil =>
    intro b hb y hy
    obtain rfl := List.mem_singleton.mp hb
    obtain rfl := List.mem_singleton.mp hy
    exact hx
  | cons b₀ rest ih =>
    obtain ⟨k', xs⟩ := b₀
    have hhead := h _ (List.mem_cons_self ..)
    have hrest := fun b hb => h b (List.mem_cons_of_mem _ hb)
    intro b hb y hy
    unfold putInBucket at hb
    split at hb
    next hk =>
      rcases List.mem_cons.mp hb with rfl | hb
      · rcases List.mem_append.mp hy with hy | hy
        · exact hhead y hy
        · obtain rfl := List.mem_singleton.mp hy
          exact hk ▸ hx
      · exact hrest b hb y hy
    next =>
      rcases List.mem_cons.mp hb with rfl | hb
      · exact hhead y hy
      · exact ih hrest b hb y hy

/-- The key of a bucket is that of an element. -/
theorem exists_key_of_mem_bucketBy {keyOf : α → κ} {xs : List α} :
    ∀ b ∈ bucketBy keyOf xs, ∃ x ∈ xs, keyOf x = b.1 := by
  have hput : ∀ (P : κ → Prop) (k : κ) (x : α) (buckets : List (κ × List α)), P k →
      (∀ b ∈ buckets, P b.1) → ∀ b ∈ putInBucket k x buckets, P b.1 := by
    intro P k x buckets hk
    induction buckets with
    | nil =>
      intro _ b hb
      obtain rfl := List.mem_singleton.mp hb
      exact hk
    | cons b₀ rest ih =>
      intro h b hb
      have hrest := ih fun b hb => h b (List.mem_cons_of_mem _ hb)
      unfold putInBucket at hb
      split at hb
      · rcases List.mem_cons.mp hb with rfl | hb
        · exact h b₀ List.mem_cons_self
        · exact h b (List.mem_cons_of_mem _ hb)
      · rcases List.mem_cons.mp hb with rfl | hb
        · exact h _ List.mem_cons_self
        · exact hrest b hb
  have hfold : ∀ (P : κ → Prop) (buckets : List (κ × List α)), (∀ x ∈ xs, P (keyOf x)) →
      (∀ b ∈ buckets, P b.1) →
      ∀ b ∈ xs.foldl (fun buckets x => putInBucket (keyOf x) x buckets) buckets, P b.1 := by
    intro P
    induction xs with
    | nil => exact fun _ _ h => h
    | cons x xs ih =>
      intro buckets hxs h
      exact ih _ (fun y hy => hxs y (List.mem_cons_of_mem _ hy))
        (hput P _ x buckets (hxs x List.mem_cons_self) h)
  exact hfold (fun k => ∃ x ∈ xs, keyOf x = k) [] (fun x hx => ⟨x, hx, rfl⟩) (List.forall_mem_nil _)

/-- The buckets hold the elements, each of them once. -/
theorem flatMap_bucketBy (keyOf : α → κ) (xs : List α) :
    ((bucketBy keyOf xs).flatMap Prod.snd).Perm xs := by
  have hfold : ∀ (buckets : List (κ × List α)),
      ((xs.foldl (fun bs x => putInBucket (keyOf x) x bs) buckets).flatMap Prod.snd).Perm
        (xs ++ buckets.flatMap Prod.snd) := by
    induction xs with
    | nil => exact fun _ => .refl _
    | cons x xs ih =>
      intro buckets
      rw [List.foldl_cons]
      refine (ih _).trans ?_
      refine ((flatMap_putInBucket (keyOf x) x buckets).append_left xs).trans ?_
      exact List.perm_middle
  simpa [bucketBy] using hfold []

/-- Among equal elements there is nothing to choose. -/
theorem mostCommon_eq_some {xs : List κ} {k : κ} (hne : xs ≠ []) (h : ∀ x ∈ xs, x = k) :
    mostCommon xs = some k := by
  have hbuckets : bucketBy id xs ≠ [] := by
    intro hempty
    have hperm := flatMap_bucketBy id xs
    rw [hempty] at hperm
    exact hne hperm.symm.eq_nil
  cases hmax : (bucketBy id xs).argmax fun bucket => bucket.2.length with
  | none => exact absurd (List.argmax_eq_none.mp hmax) hbuckets
  | some b =>
    obtain ⟨x, hx, hkey⟩ := exists_key_of_mem_bucketBy b (List.argmax_mem hmax)
    unfold mostCommon
    rw [hmax, Option.map_some, ← hkey, id, h x hx]

/-- Every element lies in the bucket of its key. -/
theorem key_of_mem_bucketBy {keyOf : α → κ} {xs : List α} :
    ∀ b ∈ bucketBy keyOf xs, ∀ y ∈ b.2, keyOf y = b.1 := by
  have hfold : ∀ (buckets : List (κ × List α)), (∀ b ∈ buckets, ∀ y ∈ b.2, keyOf y = b.1) →
      ∀ b ∈ xs.foldl (fun bs x => putInBucket (keyOf x) x bs) buckets, ∀ y ∈ b.2,
        keyOf y = b.1 := by
    induction xs with
    | nil => exact fun _ h => h
    | cons x xs ih =>
      intro buckets h
      exact ih (putInBucket (keyOf x) x buckets)
        (forall_mem_putInBucket (P := fun k y => keyOf y = k) h rfl)
  exact hfold [] (fun _ hb => nomatch hb)

/-- The buckets of the keys in a class hold the elements whose keys are in it. -/
theorem flatMap_filter_bucketBy (keyOf : α → κ) (p : κ → Bool) (xs : List α) :
    (((bucketBy keyOf xs).filter fun b => p b.1).flatMap Prod.snd).Perm
      (xs.filter fun x => p (keyOf x)) := by
  have hbuckets : ∀ bs : List (κ × List α), (∀ b ∈ bs, ∀ x ∈ b.2, keyOf x = b.1) →
      (bs.filter fun b => p b.1).flatMap Prod.snd =
        (bs.flatMap Prod.snd).filter fun x => p (keyOf x) := by
    intro bs hkeys
    induction bs with
    | nil => rfl
    | cons b bs ih =>
      have hrest := ih fun b' hb' => hkeys b' (List.mem_cons_of_mem _ hb')
      have hall : ∀ x ∈ b.2, p (keyOf x) = p b.1 := fun x hx => by
        rw [hkeys b List.mem_cons_self x hx]
      rw [List.flatMap_cons, List.filter_append, ← hrest, List.filter_congr hall,
        List.filter_cons]
      cases hp : p b.1 <;> simp
  rw [hbuckets _ key_of_mem_bucketBy]
  exact (flatMap_bucketBy keyOf xs).filter _

/-! ## Taking turns -/

/-- The first waiting element of each bucket, with the number of those that were taken from the
bucket before. -/
def turnHeads (buckets : List (Nat × List α)) : List (α × Nat) :=
  buckets.filterMap fun b => b.2.head?.map fun x => (x, b.1)

def turnTails (buckets : List (Nat × List α)) : List (Nat × List α) :=
  buckets.map fun b => match b.2 with
    | [] => b
    | _ :: rest => (b.1 + 1, rest)

/-- Turn after turn, until nothing waits or the turns are used up. -/
def takeTurns : Nat → List (Nat × List α) → List (α × Nat)
  | 0, _ => []
  | turns + 1, buckets => turnHeads buckets ++ takeTurns turns (turnTails buckets)

theorem turn_perm (buckets : List (Nat × List α)) :
    ((turnHeads buckets).map Prod.fst ++ (turnTails buckets).flatMap Prod.snd).Perm
      (buckets.flatMap Prod.snd) := by
  induction buckets with
  | nil => exact .refl _
  | cons b rest ih =>
    obtain ⟨n, xs⟩ := b
    cases xs with
    | nil =>
      simp only [turnHeads, turnTails, List.filterMap_cons, List.head?_nil, Option.map_none,
        List.map_cons, List.flatMap_cons, List.nil_append] at ih ⊢
      exact ih
    | cons x xs =>
      simp only [turnHeads, turnTails, List.filterMap_cons, List.head?_cons, Option.map_some,
        List.map_cons, List.flatMap_cons, List.cons_append] at ih ⊢
      apply List.Perm.cons
      refine (List.perm_append_comm_assoc ..).trans ?_
      exact ih.append_left xs

/-- With a turn for every element all of them are taken, each once. -/
theorem takeTurns_perm {turns : Nat} {buckets : List (Nat × List α)}
    (h : (buckets.flatMap Prod.snd).length ≤ turns) :
    ((takeTurns turns buckets).map Prod.fst).Perm (buckets.flatMap Prod.snd) := by
  induction turns generalizing buckets with
  | zero =>
    rw [List.length_eq_zero_iff.mp (Nat.le_zero.mp h)]
    exact .refl _
  | succ turns ih =>
    have hturn := turn_perm buckets
    have hlength := hturn.length_eq
    rw [List.length_append, List.length_map] at hlength
    have hrest : ((turnTails buckets).flatMap Prod.snd).length ≤ turns := by
      by_cases hheads : (turnHeads buckets).length = 0
      · have hempty : ∀ b ∈ buckets, b.2 = [] := by
          intro b hb
          have hnone := List.filterMap_eq_nil_iff.mp (List.length_eq_zero_iff.mp hheads) b hb
          exact List.head?_eq_none_iff.mp (Option.map_eq_none_iff.mp hnone)
        have hwaiting : buckets.flatMap Prod.snd = [] := List.flatMap_eq_nil_iff.mpr hempty
        rw [hwaiting] at hlength
        simp only [List.length_nil] at hlength
        omega
      · omega
    unfold takeTurns
    rw [List.map_append]
    exact ((ih hrest).append_left _).trans hturn

example : takeTurns 3 [(0, ["a", "b"]), (0, ["c"])] = [("a", 0), ("c", 0), ("b", 1)] := by decide

end BackupCenter.Lib
