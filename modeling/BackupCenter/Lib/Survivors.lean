import Mathlib.Data.List.Infix

/-!
# Skipped elements and single blanks

A list is read from left to right. Some elements are skipped; of the blank ones that follow each
other when these are gone only the first survives.
-/
namespace BackupCenter.Lib

variable {α : Type} (skip blank : α → Bool)

/-- Every element with its fate; `afterBlank` says whether the last survivor is blank. -/
def fates : Bool → List α → List (α × Bool)
  | _, [] => []
  | afterBlank, x :: xs =>
    if skip x then (x, false) :: fates afterBlank xs
    else if blank x then (x, !afterBlank) :: fates true xs
    else (x, true) :: fates false xs

/-- The elements that are marked to survive. -/
def marked (ms : List (α × Bool)) : List α := (ms.filter Prod.snd).map Prod.fst

def survivors (afterBlank : Bool) (xs : List α) : List α := marked (fates skip blank afterBlank xs)

/-- Whether the last survivor is blank when the elements have been read. -/
def blankAfter (afterBlank : Bool) (xs : List α) : Bool :=
  xs.foldl (fun b x => if skip x then b else blank x) afterBlank

theorem marked_append (ms ns : List (α × Bool)) : marked (ms ++ ns) = marked ms ++ marked ns := by
  unfold marked
  rw [List.filter_append, List.map_append]

theorem marked_cons (m : α × Bool) (ms : List (α × Bool)) :
    marked (m :: ms) = if m.2 then m.1 :: marked ms else marked ms := by
  unfold marked
  rw [List.filter_cons]
  split <;> rfl

variable {skip blank} {a : Bool} {x : α} {xs ys : List α}

theorem fates_cons : fates skip blank a (x :: xs) =
    (x, !skip x && !(blank x && a)) :: fates skip blank (if skip x then a else blank x) xs := by
  rw [fates]
  cases skip x <;> cases blank x <;> rfl

theorem fates_map_fst : (fates skip blank a xs).map Prod.fst = xs := by
  induction xs generalizing a with
  | nil => rfl
  | cons x xs ih => rw [fates_cons, List.map_cons, ih]

theorem survivors_sublist : (survivors skip blank a xs).Sublist xs := by
  have h := (List.filter_sublist (p := Prod.snd) (l := fates skip blank a xs)).map Prod.fst
  rwa [fates_map_fst] at h

theorem fates_append : fates skip blank a (xs ++ ys) =
    fates skip blank a xs ++ fates skip blank (blankAfter skip blank a xs) ys := by
  induction xs generalizing a with
  | nil => rfl
  | cons x xs ih =>
    rw [List.cons_append, fates_cons, fates_cons, ih]
    rfl

theorem survivors_append : survivors skip blank a (xs ++ ys) =
    survivors skip blank a xs ++ survivors skip blank (blankAfter skip blank a xs) ys := by
  unfold survivors
  rw [fates_append, marked_append]

theorem survivors_cons : survivors skip blank a (x :: xs) =
    if skip x || blank x && a then survivors skip blank (if skip x then a else blank x) xs
    else x :: survivors skip blank (if skip x then a else blank x) xs := by
  unfold survivors
  rw [fates_cons, marked_cons]
  cases skip x <;> cases blank x <;> cases a <;> rfl

/-- What the state remembers is the last survivor. -/
theorem blankAfter_eq : blankAfter skip blank a xs =
    ((survivors skip blank a xs).getLast?.map blank).getD a := by
  induction xs using List.reverseRecOn with
  | nil => rfl
  | append_singleton xs x ih =>
    have hstep : blankAfter skip blank a (xs ++ [x]) =
        if skip x then blankAfter skip blank a xs else blank x := List.foldl_append ..
    rw [hstep, survivors_append, survivors_cons]
    cases hskip : skip x
    · cases hblank : blank x
      · simp [survivors, fates, marked, hblank]
      · cases hlast : blankAfter skip blank a xs
        · simp [survivors, fates, marked, hblank]
        · rw [hlast] at ih
          simpa [survivors, fates, marked] using ih
    · simpa [survivors, fates, marked] using ih

/-- Nobody else is dropped: an element that does not survive is skipped, or it is blank and the
last survivor before it is blank. -/
theorem dropped_of_fates {before after : List (α × Bool)}
    (h : fates skip blank false xs = before ++ (x, false) :: after) :
    skip x = true ∨ blank x = true ∧ ∃ b, (marked before).getLast? = some b ∧ blank b = true := by
  have hsplit : xs = before.map Prod.fst ++ x :: after.map Prod.fst := by
    have hmap := congrArg (List.map Prod.fst) h
    rwa [fates_map_fst, List.map_append, List.map_cons] at hmap
  have hfates := h
  rw [hsplit, fates_append, fates_cons] at hfates
  have hlength : (fates skip blank false (before.map Prod.fst)).length = before.length := by
    rw [← List.length_map (f := Prod.fst), fates_map_fst, List.length_map]
  obtain ⟨hbefore, hhead⟩ := List.append_inj hfates hlength
  have hfate := congrArg Prod.snd (List.cons.inj hhead).1
  simp only [Bool.and_eq_false_iff, Bool.not_eq_false', Bool.and_eq_true] at hfate
  rcases hfate with hskip | ⟨hblank, hlast⟩
  · exact .inl hskip
  · rw [blankAfter_eq] at hlast
    unfold survivors at hlast
    rw [hbefore] at hlast
    refine .inr ⟨hblank, ?_⟩
    cases hb : (marked before).getLast? with
    | none =>
      rw [hb] at hlast
      cases hlast
    | some b =>
      rw [hb] at hlast
      exact ⟨b, rfl, hlast⟩

/-- Survivors survive. -/
theorem fates_survivors : fates skip blank a (survivors skip blank a xs) =
    (survivors skip blank a xs).map (·, true) := by
  induction xs generalizing a with
  | nil => rfl
  | cons x xs ih =>
    rw [survivors_cons]
    cases hskip : skip x with
    | true => exact ih
    | false =>
      cases hblank : blank x with
      | false =>
        have hrest := @ih false
        simp only [Bool.false_or, Bool.false_and, Bool.false_eq_true, if_false]
        rw [fates_cons, hskip, hblank, List.map_cons, ← hrest]
        rfl
      | true =>
        have hrest := @ih true
        cases a with
        | true => exact hrest
        | false =>
          simp only [Bool.false_or, Bool.true_and, Bool.false_eq_true, if_false]
          rw [fates_cons, hskip, hblank, List.map_cons, ← hrest]
          rfl

theorem marked_map_true : marked (xs.map (·, true)) = xs := by
  unfold marked
  rw [List.filter_eq_self.mpr, List.map_map]
  · exact List.map_id xs
  · intro m hm
    obtain ⟨_, -, rfl⟩ := List.mem_map.mp hm
    rfl

/-- A skipped element can stand anywhere. -/
theorem survivors_insert (h : skip x = true) :
    survivors skip blank a (xs ++ x :: ys) = survivors skip blank a (xs ++ ys) := by
  rw [survivors_append, survivors_append, survivors_cons, h]
  rfl

/-- A blank element counts once. -/
theorem survivors_twice (h : blank x = true) :
    survivors skip blank a (xs ++ x :: x :: ys) = survivors skip blank a (xs ++ x :: ys) := by
  rw [survivors_append, survivors_append]
  congr 1
  rw [survivors_cons, survivors_cons, survivors_cons, h]
  cases skip x <;> cases blankAfter skip blank a xs <;> rfl

/-- Who survives and who is dropped make up the list. -/
theorem length_survivors_add :
    (survivors skip blank a xs).length + (fates skip blank a xs).countP (fun m => !m.2) =
      xs.length := by
  have hlength : (fates skip blank a xs).length = xs.length := by
    rw [← List.length_map (f := Prod.fst), fates_map_fst]
  unfold survivors marked
  rw [List.length_map, ← List.countP_eq_length_filter, ← hlength]
  have hnot : (fun m : α × Bool => !m.2) = fun m => decide ¬ m.2 = true := by
    funext m
    cases m.2 <;> rfl
  rw [hnot]
  exact (List.length_eq_countP_add_countP Prod.snd).symm

end BackupCenter.Lib
