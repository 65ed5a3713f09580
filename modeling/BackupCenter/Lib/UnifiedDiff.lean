import Mathlib.Data.List.Basic

/-!
# Unified diffs

A diff in hunks leads from one list to another: what stands between the hunks is common to both, a
hunk says where it begins in either list, and its two sides are what the lists hold there. A diff of
texts is printed in the unified format.
-/
namespace BackupCenter.Lib

variable {α : Type}

inductive DiffOp (α : Type) where
  | context (line : α)
  | remove (line : α)
  | add (line : α)
  deriving DecidableEq

namespace DiffOp

def old? : DiffOp α → Option α
  | context line => some line
  | remove line => some line
  | add _ => none

def new? : DiffOp α → Option α
  | context line => some line
  | remove _ => none
  | add line => some line

def removed? : DiffOp α → Option α
  | remove line => some line
  | _ => none

def added? : DiffOp α → Option α
  | add line => some line
  | _ => none

end DiffOp

/-- A hunk with the numbers of elements before it in either list. -/
structure DiffHunk (α : Type) where
  oldStart : Nat
  newStart : Nat
  ops : List (DiffOp α)
  deriving DecidableEq

namespace DiffHunk

variable (h : DiffHunk α)

def oldSide : List α := h.ops.filterMap DiffOp.old?

def newSide : List α := h.ops.filterMap DiffOp.new?

def removed : List α := h.ops.filterMap DiffOp.removed?

def added : List α := h.ops.filterMap DiffOp.added?

end DiffHunk

/-- The hunks lead from one list to the other, where so many elements precede them. -/
inductive Patches : Nat → Nat → List α → List α → List (DiffHunk α) → Prop
  | done (o n : Nat) (common : List α) : Patches o n common common []
  | hunk {o n : Nat} {old new : List α} {hs : List (DiffHunk α)} (gap : List α) (h : DiffHunk α)
      (hold : h.oldStart = o + gap.length) (hnew : h.newStart = n + gap.length)
      (hchange : h.removed ≠ [] ∨ h.added ≠ [])
      (rest : Patches (h.oldStart + h.oldSide.length) (h.newStart + h.newSide.length) old new hs) :
      Patches o n (gap ++ h.oldSide ++ old) (gap ++ h.newSide ++ new) (h :: hs)

/-- A correct diff of two lists; equal lists have no hunks. -/
structure UnifiedDiff (old new : List α) where
  hunks : List (DiffHunk α)
  leads : Patches 0 0 old new hunks
  same : old = new → hunks = []

namespace UnifiedDiff

variable {old new : List α} (d : UnifiedDiff old new)

/-- The lines that the diff deletes. -/
def deleted : List α := d.hunks.flatMap DiffHunk.removed

/-- The lines that the diff inserts. -/
def inserted : List α := d.hunks.flatMap DiffHunk.added

end UnifiedDiff

/-! ## What the hunks say about the lists -/

section Patches

variable {o n : Nat} {old new : List α} {hs : List (DiffHunk α)} {h : DiffHunk α}

theorem eq_of_patches_nil (hpatch : Patches o n old new []) : old = new := by
  cases hpatch
  rfl

theorem length_sides (ops : List (DiffOp α)) :
    (ops.filterMap DiffOp.old?).length + (ops.filterMap DiffOp.added?).length =
      (ops.filterMap DiffOp.new?).length + (ops.filterMap DiffOp.removed?).length := by
  induction ops with
  | nil => rfl
  | cons op ops ih =>
    cases op with
    | context line =>
      show (ops.filterMap DiffOp.old?).length + 1 + (ops.filterMap DiffOp.added?).length =
        (ops.filterMap DiffOp.new?).length + 1 + (ops.filterMap DiffOp.removed?).length
      omega
    | remove line =>
      show (ops.filterMap DiffOp.old?).length + 1 + (ops.filterMap DiffOp.added?).length =
        (ops.filterMap DiffOp.new?).length + ((ops.filterMap DiffOp.removed?).length + 1)
      omega
    | add line =>
      show (ops.filterMap DiffOp.old?).length + ((ops.filterMap DiffOp.added?).length + 1) =
        (ops.filterMap DiffOp.new?).length + 1 + (ops.filterMap DiffOp.removed?).length
      omega

/-- The lengths of the lists differ by what was added and removed. -/
theorem Patches.length_add (hpatch : Patches o n old new hs) :
    old.length + (hs.flatMap DiffHunk.added).length =
      new.length + (hs.flatMap DiffHunk.removed).length := by
  induction hpatch with
  | done => rfl
  | hunk gap h _ _ _ _ ih =>
    have hsides : h.oldSide.length + h.added.length = h.newSide.length + h.removed.length :=
      length_sides h.ops
    simp only [List.flatMap_cons, List.length_append]
    omega

/-- The old side of a hunk stands in the old list where the hunk begins. -/
theorem Patches.oldSide_at (hpatch : Patches o n old new hs) (hmem : h ∈ hs) :
    ∃ before after, old = before ++ h.oldSide ++ after ∧ o + before.length = h.oldStart := by
  induction hpatch with
  | done => exact nomatch hmem
  | hunk gap h' hold _ _ _ ih =>
    rcases List.mem_cons.mp hmem with rfl | hmem
    · exact ⟨gap, _, rfl, hold.symm⟩
    · obtain ⟨before, after, rfl, hlength⟩ := ih hmem
      refine ⟨gap ++ h'.oldSide ++ before, after, by simp only [List.append_assoc], ?_⟩
      simp only [List.length_append]
      omega

theorem Patches.newSide_at (hpatch : Patches o n old new hs) (hmem : h ∈ hs) :
    ∃ before after, new = before ++ h.newSide ++ after ∧ n + before.length = h.newStart := by
  induction hpatch with
  | done => exact nomatch hmem
  | hunk gap h' _ hnew _ _ ih =>
    rcases List.mem_cons.mp hmem with rfl | hmem
    · exact ⟨gap, _, rfl, hnew.symm⟩
    · obtain ⟨before, after, rfl, hlength⟩ := ih hmem
      refine ⟨gap ++ h'.newSide ++ before, after, by simp only [List.append_assoc], ?_⟩
      simp only [List.length_append]
      omega

/-- Every hunk changes something. -/
theorem Patches.changes (hpatch : Patches o n old new hs) (hmem : h ∈ hs) :
    h.removed ≠ [] ∨ h.added ≠ [] := by
  induction hpatch with
  | done => exact nomatch hmem
  | hunk gap h' _ _ hchange _ ih =>
    rcases List.mem_cons.mp hmem with rfl | hmem
    · exact hchange
    · exact ih hmem

end Patches

/-! ## The coarsest diff -/

section Whole

/-- One hunk that replaces everything. -/
def wholeHunk (old new : List α) : DiffHunk α := ⟨0, 0, old.map .remove ++ new.map .add⟩

variable {old new : List α}

theorem oldSide_wholeHunk : (wholeHunk old new).oldSide = old := by
  have hadd : (new.map DiffOp.add).filterMap DiffOp.old? = [] := by
    rw [List.filterMap_map]
    exact List.filterMap_eq_nil_iff.mpr fun _ _ => rfl
  show (old.map DiffOp.remove ++ new.map DiffOp.add).filterMap DiffOp.old? = old
  rw [List.filterMap_append, hadd, List.append_nil, List.filterMap_map]
  exact List.filterMap_some

theorem newSide_wholeHunk : (wholeHunk old new).newSide = new := by
  have hremove : (old.map DiffOp.remove).filterMap DiffOp.new? = [] := by
    rw [List.filterMap_map]
    exact List.filterMap_eq_nil_iff.mpr fun _ _ => rfl
  show (old.map DiffOp.remove ++ new.map DiffOp.add).filterMap DiffOp.new? = new
  rw [List.filterMap_append, hremove, List.nil_append, List.filterMap_map]
  exact List.filterMap_some

theorem changes_wholeHunk (h : old ≠ new) :
    (wholeHunk old new).removed ≠ [] ∨ (wholeHunk old new).added ≠ [] := by
  cases old with
  | cons line rest => exact .inl (List.cons_ne_nil _ _)
  | nil =>
    cases new with
    | nil => exact absurd rfl h
    | cons line rest => exact .inr (List.cons_ne_nil _ _)

theorem patches_wholeHunk (h : old ≠ new) : Patches 0 0 old new [wholeHunk old new] := by
  have hpatch := Patches.hunk (o := 0) (n := 0) [] (wholeHunk old new) rfl rfl
    (changes_wholeHunk h) (.done _ _ [])
  rwa [oldSide_wholeHunk, newSide_wholeHunk, List.nil_append, List.nil_append, List.append_nil,
    List.append_nil] at hpatch

/-- The diff that replaces everything. -/
def UnifiedDiff.whole [DecidableEq α] (old new : List α) : UnifiedDiff old new where
  hunks := if old = new then [] else [wholeHunk old new]
  leads := by
    split
    next heq => exact heq ▸ .done 0 0 old
    next hne => exact patches_wholeHunk hne
  same heq := if_pos heq

end Whole

/-! ## The unified format -/

section Printing

def DiffOp.text : DiffOp (List Char) → List Char
  | context line => ' ' :: line
  | remove line => '-' :: line
  | add line => '+' :: line

/-- The number of the first line of a range; an empty range begins at the line before it. -/
def rangeBegin (start length : Nat) : Nat := if length = 0 then start else start + 1

def formatRange (start length : Nat) : List Char :=
  if length = 1 then Nat.toDigits 10 (rangeBegin start length)
  else Nat.toDigits 10 (rangeBegin start length) ++ ',' :: Nat.toDigits 10 length

def DiffHunk.header (h : DiffHunk (List Char)) : List Char :=
  ['@', '@', ' ', '-'] ++ formatRange h.oldStart h.oldSide.length ++ [' ', '+'] ++
    formatRange h.newStart h.newSide.length ++ [' ', '@', '@']

def DiffHunk.print (h : DiffHunk (List Char)) : List (List Char) :=
  h.header :: h.ops.map DiffOp.text

/-- The lines of the diff; without hunks there are no headers either. -/
def UnifiedDiff.print {old new : List (List Char)} (d : UnifiedDiff old new)
    (fromFile toFile : List Char) : List (List Char) :=
  if d.hunks = [] then []
  else (['-', '-', '-', ' '] ++ fromFile) :: (['+', '+', '+', ' '] ++ toFile) ::
    d.hunks.flatMap DiffHunk.print

end Printing

end BackupCenter.Lib
