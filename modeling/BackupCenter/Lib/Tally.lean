import BackupCenter.Lib.Patch
import Mathlib.Data.Rat.Defs
import Mathlib.Logic.Basic
import Mathlib.Tactic.Ring

/-!
# Counters in a dictionary

A dictionary whose entries are only ever increased by one counts how often each key occurs.
-/
namespace BackupCenter.Lib

variable {κ α : Type} [DecidableEq κ]

/-- The entry of a key, whatever equality test the type of the keys has besides. -/
def valueOf (d : Dict κ α) (k : κ) : Option α := d.lookup k

/-- `hincrby(hash, key, delta)` -/
def increase (d : Dict κ ℚ) (k : κ) (delta : ℚ) : Dict κ ℚ :=
  assign d (k, some ((valueOf d k).getD 0 + delta))

def tally (d : Dict κ ℚ) (keys : List κ) : Dict κ ℚ := keys.foldl (fun d k => increase d k 1) d

variable {d d' : Dict κ α} {k : κ}

theorem valueOf_cons (e : κ × α) (d : Dict κ α) :
    valueOf (e :: d) k = if k = e.1 then some e.2 else valueOf d k := by
  unfold valueOf
  rw [List.lookup_cons]
  by_cases hk : k = e.1
  · rw [if_pos hk, beq_iff_eq.mpr hk]
  · rw [if_neg hk, beq_false_of_ne hk]

theorem valueOf_assign {a : κ × Option α} :
    valueOf (assign d a) k = if k = a.1 then a.2 else valueOf d k := lookup_assign

theorem valueOf_map {β : Type} (g : α → β) (d : Dict κ α) (k : κ) :
    valueOf (d.map fun e => (e.1, g e.2)) k = (valueOf d k).map g := by
  induction d with
  | nil => rfl
  | cons e d ih =>
    rw [List.map_cons, valueOf_cons, valueOf_cons, ih]
    split <;> rfl

/-- An assignment keeps the keys apart. -/
theorem nodup_assign {a : κ × Option α} (h : (d.map Prod.fst).Nodup) :
    ((assign d a).map Prod.fst).Nodup := by
  have hrest : ((d.filter (·.1 ≠ a.1)).map Prod.fst).Nodup :=
    h.sublist (List.filter_sublist.map Prod.fst)
  unfold assign
  split
  · rw [List.map_cons, List.nodup_cons]
    refine ⟨fun hmem => ?_, hrest⟩
    obtain ⟨e, he, hkey⟩ := List.mem_map.mp hmem
    exact of_decide_eq_true (List.mem_filter.mp he).2 hkey
  · exact hrest

theorem mem_iff_valueOf (h : (d.map Prod.fst).Nodup) {v : α} :
    (k, v) ∈ d ↔ valueOf d k = some v := by
  induction d with
  | nil => simp [valueOf]
  | cons e d ih =>
    rw [List.map_cons, List.nodup_cons] at h
    rw [valueOf_cons, List.mem_cons]
    by_cases hk : k = e.1
    · have hnot : (k, v) ∉ d := fun hmem => h.1 (List.mem_map.mpr ⟨_, hmem, hk⟩)
      rw [if_pos hk]
      constructor
      · rintro (rfl | hmem)
        · rfl
        · exact absurd hmem hnot
      · intro he
        exact .inl (Prod.ext hk (Option.some.inj he).symm)
    · rw [if_neg hk, ← ih h.2]
      constructor
      · rintro (rfl | hmem)
        · exact absurd rfl hk
        · exact hmem
      · exact .inr

/-- The order of the entries does not matter. -/
theorem valueOf_perm (h : d.Perm d') (hnodup : (d.map Prod.fst).Nodup) (k : κ) :
    valueOf d k = valueOf d' k := by
  have hnodup' : (d'.map Prod.fst).Nodup := (h.map Prod.fst).nodup_iff.mp hnodup
  apply Option.ext
  intro v
  rw [← mem_iff_valueOf hnodup, ← mem_iff_valueOf hnodup', h.mem_iff]

theorem nodup_tally {d : Dict κ ℚ} (h : (d.map Prod.fst).Nodup) (keys : List κ) :
    ((tally d keys).map Prod.fst).Nodup := by
  induction keys generalizing d with
  | nil => exact h
  | cons k keys ih => exact ih (nodup_assign h)

theorem tally_append (d : Dict κ ℚ) (keys keys' : List κ) :
    tally d (keys ++ keys') = tally (tally d keys) keys' := List.foldl_append

/-- A key that occurs has its number of occurrences added. -/
theorem valueOf_tally (d : Dict κ ℚ) (keys : List κ) (k : κ) :
    valueOf (tally d keys) k =
      if k ∈ keys then some ((valueOf d k).getD 0 + keys.count k) else valueOf d k := by
  induction keys generalizing d with
  | nil => simp [tally]
  | cons k' keys ih =>
    change valueOf (tally (increase d k' 1) keys) k = _
    rw [ih, increase, valueOf_assign]
    by_cases hk : k = k'
    · subst hk
      by_cases hmem : k ∈ keys
      · simp [hmem]
        ring
      · simp [hmem, List.count_eq_zero_of_not_mem hmem]
    · have hne : ¬ k' = k := fun he => hk he.symm
      simp [hk, hne]

theorem count_beq (inst : BEq κ) [LawfulBEq κ] (keys : List κ) (k : κ) :
    @List.count κ inst k keys = @List.count κ instBEqOfDecidableEq k keys := by
  rw [lawful_beq_subsingleton inst instBEqOfDecidableEq]

theorem valueOf_tally_nil [inst : BEq κ] [LawfulBEq κ] (keys : List κ) (k : κ) :
    valueOf (tally [] keys) k = if k ∈ keys then some (keys.count k : ℚ) else none := by
  rw [valueOf_tally, count_beq inst]
  simp [valueOf]

theorem nodup_tally_nil (keys : List κ) : ((tally [] keys).map Prod.fst).Nodup :=
  nodup_tally (d := []) List.nodup_nil keys

end BackupCenter.Lib
