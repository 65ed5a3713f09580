import Mathlib.Logic.Function.Basic

/-!
# A key-value store with expiry

Every entry is written together with its time to live. An entry whose time has come is
not there any more: it is neither read, nor does it block a conditional write.
-/
namespace BackupCenter.Lib

structure Store (κ ν : Type) where
  now : Nat := 0
  entries : κ → Option (ν × Nat) := fun _ => none

namespace Store

variable {κ ν : Type}

def get (s : Store κ ν) (k : κ) : Option ν :=
  match s.entries k with
  | some (v, expiry) => if s.now < expiry then some v else none
  | none => none

theorem get_congr {s t : Store κ ν} {k : κ} (hnow : s.now = t.now)
    (hk : s.entries k = t.entries k) : s.get k = t.get k := by
  simp only [get, hnow, hk]

theorem get_eq_some {s : Store κ ν} {k : κ} {v : ν} :
    s.get k = some v ↔ ∃ expiry, s.entries k = some (v, expiry) ∧ s.now < expiry := by
  unfold get
  rcases hentry : s.entries k with _ | ⟨u, expiry⟩
  · simp
  · by_cases hlive : s.now < expiry
    · simp only [hlive, if_true, Option.some.injEq, Prod.mk.injEq]
      exact ⟨fun h => ⟨expiry, ⟨h, rfl⟩, hlive⟩, fun ⟨_, ⟨h, _⟩, _⟩ => h⟩
    · simp only [hlive, if_false, reduceCtorEq, false_iff]
      rintro ⟨expiry', he, hlt⟩
      obtain ⟨-, rfl⟩ := Prod.mk.inj (Option.some.inj he)
      exact hlive hlt

def tick (s : Store κ ν) (d : Nat) : Store κ ν := { s with now := s.now + d }

/-- What is there later was there before. -/
theorem get_of_get_tick {s : Store κ ν} {k : κ} {v : ν} {d : Nat}
    (h : (s.tick d).get k = some v) : s.get k = some v := by
  obtain ⟨expiry, hentry, hlive⟩ := get_eq_some.mp h
  exact get_eq_some.mpr ⟨expiry, hentry, Nat.lt_of_le_of_lt (Nat.le_add_right _ _) hlive⟩

variable [DecidableEq κ]

def setex (s : Store κ ν) (k : κ) (ttl : Nat) (v : ν) : Store κ ν :=
  { s with entries := Function.update s.entries k (some (v, s.now + ttl)) }

/-- `SET key value NX EX ttl`: written only where there is no live entry. -/
def setnx (s : Store κ ν) (k : κ) (ttl : Nat) (v : ν) : Bool × Store κ ν :=
  if (s.get k).isSome then (false, s) else (true, s.setex k ttl v)

def delete (s : Store κ ν) (k : κ) : Store κ ν :=
  { s with entries := Function.update s.entries k none }

variable {s : Store κ ν} {k k' : κ} {ttl : Nat} {v : ν}

@[simp] theorem setex_now : (s.setex k ttl v).now = s.now := rfl
@[simp] theorem delete_now : (s.delete k).now = s.now := rfl

theorem setnx_now : (s.setnx k ttl v).2.now = s.now := by
  simp only [setnx]; split <;> rfl

theorem get_setex_self (h : 0 < ttl) : (s.setex k ttl v).get k = some v := by
  simp [get, setex, h]

theorem of_get_setex_self {u : ν} (h : (s.setex k ttl v).get k = some u) : u = v := by
  obtain ⟨expiry, hentry, -⟩ := get_eq_some.mp h
  simp only [setex, Function.update_self] at hentry
  exact (Prod.mk.inj (Option.some.inj hentry)).1.symm

theorem get_setex_ne (h : k' ≠ k) : (s.setex k ttl v).get k' = s.get k' :=
  get_congr rfl (Function.update_of_ne h ..)

@[simp] theorem get_delete_self : (s.delete k).get k = none := by
  simp [get, delete]

theorem get_delete_ne (h : k' ≠ k) : (s.delete k).get k' = s.get k' :=
  get_congr rfl (Function.update_of_ne h ..)

theorem get_setnx_ne (h : k' ≠ k) : (s.setnx k ttl v).2.get k' = s.get k' := by
  simp only [setnx]
  split
  · rfl
  · exact get_setex_ne h

/-- A conditional write succeeds exactly on a key without a live entry. -/
theorem setnx_eq_true : (s.setnx k ttl v).1 = true ↔ s.get k = none := by
  simp only [setnx]
  cases hk : s.get k <;> simp

theorem setnx_store_of_free (h : s.get k = none) :
    (s.setnx k ttl v).2 = s.setex k ttl v := by
  simp [setnx, h]

theorem setnx_store_of_held (h : s.get k ≠ none) : (s.setnx k ttl v).2 = s := by
  cases hk : s.get k with
  | none => exact absurd hk h
  | some u => simp [setnx, hk]

end Store
end BackupCenter.Lib
