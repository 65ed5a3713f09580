import Mathlib.Logic.Function.Basic

/-!
# Counters with expiry

Keys hold numbers, with or without a time at which they expire. An increment keeps the
expiry of a live key and creates a key that never expires; a key whose time has come
counts as missing.
-/
namespace BackupCenter.Lib

structure Counters (κ : Type) where
  entries : κ → Option (Nat × Option Nat) := fun _ => none

namespace Counters

variable {κ : Type}

/-- The entry of a key that has not expired. -/
def live (r : Counters κ) (now : Nat) (k : κ) : Option (Nat × Option Nat) :=
  (r.entries k).filter fun e => e.2.all (now < ·)

/-- `TTL`: -2 for a missing key, -1 for one that never expires. -/
def ttl (r : Counters κ) (now : Nat) (k : κ) : Int :=
  match r.live now k with
  | none => -2
  | some (_, none) => -1
  | some (_, some expiry) => expiry - now

/-- Time is left exactly for a key with an expiry that has not come. -/
theorem ttl_pos {r : Counters κ} {now : Nat} {k : κ} :
    0 < r.ttl now k ↔ ((r.entries k).bind Prod.snd).any (now < ·) := by
  rcases hentry : r.entries k with _ | ⟨v, _ | expiry⟩
  · simp [ttl, live, hentry]
  · simp [ttl, live, hentry, Option.filter_some]
  · by_cases hlive : now < expiry
    · simp [ttl, live, hentry, hlive, Option.filter_some]
    · simp [ttl, live, hentry, hlive, Option.filter_some]

theorem live_eq_some {r : Counters κ} {now n : Nat} {expiry : Option Nat} {k : κ} :
    r.live now k = some (n, expiry) ↔
      r.entries k = some (n, expiry) ∧ expiry.all (now < ·) := by
  unfold live
  rw [Option.filter_eq_some_iff]

variable [DecidableEq κ]

/-- `INCR`, with the new value. -/
def incr (r : Counters κ) (now : Nat) (k : κ) : Nat × Counters κ :=
  match r.live now k with
  | some (n, expiry) => (n + 1, ⟨Function.update r.entries k (some (n + 1, expiry))⟩)
  | none => (1, ⟨Function.update r.entries k (some (1, none))⟩)

/-- `EXPIRE` -/
def expire (r : Counters κ) (now : Nat) (k : κ) (ttl : Nat) : Counters κ :=
  match r.live now k with
  | some (n, _) => ⟨Function.update r.entries k (some (n, some (now + ttl)))⟩
  | none => r

/-- `SETEX` -/
def setex (r : Counters κ) (now : Nat) (k : κ) (ttl v : Nat) : Counters κ :=
  ⟨Function.update r.entries k (some (v, some (now + ttl)))⟩

def delete (r : Counters κ) (k : κ) : Counters κ := ⟨Function.update r.entries k none⟩

variable {r : Counters κ} {now ttl v n : Nat} {expiry : Option Nat} {k k' : κ}

theorem incr_of_missing (h : r.live now k = none) :
    (r.incr now k).1 = 1 ∧ (r.incr now k).2.live now k = some (1, none) := by
  simp [incr, h, live_eq_some]

theorem incr_of_live (h : r.live now k = some (n, expiry)) :
    (r.incr now k).1 = n + 1 ∧ (r.incr now k).2.live now k = some (n + 1, expiry) := by
  have hall := (live_eq_some.mp h).2
  simp [incr, h, live_eq_some, hall]

theorem expire_entries_self (h : r.live now k = some (n, expiry)) :
    (r.expire now k ttl).entries k = some (n, some (now + ttl)) := by
  simp [expire, h]

theorem incr_entries_ne (h : k' ≠ k) : (r.incr now k).2.entries k' = r.entries k' := by
  unfold incr
  split <;> exact Function.update_of_ne h ..

theorem expire_entries_ne (h : k' ≠ k) : (r.expire now k ttl).entries k' = r.entries k' := by
  unfold expire
  split
  · exact Function.update_of_ne h ..
  · rfl

@[simp] theorem setex_entries_self :
    (r.setex now k ttl v).entries k = some (v, some (now + ttl)) :=
  Function.update_self ..

theorem setex_entries_ne (h : k' ≠ k) : (r.setex now k ttl v).entries k' = r.entries k' :=
  Function.update_of_ne h ..

@[simp] theorem delete_entries_self : (r.delete k).entries k = none := Function.update_self ..

theorem delete_entries_ne (h : k' ≠ k) : (r.delete k).entries k' = r.entries k' :=
  Function.update_of_ne h ..

end Counters
end BackupCenter.Lib
