import Mathlib.Order.Basic
import Mathlib.Tactic.Ring

/-!
# Wall clocks

An instant is counted in microseconds from the epoch, and so is the reading of a wall clock. A
reading that occurs twice is told apart by its fold. A zone converts in both directions; a
reading that is later on the clock is a later instant, except in the hour that is repeated.
-/
namespace BackupCenter.Lib

def second : Int := 1000000

def minute : Int := 60 * second

def hour : Int := 60 * minute

def day : Int := 24 * hour

/-- A reading of the wall clock; `fold` marks the second occurrence. -/
structure WallTime where
  wall : Int
  fold : Bool := false
  deriving DecidableEq

/-- The start of the day of a reading. -/
def midnight (wall : Int) : Int := wall / day * day

theorem midnight_le (wall : Int) : midnight wall ≤ wall := by
  unfold midnight day hour minute second
  omega

theorem lt_midnight_add (wall : Int) : wall < midnight wall + day := by
  unfold midnight day hour minute second
  omega

structure Zone where
  toWall : Int → WallTime
  toInstant : WallTime → Int
  /-- A later reading on the same side of the fold is a later instant. -/
  later : ∀ t w, (toWall t).wall < w → t < toInstant ⟨w, (toWall t).fold⟩
  /-- A reading of a later day is a later instant: no hour is repeated across midnight. -/
  laterDay : ∀ t w, midnight (toWall t).wall + day ≤ w → t < toInstant ⟨w, false⟩

/-- A zone whose offset never changes. -/
def Zone.fixed (offset : Int) : Zone where
  toWall t := { wall := t + offset }
  toInstant w := w.wall - offset
  later t w h := by
    dsimp only at h ⊢
    omega
  laterDay t w h := by
    have hlt := lt_midnight_add (t + offset)
    dsimp only at h ⊢
    omega

end BackupCenter.Lib
