import BackupCenter.Lib.TimeZones
import Mathlib.Algebra.Order.Group.Unbundled.Abs

/-!
# Time zones whose changes are apart

The changes are at least two days apart, and none is of more than three hours. The clock then goes
back by no more than three hours, and only around a change.
-/
namespace BackupCenter.Lib

/-- No step of a list of offsets is larger than three hours. -/
def SmallSteps (offsets : List Int) : Prop :=
  List.IsChain (fun o o' => o - 3 * hour ≤ o' ∧ o' ≤ o + 3 * hour) offsets

instance (offsets : List Int) : Decidable (SmallSteps offsets) :=
  inferInstanceAs (Decidable (List.IsChain _ offsets))

structure SpacedZone extends TimeZone where
  spaced : changes.Pairwise fun c c' => c.since + 2 * day ≤ c'.since := by decide
  small : SmallSteps (initial :: changes.map (·.offset)) := by decide

theorem offsetFrom_step {o : Int} {cs : List OffsetChange}
    (hsorted : cs.Pairwise fun c c' => c.since < c'.since)
    (hsmall : SmallSteps (o :: cs.map (·.offset))) : ∀ c ∈ cs,
    offsetFrom o cs (c.since - 1) - 3 * hour ≤ offsetFrom o cs c.since ∧
      offsetFrom o cs c.since ≤ offsetFrom o cs (c.since - 1) + 3 * hour := by
  induction cs generalizing o with
  | nil => exact fun c hc => absurd hc List.not_mem_nil
  | cons c cs ih =>
    obtain ⟨hfirst, hrest⟩ := List.pairwise_cons.mp hsorted
    obtain ⟨hstep, hsteps⟩ := List.isChain_cons_cons.mp hsmall
    intro c' hc'
    rcases List.mem_cons.mp hc' with rfl | hc'
    · have hprev : offsetFrom o (c' :: cs) (c'.since - 1) = o := if_neg (by omega)
      have hat : offsetFrom o (c' :: cs) c'.since = c'.offset :=
        (if_pos (Int.le_refl _)).trans (offsetFrom_of_before hfirst)
      rw [hprev, hat]
      exact hstep
    · have hlater := hfirst c' hc'
      have htail : ∀ u, c.since ≤ u → offsetFrom o (c :: cs) u = offsetFrom c.offset cs u :=
        fun u hu => if_pos hu
      rw [htail _ (by omega), htail _ (by omega)]
      exact ih hrest hsteps c' hc'

theorem day_eq : day = 24 * hour := rfl

theorem hour_pos : 0 < hour := by decide

namespace SpacedZone

variable (zone : SpacedZone) {a b r u v w : Int} {c c' : OffsetChange}

section Steps

variable {zone}

theorem apart (hc : c ∈ zone.changes) (hc' : c' ∈ zone.changes) (h : c.since < c'.since) :
    c.since + 2 * day ≤ c'.since := by
  have hpairs := List.pairwise_iff_getElem.mp zone.spaced
  have hsorted := List.pairwise_iff_getElem.mp zone.sorted
  obtain ⟨i, hi, rfl⟩ := List.getElem_of_mem hc
  obtain ⟨j, hj, rfl⟩ := List.getElem_of_mem hc'
  rcases Nat.lt_trichotomy i j with hij | rfl | hji
  · exact hpairs i j hi hj hij
  · omega
  · have hback := hsorted j i hj hi hji
    omega

theorem step (hc : c ∈ zone.changes) :
    zone.offset (c.since - 1) - 3 * hour ≤ zone.offset c.since ∧
      zone.offset c.since ≤ zone.offset (c.since - 1) + 3 * hour :=
  offsetFrom_step zone.sorted zone.small c hc

theorem offset_before (hc : c ∈ zone.changes) (hv : c.since - 2 * day ≤ v) (hlt : v < c.since) :
    zone.offset v = zone.offset (c.since - 1) := by
  apply TimeZone.offset_eq (by omega)
  intro c' hc' hin
  have hapart := apart hc' hc (by omega)
  omega

theorem offset_after (hc : c ∈ zone.changes) (hv : c.since ≤ v) (hlt : v < c.since + 2 * day) :
    zone.offset v = zone.offset c.since := by
  symm
  apply TimeZone.offset_eq hv
  intro c' hc' hin
  have hapart := apart hc hc' hin.1
  omega

end Steps

/-- There is at most one change within two days. -/
theorem window (hle : a ≤ b) (hlt : b < a + 2 * day) :
    zone.offset a = zone.offset b ∨ ∃ c ∈ zone.changes, a < c.since ∧ c.since ≤ b ∧
      zone.offset a = zone.offset (c.since - 1) ∧ zone.offset b = zone.offset c.since := by
  by_cases h : ∃ c ∈ zone.changes, a < c.since ∧ c.since ≤ b
  · obtain ⟨c, hc, ha, hb⟩ := h
    exact .inr ⟨c, hc, ha, hb, offset_before hc (by omega) ha, offset_after hc hb (by omega)⟩
  · exact .inl (TimeZone.offset_eq hle fun c hc hin => h ⟨c, hc, hin⟩)

/-- The clock goes on, up to the three hours of a change. -/
theorem clock_ge_near (hle : a ≤ b) (hlt : b < a + 2 * day) :
    zone.clock a + (b - a) - 3 * hour ≤ zone.clock b := by
  have hpos := hour_pos
  unfold TimeZone.clock
  rcases zone.window hle hlt with heq | ⟨c, hc, -, -, ha, hb⟩
  · omega
  · have hstep := step hc
    omega

theorem clock_ge (hle : a ≤ b) : zone.clock a + min (b - a) day - 3 * hour ≤ zone.clock b := by
  have hday := day_eq
  have hpos := hour_pos
  obtain ⟨n, hn⟩ : ∃ n : Nat, b - a < n * day := by
    refine ⟨(b - a).toNat + 1, ?_⟩
    unfold day hour minute second
    omega
  induction n generalizing a with
  | zero => omega
  | succ n ih =>
    by_cases hlt : b < a + 2 * day
    · have h := zone.clock_ge_near hle hlt
      omega
    · have hfirst := zone.clock_ge_near (a := a) (b := a + day) (by omega) (by omega)
      have hrest := ih (a := a + day) (by omega) (by
        push_cast at hn
        linarith)
      omega

theorem clock_ge_far (h : a + 2 * day ≤ b) : zone.clock a + day < zone.clock b := by
  have hday := day_eq
  have hpos := hour_pos
  have hfirst := zone.clock_ge (a := a) (b := a + day) (by omega)
  have hrest := zone.clock_ge (a := a + day) (b := b) (by omega)
  omega

/-! ## Readings -/

/-- A reading that is later than one shown for the first time has not been shown yet. -/
theorem lt_of_first (hfold : (zone.toWall r).fold = false) (hclock : zone.clock r < w)
    (hu : zone.clock u = w) : r < u := by
  have hday := day_eq
  have hpos := hour_pos
  by_contra hle
  have hback := zone.clock_ge (a := u) (b := r) (by omega)
  have hfirst : ∀ v < r, zone.clock v ≠ zone.clock r := fun v hv he =>
    absurd (TimeZone.fold_toWall.mpr ⟨v, hv, he⟩) (by rw [hfold]; exact Bool.false_ne_true)
  rcases zone.window (a := u) (b := r) (by omega) (by omega) with heq | ⟨c, hc, huc, hcr, ha, hb⟩
  · unfold TimeZone.clock at *
    omega
  · -- The reading of `r` has been shown as long before as the clock went back.
    have hstep := step hc
    have hbefore := offset_before (v := r - (zone.offset u - zone.offset r)) hc
      (by unfold TimeZone.clock at *; omega) (by unfold TimeZone.clock at *; omega)
    refine hfirst (r - (zone.offset u - zone.offset r)) ?_ ?_
    · unfold TimeZone.clock at *
      omega
    · unfold TimeZone.clock
      rw [hbefore]
      omega

/-- For a day after a reading that is shown again, the offset stays. -/
theorem offset_of_fold (hfold : (zone.toWall r).fold = true) (hle : r ≤ u) (hlt : u < r + day) :
    zone.offset u = zone.offset r := by
  have hday := day_eq
  have hpos := hour_pos
  obtain ⟨v, hv, heq⟩ := TimeZone.fold_toWall.mp hfold
  have hback := zone.clock_ge (a := v) (b := r) (by omega)
  rcases zone.window (a := v) (b := r) (by omega) (by omega) with hsame | ⟨c, hc, hvc, hcr, -, -⟩
  · unfold TimeZone.clock at *
    omega
  · rw [offset_after hc (v := u) (by omega) (by omega), offset_after hc (v := r) hcr (by omega)]

/-- A reading that is jumped over is converted to a moment after the jump, at which the clock
shows it moved forward by the jump. -/
theorem missing (h : ∀ u, zone.clock u ≠ w) : ∃ c ∈ zone.changes,
    zone.clock (c.since - 1) < w ∧ w < zone.clock c.since ∧
    c.since ≤ zone.toInstant { wall := w } ∧
    zone.toInstant { wall := w } = w - zone.offset (c.since - 1) ∧
    zone.clock (zone.toInstant { wall := w }) =
      w + (zone.offset c.since - zone.offset (c.since - 1)) := by
  have hday := day_eq
  have hpos := hour_pos
  obtain ⟨c, hc, hlow, hhigh, hinstant⟩ := TimeZone.toInstant_missing h
  have hvalue : zone.toInstant { wall := w } = w - zone.offset (c.since - 1) := hinstant false
  have hstep := step hc
  have hafter := offset_after hc (v := w - zone.offset (c.since - 1))
    (by unfold TimeZone.clock at *; omega) (by unfold TimeZone.clock at *; omega)
  refine ⟨c, hc, hlow, hhigh, ?_, hvalue, ?_⟩
  · unfold TimeZone.clock at *
    omega
  · rw [hvalue]
    unfold TimeZone.clock
    rw [hafter]
    omega

end SpacedZone

end BackupCenter.Lib
