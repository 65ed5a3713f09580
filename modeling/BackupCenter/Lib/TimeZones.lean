import BackupCenter.Lib.Zones
import Mathlib.Data.List.MinMax
import Mathlib.Order.Bounds.Basic
import Mathlib.Tactic.Linarith

/-!
# Time zones with offset changes

A zone has an offset from UTC that changes at finitely many instants, in either direction and by
any amount. Its clock may show a reading several times, and jump over others. A reading is
converted as by `zoneinfo`: to the first or, with the fold, the last moment at which the clock
shows it, and a reading that is jumped over with the offset before or, with the fold, after.
-/
namespace BackupCenter.Lib

structure OffsetChange where
  since : Int
  offset : Int
  deriving DecidableEq

/-- `utcoffset` has to be less than a day. -/
structure TimeZone where
  initial : Int := 0
  changes : List OffsetChange := []
  sorted : changes.Pairwise fun c c' => c.since < c'.since := by decide
  bounded : ∀ o ∈ initial :: changes.map (·.offset), -day < o ∧ o < day := by decide

/-- The offset at an instant, by the changes that are still to come. -/
def offsetFrom (initial : Int) : List OffsetChange → Int → Int
  | [], _ => initial
  | c :: cs, t => if c.since ≤ t then offsetFrom c.offset cs t else initial

/-- The offsets around the first jump over a reading. -/
def jumpFrom (initial : Int) : List OffsetChange → Int → Option (Int × Int)
  | [], _ => none
  | c :: cs, w =>
    if c.since - 1 + initial < w ∧ w < c.since + c.offset then some (initial, c.offset)
    else jumpFrom c.offset cs w

section Walk

variable {o a b t w : Int} {cs : List OffsetChange}

theorem offsetFrom_mem : offsetFrom o cs t ∈ o :: cs.map (·.offset) := by
  induction cs generalizing o with
  | nil => exact List.mem_cons_self
  | cons c cs ih =>
    unfold offsetFrom
    split
    · exact List.mem_cons_of_mem _ ih
    · exact List.mem_cons_self

theorem offsetFrom_of_before (h : ∀ c ∈ cs, t < c.since) : offsetFrom o cs t = o := by
  cases cs with
  | nil => rfl
  | cons c cs => exact if_neg (Int.not_le.mpr (h c List.mem_cons_self))

/-- The offset is the same where there is no change in between. -/
theorem offsetFrom_eq (hle : a ≤ b) (h : ∀ c ∈ cs, ¬ (a < c.since ∧ c.since ≤ b)) :
    offsetFrom o cs a = offsetFrom o cs b := by
  induction cs generalizing o with
  | nil => rfl
  | cons c cs ih =>
    have hc := h c List.mem_cons_self
    unfold offsetFrom
    by_cases ha : c.since ≤ a
    · rw [if_pos ha, if_pos (by omega)]
      exact ih fun c' hc' => h c' (List.mem_cons_of_mem _ hc')
    · rw [if_neg ha, if_neg (by omega)]

/-- A reading that is not shown from some moment on, at which the clock is not yet there, is
jumped over later. -/
theorem jumpFrom_of_missing (hsorted : cs.Pairwise fun c c' => c.since < c'.since)
    (hstart : ∀ c ∈ cs, a < c.since) (hbefore : a + o ≤ w)
    (hmissing : ∀ u, a ≤ u → u + offsetFrom o cs u ≠ w) :
    ∃ c ∈ cs, (c.since - 1) + offsetFrom o cs (c.since - 1) < w ∧
      w < c.since + offsetFrom o cs c.since ∧
      jumpFrom o cs w = some (offsetFrom o cs (c.since - 1), offsetFrom o cs c.since) := by
  induction cs generalizing o a with
  | nil => exact absurd (show w - o + o = w by omega) (hmissing (w - o) (by omega))
  | cons c cs ih =>
    have hc := hstart c List.mem_cons_self
    obtain ⟨hfirst, hrest⟩ := List.pairwise_cons.mp hsorted
    have hprev : offsetFrom o (c :: cs) (c.since - 1) = o := if_neg (by omega)
    have hat : offsetFrom o (c :: cs) c.since = c.offset :=
      (if_pos (Int.le_refl _)).trans (offsetFrom_of_before hfirst)
    have hreached : c.since + o ≤ w := by
      by_contra hlate
      have hsegment : offsetFrom o (c :: cs) (w - o) = o := if_neg (by omega)
      exact hmissing (w - o) (by omega) (by rw [hsegment]; omega)
    by_cases hjump : w < c.since + c.offset
    · refine ⟨c, List.mem_cons_self, ?_, ?_, ?_⟩
      · rw [hprev]
        omega
      · rw [hat]
        exact hjump
      · rw [hprev, hat]
        exact if_pos ⟨by omega, hjump⟩
    · have htail : ∀ u, c.since ≤ u → offsetFrom o (c :: cs) u = offsetFrom c.offset cs u :=
        fun u hu => if_pos hu
      have hrestMissing : ∀ u, c.since ≤ u → u + offsetFrom c.offset cs u ≠ w := by
        intro u hu
        rw [← htail u hu]
        exact hmissing u (by omega)
      obtain ⟨c', hc', hlow, hhigh, hfound⟩ := ih hrest hfirst (by omega) hrestMissing
      have hlater := hfirst c' hc'
      refine ⟨c', List.mem_cons_of_mem _ hc', ?_, ?_, ?_⟩
      · rwa [htail _ (by omega)]
      · rwa [htail _ (by omega)]
      · rw [htail _ (by omega), htail _ (by omega), ← hfound]
        exact if_neg fun h => hjump h.2

end Walk

namespace TimeZone

variable (zone : TimeZone)

def offset (t : Int) : Int := offsetFrom zone.initial zone.changes t

/-- What the clock shows at an instant. -/
def clock (t : Int) : Int := t + zone.offset t

/-- The moments at which the clock shows a reading. -/
def moments (w : Int) : List Int :=
  ((zone.initial :: zone.changes.map (·.offset)).map (w - ·)).filter fun u => zone.clock u = w

/-- The offsets before and after the jump over a reading. -/
def jump (w : Int) : Int × Int :=
  (jumpFrom zone.initial zone.changes w).getD (zone.initial, zone.initial)

/-- The reading at an instant; the fold marks one that was shown before. -/
def toWall (t : Int) : WallTime where
  wall := zone.clock t
  fold := (zone.moments (zone.clock t)).any fun u => u < t

def toInstant (r : WallTime) : Int :=
  let moments := zone.moments r.wall
  if r.fold then moments.max?.getD (r.wall - (zone.jump r.wall).2)
  else moments.min?.getD (r.wall - (zone.jump r.wall).1)

variable {zone} {a b t u w : Int}

theorem offset_bounds (t : Int) : -day < zone.offset t ∧ zone.offset t < day :=
  zone.bounded _ offsetFrom_mem

theorem clock_bounds (t : Int) : t - day < zone.clock t ∧ zone.clock t < t + day := by
  have h := zone.offset_bounds t
  unfold clock
  omega

theorem offset_eq (hle : a ≤ b) (h : ∀ c ∈ zone.changes, ¬ (a < c.since ∧ c.since ≤ b)) :
    zone.offset a = zone.offset b := offsetFrom_eq hle h

@[simp] theorem mem_moments : u ∈ zone.moments w ↔ zone.clock u = w := by
  unfold moments
  rw [List.mem_filter, decide_eq_true_eq, List.mem_map]
  constructor
  · exact fun h => h.2
  · intro h
    refine ⟨⟨zone.offset u, offsetFrom_mem, ?_⟩, h⟩
    unfold clock at h
    omega

theorem fold_toWall : (zone.toWall t).fold = true ↔ ∃ u < t, zone.clock u = zone.clock t := by
  unfold toWall
  simp only [List.any_eq_true, mem_moments, decide_eq_true_eq]
  constructor
  · exact fun ⟨u, hu, hlt⟩ => ⟨u, hlt, hu⟩
  · exact fun ⟨u, hlt, hu⟩ => ⟨u, hu, hlt⟩

/-- A reading is converted to the first moment at which it is shown. -/
theorem toInstant_first (h : ∃ u, zone.clock u = w) :
    IsLeast {u | zone.clock u = w} (zone.toInstant { wall := w }) := by
  obtain ⟨u, hu⟩ := h
  unfold toInstant
  cases hmin : (zone.moments w).min? with
  | none => exact absurd (List.min?_eq_none_iff.mp hmin) (List.ne_nil_of_mem (mem_moments.mpr hu))
  | some first =>
    obtain ⟨hmem, hle⟩ := List.min?_eq_some_iff.mp hmin
    show IsLeast _ ((zone.moments w).min?.getD _)
    rw [hmin]
    exact ⟨mem_moments.mp hmem, fun v hv => hle v (mem_moments.mpr hv)⟩

/-- With the fold, it is converted to the last one. -/
theorem toInstant_last (h : ∃ u, zone.clock u = w) :
    IsGreatest {u | zone.clock u = w} (zone.toInstant { wall := w, fold := true }) := by
  obtain ⟨u, hu⟩ := h
  unfold toInstant
  cases hmax : (zone.moments w).max? with
  | none => exact absurd (List.max?_eq_none_iff.mp hmax) (List.ne_nil_of_mem (mem_moments.mpr hu))
  | some last =>
    obtain ⟨hmem, hle⟩ := List.max?_eq_some_iff.mp hmax
    show IsGreatest _ ((zone.moments w).max?.getD _)
    rw [hmax]
    exact ⟨mem_moments.mp hmem, fun v hv => hle v (mem_moments.mpr hv)⟩

/-- An instant at which no change has happened yet. -/
theorem exists_before (zone : TimeZone) (w : Int) :
    ∃ a, (∀ c ∈ zone.changes, a < c.since) ∧ a + zone.initial ≤ w := by
  have hstart : ∃ a, ∀ c ∈ zone.changes, a < c.since := by
    cases hmin : (zone.changes.map (·.since)).min? with
    | none =>
      have hnil := List.map_eq_nil_iff.mp (List.min?_eq_none_iff.mp hmin)
      exact ⟨0, fun c hc => absurd (hnil ▸ hc) List.not_mem_nil⟩
    | some first =>
      refine ⟨first - 1, fun c hc => ?_⟩
      have hle := (List.min?_eq_some_iff.mp hmin).2 c.since (List.mem_map_of_mem hc)
      omega
  obtain ⟨a, ha⟩ := hstart
  refine ⟨min a (w - zone.initial), fun c hc => ?_, by omega⟩
  have hc' := ha c hc
  omega

/-- A reading that is never shown is jumped over. -/
theorem toInstant_missing (h : ∀ u, zone.clock u ≠ w) : ∃ c ∈ zone.changes,
    zone.clock (c.since - 1) < w ∧ w < zone.clock c.since ∧
    ∀ fold, zone.toInstant { wall := w, fold := fold } =
      w - zone.offset (if fold then c.since else c.since - 1) := by
  obtain ⟨a, hstart, hbefore⟩ := exists_before zone w
  obtain ⟨c, hc, hlow, hhigh, hjump⟩ :=
    jumpFrom_of_missing zone.sorted hstart hbefore fun u _ => h u
  refine ⟨c, hc, hlow, hhigh, fun fold => ?_⟩
  have hnone : zone.moments w = [] :=
    List.eq_nil_iff_forall_not_mem.mpr fun u hu => h u (mem_moments.mp hu)
  simp only [toInstant, hnone, List.min?_nil, List.max?_nil, Option.getD_none, jump, hjump,
    Option.getD_some, offset]
  cases fold with
  | true => rfl
  | false => rfl

/-! ## Instants that stand for readings -/

/-- An instant stands for the reading that is shown, and for one that is never shown if it is
converted to it. -/
def Stands (zone : TimeZone) (u w : Int) : Prop :=
  zone.clock u = w ∨ (∀ v, zone.clock v ≠ w) ∧ u = zone.toInstant { wall := w }

theorem Stands.bounds (h : zone.Stands u w) : w - day < u ∧ u < w + day := by
  rcases h with h | ⟨hmissing, rfl⟩
  · have hbounds := zone.clock_bounds (t := u)
    omega
  · obtain ⟨c, -, -, -, hinstant⟩ := toInstant_missing hmissing
    rw [hinstant false]
    have hbounds := zone.offset_bounds (c.since - 1)
    simp only [Bool.false_eq_true, if_false]
    omega

theorem toInstant_stands : IsLeast {u | zone.Stands u w} (zone.toInstant { wall := w }) := by
  by_cases h : ∃ u, zone.clock u = w
  · obtain ⟨hshown, hleast⟩ := toInstant_first h
    refine ⟨.inl hshown, fun u hu => ?_⟩
    rcases hu with hu | ⟨hmissing, -⟩
    · exact hleast hu
    · exact absurd h (not_exists.mpr hmissing)
  · refine ⟨.inr ⟨not_exists.mp h, rfl⟩, fun u hu => ?_⟩
    rcases hu with hu | ⟨-, rfl⟩
    · exact absurd ⟨u, hu⟩ h
    · exact Int.le_refl _

/-- The next of some readings, which are far apart, is converted to the first instant after a
reference that stands for one of them exactly if the clock tells, for each instant that stands for
one, whether it is before or after. -/
theorem first_after_iff {P : Int → Prop} {r next : Int}
    (hspaced : ∀ w w', P w → P w' → w < w' → w + 2 * day ≤ w')
    (hnext : IsLeast {w | P w ∧ zone.clock r < w} next) :
    IsLeast {u | r < u ∧ ∃ w, P w ∧ zone.Stands u w} (zone.toInstant { wall := next }) ↔
      ∀ w, P w → ∀ u, zone.Stands u w → (r < u ↔ zone.clock r < w) := by
  obtain ⟨⟨hP, hlater⟩, hleast⟩ := hnext
  obtain ⟨hstands, hfirst⟩ := zone.toInstant_stands (w := next)
  have hinstant := hstands.bounds
  constructor
  · rintro ⟨⟨hafter, -⟩, hmin⟩ w hw u hu
    have hbounds := hu.bounds
    constructor
    · intro hr
      by_contra hclock
      have happart := hspaced w next hw hP (by omega)
      have hle := hmin ⟨hr, w, hw, hu⟩
      omega
    · intro hclock
      rcases Int.lt_or_eq_of_le (hleast ⟨hw, hclock⟩) with hlt | rfl
      · have happart := hspaced next w hP hw hlt
        omega
      · exact Int.lt_of_lt_of_le hafter (hfirst hu)
  · intro h
    refine ⟨⟨(h next hP _ hstands).mpr hlater, next, hP, hstands⟩, ?_⟩
    rintro u ⟨hr, w, hw, hu⟩
    have hbounds := hu.bounds
    rcases Int.lt_or_eq_of_le (hleast ⟨hw, (h w hw u hu).mp hr⟩) with hlt | rfl
    · have happart := hspaced next w hP hw hlt
      omega
    · exact hfirst hu

end TimeZone

end BackupCenter.Lib
