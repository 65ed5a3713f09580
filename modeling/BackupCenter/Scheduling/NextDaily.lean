import BackupCenter.Lib.SpacedZones
import BackupCenter.Scheduling.Daily

/-!
# The daily run in a zone with offset changes

`compute_next_daily_run_at` compares and adds on the clock of the zone, and converts at the end.
The fold of the reference stays with a run on the same day and is dropped by the addition of a
day, so a run on the next day is converted to the first moment that shows it.
-/
namespace BackupCenter.Scheduling.NextRun

open BackupCenter.Lib

/-- A `datetime` as a reference: without a zone it is UTC. -/
inductive Reference where
  | naive (utc : Int)
  | aware (wall offset : Int)

/-- `_as_utc_aware` -/
def asUtcAware (now : Int) : Option Reference → Int
  | none => now
  | some (.naive utc) => utc
  | some (.aware wall offset) => wall - offset

/-- `hh:mm` as a part of the day -/
def timeOfDay (time : DailyTime) : Int := time.hh * hour + time.mm * minute

/-- The run after a reference that was converted to UTC. -/
def dailyRunAfter (zone : TimeZone) (time : DailyTime) (referenceUtc : Int) : Int :=
  let referenceLocal := zone.toWall referenceUtc
  let candidateLocal := midnight referenceLocal.wall + timeOfDay time
  if candidateLocal ≤ referenceLocal.wall then zone.toInstant { wall := candidateLocal + day }
  else zone.toInstant { wall := candidateLocal, fold := referenceLocal.fold }

/-- In a zone where no hour is repeated across midnight it is the run of the schedules. -/
theorem computeNextDailyRunAt_eq {zone : TimeZone} {z : Zone} {d : Digits} {timeStr : String}
    {referenceUtc : Int} (hwall : z.toWall = zone.toWall)
    (hinstant : z.toInstant = zone.toInstant) :
    Scheduling.computeNextDailyRunAt d z timeStr referenceUtc =
      dailyRunAfter zone (d.dailyTime timeStr) referenceUtc := by
  unfold Scheduling.computeNextDailyRunAt dailyRunAfter timeOfDay
  simp only [hwall, hinstant, Int.add_assoc]

/-- `compute_next_daily_run_at` -/
def computeNextDailyRunAt (d : Digits) (zone : TimeZone) (now : Int) (timeStr : String)
    (reference : Option Reference) : Int :=
  dailyRunAfter zone (d.dailyTime timeStr) (asUtcAware now reference)

/-- The runs from a reference on, each computed from the one before. -/
def runs (d : Digits) (zone : TimeZone) (now : Int) (timeStr : String)
    (reference : Option Reference) : Nat → Int
  | 0 => computeNextDailyRunAt d zone now timeStr reference
  | n + 1 =>
    computeNextDailyRunAt d zone now timeStr (some (.naive (runs d zone now timeStr reference n)))

section Run

variable (zone : SpacedZone) (time : DailyTime) {r : Int}

/-- The reading is the time on some day. -/
def IsReading (w : Int) : Prop := midnight w + timeOfDay time = w

/-- The clock has not yet shown the time of the day after the local day of a reference. -/
def TomorrowAhead (r : Int) : Prop :=
  ∀ u ≤ r, zone.clock u ≠ midnight (zone.clock r) + day + timeOfDay time

/-- A reading is jumped over by a change, and the clock shows it moved forward by the jump. -/
def MovedForward (w : Int) (c : OffsetChange) (u : Int) : Prop :=
  zone.clock (c.since - 1) < w ∧ w < zone.clock c.since ∧
    zone.clock u = w + (zone.offset c.since - zone.offset (c.since - 1))

theorem timeOfDay_bounds : 0 ≤ timeOfDay time ∧ timeOfDay time < day := by
  have hh := time.hh_lt
  have hm := time.mm_lt
  unfold timeOfDay day hour minute second
  omega

theorem isReading_midnight (w : Int) : IsReading time (midnight w + timeOfDay time) := by
  have h := timeOfDay_bounds time
  unfold IsReading midnight day hour minute second at *
  omega

theorem isReading_add_day {w : Int} : IsReading time (w + day) ↔ IsReading time w := by
  unfold IsReading midnight day hour minute second
  omega

/-- Readings of one time are whole days apart. -/
theorem isReading_next {w w' : Int} (hw : IsReading time w) (hw' : IsReading time w')
    (hlow : w < w') (hhigh : w' ≤ w + day) : w' = w + day := by
  unfold IsReading midnight day hour minute second at *
  omega

/-- A reading of the next day that is jumped over is converted to a moment after the reference. -/
theorem missing_after {w : Int} (hmissing : ∀ u, zone.clock u ≠ w) (hlow : zone.clock r < w)
    (hhigh : w ≤ zone.clock r + day) : ∃ c ∈ zone.changes, r < c.since ∧
    c.since ≤ zone.toInstant { wall := w } ∧
    zone.toInstant { wall := w } - r = w - zone.clock r ∧
    MovedForward zone w c (zone.toInstant { wall := w }) := by
  have hday := day_eq
  have hpos := hour_pos
  obtain ⟨c, hc, hbelow, habove, hsince, hvalue, hmoved⟩ := zone.missing hmissing
  have hahead : r < c.since := by
    by_contra hpast
    have hback := zone.clock_ge (a := c.since) (b := r) (by omega)
    have hafter := SpacedZone.offset_after hc (v := r) (by omega) (by omega)
    unfold TimeZone.clock at *
    omega
  have hnear : c.since - 2 * day ≤ r := by
    by_contra hfar
    have hlate := zone.clock_ge_far (a := r) (b := c.since - 1) (by omega)
    omega
  have hbefore := SpacedZone.offset_before hc hnear hahead
  refine ⟨c, hc, hahead, hsince, ?_, hbelow, habove, hmoved⟩
  rw [hvalue, ← hbefore]
  unfold TimeZone.clock
  omega

/-- Where a run is: at the next reading, or at a jump over it that is still to come. -/
theorem dailyRunAfter_cases (r : Int) : ∃ w, IsReading time w ∧
    zone.clock r < w ∧ w ≤ zone.clock r + day ∧
    (zone.clock (dailyRunAfter zone.toTimeZone time r) = w ∧
        (TomorrowAhead zone time r → r < dailyRunAfter zone.toTimeZone time r) ∨
      (∀ u, zone.clock u ≠ w) ∧ ∃ c ∈ zone.changes, r < c.since ∧
        c.since ≤ dailyRunAfter zone.toTimeZone time r ∧
        dailyRunAfter zone.toTimeZone time r - r = w - zone.clock r ∧
        MovedForward zone w c (dailyRunAfter zone.toTimeZone time r)) := by
  have hday := day_eq
  have hpos := hour_pos
  have htime := timeOfDay_bounds time
  have hmidnight := midnight_le (zone.clock r)
  have hnext := lt_midnight_add (zone.clock r)
  by_cases hpast : midnight (zone.clock r) + timeOfDay time ≤ zone.clock r
  · have hrun : dailyRunAfter zone.toTimeZone time r =
        zone.toInstant { wall := midnight (zone.clock r) + timeOfDay time + day } := if_pos hpast
    rw [hrun]
    refine ⟨_, (isReading_add_day time).mpr (isReading_midnight time (zone.clock r)), by omega,
      by omega, ?_⟩
    by_cases hshown : ∃ u, zone.clock u = midnight (zone.clock r) + timeOfDay time + day
    · obtain ⟨hclock, -⟩ := TimeZone.toInstant_first hshown
      refine .inl ⟨hclock, fun hahead => ?_⟩
      by_contra hle
      refine hahead _ (Int.not_lt.mp hle) ?_
      rw [show zone.clock _ = _ from hclock]
      omega
    · exact .inr ⟨not_exists.mp hshown,
        missing_after zone (not_exists.mp hshown) (by omega) (by omega)⟩
  · have hrun : dailyRunAfter zone.toTimeZone time r = zone.toInstant
        { wall := midnight (zone.clock r) + timeOfDay time, fold := (zone.toWall r).fold } :=
      if_neg hpast
    rw [hrun]
    refine ⟨_, isReading_midnight time (zone.clock r), by omega, by omega, ?_⟩
    cases hfold : (zone.toWall r).fold with
    | true =>
      -- The offset stays for the rest of the day, so the clock gets there without a jump.
      have hshown : zone.clock (r + (midnight (zone.clock r) + timeOfDay time - zone.clock r)) =
          midnight (zone.clock r) + timeOfDay time := by
        have hstays := zone.offset_of_fold hfold
          (u := r + (midnight (zone.clock r) + timeOfDay time - zone.clock r)) (by omega) (by omega)
        unfold TimeZone.clock at *
        omega
      obtain ⟨hclock, hlast⟩ := TimeZone.toInstant_last ⟨_, hshown⟩
      refine .inl ⟨hclock, fun _ => ?_⟩
      have hle := hlast hshown
      omega
    | false =>
      by_cases hshown : ∃ u, zone.clock u = midnight (zone.clock r) + timeOfDay time
      · obtain ⟨hclock, -⟩ := TimeZone.toInstant_first hshown
        exact .inl ⟨hclock, fun _ => zone.lt_of_first hfold (by omega) hclock⟩
      · exact .inr ⟨not_exists.mp hshown,
          missing_after zone (not_exists.mp hshown) (by omega) (by omega)⟩

theorem dailyRunAfter_le (h : ¬ TomorrowAhead zone time r) :
    dailyRunAfter zone.toTimeZone time r ≤ r := by
  have hday := day_eq
  have hpos := hour_pos
  have hnext := lt_midnight_add (zone.clock r)
  obtain ⟨u, hu, hclock⟩ : ∃ u ≤ r, zone.clock u =
      midnight (zone.clock r) + day + timeOfDay time := by
    unfold TomorrowAhead at h
    push Not at h
    exact h
  have hback := zone.clock_ge hu
  have hpast : midnight (zone.clock r) + timeOfDay time ≤ zone.clock r := by omega
  have hrun : dailyRunAfter zone.toTimeZone time r =
      zone.toInstant { wall := midnight (zone.clock r) + timeOfDay time + day } := if_pos hpast
  have hshown : zone.clock u = midnight (zone.clock r) + timeOfDay time + day := by omega
  rw [hrun]
  exact Int.le_trans ((TimeZone.toInstant_first ⟨u, hshown⟩).2 hshown) hu

/-- After a run, the time of the next day is still ahead. -/
theorem tomorrowAhead_run : TomorrowAhead zone time (dailyRunAfter zone.toTimeZone time r) := by
  have hday := day_eq
  have hpos := hour_pos
  have htime := timeOfDay_bounds time
  intro u hu hclock
  have hback := zone.clock_ge hu
  obtain ⟨w, hw, -, -, hrun⟩ := dailyRunAfter_cases zone time r
  have hforward : w ≤ zone.clock (dailyRunAfter zone.toTimeZone time r) ∧
      zone.clock (dailyRunAfter zone.toTimeZone time r) ≤ w + 3 * hour := by
    rcases hrun with ⟨hexact, -⟩ | ⟨-, c, hc, -, -, -, hlow, hhigh, hmoved⟩
    · omega
    · have hstep := SpacedZone.step hc
      unfold TimeZone.clock at hlow hhigh
      omega
  have hmidnight : midnight w ≤ midnight (zone.clock (dailyRunAfter zone.toTimeZone time r)) := by
    unfold midnight day hour minute second
    omega
  unfold IsReading at hw
  omega

/-- Without a change in between, a run is a day after the one before. -/
theorem dailyRunAfter_steady (hahead : TomorrowAhead zone time r)
    (hsteady : ∀ c ∈ zone.changes, ¬ (r < c.since ∧ c.since ≤
      dailyRunAfter zone.toTimeZone time (dailyRunAfter zone.toTimeZone time r))) :
    dailyRunAfter zone.toTimeZone time (dailyRunAfter zone.toTimeZone time r) =
      dailyRunAfter zone.toTimeZone time r + day := by
  obtain ⟨w, hw, -, -, hfirst⟩ := dailyRunAfter_cases zone time r
  obtain ⟨w', hw', hlow, hhigh, hsecond⟩ :=
    dailyRunAfter_cases zone time (dailyRunAfter zone.toTimeZone time r)
  have hlater : dailyRunAfter zone.toTimeZone time r <
      dailyRunAfter zone.toTimeZone time (dailyRunAfter zone.toTimeZone time r) := by
    rcases hsecond with ⟨-, hafter⟩ | ⟨-, c, -, hahead', hsince, -⟩
    · exact hafter (tomorrowAhead_run zone time)
    · omega
  rcases hfirst with ⟨hclock, hafter⟩ | ⟨-, c, hc, hnew, hsince, -⟩
  · have hr := hafter hahead
    rcases hsecond with ⟨hclock', -⟩ | ⟨-, c, hc, hnew, hsince, -⟩
    · have hsame := TimeZone.offset_eq (Int.le_of_lt hlater) fun c hc hin =>
        hsteady c hc ⟨by omega, hin.2⟩
      have hreading := isReading_next time hw hw' (hclock ▸ hlow) (hclock ▸ hhigh)
      unfold TimeZone.clock at hclock hclock'
      omega
    · exact absurd ⟨by omega, hsince⟩ (hsteady c hc)
  · exact absurd ⟨hnew, by omega⟩ (hsteady c hc)

end Run

/-! ## The runs of a schedule -/

/-- What the run after a reference is, and the runs computed from it. -/
structure NextDaily (d : Digits) (zone : SpacedZone) (now : Int) (timeStr : String)
    (reference : Option Reference) : Prop where
  later : asUtcAware now reference <
    computeNextDailyRunAt d zone.toTimeZone now timeStr reference
  soon : computeNextDailyRunAt d zone.toTimeZone now timeStr reference - asUtcAware now reference ≤
    day + max 0 (zone.offset (asUtcAware now reference) -
      zone.offset (computeNextDailyRunAt d zone.toTimeZone now timeStr reference))
  shows : ∃ w, IsReading (d.dailyTime timeStr) w ∧
    zone.clock (asUtcAware now reference) < w ∧ w ≤ zone.clock (asUtcAware now reference) + day ∧
    (zone.clock (computeNextDailyRunAt d zone.toTimeZone now timeStr reference) = w ∨
      (∀ u, zone.clock u ≠ w) ∧ ∃ c ∈ zone.changes,
        MovedForward zone w c (computeNextDailyRunAt d zone.toTimeZone now timeStr reference))
  advances : ∀ n, runs d zone.toTimeZone now timeStr reference n <
    runs d zone.toTimeZone now timeStr reference (n + 1)
  steady : ∀ n, (∀ c ∈ zone.changes, ¬ (asUtcAware now reference < c.since ∧
      c.since ≤ runs d zone.toTimeZone now timeStr reference (n + 1))) →
    runs d zone.toTimeZone now timeStr reference (n + 1) =
      runs d zone.toTimeZone now timeStr reference n + day

section Runs

variable (d : Digits) (zone : SpacedZone) (now : Int) (timeStr : String)
  (reference : Option Reference)

/-- Every run is computed from an instant: from the reference or from the run before. -/
theorem runs_after (n : Nat) : ∃ r, runs d zone.toTimeZone now timeStr reference n =
    dailyRunAfter zone.toTimeZone (d.dailyTime timeStr) r := by
  cases n with
  | zero => exact ⟨_, rfl⟩
  | succ n => exact ⟨_, rfl⟩

theorem runs_advance (n : Nat) : runs d zone.toTimeZone now timeStr reference n <
    runs d zone.toTimeZone now timeStr reference (n + 1) := by
  obtain ⟨r, hr⟩ := runs_after d zone now timeStr reference n
  show runs d zone.toTimeZone now timeStr reference n < dailyRunAfter zone.toTimeZone
    (d.dailyTime timeStr) (runs d zone.toTimeZone now timeStr reference n)
  rw [hr]
  obtain ⟨w, -, -, -, hrun⟩ := dailyRunAfter_cases zone (d.dailyTime timeStr)
    (dailyRunAfter zone.toTimeZone (d.dailyTime timeStr) r)
  rcases hrun with ⟨-, hafter⟩ | ⟨-, c, -, hahead, hsince, -⟩
  · exact hafter (tomorrowAhead_run zone (d.dailyTime timeStr))
  · omega

theorem lt_runs (hlater : asUtcAware now reference <
      computeNextDailyRunAt d zone.toTimeZone now timeStr reference) (n : Nat) :
    asUtcAware now reference < runs d zone.toTimeZone now timeStr reference n := by
  induction n with
  | zero => exact hlater
  | succ n ih => exact Int.lt_trans ih (runs_advance d zone now timeStr reference n)

/-- The run after a reference is the next daily one unless the clock, going back over midnight,
has shown the time of the next day before the reference. -/
theorem nextDaily_iff : NextDaily d zone now timeStr reference ↔
    TomorrowAhead zone (d.dailyTime timeStr) (asUtcAware now reference) := by
  constructor
  · intro h
    by_contra hshown
    exact absurd h.later (Int.not_lt.mpr (dailyRunAfter_le zone (d.dailyTime timeStr) hshown))
  · intro hahead
    obtain ⟨w, hw, hlow, hhigh, hrun⟩ :=
      dailyRunAfter_cases zone (d.dailyTime timeStr) (asUtcAware now reference)
    have hlater : asUtcAware now reference <
        computeNextDailyRunAt d zone.toTimeZone now timeStr reference := by
      rcases hrun with ⟨-, hafter⟩ | ⟨-, c, -, hnew, hsince, -⟩
      · exact hafter hahead
      · exact Int.lt_of_lt_of_le hnew hsince
    refine ⟨hlater, ?_, ⟨w, hw, hlow, hhigh, ?_⟩, runs_advance d zone now timeStr reference, ?_⟩
    · rcases hrun with ⟨hclock, -⟩ | ⟨-, c, -, -, -, hdistance, -⟩
      · unfold computeNextDailyRunAt TimeZone.clock at *
        omega
      · unfold computeNextDailyRunAt
        omega
    · rcases hrun with ⟨hclock, -⟩ | ⟨hmissing, c, hc, -, -, -, hmoved⟩
      · exact .inl hclock
      · exact .inr ⟨hmissing, c, hc, hmoved⟩
    · intro n hsteady
      cases n with
      | zero => exact dailyRunAfter_steady zone (d.dailyTime timeStr) hahead hsteady
      | succ n =>
        have hstart := lt_runs d zone now timeStr reference hlater n
        obtain ⟨r, hr⟩ := runs_after d zone now timeStr reference n
        apply dailyRunAfter_steady zone (d.dailyTime timeStr)
          (r := runs d zone.toTimeZone now timeStr reference n)
        · rw [hr]
          exact tomorrowAhead_run zone (d.dailyTime timeStr)
        · exact fun c hc hin => hsteady c hc ⟨by omega, hin.2⟩

end Runs

/-! A clock that goes back from 00:01 to 23:01, and a reference in its second pass: midnight has
been shown before, and the run at midnight is computed half an hour into the past. -/

def backOverMidnight : SpacedZone where
  initial := -150 * minute
  changes := [{ since := 151 * minute, offset := -210 * minute }]

theorem run_in_the_past : ¬ NextDaily .onlyAscii backOverMidnight 0 "00:00"
    (some (.naive (180 * minute))) := by
  intro h
  exact absurd h.later (by decide)

end BackupCenter.Scheduling.NextRun
