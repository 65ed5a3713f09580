import BackupCenter.Lib.Calendar
import BackupCenter.Scheduling.NextDaily
import BackupCenter.Tenants.Schema

/-!
# Weekly and monthly runs

`compute_next_run_at` looks for the next reading of the clock on the chosen day of the week or of
the month, and converts it. It compares readings: whether the instants are in the same order is
up to the zone.
-/
namespace BackupCenter.Scheduling.NextRun

open BackupCenter.Lib

section Limits

variable {hh mm : Int} (h : (0 ≤ hh ∧ hh ≤ 23) ∧ 0 ≤ mm ∧ mm ≤ 59)

include h

theorem hour_lt : hh.toNat < 24 := by omega

theorem minute_lt : mm.toNat < 60 := by omega

end Limits

theorem zero_lt_sixty : 0 < 60 := by decide

/-- `sanitize_daily_time`, with its default -/
def dailyTimeOr (d : Digits) (default : DailyTime) (timeStr : String) : DailyTime :=
  match d.timeParts (strip timeStr) with
  | some (hh, mm) =>
    if h : (0 ≤ hh ∧ hh ≤ 23) ∧ 0 ≤ mm ∧ mm ≤ 59 then
      { hh := hh.toNat, mm := mm.toNat, hh_lt := hour_lt h, mm_lt := minute_lt h }
    else default
  | none => default

theorem dailyTime_eq_dailyTimeOr {d : Digits} {timeStr : String} :
    d.dailyTime timeStr = dailyTimeOr d { hh := 2, mm := 0 } timeStr := by
  unfold Digits.dailyTime dailyTimeOr
  cases d.timeParts (strip timeStr) with
  | none => rfl
  | some parts => rfl

/-- A formatted time is read back as it is. -/
theorem dailyTime_text {d : Digits} (time : DailyTime) : d.dailyTime time.text = time := by
  obtain ⟨hspace, -⟩ := digitChar_plain (time.hh / 10) (by have := time.hh_lt; omega)
  obtain ⟨hspace', -⟩ := digitChar_plain (time.mm % 10) (by omega)
  have hstrip : strip time.text = time.text := by
    unfold strip DailyTime.text
    rw [String.toList_ofList]
    simp [stripChars, twoDigits, hspace, hspace']
  obtain ⟨hh, mm, hhh, hmm⟩ := time
  unfold Digits.dailyTime
  rw [hstrip, d.timeParts_text]
  dsimp only
  rw [dif_pos (by omega)]
  simp

/-- The first day of 1970. -/
def epochOrdinal : Int := 719163

/-- `date.toordinal` of a reading -/
def ordinalOf (wall : Int) : Int := wall / day + epochOrdinal

/-- `datetime.weekday`, with Monday as 0 -/
def weekday (wall : Int) : Int := (ordinalOf wall + 6) % 7

/-- `datetime(year, month, dayOfMonth, hh, mm)` -/
def dateTime (time : DailyTime) (year : Int) (month : Nat) (dayOfMonth : Int) : Int :=
  (ordinal year month dayOfMonth - epochOrdinal) * day + timeOfDay time

/-- The weekday that is chosen, or that of the reference. -/
def targetWeekday (dayOfWeek : Option Int) (referenceWall : Int) : Int :=
  max 0 (min (dayOfWeek.getD (weekday referenceWall)) 6)

/-- `day_of_month or 1`, as a day of a month -/
def targetDay (dayOfMonth : Option Int) : Int :=
  max 1 (min ((dayOfMonth.filter (· ≠ 0)).getD 1) 31)

/-- The reading that the weekly branch converts; the additions drop the fold. -/
def weeklyCandidate (time : DailyTime) (dayOfWeek : Option Int) (referenceWall : Int) : Int :=
  let replaced := midnight referenceWall + timeOfDay time
  let daysAhead := (targetWeekday dayOfWeek referenceWall - weekday replaced) % 7
  let candidateLocal := replaced + daysAhead * day
  if candidateLocal ≤ referenceWall then candidateLocal + 7 * day else candidateLocal

/-- The day of a month, or its last day when the month is too short. -/
def monthlyReading (time : DailyTime) (dayOfMonth : Option Int) (year : Int) (month : Nat) : Int :=
  dateTime time year month (min (targetDay dayOfMonth) (daysInMonth year month))

/-- The reading that the monthly branch converts. -/
def monthlyCandidate (time : DailyTime) (dayOfMonth : Option Int) (referenceWall : Int) : Int :=
  let year := yearOf (ordinalOf referenceWall)
  let month := monthOf (ordinalOf referenceWall)
  if monthlyReading time dayOfMonth year month ≤ referenceWall then
    monthlyReading time dayOfMonth (nextMonth year month).1 (nextMonth year month).2
  else monthlyReading time dayOfMonth year month

/-- `str(frequency or "daily").strip().lower()` -/
def normalizedFrequency (lower : String → String) (frequency : Option String) : String :=
  lower (strip ((Tenants.nonempty frequency).getD "daily"))

/-- `compute_next_run_at` -/
def computeNextRunAt (lower : String → String) (d : Digits) (zone : TimeZone) (now : Int)
    (timeStr : String) (frequency : Option String) (dayOfWeek dayOfMonth : Option Int)
    (reference : Option Reference) : Int :=
  let referenceLocal := zone.toWall (asUtcAware now reference)
  let time := dailyTimeOr d { hh := 0, mm := 0, mm_lt := zero_lt_sixty } timeStr
  if normalizedFrequency lower frequency = "weekly" then
    zone.toInstant { wall := weeklyCandidate time dayOfWeek referenceLocal.wall }
  else if normalizedFrequency lower frequency = "monthly" then
    zone.toInstant { wall := monthlyCandidate time dayOfMonth referenceLocal.wall }
  else computeNextDailyRunAt d zone now time.text reference

/-- Any other frequency is daily, at the same time. -/
theorem computeNextRunAt_daily {lower : String → String} {d : Digits} {zone : TimeZone}
    {now : Int} {timeStr : String} {frequency : Option String} {dayOfWeek dayOfMonth : Option Int}
    {reference : Option Reference} (hweekly : normalizedFrequency lower frequency ≠ "weekly")
    (hmonthly : normalizedFrequency lower frequency ≠ "monthly") :
    computeNextRunAt lower d zone now timeStr frequency dayOfWeek dayOfMonth reference =
      dailyRunAfter zone (dailyTimeOr d { hh := 0, mm := 0 } timeStr)
        (asUtcAware now reference) := by
  unfold computeNextRunAt
  dsimp only
  rw [if_neg hweekly, if_neg hmonthly]
  unfold computeNextDailyRunAt
  rw [dailyTime_text]

/-! ## The readings of a schedule -/

/-- The readings on the chosen weekday. -/
def WeeklyReading (time : DailyTime) (dayOfWeek : Option Int) (referenceWall w : Int) : Prop :=
  IsReading time w ∧ weekday w = targetWeekday dayOfWeek referenceWall

/-- The readings on the chosen day of a month, or on its last day. -/
def MonthlyReading (time : DailyTime) (dayOfMonth : Option Int) (w : Int) : Prop :=
  ∃ year month, (1 ≤ month ∧ month ≤ 12) ∧ w = monthlyReading time dayOfMonth year month

section Readings

variable {time : DailyTime} {dayOfWeek dayOfMonth : Option Int} {wall w w' : Int}

theorem weeklyReading_spaced (hw : WeeklyReading time dayOfWeek wall w)
    (hw' : WeeklyReading time dayOfWeek wall w') (h : w < w') : w + 2 * day ≤ w' := by
  obtain ⟨hread, hday⟩ := hw
  obtain ⟨hread', hday'⟩ := hw'
  have hsame := hday.trans hday'.symm
  have htime := timeOfDay_bounds time
  unfold weekday ordinalOf epochOrdinal at hsame
  unfold IsReading midnight at hread hread'
  unfold day hour minute second at *
  omega

/-- The weekly candidate is the next reading on the weekday. -/
theorem weeklyCandidate_least : IsLeast {w | WeeklyReading time dayOfWeek wall w ∧ wall < w}
    (weeklyCandidate time dayOfWeek wall) := by
  have htime := timeOfDay_bounds time
  have htarget : 0 ≤ targetWeekday dayOfWeek wall ∧ targetWeekday dayOfWeek wall < 7 := by
    unfold targetWeekday
    omega
  have hwall := midnight_le wall
  have hnext := lt_midnight_add wall
  unfold weeklyCandidate WeeklyReading IsReading weekday ordinalOf epochOrdinal midnight at *
  unfold day hour minute second at *
  dsimp only
  constructor
  · show (_ ∧ _) ∧ _
    split_ifs <;> omega
  · rintro w ⟨⟨hread, hday⟩, hlater⟩
    split_ifs <;> omega

section Months

variable (time : DailyTime) (dayOfMonth : Option Int) {year year' : Int} {month month' : Nat}

theorem monthlyReading_earlier (h : EarlierMonth year month year' month') (hm : 1 ≤ month)
    (hm12 : month ≤ 12) : monthlyReading time dayOfMonth year month + 2 * day ≤
      monthlyReading time dayOfMonth year' month' := by
  have hmonths := h.ordinal_le hm hm12
  have hdays := @daysInMonth_bounds year month
  have hdays' := @daysInMonth_bounds year' month'
  have htarget : 1 ≤ targetDay dayOfMonth := by
    unfold targetDay
    omega
  unfold monthlyReading dateTime
  unfold ordinal day hour minute second at *
  omega

/-- A reading is before its month's end, and not before its beginning. -/
theorem monthlyReading_bounds (year : Int) (month : Nat) :
    (ordinal year month 1 - epochOrdinal) * day ≤ monthlyReading time dayOfMonth year month ∧
      monthlyReading time dayOfMonth year month <
        (ordinal year month (daysInMonth year month) + 1 - epochOrdinal) * day := by
  have htime := timeOfDay_bounds time
  have hdays := @daysInMonth_bounds year month
  have htarget : 1 ≤ targetDay dayOfMonth := by
    unfold targetDay
    omega
  unfold monthlyReading dateTime
  unfold ordinal day hour minute second at *
  omega

/-- The readings of the months up to that of a moment and from the next one on. -/
theorem monthlyReading_past (wall : Int)
    (h : EarlierMonth year month (yearOf (ordinalOf wall)) (monthOf (ordinalOf wall)))
    (hm : 1 ≤ month) (hm12 : month ≤ 12) : monthlyReading time dayOfMonth year month ≤ wall := by
  obtain ⟨-, -, hlow, -⟩ := monthOf_bounds (ordinalOf wall)
  have hmonths := h.ordinal_le hm hm12
  have hreading := monthlyReading_bounds time dayOfMonth year month
  unfold ordinalOf at *
  unfold ordinal day hour minute second at *
  omega

theorem monthlyReading_ahead (wall : Int)
    (h : EarlierMonth (yearOf (ordinalOf wall)) (monthOf (ordinalOf wall)) year month) :
    wall < monthlyReading time dayOfMonth year month := by
  obtain ⟨hm, hm12, -, hhigh⟩ := monthOf_bounds (ordinalOf wall)
  have hmonths := h.ordinal_le hm hm12
  have hreading := monthlyReading_bounds time dayOfMonth year month
  unfold ordinalOf at *
  unfold ordinal day hour minute second at *
  omega

end Months

theorem monthlyReading_spaced (hw : MonthlyReading time dayOfMonth w)
    (hw' : MonthlyReading time dayOfMonth w') (h : w < w') : w + 2 * day ≤ w' := by
  obtain ⟨year, month, ⟨hm, hm12⟩, rfl⟩ := hw
  obtain ⟨year', month', ⟨hm', hm12'⟩, rfl⟩ := hw'
  rcases EarlierMonth.trichotomy year month year' month' with hlt | ⟨rfl, rfl⟩ | hgt
  · exact monthlyReading_earlier time dayOfMonth hlt hm hm12
  · omega
  · have hback := monthlyReading_earlier time dayOfMonth hgt hm' hm12'
    have hpos := hour_pos
    have hday := day_eq
    omega

/-- The monthly candidate is the next reading on the day of the month. -/
theorem monthlyCandidate_least : IsLeast {w | MonthlyReading time dayOfMonth w ∧ wall < w}
    (monthlyCandidate time dayOfMonth wall) := by
  have hpos := hour_pos
  have hday := day_eq
  obtain ⟨hm, hm12, -, -⟩ := monthOf_bounds (ordinalOf wall)
  unfold monthlyCandidate
  dsimp only
  split_ifs with hpast
  · obtain ⟨hnext, hnext12⟩ :=
      @nextMonth_bounds (yearOf (ordinalOf wall)) (monthOf (ordinalOf wall))
    have hahead := monthlyReading_ahead time dayOfMonth wall earlierMonth_nextMonth
    refine ⟨⟨⟨_, _, ⟨hnext, hnext12⟩, rfl⟩, hahead⟩, ?_⟩
    rintro w ⟨⟨year, month, ⟨hlow, hhigh⟩, rfl⟩, hlater⟩
    rcases EarlierMonth.trichotomy year month (nextMonth (yearOf (ordinalOf wall))
        (monthOf (ordinalOf wall))).1 (nextMonth (yearOf (ordinalOf wall))
        (monthOf (ordinalOf wall))).2 with hlt | ⟨hyear, hmonth⟩ | hgt
    · -- The reading would be of the month of the reference or of an earlier one.
      have hnot := (earlierMonth_next hlow hhigh hm12).mp hlt
      rcases EarlierMonth.trichotomy year month (yearOf (ordinalOf wall))
          (monthOf (ordinalOf wall)) with hpastMonth | ⟨hyear, hmonth⟩ | hlaterMonth
      · have hbefore := monthlyReading_past time dayOfMonth wall hpastMonth hlow hhigh
        omega
      · rw [hyear, hmonth] at hlater
        omega
      · exact absurd hlaterMonth hnot
    · rw [hyear, hmonth]
    · have happart := monthlyReading_earlier time dayOfMonth hgt hnext hnext12
      omega
  · refine ⟨⟨⟨_, _, ⟨hm, hm12⟩, rfl⟩, by omega⟩, ?_⟩
    rintro w ⟨⟨year, month, ⟨hlow, hhigh⟩, rfl⟩, hlater⟩
    rcases EarlierMonth.trichotomy year month (yearOf (ordinalOf wall))
        (monthOf (ordinalOf wall)) with hlt | ⟨hyear, hmonth⟩ | hgt
    · have hbefore := monthlyReading_past time dayOfMonth wall hlt hlow hhigh
      omega
    · rw [hyear, hmonth]
    · have happart := monthlyReading_earlier time dayOfMonth hgt hm hm12
      omega

end Readings

/-! ## The first run after a reference -/

/-- The readings that a schedule asks for. -/
def Asked (lower : String → String) (frequency : Option String) (time : DailyTime)
    (dayOfWeek dayOfMonth : Option Int) (referenceWall w : Int) : Prop :=
  if normalizedFrequency lower frequency = "weekly" then
    WeeklyReading time dayOfWeek referenceWall w
  else MonthlyReading time dayOfMonth w

section First

variable (lower : String → String) (d : Digits) (zone : TimeZone) (now : Int) (timeStr : String)
  (frequency : Option String) (dayOfWeek dayOfMonth : Option Int) (reference : Option Reference)

/-- The readings of a schedule, for the time that `compute_next_run_at` reads. -/
def AskedAt (w : Int) : Prop :=
  Asked lower frequency (dailyTimeOr d { hh := 0, mm := 0, mm_lt := zero_lt_sixty } timeStr)
    dayOfWeek dayOfMonth (zone.clock (asUtcAware now reference)) w

/-- A weekly or monthly run is the first instant after the reference that stands for a reading of
the schedule exactly if each instant that stands for such a reading is after the reference when
the clock says so, and only then. -/
theorem computeNextRunAt_first_iff (h : normalizedFrequency lower frequency = "weekly" ∨
      normalizedFrequency lower frequency = "monthly") :
    IsLeast {u | asUtcAware now reference < u ∧ ∃ w,
        AskedAt lower d zone now timeStr frequency dayOfWeek dayOfMonth reference w ∧
          zone.Stands u w}
      (computeNextRunAt lower d zone now timeStr frequency dayOfWeek dayOfMonth reference) ↔
    ∀ w, AskedAt lower d zone now timeStr frequency dayOfWeek dayOfMonth reference w →
      ∀ u, zone.Stands u w →
        (asUtcAware now reference < u ↔ zone.clock (asUtcAware now reference) < w) := by
  by_cases hweekly : normalizedFrequency lower frequency = "weekly"
  · unfold computeNextRunAt AskedAt Asked
    simp only [if_pos hweekly]
    exact TimeZone.first_after_iff (fun w w' => weeklyReading_spaced) weeklyCandidate_least
  · have hmonthly := h.resolve_left hweekly
    unfold computeNextRunAt AskedAt Asked
    simp only [if_neg hweekly, if_pos hmonthly]
    exact TimeZone.first_after_iff (fun w w' => monthlyReading_spaced) monthlyCandidate_least

end First

/-- On the last day of each month, in UTC. -/
theorem computeNextRunAt_first_utc :
    IsLeast {u | asUtcAware 0 (some (.naive 0)) < u ∧ ∃ w,
        AskedAt asciiLower .onlyAscii {} 0 "06:30" (some "Monthly ") none (some 31)
          (some (.naive 0)) w ∧ TimeZone.Stands {} u w}
      (computeNextRunAt asciiLower .onlyAscii {} 0 "06:30" (some "Monthly ") none (some 31)
        (some (.naive 0))) := by
  apply (computeNextRunAt_first_iff _ _ _ _ _ _ _ _ _ (.inr (by decide))).mpr
  have hclock : ∀ u, TimeZone.clock {} u = u := fun u => Int.add_zero u
  rintro w - u (hshown | ⟨hmissing, -⟩)
  · rw [hclock] at hshown ⊢
    rw [hshown]
  · exact absurd (hclock w) (hmissing w)

/-! The clock goes back from 02:00 to 01:00, and a reference at 01:30 in its second pass: the run at
01:45 is converted to the first pass, before the reference. -/

def backOneHour : TimeZone where
  initial := hour
  changes := [{ since := hour, offset := 0 }]

theorem weekly_run_in_the_past :
    ¬ IsLeast {u | asUtcAware 0 (some (.naive (90 * minute))) < u ∧ ∃ w,
        AskedAt asciiLower .onlyAscii backOneHour 0 "01:45" (some "weekly") none none
          (some (.naive (90 * minute))) w ∧ backOneHour.Stands u w}
      (computeNextRunAt asciiLower .onlyAscii backOneHour 0 "01:45" (some "weekly") none none
        (some (.naive (90 * minute)))) := by
  intro h
  exact absurd h.1.1 (by decide)

end BackupCenter.Scheduling.NextRun
