import Mathlib.Data.Nat.Find
import Mathlib.Tactic.IntervalCases
import Mathlib.Tactic.Ring

/-!
# The Gregorian calendar

Days are numbered as by `date.toordinal`: day 1 is the first of January of the year 1. The year
and the month of a day are those of `date.fromordinal`.
-/
namespace BackupCenter.Lib

/-- `calendar.isleap` -/
def isLeap (year : Int) : Bool := year % 4 = 0 && (year % 100 ≠ 0 || year % 400 = 0)

/-- `_days_before_year` -/
def daysBeforeYear (year : Int) : Int :=
  (year - 1) * 365 + (year - 1) / 4 - (year - 1) / 100 + (year - 1) / 400

/-- `calendar.monthrange(year, month)[1]` -/
def daysInMonth (year : Int) (month : Nat) : Int :=
  if month = 2 then if isLeap year then 29 else 28
  else if month ∈ [4, 6, 9, 11] then 30
  else 31

/-- `_days_before_month` -/
def daysBeforeMonth (year : Int) : Nat → Int
  | 0 | 1 => 0
  | month + 2 => daysBeforeMonth year (month + 1) + daysInMonth year (month + 1)

/-- The day number of a date. -/
def ordinal (year : Int) (month : Nat) (dayOfMonth : Int) : Int :=
  daysBeforeYear year + daysBeforeMonth year month + dayOfMonth

/-- The year of a day. -/
def yearOf (n : Int) : Int :=
  let n := n - 1
  let n400 := n / 146097
  let n := n % 146097
  let n100 := n / 36524
  let n := n % 36524
  let n4 := n / 1461
  let n := n % 1461
  let n1 := n / 365
  let year := n400 * 400 + n100 * 100 + n4 * 4 + n1 + 1
  if n1 = 4 ∨ n100 = 4 then year - 1 else year

/-- The month of a day. -/
def monthOf (n : Int) : Nat :=
  Nat.findGreatest (fun m => daysBeforeMonth (yearOf n) m < n - daysBeforeYear (yearOf n)) 12

section Calendar

variable {year year' n : Int} {month month' : Nat}

theorem daysInMonth_bounds : 28 ≤ daysInMonth year month ∧ daysInMonth year month ≤ 31 := by
  unfold daysInMonth
  split_ifs <;> omega

theorem daysBeforeYear_succ :
    daysBeforeYear (year + 1) = daysBeforeYear year + if isLeap year then 366 else 365 := by
  unfold daysBeforeYear isLeap
  simp only [Bool.and_eq_true, Bool.or_eq_true, decide_eq_true_eq]
  split_ifs <;> omega

theorem daysBeforeYear_mono (h : year ≤ year') : daysBeforeYear year ≤ daysBeforeYear year' := by
  unfold daysBeforeYear
  omega

/-- The days before a year, by the cycles of 400, 100 and 4 years that it is in. -/
theorem daysBeforeYear_cycles {a b c e : Int} (hb : 0 ≤ b ∧ b ≤ 3) (hc : 0 ≤ c ∧ c ≤ 24)
    (he : 0 ≤ e ∧ e ≤ 3) :
    daysBeforeYear (a * 400 + b * 100 + c * 4 + e + 1) =
      146097 * a + 36524 * b + 1461 * c + 365 * e := by
  unfold daysBeforeYear
  have h4 : (a * 400 + b * 100 + c * 4 + e + 1 - 1) / 4 = a * 100 + b * 25 + c := by omega
  have h100 : (a * 400 + b * 100 + c * 4 + e + 1 - 1) / 100 = a * 4 + b := by omega
  have h400 : (a * 400 + b * 100 + c * 4 + e + 1 - 1) / 400 = a := by omega
  rw [h4, h100, h400]
  ring

theorem isLeap_fourth {a b c : Int} (hc : 0 ≤ c ∧ c ≤ 24)
    (hlast : c = 24 → b = 3) : isLeap (a * 400 + b * 100 + c * 4 + 3 + 1) = true := by
  unfold isLeap
  simp only [Bool.and_eq_true, Bool.or_eq_true, decide_eq_true_eq]
  omega

/-- The year of a day, and the days since its beginning: there are 366 only in the last year of a
cycle of 4 years, unless it ends one of 100 years that is not the last of 400. -/
theorem yearOf_cycles (n : Int) : ∃ a b c e rest : Int, (0 ≤ b ∧ b ≤ 3) ∧ (0 ≤ c ∧ c ≤ 24) ∧
    (0 ≤ e ∧ e ≤ 3) ∧ yearOf n = a * 400 + b * 100 + c * 4 + e + 1 ∧
    n - 1 = 146097 * a + 36524 * b + 1461 * c + 365 * e + rest ∧ 0 ≤ rest ∧
    (rest < 365 ∨ rest = 365 ∧ e = 3 ∧ (c = 24 → b = 3)) := by
  unfold yearOf
  dsimp only
  by_cases h100 : (n - 1) % 146097 / 36524 = 4
  · refine ⟨(n - 1) / 146097, 3, 24, 3, 365, ?_⟩
    rw [if_pos (.inr h100)]
    omega
  · by_cases h4 : (n - 1) % 146097 % 36524 % 1461 / 365 = 4
    · refine ⟨(n - 1) / 146097, (n - 1) % 146097 / 36524, (n - 1) % 146097 % 36524 / 1461, 3, 365,
        ?_⟩
      rw [if_pos (.inl h4)]
      omega
    · refine ⟨(n - 1) / 146097, (n - 1) % 146097 / 36524, (n - 1) % 146097 % 36524 / 1461,
        (n - 1) % 146097 % 36524 % 1461 / 365, (n - 1) % 146097 % 36524 % 1461 % 365, ?_⟩
      rw [if_neg (by omega)]
      omega

/-- A day is in its year. -/
theorem yearOf_bounds (n : Int) :
    daysBeforeYear (yearOf n) < n ∧ n ≤ daysBeforeYear (yearOf n + 1) := by
  obtain ⟨a, b, c, e, rest, hb, hc, he, hyear, hn, hrest, hlast⟩ := yearOf_cycles n
  rw [daysBeforeYear_succ, hyear, daysBeforeYear_cycles hb hc he]
  rcases hlast with hshort | ⟨hlong, rfl, hcycle⟩
  · split_ifs <;> omega
  · rw [isLeap_fourth hc hcycle, if_pos rfl]
    omega

theorem daysBeforeMonth_year :
    daysBeforeMonth year 12 + daysInMonth year 12 = if isLeap year then 366 else 365 := by
  simp only [daysBeforeMonth, daysInMonth]
  cases isLeap year with
  | true => rfl
  | false => rfl

theorem daysBeforeMonth_succ (h : 1 ≤ month) :
    daysBeforeMonth year (month + 1) = daysBeforeMonth year month + daysInMonth year month := by
  cases month with
  | zero => omega
  | succ month => rfl

theorem daysBeforeMonth_lt (h : 1 ≤ month) (hlt : month < month') :
    daysBeforeMonth year month + daysInMonth year month ≤ daysBeforeMonth year month' := by
  induction month', hlt using Nat.le_induction with
  | base => exact Int.le_of_eq (daysBeforeMonth_succ h).symm
  | succ m hm ih =>
    have hnext := @daysBeforeMonth_succ year m (by omega)
    have hdays := @daysInMonth_bounds year m
    omega

/-- A day is in its month. -/
theorem monthOf_bounds (n : Int) : 1 ≤ monthOf n ∧ monthOf n ≤ 12 ∧
    ordinal (yearOf n) (monthOf n) 0 < n ∧
    n ≤ ordinal (yearOf n) (monthOf n) (daysInMonth (yearOf n) (monthOf n)) := by
  obtain ⟨hlow, hhigh⟩ := yearOf_bounds n
  rw [daysBeforeYear_succ] at hhigh
  have hyear := @daysBeforeMonth_year (yearOf n)
  have hfirst : daysBeforeMonth (yearOf n) 1 < n - daysBeforeYear (yearOf n) := by
    show 0 < _
    omega
  have hone : 1 ≤ monthOf n := Nat.le_findGreatest (by decide) hfirst
  have htwelve : monthOf n ≤ 12 := Nat.findGreatest_le 12
  have hmonth : daysBeforeMonth (yearOf n) (monthOf n) < n - daysBeforeYear (yearOf n) :=
    Nat.findGreatest_spec (P := fun m => daysBeforeMonth (yearOf n) m < n -
      daysBeforeYear (yearOf n)) (by decide) hfirst
  refine ⟨hone, htwelve, ?_, ?_⟩
  · unfold ordinal
    omega
  · unfold ordinal
    rcases Nat.lt_or_eq_of_le htwelve with hlt | heq
    · have hnot := Nat.findGreatest_is_greatest (P := fun m => daysBeforeMonth (yearOf n) m < n -
        daysBeforeYear (yearOf n)) (n := 12) (k := monthOf n + 1) (Nat.lt_succ_self _) hlt
      have hnext := @daysBeforeMonth_succ (yearOf n) _ hone
      omega
    · rw [heq]
      split_ifs at hyear hhigh <;> omega

theorem daysBeforeMonth_nonneg : 0 ≤ daysBeforeMonth year month := by
  rcases Nat.lt_or_ge 1 month with h | h
  · have hlater := @daysBeforeMonth_lt year _ _ (Nat.le_refl 1) h
    have hdays := @daysInMonth_bounds year 1
    have hfirst : daysBeforeMonth year 1 = 0 := rfl
    omega
  · interval_cases month
    · exact Int.le_refl _
    · exact Int.le_refl _

/-- A month ends within its year. -/
theorem daysBeforeMonth_le (hm : 1 ≤ month) (hm12 : month ≤ 12) :
    daysBeforeYear year + daysBeforeMonth year month + daysInMonth year month ≤
      daysBeforeYear (year + 1) := by
  rw [daysBeforeYear_succ, ← daysBeforeMonth_year]
  rcases Nat.lt_or_eq_of_le hm12 with hlt | rfl
  · have hbefore := @daysBeforeMonth_lt year _ _ hm hlt
    have hdays := @daysInMonth_bounds year 12
    omega
  · omega

/-- The order of the months. -/
def EarlierMonth (year : Int) (month : Nat) (year' : Int) (month' : Nat) : Prop :=
  year < year' ∨ year = year' ∧ month < month'

theorem EarlierMonth.trichotomy (year : Int) (month : Nat) (year' : Int) (month' : Nat) :
    EarlierMonth year month year' month' ∨ (year = year' ∧ month = month') ∨
      EarlierMonth year' month' year month := by
  unfold EarlierMonth
  omega

/-- A month ends before a later one begins. -/
theorem EarlierMonth.ordinal_le (h : EarlierMonth year month year' month') (hm : 1 ≤ month)
    (hm12 : month ≤ 12) :
    ordinal year month (daysInMonth year month) ≤ ordinal year' month' 0 := by
  unfold ordinal
  rcases h with hyear | ⟨rfl, hmonth⟩
  · have hend := @daysBeforeMonth_le year _ hm hm12
    have hmono := @daysBeforeYear_mono (year + 1) year' hyear
    have hnonneg := @daysBeforeMonth_nonneg year' month'
    omega
  · have hbefore := @daysBeforeMonth_lt year _ _ hm hmonth
    omega

/-- The month after a month. -/
def nextMonth (year : Int) (month : Nat) : Int × Nat :=
  if month + 1 > 12 then (year + 1, 1) else (year, month + 1)

theorem nextMonth_bounds : 1 ≤ (nextMonth year month).2 ∧ (nextMonth year month).2 ≤ 12 := by
  unfold nextMonth
  split_ifs <;> dsimp only <;> omega

theorem earlierMonth_nextMonth :
    EarlierMonth year month (nextMonth year month).1 (nextMonth year month).2 := by
  unfold EarlierMonth nextMonth
  split_ifs <;> dsimp only <;> omega

/-- The months up to a month are those that are earlier than the next. -/
theorem earlierMonth_next (hm' : 1 ≤ month') (hm12' : month' ≤ 12) (hm : month ≤ 12) :
    EarlierMonth year' month' (nextMonth year month).1 (nextMonth year month).2 ↔
      ¬ EarlierMonth year month year' month' := by
  unfold EarlierMonth nextMonth
  split_ifs <;> dsimp only <;> omega

end Calendar

end BackupCenter.Lib
