import BackupCenter.Lib.Text
import BackupCenter.Lib.Zones

/-!
# The daily time of a schedule

A time is stored as text and read leniently: what does not name a minute of the day stands for
two in the morning. The next run is the next moment at which the clock of the deployment shows
the time.
-/
namespace BackupCenter.Scheduling

open BackupCenter.Lib

/-- `unicodedata.decimal`: what `int` takes for a digit. -/
structure Digits where
  value : Char → Option Nat
  ascii : ∀ n < 10, value (Nat.digitChar n) = some n

def Digits.onlyAscii : Digits where
  value c := if c.isDigit then some (c.toNat - '0'.toNat) else none
  ascii := by decide

/-- Digits with single underscores between them; `after` says that a digit came last. -/
def Digits.natural (d : Digits) : Bool → Nat → List Char → Option Nat
  | after, n, [] => if after then some n else none
  | after, n, c :: cs =>
    if c = '_' then if after then d.natural false n cs else none
    else (d.value c).bind fun k => d.natural true (10 * n + k) cs

/-- `int(text)`; no value stands for `ValueError`. -/
def Digits.int (d : Digits) (text : List Char) : Option Int :=
  match stripChars text with
  | '-' :: cs => (d.natural false 0 cs).map fun n : Nat => -(n : Int)
  | '+' :: cs => (d.natural false 0 cs).map fun n : Nat => (n : Int)
  | cs => (d.natural false 0 cs).map fun n : Nat => (n : Int)

/-- `hh, mm = map(int, text.split(":"))` -/
def Digits.timeParts (d : Digits) (text : String) : Option (Int × Int) :=
  match text.toList.splitOn ':' with
  | [hh, mm] => (d.int hh).bind fun h => (d.int mm).map fun m => (h, m)
  | _ => none

/-- A minute of the day. -/
structure DailyTime where
  hh : Nat
  mm : Nat
  hh_lt : hh < 24 := by decide
  mm_lt : mm < 60 := by decide

/-- `f"{n:02d}"` for a number below a hundred -/
def twoDigits (n : Nat) : List Char := [Nat.digitChar (n / 10), Nat.digitChar (n % 10)]

/-- `f"{hh:02d}:{mm:02d}"` -/
def DailyTime.text (t : DailyTime) : String :=
  String.ofList (twoDigits t.hh ++ ':' :: twoDigits t.mm)

/-- What the reading of a time relies on in the characters of its digits. -/
theorem digitChar_plain : ∀ k < 10, isSpace (Nat.digitChar k) = false ∧
    ∀ c ∈ ['-', '+', '_', ':'], Nat.digitChar k ≠ c := by
  have hplain : ∀ k < 10, isSpace (Nat.digitChar k) = false ∧
      Nat.digitChar k ∉ ['-', '+', '_', ':'] := by decide
  intro k hk
  exact ⟨(hplain k hk).1, fun c hc he => (hplain k hk).2 (he ▸ hc)⟩

theorem Digits.int_twoDigits (d : Digits) {n : Nat} (h : n < 100) :
    d.int (twoDigits n) = some (n : Int) := by
  obtain ⟨hspace, hother⟩ := digitChar_plain (n / 10) (by omega)
  obtain ⟨hspace', hother'⟩ := digitChar_plain (n % 10) (by omega)
  have hstrip : stripChars (twoDigits n) = twoDigits n := by
    simp [stripChars, twoDigits, hspace, hspace']
  have hread : d.natural false 0 (twoDigits n) = some n := by
    simp only [twoDigits, Digits.natural, hother '_' (by simp), hother' '_' (by simp), ↓reduceIte,
      d.ascii _ (by omega : n / 10 < 10), d.ascii _ (by omega : n % 10 < 10), Option.bind_some]
    congr 1
    omega
  unfold Digits.int
  rw [hstrip]
  split
  next cs hsign => exact absurd (List.cons.inj hsign).1 (hother '-' (by simp))
  next cs hsign => exact absurd (List.cons.inj hsign).1 (hother '+' (by simp))
  next => rw [hread, Option.map_some]

/-- A formatted time is read back as it is. -/
theorem Digits.timeParts_text (d : Digits) (t : DailyTime) :
    d.timeParts t.text = some ((t.hh : Int), (t.mm : Int)) := by
  have hcolon : ∀ {n : Nat}, n < 100 → ∀ c ∈ twoDigits n, (c == ':') = false := by
    intro n hn c hc
    rw [beq_eq_false_iff_ne]
    rcases List.mem_pair.mp hc with rfl | rfl
    · exact (digitChar_plain (n / 10) (by omega)).2 ':' (by simp)
    · exact (digitChar_plain (n % 10) (by omega)).2 ':' (by simp)
  have hsplit : t.text.toList.splitOn ':' = [twoDigits t.hh, twoDigits t.mm] := by
    unfold DailyTime.text List.splitOn
    rw [String.toList_ofList, List.splitOnP_append_cons _ _ rfl,
      List.splitOnP_eq_singleton (hcolon (Nat.lt_trans t.hh_lt (by decide))),
      List.splitOnP_eq_singleton (hcolon (Nat.lt_trans t.mm_lt (by decide)))]
    rfl
  unfold Digits.timeParts
  rw [hsplit]
  dsimp only
  rw [d.int_twoDigits (Nat.lt_trans t.hh_lt (by decide)),
    d.int_twoDigits (Nat.lt_trans t.mm_lt (by decide))]
  rfl

/-- The time that `sanitize_daily_time` reads from the text. -/
def Digits.dailyTime (d : Digits) (timeStr : String) : DailyTime :=
  match d.timeParts (strip timeStr) with
  | some (hh, mm) =>
    if h : (0 ≤ hh ∧ hh ≤ 23) ∧ 0 ≤ mm ∧ mm ≤ 59 then
      { hh := hh.toNat, mm := mm.toNat, hh_lt := by omega, mm_lt := by omega }
    else { hh := 2, mm := 0 }
  | none => { hh := 2, mm := 0 }

/-- `sanitize_daily_time` -/
def Digits.sanitizeDailyTime (d : Digits) (timeStr : String) : String := (d.dailyTime timeStr).text

/-- `compute_next_daily_run_at`; the text that it reads back is that of the daily time. -/
def computeNextDailyRunAt (d : Digits) (zone : Zone) (timeStr : String) (reference : Int) :
    Int :=
  let referenceLocal := zone.toWall reference
  let time := d.dailyTime timeStr
  let candidate := midnight referenceLocal.wall + time.hh * hour + time.mm * minute
  if candidate ≤ referenceLocal.wall then zone.toInstant { wall := candidate + day }
  else zone.toInstant { wall := candidate, fold := referenceLocal.fold }

/-- **The next run is later** than the reference. -/
theorem lt_computeNextDailyRunAt (d : Digits) (zone : Zone) (timeStr : String)
    (reference : Int) : reference < computeNextDailyRunAt d zone timeStr reference := by
  unfold computeNextDailyRunAt
  dsimp only
  split_ifs with hpast
  · apply zone.laterDay
    have hhour : 0 ≤ ((d.dailyTime timeStr).hh : Int) * hour := by
      unfold hour minute second
      omega
    have hminute : 0 ≤ ((d.dailyTime timeStr).mm : Int) * minute := by
      unfold minute second
      omega
    omega
  · exact zone.later _ _ (by omega)

end BackupCenter.Scheduling
