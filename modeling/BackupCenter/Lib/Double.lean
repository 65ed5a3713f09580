import Mathlib.Algebra.Order.Round
import Mathlib.Data.Int.Log
import Mathlib.Data.Rat.Floor
import Mathlib.Tactic.Linarith
import Mathlib.Tactic.NormNum
import Mathlib.Tactic.Ring

/-!
# Rounding to a double

A rational number that is not negative, rounded to 53 binary digits with ties to the even neighbour.
The range of the exponent is not modelled: nothing here comes near its ends.
-/
namespace BackupCenter.Lib

def roundHalfEven (x : ℚ) : ℤ :=
  if x - ⌊x⌋ < 1 / 2 then ⌊x⌋
  else if 1 / 2 < x - ⌊x⌋ then ⌊x⌋ + 1
  else if ⌊x⌋ % 2 = 0 then ⌊x⌋ else ⌊x⌋ + 1

/-- The distance of two neighbouring doubles where `x` lies. -/
def ulp (x : ℚ) : ℚ := 2 ^ (Int.log 2 x - 52)

def toDouble (x : ℚ) : ℚ := roundHalfEven (x / ulp x) * ulp x

/-! ## To an integer -/

theorem roundHalfEven_bounds (x : ℚ) :
    x - 1 / 2 ≤ roundHalfEven x ∧ (roundHalfEven x : ℚ) ≤ x + 1 / 2 := by
  unfold roundHalfEven
  split_ifs with hdown hup heven
  · have := Int.floor_le x
    constructor <;> linarith
  · have := Int.lt_floor_add_one x
    push_cast
    constructor <;> linarith
  · have := Int.floor_le x
    constructor <;> linarith
  · push_cast
    constructor <;> linarith

theorem roundHalfEven_intCast (n : ℤ) : roundHalfEven (n : ℚ) = n := by
  unfold roundHalfEven
  rw [Int.floor_intCast, sub_self, if_pos (by norm_num)]

theorem roundHalfEven_two_pow (n : ℕ) : roundHalfEven (2 ^ n) = 2 ^ n := by
  exact_mod_cast roundHalfEven_intCast (2 ^ n)

theorem floor_le_roundHalfEven (x : ℚ) : ⌊x⌋ ≤ roundHalfEven x := by
  unfold roundHalfEven
  split_ifs <;> omega

theorem roundHalfEven_le_floor (x : ℚ) : roundHalfEven x ≤ ⌊x⌋ + 1 := by
  unfold roundHalfEven
  split_ifs <;> omega

theorem roundHalfEven_mono {x y : ℚ} (h : x ≤ y) : roundHalfEven x ≤ roundHalfEven y := by
  rcases (Int.floor_le_floor h).lt_or_eq with hlt | heq
  · have := roundHalfEven_le_floor x
    have := floor_le_roundHalfEven y
    omega
  · unfold roundHalfEven
    rw [heq]
    split_ifs <;> first | omega | (exfalso; linarith)

/-! ## To a double -/

theorem ulp_pos (x : ℚ) : 0 < ulp x := by
  unfold ulp
  exact zpow_pos (by norm_num) _

section Rounding

variable {x y : ℚ}

/-- In units of the last place a number has 53 digits. -/
theorem digits_bounds (h : 0 < x) : 2 ^ 52 ≤ x / ulp x ∧ x / ulp x < 2 ^ 53 := by
  have hlow := Int.zpow_log_le_self (b := 2) (by decide) h
  have hhigh := Int.lt_zpow_succ_log_self (b := 2) (by decide) x
  push_cast at hlow hhigh
  have hscale : (2 : ℚ) ^ Int.log 2 x = 2 ^ 52 * ulp x := by
    unfold ulp
    rw [← zpow_natCast, ← zpow_add₀ (by norm_num)]
    congr 1
    omega
  rw [zpow_add_one₀ (by norm_num), hscale] at hhigh
  rw [hscale] at hlow
  rw [le_div_iff₀ (ulp_pos x), div_lt_iff₀ (ulp_pos x)]
  constructor <;> linarith

@[simp] theorem toDouble_zero : toDouble 0 = 0 := by
  unfold toDouble
  rw [zero_div, show roundHalfEven 0 = 0 from roundHalfEven_intCast 0]
  simp

/-- The relative error is at most half a unit in the last place. -/
theorem toDouble_bounds (h : 0 ≤ x) :
    x * (1 - 1 / 2 ^ 53) ≤ toDouble x ∧ toDouble x ≤ x * (1 + 1 / 2 ^ 53) := by
  rcases h.eq_or_lt with rfl | hpos
  · simp
  · have hulp := ulp_pos x
    have hdigits := (digits_bounds hpos).1
    obtain ⟨hlow, hhigh⟩ := roundHalfEven_bounds (x / ulp x)
    have hsmall : ulp x ≤ x / 2 ^ 52 := by
      rw [le_div_iff₀ hulp] at hdigits
      rw [le_div_iff₀ (by norm_num)]
      linarith
    have hx : x / ulp x * ulp x = x := div_mul_cancel₀ x hulp.ne'
    have hlow' := mul_le_mul_of_nonneg_right hlow hulp.le
    have hhigh' := mul_le_mul_of_nonneg_right hhigh hulp.le
    rw [sub_mul, hx] at hlow'
    rw [add_mul, hx] at hhigh'
    unfold toDouble
    constructor <;> linarith

theorem toDouble_nonneg (h : 0 ≤ x) : 0 ≤ toDouble x := by
  have := (toDouble_bounds h).1
  have : 0 ≤ x * (1 - 1 / 2 ^ 53) := mul_nonneg h (by norm_num)
  linarith

theorem toDouble_mono (h : 0 ≤ x) (hxy : x ≤ y) : toDouble x ≤ toDouble y := by
  rcases h.eq_or_lt with rfl | hpos
  · rw [toDouble_zero]
    exact toDouble_nonneg hxy
  have hposy : 0 < y := lt_of_lt_of_le hpos hxy
  unfold toDouble
  rcases (Int.log_mono_right hpos hxy : Int.log 2 x ≤ Int.log 2 y).lt_or_eq with hlt | heq
  · -- a power of two lies between them
    have hx : roundHalfEven (x / ulp x) ≤ 2 ^ 53 := by
      have hle := roundHalfEven_mono (digits_bounds hpos).2.le
      rwa [roundHalfEven_two_pow] at hle
    have hy : 2 ^ 52 ≤ roundHalfEven (y / ulp y) := by
      have hle := roundHalfEven_mono (digits_bounds hposy).1
      rwa [roundHalfEven_two_pow] at hle
    have hulp : 2 * ulp x ≤ ulp y := by
      unfold ulp
      rw [mul_comm, ← zpow_add_one₀ (by norm_num)]
      exact zpow_le_zpow_right₀ (by norm_num) (by omega)
    have hx' : (roundHalfEven (x / ulp x) : ℚ) ≤ 2 ^ 53 := by exact_mod_cast hx
    have hy' : (2 ^ 52 : ℚ) ≤ roundHalfEven (y / ulp y) := by exact_mod_cast hy
    calc (roundHalfEven (x / ulp x) : ℚ) * ulp x ≤ 2 ^ 53 * ulp x :=
          mul_le_mul_of_nonneg_right hx' (ulp_pos x).le
      _ = 2 ^ 52 * (2 * ulp x) := by ring
      _ ≤ 2 ^ 52 * ulp y := by linarith
      _ ≤ roundHalfEven (y / ulp y) * ulp y := mul_le_mul_of_nonneg_right hy' (ulp_pos y).le
  · have hulp : ulp x = ulp y := by
      unfold ulp
      rw [heq]
    rw [hulp]
    apply mul_le_mul_of_nonneg_right _ (ulp_pos y).le
    exact_mod_cast roundHalfEven_mono (div_le_div_of_nonneg_right hxy (ulp_pos y).le)

/-- An integer of at most 53 digits is a double. -/
theorem toDouble_natCast {n : ℕ} (h : n < 2 ^ 53) : toDouble n = n := by
  rcases Nat.eq_zero_or_pos n with rfl | hpos
  · simp
  have hlog : Int.log 2 (n : ℚ) ≤ 52 := by
    rw [Int.log_natCast]
    have := Nat.log_lt_of_lt_pow hpos.ne' h
    omega
  obtain ⟨k, hk⟩ : ∃ k : ℕ, 52 - Int.log 2 (n : ℚ) = k :=
    ⟨(52 - Int.log 2 (n : ℚ)).toNat, by omega⟩
  have hulp : ulp (n : ℚ) * 2 ^ k = 1 := by
    unfold ulp
    rw [← zpow_natCast, ← zpow_add₀ (by norm_num), ← hk]
    simp
  have hdigits : (n : ℚ) / ulp n = ((n * 2 ^ k : ℤ) : ℚ) := by
    rw [div_eq_iff (ulp_pos _).ne']
    push_cast
    rw [mul_assoc, mul_comm _ (ulp _), hulp, mul_one]
  unfold toDouble
  rw [hdigits, roundHalfEven_intCast, ← hdigits, div_mul_cancel₀ _ (ulp_pos _).ne']

end Rounding

/-! ## A percentage -/

/-- The percentage of `a` in `n`, computed in doubles and truncated. -/
def percentDouble (a n : ℕ) : ℤ := ⌊toDouble (toDouble ((a : ℚ) / n) * 100)⌋

theorem percentDouble_self {n : ℕ} (h : 0 < n) : percentDouble n n = 100 := by
  have hn : (n : ℚ) ≠ 0 := by exact_mod_cast h.ne'
  have hone : toDouble 1 = 1 := by exact_mod_cast toDouble_natCast (n := 1) (by norm_num)
  have hhundred : toDouble 100 = 100 := by
    exact_mod_cast toDouble_natCast (n := 100) (by norm_num)
  unfold percentDouble
  rw [div_self hn, hone, one_mul, hhundred]
  norm_num

/-- On few elements the rounding never lifts a percentage to an integer. -/
theorem mul_le_of_le_percentDouble {a n p : ℕ} (hn : n < 2 ^ 32) (hp : p ≤ 100)
    (h : (p : ℤ) ≤ percentDouble a n) : p * n ≤ 100 * a := by
  rcases Nat.eq_zero_or_pos n with rfl | hpos
  · omega
  by_contra hlt
  have hlt' : (100 * a + 1 : ℚ) ≤ p * n := by exact_mod_cast Nat.lt_of_not_le hlt
  have hnpos : (0 : ℚ) < n := by exact_mod_cast hpos
  have hn' : (n : ℚ) ≤ 2 ^ 32 := by exact_mod_cast hn.le
  have hp' : (p : ℚ) ≤ 100 := by exact_mod_cast hp
  have hshare : (0 : ℚ) ≤ a / n := by positivity
  have hfirst := (toDouble_bounds hshare).2
  have hscaled : 0 ≤ toDouble ((a : ℚ) / n) * 100 :=
    mul_nonneg (toDouble_nonneg hshare) (by norm_num)
  have hsecond := (toDouble_bounds hscaled).2
  have hfloor : (p : ℚ) ≤ toDouble (toDouble ((a : ℚ) / n) * 100) := by
    have hle : ((p : ℤ) : ℚ) ≤ (percentDouble a n : ℚ) := by exact_mod_cast h
    exact_mod_cast hle.trans (Int.floor_le _)
  have htotal : (p : ℚ) ≤ a / n * 100 * ((1 + 1 / 2 ^ 53) * (1 + 1 / 2 ^ 53)) := by
    have htwice := mul_le_mul_of_nonneg_right
      (mul_le_mul_of_nonneg_right hfirst (by norm_num : (0 : ℚ) ≤ 100))
      (by norm_num : (0 : ℚ) ≤ 1 + 1 / 2 ^ 53)
    linarith
  have hshares : (a : ℚ) / n * n = a := div_mul_cancel₀ _ hnpos.ne'
  have hmul := mul_le_mul_of_nonneg_right htotal hnpos.le
  have hscale : (a : ℚ) / n * 100 * ((1 + 1 / 2 ^ 53) * (1 + 1 / 2 ^ 53)) * n =
      100 * a * ((1 + 1 / 2 ^ 53) * (1 + 1 / 2 ^ 53)) := by
    calc _ = 100 * ((a : ℚ) / n * n) * ((1 + 1 / 2 ^ 53) * (1 + 1 / 2 ^ 53)) := by ring
      _ = _ := by rw [hshares]
  rw [hscale] at hmul
  have hpn : (p : ℚ) * n ≤ 100 * 2 ^ 32 := mul_le_mul hp' hn' hnpos.le (by norm_num)
  linarith

end BackupCenter.Lib
