import Mathlib.Analysis.SpecialFunctions.Log.Base
import Mathlib.Data.Rat.Floor

/-!
# Whole parts of logarithms

The quotient of two logarithms, cut towards zero, of rational numbers.

* `natLog b y`, how many times `b` divides `y` before less than `b` is left; `pow_natLog_le` and
  `lt_pow_natLog_succ`;
* `truncLog`; `truncLog_eq`: it is the real quotient, cut.
-/

namespace FloorLog

/-- How many times `y` can be divided by `b` and is at least one afterwards. -/
def natLog (b y : ℚ) : ℕ :=
  if _h : 1 < b ∧ b ≤ y then natLog b (y / b) + 1 else 0
termination_by ⌊y / (b - 1)⌋.toNat
decreasing_by
  obtain ⟨hb, hy⟩ := _h
  have hpos : 0 < b - 1 := sub_pos.2 hb
  have hzero : 0 < b := one_pos.trans hb
  -- every division takes at least `b - 1` off
  have hless : y / b / (b - 1) ≤ y / (b - 1) - 1 := by
    rw [le_sub_iff_add_le, div_add' _ _ _ hpos.ne', div_le_div_iff_of_pos_right hpos, one_mul,
      div_add' _ _ _ hzero.ne', div_le_iff₀ hzero]
    nlinarith
  have hstep : ⌊y / b / (b - 1)⌋ ≤ ⌊y / (b - 1)⌋ - 1 := by
    rw [← Int.floor_sub_one]
    exact Int.floor_le_floor hless
  have hone : 1 ≤ ⌊y / (b - 1)⌋ := by
    rw [Int.le_floor, le_div_iff₀ hpos]
    push_cast
    linarith
  omega

/-- The whole part towards zero of the quotient of the logarithms of `y` and `b`. -/
def truncLog (b y : ℚ) : ℤ := if 1 ≤ y then natLog b y else -natLog b (1 / y)

variable {b y : ℚ}

theorem pow_natLog_le (hy : 1 ≤ y) : b ^ natLog b y ≤ y := by
  induction y using natLog.induct b with
  | case1 y h ih =>
    have hpos : 0 < b := one_pos.trans h.1
    have hone : 1 ≤ y / b := (one_le_div hpos).2 h.2
    rw [natLog, dif_pos h, pow_succ]
    exact (le_div_iff₀ hpos).1 (ih hone)
  | case2 y h =>
    rw [natLog, dif_neg h, pow_zero]
    exact hy

theorem lt_pow_natLog_succ (hb : 1 < b) : y < b ^ (natLog b y + 1) := by
  induction y using natLog.induct b with
  | case1 y h ih =>
    have hpos : 0 < b := one_pos.trans h.1
    rw [natLog, dif_pos h, pow_succ]
    exact (div_lt_iff₀ hpos).1 ih
  | case2 y h =>
    rw [natLog, dif_neg h, zero_add, pow_one]
    exact lt_of_not_ge fun hle => h ⟨hb, hle⟩

theorem floor_logb_eq (hb : 1 < b) (hy : 1 ≤ y) : ⌊Real.logb b y⌋ = natLog b y := by
  have hb' : (1 : ℝ) < b := by exact_mod_cast hb
  have hy' : (0 : ℝ) < y := by exact_mod_cast one_pos.trans_le hy
  rw [Int.floor_eq_iff]
  push_cast
  constructor
  · rw [Real.le_logb_iff_rpow_le hb' hy', Real.rpow_natCast]
    exact_mod_cast pow_natLog_le hy
  · rw [Real.logb_lt_iff_lt_rpow hb' hy']
    have hlt := lt_pow_natLog_succ (y := y) hb
    have hcast : (y : ℝ) < b ^ (natLog b y + 1) := by exact_mod_cast hlt
    exact_mod_cast hcast

/-- **The quotient of the logarithms**, cut towards zero. -/
theorem truncLog_eq (hb : 1 < b) (hy : 0 < y) :
    truncLog b y =
      if 0 ≤ Real.log y / Real.log b then ⌊Real.log y / Real.log b⌋
      else ⌈Real.log y / Real.log b⌉ := by
  have hb' : (1 : ℝ) < b := by exact_mod_cast hb
  have hy' : (0 : ℝ) < y := by exact_mod_cast hy
  rw [Real.log_div_log, truncLog]
  by_cases hone : 1 ≤ y
  · have hone' : (1 : ℝ) ≤ y := by exact_mod_cast hone
    rw [if_pos hone, if_pos (Real.logb_nonneg hb' hone'), floor_logb_eq hb hone]
  · have hlt : y < 1 := not_le.1 hone
    have hlt' : (y : ℝ) < 1 := by exact_mod_cast hlt
    have hinv : Real.logb b y = -Real.logb b ((1 / y : ℚ) : ℝ) := by
      push_cast
      rw [one_div, Real.logb_inv, neg_neg]
    rw [if_neg hone, if_neg (not_le.2 (Real.logb_neg hb' hy' hlt')), hinv, Int.ceil_neg,
      floor_logb_eq hb (one_le_one_div hy hlt.le)]

end FloorLog
