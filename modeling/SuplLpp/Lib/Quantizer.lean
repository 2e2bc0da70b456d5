import Mathlib.Algebra.Order.Group.MinMax
import Mathlib.Algebra.Order.Ring.Abs
import Mathlib.Algebra.Order.Ring.Cast
import Mathlib.Tactic.Linarith
import Mathlib.Tactic.Ring

/-!
# Values as numbers of steps

A value is cut to a range and written as the number of steps that it lies above the lower end.

* `Quantizer`: the range and the step; `clamp`, `level`, `decode`;
* `Nearest`: a rounding that is never off by more than a half;
* `abs_decode_sub_clamp_le`: what is decoded is off by at most half a step;
* `round_level_mem`: the number of steps is between 0 and a bound of the range.
-/

structure Quantizer (K : Type) [Field K] [LinearOrder K] where
  lower : K
  upper : K
  resolution : K
  lower_le_upper : lower ≤ upper
  resolution_pos : 0 < resolution

namespace Quantizer

variable {K : Type} [Field K] [LinearOrder K]

section

variable (q : Quantizer K)

/-- The value of the range that is nearest. -/
def clamp (value : K) : K := max q.lower (min q.upper value)

/-- The number of steps of a value, with a fraction. -/
def level (value : K) : K := (q.clamp value - q.lower) / q.resolution

def decode (raw : ℤ) : K := raw * q.resolution + q.lower

def Contains (value : K) : Prop := q.lower ≤ value ∧ value ≤ q.upper

instance (value : K) : Decidable (q.Contains value) :=
  inferInstanceAs (Decidable (q.lower ≤ value ∧ value ≤ q.upper))

theorem contains_clamp (value : K) : q.Contains (q.clamp value) :=
  ⟨le_max_left .., max_le q.lower_le_upper (min_le_left ..)⟩

end

section

local instance two_atLeastTwo : Nat.AtLeastTwo 2 := ⟨le_refl 2⟩

/-- A rounding to whole numbers, whichever way the halves go. -/
def Nearest (round : K → ℤ) : Prop := ∀ x, |(round x : K) - x| ≤ 1 / 2

end

variable [IsStrictOrderedRing K] {q : Quantizer K} {round : K → ℤ}

/-- **Decoding** gives the clamped value back, up to half a step. -/
theorem abs_decode_sub_clamp_le (hround : Nearest round) (value : K) :
    |q.decode (round (q.level value)) - q.clamp value| ≤ q.resolution / 2 := by
  have hpos := q.resolution_pos
  have hlevel : q.level value * q.resolution = q.clamp value - q.lower :=
    div_mul_cancel₀ _ hpos.ne'
  have herror : q.decode (round (q.level value)) - q.clamp value =
      (round (q.level value) - q.level value) * q.resolution := by
    rw [sub_mul, hlevel, decode]
    ring
  rw [herror, abs_mul, abs_of_pos hpos]
  calc |(round (q.level value) : K) - q.level value| * q.resolution
      ≤ 1 / 2 * q.resolution := mul_le_mul_of_nonneg_right (hround _) hpos.le
    _ = q.resolution / 2 := by ring

theorem level_nonneg (value : K) : 0 ≤ q.level value :=
  div_nonneg (sub_nonneg.2 (q.contains_clamp value).1) q.resolution_pos.le

/-- Numbers of steps stay below `bound` if the upper end is nearer to `bound - 1`. -/
theorem round_level_mem (hround : Nearest round) {bound : ℤ}
    (hbound : q.upper - q.lower < (bound - 1 / 2) * q.resolution) (value : K) :
    0 ≤ round (q.level value) ∧ round (q.level value) < bound := by
  have hnear := abs_le.1 (hround (q.level value))
  have hlevel : q.level value < bound - 1 / 2 := by
    rw [level, div_lt_iff₀ q.resolution_pos]
    exact lt_of_le_of_lt (sub_le_sub_right (q.contains_clamp value).2 _) hbound
  constructor
  · have hlower : (-1 : K) < round (q.level value) := by
      linarith [level_nonneg (q := q) value, hnear.1]
    have hint : (-1 : ℤ) < round (q.level value) := by exact_mod_cast hlower
    omega
  · have hupper : (round (q.level value) : K) < bound := by linarith [hnear.2]
    exact_mod_cast hupper

end Quantizer
