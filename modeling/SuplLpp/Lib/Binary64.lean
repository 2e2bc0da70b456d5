import Mathlib.Algebra.Order.Floor.Ring
import Mathlib.Data.Int.Log
import Mathlib.Data.Rat.Floor
import Mathlib.Tactic.Linarith
import Mathlib.Tactic.NormNum
import Mathlib.Tactic.Positivity
import Mathlib.Tactic.Ring

/-!
# Numbers with 53 binary digits

The finite numbers of the 64-bit floating point format, as rational numbers; exponents have no
bound from above, so that no number is too large.

* `IsDouble`: the numbers of the format; `Double`, the type of them;
* `nearest`: to the nearest number of the format, and to the even one of two;
* `abs_nearest_sub_le`: nothing of the format is nearer; `nearest_le`, `le_nearest` and
  `nearest_of_isDouble` follow from this alone;
* `Double.add`, `Double.sub`: the operation, rounded; `isDouble_floor_fract`: a number of the
  format is cut at the point exactly.
-/

namespace Binary64

/-- A number with 53 digits, the last of which does not stand for less than `2 ^ (-1074)`. -/
def IsDouble (q : ℚ) : Prop := ∃ m e : ℤ, |m| ≤ 2 ^ 53 ∧ -1074 ≤ e ∧ q = m * 2 ^ e

theorem isDouble_intCast {z : ℤ} (h : |z| ≤ 2 ^ 53) : IsDouble z :=
  ⟨z, 0, h, by norm_num, by simp⟩

theorem isDouble_zero : IsDouble 0 := by
  have h := isDouble_intCast (z := 0) (by norm_num)
  rwa [Int.cast_zero] at h

theorem two_zpow_pos (e : ℤ) : (0 : ℚ) < 2 ^ e := zpow_pos (by norm_num) e

theorem two_zpow_add (n : ℕ) (e : ℤ) : (2 : ℚ) ^ (n + e) = 2 ^ n * 2 ^ e := by
  rw [zpow_add₀ (by norm_num), zpow_natCast]

theorem isDouble_neg {q : ℚ} (h : IsDouble q) : IsDouble (-q) := by
  obtain ⟨m, e, hm, he, rfl⟩ := h
  exact ⟨-m, e, by rwa [abs_neg], he, by push_cast; ring⟩

/-- The whole part of a number, and what is behind the point, have no more digits than the
whole. -/
theorem isDouble_floor_fract {q : ℚ} (h : IsDouble q) (hq : 0 ≤ q) :
    IsDouble ⌊q⌋ ∧ IsDouble (q - ⌊q⌋) := by
  obtain ⟨m, e, hm, he, rfl⟩ := h
  rcases le_or_gt 0 e with hpos | hneg
  · -- a whole number
    obtain ⟨n, rfl⟩ := Int.eq_ofNat_of_zero_le hpos
    have hcast : (m : ℚ) * 2 ^ (n : ℤ) = ((m * 2 ^ n : ℤ) : ℚ) := by
      push_cast
      rw [zpow_natCast]
    rw [hcast, Int.floor_intCast, sub_self, ← hcast]
    exact ⟨⟨m, n, hm, he, rfl⟩, isDouble_zero⟩
  · obtain ⟨n, hn⟩ := Int.eq_ofNat_of_zero_le (show 0 ≤ -e by omega)
    have hpow := two_zpow_pos e
    have hm0 : 0 ≤ m := by
      by_contra hnegative
      have hlt : (m : ℚ) < 0 := by exact_mod_cast not_le.1 hnegative
      linarith [mul_neg_of_neg_of_pos hlt hpow]
    have hfloor : ⌊(m : ℚ) * 2 ^ e⌋ = m / 2 ^ n := by
      have hdiv : (m : ℚ) * 2 ^ e = m / ((2 ^ n : ℕ) : ℚ) := by
        rw [show e = -(n : ℤ) by omega, zpow_neg, zpow_natCast, div_eq_mul_inv]
        push_cast
        rfl
      rw [hdiv, Rat.floor_intCast_div_natCast]
      push_cast
      rfl
    have hmod := Int.emod_add_mul_ediv m (2 ^ n)
    have hone : (1 : ℤ) ≤ 2 ^ n := one_le_pow₀ (by norm_num)
    have hnonneg := Int.emod_nonneg m (show (2 ^ n : ℤ) ≠ 0 by omega)
    have hquotient := Int.ediv_nonneg hm0 (show (0 : ℤ) ≤ 2 ^ n by omega)
    have hle : m / 2 ^ n ≤ 2 ^ n * (m / 2 ^ n) := le_mul_of_one_le_left hquotient hone
    rw [abs_of_nonneg hm0] at hm
    refine ⟨?_, m % 2 ^ n, e, ?_, he, ?_⟩
    · rw [hfloor]
      apply isDouble_intCast
      rw [abs_of_nonneg hquotient]
      omega
    · rw [abs_of_nonneg hnonneg]
      omega
    · have hcancel : (2 : ℚ) ^ n * 2 ^ e = 1 := by
        rw [show e = -(n : ℤ) by omega, zpow_neg, zpow_natCast]
        exact mul_inv_cancel₀ (pow_ne_zero n (by norm_num))
      have hq : (m : ℚ) = (m % 2 ^ n : ℤ) + 2 ^ n * (m / 2 ^ n : ℤ) := by
        exact_mod_cast hmod.symm
      rw [hfloor]
      calc (m : ℚ) * 2 ^ e - (m / 2 ^ n : ℤ)
          = ((m % 2 ^ n : ℤ) + 2 ^ n * (m / 2 ^ n : ℤ)) * 2 ^ e - (m / 2 ^ n : ℤ) := by rw [← hq]
        _ = (m % 2 ^ n : ℤ) * 2 ^ e + (m / 2 ^ n : ℤ) * (2 ^ n * 2 ^ e) - (m / 2 ^ n : ℤ) := by ring
        _ = (m % 2 ^ n : ℤ) * 2 ^ e := by rw [hcancel]; ring

/-! ### Rounding -/

theorem cast_two_pow (n : ℕ) : ((2 ^ n : ℤ) : ℚ) = 2 ^ n := by
  push_cast
  rfl

/-- The nearest whole number, of two the even one. -/
def roundEven (q : ℚ) : ℤ :=
  if q - ⌊q⌋ < 1 / 2 then ⌊q⌋
  else if 1 / 2 < q - ⌊q⌋ then ⌊q⌋ + 1
  else if ⌊q⌋ % 2 = 0 then ⌊q⌋
  else ⌊q⌋ + 1

theorem roundEven_eq_or (q : ℚ) :
    roundEven q = ⌊q⌋ ∧ q - ⌊q⌋ ≤ 1 / 2 ∨ roundEven q = ⌊q⌋ + 1 ∧ 1 / 2 ≤ q - ⌊q⌋ := by
  unfold roundEven
  split_ifs with h1 h2 h3
  · exact Or.inl ⟨rfl, h1.le⟩
  · exact Or.inr ⟨rfl, h2.le⟩
  · exact Or.inl ⟨rfl, not_lt.1 h2⟩
  · exact Or.inr ⟨rfl, not_lt.1 h1⟩

/-- No whole number is nearer. -/
theorem abs_roundEven_sub_le (q : ℚ) (n : ℤ) : |(roundEven q : ℚ) - q| ≤ |n - q| := by
  have hle := Int.floor_le q
  have hlt := Int.lt_floor_add_one q
  rcases le_or_gt n ⌊q⌋ with hn | hn
  · have hn' : (n : ℚ) ≤ ⌊q⌋ := by exact_mod_cast hn
    rw [abs_of_nonpos (show (n : ℚ) - q ≤ 0 by linarith), abs_le]
    rcases roundEven_eq_or q with ⟨h, hhalf⟩ | ⟨h, hhalf⟩
    · rw [h]
      constructor <;> linarith
    · rw [h]
      push_cast
      constructor <;> linarith
  · have hn' : (⌊q⌋ : ℚ) + 1 ≤ n := by exact_mod_cast hn
    rw [abs_of_nonneg (show 0 ≤ (n : ℚ) - q by linarith), abs_le]
    rcases roundEven_eq_or q with ⟨h, hhalf⟩ | ⟨h, hhalf⟩
    · rw [h]
      constructor <;> linarith
    · rw [h]
      push_cast
      constructor <;> linarith

/-- What the last digit of a number stands for, as a power of two. -/
def lastDigit (q : ℚ) : ℤ := max (Int.log 2 |q| - 52) (-1074)

/-- To the nearest number of the format. -/
def nearest (q : ℚ) : ℚ := roundEven (q / 2 ^ lastDigit q) * 2 ^ lastDigit q

theorem lt_two_pow_lastDigit (q : ℚ) : |q| < 2 ^ 53 * 2 ^ lastDigit q := by
  have hlog := Int.lt_zpow_succ_log_self (b := 2) (by norm_num) |q|
  have hle : Int.log 2 |q| + 1 ≤ 53 + lastDigit q := by
    have := le_max_left (Int.log 2 |q| - 52) (-1074)
    unfold lastDigit
    omega
  push_cast at hlog
  calc |q| < 2 ^ (Int.log 2 |q| + 1) := hlog
    _ ≤ 2 ^ (53 + lastDigit q) := zpow_le_zpow_right₀ (by norm_num) hle
    _ = 2 ^ 53 * 2 ^ lastDigit q := two_zpow_add 53 (lastDigit q)

theorem isDouble_nearest (q : ℚ) : IsDouble (nearest q) := by
  refine ⟨roundEven (q / 2 ^ lastDigit q), lastDigit q, ?_, le_max_right _ _, rfl⟩
  have hpow := two_zpow_pos (lastDigit q)
  have hlt : |q / 2 ^ lastDigit q| < 2 ^ 53 := by
    rw [abs_div, abs_of_pos hpow, div_lt_iff₀ hpow]
    exact lt_two_pow_lastDigit q
  -- the bounds are whole numbers, and the rounded number is not farther from it than they are
  generalize q / 2 ^ lastDigit q = x at hlt
  have hupper := abs_roundEven_sub_le x (2 ^ 53)
  have hlower := abs_roundEven_sub_le x (-2 ^ 53)
  rw [Int.cast_neg, cast_two_pow] at hlower
  rw [cast_two_pow] at hupper
  rw [abs_lt] at hlt
  rw [abs_of_nonneg (show 0 ≤ 2 ^ 53 - x by linarith)] at hupper
  rw [abs_of_nonpos (show -2 ^ 53 - x ≤ 0 by linarith)] at hlower
  have h1 := (abs_le.1 hupper).2
  have h2 := (abs_le.1 hlower).1
  have h : ((|roundEven x| : ℤ) : ℚ) ≤ (2 ^ 53 : ℤ) := by
    rw [Int.cast_abs, cast_two_pow]
    exact abs_le.2 ⟨by linarith, by linarith⟩
  exact Int.cast_le.1 h

/-- No multiple of what the last digit stands for is nearer. -/
theorem abs_nearest_sub_mul_le (q : ℚ) (n : ℤ) : |nearest q - q| ≤ |n * 2 ^ lastDigit q - q| := by
  have hpow := two_zpow_pos (lastDigit q)
  have hscale : ∀ z : ℤ, |z * 2 ^ lastDigit q - q| =
      |(z : ℚ) - q / 2 ^ lastDigit q| * 2 ^ lastDigit q := by
    intro z
    rw [← abs_of_pos hpow, ← abs_mul, abs_of_pos hpow, sub_mul, div_mul_cancel₀ _ hpow.ne']
  rw [nearest, hscale, hscale]
  exact mul_le_mul_of_nonneg_right (abs_roundEven_sub_le _ n) hpow.le

/-- A number between zero and the number that is rounded is not nearer than one still farther
out. -/
theorem abs_sub_le_of_abs_le {a b q : ℚ} (hab : |b| ≤ |a|) (haq : |a| ≤ |q|)
    (hsign : 0 ≤ a ∧ 0 ≤ q ∨ a ≤ 0 ∧ q ≤ 0) : |a - q| ≤ |b - q| := by
  rcases hsign with ⟨ha, hq⟩ | ⟨ha, hq⟩
  · rw [abs_of_nonneg ha] at hab haq
    rw [abs_of_nonneg hq] at haq
    have hb := (abs_le.1 hab).2
    rw [abs_of_nonpos (by linarith), abs_of_nonpos (by linarith)]
    linarith
  · rw [abs_of_nonpos ha] at hab haq
    rw [abs_of_nonpos hq] at haq
    have hb := (abs_le.1 hab).1
    rw [abs_of_nonneg (by linarith), abs_of_nonneg (by linarith)]
    linarith

/-- **No number of the format is nearer.** -/
theorem abs_nearest_sub_le (q : ℚ) {d : ℚ} (hd : IsDouble d) : |nearest q - q| ≤ |d - q| := by
  obtain ⟨m, e, hm, he, rfl⟩ := hd
  rcases le_or_gt (lastDigit q) e with hle | hlt
  · -- a multiple of what the last digit stands for
    obtain ⟨n, hn⟩ := Int.eq_ofNat_of_zero_le (show 0 ≤ e - lastDigit q by omega)
    have hmultiple : (m : ℚ) * 2 ^ e = ((m * 2 ^ n : ℤ) : ℚ) * 2 ^ lastDigit q := by
      rw [show e = n + lastDigit q by omega, zpow_add₀ (by norm_num), zpow_natCast]
      push_cast
      ring
    rw [hmultiple]
    exact abs_nearest_sub_mul_le q _
  · -- a number with finer digits is below the power of two under the rounded number
    have hlog : lastDigit q = Int.log 2 |q| - 52 := by
      have := max_choice (Int.log 2 |q| - 52) (-1074)
      unfold lastDigit at hlt ⊢
      omega
    by_cases hq : q = 0
    · have hzero := abs_nearest_sub_mul_le q 0
      rw [hq, Int.cast_zero, zero_mul, sub_self, abs_zero] at hzero
      rw [hq]
      exact hzero.trans (abs_nonneg _)
    have hself : (2 : ℚ) ^ (52 + lastDigit q) ≤ |q| := by
      have h := Int.zpow_log_le_self (b := 2) (by norm_num) (abs_pos.2 hq)
      rwa [show Int.log 2 |q| = 52 + lastDigit q by omega] at h
    have hbound : |(m : ℚ) * 2 ^ e| ≤ 2 ^ (52 + lastDigit q) := by
      have hm' : |(m : ℚ)| ≤ 2 ^ 53 := by
        rw [← Int.cast_abs, ← cast_two_pow]
        exact Int.cast_le.2 hm
      rw [abs_mul, abs_of_pos (two_zpow_pos e)]
      calc |(m : ℚ)| * 2 ^ e ≤ 2 ^ 53 * 2 ^ e :=
          mul_le_mul_of_nonneg_right hm' (two_zpow_pos e).le
        _ = 2 ^ (53 + e) := (two_zpow_add 53 e).symm
        _ ≤ 2 ^ (52 + lastDigit q) := zpow_le_zpow_right₀ (by norm_num) (by omega)
    have hpow := two_zpow_pos (52 + lastDigit q)
    have hsplit : (2 : ℚ) ^ (52 + lastDigit q) = 2 ^ 52 * 2 ^ lastDigit q :=
      two_zpow_add 52 (lastDigit q)
    rcases le_total 0 q with hpos | hneg
    · have h := abs_nearest_sub_mul_le q (2 ^ 52)
      rw [cast_two_pow, ← hsplit] at h
      refine h.trans (abs_sub_le_of_abs_le ?_ ?_ (Or.inl ⟨hpow.le, hpos⟩))
      · rwa [abs_of_pos hpow]
      · rwa [abs_of_pos hpow]
    · have h := abs_nearest_sub_mul_le q (-2 ^ 52)
      rw [Int.cast_neg, cast_two_pow, neg_mul, ← hsplit] at h
      refine h.trans (abs_sub_le_of_abs_le ?_ ?_ (Or.inr ⟨by linarith, hneg⟩))
      · rwa [abs_neg, abs_of_pos hpow]
      · rwa [abs_neg, abs_of_pos hpow]

theorem nearest_of_isDouble {q : ℚ} (h : IsDouble q) : nearest q = q := by
  have hle := abs_nearest_sub_le q h
  rw [sub_self, abs_zero] at hle
  exact sub_eq_zero.1 (abs_nonpos_iff.1 hle)

theorem nearest_eq_iff {q : ℚ} : nearest q = q ↔ IsDouble q :=
  ⟨fun h => h ▸ isDouble_nearest q, nearest_of_isDouble⟩

theorem nearest_le {q d : ℚ} (hd : IsDouble d) (h : q ≤ d) : nearest q ≤ d := by
  have hle := abs_nearest_sub_le q hd
  rw [abs_of_nonneg (show 0 ≤ d - q by linarith)] at hle
  linarith [(abs_le.1 hle).2]

theorem le_nearest {q d : ℚ} (hd : IsDouble d) (h : d ≤ q) : d ≤ nearest q := by
  have hle := abs_nearest_sub_le q hd
  rw [abs_of_nonpos (show d - q ≤ 0 by linarith)] at hle
  linarith [(abs_le.1 hle).1]

theorem isDouble_two_zpow {e : ℤ} (h : -1074 ≤ e) : IsDouble (2 ^ e) :=
  ⟨1, e, by norm_num, h, by rw [Int.cast_one, one_mul]⟩

/-- How far a number is rounded. -/
theorem abs_nearest_sub_le_two_zpow {q : ℚ} {e : ℤ} (he : -1074 ≤ e) (h : |q| < 2 ^ 53 * 2 ^ e) :
    |nearest q - q| ≤ 2 ^ e := by
  have hpow := two_zpow_pos e
  have hle := Int.floor_le (q / 2 ^ e)
  have hlt := Int.lt_floor_add_one (q / 2 ^ e)
  have hbound : |q / 2 ^ e| < 2 ^ 53 := by
    rwa [abs_div, abs_of_pos hpow, div_lt_iff₀ hpow]
  rw [abs_lt, ← cast_two_pow, ← Int.cast_neg] at hbound
  have hlow : -2 ^ 53 ≤ ⌊q / 2 ^ e⌋ := Int.le_floor.2 hbound.1.le
  have hhigh : ⌊q / 2 ^ e⌋ < 2 ^ 53 := Int.floor_lt.2 hbound.2
  have hdouble : IsDouble (⌊q / 2 ^ e⌋ * 2 ^ e) := ⟨_, e, abs_le.2 ⟨hlow, hhigh.le⟩, he, rfl⟩
  have hdistance : ⌊q / 2 ^ e⌋ * 2 ^ e - q = (⌊q / 2 ^ e⌋ - q / 2 ^ e) * 2 ^ e := by
    rw [sub_mul, div_mul_cancel₀ _ hpow.ne']
  refine (abs_nearest_sub_le q hdouble).trans ?_
  rw [hdistance, abs_mul, abs_of_pos hpow]
  refine mul_le_of_le_one_left hpow.le (abs_le.2 ⟨by linarith, by linarith⟩)

/-! ### The type -/

/-- A finite `double`. -/
abbrev Double := {q : ℚ // IsDouble q}

namespace Double

/-- The nearest one. -/
def ofRat (q : ℚ) : Double := ⟨nearest q, isDouble_nearest q⟩

/-- `static_cast<double>` of a whole number. -/
def ofInt (z : ℤ) : Double := ofRat z

/-- `static_cast` to a whole number cuts what is behind the point. -/
def trunc (d : Double) : ℤ := if 0 ≤ d.1 then ⌊d.1⌋ else ⌈d.1⌉

def add (a b : Double) : Double := ofRat (a.1 + b.1)

def sub (a b : Double) : Double := ofRat (a.1 - b.1)

theorem ofInt_val {z : ℤ} (h : |z| ≤ 2 ^ 53) : (ofInt z).1 = z :=
  nearest_of_isDouble (isDouble_intCast h)

theorem trunc_of_nonneg {d : Double} (h : 0 ≤ d.1) : d.trunc = ⌊d.1⌋ := if_pos h

/-- What is left when the whole part of a number is taken off. -/
theorem sub_trunc {d : Double} (h : 0 ≤ d.1) :
    (d.sub (ofInt d.trunc)).1 = d.1 - ⌊d.1⌋ := by
  obtain ⟨hfloor, hfract⟩ := isDouble_floor_fract d.2 h
  rw [trunc_of_nonneg h, sub, ofInt, ofRat, ofRat]
  dsimp only
  rw [nearest_of_isDouble hfloor, nearest_of_isDouble hfract]

end Double

end Binary64
