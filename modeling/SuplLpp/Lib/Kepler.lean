import Mathlib

/-!
# Kepler's equation

The eccentric anomaly `E` of a mean anomaly `m` solves `E - e sin E = m`.

* `equation` has exactly one solution for an eccentricity below one, `anomaly`; how far a number is
  from it, by what the equation leaves;
* `newton`, a step of Newton's method, and `abs_newton_sub_le`: it squares the distance;
* `approach`, steps until one of them is small, and `approach_spec`: where each step squares the
  distance, so many steps are enough, and more change nothing;
* `hasDerivAt_anomaly`.
-/

namespace Kepler

open Real

variable {e m : ℝ}

/-! ### The equation -/

noncomputable def equation (e E : ℝ) : ℝ := E - e * sin E

theorem continuous_equation (e : ℝ) : Continuous (equation e) := by
  unfold equation
  fun_prop

/-- The equation takes numbers apart. -/
theorem mul_abs_sub_le (he : 0 ≤ e) (x y : ℝ) :
    (1 - e) * |x - y| ≤ |equation e x - equation e y| := by
  have hsin : |e * (sin x - sin y)| ≤ e * |x - y| := by
    rw [abs_mul, abs_of_nonneg he]
    exact mul_le_mul_of_nonneg_left (abs_sin_sub_sin_le x y) he
  have hsplit : x - y = (equation e x - equation e y) + e * (sin x - sin y) := by
    unfold equation
    ring
  have htriangle : |x - y| ≤ |equation e x - equation e y| + |e * (sin x - sin y)| := by
    calc |x - y| = |(equation e x - equation e y) + e * (sin x - sin y)| := by rw [← hsplit]
      _ ≤ _ := abs_add_le _ _
  linarith

theorem injective_equation (he : 0 ≤ e) (he1 : e < 1) : Function.Injective (equation e) := by
  intro x y hxy
  have hle := mul_abs_sub_le he x y
  rw [hxy, sub_self, abs_zero] at hle
  have hzero : |x - y| ≤ 0 := by nlinarith [abs_nonneg (x - y)]
  exact sub_eq_zero.1 (abs_nonpos_iff.1 hzero)

theorem surjective_equation (he : 0 ≤ e) : Function.Surjective (equation e) := by
  intro m
  have hlow : equation e (m - e) ≤ m := by
    unfold equation
    nlinarith [neg_one_le_sin (m - e)]
  have hhigh : m ≤ equation e (m + e) := by
    unfold equation
    nlinarith [sin_le_one (m + e)]
  obtain ⟨E, -, hE⟩ := intermediate_value_Icc (by linarith : m - e ≤ m + e)
    (continuous_equation e).continuousOn ⟨hlow, hhigh⟩
  exact ⟨E, hE⟩

/-- The eccentric anomaly. -/
noncomputable def anomaly (e : ℝ) : ℝ → ℝ := Function.invFun (equation e)

theorem equation_anomaly (he : 0 ≤ e) (m : ℝ) : equation e (anomaly e m) = m :=
  Function.rightInverse_invFun (surjective_equation he) m

theorem eq_anomaly_iff (he : 0 ≤ e) (he1 : e < 1) {E : ℝ} : E = anomaly e m ↔ equation e E = m := by
  constructor
  · rintro rfl
    exact equation_anomaly he m
  · intro h
    exact injective_equation he he1 (h.trans (equation_anomaly he m).symm)

/-- The mean anomaly is a first guess. -/
theorem abs_sub_anomaly_le (he : 0 ≤ e) (m : ℝ) : |m - anomaly e m| ≤ e := by
  have hequation := equation_anomaly he m
  have hdiff : m - anomaly e m = -(e * sin (anomaly e m)) := by
    unfold equation at hequation
    linarith
  rw [hdiff, abs_neg, abs_mul, abs_of_nonneg he]
  exact mul_le_of_le_one_right he (abs_sin_le_one _)

/-! ### Newton's method -/

noncomputable def newton (e m E : ℝ) : ℝ := E + (m - E + e * sin E) / (1 - e * cos E)

theorem slope_pos (he : 0 ≤ e) (he1 : e < 1) (E : ℝ) :
    1 - e ≤ 1 - e * cos E ∧ 0 < 1 - e * cos E := by
  have hle : e * cos E ≤ e := mul_le_of_le_one_right he (cos_le_one E)
  exact ⟨by linarith, by linarith⟩

/-- The sine and its tangent. -/
theorem abs_sin_sub_tangent_le (x y : ℝ) : |sin y - sin x - (y - x) * cos x| ≤ |y - x| ^ 2 := by
  have hderiv : ∀ t ∈ Set.uIcc x y, HasDerivWithinAt (fun t => sin t - t * cos x)
      (cos t - cos x) (Set.uIcc x y) t := by
    intro t _
    have h := (hasDerivAt_sin t).sub ((hasDerivAt_id t).mul_const (cos x))
    exact (h.congr_deriv (by rw [one_mul])).hasDerivWithinAt
  have hbound : ∀ t ∈ Set.uIcc x y, ‖cos t - cos x‖ ≤ |y - x| := by
    intro t ht
    rw [norm_eq_abs]
    exact (abs_cos_sub_cos_le t x).trans (Set.abs_sub_left_of_mem_uIcc ht)
  have h := (convex_uIcc x y).norm_image_sub_le_of_norm_hasDerivWithin_le hderiv hbound
    Set.left_mem_uIcc Set.right_mem_uIcc
  rw [norm_eq_abs, norm_eq_abs] at h
  calc |sin y - sin x - (y - x) * cos x|
      = |sin y - y * cos x - (sin x - x * cos x)| := by
        congr 1
        ring
    _ ≤ |y - x| * |y - x| := h
    _ = |y - x| ^ 2 := (sq _).symm

/-- A step squares the distance to the solution. -/
theorem abs_newton_sub_le (he : 0 ≤ e) (he1 : e < 1) (m E : ℝ) :
    |newton e m E - anomaly e m| ≤ e / (1 - e) * |E - anomaly e m| ^ 2 := by
  obtain ⟨hslope, hpos⟩ := slope_pos he he1 E
  have hequation := equation_anomaly he m
  unfold equation at hequation
  have hdiff : newton e m E - anomaly e m =
      -(e * (sin (anomaly e m) - sin E - (anomaly e m - E) * cos E)) / (1 - e * cos E) := by
    unfold newton
    field_simp
    linear_combination -hequation
  rw [hdiff, abs_div, abs_neg, abs_mul, abs_of_nonneg he, abs_of_pos hpos, abs_sub_comm E,
    div_mul_eq_mul_div]
  have htangent := abs_sin_sub_tangent_le E (anomaly e m)
  have hnum : 0 ≤ e * |anomaly e m - E| ^ 2 := by positivity
  calc e * |sin (anomaly e m) - sin E - (anomaly e m - E) * cos E| / (1 - e * cos E)
      ≤ e * |anomaly e m - E| ^ 2 / (1 - e * cos E) := by gcongr
    _ ≤ e * |anomaly e m - E| ^ 2 / (1 - e) := by
      apply div_le_div_of_nonneg_left hnum _ hslope
      linarith

/-- What the equation leaves is what a step moves. -/
theorem equation_sub_eq (he : 0 ≤ e) (he1 : e < 1) (m E : ℝ) :
    m - equation e E = (newton e m E - E) * (1 - e * cos E) := by
  have hpos := (slope_pos he he1 E).2
  unfold newton equation
  field_simp
  ring

theorem abs_sub_anomaly_le_of_step (he : 0 ≤ e) (he1 : e < 1) {ε E : ℝ}
    (h : |newton e m E - E| ≤ ε) :
    |m - equation e E| ≤ (1 + e) * ε ∧ (1 - e) * |E - anomaly e m| ≤ (1 + e) * ε := by
  have hpos := (slope_pos he he1 E).2
  have hslope : 1 - e * cos E ≤ 1 + e := by nlinarith [neg_one_le_cos E]
  have hleft : |m - equation e E| ≤ (1 + e) * ε := by
    rw [equation_sub_eq he he1, abs_mul, abs_of_pos hpos, mul_comm]
    exact mul_le_mul hslope h (abs_nonneg _) (by linarith)
  refine ⟨hleft, (mul_abs_sub_le he E (anomaly e m)).trans ?_⟩
  rwa [equation_anomaly he, abs_sub_comm]

/-! ### Steps until one of them is small -/

/-- So many steps at most; a step that is small is not taken. -/
noncomputable def approach (step : ℝ → ℝ) (ε : ℝ) : ℕ → ℝ → ℝ
  | 0, x => x
  | rounds + 1, x => if |step x - x| < ε then x else approach step ε rounds (step x)

/-- Steps that square the distance are soon small. -/
theorem approach_spec {step : ℝ → ℝ} {ε s : ℝ} (hstep : ∀ x, |step x - s| ≤ |x - s| ^ 2) {n : ℕ}
    {d x : ℝ} (hd : |x - s| ≤ d) (hsmall : d ^ 2 ^ n + (d ^ 2 ^ n) ^ 2 < ε) :
    |step (approach step ε (n + 1) x) - approach step ε (n + 1) x| < ε ∧
      ∀ rounds, n + 1 ≤ rounds → approach step ε rounds x = approach step ε (n + 1) x := by
  have hstop : ∀ {x : ℝ} {rounds : ℕ}, |step x - x| < ε → approach step ε rounds x = x := by
    intro x rounds hclose
    cases rounds with
    | zero => rfl
    | succ rounds => rw [approach, if_pos hclose]
  induction n generalizing d x with
  | zero =>
    have hclose : |step x - x| < ε := by
      have htriangle := abs_sub_le (step x) s x
      have hsq : |x - s| ^ 2 ≤ d ^ 2 := pow_le_pow_left₀ (abs_nonneg _) hd 2
      rw [pow_zero, pow_one] at hsmall
      rw [abs_sub_comm s x] at htriangle
      linarith [hstep x]
    refine ⟨by rwa [hstop hclose], fun rounds _ => ?_⟩
    rw [hstop hclose, hstop hclose]
  | succ n ih =>
    by_cases hclose : |step x - x| < ε
    · refine ⟨by rwa [hstop hclose], fun rounds _ => ?_⟩
      rw [hstop hclose, hstop hclose]
    · have hnext : |step x - s| ≤ d ^ 2 :=
        (hstep x).trans (pow_le_pow_left₀ (abs_nonneg _) hd 2)
      obtain ⟨hlast, hmore⟩ := ih hnext (by rwa [← pow_mul, ← pow_succ'])
      have hround : approach step ε (n + 1 + 1) x = approach step ε (n + 1) (step x) := by
        rw [approach, if_neg hclose]
      refine ⟨by rwa [hround], fun rounds hrounds => ?_⟩
      obtain ⟨rounds, rfl⟩ : ∃ k, rounds = k + 1 := ⟨rounds - 1, by omega⟩
      rw [hround, approach, if_neg hclose]
      exact hmore rounds (by omega)

/-! ### The anomaly as a function -/

theorem continuous_anomaly (he : 0 ≤ e) (he1 : e < 1) : Continuous (anomaly e) := by
  have hlip : LipschitzWith (Real.toNNReal (1 - e)⁻¹) (anomaly e) := by
    refine LipschitzWith.of_dist_le_mul fun x y => ?_
    have hpos : 0 < 1 - e := by linarith
    have hle := mul_abs_sub_le he (anomaly e x) (anomaly e y)
    rw [equation_anomaly he, equation_anomaly he] at hle
    rw [Real.coe_toNNReal _ (inv_nonneg.2 hpos.le), dist_eq, dist_eq, inv_mul_eq_div,
      le_div_iff₀ hpos, mul_comm]
    exact hle
  exact hlip.continuous

theorem hasDerivAt_equation (e E : ℝ) : HasDerivAt (equation e) (1 - e * cos E) E :=
  (hasDerivAt_id E).sub ((hasDerivAt_sin E).const_mul e)

theorem hasDerivAt_anomaly (he : 0 ≤ e) (he1 : e < 1) (m : ℝ) :
    HasDerivAt (anomaly e) (1 - e * cos (anomaly e m))⁻¹ m :=
  HasDerivAt.of_local_left_inverse (continuous_anomaly he he1).continuousAt
    (hasDerivAt_equation e _) (slope_pos he he1 _).2.ne'
    (Filter.Eventually.of_forall (equation_anomaly he))

end Kepler
