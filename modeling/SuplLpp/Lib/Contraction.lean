import Mathlib
import SuplLpp.Lib.While

/-!
# Loops that iterate a contraction

A loop applies a function until it moves its argument by less than a tolerance.

* `ends`: where the function brings numbers closer by a factor below one, the loop ends;
* `abs_sub_le_of_exit`: where it ends is near the fixed point;
* `iterate`, so many rounds at most, and `iterate_exit`: enough of them end as the loop does.
-/

namespace Contraction

variable {T : ℝ → ℝ} {κ tolerance s x : ℝ}

/-- The loop goes on while the function moves its argument that much. -/
def Far (T : ℝ → ℝ) (tolerance x : ℝ) : Prop := ¬ |T x - x| < tolerance

theorem ends (hκ0 : 0 ≤ κ) (hκ : κ < 1) (hT : ∀ x y, |T x - T y| ≤ κ * |x - y|)
    (htolerance : 0 < tolerance) (x : ℝ) : ∃ y, While.Ends (Far T tolerance) T x y := by
  have hrounds : ∀ (n : ℕ) (x : ℝ), κ ^ n * |T x - x| < tolerance →
      ∃ y, While.Ends (Far T tolerance) T x y := by
    intro n
    induction n with
    | zero =>
      intro x hx
      rw [pow_zero, one_mul] at hx
      exact ⟨x, While.Ends.done (not_not.2 hx)⟩
    | succ n ih =>
      intro x hx
      by_cases hfar : Far T tolerance x
      · have hstep : κ ^ n * |T (T x) - T x| ≤ κ ^ (n + 1) * |T x - x| := by
          rw [pow_succ, mul_assoc]
          exact mul_le_mul_of_nonneg_left (hT _ _) (pow_nonneg hκ0 n)
        obtain ⟨y, hy⟩ := ih (T x) (hstep.trans_lt hx)
        exact ⟨y, While.Ends.round hfar hy⟩
      · exact ⟨x, While.Ends.done hfar⟩
  have hlim : Filter.Tendsto (fun n : ℕ => κ ^ n * |T x - x|) Filter.atTop (nhds 0) := by
    simpa using (tendsto_pow_atTop_nhds_zero_of_lt_one hκ0 hκ).mul_const |T x - x|
  obtain ⟨n, hn⟩ := (hlim.eventually_lt_const htolerance).exists
  exact hrounds n x hn

/-- A number that the function moves little is near the fixed point, and its image is nearer. -/
theorem abs_sub_le_of_exit (hκ0 : 0 ≤ κ) (hκ : κ ≤ 1) (hT : ∀ x y, |T x - T y| ≤ κ * |x - y|)
    (hs : T s = s) (hx : ¬ Far T tolerance x) :
    (1 - κ) * |x - s| ≤ tolerance ∧ (1 - κ) * |T x - s| ≤ κ * tolerance := by
  have hclose : |T x - x| < tolerance := not_not.1 hx
  have himage : |T x - s| ≤ κ * |x - s| := by
    have h := hT x s
    rwa [hs] at h
  have htriangle := abs_sub_le x (T x) s
  rw [abs_sub_comm x (T x)] at htriangle
  have hfirst : (1 - κ) * |x - s| ≤ tolerance := by linarith
  refine ⟨hfirst, ?_⟩
  calc (1 - κ) * |T x - s| ≤ (1 - κ) * (κ * |x - s|) :=
        mul_le_mul_of_nonneg_left himage (by linarith)
    _ = κ * ((1 - κ) * |x - s|) := by ring
    _ ≤ κ * tolerance := mul_le_mul_of_nonneg_left hfirst hκ0

/-- A contraction of a closed set of numbers to itself has one fixed point there. -/
theorem exists_fixed {S : Set ℝ} (hS : IsClosed S) (hmaps : Set.MapsTo T S S) (hκ0 : 0 ≤ κ)
    (hκ : κ < 1) (hT : ∀ x ∈ S, ∀ y ∈ S, |T x - T y| ≤ κ * |x - y|) (hx : x ∈ S) :
    ∃ s ∈ S, ∀ y ∈ S, T y = y ↔ y = s := by
  have hcontracting : ContractingWith κ.toNNReal (hmaps.restrict T S S) := by
    refine ⟨by rwa [Real.toNNReal_lt_one], LipschitzWith.of_dist_le_mul fun x y => ?_⟩
    rw [Real.coe_toNNReal κ hκ0, Subtype.dist_eq, Subtype.dist_eq, Real.dist_eq, Real.dist_eq]
    exact hT x x.2 y y.2
  obtain ⟨s, hs, hfixed, -⟩ :=
    hcontracting.exists_fixedPoint' hS.isComplete hmaps hx (edist_ne_top x (T x))
  refine ⟨s, hs, fun y hy => ⟨fun hTy => ?_, ?_⟩⟩
  · have hle := hT y hy s hs
    rw [hTy, hfixed] at hle
    have hzero : |y - s| ≤ 0 := by nlinarith [abs_nonneg (y - s)]
    exact sub_eq_zero.1 (abs_nonpos_iff.1 hzero)
  · rintro rfl
    exact hfixed

/-! ### So many rounds at most -/

open Classical in
/-- The loop with a bound on its rounds; a round that is not far is the last one. -/
noncomputable def iterate (T : ℝ → ℝ) (tolerance : ℝ) : ℕ → ℝ → ℝ
  | 0, x => x
  | rounds + 1, x => if Far T tolerance x then iterate T tolerance rounds (T x) else T x

/-- Enough rounds end as the loop without a bound does. -/
theorem iterate_exit (hκ0 : 0 ≤ κ) (hT : ∀ x y, |T x - T y| ≤ κ * |x - y|) {n : ℕ}
    (hn : κ ^ n * |T x - x| < tolerance) :
    ∃ y, ¬ Far T tolerance y ∧ iterate T tolerance (n + 1) x = T y := by
  induction n generalizing x with
  | zero =>
    rw [pow_zero, one_mul] at hn
    exact ⟨x, not_not.2 hn, if_neg (not_not.2 hn)⟩
  | succ n ih =>
    by_cases hfar : Far T tolerance x
    · have hstep : κ ^ n * |T (T x) - T x| ≤ κ ^ (n + 1) * |T x - x| := by
        rw [pow_succ, mul_assoc]
        exact mul_le_mul_of_nonneg_left (hT _ _) (pow_nonneg hκ0 n)
      obtain ⟨y, hy, heq⟩ := ih (hstep.trans_lt hn)
      exact ⟨y, hy, by rw [iterate, if_pos hfar, heq]⟩
    · exact ⟨x, hfar, by rw [iterate, if_neg hfar]⟩

/-- Where a round leads near some number, up to an error `η`, so do so many of them. -/
theorem abs_iterate_sub_le {S : Set ℝ} {B D η : ℝ} (hmaps : Set.MapsTo T S S) (hκ0 : 0 ≤ κ)
    (hκ : κ < 1) (hT : ∀ x ∈ S, |T x - s| ≤ κ * |x - s| + η)
    (hB : κ * tolerance + η ≤ (1 - κ) * B) (hD : 0 ≤ D) (htolerance : 0 ≤ tolerance) (n : ℕ)
    (hmem : x ∈ S) (hx : |x - s| ≤ B + D) :
    iterate T tolerance n x ∈ S ∧ |iterate T tolerance n x - s| ≤ B + κ ^ n * D := by
  induction n generalizing x D with
  | zero =>
    rw [iterate, pow_zero, one_mul]
    exact ⟨hmem, hx⟩
  | succ n ih =>
    have himage := hT x hmem
    by_cases hfar : Far T tolerance x
    · have hnext : |T x - s| ≤ B + κ * D := by nlinarith
      rw [iterate, if_pos hfar, pow_succ, mul_assoc]
      exact ih (mul_nonneg hκ0 hD) (hmaps hmem) hnext
    · rw [iterate, if_neg hfar]
      have hclose : |T x - x| < tolerance := not_not.1 hfar
      have htriangle := abs_sub_le x (T x) s
      rw [abs_sub_comm x (T x)] at htriangle
      have hnear : (1 - κ) * |T x - s| ≤ (1 - κ) * B := by nlinarith
      have hle : |T x - s| ≤ B := le_of_mul_le_mul_left hnear (by linarith)
      exact ⟨hmaps hmem, hle.trans (le_add_of_nonneg_right (mul_nonneg (pow_nonneg hκ0 _) hD))⟩

end Contraction
