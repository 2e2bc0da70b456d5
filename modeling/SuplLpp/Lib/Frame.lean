import Mathlib.LinearAlgebra.CrossProduct
import Mathlib.Tactic.LinearCombination
import Mathlib.Analysis.SpecialFunctions.Trigonometric.Inverse

/-!
# Right-handed frames

Triples of vectors of a space with three coordinates, over Mathlib's products of such vectors.

* `RightHanded`: three orthogonal unit vectors, the third the cross product of the others;
* `RightHanded.of_orthogonal`, `RightHanded.turn`: the frame of two orthogonal unit vectors, and
  a frame turned about its third vector;
* `RightHanded.dipole_dot_self`: the length of a dipole that is seen along a unit vector;
* `IsAngle`: the angle that a vector is turned by about an axis, to the direction of another;
* `isAngle_arccos`: that angle from the two products of the vectors.
-/

namespace Frame

open Matrix

section Frames

variable {R : Type*} [CommRing R]

/-- Three orthogonal unit vectors, in the order of a right hand. -/
structure RightHanded (x y z : Fin 3 → R) : Prop where
  xx : x ⬝ᵥ x = 1
  yy : y ⬝ᵥ y = 1
  zz : z ⬝ᵥ z = 1
  xy : x ⬝ᵥ y = 0
  yz : y ⬝ᵥ z = 0
  zx : z ⬝ᵥ x = 0
  cross : x ⨯₃ y = z

/-- The length of the cross product of orthogonal unit vectors. -/
theorem cross_dot_self {y z : Fin 3 → R} (hy : y ⬝ᵥ y = 1) (hz : z ⬝ᵥ z = 1) (hyz : y ⬝ᵥ z = 0) :
    y ⨯₃ z ⬝ᵥ y ⨯₃ z = 1 := by
  rw [cross_dot_cross, hy, hz, hyz]
  ring

/-- Two orthogonal unit vectors are the last two of a frame. -/
theorem RightHanded.of_orthogonal {y z : Fin 3 → R} (hy : y ⬝ᵥ y = 1) (hz : z ⬝ᵥ z = 1)
    (hyz : y ⬝ᵥ z = 0) : RightHanded (y ⨯₃ z) y z where
  xx := cross_dot_self hy hz hyz
  yy := hy
  zz := hz
  xy := by rw [dotProduct_comm, dot_self_cross]
  yz := hyz
  zx := dot_cross_self y z
  cross := by
    rw [cross_cross_eq_smul_sub_smul, hy, dotProduct_comm z y, hyz, one_smul, zero_smul, sub_zero]

/-- A frame stays one when it is turned about its third vector. -/
theorem RightHanded.turn {x y z : Fin 3 → R} (h : RightHanded x y z) {c s : R}
    (hcs : c ^ 2 + s ^ 2 = 1) : RightHanded (c • x + s • y) (-s • x + c • y) z := by
  have hyx : y ⬝ᵥ x = 0 := (dotProduct_comm y x).trans h.xy
  have hzy : z ⬝ᵥ y = 0 := (dotProduct_comm z y).trans h.yz
  refine ⟨?_, ?_, h.zz, ?_, ?_, ?_, ?_⟩
  · simp only [add_dotProduct, dotProduct_add, smul_dotProduct, dotProduct_smul, h.xx, h.yy, h.xy,
      hyx, smul_eq_mul]
    linear_combination hcs
  · simp only [add_dotProduct, dotProduct_add, smul_dotProduct, dotProduct_smul, h.xx, h.yy, h.xy,
      hyx, smul_eq_mul]
    linear_combination hcs
  · simp only [add_dotProduct, dotProduct_add, smul_dotProduct, dotProduct_smul, h.xx, h.yy, h.xy,
      hyx, smul_eq_mul]
    ring
  · have hxz : x ⬝ᵥ z = 0 := (dotProduct_comm x z).trans h.zx
    simp only [add_dotProduct, smul_dotProduct, hxz, h.yz, smul_zero, add_zero]
  · simp only [dotProduct_add, dotProduct_smul, h.zx, hzy, smul_zero, add_zero]
  · have hyx' : y ⨯₃ x = -z := by rw [← cross_anticomm, h.cross]
    simp only [map_add, map_smul, LinearMap.add_apply, LinearMap.smul_apply, cross_self, h.cross,
      hyx', smul_zero, zero_add, add_zero, smul_neg, smul_smul]
    rw [← neg_smul, ← add_smul]
    convert one_smul R z using 2
    linear_combination hcs

/-- The parts of a vector along the axes of a frame. -/
theorem RightHanded.dot_sq {x y z : Fin 3 → R} (h : RightHanded x y z) (k : Fin 3 → R) :
    (k ⬝ᵥ x) ^ 2 + (k ⬝ᵥ y) ^ 2 + (k ⬝ᵥ z) ^ 2 = k ⬝ᵥ k := by
  have hkz : k ⨯₃ z = (k ⬝ᵥ y) • x - (k ⬝ᵥ x) • y := by
    rw [← h.cross, cross_cross_eq_smul_sub_smul', dotProduct_comm x k]
  have hyx : y ⬝ᵥ x = 0 := (dotProduct_comm y x).trans h.xy
  have hplane : k ⨯₃ z ⬝ᵥ k ⨯₃ z = (k ⬝ᵥ x) ^ 2 + (k ⬝ᵥ y) ^ 2 := by
    rw [hkz]
    simp only [sub_dotProduct, dotProduct_sub, smul_dotProduct, dotProduct_smul, h.xx, h.yy, h.xy,
      hyx, smul_eq_mul]
    ring
  rw [← hplane, cross_dot_cross, h.zz, dotProduct_comm z k]
  ring

/-- A dipole along the first two axes, of one hand or the other, seen along a unit vector. -/
theorem RightHanded.dipole_dot_self {x y z k : Fin 3 → R} (h : RightHanded x y z)
    (hk : k ⬝ᵥ k = 1) {s : R} (hs : s ^ 2 = 1) :
    (x - (k ⬝ᵥ x) • k - s • k ⨯₃ y) ⬝ᵥ (x - (k ⬝ᵥ x) • k - s • k ⨯₃ y) =
      (1 + s * (k ⬝ᵥ z)) ^ 2 := by
  have hcross : k ⨯₃ y ⬝ᵥ k ⨯₃ y = 1 - (k ⬝ᵥ y) ^ 2 := by
    rw [cross_dot_cross, hk, h.yy, dotProduct_comm y k]
    ring
  have htriple : x ⬝ᵥ k ⨯₃ y = -(k ⬝ᵥ z) := by
    rw [triple_product_permutation, ← cross_anticomm, h.cross, dotProduct_neg]
  have htriple' : k ⨯₃ y ⬝ᵥ x = -(k ⬝ᵥ z) := (dotProduct_comm (k ⨯₃ y) x).trans htriple
  have haxis : k ⨯₃ y ⬝ᵥ k = 0 := (dotProduct_comm (k ⨯₃ y) k).trans (dot_self_cross k y)
  have hsum := h.dot_sq k
  simp only [sub_dotProduct, dotProduct_sub, smul_dotProduct, dotProduct_smul, smul_eq_mul,
    dot_self_cross, dotProduct_comm x k, h.xx, hk, hcross, htriple, htriple', haxis] at hsum ⊢
  linear_combination -hsum + (1 - (k ⬝ᵥ y) ^ 2 - (k ⬝ᵥ z) ^ 2) * hs

end Frames

/-! ### Angles about an axis -/

/-- The length of a vector. -/
noncomputable def length (v : Fin 3 → ℝ) : ℝ := √(v ⬝ᵥ v)

theorem length_sq (v : Fin 3 → ℝ) : length v ^ 2 = v ⬝ᵥ v :=
  Real.sq_sqrt (Finset.sum_nonneg fun i _ => mul_self_nonneg (v i))

/-- Turned by the angle about the axis, the first vector has the direction of the second. -/
structure IsAngle (k v w : Fin 3 → ℝ) (angle : ℝ) : Prop where
  cos : v ⬝ᵥ w = length v * length w * Real.cos angle
  sin : v ⨯₃ w ⬝ᵥ k = length v * length w * Real.sin angle

theorem IsAngle.add_turns {k v w : Fin 3 → ℝ} {angle : ℝ} (h : IsAngle k v w angle) (n : ℤ) :
    IsAngle k v w (angle + n * (2 * Real.pi)) :=
  ⟨by rw [Real.cos_add_int_mul_two_pi, h.cos], by rw [Real.sin_add_int_mul_two_pi, h.sin]⟩

/-- The two products of vectors at a right angle to the axis. -/
theorem sq_add_sq {k v w : Fin 3 → ℝ} (hk : k ⬝ᵥ k = 1) (hv : k ⬝ᵥ v = 0) (hw : k ⬝ᵥ w = 0) :
    (v ⬝ᵥ w) ^ 2 + (v ⨯₃ w ⬝ᵥ k) ^ 2 = (length v * length w) ^ 2 := by
  have hparallel : k ⨯₃ (v ⨯₃ w) = 0 := by
    rw [cross_cross_eq_smul_sub_smul', hw, dotProduct_comm v k, hv, zero_smul, zero_smul, sub_zero]
  have haxis : (v ⨯₃ w ⬝ᵥ k) ^ 2 = v ⨯₃ w ⬝ᵥ v ⨯₃ w := by
    have hzero := cross_dot_cross k (v ⨯₃ w) k (v ⨯₃ w)
    rw [hparallel, zero_dotProduct, hk, dotProduct_comm k] at hzero
    linear_combination hzero
  rw [haxis, cross_dot_cross, mul_pow, length_sq, length_sq, dotProduct_comm w v]
  ring

/-- The cosine and the sine of the angle of a quotient. -/
theorem mul_cos_arccos {dot along n : ℝ} (hn : 0 ≤ n) (hsq : dot ^ 2 + along ^ 2 = n ^ 2) :
    n * Real.cos (Real.arccos (dot / n)) = dot ∧
      n * Real.sin (Real.arccos (dot / n)) = |along| := by
  rcases hn.eq_or_lt with rfl | hpos
  · have hdot : dot = 0 := by nlinarith [sq_nonneg dot, sq_nonneg along]
    have halong : along = 0 := by nlinarith [sq_nonneg dot, sq_nonneg along]
    simp [hdot, halong]
  · have hdot : |dot| ≤ n := abs_le_of_sq_le_sq (by nlinarith [sq_nonneg along]) hn
    obtain ⟨hlow, hhigh⟩ := abs_le.1 hdot
    constructor
    · rw [Real.cos_arccos ((le_div_iff₀ hpos).2 (by linarith)) ((div_le_one hpos).2 hhigh)]
      exact mul_div_cancel₀ dot hpos.ne'
    · have hrest : n ^ 2 * (1 - (dot / n) ^ 2) = along ^ 2 := by
        field_simp
        linarith
      rw [Real.sin_arccos, ← Real.sqrt_sq_eq_abs, ← hrest,
        Real.sqrt_mul (sq_nonneg n), Real.sqrt_sq hn]

/-- The angle is that of the quotient, with the sign of the product along the axis. -/
theorem isAngle_arccos {k v w : Fin 3 → ℝ} (hk : k ⬝ᵥ k = 1) (hv : k ⬝ᵥ v = 0)
    (hw : k ⬝ᵥ w = 0) :
    IsAngle k v w (if v ⨯₃ w ⬝ᵥ k < 0 then -Real.arccos (v ⬝ᵥ w / (length v * length w))
      else Real.arccos (v ⬝ᵥ w / (length v * length w))) := by
  obtain ⟨hcos, hsin⟩ := mul_cos_arccos (mul_nonneg (Real.sqrt_nonneg _) (Real.sqrt_nonneg _))
    (sq_add_sq hk hv hw)
  split
  case isTrue hneg =>
    refine ⟨by rw [Real.cos_neg, length, length, hcos], ?_⟩
    rw [Real.sin_neg, mul_neg, length, length, hsin, abs_of_neg hneg, neg_neg]
  case isFalse hpos =>
    exact ⟨hcos.symm, by rw [length, length, hsin, abs_of_nonneg (not_lt.1 hpos)]⟩

end Frame
