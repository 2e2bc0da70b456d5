import Mathlib

/-!
# Angles that turn

An angle may jump by a full turn while the direction that it names moves on smoothly.

* `Turns`: the cosine and the sine of an angle move as if it had a rate; `add`, `double` and the
  angles that do have one;
* `Turns.arg`: the angle of a point that moves in the plane.
-/

open Real

/-- The direction of the angle turns at the rate `w`. -/
structure Turns (φ : ℝ → ℝ) (w t : ℝ) : Prop where
  cosine : HasDerivAt (fun s => cos (φ s)) (-(w * sin (φ t))) t
  sine : HasDerivAt (fun s => sin (φ s)) (w * cos (φ t)) t

namespace Turns

variable {φ ψ : ℝ → ℝ} {v w t : ℝ}

theorem of_hasDerivAt (h : HasDerivAt φ w t) : Turns φ w t where
  cosine := h.cos.congr_deriv (by ring)
  sine := h.sin.congr_deriv (by ring)

theorem congr_rate (h : Turns φ v t) (hv : v = w) : Turns φ w t := hv ▸ h

theorem add (hφ : Turns φ v t) (hψ : Turns ψ w t) : Turns (fun s => φ s + ψ s) (v + w) t where
  cosine := by
    simp only [cos_add, sin_add]
    exact ((hφ.cosine.mul hψ.cosine).sub (hφ.sine.mul hψ.sine)).congr_deriv (by ring)
  sine := by
    simp only [cos_add, sin_add]
    exact ((hφ.sine.mul hψ.cosine).add (hφ.cosine.mul hψ.sine)).congr_deriv (by ring)

theorem double (h : Turns φ w t) : Turns (fun s => 2 * φ s) (2 * w) t := by
  simp only [two_mul]
  exact h.add h

/-- The length of a point that moves. -/
theorem hasDerivAt_length {x y : ℝ → ℝ} {vx vy t : ℝ} (hx : HasDerivAt x vx t)
    (hy : HasDerivAt y vy t) (hne : x t ^ 2 + y t ^ 2 ≠ 0) :
    HasDerivAt (fun s => √(x s ^ 2 + y s ^ 2))
      ((x t * vx + y t * vy) / √(x t ^ 2 + y t ^ 2)) t := by
  refine (((hx.pow 2).add (hy.pow 2)).sqrt hne).congr_deriv ?_
  simp only [Pi.add_apply, Pi.pow_apply]
  field_simp
  ring

/-- A point that moves in the plane turns about the origin. -/
theorem arg {x y : ℝ → ℝ} {vx vy t : ℝ} (hx : HasDerivAt x vx t) (hy : HasDerivAt y vy t)
    (hne : x t ^ 2 + y t ^ 2 ≠ 0) :
    Turns (fun s => Complex.arg ⟨x s, y s⟩) ((x t * vy - y t * vx) / (x t ^ 2 + y t ^ 2)) t := by
  have hnorm : ∀ s, ‖(⟨x s, y s⟩ : ℂ)‖ = √(x s ^ 2 + y s ^ 2) := by
    intro s
    rw [Complex.norm_eq_sqrt_sq_add_sq]
  have hlength := hasDerivAt_length hx hy hne
  have hsqrt : √(x t ^ 2 + y t ^ 2) ≠ 0 := by
    rw [Real.sqrt_ne_zero']
    positivity
  have hsq : √(x t ^ 2 + y t ^ 2) ^ 2 = x t ^ 2 + y t ^ 2 := sq_sqrt (by positivity)
  have hoff : ∀ᶠ s in nhds t, cos (Complex.arg ⟨x s, y s⟩) = x s / √(x s ^ 2 + y s ^ 2) := by
    filter_upwards [hlength.continuousAt.eventually_ne hsqrt] with s hs
    rw [Complex.cos_arg, hnorm]
    rintro h
    rw [← hnorm, h, norm_zero] at hs
    exact hs rfl
  have hcos : cos (Complex.arg ⟨x t, y t⟩) = x t / √(x t ^ 2 + y t ^ 2) := hoff.self_of_nhds
  have hsin : ∀ s, sin (Complex.arg ⟨x s, y s⟩) = y s / √(x s ^ 2 + y s ^ 2) := by
    intro s
    rw [Complex.sin_arg, hnorm]
  constructor
  · refine ((hx.div hlength hsqrt).congr_of_eventuallyEq hoff).congr_deriv ?_
    rw [hsin]
    generalize √(x t ^ 2 + y t ^ 2) = r at hsqrt hsq ⊢
    rw [← hsq]
    field_simp
    linear_combination vx * hsq
  · simp only [hsin]
    refine (hy.div hlength hsqrt).congr_deriv ?_
    rw [hcos]
    generalize √(x t ^ 2 + y t ^ 2) = r at hsqrt hsq ⊢
    rw [← hsq]
    field_simp
    linear_combination vy * hsq

end Turns
