import Mathlib.Algebra.Order.Field.Basic
import Mathlib.Tactic.Linarith
import Mathlib.Tactic.Ring

/-!
# Interpolation on a lattice

Values at whole numbers, and at pairs of them, continued linearly in between.

* `linear f n t`, between `n` and `n + 1`; `linear_congr`: at a whole number both sides agree;
* `cell F r c u w`, in the square at `r` and `c`, first across the rows; `cell_congr`: two squares
  agree where they meet; `le_cell`, `cell_le` and `cell_node`.
-/

namespace Lattice

variable {K : Type*} [Field K] [LinearOrder K] [IsStrictOrderedRing K]

/-- The line through the values at `n` and `n + 1`. -/
def linear (f : ℕ → K) (n : ℕ) (t : K) : K := f n * (1 - (t - n)) + f (n + 1) * (t - n)

/-- A place between `n` and `n + 1`, the ends included. -/
def Within (n : ℕ) (t : K) : Prop := (n : K) ≤ t ∧ t ≤ n + 1

section Linear

variable {f g : ℕ → K} {n m : ℕ} {t lower upper : K}

omit [LinearOrder K] [IsStrictOrderedRing K] in
theorem linear_left (f : ℕ → K) (n : ℕ) : linear f n n = f n := by
  simp [linear]

omit [LinearOrder K] [IsStrictOrderedRing K] in
theorem linear_right (f : ℕ → K) (n : ℕ) : linear f n (n + 1) = f (n + 1) := by
  simp [linear]

theorem le_linear (ht : Within n t) (hn : lower ≤ f n) (hn' : lower ≤ f (n + 1)) :
    lower ≤ linear f n t := by
  obtain ⟨h0, h1⟩ := ht
  have hleft : lower * (1 - (t - n)) ≤ f n * (1 - (t - n)) :=
    mul_le_mul_of_nonneg_right hn (by linarith)
  have hright : lower * (t - n) ≤ f (n + 1) * (t - n) :=
    mul_le_mul_of_nonneg_right hn' (by linarith)
  unfold linear
  linarith

theorem linear_le (ht : Within n t) (hn : f n ≤ upper) (hn' : f (n + 1) ≤ upper) :
    linear f n t ≤ upper := by
  obtain ⟨h0, h1⟩ := ht
  have hleft : f n * (1 - (t - n)) ≤ upper * (1 - (t - n)) :=
    mul_le_mul_of_nonneg_right hn (by linarith)
  have hright : f (n + 1) * (t - n) ≤ upper * (t - n) :=
    mul_le_mul_of_nonneg_right hn' (by linarith)
  unfold linear
  linarith

/-- Two intervals with a place in common are the same, or neighbours that meet there. -/
theorem linear_congr (hn : Within n t) (hm : Within m t) : linear f n t = linear f m t := by
  have hneighbour : ∀ {a b : ℕ}, Within a t → Within b t → a < b →
      linear f a t = linear f b t := by
    intro a b ha hb hlt
    have hcast : (a : K) + 1 ≤ b := by exact_mod_cast hlt
    have ht : t = (a + 1 : ℕ) := by
      push_cast
      exact le_antisymm ha.2 (hcast.trans hb.1)
    obtain rfl : b = a + 1 := by
      have hle : (b : K) ≤ (a + 1 : ℕ) := ht ▸ hb.1
      have hle' : b ≤ a + 1 := by exact_mod_cast hle
      omega
    rw [ht, linear_left]
    push_cast
    exact linear_right f a
  rcases lt_trichotomy n m with h | rfl | h
  · exact hneighbour hn hm h
  · rfl
  · exact (hneighbour hm hn h).symm

end Linear

/-! ### Squares -/

/-- The surface over the square at row `r` and column `c`. -/
def cell (F : ℕ → ℕ → K) (r c : ℕ) (u w : K) : K :=
  linear (fun column => linear (fun row => F row column) r u) c w

section Cell

variable {F : ℕ → ℕ → K} {r r' c c' : ℕ} {u w lower upper : K}

/-- **Two squares agree** where they meet. -/
theorem cell_congr (hr : Within r u) (hr' : Within r' u) (hc : Within c w) (hc' : Within c' w) :
    cell F r c u w = cell F r' c' u w := by
  have hrows : (fun column => linear (fun row => F row column) r u) =
      fun column => linear (fun row => F row column) r' u := by
    funext column
    exact linear_congr hr hr'
  unfold cell
  rw [hrows]
  exact linear_congr hc hc'

theorem le_cell (hr : Within r u) (hc : Within c w) (h1 : lower ≤ F r c)
    (h2 : lower ≤ F r (c + 1)) (h3 : lower ≤ F (r + 1) c) (h4 : lower ≤ F (r + 1) (c + 1)) :
    lower ≤ cell F r c u w :=
  le_linear hc (le_linear hr h1 h3) (le_linear hr h2 h4)

theorem cell_le (hr : Within r u) (hc : Within c w) (h1 : F r c ≤ upper)
    (h2 : F r (c + 1) ≤ upper) (h3 : F (r + 1) c ≤ upper) (h4 : F (r + 1) (c + 1) ≤ upper) :
    cell F r c u w ≤ upper :=
  linear_le hc (linear_le hr h1 h3) (linear_le hr h2 h4)

/-- At a node the surface has its value. -/
theorem cell_node (hr : Within r (r' : K)) (hc : Within c (c' : K)) :
    cell F r c (r' : K) (c' : K) = F r' c' := by
  have hself : ∀ n : ℕ, Within n (n : K) := fun n => ⟨le_refl _, by linarith⟩
  rw [cell_congr hr (hself r') hc (hself c'), cell, linear_left, linear_left]

end Cell

end Lattice
