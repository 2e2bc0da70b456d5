import Mathlib.Tactic.Ring

/-!
# Bilinear surfaces

A value over two coordinates: a constant, two slopes and a twist about an origin.

* `eval`: the value at a point;
* `moveTo`: the same surface about another origin, `eval_moveTo`;
* `ofCoefficients`: a surface of which only the first coefficients are known.
-/

@[ext]
structure Bilinear (K : Type) where
  originX : K
  originY : K
  constant : K
  slopeX : K
  slopeY : K
  twist : K

namespace Bilinear

variable {K : Type} [CommRing K]

def eval (s : Bilinear K) (x y : K) : K :=
  s.constant + s.slopeX * (x - s.originX) + s.slopeY * (y - s.originY) +
    s.twist * (x - s.originX) * (y - s.originY)

def moveTo (s : Bilinear K) (x y : K) : Bilinear K where
  originX := x
  originY := y
  constant := s.eval x y
  slopeX := s.slopeX + s.twist * (y - s.originY)
  slopeY := s.slopeY + s.twist * (x - s.originX)
  twist := s.twist

/-- The surface does not depend on the origin. -/
@[simp] theorem eval_moveTo (s : Bilinear K) (x y u v : K) :
    (s.moveTo x y).eval u v = s.eval u v := by
  simp only [moveTo, eval]
  ring

/-- The constant, the slopes and the twist, in this order, as far as they are there. -/
def ofCoefficients (x y : K) (coefficients : List K) : Bilinear K :=
  ⟨x, y, coefficients.getD 0 0, coefficients.getD 1 0, coefficients.getD 2 0,
    coefficients.getD 3 0⟩

/-- A constant alone is a level surface. -/
@[simp] theorem eval_ofCoefficients_constant (x y c u v : K) :
    (ofCoefficients x y [c]).eval u v = c := by
  simp [ofCoefficients, eval]

end Bilinear
