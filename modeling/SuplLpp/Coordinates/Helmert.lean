import Mathlib
import SuplLpp.Coordinates.TransformGraph

/-!
# Helmert transformations between coordinate frames

Seven parameters and their rates turn a position in one frame into a position in another.  The
table has one direction of each pair of frames; the other direction takes the inverse of the
parameters and the inverse of the rates, as if the rates were parameters.  Numbers are exact
rationals here.

* `Helmert7Params` with `inverse`, `atEpoch`, `applyPosition` and `applyVelocity`;
* `rows`, the tables, and `params`; `bounded_rows`, how large their entries are;
* `Directions`: the two directions of a row, in vectors, and how large their parts are;
* `Directions.there_and_back` and `Directions.back_and_there`: after one another they lead back to
  within three micrometres, within forty years of the reference epoch and seven thousand kilometres.
-/

namespace SuplLpp.Coordinates

open Matrix

abbrev Vector3d := Fin 3 → ℚ

section Cross

variable (a b : Vector3d)

@[simp] theorem cross_apply_zero : (a ⨯₃ b) 0 = a 1 * b 2 - a 2 * b 1 := by simp [cross_apply]

@[simp] theorem cross_apply_one : (a ⨯₃ b) 1 = a 2 * b 0 - a 0 * b 2 := by simp [cross_apply]

@[simp] theorem cross_apply_two : (a ⨯₃ b) 2 = a 0 * b 1 - a 1 * b 0 := by simp [cross_apply]

end Cross

structure Helmert7Params where
  tx : ℚ
  ty : ℚ
  tz : ℚ
  rx : ℚ
  ry : ℚ
  rz : ℚ
  s : ℚ

namespace Helmert7Params

def mas2rad : ℚ := 4.84813681109536e-9

def mm2m : ℚ := 0.001

def ppb2unit : ℚ := 1e-9

/-- `apply_helmert7_impl`. -/
def applyPosition (params : Helmert7Params) (coords : Vector3d) : Vector3d :=
  let rx := params.rx * mas2rad
  let ry := params.ry * mas2rad
  let rz := params.rz * mas2rad
  let s := 1 + params.s * ppb2unit
  ![params.tx * mm2m + s * (coords 0 - rz * coords 1 + ry * coords 2),
    params.ty * mm2m + s * (rz * coords 0 + coords 1 - rx * coords 2),
    params.tz * mm2m + s * (-ry * coords 0 + rx * coords 1 + coords 2)]

/-- `apply_helmert7_velocity_impl`. -/
def applyVelocity (base rate : Helmert7Params) (position velocity : Vector3d) : Vector3d :=
  let rxBase := base.rx * mas2rad
  let ryBase := base.ry * mas2rad
  let rzBase := base.rz * mas2rad
  let sBase := 1 + base.s * ppb2unit
  let rxRate := rate.rx * mas2rad
  let ryRate := rate.ry * mas2rad
  let rzRate := rate.rz * mas2rad
  let sRate := rate.s * ppb2unit
  ![sBase * (velocity 0 - rzBase * velocity 1 + ryBase * velocity 2) + rate.tx * mm2m +
      sRate * (position 0 - rzBase * position 1 + ryBase * position 2) - rzRate * position 1 +
      ryRate * position 2,
    sBase * (rzBase * velocity 0 + velocity 1 - rxBase * velocity 2) + rate.ty * mm2m +
      sRate * (rzBase * position 0 + position 1 - rxBase * position 2) + rzRate * position 0 -
      rxRate * position 2,
    sBase * (-ryBase * velocity 0 + rxBase * velocity 1 + velocity 2) + rate.tz * mm2m +
      sRate * (-ryBase * position 0 + rxBase * position 1 + position 2) - ryRate * position 0 +
      rxRate * position 1]

/-- `transform_to_epoch`. -/
def atEpoch (base rate : Helmert7Params) (dt : ℚ) : Helmert7Params where
  tx := base.tx + rate.tx * dt
  ty := base.ty + rate.ty * dt
  tz := base.tz + rate.tz * dt
  rx := base.rx + rate.rx * dt
  ry := base.ry + rate.ry * dt
  rz := base.rz + rate.rz * dt
  s := base.s + rate.s * dt

def inverse (p : Helmert7Params) : Helmert7Params :=
  let s := 1 + p.s * ppb2unit
  let rxRad := p.rx * mas2rad
  let ryRad := p.ry * mas2rad
  let rzRad := p.rz * mas2rad
  let R : Matrix (Fin 3) (Fin 3) ℚ := !![1, -rzRad, ryRad; rzRad, 1, -rxRad; -ryRad, rxRad, 1]
  let t : Vector3d := ![p.tx * mm2m, p.ty * mm2m, p.tz * mm2m]
  let invT : Vector3d := s⁻¹ • -(Rᵀ *ᵥ t)
  { tx := invT 0 / mm2m, ty := invT 1 / mm2m, tz := invT 2 / mm2m
    rx := -p.rx, ry := -p.ry, rz := -p.rz, s := -p.s / s }

/-! ### In vectors -/

/-- The translation, in metres. -/
def translation (p : Helmert7Params) : Vector3d := ![p.tx * mm2m, p.ty * mm2m, p.tz * mm2m]

/-- The rotation, in radians. -/
def rotation (p : Helmert7Params) : Vector3d := ![p.rx * mas2rad, p.ry * mas2rad, p.rz * mas2rad]

/-- What the scale has more than one. -/
def scale (p : Helmert7Params) : ℚ := p.s * ppb2unit

theorem applyPosition_eq (p : Helmert7Params) (v : Vector3d) :
    p.applyPosition v = p.translation + (1 + p.scale) • (v + p.rotation ⨯₃ v) := by
  ext i
  fin_cases i <;> simp [applyPosition, translation, rotation, scale] <;> ring

section atEpoch

variable (base rate : Helmert7Params) (dt : ℚ)

theorem translation_atEpoch :
    (atEpoch base rate dt).translation = base.translation + dt • rate.translation := by
  ext i
  fin_cases i <;> simp [atEpoch, translation] <;> ring

theorem rotation_atEpoch :
    (atEpoch base rate dt).rotation = base.rotation + dt • rate.rotation := by
  ext i
  fin_cases i <;> simp [atEpoch, rotation] <;> ring

theorem scale_atEpoch : (atEpoch base rate dt).scale = base.scale + dt * rate.scale := by
  simp only [scale, atEpoch]
  ring

end atEpoch

theorem translation_inverse (p : Helmert7Params) :
    p.inverse.translation =
      (1 + p.scale)⁻¹ • -(p.translation - p.rotation ⨯₃ p.translation) := by
  have hmm : mm2m ≠ 0 := by norm_num [mm2m]
  ext i
  fin_cases i <;>
    simp [inverse, translation, rotation, scale, cross_apply, Matrix.mulVec, dotProduct,
      Fin.sum_univ_three, hmm] <;>
    left <;> ring

theorem rotation_inverse (p : Helmert7Params) : p.inverse.rotation = -p.rotation := by
  ext i
  fin_cases i <;> simp [inverse, rotation]

theorem scale_inverse (p : Helmert7Params) : p.inverse.scale = -(p.scale / (1 + p.scale)) := by
  simp only [inverse, scale]
  ring

end Helmert7Params

/-! ### The tables -/

structure TimeDependentHelmertParams where
  base : Helmert7Params
  rate : Helmert7Params
  referenceEpoch : ℚ

/-- A line of a table: the parameters from one frame to another. -/
structure TransformRow where
  fromFrame : FrameId
  toFrame : FrameId
  params : TimeDependentHelmertParams

/-- A line as the tables write it. -/
def row (fromFrame toFrame : FrameId) (referenceEpoch : ℚ)
    (t1 t2 t3 d r1 r2 r3 t1Rate t2Rate t3Rate dRate r1Rate r2Rate r3Rate : ℚ) : TransformRow where
  fromFrame := fromFrame
  toFrame := toFrame
  params :=
    { base := ⟨t1, t2, t3, r1, r2, r3, d⟩
      rate := ⟨t1Rate, t2Rate, t3Rate, r1Rate, r2Rate, r3Rate, dRate⟩
      referenceEpoch := referenceEpoch }

/-- From ITRF2020 to the ITRFs before it. -/
def itrf : List TransformRow :=
  [row .itrf2020 .itrf2014 2015 (-1.4) (-0.9) 1.4 (-0.42) 0 0 0 0 (-0.1) 0.2 0 0 0 0,
   row .itrf2020 .itrf2008 2015 0.2 1 3.3 (-0.29) 0 0 0 0 (-0.1) 0.1 0.03 0 0 0,
   row .itrf2020 .itrf2005 2015 2.7 0.1 (-1.4) 0.65 0 0 0 0.3 (-0.1) 0.1 0.03 0 0 0,
   row .itrf2020 .itrf2000 2015 (-0.2) 0.8 (-34.2) 2.25 0 0 0 0.1 0 (-1.7) 0.11 0 0 0,
   row .itrf2020 .itrf97 2015 6.5 (-3.9) (-77.9) 3.98 0 0 0.36 0.1 (-0.6) (-3.1) 0.12 0 0 0.02,
   row .itrf2020 .itrf96 2015 6.5 (-3.9) (-77.9) 3.98 0 0 0.36 0.1 (-0.6) (-3.1) 0.12 0 0 0.02,
   row .itrf2020 .itrf94 2015 6.5 (-3.9) (-77.9) 3.98 0 0 0.36 0.1 (-0.6) (-3.1) 0.12 0 0 0.02,
   row .itrf2020 .itrf93 2015 (-65.8) 1.9 (-71.3) 4.47 (-3.36) (-4.33) 0.75
     (-2.8) (-0.2) (-2.3) 0.12 (-0.11) (-0.19) 0.07,
   row .itrf2020 .itrf92 2015 14.5 (-1.9) (-85.9) 3.27 0 0 0.36 0.1 (-0.6) (-3.1) 0.12 0 0 0.02,
   row .itrf2020 .itrf91 2015 26.5 12.1 (-91.9) 4.67 0 0 0.36 0.1 (-0.6) (-3.1) 0.12 0 0 0.02,
   row .itrf2020 .itrf90 2015 24.5 8.1 (-107.9) 4.97 0 0 0.36 0.1 (-0.6) (-3.1) 0.12 0 0 0.02,
   row .itrf2020 .itrf89 2015 29.5 32.1 (-145.9) 8.37 0 0 0.36 0.1 (-0.6) (-3.1) 0.12 0 0 0.02,
   row .itrf2020 .itrf88 2015 24.5 (-3.9) (-169.9) 11.47 0.1 0 0.36
     0.1 (-0.6) (-3.1) 0.12 0 0 0.02]

/-- From an ITRF to the ETRF of the same year. -/
def itrfEtrf : List TransformRow :=
  [row .itrf2020 .etrf2020 1989 0 0 0 0 0 0 0 0 0 0 0 0.086 0.519 (-0.753),
   row .itrf2014 .etrf2014 1989 0 0 0 0 0 0 0 0 0 0 0 0.085 0.531 (-0.77),
   row .itrf2005 .etrf2005 1989 56 48 (-37) 0 0 0 0 0 0 0 0 0.054 0.518 (-0.781),
   row .itrf2000 .etrf2000 1989 54 51 (-48) 0 0 0 0 0 0 0 0 0.081 0.49 (-0.792),
   row .itrf97 .etrf97 1989 41 41 (-49) 0 0 0 0 0 0 0 0 0.2 0.5 (-0.65),
   row .itrf96 .etrf96 1989 41 41 (-49) 0 0 0 0 0 0 0 0 0.2 0.5 (-0.65),
   row .itrf94 .etrf94 1989 41 41 (-49) 0 0 0 0 0 0 0 0 0.2 0.5 (-0.65),
   row .itrf93 .etrf93 1989 19 53 (-21) 0 0 0 0 0 0 0 0 0.32 0.78 (-0.67),
   row .itrf92 .etrf92 1989 38 40 (-37) 0 0 0 0 0 0 0 0 0.21 0.52 (-0.68),
   row .itrf91 .etrf91 1989 21 25 (-37) 0 0 0 0 0 0 0 0 0.21 0.52 (-0.68),
   row .itrf90 .etrf90 1989 19 28 (-23) 0 0 0 0 0 0 0 0 0.11 0.57 (-0.71),
   row .itrf89 .etrf89 1989 0 0 0 0 0 0 0 0 0 0 0 0.11 0.57 (-0.71)]

/-- From the ITRFs to ETRF2000. -/
def itrfEtrf2000 : List TransformRow :=
  [row .itrf2020 .etrf2000 2015 53.8 51.8 (-82.2) 2.25 2.106 12.74 (-20.592)
     0.1 0 (-1.7) 0.11 0.081 0.49 (-0.792),
   row .itrf2014 .etrf2000 2015 55.2 52.7 (-83.6) 2.67 2.106 12.74 (-20.592)
     0.1 0.1 (-1.9) 0.11 0.081 0.49 (-0.792),
   row .itrf2008 .etrf2000 2015 53.6 50.8 (-85.5) 2.54 2.106 12.74 (-20.592)
     0.1 0.1 (-1.8) 0.08 0.081 0.49 (-0.792),
   row .itrf2005 .etrf2000 2015 51.1 51.7 (-80.8) 1.6 2.106 12.74 (-20.592)
     (-0.2) 0.1 (-1.8) 0.08 0.081 0.49 (-0.792),
   row .itrf97 .etrf2000 2015 47.3 55.7 (-4.3) (-1.73) 2.106 12.74 (-20.952)
     0 0.6 1.4 (-0.01) 0.081 0.49 (-0.812),
   row .itrf96 .etrf2000 2015 47.3 55.7 (-4.3) (-1.73) 2.106 12.74 (-20.952)
     0 0.6 1.4 (-0.01) 0.081 0.49 (-0.812),
   row .itrf94 .etrf2000 2015 47.3 55.7 (-4.3) (-1.73) 2.106 12.74 (-20.952)
     0 0.6 1.4 (-0.01) 0.081 0.49 (-0.812),
   row .itrf93 .etrf2000 2015 119.6 49.9 (-10.9) (-2.22) 5.466 17.07 (-21.342)
     2.9 0.2 0.6 (-0.01) 0.191 0.68 (-0.862),
   row .itrf92 .etrf2000 2015 39.3 53.7 3.7 (-1.02) 2.106 12.74 (-20.952)
     0 0.6 1.4 (-0.01) 0.081 0.49 (-0.812),
   row .itrf91 .etrf2000 2015 27.3 39.7 9.7 (-2.42) 2.106 12.74 (-20.952)
     0 0.6 1.4 (-0.01) 0.081 0.49 (-0.812),
   row .itrf90 .etrf2000 2015 29.3 43.7 25.7 (-2.72) 2.106 12.74 (-20.952)
     0 0.6 1.4 (-0.01) 0.081 0.49 (-0.812),
   row .itrf89 .etrf2000 2015 24.3 19.7 63.7 (-6.12) 2.106 12.74 (-20.952)
     0 0.6 1.4 (-0.01) 0.081 0.49 (-0.812)]

/-- From the ITRFs to ETRF2014. -/
def itrfEtrf2014 : List TransformRow :=
  [row .itrf2020 .etrf2014 2015 (-1.4) (-0.9) 1.4 (-0.42) 2.21 13.806 (-20.02)
     0 (-0.1) 0.2 0 0.085 0.531 (-0.77),
   row .itrf2008 .etrf2014 2015 (-1.6) (-1.9) (-1.9) (-0.13) 2.21 13.806 (-20.02)
     0 0 0.1 (-0.03) 0.085 0.531 (-0.77),
   row .itrf2005 .etrf2014 2015 (-4.1) (-1) 2.8 (-1.07) 2.21 13.806 (-20.02)
     (-0.3) 0 0.1 (-0.03) 0.085 0.531 (-0.77),
   row .itrf2000 .etrf2014 2015 (-1.2) (-1.7) 35.6 (-2.67) 2.21 13.806 (-20.02)
     (-0.1) (-0.1) 1.9 (-0.11) 0.085 0.531 (-0.77),
   row .itrf97 .etrf2014 2015 (-7.9) 3 79.3 (-4.4) 2.21 13.806 (-20.38)
     (-0.1) 0.5 3.3 (-0.12) 0.085 0.531 (-0.79),
   row .itrf96 .etrf2014 2015 (-7.9) 3 79.3 (-4.4) 2.21 13.806 (-20.38)
     (-0.1) 0.5 3.3 (-0.12) 0.085 0.531 (-0.79),
   row .itrf94 .etrf2014 2015 (-7.9) 3 79.3 (-4.4) 2.21 13.806 (-20.38)
     (-0.1) 0.5 3.3 (-0.12) 0.085 0.531 (-0.79),
   row .itrf93 .etrf2014 2015 64.4 (-2.8) 72.7 (-4.89) 5.57 18.136 (-20.77)
     2.8 0.1 2.5 (-0.12) 0.195 0.721 (-0.84),
   row .itrf92 .etrf2014 2015 (-15.9) 1 87.3 (-3.69) 2.21 13.806 (-20.38)
     (-0.1) 0.5 3.3 (-0.12) 0.085 0.531 (-0.79),
   row .itrf91 .etrf2014 2015 (-27.9) (-13) 93.3 (-5.09) 2.21 13.806 (-20.38)
     (-0.1) 0.5 3.3 (-0.12) 0.085 0.531 (-0.79),
   row .itrf90 .etrf2014 2015 (-25.9) (-9) 109.3 (-5.39) 2.21 13.806 (-20.38)
     (-0.1) 0.5 3.3 (-0.12) 0.085 0.531 (-0.79),
   row .itrf89 .etrf2014 2015 (-30.9) (-33) 147.3 (-8.79) 2.21 13.806 (-20.38)
     (-0.1) 0.5 3.3 (-0.12) 0.085 0.531 (-0.79)]

/-- From the ITRFs to ETRF2020. -/
def itrfEtrf2020 : List TransformRow :=
  [row .itrf2014 .etrf2020 2015 1.4 0.9 (-1.4) 0.42 2.236 13.494 (-19.578)
     0 0.1 (-0.2) 0 0.086 0.519 (-0.753),
   row .itrf2008 .etrf2020 2015 (-0.2) (-1) (-3.3) 0.29 2.236 13.494 (-19.578)
     0 0.1 (-0.1) (-0.03) 0.086 0.519 (-0.753),
   row .itrf2005 .etrf2020 2015 (-2.7) (-0.1) 1.4 (-0.65) 2.236 13.494 (-19.578)
     (-0.3) 0.1 (-0.1) (-0.03) 0.086 0.519 (-0.753),
   row .itrf2000 .etrf2020 2015 0.2 (-0.8) 34.2 (-2.25) 2.236 13.494 (-19.578)
     (-0.1) 0 1.7 (-0.11) 0.086 0.519 (-0.753),
   row .itrf97 .etrf2020 2015 (-6.5) 3.9 77.9 (-3.98) 2.236 13.494 (-19.938)
     (-0.1) 0.6 3.1 (-0.12) 0.086 0.519 (-0.773),
   row .itrf96 .etrf2020 2015 (-6.5) 3.9 77.9 (-3.98) 2.236 13.494 (-19.938)
     (-0.1) 0.6 3.1 (-0.12) 0.086 0.519 (-0.773),
   row .itrf94 .etrf2020 2015 (-6.5) 3.9 77.9 (-3.98) 2.236 13.494 (-19.938)
     (-0.1) 0.6 3.1 (-0.12) 0.086 0.519 (-0.773),
   row .itrf93 .etrf2020 2015 65.8 (-1.9) 71.3 (-4.47) 5.596 17.824 (-20.328)
     2.8 0.2 2.3 (-0.12) 0.196 0.709 (-0.823),
   row .itrf92 .etrf2020 2015 (-14.5) 1.9 85.9 (-3.27) 2.236 13.494 (-19.938)
     (-0.1) 0.6 3.1 (-0.12) 0.086 0.519 (-0.773),
   row .itrf91 .etrf2020 2015 (-26.5) (-12.1) 91.9 (-4.67) 2.236 13.494 (-19.938)
     (-0.1) 0.6 3.1 (-0.12) 0.086 0.519 (-0.773),
   row .itrf90 .etrf2020 2015 (-24.5) (-8.1) 107.9 (-4.97) 2.236 13.494 (-19.938)
     (-0.1) 0.6 3.1 (-0.12) 0.086 0.519 (-0.773),
   row .itrf89 .etrf2020 2015 (-29.5) (-32.1) 145.9 (-8.37) 2.236 13.494 (-19.938)
     (-0.1) 0.6 3.1 (-0.12) 0.086 0.519 (-0.773)]

def rows : List TransformRow := itrf ++ itrfEtrf ++ itrfEtrf2000 ++ itrfEtrf2014 ++ itrfEtrf2020

/-- The parameters for the way back. -/
def TimeDependentHelmertParams.inverse (p : TimeDependentHelmertParams) :
    TimeDependentHelmertParams where
  base := p.base.inverse
  rate := p.rate.inverse
  referenceEpoch := p.referenceEpoch

/-- `TimeDependentHelmertTransform`: one direction is in the tables. -/
def params (fromFrame toFrame : FrameId) : Option TimeDependentHelmertParams :=
  match rows.find? fun r => r.fromFrame = fromFrame ∧ r.toFrame = toFrame with
  | some r => some r.params
  | none =>
      (rows.find? fun r => r.fromFrame = toFrame ∧ r.toFrame = fromFrame).map (·.params.inverse)

/-- The bounds of the tables: millimetres, milliarcseconds and parts per billion, and these in a
year. -/
def Helmert7Params.Bounded (t r s : ℚ) (p : Helmert7Params) : Prop :=
  (|p.tx| ≤ t ∧ |p.ty| ≤ t ∧ |p.tz| ≤ t) ∧ (|p.rx| ≤ r ∧ |p.ry| ≤ r ∧ |p.rz| ≤ r) ∧ |p.s| ≤ s

instance (t r s : ℚ) (p : Helmert7Params) : Decidable (p.Bounded t r s) :=
  inferInstanceAs (Decidable (_ ∧ _))

theorem bounded_rows :
    ∀ r ∈ rows, r.params.base.Bounded 170 21.4 11.5 ∧ r.params.rate.Bounded 3.3 0.87 0.12 := by
  decide +kernel

/-! ### There and back -/

/-- No coordinate is larger than `B`. -/
def Within (B : ℚ) (v : Vector3d) : Prop := ∀ i, |v i| ≤ B

section Within

variable {A B C : ℚ} {v w : Vector3d}

theorem Within.mono (hv : Within A v) (h : A ≤ B) : Within B v := fun i => (hv i).trans h

theorem Within.nonneg (hv : Within A v) : 0 ≤ A := (abs_nonneg (v 0)).trans (hv 0)

theorem Within.add (hv : Within A v) (hw : Within B w) : Within (A + B) (v + w) :=
  fun i => (abs_add_le (v i) (w i)).trans (add_le_add (hv i) (hw i))

theorem Within.sub (hv : Within A v) (hw : Within B w) : Within (A + B) (v - w) :=
  fun i => (abs_sub (v i) (w i)).trans (add_le_add (hv i) (hw i))

theorem Within.smul {a : ℚ} (ha : |a| ≤ A) (hv : Within B v) : Within (A * B) (a • v) := by
  intro i
  rw [Pi.smul_apply, smul_eq_mul, abs_mul]
  exact mul_le_mul ha (hv i) (abs_nonneg _) ((abs_nonneg a).trans ha)

theorem Within.cross (hv : Within A v) (hw : Within B w) : Within (2 * (A * B)) (v ⨯₃ w) := by
  have hmul : ∀ i j, |v i * w j| ≤ A * B := fun i j => by
    rw [abs_mul]
    exact mul_le_mul (hv i) (hw j) (abs_nonneg _) hv.nonneg
  have hsub : ∀ i j k l, |v i * w j - v k * w l| ≤ 2 * (A * B) := fun i j k l => by
    calc |v i * w j - v k * w l| ≤ |v i * w j| + |v k * w l| := abs_sub _ _
      _ ≤ A * B + A * B := add_le_add (hmul i j) (hmul k l)
      _ = 2 * (A * B) := by ring
  intro i
  fin_cases i
  · simpa using hsub 1 2 2 1
  · simpa using hsub 2 0 0 2
  · simpa using hsub 0 1 1 0

end Within

namespace Helmert7Params

section Bounded

variable {t r s : ℚ} {p : Helmert7Params}

theorem Bounded.translation (h : p.Bounded t r s) : Within (t * mm2m) p.translation := by
  obtain ⟨⟨hx, hy, hz⟩, -, -⟩ := h
  have hmul : ∀ a : ℚ, |a| ≤ t → |a * mm2m| ≤ t * mm2m := fun a ha => by
    rw [abs_mul, abs_of_nonneg (by norm_num [mm2m] : 0 ≤ mm2m)]
    exact mul_le_mul_of_nonneg_right ha (by norm_num [mm2m])
  intro i
  fin_cases i
  · exact hmul _ hx
  · exact hmul _ hy
  · exact hmul _ hz

theorem Bounded.rotation (h : p.Bounded t r s) : Within (r * mas2rad) p.rotation := by
  obtain ⟨-, ⟨hx, hy, hz⟩, -⟩ := h
  have hmul : ∀ a : ℚ, |a| ≤ r → |a * mas2rad| ≤ r * mas2rad := fun a ha => by
    rw [abs_mul, abs_of_nonneg (by norm_num [mas2rad] : 0 ≤ mas2rad)]
    exact mul_le_mul_of_nonneg_right ha (by norm_num [mas2rad])
  intro i
  fin_cases i
  · exact hmul _ hx
  · exact hmul _ hy
  · exact hmul _ hz

theorem Bounded.scale (h : p.Bounded t r s) : |p.scale| ≤ s * ppb2unit := by
  rw [Helmert7Params.scale, abs_mul, abs_of_nonneg (by norm_num [ppb2unit] : 0 ≤ ppb2unit)]
  exact mul_le_mul_of_nonneg_right h.2.2 (by norm_num [ppb2unit])

end Bounded

/-- What is left of a position after both ways: `β` and `ρ` are what the inverse scales have less
than one. -/
theorem there_and_back_sub (T₀ T₁ ω₀ ω₁ ω x : Vector3d) (β ρ σ dt : ℚ) :
    (1 - β) • -(T₀ - ω₀ ⨯₃ T₀) + dt • (1 - ρ) • -(T₁ - ω₁ ⨯₃ T₁) +
        (1 - β - dt * ρ) • (T₀ + dt • T₁ + (1 + σ) • (x + ω ⨯₃ x) -
          ω ⨯₃ (T₀ + dt • T₁ + (1 + σ) • (x + ω ⨯₃ x))) - x =
      -(dt * ρ) • T₀ + (dt * (ρ - β - dt * ρ)) • T₁ + (1 - β) • ω₀ ⨯₃ T₀ +
        (dt * (1 - ρ)) • ω₁ ⨯₃ T₁ - (1 - β - dt * ρ) • ω ⨯₃ (T₀ + dt • T₁) +
        ((1 - β - dt * ρ) * (1 + σ) - 1) • (x - ω ⨯₃ (ω ⨯₃ x)) - ω ⨯₃ (ω ⨯₃ x) := by
  simp only [map_add, map_smul]
  module

/-- Likewise with the way back first. -/
theorem back_and_there_sub (T₀ T₁ ω₀ ω₁ ω x : Vector3d) (β ρ σ dt : ℚ) :
    T₀ + dt • T₁ + (1 + σ) • ((1 - β) • -(T₀ - ω₀ ⨯₃ T₀) + dt • (1 - ρ) • -(T₁ - ω₁ ⨯₃ T₁) +
          (1 - β - dt * ρ) • (x - ω ⨯₃ x) +
        ω ⨯₃ ((1 - β) • -(T₀ - ω₀ ⨯₃ T₀) + dt • (1 - ρ) • -(T₁ - ω₁ ⨯₃ T₁) +
          (1 - β - dt * ρ) • (x - ω ⨯₃ x))) - x =
      (β * (1 + σ) - σ) • T₀ + (dt * (ρ * (1 + σ) - σ)) • T₁ +
        ((1 + σ) * (1 - β)) • ω₀ ⨯₃ T₀ + (dt * ((1 + σ) * (1 - ρ))) • ω₁ ⨯₃ T₁ -
        ((1 + σ) * (1 - β)) • ω ⨯₃ (T₀ - ω₀ ⨯₃ T₀) -
        (dt * ((1 + σ) * (1 - ρ))) • ω ⨯₃ (T₁ - ω₁ ⨯₃ T₁) +
        ((1 - β - dt * ρ) * (1 + σ) - 1) • (x - ω ⨯₃ (ω ⨯₃ x)) - ω ⨯₃ (ω ⨯₃ x) := by
  simp only [map_add, map_sub, map_smul, map_neg]
  module

theorem abs_mul_le {a b A B : ℚ} (ha : |a| ≤ A) (hb : |b| ≤ B) : |a * b| ≤ A * B := by
  rw [abs_mul]
  exact mul_le_mul ha hb (abs_nonneg b) ((abs_nonneg a).trans ha)

/-- What an inverse scale has less than one. -/
theorem abs_div_one_add_le {σ S : ℚ} (h : |σ| ≤ S) (hS : S ≤ 1 / 2) :
    |σ / (1 + σ)| ≤ 2 * S := by
  have hσ := abs_le.1 (h.trans hS)
  have hpos : 1 / 2 ≤ 1 + σ := by linarith
  rw [abs_div, abs_of_pos (by linarith : 0 < 1 + σ), div_le_iff₀ (by linarith)]
  nlinarith [abs_nonneg σ]

/-- An inverse scale. -/
theorem inv_one_add {σ : ℚ} (h : |σ| ≤ 0.1) : (1 + σ)⁻¹ = 1 - σ / (1 + σ) := by
  have := abs_le.1 h
  have hne : 1 + σ ≠ 0 := (by linarith : 0 < 1 + σ).ne'
  field_simp
  ring

theorem abs_one_sub_le {a : ℚ} (h : |a| ≤ 0.1) : |1 - a| ≤ 1.1 := by
  have := abs_le.1 h
  exact abs_le.2 ⟨by linarith, by linarith⟩

end Helmert7Params

/-- The two directions of a line of the tables in vectors, and how large the parts are. -/
structure Directions (p : TimeDependentHelmertParams) (dt : ℚ) (T₀ T₁ ω₀ ω₁ : Vector3d)
    (β ρ σ : ℚ) : Prop where
  there : ∀ x, (Helmert7Params.atEpoch p.base p.rate dt).applyPosition x =
    T₀ + dt • T₁ + (1 + σ) • (x + (ω₀ + dt • ω₁) ⨯₃ x)
  back : ∀ x, (Helmert7Params.atEpoch p.inverse.base p.inverse.rate dt).applyPosition x =
    (1 - β) • -(T₀ - ω₀ ⨯₃ T₀) + dt • (1 - ρ) • -(T₁ - ω₁ ⨯₃ T₁) +
      (1 - β - dt * ρ) • (x - (ω₀ + dt • ω₁) ⨯₃ x)
  translation : Within 0.17 T₀
  translationRate : Within 0.0033 T₁
  rotation : Within 1.04e-7 ω₀
  rotationRate : Within 4.3e-9 ω₁
  turned : Within 2.76e-7 (ω₀ + dt • ω₁)
  scale : |σ| ≤ 1.7e-8
  inverseScale : |β| ≤ 2.3e-8
  inverseScaleRate : |ρ| ≤ 2.4e-10
  /-- Everything that is of first order cancels. -/
  scales : |(1 - β - dt * ρ) * (1 + σ) - 1| ≤ 1e-15

open Helmert7Params in
theorem directions {p : TimeDependentHelmertParams} (hbase : p.base.Bounded 170 21.4 11.5)
    (hrate : p.rate.Bounded 3.3 0.87 0.12) {dt : ℚ} (hdt : |dt| ≤ 40) :
    ∃ T₀ T₁ ω₀ ω₁ β ρ σ, Directions p dt T₀ T₁ ω₀ ω₁ β ρ σ := by
  set T₀ := p.base.translation with hT₀
  set T₁ := p.rate.translation with hT₁
  set ω₀ := p.base.rotation with hω₀
  set ω₁ := p.rate.rotation with hω₁
  set σ₀ := p.base.scale with hσ₀
  set σ₁ := p.rate.scale with hσ₁
  set β := σ₀ / (1 + σ₀) with hβ
  set ρ := σ₁ / (1 + σ₁) with hρ
  have hω₀le : Within 1.04e-7 ω₀ := hbase.rotation.mono (by norm_num [mas2rad])
  have hω₁le : Within 4.3e-9 ω₁ := hrate.rotation.mono (by norm_num [mas2rad])
  have hσ₀le : |σ₀| ≤ 1.15e-8 := hbase.scale.trans (by norm_num [ppb2unit])
  have hσ₁le : |σ₁| ≤ 1.2e-10 := hrate.scale.trans (by norm_num [ppb2unit])
  have hβle : |β| ≤ 2.3e-8 := (abs_div_one_add_le hσ₀le (by norm_num)).trans (by norm_num)
  have hρle : |ρ| ≤ 2.4e-10 := (abs_div_one_add_le hσ₁le (by norm_num)).trans (by norm_num)
  have hne₀ : 1 + σ₀ ≠ 0 := by
    have := abs_le.1 hσ₀le
    exact (by linarith : 0 < 1 + σ₀).ne'
  have hne₁ : 1 + σ₁ ≠ 0 := by
    have := abs_le.1 hσ₁le
    exact (by linarith : 0 < 1 + σ₁).ne'
  have hscales : (1 - β - dt * ρ) * (1 + (σ₀ + dt * σ₁)) - 1 =
      dt * (ρ * σ₁) - dt * (β * σ₁ + ρ * σ₀) - dt * (dt * (ρ * σ₁)) := by
    rw [hβ, hρ]
    field_simp
    ring
  have hinv₀ : (1 + σ₀)⁻¹ = 1 - β := inv_one_add (hσ₀le.trans (by norm_num))
  have hinv₁ : (1 + σ₁)⁻¹ = 1 - ρ := inv_one_add (hσ₁le.trans (by norm_num))
  have hrotation : (atEpoch p.inverse.base p.inverse.rate dt).rotation = -(ω₀ + dt • ω₁) := by
    rw [rotation_atEpoch, TimeDependentHelmertParams.inverse, rotation_inverse, rotation_inverse,
      smul_neg, neg_add]
  have htranslation : (atEpoch p.inverse.base p.inverse.rate dt).translation =
      (1 - β) • -(T₀ - ω₀ ⨯₃ T₀) + dt • (1 - ρ) • -(T₁ - ω₁ ⨯₃ T₁) := by
    rw [translation_atEpoch, TimeDependentHelmertParams.inverse, translation_inverse,
      translation_inverse, ← hinv₀, ← hinv₁]
  have hscale : 1 + (atEpoch p.inverse.base p.inverse.rate dt).scale = 1 - β - dt * ρ := by
    rw [scale_atEpoch, TimeDependentHelmertParams.inverse, scale_inverse, scale_inverse]
    ring
  refine ⟨T₀, T₁, ω₀, ω₁, β, ρ, σ₀ + dt * σ₁, ?_, ?_, hbase.translation.mono (by norm_num [mm2m]),
    hrate.translation.mono (by norm_num [mm2m]), hω₀le, hω₁le,
    (hω₀le.add (hω₁le.smul hdt)).mono (by norm_num), ?_, hβle, hρle, ?_⟩
  · intro x
    rw [applyPosition_eq, translation_atEpoch, rotation_atEpoch, scale_atEpoch]
  · intro x
    rw [applyPosition_eq, hrotation, htranslation, hscale, map_neg, LinearMap.neg_apply,
      ← sub_eq_add_neg]
  · calc _ ≤ _ := (abs_add_le _ _).trans (add_le_add hσ₀le (abs_mul_le hdt hσ₁le))
      _ ≤ 1.7e-8 := by norm_num
  · rw [hscales]
    have h₁ := abs_mul_le hdt (abs_mul_le hρle hσ₁le)
    have h₂ := abs_mul_le hdt ((abs_add_le _ _).trans
      (add_le_add (abs_mul_le hβle hσ₁le) (abs_mul_le hρle hσ₀le)))
    have h₃ := abs_mul_le hdt h₁
    calc _ ≤ _ := (abs_sub _ _).trans (add_le_add ((abs_sub _ _).trans (add_le_add h₁ h₂)) h₃)
      _ ≤ 1e-15 := by norm_num

section Directions

variable {p : TimeDependentHelmertParams} {dt β ρ σ : ℚ} {T₀ T₁ ω₀ ω₁ : Vector3d}

open Helmert7Params

/-- The part of a position that is of second order in the rotation. -/
theorem Directions.turned_twice (h : Directions p dt T₀ T₁ ω₀ ω₁ β ρ σ) {x : Vector3d}
    (hx : Within 7000000 x) :
    Within 2.14e-6 ((ω₀ + dt • ω₁) ⨯₃ ((ω₀ + dt • ω₁) ⨯₃ x)) :=
  (h.turned.cross (h.turned.cross hx)).mono (by norm_num)

theorem Directions.there_and_back (h : Directions p dt T₀ T₁ ω₀ ω₁ β ρ σ) (hdt : |dt| ≤ 40)
    {x : Vector3d} (hx : Within 7000000 x) :
    Within 3e-6 ((atEpoch p.inverse.base p.inverse.rate dt).applyPosition
      ((atEpoch p.base p.rate dt).applyPosition x) - x) := by
  have hβ := h.inverseScale
  have hρ := h.inverseScaleRate
  have hdtρ : |dt * ρ| ≤ 9.6e-9 := (abs_mul_le hdt hρ).trans (by norm_num)
  have hone : |1 - β| ≤ 1.1 := abs_one_sub_le (hβ.trans (by norm_num))
  have honeρ : |1 - ρ| ≤ 1.1 := abs_one_sub_le (hρ.trans (by norm_num))
  have hone' : |1 - β - dt * ρ| ≤ 1.1 := by
    have := abs_le.1 hβ
    have := abs_le.1 hdtρ
    exact abs_le.2 ⟨by linarith, by linarith⟩
  have hdiff : |ρ - β - dt * ρ| ≤ 3.3e-8 := by
    have := abs_le.1 hβ
    have := abs_le.1 hρ
    have := abs_le.1 hdtρ
    exact abs_le.2 ⟨by linarith, by linarith⟩
  have hT : Within 0.302 (T₀ + dt • T₁) :=
    (h.translation.add (h.translationRate.smul hdt)).mono (by norm_num)
  have hωωx := h.turned_twice hx
  rw [h.back, h.there, there_and_back_sub]
  have h₁ := h.translation.smul ((abs_neg _).trans_le hdtρ)
  have h₂ := h.translationRate.smul (abs_mul_le hdt hdiff)
  have h₃ := (h.rotation.cross h.translation).smul hone
  have h₄ := (h.rotationRate.cross h.translationRate).smul (abs_mul_le hdt honeρ)
  have h₅ := (h.turned.cross hT).smul hone'
  have h₆ := (hx.sub hωωx).smul h.scales
  exact ((((((h₁.add h₂).add h₃).add h₄).sub h₅).add h₆).sub hωωx).mono (by norm_num)

theorem Directions.back_and_there (h : Directions p dt T₀ T₁ ω₀ ω₁ β ρ σ) (hdt : |dt| ≤ 40)
    {x : Vector3d} (hx : Within 7000000 x) :
    Within 3e-6 ((atEpoch p.base p.rate dt).applyPosition
      ((atEpoch p.inverse.base p.inverse.rate dt).applyPosition x) - x) := by
  have hσ := abs_le.1 h.scale
  have hone : |1 + σ| ≤ 1.1 := abs_le.2 ⟨by linarith, by linarith⟩
  have honeβ : |1 - β| ≤ 1.1 := abs_one_sub_le (h.inverseScale.trans (by norm_num))
  have honeρ : |1 - ρ| ≤ 1.1 := abs_one_sub_le (h.inverseScaleRate.trans (by norm_num))
  have hdiff : |β * (1 + σ) - σ| ≤ 4.3e-8 :=
    ((abs_sub _ _).trans (add_le_add (abs_mul_le h.inverseScale hone) h.scale)).trans
      (by norm_num)
  have hdiffρ : |ρ * (1 + σ) - σ| ≤ 1.8e-8 :=
    ((abs_sub _ _).trans (add_le_add (abs_mul_le h.inverseScaleRate hone) h.scale)).trans
      (by norm_num)
  have hrotated : Within 3.6e-8 (ω₀ ⨯₃ T₀) :=
    (h.rotation.cross h.translation).mono (by norm_num)
  have hrotatedRate : Within 2.9e-11 (ω₁ ⨯₃ T₁) :=
    (h.rotationRate.cross h.translationRate).mono (by norm_num)
  have hωωx := h.turned_twice hx
  rw [h.there, h.back, back_and_there_sub]
  have h₁ := h.translation.smul hdiff
  have h₂ := h.translationRate.smul (abs_mul_le hdt hdiffρ)
  have h₃ := hrotated.smul (abs_mul_le hone honeβ)
  have h₄ := hrotatedRate.smul (abs_mul_le hdt (abs_mul_le hone honeρ))
  have h₅ := (h.turned.cross (h.translation.sub hrotated)).smul (abs_mul_le hone honeβ)
  have h₆ := (h.turned.cross (h.translationRate.sub hrotatedRate)).smul
    (abs_mul_le hdt (abs_mul_le hone honeρ))
  have h₇ := (hx.sub hωωx).smul h.scales
  exact (((((((h₁.add h₂).add h₃).add h₄).sub h₅).sub h₆).add h₇).sub hωωx).mono (by norm_num)

end Directions

end SuplLpp.Coordinates
