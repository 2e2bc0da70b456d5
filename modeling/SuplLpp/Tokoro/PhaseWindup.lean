import Mathlib.Analysis.SpecialFunctions.Complex.Arg
import SuplLpp.Lib.Frame

/-!
# Phase wind-up

The antenna frames of a satellite and of a receiver, and the turns of the carrier that follow
from them, over the real numbers.

* `Float3` and its operations, as the source has them, and the vector that one stands for;
* `computeSatelliteAntennaBasisSun`, `…Velocity`, `…Yaw` and `computeReceiverAntennaBasis`;
* `phaseWindupFromBasis` and `modelPhaseWindup`;
* `computeSatelliteAntennaBasisSun_frame`, `…Velocity_frame`, `…Yaw_frame`: what frames they are;
* `modelPhaseWindup_geometry`: what holds of every wind-up whose normalisations succeed.
-/

namespace SuplLpp.Windup

noncomputable section

open Matrix Frame

/-! ### Vectors -/

@[ext] structure Float3 where
  x : ℝ
  y : ℝ
  z : ℝ

namespace Float3

instance : Add Float3 := ⟨fun a b => ⟨a.x + b.x, a.y + b.y, a.z + b.z⟩⟩
instance : Sub Float3 := ⟨fun a b => ⟨a.x - b.x, a.y - b.y, a.z - b.z⟩⟩
instance : HMul ℝ Float3 Float3 := ⟨fun a b => ⟨a * b.x, a * b.y, a * b.z⟩⟩
instance : HMul Float3 ℝ Float3 := ⟨fun a b => ⟨a.x * b, a.y * b, a.z * b⟩⟩

theorem add_def (a b : Float3) : a + b = ⟨a.x + b.x, a.y + b.y, a.z + b.z⟩ := rfl
theorem sub_def (a b : Float3) : a - b = ⟨a.x - b.x, a.y - b.y, a.z - b.z⟩ := rfl
theorem mul_def (c : ℝ) (a : Float3) : c * a = ⟨c * a.x, c * a.y, c * a.z⟩ := rfl

def lengthSquared (a : Float3) : ℝ := a.x * a.x + a.y * a.y + a.z * a.z

def length (a : Float3) : ℝ := √a.lengthSquared

/-- `normalize`; no value where it returns `false`. -/
def normalize (a : Float3) : Option Float3 :=
  let l := a.length
  if l < 1 / 10 ^ 12 then none else some ⟨a.x / l, a.y / l, a.z / l⟩

end Float3

def crossProduct (a b : Float3) : Float3 where
  x := a.y * b.z - a.z * b.y
  y := a.z * b.x - a.x * b.z
  z := a.x * b.y - a.y * b.x

def dotProduct (a b : Float3) : ℝ := a.x * b.x + a.y * b.y + a.z * b.z

/-! ### Antenna frames -/

structure Basis where
  x : Float3
  y : Float3
  z : Float3

/-- `EARTH_ANGULAR_VELOCITY`. -/
def earthAngularVelocity : ℝ := 7.2921151467 / 10 ^ 5

/-- `compute_satellite_antenna_basis_sun`. -/
def computeSatelliteAntennaBasisSun (satellitePosition sunPosition : Float3) : Option Basis := do
  let sz ← ((-1.0 : ℝ) * satellitePosition).normalize
  let e ← (sunPosition - satellitePosition).normalize
  let sy ← (crossProduct sz e).normalize
  let sx ← (crossProduct sy sz).normalize
  some ⟨sx, sy, sz⟩

/-- The velocity that both the frame of the velocity and that of the yaw angle start from. -/
def rotatedVelocity (satellitePosition satelliteVelocity : Float3) : Float3 :=
  satelliteVelocity +
    earthAngularVelocity * (⟨-satellitePosition.x, satellitePosition.y, 0.0⟩ : Float3)

/-- `compute_satellite_antenna_basis_velocity`. -/
def computeSatelliteAntennaBasisVelocity
    (groundPosition satellitePosition satelliteVelocity : Float3) : Option Basis := do
  let sz ← satellitePosition.normalize
  let sz := (-1.0 : ℝ) * sz
  let _ ← (groundPosition - satellitePosition).normalize
  let e ← (rotatedVelocity satellitePosition satelliteVelocity).normalize
  let sy ← (crossProduct sz e).normalize
  let sx ← (crossProduct sy sz).normalize
  some ⟨sx, sy, sz⟩

/-- `atan2` of the standard library. -/
def atan2 (y x : ℝ) : ℝ := Complex.arg ⟨x, y⟩

/-- `satellite_yaw_angle`. -/
def satelliteYawAngle (beta mu : ℝ) : ℝ :=
  if |beta| < 1 / 10 ^ 12 ∧ |mu| < 1 / 10 ^ 12 then Real.pi
  else atan2 (-Real.tan beta) (Real.sin mu) + Real.pi

/-- The angle of the satellite in its orbit, from the midnight point. -/
def orbitAngle (satelliteUnit sunUnit p : Float3) : ℝ :=
  let e := Real.arccos (dotProduct satelliteUnit p)
  let mu := if dotProduct satelliteUnit sunUnit ≤ 0 then Real.pi / 2 - e else Real.pi / 2 + e
  let mu := if mu < -Real.pi then mu + 2 * Real.pi else mu
  if Real.pi ≤ mu then mu - 2 * Real.pi else mu

/-- `compute_satellite_antenna_basis_yaw`, with the position of the sun at the emission time. -/
def computeSatelliteAntennaBasisYaw (sunPosition satellitePosition satelliteVelocity : Float3) :
    Option Basis := do
  let satelliteUnit ← satellitePosition.normalize
  let sunUnit ← sunPosition.normalize
  let velocity := rotatedVelocity satellitePosition satelliteVelocity
  let n := crossProduct satellitePosition velocity
  let p := crossProduct sunPosition n
  let n ← n.normalize
  let p ← p.normalize
  let b := Real.pi / 2 - Real.arccos (dotProduct sunUnit n)
  let mu := orbitAngle satelliteUnit sunUnit p
  let yaw := satelliteYawAngle b mu
  let k ← (crossProduct n satelliteUnit).normalize
  let cosYaw := Real.cos yaw
  let sinYaw := Real.sin yaw
  let rx : Float3 := ⟨-sinYaw * k.x + cosYaw * n.x, -sinYaw * k.y + cosYaw * n.y,
    -sinYaw * k.z + cosYaw * n.z⟩
  let ry : Float3 := ⟨-cosYaw * k.x - sinYaw * n.x, -cosYaw * k.y - sinYaw * n.y,
    -cosYaw * k.z - sinYaw * n.z⟩
  let rz ← (crossProduct rx ry).normalize
  some ⟨rx, ry, rz⟩

/-- The east and north of `enu_basis_from_llh`. -/
def enuBasisFromLlh (llh : Float3) : Float3 × Float3 :=
  let lat := llh.x
  let lon := llh.y
  (⟨-Real.sin lon, Real.cos lon, 0.0⟩,
    ⟨-Real.sin lat * Real.cos lon, -Real.sin lat * Real.sin lon, Real.cos lat⟩)

/-- `compute_receiver_antenna_basis`. -/
def computeReceiverAntennaBasis (groundPositionLlh : Float3) : Option Basis := do
  let (rx, ry) := enuBasisFromLlh groundPositionLlh
  let rz ← (crossProduct rx ry).normalize
  some ⟨rx, ry, rz⟩

/-! ### Wind-up -/

/-- The satellite's dipole of `phase_windup_from_basis`, seen along the line of sight. -/
def satelliteDipole (k sx sy : Float3) : Float3 :=
  sx - k * dotProduct k sx - crossProduct k sy

/-- The receiver's dipole of `phase_windup_from_basis`. -/
def receiverDipole (k rx ry : Float3) : Float3 :=
  rx - k * dotProduct k rx + crossProduct k ry

/-- `phase_windup_from_basis`. -/
def phaseWindupFromBasis (trueLineOfSight sx sy rx ry : Float3) (prevPhw : ℝ) : ℝ :=
  match trueLineOfSight.normalize with
  | none => 0
  | some k =>
    let sd := satelliteDipole k sx sy
    let rd := receiverDipole k rx ry
    let zeta := dotProduct (crossProduct sd rd) k
    -- where a dipole vanishes, this is not a number in the source
    let cosp := dotProduct sd rd / (rd.length * sd.length)
    let cosp := if cosp < -1 then -1 else cosp
    let cosp := if 1 < cosp then 1 else cosp
    let ph := Real.arccos cosp / (2 * Real.pi)
    let ph := if zeta < 0 then -ph else ph
    ph + ⌊prevPhw - ph + 1 / 2⌋

structure PhaseWindup where
  correctionSun : ℝ
  correctionVelocity : ℝ
  correctionAngle : ℝ
  valid : Bool

/-- The satellite, the receiver and the sun at one time. -/
structure Scene where
  truePosition : Float3
  trueVelocity : Float3
  trueLineOfSight : Float3
  groundPositionEcef : Float3
  groundPositionLlh : Float3
  sun : Float3

/-- The frames that `model_phase_windup` computes. -/
structure Frames where
  sun : Basis
  velocity : Basis
  angle : Basis
  receiver : Basis

def Scene.frames (s : Scene) : Option Frames := do
  let sun ← computeSatelliteAntennaBasisSun s.truePosition s.sun
  let velocity ← computeSatelliteAntennaBasisVelocity s.groundPositionEcef s.truePosition
    s.trueVelocity
  let angle ← computeSatelliteAntennaBasisYaw s.sun s.truePosition s.trueVelocity
  let receiver ← computeReceiverAntennaBasis s.groundPositionLlh
  some ⟨sun, velocity, angle, receiver⟩

/-- `model_phase_windup`, with the position of the sun at the time. -/
def modelPhaseWindup (s : Scene) (previousWindup : PhaseWindup) : PhaseWindup :=
  match s.frames with
  | none => ⟨0, 0, 0, false⟩
  | some f =>
    let prev (correction : ℝ) : ℝ := if previousWindup.valid then correction else 0
    { correctionSun := phaseWindupFromBasis s.trueLineOfSight f.sun.x f.sun.y f.receiver.x
        f.receiver.y (prev previousWindup.correctionSun)
      correctionVelocity := phaseWindupFromBasis s.trueLineOfSight f.velocity.x f.velocity.y
        f.receiver.x f.receiver.y (prev previousWindup.correctionVelocity)
      correctionAngle := phaseWindupFromBasis s.trueLineOfSight f.angle.x f.angle.y f.receiver.x
        f.receiver.y (prev previousWindup.correctionAngle)
      valid := true }

/-! ### What the frames and the wind-up are for -/

/-- The vector of three coordinates. -/
def Float3.vec (a : Float3) : Fin 3 → ℝ := ![a.x, a.y, a.z]

def Basis.RightHanded (b : Basis) : Prop := Frame.RightHanded b.x.vec b.y.vec b.z.vec

/-- The axis points from the position to the centre of the Earth. -/
def PointsToEarth (position axis : Float3) : Prop := ∃ c : ℝ, 0 < c ∧ axis.vec = -c • position.vec

/-- The velocity in a frame that the Earth turns in. -/
def inertialVelocity (position velocity : Float3) : Float3 :=
  velocity + crossProduct ⟨0, 0, earthAngularVelocity⟩ position

/-- Neither dipole vanishes along the line of sight. -/
def Seen (k : Float3) (b receiver : Basis) : Prop :=
  0 < (satelliteDipole k b.x b.y).length ∧ 0 < (receiverDipole k receiver.x receiver.y).length

/-- A wind-up in cycles, near the one before and of the angle between the dipoles. -/
structure Winds (k : Float3) (b receiver : Basis) (previous : Option ℝ) (windup : ℝ) : Prop where
  near : ∀ p ∈ previous, |windup - p| ≤ 1 / 2
  angle : IsAngle k.vec (satelliteDipole k b.x b.y).vec (receiverDipole k receiver.x receiver.y).vec
    (2 * Real.pi * windup)

/-! ### Coordinates -/

@[simp] theorem Float3.vec_add (a b : Float3) : (a + b).vec = a.vec + b.vec := by
  ext i
  fin_cases i <;> rfl

@[simp] theorem Float3.vec_sub (a b : Float3) : (a - b).vec = a.vec - b.vec := by
  ext i
  fin_cases i <;> rfl

@[simp] theorem Float3.vec_mul_left (c : ℝ) (a : Float3) : (c * a).vec = c • a.vec := by
  ext i
  fin_cases i <;> rfl

@[simp] theorem Float3.vec_mul_right (a : Float3) (c : ℝ) : (a * c).vec = c • a.vec := by
  ext i
  fin_cases i <;> exact mul_comm _ _

@[simp] theorem vec_crossProduct (a b : Float3) : (crossProduct a b).vec = a.vec ⨯₃ b.vec := by
  rw [cross_apply]
  rfl

theorem dotProduct_eq (a b : Float3) : dotProduct a b = a.vec ⬝ᵥ b.vec := by
  rw [vec3_dotProduct]
  rfl

theorem Float3.length_eq (a : Float3) : a.length = Frame.length a.vec := by
  rw [Frame.length, ← dotProduct_eq]
  rfl

/-- **What `normalize` gives** is the unit vector of the same direction. -/
theorem Float3.normalize_spec {a u : Float3} (h : a.normalize = some u) :
    0 < a.length ∧ u.vec = a.length⁻¹ • a.vec ∧ u.vec ⬝ᵥ u.vec = 1 := by
  obtain ⟨hlong, hu⟩ := Option.ite_none_left_eq_some.1 h
  have hpos : 0 < a.length := lt_of_lt_of_le (by positivity) (not_lt.1 hlong)
  have hvec : u.vec = a.length⁻¹ • a.vec := by
    rw [← Option.some.inj hu]
    ext i
    fin_cases i <;> exact div_eq_inv_mul _ _
  have hunit : u.vec ⬝ᵥ u.vec = 1 := by
    rw [hvec, smul_dotProduct, dotProduct_smul, ← Frame.length_sq, ← Float3.length_eq, smul_eq_mul,
      smul_eq_mul]
    field_simp
  exact ⟨hpos, hvec, hunit⟩

/-- A unit vector stays as it is. -/
theorem Float3.normalize_unit {a : Float3} (h : a.vec ⬝ᵥ a.vec = 1) : a.normalize = some a := by
  have hlength : a.length = 1 := by rw [Float3.length_eq, Frame.length, h, Real.sqrt_one]
  rw [normalize, hlength, if_neg (by norm_num)]
  simp only [div_one]

/-- Where `normalize` gives the vector back, it is a unit vector. -/
theorem Float3.eq_of_normalize_unit {a u : Float3} (ha : a.vec ⬝ᵥ a.vec = 1)
    (h : a.normalize = some u) : u = a :=
  Option.some.inj (h.symm.trans (normalize_unit ha))

/-! ### The frames -/

/-- The frame that a second axis at a right angle to the third completes. -/
theorem rightHanded_of_normalize {y z c x : Float3} (hz : z.vec ⬝ᵥ z.vec = 1)
    (hy : (crossProduct z c).normalize = some y) (hx : (crossProduct y z).normalize = some x) :
    Basis.RightHanded ⟨x, y, z⟩ := by
  obtain ⟨-, hyvec, hyunit⟩ := Float3.normalize_spec hy
  have hyz : y.vec ⬝ᵥ z.vec = 0 := by
    rw [hyvec, smul_dotProduct, vec_crossProduct, dotProduct_comm, dot_self_cross, smul_zero]
  have hframe := RightHanded.of_orthogonal hyunit hz hyz
  obtain rfl := Float3.eq_of_normalize_unit
    (by rw [vec_crossProduct]; exact hframe.xx) hx
  rw [Basis.RightHanded, vec_crossProduct]
  exact hframe

theorem computeSatelliteAntennaBasisSun_frame {p sun : Float3} {b : Basis}
    (h : computeSatelliteAntennaBasisSun p sun = some b) :
    b.RightHanded ∧ PointsToEarth p b.z := by
  simp only [computeSatelliteAntennaBasisSun, Option.bind_eq_bind, Option.bind_eq_some_iff,
    Option.some.injEq] at h
  obtain ⟨z, hz, e, -, y, hy, x, hx, rfl⟩ := h
  obtain ⟨hpos, hzvec, hzunit⟩ := Float3.normalize_spec hz
  refine ⟨rightHanded_of_normalize hzunit hy hx, _, inv_pos.2 hpos, ?_⟩
  rw [hzvec, Float3.vec_mul_left, smul_smul, neg_smul]
  norm_num

theorem computeSatelliteAntennaBasisVelocity_frame {ground p v : Float3} {b : Basis}
    (h : computeSatelliteAntennaBasisVelocity ground p v = some b) :
    b.RightHanded ∧ PointsToEarth p b.z ∧
      ∃ c : ℝ, c ≠ 0 ∧ b.y.vec = c • p.vec ⨯₃ (rotatedVelocity p v).vec := by
  simp only [computeSatelliteAntennaBasisVelocity, Option.bind_eq_bind, Option.bind_eq_some_iff,
    Option.some.injEq] at h
  obtain ⟨u, hu, -, -, e, he, y, hy, x, hx, rfl⟩ := h
  obtain ⟨hpos, huvec, huunit⟩ := Float3.normalize_spec hu
  obtain ⟨hepos, hevec, -⟩ := Float3.normalize_spec he
  obtain ⟨hypos, hyvec, -⟩ := Float3.normalize_spec hy
  have hzvec : ((-1.0 : ℝ) * u).vec = -p.length⁻¹ • p.vec := by
    rw [Float3.vec_mul_left, huvec, smul_smul]
    norm_num
  have hzunit : ((-1.0 : ℝ) * u).vec ⬝ᵥ ((-1.0 : ℝ) * u).vec = 1 := by
    rw [Float3.vec_mul_left, smul_dotProduct, dotProduct_smul, huunit]
    norm_num
  refine ⟨rightHanded_of_normalize hzunit hy hx, ⟨_, inv_pos.2 hpos, hzvec⟩,
    (crossProduct ((-1.0 : ℝ) * u) e).length⁻¹ * (-p.length⁻¹ * (rotatedVelocity p v).length⁻¹),
    ?_, ?_⟩
  · exact mul_ne_zero (inv_ne_zero hypos.ne')
      (mul_ne_zero (neg_ne_zero.2 (inv_ne_zero hpos.ne')) (inv_ne_zero hepos.ne'))
  · rw [hyvec, vec_crossProduct, hzvec, hevec, map_smul, map_smul, LinearMap.smul_apply, smul_smul,
      smul_smul, mul_assoc, mul_comm (rotatedVelocity p v).length⁻¹]

/-- The axes that the yaw angle turns have the direction away from the Earth as the third. -/
theorem rightHanded_turned {n u rx ry : Float3} (hn : n.vec ⬝ᵥ n.vec = 1)
    (hu : u.vec ⬝ᵥ u.vec = 1) (hnu : n.vec ⬝ᵥ u.vec = 0) (yaw : ℝ)
    (hrx : rx.vec = -Real.sin yaw • (crossProduct n u).vec + Real.cos yaw • n.vec)
    (hry : ry.vec = -Real.cos yaw • (crossProduct n u).vec + -Real.sin yaw • n.vec) :
    (crossProduct rx ry).vec = u.vec ∧ Basis.RightHanded ⟨rx, ry, crossProduct rx ry⟩ := by
  have hframe := RightHanded.of_orthogonal hn hu hnu
  rw [← vec_crossProduct] at hframe
  have hturn := hframe.turn
    (show (-Real.sin yaw) ^ 2 + Real.cos yaw ^ 2 = 1 by rw [neg_sq, Real.sin_sq_add_cos_sq])
  rw [← hrx, ← hry] at hturn
  have hcross : (crossProduct rx ry).vec = u.vec := (vec_crossProduct rx ry).trans hturn.cross
  refine ⟨hcross, ?_⟩
  rw [Basis.RightHanded, hcross]
  exact hturn

/-- **The frame of the yaw angle**, where it starts from unit vectors. -/
theorem computeSatelliteAntennaBasisYaw_spec {sun p v u su n q : Float3}
    (hu : p.normalize = some u) (hsu : sun.normalize = some su)
    (hn : (crossProduct p (rotatedVelocity p v)).normalize = some n)
    (hq : (crossProduct sun (crossProduct p (rotatedVelocity p v))).normalize = some q) :
    ∃ b, computeSatelliteAntennaBasisYaw sun p v = some b ∧ b.RightHanded ∧ b.z.vec = u.vec := by
  obtain ⟨hpos, huvec, huunit⟩ := Float3.normalize_spec hu
  obtain ⟨-, hnvec, hnunit⟩ := Float3.normalize_spec hn
  have hnu : n.vec ⬝ᵥ u.vec = 0 := by
    rw [hnvec, huvec, smul_dotProduct, dotProduct_smul, vec_crossProduct, dotProduct_comm,
      dot_self_cross, smul_zero, smul_zero]
  have hk : (crossProduct n u).normalize = some (crossProduct n u) :=
    Float3.normalize_unit (by
      rw [vec_crossProduct]
      exact (RightHanded.of_orthogonal hnunit huunit hnu).xx)
  simp only [computeSatelliteAntennaBasisYaw, hu, hsu, hn, hq, hk, Option.bind_eq_bind,
    Option.bind_some]
  generalize satelliteYawAngle _ _ = yaw
  generalize hrx : Float3.mk _ _ _ = rx
  generalize hry : Float3.mk _ _ _ = ry
  have hrxvec : rx.vec = -Real.sin yaw • (crossProduct n u).vec + Real.cos yaw • n.vec := by
    rw [← hrx]
    ext i
    fin_cases i <;> rfl
  have hryvec : ry.vec = -Real.cos yaw • (crossProduct n u).vec + -Real.sin yaw • n.vec := by
    rw [← hry]
    ext i
    fin_cases i <;> exact (sub_eq_add_neg _ _).trans (congrArg _ (neg_mul _ _).symm)
  obtain ⟨hcross, hframe⟩ := rightHanded_turned hnunit huunit hnu yaw hrxvec hryvec
  rw [Float3.normalize_unit (by rw [hcross, huunit])]
  exact ⟨_, rfl, hframe, hcross⟩

/-- An axis away from the Earth does not point to it. -/
theorem not_pointsToEarth {p axis : Float3} (hp : 0 < p.length)
    (h : ∃ c : ℝ, 0 < c ∧ axis.vec = c • p.vec) : ¬PointsToEarth p axis := by
  rintro ⟨c', hc', heq'⟩
  obtain ⟨c, hc, heq⟩ := h
  have hzero : (c + c') • p.vec = 0 := by
    rw [add_smul, ← heq, heq', neg_smul, neg_add_cancel]
  rcases smul_eq_zero.1 hzero with hsum | hvec
  · linarith
  · rw [Float3.length_eq, hvec, Frame.length, dotProduct_zero, Real.sqrt_zero] at hp
    exact lt_irrefl 0 hp

/-- The frame of the receiver, wherever it is. -/
theorem computeReceiverAntennaBasis_frame (llh : Float3) :
    ∃ b, computeReceiverAntennaBasis llh = some b ∧ b.RightHanded ∧
      b.z = crossProduct (enuBasisFromLlh llh).1 (enuBasisFromLlh llh).2 := by
  have hlon := Real.sin_sq_add_cos_sq llh.y
  have hlat := Real.sin_sq_add_cos_sq llh.x
  have hzero : (0.0 : ℝ) = 0 := by norm_num
  have hx : (enuBasisFromLlh llh).1.vec ⬝ᵥ (enuBasisFromLlh llh).1.vec = 1 := by
    rw [← dotProduct_eq]
    simp only [dotProduct, enuBasisFromLlh, hzero]
    linear_combination hlon
  have hy : (enuBasisFromLlh llh).2.vec ⬝ᵥ (enuBasisFromLlh llh).2.vec = 1 := by
    rw [← dotProduct_eq]
    simp only [dotProduct, enuBasisFromLlh, hzero]
    linear_combination hlat + Real.sin llh.x ^ 2 * hlon
  have hxy : (enuBasisFromLlh llh).1.vec ⬝ᵥ (enuBasisFromLlh llh).2.vec = 0 := by
    rw [← dotProduct_eq]
    simp only [dotProduct, enuBasisFromLlh, hzero]
    ring
  have hframe := RightHanded.of_orthogonal hx hy hxy
  rw [← vec_crossProduct] at hframe
  have hz := Float3.normalize_unit hframe.xx
  refine ⟨⟨(enuBasisFromLlh llh).1, (enuBasisFromLlh llh).2,
    crossProduct (enuBasisFromLlh llh).1 (enuBasisFromLlh llh).2⟩, ?_,
    ⟨hframe.yy, hframe.zz, hframe.xx, hframe.yz, hframe.zx, hframe.xy,
      (vec_crossProduct _ _).symm⟩, rfl⟩
  simp only [computeReceiverAntennaBasis, hz, Option.bind_eq_bind, Option.bind_some]

theorem computeSatelliteAntennaBasisYaw_frame {sun p v : Float3} {b : Basis}
    (h : computeSatelliteAntennaBasisYaw sun p v = some b) :
    b.RightHanded ∧ ¬PointsToEarth p b.z := by
  have hb := h
  simp only [computeSatelliteAntennaBasisYaw, Option.bind_eq_bind, Option.bind_eq_some_iff] at h
  obtain ⟨u, hu, su, hsu, n, hn, q, hq, -⟩ := h
  obtain ⟨b', hb', hframe, hz⟩ := computeSatelliteAntennaBasisYaw_spec hu hsu hn hq
  obtain rfl := Option.some.inj (hb.symm.trans hb')
  obtain ⟨hpos, huvec, -⟩ := Float3.normalize_spec hu
  exact ⟨hframe, not_pointsToEarth hpos ⟨_, inv_pos.2 hpos, hz.trans huvec⟩⟩

/-! ### The angle -/

section Winding

variable {k : Float3} (hk : k.vec ⬝ᵥ k.vec = 1)

include hk

theorem dot_satelliteDipole (sx sy : Float3) : k.vec ⬝ᵥ (satelliteDipole k sx sy).vec = 0 := by
  simp only [satelliteDipole, Float3.vec_sub, Float3.vec_mul_right, vec_crossProduct,
    dotProduct_sub, dotProduct_smul, hk, dot_self_cross, dotProduct_eq, smul_eq_mul]
  ring

theorem dot_receiverDipole (rx ry : Float3) : k.vec ⬝ᵥ (receiverDipole k rx ry).vec = 0 := by
  simp only [receiverDipole, Float3.vec_add, Float3.vec_sub, Float3.vec_mul_right,
    vec_crossProduct, dotProduct_add, dotProduct_sub, dotProduct_smul, hk, dot_self_cross,
    dotProduct_eq, smul_eq_mul]
  ring

theorem length_satelliteDipole {b : Basis} (hb : b.RightHanded) :
    (satelliteDipole k b.x b.y).length = |1 + dotProduct k b.z| := by
  have hvec : (satelliteDipole k b.x b.y).vec =
      b.x.vec - (k.vec ⬝ᵥ b.x.vec) • k.vec - (1 : ℝ) • k.vec ⨯₃ b.y.vec := by
    simp only [satelliteDipole, Float3.vec_sub, Float3.vec_mul_right, vec_crossProduct,
      dotProduct_eq, one_smul]
  rw [Float3.length_eq, Frame.length, hvec, hb.dipole_dot_self hk (one_pow 2), one_mul,
    Real.sqrt_sq_eq_abs, dotProduct_eq]

theorem length_receiverDipole {b : Basis} (hb : b.RightHanded) :
    (receiverDipole k b.x b.y).length = |1 - dotProduct k b.z| := by
  have hvec : (receiverDipole k b.x b.y).vec =
      b.x.vec - (k.vec ⬝ᵥ b.x.vec) • k.vec - (-1 : ℝ) • k.vec ⨯₃ b.y.vec := by
    simp only [receiverDipole, Float3.vec_add, Float3.vec_sub, Float3.vec_mul_right,
      vec_crossProduct, dotProduct_eq, neg_smul, one_smul, sub_neg_eq_add]
  rw [Float3.length_eq, Frame.length, hvec, hb.dipole_dot_self hk (by norm_num), neg_one_mul,
    ← sub_eq_add_neg, Real.sqrt_sq_eq_abs, dotProduct_eq]

/-- The satellite is not seen along its third axis, nor the receiver against its own. -/
theorem seen_iff {b receiver : Basis} (hb : b.RightHanded) (hreceiver : receiver.RightHanded) :
    Seen k b receiver ↔ dotProduct k b.z ≠ -1 ∧ dotProduct k receiver.z ≠ 1 := by
  rw [Seen, length_satelliteDipole hk hb, length_receiverDipole hk hreceiver, abs_pos, abs_pos,
    sub_ne_zero, ne_comm (a := (1 : ℝ)), ne_eq, ne_eq (dotProduct k b.z), add_comm,
    add_eq_zero_iff_eq_neg]

end Winding

/-- `acos` is the same for a number that is cut at -1 and 1. -/
theorem arccos_cut (x : ℝ) :
    let y := if x < -1 then -1 else x
    Real.arccos (if 1 < y then 1 else y) = Real.arccos x := by
  intro y
  rcases lt_or_ge x (-1) with hlow | hlow
  · have hy : y = -1 := if_pos hlow
    rw [hy, if_neg (by norm_num), Real.arccos_neg_one, Real.arccos_of_le_neg_one hlow.le]
  · have hy : y = x := if_neg (not_lt.2 hlow)
    rw [hy]
    split
    case isTrue hhigh => rw [Real.arccos_one, Real.arccos_of_one_le hhigh.le]
    case isFalse => rfl

/-- The whole turns that bring a wind-up next to the one before. -/
theorem abs_add_floor_sub_le (ph prev : ℝ) : |ph + ⌊prev - ph + 1 / 2⌋ - prev| ≤ 1 / 2 := by
  have hle := Int.floor_le (prev - ph + 1 / 2)
  have hlt := Int.lt_floor_add_one (prev - ph + 1 / 2)
  rw [abs_le]
  constructor <;> linarith

/-- **The wind-up of a frame** is near the one before, and of the angle between the dipoles. -/
theorem winds_phaseWindupFromBasis {lineOfSight k : Float3} (hk : lineOfSight.normalize = some k)
    (b receiver : Basis) (previous : Option ℝ) :
    Winds k b receiver previous (phaseWindupFromBasis lineOfSight b.x b.y receiver.x receiver.y
      (previous.getD 0)) := by
  have hunit := (Float3.normalize_spec hk).2.2
  have hangle := isAngle_arccos hunit (dot_satelliteDipole hunit b.x b.y)
    (dot_receiverDipole hunit receiver.x receiver.y)
  simp only [phaseWindupFromBasis, hk, arccos_cut]
  constructor
  · intro p hp
    rw [Option.mem_def.1 hp]
    exact abs_add_floor_sub_le _ _
  · generalize (⌊(_ : ℝ)⌋ : ℤ) = n
    rw [← dotProduct_eq, ← vec_crossProduct, ← dotProduct_eq, ← Float3.length_eq,
      ← Float3.length_eq] at hangle
    convert hangle.add_turns n using 1
    rw [mul_comm (receiverDipole _ _ _).length]
    split
    · field_simp
    · field_simp

/-! ### The velocity -/

/-- The velocity of the code is off by a vector in the plane of the equator. -/
theorem vec_rotatedVelocity (p v : Float3) : (rotatedVelocity p v).vec =
    (inertialVelocity p v).vec +
      (earthAngularVelocity * (p.y - p.x)) • (⟨1, 1, 0⟩ : Float3).vec := by
  rw [← Float3.vec_mul_left, ← Float3.vec_add]
  congr 1
  ext
  · change v.x + _ * -p.x = v.x + (0 * p.z - _ * p.y) + _ * (p.y - p.x) * 1
    ring
  · change v.y + _ * p.y = v.y + (_ * p.x - 0 * p.z) + _ * (p.y - p.x) * 1
    ring
  · change v.z + _ * 0.0 = v.z + (0 * p.y - 0 * p.x) + _ * (p.y - p.x) * 0
    norm_num

/-- When the second axis of the frame of the velocity is at a right angle to the inertial one. -/
theorem dot_inertialVelocity_iff {p v y : Float3} {c : ℝ} (hc : c ≠ 0)
    (hy : y.vec = c • p.vec ⨯₃ (rotatedVelocity p v).vec) :
    dotProduct y (inertialVelocity p v) = 0 ↔
      p.x = p.y ∨ dotProduct (crossProduct p ⟨1, 1, 0⟩) (inertialVelocity p v) = 0 := by
  have homega : earthAngularVelocity ≠ 0 := by
    rw [earthAngularVelocity]
    norm_num
  rw [dotProduct_eq, hy, vec_rotatedVelocity, map_add, smul_dotProduct, add_dotProduct, map_smul,
    smul_dotProduct, dotProduct_comm _ (inertialVelocity p v).vec, dot_cross_self, zero_add,
    smul_eq_mul, smul_eq_mul, mul_eq_zero, mul_eq_zero, mul_eq_zero, ← vec_crossProduct,
    ← dotProduct_eq, sub_eq_zero, or_iff_right hc, or_iff_right homega, eq_comm (a := p.y)]

/-! ### The wind-up of a scene -/

/-- The wind-ups before, where they are valid. -/
def PhaseWindup.before (previous : PhaseWindup) (correction : PhaseWindup → ℝ) : Option ℝ :=
  if previous.valid then some (correction previous) else none

theorem PhaseWindup.getD_before (previous : PhaseWindup) (correction : PhaseWindup → ℝ) :
    (previous.before correction).getD 0 =
      if previous.valid then correction previous else 0 := by
  rw [PhaseWindup.before]
  split <;> rfl

/-- Three frames that point to the Earth, the second of the inertial velocity, and wind-ups of
their angles. -/
structure Scene.AsDescribed (s : Scene) (f : Frames) (k : Float3) (previous : PhaseWindup) :
    Prop where
  rightHanded : f.sun.RightHanded ∧ f.velocity.RightHanded ∧ f.angle.RightHanded
  toEarth : PointsToEarth s.truePosition f.sun.z ∧ PointsToEarth s.truePosition f.velocity.z ∧
    PointsToEarth s.truePosition f.angle.z
  orthogonal : dotProduct f.velocity.y (inertialVelocity s.truePosition s.trueVelocity) = 0
  winds : Winds k f.sun f.receiver (previous.before (·.correctionSun))
      (modelPhaseWindup s previous).correctionSun ∧
    Winds k f.velocity f.receiver (previous.before (·.correctionVelocity))
      (modelPhaseWindup s previous).correctionVelocity ∧
    Winds k f.angle f.receiver (previous.before (·.correctionAngle))
      (modelPhaseWindup s previous).correctionAngle

theorem Scene.frames_eq_some {s : Scene} {f : Frames} (h : s.frames = some f) :
    computeSatelliteAntennaBasisSun s.truePosition s.sun = some f.sun ∧
      computeSatelliteAntennaBasisVelocity s.groundPositionEcef s.truePosition s.trueVelocity =
        some f.velocity ∧
      computeSatelliteAntennaBasisYaw s.sun s.truePosition s.trueVelocity = some f.angle := by
  simp only [Scene.frames, Option.bind_eq_bind, Option.bind_eq_some_iff, Option.some.injEq] at h
  obtain ⟨_, hsun, _, hvelocity, _, hangle, _, -, rfl⟩ := h
  exact ⟨hsun, hvelocity, hangle⟩

/-- **The geometry of the wind-up**: the three frames are right-handed, those of the sun and of the
velocity point to the Earth and that of the yaw angle away from it, so that no scene is as
described; the frame of the velocity is that of the inertial velocity only in one plane of
positions or for a velocity in one plane with the position; where the dipoles do not vanish, the
wind-ups are near those before and of the angles between them. -/
theorem modelPhaseWindup_geometry {s : Scene} {f : Frames} {k : Float3} (hf : s.frames = some f)
    (hk : s.trueLineOfSight.normalize = some k) (previous : PhaseWindup) :
    ¬s.AsDescribed f k previous ∧
      (f.sun.RightHanded ∧ f.velocity.RightHanded ∧ f.angle.RightHanded) ∧
      PointsToEarth s.truePosition f.sun.z ∧ PointsToEarth s.truePosition f.velocity.z ∧
      ¬PointsToEarth s.truePosition f.angle.z ∧
      (dotProduct f.velocity.y (inertialVelocity s.truePosition s.trueVelocity) = 0 ↔
        s.truePosition.x = s.truePosition.y ∨
          dotProduct (crossProduct s.truePosition ⟨1, 1, 0⟩)
            (inertialVelocity s.truePosition s.trueVelocity) = 0) ∧
      (Seen k f.sun f.receiver → Winds k f.sun f.receiver (previous.before (·.correctionSun))
        (modelPhaseWindup s previous).correctionSun) ∧
      (Seen k f.velocity f.receiver → Winds k f.velocity f.receiver
        (previous.before (·.correctionVelocity))
        (modelPhaseWindup s previous).correctionVelocity) ∧
      (Seen k f.angle f.receiver → Winds k f.angle f.receiver (previous.before (·.correctionAngle))
        (modelPhaseWindup s previous).correctionAngle) := by
  obtain ⟨hsun, hvelocity, hangle⟩ := Scene.frames_eq_some hf
  obtain ⟨hsunframe, hsunearth⟩ := computeSatelliteAntennaBasisSun_frame hsun
  obtain ⟨hvelframe, hvelearth, c, hc, hy⟩ := computeSatelliteAntennaBasisVelocity_frame hvelocity
  obtain ⟨hyawframe, haway⟩ := computeSatelliteAntennaBasisYaw_frame hangle
  have hwinds := fun b correction =>
    winds_phaseWindupFromBasis hk b f.receiver (previous.before correction)
  simp only [PhaseWindup.getD_before] at hwinds
  refine ⟨fun h => haway h.toEarth.2.2, ⟨hsunframe, hvelframe, hyawframe⟩, hsunearth, hvelearth,
    haway, dot_inertialVelocity_iff hc hy, ?_⟩
  simp only [modelPhaseWindup, hf]
  exact ⟨fun _ => hwinds f.sun (·.correctionSun), fun _ => hwinds f.velocity (·.correctionVelocity),
    fun _ => hwinds f.angle (·.correctionAngle)⟩

/-! ### A scene -/

/-- A satellite ten degrees above the horizon of a receiver at the equator. -/
def risingSatellite : Scene where
  truePosition := ⟨11389525, 16400916, 21867888⟩
  trueVelocity := ⟨-1514, 1608, -418⟩
  trueLineOfSight := ⟨11 / 61, 36 / 61, 48 / 61⟩
  groundPositionEcef := ⟨6378134, 0, 0⟩
  groundPositionLlh := ⟨0, 0, -3⟩
  sun := ⟨140000000000, -40000000000, 33000000000⟩

/-- A vector that is long enough. -/
theorem Float3.exists_normalize {a : Float3} (h : 1 / 10 ^ 24 ≤ a.lengthSquared) :
    ∃ u, a.normalize = some u := by
  have hlong : 1 / 10 ^ 12 ≤ a.length := Real.le_sqrt_of_sq_le (by norm_num at h ⊢; exact h)
  rw [normalize, if_neg (not_lt.2 hlong)]
  exact ⟨_, rfl⟩

/-- A vector of known length. -/
theorem Float3.normalize_of_length {a u : Float3} (l : ℝ) (hl : 1 / 10 ^ 12 ≤ l)
    (ha : a = l * u) (hu : u.lengthSquared = 1) : a.normalize = some u := by
  have hpos : 0 < l := lt_of_lt_of_le (by positivity) hl
  have hlength : a.length = l := by
    have hsq : a.lengthSquared = l ^ 2 * u.lengthSquared := by
      rw [ha, lengthSquared, lengthSquared]
      change l * u.x * (l * u.x) + l * u.y * (l * u.y) + l * u.z * (l * u.z) = _
      ring
    rw [length, hsq, hu, mul_one, Real.sqrt_sq hpos.le]
  rw [normalize, hlength, if_neg (not_lt.2 hl), ha]
  congr
  · exact mul_div_cancel_left₀ u.x hpos.ne'
  · exact mul_div_cancel_left₀ u.y hpos.ne'
  · exact mul_div_cancel_left₀ u.z hpos.ne'

/-- The other axes of a frame, where the vector `v` is not along the third. -/
theorem exists_axes {z v e : Float3} (hz : z.vec ⬝ᵥ z.vec = 1) (he : v.normalize = some e)
    (h : v.lengthSquared / 10 ^ 24 ≤ (crossProduct z v).lengthSquared) :
    ∃ y x, (crossProduct z e).normalize = some y ∧ (crossProduct y z).normalize = some x := by
  obtain ⟨hpos, hevec, -⟩ := Float3.normalize_spec he
  have hsq : ∀ a : Float3, a.lengthSquared = a.vec ⬝ᵥ a.vec := fun a => dotProduct_eq a a
  have hscale : (crossProduct z e).lengthSquared =
      (crossProduct z v).lengthSquared / v.length ^ 2 := by
    rw [hsq, hsq, vec_crossProduct, vec_crossProduct, hevec, map_smul, smul_dotProduct,
      dotProduct_smul, smul_eq_mul, smul_eq_mul]
    field_simp
  obtain ⟨y, hy⟩ := Float3.exists_normalize (a := crossProduct z e) (by
    rw [hscale, le_div_iff₀ (pow_pos hpos 2), Float3.length_eq, Frame.length_sq, ← hsq,
      one_div_mul_eq_div]
    exact h)
  obtain ⟨-, hyvec, hyunit⟩ := Float3.normalize_spec hy
  have hyz : y.vec ⬝ᵥ z.vec = 0 := by
    rw [hyvec, smul_dotProduct, vec_crossProduct, dotProduct_comm, dot_self_cross, smul_zero]
  exact ⟨y, _, hy, Float3.normalize_unit (by
    rw [vec_crossProduct]
    exact (RightHanded.of_orthogonal hyunit hz hyz).xx)⟩

theorem risingSatellite_unit : risingSatellite.truePosition.normalize =
    some ⟨5 / 13, 36 / 65, 48 / 65⟩ :=
  Float3.normalize_of_length 29612765 (by norm_num)
    (by norm_num [risingSatellite, Float3.mul_def]) (by norm_num [Float3.lengthSquared])

theorem risingSatellite_sun : ∃ b,
    computeSatelliteAntennaBasisSun risingSatellite.truePosition risingSatellite.sun = some b ∧
      b.z = ⟨-5 / 13, -36 / 65, -48 / 65⟩ := by
  have hz : ((-1.0 : ℝ) * risingSatellite.truePosition).normalize =
      some ⟨-5 / 13, -36 / 65, -48 / 65⟩ :=
    Float3.normalize_of_length 29612765 (by norm_num)
      (by norm_num [risingSatellite, Float3.mul_def]) (by norm_num [Float3.lengthSquared])
  obtain ⟨e, he⟩ := Float3.exists_normalize
    (a := risingSatellite.sun - risingSatellite.truePosition)
    (by norm_num [risingSatellite, Float3.sub_def, Float3.lengthSquared])
  obtain ⟨y, x, hy, hx⟩ := exists_axes (Float3.normalize_spec hz).2.2 he
    (by norm_num [risingSatellite, Float3.sub_def, Float3.lengthSquared, crossProduct])
  simp only [computeSatelliteAntennaBasisSun, hz, he, hy, hx, Option.bind_eq_bind,
    Option.bind_some, Option.some.injEq, exists_eq_left']

theorem risingSatellite_rotatedVelocity :
    rotatedVelocity risingSatellite.truePosition risingSatellite.trueVelocity =
      ⟨-1514 - 7.2921151467 / 10 ^ 5 * 11389525, 1608 + 7.2921151467 / 10 ^ 5 * 16400916,
        -418⟩ := by
  norm_num [rotatedVelocity, risingSatellite, earthAngularVelocity, Float3.add_def,
    Float3.mul_def]

theorem risingSatellite_velocity : ∃ b, computeSatelliteAntennaBasisVelocity
    risingSatellite.groundPositionEcef risingSatellite.truePosition
      risingSatellite.trueVelocity = some b ∧ b.z = ⟨-5 / 13, -36 / 65, -48 / 65⟩ := by
  have hz : (-1.0 : ℝ) * (⟨5 / 13, 36 / 65, 48 / 65⟩ : Float3) =
      ⟨-5 / 13, -36 / 65, -48 / 65⟩ := by
    norm_num [Float3.mul_def]
  have hunit : Float3.vec ⟨-5 / 13, -36 / 65, -48 / 65⟩ ⬝ᵥ
      Float3.vec ⟨-5 / 13, -36 / 65, -48 / 65⟩ = 1 := by
    rw [← dotProduct_eq]
    norm_num [dotProduct]
  obtain ⟨k, hk⟩ := Float3.exists_normalize
    (a := risingSatellite.groundPositionEcef - risingSatellite.truePosition)
    (by norm_num [risingSatellite, Float3.sub_def, Float3.lengthSquared])
  obtain ⟨e, he⟩ := Float3.exists_normalize
    (a := rotatedVelocity risingSatellite.truePosition risingSatellite.trueVelocity)
    (by norm_num [risingSatellite_rotatedVelocity, Float3.lengthSquared])
  obtain ⟨y, x, hy, hx⟩ := exists_axes hunit he
    (by norm_num [risingSatellite_rotatedVelocity, Float3.lengthSquared, crossProduct])
  simp only [computeSatelliteAntennaBasisVelocity, risingSatellite_unit, hz, hk, he, hy, hx,
    Option.bind_eq_bind, Option.bind_some, Option.some.injEq, exists_eq_left']

theorem risingSatellite_yaw : ∃ b, computeSatelliteAntennaBasisYaw risingSatellite.sun
    risingSatellite.truePosition risingSatellite.trueVelocity = some b ∧
      b.z.vec = Float3.vec ⟨5 / 13, 36 / 65, 48 / 65⟩ := by
  obtain ⟨su, hsun⟩ := Float3.exists_normalize (a := risingSatellite.sun)
    (by norm_num [risingSatellite, Float3.lengthSquared])
  obtain ⟨n, hn⟩ := Float3.exists_normalize
    (a := crossProduct risingSatellite.truePosition
      (rotatedVelocity risingSatellite.truePosition risingSatellite.trueVelocity))
    (by
      rw [risingSatellite_rotatedVelocity]
      norm_num [risingSatellite, crossProduct, Float3.lengthSquared])
  obtain ⟨q, hq⟩ := Float3.exists_normalize
    (a := crossProduct risingSatellite.sun (crossProduct risingSatellite.truePosition
      (rotatedVelocity risingSatellite.truePosition risingSatellite.trueVelocity)))
    (by
      rw [risingSatellite_rotatedVelocity]
      norm_num [risingSatellite, crossProduct, Float3.lengthSquared])
  obtain ⟨b, hb, -, hz⟩ := computeSatelliteAntennaBasisYaw_spec risingSatellite_unit hsun hn hq
  exact ⟨b, hb, hz⟩

/-- All the normalisations succeed, and the receiver sees the dipoles of the three frames. -/
theorem risingSatellite_frames : ∃ f, risingSatellite.frames = some f ∧
    Seen risingSatellite.trueLineOfSight f.sun f.receiver ∧
    Seen risingSatellite.trueLineOfSight f.velocity f.receiver ∧
    Seen risingSatellite.trueLineOfSight f.angle f.receiver := by
  obtain ⟨sun, hsun, hsunz⟩ := risingSatellite_sun
  obtain ⟨velocity, hvelocity, hvelocityz⟩ := risingSatellite_velocity
  obtain ⟨angle, hangle, hanglez⟩ := risingSatellite_yaw
  obtain ⟨receiver, hreceiver, hframe, hreceiverz⟩ :=
    computeReceiverAntennaBasis_frame risingSatellite.groundPositionLlh
  have hk : risingSatellite.trueLineOfSight.vec ⬝ᵥ risingSatellite.trueLineOfSight.vec = 1 := by
    rw [← dotProduct_eq]
    norm_num [risingSatellite, dotProduct]
  have hup : dotProduct risingSatellite.trueLineOfSight receiver.z ≠ 1 := by
    rw [hreceiverz]
    norm_num [risingSatellite, dotProduct, enuBasisFromLlh, crossProduct]
  refine ⟨⟨sun, velocity, angle, receiver⟩, ?_, ?_, ?_, ?_⟩
  · simp only [Scene.frames, hsun, hvelocity, hangle, hreceiver, Option.bind_eq_bind,
      Option.bind_some]
  · refine (seen_iff hk (computeSatelliteAntennaBasisSun_frame hsun).1 hframe).2 ⟨?_, hup⟩
    rw [hsunz]
    norm_num [risingSatellite, dotProduct]
  · refine (seen_iff hk (computeSatelliteAntennaBasisVelocity_frame hvelocity).1 hframe).2
      ⟨?_, hup⟩
    rw [hvelocityz]
    norm_num [risingSatellite, dotProduct]
  · refine (seen_iff hk (computeSatelliteAntennaBasisYaw_frame hangle).1 hframe).2 ⟨?_, hup⟩
    rw [dotProduct_eq, hanglez, ← dotProduct_eq]
    norm_num [risingSatellite, dotProduct]

theorem risingSatellite_lineOfSight :
    risingSatellite.trueLineOfSight.normalize = some risingSatellite.trueLineOfSight :=
  Float3.normalize_unit (by
    rw [← dotProduct_eq]
    norm_num [risingSatellite, dotProduct])

/-- The frame of the yaw angle of this scene has its third axis away from the Earth. -/
theorem not_asDescribed_risingSatellite :
    ¬∀ s f k previous, Scene.frames s = some f → s.trueLineOfSight.normalize = some k →
      s.AsDescribed f k previous := by
  intro hall
  obtain ⟨f, hf, -⟩ := risingSatellite_frames
  have hdescribed := hall risingSatellite f risingSatellite.trueLineOfSight ⟨0, 0, 0, false⟩ hf
    risingSatellite_lineOfSight
  exact (computeSatelliteAntennaBasisYaw_frame (Scene.frames_eq_some hf).2.2).2
    hdescribed.toEarth.2.2

/-- The second axis of the frame of the velocity is off as well; the wind-ups go on from the ones
before. -/
theorem modelPhaseWindup_geometry_risingSatellite : ∃ f, risingSatellite.frames = some f ∧
    ¬risingSatellite.AsDescribed f risingSatellite.trueLineOfSight ⟨3, 3, 3, true⟩ ∧
    dotProduct f.velocity.y
      (inertialVelocity risingSatellite.truePosition risingSatellite.trueVelocity) ≠ 0 ∧
    |(modelPhaseWindup risingSatellite ⟨3, 3, 3, true⟩).correctionSun - 3| ≤ 1 / 2 ∧
    |(modelPhaseWindup risingSatellite ⟨3, 3, 3, true⟩).correctionVelocity - 3| ≤ 1 / 2 ∧
    |(modelPhaseWindup risingSatellite ⟨3, 3, 3, true⟩).correctionAngle - 3| ≤ 1 / 2 := by
  obtain ⟨f, hf, hsun, hvelocity, hangle⟩ := risingSatellite_frames
  obtain ⟨hnot, -, -, -, -, horthogonal, hwindsSun, hwindsVelocity, hwindsAngle⟩ :=
    modelPhaseWindup_geometry hf risingSatellite_lineOfSight ⟨3, 3, 3, true⟩
  refine ⟨f, hf, hnot, ?_, (hwindsSun hsun).near 3 rfl, (hwindsVelocity hvelocity).near 3 rfl,
    (hwindsAngle hangle).near 3 rfl⟩
  rw [ne_eq, horthogonal]
  norm_num [risingSatellite, inertialVelocity, earthAngularVelocity, crossProduct, dotProduct,
    Float3.add_def]

end

end SuplLpp.Windup
