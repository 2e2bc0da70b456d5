import SuplLpp.Ephemeris.Compute
import SuplLpp.Lib.Contraction
import SuplLpp.Tokoro.Correction

/-!
# The time at which a signal was sent

`compute_true_position` finds the time at which a satellite sent what the ground receives at a
time, and where it was then.

* `correction`, of an orbit, along the axes of the orbit;
* `geometricDistance`, with the correction for the rotation of the earth;
* `emissionTimeLoop` and `computeTruePosition`;
* `correction_spec`: how far a correction moves a position;
* `abs_geometricDistance_sub_le`: how the distance changes with the position;
* `computeTruePosition_near`: the state is that of the only time consistent with the distance.
-/

namespace SuplLpp.Emission

noncomputable section

open Real Windup

/-! ### The functions of the source -/

/-- `SPEED_OF_LIGHT`. -/
def speedOfLight : ℝ := 299792458

/-- `geometric_distance`. -/
def geometricDistance (a b : Float3) : ℝ :=
  let delta := a - b
  let distance := delta.length
  let correction := earthAngularVelocity * (a.x * b.y - a.y * b.x) / speedOfLight
  distance + correction

/-- The line of sight of `geometric_distance`. -/
def lineOfSight (a b : Float3) : Float3 :=
  let delta := a - b
  let distance := delta.length
  ⟨delta.x / distance, delta.y / distance, delta.z / distance⟩

/-- What `OrbitCorrection::correction` writes. -/
structure Corrected where
  result : Float3
  radial : Float3
  along : Float3
  cross : Float3
  delta : ℝ

/-- The correction at a time: radial, along the track and across it. -/
def deltaAt (c : Tokoro.OrbitCorrection) (tK : ℝ) : Float3 :=
  (⟨c.delta.x, c.delta.y, c.delta.z⟩ : Float3) +
    (⟨c.dotDelta.x, c.dotDelta.y, c.dotDelta.z⟩ : Float3) * tK

/-- `OrbitCorrection::correction`; no value where it returns `false`. -/
def correction (c : Tokoro.OrbitCorrection) (time : ℝ) (ephPosition ephVelocity : Float3) :
    Option Corrected := do
  let eAlong ← ephVelocity.normalize
  let eCross ← (Windup.crossProduct ephPosition ephVelocity).normalize
  let eRadial := Windup.crossProduct eAlong eCross
  let tK := time - (c.referenceTime : ℝ)
  let deltaAt := deltaAt c tK
  let x := eRadial.x * deltaAt.x + eAlong.x * deltaAt.y + eCross.x * deltaAt.z
  let y := eRadial.y * deltaAt.x + eAlong.y * deltaAt.y + eCross.y * deltaAt.z
  let z := eRadial.z * deltaAt.x + eAlong.z * deltaAt.y + eCross.z * deltaAt.z
  some ⟨ephPosition - ⟨x, y, z⟩, eRadial, eAlong, eCross, tK⟩

/-- An ephemeris: what it computes at a time, and the constants of its system. -/
structure Ephemeris where
  compute : ℝ → EphemerisResult
  constants : Constants

structure SatelliteState where
  ephPosition : Float3
  ephVelocity : Float3
  ephClockBias : ℝ
  ephRange : ℝ
  ephLineOfSight : Float3
  ephRelativisticCorrection : ℝ
  truePosition : Float3
  trueVelocity : Float3
  trueRange : ℝ
  trueLineOfSight : Float3
  orbitRadialAxis : Float3
  orbitAlongAxis : Float3
  orbitCrossAxis : Float3
  orbitDeltaT : ℝ
  receptionTime : ℝ
  emissionTime : ℝ

section Source

variable (eph : Ephemeris) (c : Tokoro.OrbitCorrection) (groundPosition : Float3)

/-- The position in a round of the loop; a correction that fails leaves the one it had. -/
def satellitePosition (useOrbitCorrectionInIteration : Bool) (tE : ℝ) : Float3 :=
  let result := eph.compute tE
  if useOrbitCorrectionInIteration then
    ((correction c tE result.position result.velocity).map Corrected.result).getD ⟨0, 0, 0⟩
  else result.position

/-- The emission time of a round, from a position. -/
def newEmissionTime (position : ℝ → Float3) (tR tE : ℝ) : ℝ :=
  let pseudorange := geometricDistance (position tE) groundPosition
  let travelTime := pseudorange / speedOfLight
  tR + -travelTime

/-- The loop of `compute_true_position`, with so many rounds left. -/
def emissionTimeLoop (position : ℝ → Float3) (tR : ℝ) : ℕ → ℝ → ℝ
  | 0, tE => tE
  | rounds + 1, tE =>
    let newTE := newEmissionTime groundPosition position tR tE
    let deltaTE := newTE - tE
    if |deltaTE| < 1e-12 then newTE else emissionTimeLoop position tR rounds newTE

/-- The time that the loop ends with. -/
def emissionTime (position : ℝ → Float3) (tR : ℝ) : ℝ :=
  emissionTimeLoop groundPosition position tR 10 (tR + -0.08)

/-- `compute_true_position`. -/
def computeTruePosition (tR : ℝ) (state : SatelliteState)
    (useReceptionTimeForOrbitAndClockCorrections useOrbitCorrectionInIteration : Bool) :
    SatelliteState :=
  let tE := emissionTime groundPosition (satellitePosition eph c useOrbitCorrectionInIteration) tR
  let final := eph.compute tE
  let ephLineOfSight := lineOfSight final.position groundPosition
  let referenceTime := if useReceptionTimeForOrbitAndClockCorrections then tR else tE
  let corrected := (correction c referenceTime final.position final.velocity).getD
    ⟨final.position, state.orbitRadialAxis, state.orbitAlongAxis, state.orbitCrossAxis,
      state.orbitDeltaT⟩
  let relativisticCorrection :=
    calculateRelativisticCorrection eph.constants corrected.result final.velocity
  let trueRange := geometricDistance corrected.result groundPosition
  let trueLineOfSight := lineOfSight corrected.result groundPosition
  let trueTravelTime := trueRange / speedOfLight
  { ephPosition := final.position
    ephVelocity := final.velocity
    ephClockBias := final.clock + relativisticCorrection
    ephRange := geometricDistance final.position groundPosition
    ephLineOfSight := ephLineOfSight.normalize.getD ephLineOfSight
    ephRelativisticCorrection := relativisticCorrection
    truePosition := corrected.result
    trueVelocity := final.velocity
    trueRange := trueRange
    trueLineOfSight := trueLineOfSight.normalize.getD trueLineOfSight
    orbitRadialAxis := corrected.radial
    orbitAlongAxis := corrected.along
    orbitCrossAxis := corrected.cross
    orbitDeltaT := corrected.delta
    receptionTime := tR
    emissionTime := tR + -trueTravelTime }

end Source

/-! ### The correction of the orbit -/

/-- **What a correction does**: its axes are at right angles, and it moves the position by the
length of the correction at the time. -/
theorem correction_spec {c : Tokoro.OrbitCorrection} {time : ℝ} {p v : Float3} {r : Corrected}
    (h : correction c time p v = some r) :
    Basis.RightHanded ⟨r.radial, r.along, r.cross⟩ ∧
      r.result.vec = p.vec - ((deltaAt c (time - c.referenceTime)).x • r.radial.vec +
        (deltaAt c (time - c.referenceTime)).y • r.along.vec +
        (deltaAt c (time - c.referenceTime)).z • r.cross.vec) := by
  simp only [correction, Option.bind_eq_bind, Option.bind_eq_some_iff, Option.some.injEq] at h
  obtain ⟨a, ha, n, hn, rfl⟩ := h
  obtain ⟨-, havec, haunit⟩ := Float3.normalize_spec ha
  obtain ⟨-, hnvec, hnunit⟩ := Float3.normalize_spec hn
  have han : a.vec ⬝ᵥ n.vec = 0 := by
    rw [havec, hnvec, vec_crossProduct, smul_dotProduct, dotProduct_smul, dot_cross_self,
      smul_zero, smul_zero]
  refine ⟨?_, ?_⟩
  · rw [Basis.RightHanded, vec_crossProduct]
    exact Frame.RightHanded.of_orthogonal haunit hnunit han
  · ext i
    fin_cases i <;> simp [Float3.vec, Float3.sub_def] <;> ring

/-- Along axes at right angles, a vector is as long as its coordinates say. -/
theorem length_combine {x y z w d : Float3} (h : Basis.RightHanded ⟨x, y, z⟩)
    (hw : w.vec = d.x • x.vec + d.y • y.vec + d.z • z.vec) : w.length = d.length := by
  have hyx : y.vec ⬝ᵥ x.vec = 0 := (dotProduct_comm _ _).trans h.xy
  have hzy : z.vec ⬝ᵥ y.vec = 0 := (dotProduct_comm _ _).trans h.yz
  have hxz : x.vec ⬝ᵥ z.vec = 0 := (dotProduct_comm _ _).trans h.zx
  rw [Float3.length_eq, Frame.length, hw, Float3.length, Float3.lengthSquared]
  congr 1
  simp only [add_dotProduct, dotProduct_add, smul_dotProduct, dotProduct_smul, smul_eq_mul, h.xx,
    h.yy, h.zz, h.xy, h.yz, h.zx, hyx, hzy, hxz]
  ring

theorem length_sub_correction {c : Tokoro.OrbitCorrection} {time : ℝ} {p v : Float3}
    {r : Corrected} (h : correction c time p v = some r) :
    (p - r.result).length = (deltaAt c (time - c.referenceTime)).length := by
  obtain ⟨haxes, hresult⟩ := correction_spec h
  refine length_combine haxes ?_
  rw [Float3.vec_sub, hresult, sub_sub_cancel]

/-- `dot_delta`. -/
def dotDelta (c : Tokoro.OrbitCorrection) : Float3 := ⟨c.dotDelta.x, c.dotDelta.y, c.dotDelta.z⟩

/-- A correction at another time moves the same position along the same axes. -/
theorem correction_at {c : Tokoro.OrbitCorrection} {s : ℝ} {p v : Float3} {r : Corrected}
    (h : correction c s p v = some r) (t : ℝ) :
    ∃ r', correction c t p v = some r' ∧
      (r'.result - r.result).length = |s - t| * (dotDelta c).length := by
  have hs := h
  simp only [correction, Option.bind_eq_bind, Option.bind_eq_some_iff, Option.some.injEq] at h
  obtain ⟨a, ha, n, hn, hr⟩ := h
  have ht : ∃ r', correction c t p v = some r' ∧ r'.radial = r.radial ∧ r'.along = r.along ∧
      r'.cross = r.cross := by
    simp only [correction, Option.bind_eq_bind, ha, hn, Option.bind_some]
    exact ⟨_, rfl, by rw [← hr], by rw [← hr], by rw [← hr]⟩
  obtain ⟨r', hr', hradial, halong, hcross⟩ := ht
  refine ⟨r', hr', ?_⟩
  obtain ⟨haxes, hresult⟩ := correction_spec hs
  have hresult' := (correction_spec hr').2
  rw [hradial, halong, hcross] at hresult'
  have hscale : ((s - t) * dotDelta c).length = |s - t| * (dotDelta c).length := by
    rw [Float3.length_eq, Float3.length_eq, Float3.vec_mul_left, Frame.length, Frame.length,
      smul_dotProduct, dotProduct_smul, smul_smul, smul_eq_mul, sqrt_mul (mul_self_nonneg _),
      sqrt_mul_self_eq_abs]
  rw [← hscale]
  refine length_combine haxes ?_
  rw [Float3.vec_sub, hresult, hresult']
  ext i
  simp only [deltaAt, dotDelta, Float3.add_def, Float3.mul_def, Pi.sub_apply, Pi.add_apply,
    Pi.smul_apply, smul_eq_mul]
  change _ - (((_ + _ * _) * _ + (_ + _ * _) * _ + (_ + _ * _) * _)) -
    (_ - (((_ + _ * _) * _ + (_ + _ * _) * _ + (_ + _ * _) * _))) = _
  ring

/-! ### Distances -/

theorem length_nonneg (a : Float3) : 0 ≤ a.length := sqrt_nonneg _

theorem length_eq_norm (a : Float3) : a.length = ‖!₂[a.x, a.y, a.z]‖ := by
  rw [EuclideanSpace.norm_eq, Float3.length, Float3.lengthSquared]
  congr 1
  simp [Fin.sum_univ_three, sq]

theorem point_sub (a b : Float3) :
    (!₂[(a - b).x, (a - b).y, (a - b).z] : EuclideanSpace ℝ (Fin 3)) =
      !₂[a.x, a.y, a.z] - !₂[b.x, b.y, b.z] := by
  ext i
  fin_cases i <;> simp [Float3.sub_def]

theorem length_sub_le (a b d : Float3) : (a - d).length ≤ (a - b).length + (b - d).length := by
  simp only [length_eq_norm, point_sub]
  exact norm_sub_le_norm_sub_add_norm_sub _ _ _

theorem length_sub_comm (a b : Float3) : (a - b).length = (b - a).length := by
  simp only [length_eq_norm, point_sub]
  exact norm_sub_rev _ _

theorem length_le_add (a b : Float3) : a.length ≤ b.length + (a - b).length := by
  simp only [length_eq_norm, point_sub]
  exact norm_le_norm_add_norm_sub' _ _

theorem length_sub_le_add (a b : Float3) : (a - b).length ≤ a.length + b.length := by
  simp only [length_eq_norm, point_sub]
  exact norm_sub_le _ _

theorem abs_length_sub_le (a b g : Float3) :
    |(a - g).length - (b - g).length| ≤ (a - b).length := by
  rw [abs_le]
  have hab := length_sub_le a b g
  have hba := length_sub_le b a g
  rw [length_sub_comm b a] at hba
  constructor <;> linarith

/-- The area in the plane of the equator. -/
theorem abs_area_le (a b : Float3) : |a.x * b.y - a.y * b.x| ≤ a.length * b.length := by
  have hsq : ∀ v : Float3, v.length ^ 2 = v.x ^ 2 + v.y ^ 2 + v.z ^ 2 := by
    intro v
    rw [Float3.length_eq, Frame.length_sq, ← dotProduct_eq, Windup.dotProduct]
    ring
  refine abs_le_of_sq_le_sq ?_ (mul_nonneg (length_nonneg a) (length_nonneg b))
  rw [mul_pow, hsq, hsq]
  nlinarith [sq_nonneg (a.x * b.x + a.y * b.y), mul_nonneg (sq_nonneg a.z) (sq_nonneg b.x),
    mul_nonneg (sq_nonneg a.z) (sq_nonneg b.y), mul_nonneg (sq_nonneg a.z) (sq_nonneg b.z),
    mul_nonneg (sq_nonneg a.x) (sq_nonneg b.z), mul_nonneg (sq_nonneg a.y) (sq_nonneg b.z)]

/-- The correction for the rotation of the earth is small, for a place on the earth. -/
theorem abs_rotation_le {a ground : Float3} (hground : ground.length ≤ 1e7) :
    |earthAngularVelocity * (a.x * ground.y - a.y * ground.x) / speedOfLight| ≤
      0.00001 * a.length := by
  have hω : (0 : ℝ) < earthAngularVelocity := by norm_num [earthAngularVelocity]
  have hc : (0 : ℝ) < speedOfLight := by norm_num [speedOfLight]
  have harea : |a.x * ground.y - a.y * ground.x| ≤ a.length * 1e7 :=
    (abs_area_le a ground).trans (mul_le_mul_of_nonneg_left hground (length_nonneg a))
  rw [abs_div, abs_mul, abs_of_pos hω, abs_of_pos hc, div_le_iff₀ hc]
  calc earthAngularVelocity * |a.x * ground.y - a.y * ground.x|
      ≤ earthAngularVelocity * (a.length * 1e7) := mul_le_mul_of_nonneg_left harea hω.le
    _ ≤ 0.00001 * a.length * speedOfLight := by
      rw [earthAngularVelocity, speedOfLight]
      nlinarith [length_nonneg a]

/-- From a place on the earth, the distance changes hardly more than the position. -/
theorem abs_geometricDistance_sub_le {ground : Float3} (hground : ground.length ≤ 1e7)
    (a b : Float3) :
    |geometricDistance a ground - geometricDistance b ground| ≤ 1.00001 * (a - b).length := by
  have hsplit : geometricDistance a ground - geometricDistance b ground =
      ((a - ground).length - (b - ground).length) +
        earthAngularVelocity * ((a - b).x * ground.y - (a - b).y * ground.x) / speedOfLight := by
    simp only [geometricDistance, Float3.sub_def]
    ring
  rw [hsplit]
  refine (abs_add_le _ _).trans ?_
  have hlength := abs_length_sub_le a b ground
  have hrotation := abs_rotation_le (a := a - b) hground
  linarith

theorem abs_geometricDistance_le {ground : Float3} (hground : ground.length ≤ 1e7) (a : Float3) :
    |geometricDistance a ground| ≤ 1.00001 * a.length + 1e7 := by
  refine (abs_add_le _ _).trans ?_
  rw [abs_of_nonneg (length_nonneg _)]
  have hlength := length_sub_le_add a ground
  have hrotation := abs_rotation_le (a := a) hground
  linarith

/-! ### The loop -/

section

local instance two_atLeastTwo : Nat.AtLeastTwo 2 := ⟨le_refl 2⟩

/-- The times about that of the reception. -/
def window (tR : ℝ) : Set ℝ := Set.Icc (tR - 1 / 2) (tR + 1 / 2)

/-- The error of a correction at the time of the reception. -/
def ageError (c : Tokoro.OrbitCorrection) (useReceptionTime : Bool) : ℝ :=
  if useReceptionTime then 1 / 2 * (dotDelta c).length else 0

end

/-- The corrected orbit is `orbit`, which is that of a satellite: it moves at ten kilometres each
second at most, and the correction moves the satellite by `δ` at most. -/
structure InView (eph : Ephemeris) (c : Tokoro.OrbitCorrection) (ground : Float3) (tR : ℝ)
    (orbit : ℝ → Float3) (δ : ℝ) : Prop where
  ground_le : ground.length ≤ 1e7
  delta_le : δ ≤ 1000
  corrected : ∀ t ∈ window tR, ∃ r,
    correction c t (eph.compute t).position (eph.compute t).velocity = some r ∧ r.result = orbit t
  deltaAt_le : ∀ t ∈ window tR, (deltaAt c (t - c.referenceTime)).length ≤ δ
  orbit_le : ∀ t ∈ window tR, (orbit t).length ≤ 1e8
  speed_le : ∀ s ∈ window tR, ∀ t ∈ window tR, (orbit s - orbit t).length ≤ 1e4 * |s - t|

theorem emissionTimeLoop_eq (ground : Float3) (position : ℝ → Float3) (tR : ℝ) (rounds : ℕ)
    (t : ℝ) : emissionTimeLoop ground position tR rounds t =
      Contraction.iterate (newEmissionTime ground position tR) 1e-12 rounds t := by
  induction rounds generalizing t with
  | zero => rfl
  | succ rounds ih =>
    rw [emissionTimeLoop, Contraction.iterate, ih]
    by_cases hclose : |newEmissionTime ground position tR t - t| < 1e-12
    · exact (if_pos hclose).trans (if_neg (not_not.2 hclose)).symm
    · exact (if_neg hclose).trans (if_pos hclose).symm

/-- How the emission time of a round changes with the position. -/
theorem abs_newEmissionTime_sub_le {ground : Float3} (hground : ground.length ≤ 1e7)
    (p q : ℝ → Float3) (tR s t : ℝ) :
    |newEmissionTime ground p tR s - newEmissionTime ground q tR t| ≤
      1.00001 * (p s - q t).length / speedOfLight := by
  have hc : (0 : ℝ) < speedOfLight := by norm_num [speedOfLight]
  have hsplit : newEmissionTime ground p tR s - newEmissionTime ground q tR t =
      (geometricDistance (q t) ground - geometricDistance (p s) ground) / speedOfLight := by
    simp only [newEmissionTime]
    ring
  rw [hsplit, abs_div, abs_of_pos hc, abs_sub_comm]
  exact div_le_div_of_nonneg_right (abs_geometricDistance_sub_le hground _ _) hc.le

/-- The error of the loop: of a correction that it leaves out, and of ten rounds. -/
def loopError (δ : ℝ) (useOrbitCorrectionInIteration : Bool) : ℝ :=
  1.0001 * (if useOrbitCorrectionInIteration then 0 else δ) / speedOfLight + 1e-16

namespace InView

variable {eph : Ephemeris} {c : Tokoro.OrbitCorrection} {ground : Float3} {tR δ : ℝ}
  {orbit : ℝ → Float3} (h : InView eph c ground tR orbit δ)

include h

theorem position_sub_le (useOrbitCorrection : Bool) {t : ℝ} (ht : t ∈ window tR) :
    (satellitePosition eph c useOrbitCorrection t - orbit t).length ≤
      if useOrbitCorrection then 0 else δ := by
  obtain ⟨r, hr, hresult⟩ := h.corrected t ht
  cases useOrbitCorrection
  · rw [satellitePosition, if_neg Bool.false_ne_true, if_neg Bool.false_ne_true, ← hresult,
      length_sub_correction hr]
    exact h.deltaAt_le t ht
  · rw [satellitePosition, if_pos rfl, if_pos rfl, hr, Option.map_some, Option.getD_some, hresult,
      length_eq_norm, point_sub, sub_self, norm_zero]

theorem delta_nonneg : 0 ≤ δ :=
  (length_nonneg _).trans (h.deltaAt_le tR ⟨by linarith, by linarith⟩)

/-- A round that starts near the time of the reception ends there. -/
theorem mapsTo {p : ℝ → Float3} {e : ℝ} (he : e ≤ 1000)
    (hp : ∀ t ∈ window tR, (p t - orbit t).length ≤ e) :
    Set.MapsTo (newEmissionTime ground p tR) (window tR) (window tR) := by
  intro t ht
  have hc : (0 : ℝ) < speedOfLight := by norm_num [speedOfLight]
  have hlength := length_le_add (p t) (orbit t)
  have hdistance := abs_geometricDistance_le h.ground_le (p t)
  have horbit := h.orbit_le t ht
  have herror := hp t ht
  have htravel : |geometricDistance (p t) ground / speedOfLight| ≤ 1 / 2 := by
    rw [abs_div, abs_of_pos hc, div_le_iff₀ hc, speedOfLight]
    linarith
  obtain ⟨hlow, hhigh⟩ := abs_le.1 htravel
  constructor
  · simp only [newEmissionTime]
    linarith
  · simp only [newEmissionTime]
    linarith

/-- One time is consistent with the distance then. -/
theorem exists_emission : ∃ t ∈ window tR, ∀ s ∈ window tR,
    newEmissionTime ground orbit tR s = s ↔ s = t := by
  have hself : ∀ t ∈ window tR, (orbit t - orbit t).length ≤ (0 : ℝ) := by
    intro t _
    rw [length_eq_norm, point_sub, sub_self, norm_zero]
  have hcontracts : ∀ s ∈ window tR, ∀ t ∈ window tR,
      |newEmissionTime ground orbit tR s - newEmissionTime ground orbit tR t| ≤
        1 / 1000 * |s - t| := by
    intro s hs t ht
    refine (abs_newEmissionTime_sub_le h.ground_le orbit orbit tR s t).trans ?_
    have hspeed := h.speed_le s hs t ht
    have hnonneg := abs_nonneg (s - t)
    rw [div_le_iff₀ (by norm_num [speedOfLight]), speedOfLight]
    nlinarith
  have hstart : tR ∈ window tR := ⟨by linarith, by linarith⟩
  exact Contraction.exists_fixed isClosed_Icc (h.mapsTo (by norm_num) hself) (by norm_num)
    (by norm_num) hcontracts hstart

/-- The loop ends near that time. -/
theorem abs_emissionTime_sub_le (useOrbitCorrection : Bool) {t : ℝ} (ht : t ∈ window tR)
    (hfixed : newEmissionTime ground orbit tR t = t) :
    emissionTime ground (satellitePosition eph c useOrbitCorrection) tR ∈ window tR ∧
      |emissionTime ground (satellitePosition eph c useOrbitCorrection) tR - t| ≤
        loopError δ useOrbitCorrection := by
  have hc : (0 : ℝ) < speedOfLight := by norm_num [speedOfLight]
  have hδ := h.delta_nonneg
  have hposition : ∀ s ∈ window tR,
      (satellitePosition eph c useOrbitCorrection s - orbit s).length ≤
        if useOrbitCorrection then 0 else δ :=
    fun s hs => h.position_sub_le useOrbitCorrection hs
  obtain ⟨e, he⟩ : ∃ e, e = if useOrbitCorrection then 0 else δ := ⟨_, rfl⟩
  have he0 : 0 ≤ e := by
    rw [he]
    split <;> linarith
  have he1 : e ≤ 1000 := by
    rw [he]
    have hδ1 := h.delta_le
    split <;> linarith
  rw [loopError, ← he]
  rw [← he] at hposition
  have hround : ∀ s ∈ window tR,
      |newEmissionTime ground (satellitePosition eph c useOrbitCorrection) tR s - t| ≤
        10000.1 / speedOfLight * |s - t| + 1.00001 * (e / speedOfLight) := by
    intro s hs
    have hsub := abs_newEmissionTime_sub_le h.ground_le
      (satellitePosition eph c useOrbitCorrection) orbit tR s t
    rw [hfixed] at hsub
    have hlength := length_sub_le (satellitePosition eph c useOrbitCorrection s) (orbit s)
      (orbit t)
    have hspeed := h.speed_le s hs t ht
    have hnear := hposition s hs
    refine hsub.trans ?_
    calc 1.00001 * (satellitePosition eph c useOrbitCorrection s - orbit t).length / speedOfLight
        ≤ 1.00001 * (e + 1e4 * |s - t|) / speedOfLight :=
          div_le_div_of_nonneg_right (by linarith) hc.le
      _ = 10000.1 / speedOfLight * |s - t| + 1.00001 * (e / speedOfLight) := by ring
  have hstart : tR + -0.08 ∈ window tR := ⟨by linarith, by linarith⟩
  have hfirst : |tR + -0.08 - t| ≤ (1.0001 * (e / speedOfLight) + 5e-17) + 1 := by
    have hu : 0 ≤ e / speedOfLight := div_nonneg he0 hc.le
    rw [abs_le]
    constructor <;> linarith [ht.1, ht.2]
  have hrest : 10000.1 / speedOfLight * 1e-12 + 1.00001 * (e / speedOfLight) ≤
      (1 - 10000.1 / speedOfLight) * (1.0001 * (e / speedOfLight) + 5e-17) := by
    have hu : 0 ≤ e / speedOfLight := div_nonneg he0 hc.le
    generalize e / speedOfLight = u at hu
    rw [speedOfLight]
    nlinarith
  obtain ⟨hmem, hle⟩ := Contraction.abs_iterate_sub_le (h.mapsTo he1 hposition)
    (by norm_num [speedOfLight]) (by norm_num [speedOfLight]) hround hrest zero_le_one
    (by norm_num) 10 hstart hfirst
  rw [emissionTime, emissionTimeLoop_eq]
  refine ⟨hmem, hle.trans ?_⟩
  have hpow : (10000.1 / speedOfLight) ^ 10 * 1 ≤ (5e-17 : ℝ) := by norm_num [speedOfLight]
  rw [mul_div_assoc]
  linarith

/-- The final position, and the emission time that is reported. -/
theorem found_near (useReceptionTime useOrbitCorrection : Bool) (state : SatelliteState) {t : ℝ}
    (ht : t ∈ window tR) (hfixed : newEmissionTime ground orbit tR t = t) :
    ((computeTruePosition eph c ground tR state useReceptionTime
          useOrbitCorrection).truePosition - orbit t).length ≤
        1e4 * loopError δ useOrbitCorrection + ageError c useReceptionTime ∧
      |(computeTruePosition eph c ground tR state useReceptionTime
          useOrbitCorrection).emissionTime - t| ≤
        1.00001 * (1e4 * loopError δ useOrbitCorrection + ageError c useReceptionTime) /
          speedOfLight := by
  have hc : (0 : ℝ) < speedOfLight := by norm_num [speedOfLight]
  obtain ⟨hmem, hclose⟩ := h.abs_emissionTime_sub_le useOrbitCorrection ht hfixed
  obtain ⟨tE, htE⟩ : ∃ tE,
      tE = emissionTime ground (satellitePosition eph c useOrbitCorrection) tR := ⟨_, rfl⟩
  rw [← htE] at hmem hclose
  obtain ⟨r, hr, hresult⟩ := h.corrected tE hmem
  obtain ⟨r', hr', hmoved⟩ := correction_at hr (if useReceptionTime then tR else tE)
  have hage : (r'.result - orbit tE).length ≤ ageError c useReceptionTime := by
    rw [← hresult, hmoved, ageError]
    cases useReceptionTime
    · rw [if_neg Bool.false_ne_true, if_neg Bool.false_ne_true, sub_self, abs_zero, zero_mul]
    · rw [if_pos rfl, if_pos rfl]
      refine mul_le_mul_of_nonneg_right ?_ (length_nonneg _)
      rw [abs_le]
      constructor <;> linarith [hmem.1, hmem.2]
  have hlength : (r'.result - orbit t).length ≤
      1e4 * loopError δ useOrbitCorrection + ageError c useReceptionTime := by
    have hspeed := h.speed_le tE hmem t ht
    have htriangle := length_sub_le r'.result (orbit tE) (orbit t)
    linarith
  have hposition : (computeTruePosition eph c ground tR state useReceptionTime
      useOrbitCorrection).truePosition = r'.result := by
    simp only [computeTruePosition, ← htE, hr', Option.getD_some]
  have htime : (computeTruePosition eph c ground tR state useReceptionTime
      useOrbitCorrection).emissionTime =
        newEmissionTime ground (fun _ => r'.result) tR t := by
    simp only [computeTruePosition, newEmissionTime, ← htE, hr', Option.getD_some]
  refine ⟨hposition ▸ hlength, ?_⟩
  have hsub := abs_newEmissionTime_sub_le h.ground_le (fun _ => r'.result) orbit tR t t
  rw [hfixed] at hsub
  rw [htime]
  refine hsub.trans (div_le_div_of_nonneg_right ?_ hc.le)
  exact mul_le_mul_of_nonneg_left hlength (by norm_num)

/-- **The state is that of the time of emission**: one time, near that of the reception, is
consistent with the distance to the corrected orbit, and `compute_true_position` finds it and the
position then, however the corrections are used. -/
theorem computeTruePosition_near : ∃ t ∈ window tR,
    (∀ s ∈ window tR, newEmissionTime ground orbit tR s = s ↔ s = t) ∧
      ∀ (useReceptionTime useOrbitCorrection : Bool) (state : SatelliteState),
        ((computeTruePosition eph c ground tR state useReceptionTime
            useOrbitCorrection).truePosition - orbit t).length ≤
          1e4 * loopError δ useOrbitCorrection + ageError c useReceptionTime ∧
        |(computeTruePosition eph c ground tR state useReceptionTime
            useOrbitCorrection).emissionTime - t| ≤
          1.00001 * (1e4 * loopError δ useOrbitCorrection + ageError c useReceptionTime) /
            speedOfLight := by
  obtain ⟨t, ht, hfixed⟩ := h.exists_emission
  exact ⟨t, ht, hfixed, fun useReceptionTime useOrbitCorrection state =>
    h.found_near useReceptionTime useOrbitCorrection state ht ((hfixed t ht).2 rfl)⟩

end InView

/-- A satellite that passes over the equator. -/
def passing : Ephemeris where
  compute t := ⟨⟨2e7, 3000 * t, 0⟩, ⟨0, 3000, 0⟩, 0, 0, 0⟩
  constants := GpsEphemeris.constants

/-- A metre towards the earth. -/
def aMetre : Tokoro.OrbitCorrection := ⟨0, 1, 1, ⟨1, 0, 0⟩, ⟨0, 0, 0⟩⟩

theorem deltaAt_aMetre (tK : ℝ) : deltaAt aMetre tK = ⟨1, 0, 0⟩ := by
  have hscale : (⟨0, 0, 0⟩ : Float3) * tK = ⟨0 * tK, 0 * tK, 0 * tK⟩ := rfl
  norm_num [deltaAt, aMetre, hscale, Float3.add_def]

theorem correction_passing (t : ℝ) : ∃ r,
    correction aMetre t (passing.compute t).position (passing.compute t).velocity = some r ∧
      r.result = ⟨2e7 - 1, 3000 * t, 0⟩ := by
  have halong : (⟨0, 3000, 0⟩ : Float3).normalize = some ⟨0, 1, 0⟩ := by
    have hlength : (⟨0, 3000, 0⟩ : Float3).length = 3000 := by
      rw [Float3.length, Float3.lengthSquared, mul_zero, zero_add, add_zero,
        sqrt_mul_self (by norm_num)]
    norm_num [Float3.normalize, hlength]
  have hcross : (Windup.crossProduct ⟨2e7, 3000 * t, 0⟩ ⟨0, 3000, 0⟩).normalize =
      some ⟨0, 0, 1⟩ := by
    have hlength : (⟨0, 0, 6e10⟩ : Float3).length = 6e10 := by
      rw [Float3.length, Float3.lengthSquared, mul_zero, zero_add, zero_add,
        sqrt_mul_self (by norm_num)]
    have hproduct : Windup.crossProduct ⟨2e7, 3000 * t, 0⟩ ⟨0, 3000, 0⟩ = ⟨0, 0, 6e10⟩ := by
      norm_num [Windup.crossProduct]
    rw [hproduct, Float3.normalize, hlength]
    norm_num
  refine ⟨⟨⟨2e7 - 1, 3000 * t, 0⟩, ⟨1, 0, 0⟩, ⟨0, 1, 0⟩, ⟨0, 0, 1⟩, t - aMetre.referenceTime⟩, ?_,
    rfl⟩
  simp only [correction, passing, halong, hcross, deltaAt_aMetre, Option.bind_eq_bind,
    Option.bind_some]
  norm_num [Windup.crossProduct, Float3.sub_def, Float3.ext_iff]

theorem inView_passing : InView passing aMetre ⟨6378137, 0, 0⟩ 0
    (fun t => ⟨2e7 - 1, 3000 * t, 0⟩) 1 := by
  have hlength : ∀ x : ℝ, (⟨x, 0, 0⟩ : Float3).length = |x| := by
    intro x
    rw [Float3.length, Float3.lengthSquared, mul_zero, add_zero, add_zero, sqrt_mul_self_eq_abs]
  refine ⟨?_, by norm_num, fun t _ => correction_passing t, fun t _ => ?_, fun t ht => ?_,
    fun s _ t _ => ?_⟩
  · rw [hlength]
    norm_num
  · rw [deltaAt_aMetre, hlength, abs_one]
  · rw [Float3.length, sqrt_le_left (by norm_num), Float3.lengthSquared]
    nlinarith [ht.1, ht.2]
  · rw [Float3.length, sqrt_le_left (mul_nonneg (by norm_num) (abs_nonneg _)),
      Float3.lengthSquared, mul_pow, sq_abs, Float3.sub_def]
    nlinarith [sq_nonneg (s - t)]

theorem computeTruePosition_near_passing : ∃ t ∈ window 0,
    (∀ s ∈ window 0, newEmissionTime ⟨6378137, 0, 0⟩ (fun t => ⟨2e7 - 1, 3000 * t, 0⟩) 0 s = s ↔
        s = t) ∧
      ∀ (useReceptionTime useOrbitCorrection : Bool) (state : SatelliteState),
        ((computeTruePosition passing aMetre ⟨6378137, 0, 0⟩ 0 state useReceptionTime
            useOrbitCorrection).truePosition - ⟨2e7 - 1, 3000 * t, 0⟩).length ≤
          1e4 * loopError 1 useOrbitCorrection + ageError aMetre useReceptionTime ∧
        |(computeTruePosition passing aMetre ⟨6378137, 0, 0⟩ 0 state useReceptionTime
            useOrbitCorrection).emissionTime - t| ≤
          1.00001 * (1e4 * loopError 1 useOrbitCorrection + ageError aMetre useReceptionTime) /
            speedOfLight :=
  inView_passing.computeTruePosition_near

end

end SuplLpp.Emission
