import SuplLpp.Ephemeris.Compute
import SuplLpp.Lib.Kepler
import SuplLpp.Lib.Turning

/-!
# What `compute` computes

* `calculateEccentricAnomaly_spec`: the loop stops by its own test, next to the solution of Kepler's
  equation;
* `moves_position`: with that solution, the velocity is the rate at which the position changes;
  `compute_moves`, for what `compute` of each system returns;
* `moves_geoPosition` and `geoVelocity_iff`: for the satellites of BeiDou that stay in place it is
  not, and by how much;
* `dotProduct_position_velocity` and `relativistic_corrections`: the two relativistic corrections
  of an orbit.
-/

namespace SuplLpp

noncomputable section

open Real Windup

/-! ### The eccentric anomaly -/

theorem eccentricAnomalyLoop_eq (e mK : ℝ) (rounds : ℕ) (eK : ℝ) :
    eccentricAnomalyLoop e mK rounds eK =
      Kepler.approach (Kepler.newton e mK) 1e-12 rounds eK := by
  induction rounds generalizing eK with
  | zero => rfl
  | succ rounds ih =>
    simp only [eccentricAnomalyLoop, Kepler.approach, Kepler.newton, ih]
    rfl

/-- For an eccentricity of at most a half, a step squares the distance. -/
theorem newton_squares {e : ℝ} (he : 0 ≤ e) (he1 : e ≤ 1 / 2) (mK eK : ℝ) :
    |Kepler.newton e mK eK - Kepler.anomaly e mK| ≤ |eK - Kepler.anomaly e mK| ^ 2 := by
  have hle := Kepler.abs_newton_sub_le he (by linarith) mK eK
  have hfactor : e / (1 - e) ≤ 1 := by
    rw [div_le_one (by linarith)]
    linarith
  nlinarith [sq_nonneg |eK - Kepler.anomaly e mK|]

namespace Orbit

variable (k : Constants) (o : Orbit)

/-- **The loop of the eccentric anomaly.**  For an eccentricity of at most a half, which is all that
is sent, seven of its thirty rounds are enough for its test to stop it; what it gives solves
Kepler's equation up to `1.5e-12` and is within `3e-12` of the only solution. -/
theorem calculateEccentricAnomaly_spec (he : 0 ≤ o.e) (he1 : o.e ≤ 1 / 2) (tK : ℝ) :
    (∀ rounds, 7 ≤ rounds → eccentricAnomalyLoop o.e (o.meanAnomaly k tK) rounds
        (o.meanAnomaly k tK) = o.calculateEccentricAnomaly k tK) ∧
      |o.calculateEccentricAnomaly k tK - o.e * sin (o.calculateEccentricAnomaly k tK) -
        o.meanAnomaly k tK| ≤ 1.5e-12 ∧
      ∃ eK : ℝ, (∀ x : ℝ, x - o.e * sin x = o.meanAnomaly k tK ↔ x = eK) ∧
        |o.calculateEccentricAnomaly k tK - eK| ≤ 3e-12 := by
  have he' : (0 : ℝ) ≤ o.e := by exact_mod_cast he
  have he1' : (o.e : ℝ) ≤ 1 / 2 := by
    have h : (o.e : ℝ) ≤ (1 / 2 : ℚ) := by exact_mod_cast he1
    simpa using h
  have hlt : (o.e : ℝ) < 1 := by linarith
  generalize hm : o.meanAnomaly k tK = mK
  have hstart : |mK - Kepler.anomaly o.e mK| ≤ 1 / 2 :=
    (Kepler.abs_sub_anomaly_le he' mK).trans he1'
  have hsmall : ((1 : ℝ) / 2) ^ 2 ^ 6 + ((1 / 2) ^ 2 ^ 6) ^ 2 < 1e-12 := by norm_num
  obtain ⟨hclose, hmore⟩ := Kepler.approach_spec (newton_squares he' he1' mK) hstart hsmall
  have hloop : o.calculateEccentricAnomaly k tK =
      Kepler.approach (Kepler.newton o.e mK) 1e-12 7 mK := by
    rw [calculateEccentricAnomaly, hm, eccentricAnomalyLoop_eq]
    exact hmore 30 (by norm_num)
  obtain ⟨hleft, hnear⟩ := Kepler.abs_sub_anomaly_le_of_step he' hlt hclose.le
  rw [← hloop] at hleft hnear
  refine ⟨fun rounds hrounds => ?_, ?_, Kepler.anomaly o.e mK, fun x => ?_, ?_⟩
  · rw [hloop, eccentricAnomalyLoop_eq]
    exact hmore rounds hrounds
  · rw [abs_sub_comm]
    exact hleft.trans (by linarith)
  · exact (Kepler.eq_anomaly_iff he' hlt).symm
  · have habs := abs_nonneg (o.calculateEccentricAnomaly k tK - Kepler.anomaly o.e mK)
    nlinarith

end Orbit

/-- An orbit of half a day, inclined by one radian. -/
def Orbit.halfDay : Orbit where
  toe := 0
  crc := 0
  crs := 0
  cuc := 0
  cus := 0
  cic := 0
  cis := 0
  e := 1 / 100
  m0 := 0
  deltaN := 0
  a := 26560000
  i0 := 1
  omega0 := 1
  omega := 1
  omegaDot := 0
  idot := 1 / 10 ^ 10

theorem Orbit.calculateEccentricAnomaly_spec_halfDay :
    ∃ eK : ℝ,
      (∀ x : ℝ, x - halfDay.e * sin x = halfDay.meanAnomaly GpsEphemeris.constants 60 ↔ x = eK) ∧
      |halfDay.calculateEccentricAnomaly GpsEphemeris.constants 60 - eK| ≤ 3e-12 :=
  (calculateEccentricAnomaly_spec GpsEphemeris.constants halfDay (by norm_num [halfDay])
    (by norm_num [halfDay]) 60).2.2

/-! ### Rates -/

/-- A point moves with a velocity. -/
structure Moves (p : ℝ → Float3) (v : Float3) (t : ℝ) : Prop where
  x : HasDerivAt (fun s => (p s).x) v.x t
  y : HasDerivAt (fun s => (p s).y) v.y t
  z : HasDerivAt (fun s => (p s).z) v.z t

namespace Orbit

section Rates

variable {k : Constants} {o : Orbit} {E : ℝ → ℝ} {t : ℝ}

/-- The solution of Kepler's equation changes at the rate that the code gives. -/
theorem hasDerivAt_anomaly (he : 0 ≤ o.e) (he1 : o.e < 1) (t : ℝ) :
    HasDerivAt (fun s => Kepler.anomaly o.e (o.meanAnomaly k s))
      (o.calculateEccentricAnomalyRate k (Kepler.anomaly o.e (o.meanAnomaly k t))) t := by
  have he' : (0 : ℝ) ≤ o.e := by exact_mod_cast he
  have he1' : (o.e : ℝ) < 1 := by exact_mod_cast he1
  have hmean : HasDerivAt (o.meanAnomaly k) (o.meanMotion k) t := by
    have h := ((hasDerivAt_id t).const_mul (o.meanMotion k)).const_add (o.m0 : ℝ)
    exact h.congr_deriv (mul_one _)
  refine ((Kepler.hasDerivAt_anomaly he' he1' _).comp t hmean).congr_deriv ?_
  rw [calculateEccentricAnomalyRate, inv_mul_eq_div]

theorem turns_vK (he : 0 ≤ o.e) (he1 : o.e < 1)
    (hE : HasDerivAt E (o.calculateEccentricAnomalyRate k (E t)) t) :
    Turns (fun s => o.vK (E s)) (o.dotVK k (E t)) t := by
  have he' : (0 : ℝ) ≤ o.e := by exact_mod_cast he
  have he1' : (o.e : ℝ) < 1 := by exact_mod_cast he1
  have hpos := (Kepler.slope_pos he' he1' (E t)).2
  have hroot : √(1 - (o.e : ℝ) * o.e) ^ 2 = 1 - o.e * o.e := sq_sqrt (by nlinarith)
  have hpythagoras := sin_sq_add_cos_sq (E t)
  -- The distance to the origin is `1 - e cos E`.
  have hsq : (cos (E t) - o.e) ^ 2 + (√(1 - (o.e : ℝ) * o.e) * sin (E t)) ^ 2 =
      (1 - o.e * cos (E t)) ^ 2 := by
    rw [mul_pow, hroot]
    linear_combination (1 - (o.e : ℝ) * o.e) * hpythagoras
  have hx : HasDerivAt (fun s => cos (E s) - o.e)
      (-sin (E t) * o.calculateEccentricAnomalyRate k (E t)) t := hE.cos.sub_const _
  have hy : HasDerivAt (fun s => √(1 - (o.e : ℝ) * o.e) * sin (E s))
      (√(1 - (o.e : ℝ) * o.e) * (cos (E t) * o.calculateEccentricAnomalyRate k (E t))) t :=
    hE.sin.const_mul _
  have hturns := Turns.arg hx hy (by
    rw [hsq]
    positivity)
  rw [hsq] at hturns
  refine hturns.congr_rate ?_
  rw [dotVK, div_eq_div_iff (pow_ne_zero 2 hpos.ne') hpos.ne']
  linear_combination o.calculateEccentricAnomalyRate k (E t) * √(1 - (o.e : ℝ) * o.e) *
    (1 - o.e * cos (E t)) * hpythagoras

/-- What the rates of the orbit need. -/
structure Along (k : Constants) (o : Orbit) (E : ℝ → ℝ) (t : ℝ) : Prop where
  eK : HasDerivAt E (o.calculateEccentricAnomalyRate k (E t)) t
  vK : Turns (fun s => o.vK (E s)) (o.dotVK k (E t)) t

namespace Along

theorem phiK (h : o.Along k E t) : Turns (fun s => o.phiK (E s)) (o.dotVK k (E t)) t := by
  have hconst : Turns (fun _ => (o.omega : ℝ)) 0 t := Turns.of_hasDerivAt (hasDerivAt_const t _)
  have hadd := h.vK.add hconst
  rwa [add_zero] at hadd

theorem harmonic (h : o.Along k E t) (s c : ℚ) :
    HasDerivAt (fun t => o.harmonic s c (E t)) (o.dotHarmonic k s c (E t)) t := by
  have hdouble := h.phiK.double
  refine ((hdouble.sine.const_mul (s : ℝ)).add (hdouble.cosine.const_mul (c : ℝ))).congr_deriv ?_
  rw [dotHarmonic]
  ring

theorem uK (h : o.Along k E t) : Turns (fun s => o.uK (E s)) (o.dotUK k (E t)) t :=
  h.phiK.add (Turns.of_hasDerivAt (h.harmonic o.cus o.cuc))

theorem rK (h : o.Along k E t) : HasDerivAt (fun s => o.rK (E s)) (o.dotRK k (E t)) t := by
  have hcircle := (((h.eK.cos.const_mul (o.e : ℝ)).const_sub 1).const_mul (o.a : ℝ))
  refine (hcircle.add (h.harmonic o.crs o.crc)).congr_deriv ?_
  rw [dotRK]
  ring

theorem iK (h : o.Along k E t) : HasDerivAt (fun s => o.iK s (E s)) (o.dotIK k (E t)) t := by
  have hlinear := (hasDerivAt_id t).const_mul (o.idot : ℝ)
  refine (((h.harmonic o.cis o.cic).const_add (o.i0 : ℝ)).add hlinear).congr_deriv ?_
  rw [dotIK]
  ring

theorem xKPrime (h : o.Along k E t) :
    HasDerivAt (fun s => o.xKPrime (E s)) (o.dotXKPrime k (E t)) t := by
  refine (h.rK.mul h.uK.cosine).congr_deriv ?_
  rw [dotXKPrime]
  ring

theorem yKPrime (h : o.Along k E t) :
    HasDerivAt (fun s => o.yKPrime (E s)) (o.dotYKPrime k (E t)) t := by
  refine (h.rK.mul h.uK.sine).congr_deriv ?_
  rw [dotYKPrime]
  ring

theorem omegaK (k : Constants) (o : Orbit) (t : ℝ) :
    HasDerivAt (o.omegaK k) (o.dotOmegaK k) t := by
  have hlinear := ((hasDerivAt_id t).const_mul ((o.omegaDot : ℝ) - k.omegaEarthDot)).const_add
    (o.omega0 : ℝ)
  refine (hlinear.sub_const (k.omegaEarthDot * o.toe)).congr_deriv ?_
  rw [dotOmegaK, mul_one]

theorem position (h : o.Along k E t) :
    Moves (fun s => o.position k s (E s)) (o.velocity k t (E t)) t where
  x := by
    have hnode := omegaK k o t
    refine ((h.xKPrime.mul hnode.cos).sub ((h.yKPrime.mul hnode.sin).mul h.iK.cos)).congr_deriv ?_
    simp only [velocity, Pi.mul_apply]
    ring
  y := by
    have hnode := omegaK k o t
    refine ((h.xKPrime.mul hnode.sin).add ((h.yKPrime.mul hnode.cos).mul h.iK.cos)).congr_deriv ?_
    simp only [velocity, Pi.mul_apply]
    ring
  z := by
    refine (h.yKPrime.mul h.iK.sin).congr_deriv ?_
    rw [velocity]
    ring

end Along

theorem along_anomaly (he : 0 ≤ o.e) (he1 : o.e < 1) (t : ℝ) :
    o.Along k (fun s => Kepler.anomaly o.e (o.meanAnomaly k s)) t :=
  ⟨hasDerivAt_anomaly he he1 t, turns_vK he he1 (hasDerivAt_anomaly he he1 t)⟩

/-- Kepler's equation has one solution at each time. -/
theorem eq_anomaly (he : 0 ≤ o.e) (he1 : o.e < 1)
    (hE : ∀ s, E s - o.e * sin (E s) = o.meanAnomaly k s) :
    E = fun s => Kepler.anomaly o.e (o.meanAnomaly k s) := by
  have he' : (0 : ℝ) ≤ o.e := by exact_mod_cast he
  have he1' : (o.e : ℝ) < 1 := by exact_mod_cast he1
  exact funext fun s => (Kepler.eq_anomaly_iff he' he1').2 (hE s)

end Rates

/-- With the solution of Kepler's equation for the eccentric anomaly, the velocity is the derivative
of the position, at every time. -/
theorem moves_position (k : Constants) {o : Orbit} (he : 0 ≤ o.e) (he1 : o.e < 1) {E : ℝ → ℝ}
    (hE : ∀ s, E s - o.e * sin (E s) = o.meanAnomaly k s) (t : ℝ) :
    Moves (fun s => o.position k s (E s)) (o.velocity k t (E t)) t := by
  obtain rfl := eq_anomaly he he1 hE
  exact (along_anomaly he he1 t).position

/-- What `compute` returns: a function of what its loop gives for the eccentric anomaly, and with
the solution of Kepler's equation for that a point of the orbit and its velocity. -/
structure Computes (k : Constants) (o : Orbit) (tK : ℚ) (result : EphemerisResult)
    (resultAt : ℝ → EphemerisResult) : Prop where
  loop : result = resultAt (o.calculateEccentricAnomaly k tK)
  moves : ∀ E : ℝ → ℝ, (∀ s, E s - o.e * sin (E s) = o.meanAnomaly k s) →
    (resultAt (E tK)).position = o.position k tK (E tK) ∧
      Moves (fun s => o.position k s (E s)) (resultAt (E tK)).velocity tK

theorem computes_compute (k : Constants) {o : Orbit} (he : 0 ≤ o.e) (he1 : o.e < 1) (c : Clock)
    (tK tC : ℚ) : Computes k o tK (o.compute k c tK tC) (o.computeAt k c tK tC) :=
  ⟨rfl, fun _ hE => ⟨rfl, moves_position k he he1 hE tK⟩⟩

end Orbit

/-- **The velocity is the rate of the position**, for what `compute` returns for every satellite but
those of BeiDou that stay in place. -/
theorem compute_moves :
    (∀ (e : GpsEphemeris) (time : Ts.Gps), 0 ≤ e.e → e.e < 1 →
        e.toOrbit.Computes GpsEphemeris.constants (calculateElapsedTime time.mTm e.toe)
          (e.compute time) (e.toOrbit.computeAt GpsEphemeris.constants e.toClock
            (calculateElapsedTime time.mTm e.toe) (calculateElapsedTime time.mTm e.toc))) ∧
      (∀ (e : GalEphemeris) (time : Ts.Gst), 0 ≤ e.e → e.e < 1 →
        e.toOrbit.Computes GalEphemeris.constants (calculateElapsedTime time.mTm e.toe)
          (e.compute time) (e.toOrbit.computeAt GalEphemeris.constants e.toClock
            (calculateElapsedTime time.mTm e.toe) (calculateElapsedTime time.mTm e.toc))) ∧
      (∀ (e : QzsEphemeris) (time : Ts.Gps), 0 ≤ e.e → e.e < 1 →
        e.toOrbit.Computes QzsEphemeris.constants (calculateElapsedTime time.mTm e.toe)
          (e.compute time) (e.toOrbit.computeAt QzsEphemeris.constants e.toClock
            (calculateElapsedTime time.mTm e.toe) (calculateElapsedTime time.mTm e.toc))) ∧
      ∀ (e : BdsEphemeris) (time : Ts.Bdt), 0 ≤ e.e → e.e < 1 → e.isGeo = false →
        e.toOrbit.Computes BdsEphemeris.constants (calculateElapsedTime time.mTm e.toe)
          (e.compute time) (e.computeAt (calculateElapsedTime time.mTm e.toe)
            (calculateElapsedTime time.mTm e.toc)) := by
  refine ⟨fun e _ he he1 => Orbit.computes_compute _ he he1 _ _ _,
    fun e _ he he1 => Orbit.computes_compute _ he he1 _ _ _,
    fun e _ he he1 => Orbit.computes_compute _ he he1 _ _ _, fun e time he he1 hgeo => ?_⟩
  have hplain : e.computeAt (calculateElapsedTime time.mTm e.toe)
      (calculateElapsedTime time.mTm e.toc) = e.toOrbit.computeAt BdsEphemeris.constants e.toClock
        (calculateElapsedTime time.mTm e.toe) (calculateElapsedTime time.mTm e.toc) := by
    funext eK
    rw [BdsEphemeris.computeAt, hgeo, if_neg Bool.false_ne_true]
  have hcomputes := Orbit.computes_compute BdsEphemeris.constants he he1 e.toClock
    (calculateElapsedTime time.mTm e.toe) (calculateElapsedTime time.mTm e.toc)
  rw [hplain]
  refine ⟨?_, hcomputes.moves⟩
  rw [BdsEphemeris.compute, hplain]

/-- A satellite on this orbit. -/
def halfDayGps : GpsEphemeris := { endOfWeek with toOrbit := Orbit.halfDay }

theorem compute_moves_halfDay :
    Moves (fun s => Orbit.halfDay.position GpsEphemeris.constants s
        (Kepler.anomaly Orbit.halfDay.e (Orbit.halfDay.meanAnomaly GpsEphemeris.constants s)))
      (Orbit.halfDay.computeAt GpsEphemeris.constants halfDayGps.toClock
        (calculateElapsedTime 60 0) (calculateElapsedTime 60 halfDayGps.toc)
        (Kepler.anomaly Orbit.halfDay.e (Orbit.halfDay.meanAnomaly GpsEphemeris.constants
          (calculateElapsedTime 60 0)))).velocity (calculateElapsedTime 60 0) := by
  have hcomputes := compute_moves.1 halfDayGps ⟨60⟩ (by norm_num [halfDayGps, Orbit.halfDay])
    (by norm_num [halfDayGps, Orbit.halfDay])
  have he : (0 : ℝ) ≤ Orbit.halfDay.e := by norm_num [Orbit.halfDay]
  have he1 : (Orbit.halfDay.e : ℝ) < 1 := by norm_num [Orbit.halfDay]
  exact (hcomputes.moves _ fun s => (Kepler.eq_anomaly_iff he he1).1 rfl).2

/-! ### The satellites of BeiDou that stay in place -/

namespace BdsEphemeris

open Orbit (Along)

variable {e : BdsEphemeris} {E : ℝ → ℝ} {t : ℝ}

/-- The term that `dot_xg` has with the wrong sign. -/
def slip (e : BdsEphemeris) (tK eK : ℝ) : ℝ :=
  e.yKPrime eK * e.dotIK constants eK * sin (e.iK tK eK) * sin (e.omegaKGeo tK)

section

local instance two_atLeastTwo : Nat.AtLeastTwo 2 := ⟨le_refl 2⟩

/-- By how much the velocity is off. -/
def deviation (e : BdsEphemeris) (tK eK : ℝ) : Float3 where
  x := 2 * e.slip tK eK * cos (constants.omegaEarthDot * tK)
  y := -(2 * e.slip tK eK * sin (constants.omegaEarthDot * tK))
  z := 0

end

theorem hasDerivAt_omegaKGeo (e : BdsEphemeris) (t : ℝ) :
    HasDerivAt e.omegaKGeo e.omegaDot t := by
  have hlinear := ((hasDerivAt_id t).const_mul (e.omegaDot : ℝ)).const_add (e.omega0 : ℝ)
  exact (hlinear.sub_const (constants.omegaEarthDot * e.toe)).congr_deriv (mul_one _)

/-- In the frame that does not turn, one term of the first component has the wrong sign. -/
theorem moves_g (h : e.toOrbit.Along constants E t) :
    Moves (fun s => e.g s (E s)) (e.dotG t (E t) + ⟨2 * e.slip t (E t), 0, 0⟩) t where
  x := by
    have hnode := hasDerivAt_omegaKGeo e t
    refine ((h.xKPrime.mul hnode.cos).sub ((h.yKPrime.mul h.iK.cos).mul hnode.sin)).congr_deriv ?_
    simp only [dotG, slip, Float3.add_def, Pi.mul_apply]
    ring
  y := by
    have hnode := hasDerivAt_omegaKGeo e t
    refine ((h.xKPrime.mul hnode.sin).add ((h.yKPrime.mul h.iK.cos).mul hnode.cos)).congr_deriv ?_
    simp only [dotG, Float3.add_def, Pi.mul_apply]
    ring
  z := by
    refine (h.yKPrime.mul h.iK.sin).congr_deriv ?_
    simp only [dotG, Float3.add_def]
    ring

theorem moves_geoPosition (h : e.toOrbit.Along constants E t) :
    Moves (fun s => e.geoPosition s (E s)) (e.geoVelocity t (E t) + e.deviation t (E t)) t := by
  obtain ⟨hx, hy, hz⟩ := moves_g h
  have hturn : HasDerivAt (fun s => constants.omegaEarthDot * s) constants.omegaEarthDot t :=
    ((hasDerivAt_id t).const_mul _).congr_deriv (mul_one _)
  constructor
  · refine (((hx.mul hturn.cos).add ((hy.mul hturn.sin).mul_const cos5)).add
      ((hz.mul hturn.sin).mul_const sin5)).congr_deriv ?_
    simp only [geoVelocity, deviation, Float3.add_def]
    ring
  · refine (((hx.neg.mul hturn.sin).add ((hy.mul hturn.cos).mul_const cos5)).add
      ((hz.mul hturn.cos).mul_const sin5)).congr_deriv ?_
    simp only [geoVelocity, deviation, Float3.add_def, Pi.neg_apply]
    ring
  · refine ((hy.neg.mul_const sin5).add (hz.mul_const cos5)).congr_deriv ?_
    simp only [geoVelocity, deviation, Float3.add_def]
    ring

/-- What `compute` returns for a satellite that stays in place. -/
theorem computeAt_of_isGeo (hgeo : e.isGeo = true) (tK tC : ℚ) (eK : ℝ) :
    (e.computeAt tK tC eK).position = e.geoPosition tK eK ∧
      (e.computeAt tK tC eK).velocity = e.geoVelocity tK eK := by
  rw [computeAt, if_pos hgeo]
  exact ⟨rfl, rfl⟩

/-- **The velocity of a satellite that stays in place.**  It is not the derivative of the position,
but differs from it by twice the term that has the wrong sign, along the axis that the earth turns;
it is the derivative exactly when that term is zero. -/
theorem geoVelocity_iff (he : 0 ≤ e.e) (he1 : e.e < 1)
    (hE : ∀ s, E s - e.e * sin (E s) = e.meanAnomaly constants s) (t : ℝ) :
    (e.isGeo = true → ∀ (tK tC : ℚ) (eK : ℝ),
        (e.computeAt tK tC eK).position = e.geoPosition tK eK ∧
          (e.computeAt tK tC eK).velocity = e.geoVelocity tK eK) ∧
      Moves (fun s => e.geoPosition s (E s)) (e.geoVelocity t (E t) + e.deviation t (E t)) t ∧
      (Moves (fun s => e.geoPosition s (E s)) (e.geoVelocity t (E t)) t ↔ e.slip t (E t) = 0) := by
  obtain rfl := Orbit.eq_anomaly he he1 hE
  have hmoves := moves_geoPosition (Orbit.along_anomaly (k := constants) he he1 t)
  refine ⟨computeAt_of_isGeo, hmoves, fun hplain => ?_, fun hzero => ?_⟩
  · have hx := hmoves.x.unique hplain.x
    have hy := hmoves.y.unique hplain.y
    simp only [deviation, Float3.add_def, add_eq_left, neg_eq_zero] at hx hy
    have hunit := sin_sq_add_cos_sq (constants.omegaEarthDot * t)
    generalize e.slip t _ = d at hx hy ⊢
    linear_combination (-d) * hunit + (sin (constants.omegaEarthDot * t) / 2) * hy +
      (cos (constants.omegaEarthDot * t) / 2) * hx
  · have hnone : e.deviation t (Kepler.anomaly e.e (e.meanAnomaly constants t)) = ⟨0, 0, 0⟩ := by
      simp only [deviation, hzero, mul_zero, zero_mul, neg_zero]
    rw [hnone] at hmoves
    simpa only [Float3.add_def, add_zero] using hmoves

/-- A satellite on the inclined orbit, but for its eccentricity. -/
def inclined : BdsEphemeris where
  toOrbit := { Orbit.halfDay with e := 0 }
  toc := 0
  af2 := 0
  af1 := 0
  af0 := 0
  prn := 1
  weekNumber := 0
  svHealth := 0
  lppIod := 0
  iode := 0
  iodc := 0
  aode := 0
  aodc := 0
  tocTime := ⟨0⟩
  toeTime := ⟨0⟩

theorem slip_inclined : 0 < inclined.slip 0 0 := by
  have hsin : 0 < sin 1 := sin_pos_of_pos_of_lt_pi one_pos (by linarith [pi_gt_three])
  have hstart : Complex.arg ⟨1, 0⟩ = 0 := Complex.arg_one
  have hslip : inclined.slip 0 0 = 26560000 * sin 1 * (1 / 10 ^ 10) * sin 1 * sin 1 := by
    simp [slip, inclined, Orbit.halfDay, Orbit.yKPrime, Orbit.rK, Orbit.uK, Orbit.phiK, Orbit.vK,
      Orbit.harmonic, Orbit.dotIK, Orbit.dotHarmonic, Orbit.iK, omegaKGeo, atan2, hstart]
  rw [hslip]
  positivity

theorem geoVelocity_iff_inclined :
    Moves (fun s => inclined.geoPosition s (inclined.meanAnomaly constants s))
        (inclined.geoVelocity 0 (inclined.meanAnomaly constants 0) +
          inclined.deviation 0 (inclined.meanAnomaly constants 0)) 0 ∧
      ¬ Moves (fun s => inclined.geoPosition s (inclined.meanAnomaly constants s))
        (inclined.geoVelocity 0 (inclined.meanAnomaly constants 0)) 0 := by
  obtain ⟨-, hmoves, hiff⟩ := geoVelocity_iff (e := inclined)
    (E := fun s => inclined.meanAnomaly constants s) (by norm_num [inclined])
    (by norm_num [inclined]) (fun s => by simp [inclined]) 0
  have hstart : inclined.meanAnomaly constants 0 = 0 := by
    simp [Orbit.meanAnomaly, inclined, Orbit.halfDay]
  refine ⟨hmoves, fun hplain => ?_⟩
  have hzero := hiff.1 hplain
  rw [hstart] at hzero
  exact slip_inclined.ne' hzero

end BdsEphemeris

/-! ### The relativistic corrections -/

namespace Orbit

variable (k : Constants) (o : Orbit)

/-- Position and velocity: what is left of their product is the change of the radius. -/
theorem dotProduct_position_velocity (tK eK : ℝ) :
    Windup.dotProduct (o.position k tK eK) (o.velocity k tK eK) = o.rK eK * o.dotRK k eK := by
  have hnode := sin_sq_add_cos_sq (o.omegaK k tK)
  have hplane := sin_sq_add_cos_sq (o.iK tK eK)
  have hangle := sin_sq_add_cos_sq (o.uK eK)
  have hinPlane : o.xKPrime eK * o.dotXKPrime k eK + o.yKPrime eK * o.dotYKPrime k eK =
      o.rK eK * o.dotRK k eK := by
    simp only [xKPrime, dotXKPrime, yKPrime, dotYKPrime]
    linear_combination o.rK eK * o.dotRK k eK * hangle
  rw [← hinPlane]
  simp only [Windup.dotProduct, position, velocity]
  linear_combination (o.xKPrime eK * o.dotXKPrime k eK +
      o.yKPrime eK * o.dotYKPrime k eK * cos (o.iK tK eK) ^ 2 -
      o.yKPrime eK ^ 2 * o.dotIK k eK * cos (o.iK tK eK) * sin (o.iK tK eK)) * hnode +
    o.yKPrime eK * o.dotYKPrime k eK * hplane

/-- The radius of an orbit without perturbations of it. -/
theorem rK_mul_dotRK (ha : 0 < o.a) (hcrs : o.crs = 0) (hcrc : o.crc = 0) {eK : ℝ}
    (heK : 1 - o.e * cos eK ≠ 0) :
    o.rK eK * o.dotRK k eK * √(k.mu / (o.a : ℝ) ^ 3) =
      sin eK * o.e * √(o.a * k.mu) * o.meanMotion k := by
  have ha' : (0 : ℝ) < o.a := by exact_mod_cast ha
  have hroot : √(o.a * k.mu) = (o.a : ℝ) ^ 2 * √(k.mu / (o.a : ℝ) ^ 3) := by
    rw [show (o.a : ℝ) * k.mu = ((o.a : ℝ) ^ 2) ^ 2 * (k.mu / (o.a : ℝ) ^ 3) by field_simp,
      sqrt_mul (sq_nonneg _), sqrt_sq (sq_nonneg _)]
  rw [hroot]
  simp only [rK, dotRK, harmonic, dotHarmonic, calculateEccentricAnomalyRate, hcrs, hcrc,
    Rat.cast_zero, zero_mul, add_zero, sub_zero, mul_zero]
  field_simp

/-- **The two relativistic corrections.**  The one that `compute` takes from position and velocity
is that of the change of the radius; where nothing perturbs the radius it and the broadcast one are
to each other as the mean motion with its correction and without it. -/
theorem relativistic_corrections (c : Clock) (ha : 0 < o.a) (he : 0 ≤ o.e) (he1 : o.e < 1)
    (tK tC : ℚ) :
    (o.compute k c tK tC).relativisticCorrectionDotrv =
        (-2) * (o.rK (o.calculateEccentricAnomaly k tK) *
          o.dotRK k (o.calculateEccentricAnomaly k tK)) / (k.c * k.c) ∧
      (o.crs = 0 → o.crc = 0 →
        (o.compute k c tK tC).relativisticCorrectionDotrv * √(k.mu / (o.a : ℝ) ^ 3) =
          (o.compute k c tK tC).relativisticCorrectionBrdc * o.meanMotion k) := by
  have he' : (0 : ℝ) ≤ o.e := by exact_mod_cast he
  have he1' : (o.e : ℝ) < 1 := by exact_mod_cast he1
  have hdotrv : (o.compute k c tK tC).relativisticCorrectionDotrv =
      (-2) * (o.rK (o.calculateEccentricAnomaly k tK) *
        o.dotRK k (o.calculateEccentricAnomaly k tK)) / (k.c * k.c) := by
    rw [← dotProduct_position_velocity k o tK]
    rfl
  refine ⟨hdotrv, fun hcrs hcrc => ?_⟩
  have hradius := rK_mul_dotRK k o ha hcrs hcrc
    (Kepler.slope_pos he' he1' (o.calculateEccentricAnomaly k tK)).2.ne'
  have hbrdc : (o.compute k c tK tC).relativisticCorrectionBrdc =
      (-2) * sin (o.calculateEccentricAnomaly k tK) * o.e * √(o.a * k.mu) / (k.c * k.c) := rfl
  rw [hdotrv, hbrdc]
  linear_combination ((-2) / (k.c * k.c)) * hradius

theorem relativistic_corrections_halfDay :
    (halfDay.compute GpsEphemeris.constants ⟨0, 0, 0, 0⟩ 60 60).relativisticCorrectionDotrv *
        √(GpsEphemeris.constants.mu / (halfDay.a : ℝ) ^ 3) =
      (halfDay.compute GpsEphemeris.constants ⟨0, 0, 0, 0⟩ 60 60).relativisticCorrectionBrdc *
        halfDay.meanMotion GpsEphemeris.constants :=
  (relativistic_corrections GpsEphemeris.constants halfDay ⟨0, 0, 0, 0⟩ (by norm_num [halfDay])
    (by norm_num [halfDay]) (by norm_num [halfDay]) 60 60).2 rfl rfl

end Orbit

end

end SuplLpp
