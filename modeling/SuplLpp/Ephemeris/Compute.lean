import SuplLpp.Gnss.Validity
import SuplLpp.Tokoro.PhaseWindup

/-!
# The position and the velocity of a satellite

`compute` of the broadcast ephemerides, over the real numbers.

* `Constants` of a system; `GpsEphemeris.constants` and the like;
* `Orbit.calculateEccentricAnomaly` and the loop in it;
* `vK`, `phiK`, `uK`, `rK`, `iK`, `omegaK`, with the rate of each, and `position` and `velocity`;
* `BdsEphemeris.geoPosition` and `geoVelocity`, for the satellites of BeiDou that stay in place;
* `GpsEphemeris.compute` and the like.
-/

namespace SuplLpp

noncomputable section

open Real Windup

local instance two_atLeastTwo : Nat.AtLeastTwo 2 := ⟨le_refl 2⟩

structure Constants where
  mu : ℝ
  omegaEarthDot : ℝ
  c : ℝ

def GpsEphemeris.constants : Constants where
  mu := 3.986005e14
  omegaEarthDot := 7.2921151467e-5
  c := 2.99792458e8

def GalEphemeris.constants : Constants where
  mu := 3.986004418e14
  omegaEarthDot := 7.2921151467e-5
  c := 2.99792458e8

def BdsEphemeris.constants : Constants where
  mu := 3.986004418e14
  omegaEarthDot := 7.2921150e-5
  c := 2.99792458e8

def QzsEphemeris.constants : Constants where
  mu := 3.986005e14
  omegaEarthDot := 7.2921151467e-5
  c := 2.99792458e8

/-! ### The eccentric anomaly -/

/-- The loop of `calculate_eccentric_anomaly`. -/
def eccentricAnomalyLoop (e mK : ℝ) : ℕ → ℝ → ℝ
  | 0, eK => eK
  | rounds + 1, eK =>
    let eKSin := e * sin eK
    let eKCos := e * cos eK
    let newEK := eK + (mK - eK + eKSin) / (1 - eKCos)
    let deltaEK := |newEK - eK|
    if deltaEK < 1e-12 then eK else eccentricAnomalyLoop e mK rounds newEK

namespace Orbit

variable (k : Constants) (o : Orbit)

/-- The mean motion `n`. -/
def meanMotion : ℝ := √(k.mu / (o.a : ℝ) ^ 3) + o.deltaN

/-- The mean anomaly `m_k`. -/
def meanAnomaly (tK : ℝ) : ℝ := o.m0 + o.meanMotion k * tK

def calculateEccentricAnomaly (tK : ℝ) : ℝ :=
  let mK := o.meanAnomaly k tK
  eccentricAnomalyLoop o.e mK 30 mK

def calculateEccentricAnomalyRate (eK : ℝ) : ℝ := o.meanMotion k / (1 - o.e * cos eK)

/-! ### The orbital plane -/

/-- The true anomaly. -/
def vK (eK : ℝ) : ℝ := atan2 (√(1 - (o.e : ℝ) * o.e) * sin eK) (cos eK - o.e)

def dotVK (eK : ℝ) : ℝ :=
  o.calculateEccentricAnomalyRate k eK * √(1 - (o.e : ℝ) * o.e) / (1 - o.e * cos eK)

/-- The argument of latitude. -/
def phiK (eK : ℝ) : ℝ := o.vK eK + o.omega

/-- A second harmonic perturbation. -/
def harmonic (s c : ℚ) (eK : ℝ) : ℝ := s * sin (2 * o.phiK eK) + c * cos (2 * o.phiK eK)

def dotHarmonic (s c : ℚ) (eK : ℝ) : ℝ :=
  2 * o.dotVK k eK * (s * cos (2 * o.phiK eK) - c * sin (2 * o.phiK eK))

/-- The corrected argument of latitude. -/
def uK (eK : ℝ) : ℝ := o.phiK eK + o.harmonic o.cus o.cuc eK

def dotUK (eK : ℝ) : ℝ := o.dotVK k eK + o.dotHarmonic k o.cus o.cuc eK

/-- The corrected radius. -/
def rK (eK : ℝ) : ℝ := o.a * (1 - o.e * cos eK) + o.harmonic o.crs o.crc eK

def dotRK (eK : ℝ) : ℝ :=
  o.e * o.a * o.calculateEccentricAnomalyRate k eK * sin eK + o.dotHarmonic k o.crs o.crc eK

/-- The corrected inclination. -/
def iK (tK eK : ℝ) : ℝ := o.i0 + o.harmonic o.cis o.cic eK + o.idot * tK

def dotIK (eK : ℝ) : ℝ := o.idot + o.dotHarmonic k o.cis o.cic eK

def xKPrime (eK : ℝ) : ℝ := o.rK eK * cos (o.uK eK)

def yKPrime (eK : ℝ) : ℝ := o.rK eK * sin (o.uK eK)

def dotXKPrime (eK : ℝ) : ℝ :=
  o.dotRK k eK * cos (o.uK eK) - o.rK eK * o.dotUK k eK * sin (o.uK eK)

def dotYKPrime (eK : ℝ) : ℝ :=
  o.dotRK k eK * sin (o.uK eK) + o.rK eK * o.dotUK k eK * cos (o.uK eK)

/-! ### The frame of the earth -/

/-- The corrected longitude of the ascending node. -/
def omegaK (tK : ℝ) : ℝ :=
  o.omega0 + (o.omegaDot - k.omegaEarthDot) * tK - k.omegaEarthDot * o.toe

def dotOmegaK : ℝ := o.omegaDot - k.omegaEarthDot

def position (tK eK : ℝ) : Float3 where
  x := o.xKPrime eK * cos (o.omegaK k tK) -
    o.yKPrime eK * sin (o.omegaK k tK) * cos (o.iK tK eK)
  y := o.xKPrime eK * sin (o.omegaK k tK) +
    o.yKPrime eK * cos (o.omegaK k tK) * cos (o.iK tK eK)
  z := o.yKPrime eK * sin (o.iK tK eK)

def velocity (tK eK : ℝ) : Float3 where
  x := -o.xKPrime eK * o.dotOmegaK k * sin (o.omegaK k tK) +
    o.dotXKPrime k eK * cos (o.omegaK k tK) -
    o.dotYKPrime k eK * sin (o.omegaK k tK) * cos (o.iK tK eK) -
    o.yKPrime eK * (o.dotOmegaK k * cos (o.omegaK k tK) * cos (o.iK tK eK) -
      o.dotIK k eK * sin (o.omegaK k tK) * sin (o.iK tK eK))
  y := o.xKPrime eK * o.dotOmegaK k * cos (o.omegaK k tK) +
    o.dotXKPrime k eK * sin (o.omegaK k tK) +
    o.dotYKPrime k eK * cos (o.omegaK k tK) * cos (o.iK tK eK) -
    o.yKPrime eK * (o.dotOmegaK k * sin (o.omegaK k tK) * cos (o.iK tK eK) +
      o.dotIK k eK * cos (o.omegaK k tK) * sin (o.iK tK eK))
  z := o.dotYKPrime k eK * sin (o.iK tK eK) + o.yKPrime eK * o.dotIK k eK * cos (o.iK tK eK)

end Orbit

/-! ### The satellites of BeiDou that stay in place -/

namespace BdsEphemeris

/-- `cos(-5°)`. -/
def cos5 : ℝ := 0.99619469809174553229

/-- `sin(-5°)`. -/
def sin5 : ℝ := -0.08715574274765817355

variable (e : BdsEphemeris)

def isGeo : Bool := (e.prn ≥ 1 && e.prn ≤ 5) || (e.prn ≥ 59 && e.prn ≤ 63)

def omegaKGeo (tK : ℝ) : ℝ := e.omega0 + e.omegaDot * tK - constants.omegaEarthDot * e.toe

/-- The position in a frame that does not turn. -/
def g (tK eK : ℝ) : Float3 where
  x := e.xKPrime eK * cos (e.omegaKGeo tK) -
    e.yKPrime eK * cos (e.iK tK eK) * sin (e.omegaKGeo tK)
  y := e.xKPrime eK * sin (e.omegaKGeo tK) +
    e.yKPrime eK * cos (e.iK tK eK) * cos (e.omegaKGeo tK)
  z := e.yKPrime eK * sin (e.iK tK eK)

def dotG (tK eK : ℝ) : Float3 where
  x := e.dotXKPrime constants eK * cos (e.omegaKGeo tK) -
    e.xKPrime eK * e.omegaDot * sin (e.omegaKGeo tK) -
    e.dotYKPrime constants eK * cos (e.iK tK eK) * sin (e.omegaKGeo tK) -
    e.yKPrime eK * e.dotIK constants eK * sin (e.iK tK eK) * sin (e.omegaKGeo tK) -
    e.yKPrime eK * cos (e.iK tK eK) * e.omegaDot * cos (e.omegaKGeo tK)
  y := e.dotXKPrime constants eK * sin (e.omegaKGeo tK) +
    e.xKPrime eK * e.omegaDot * cos (e.omegaKGeo tK) +
    e.dotYKPrime constants eK * cos (e.iK tK eK) * cos (e.omegaKGeo tK) -
    e.yKPrime eK * e.dotIK constants eK * sin (e.iK tK eK) * cos (e.omegaKGeo tK) -
    e.yKPrime eK * cos (e.iK tK eK) * e.omegaDot * sin (e.omegaKGeo tK)
  z := e.dotYKPrime constants eK * sin (e.iK tK eK) +
    e.yKPrime eK * e.dotIK constants eK * cos (e.iK tK eK)

def geoPosition (tK eK : ℝ) : Float3 :=
  let g := e.g tK eK
  let omegaET := constants.omegaEarthDot * tK
  { x := g.x * cos omegaET + g.y * sin omegaET * cos5 + g.z * sin omegaET * sin5
    y := -g.x * sin omegaET + g.y * cos omegaET * cos5 + g.z * cos omegaET * sin5
    z := -g.y * sin5 + g.z * cos5 }

def geoVelocity (tK eK : ℝ) : Float3 :=
  let g := e.g tK eK
  let dotG := e.dotG tK eK
  let omegaET := constants.omegaEarthDot * tK
  { x := dotG.x * cos omegaET - g.x * constants.omegaEarthDot * sin omegaET +
      dotG.y * sin omegaET * cos5 + g.y * constants.omegaEarthDot * cos omegaET * cos5 +
      dotG.z * sin omegaET * sin5 + g.z * constants.omegaEarthDot * cos omegaET * sin5
    y := -dotG.x * sin omegaET - g.x * constants.omegaEarthDot * cos omegaET +
      dotG.y * cos omegaET * cos5 - g.y * constants.omegaEarthDot * sin omegaET * cos5 +
      dotG.z * cos omegaET * sin5 - g.z * constants.omegaEarthDot * sin omegaET * sin5
    z := -dotG.y * sin5 + dotG.z * cos5 }

end BdsEphemeris

/-! ### The clock and the relativistic corrections -/

/-- `calculate_clock_bias`, with the time since the reference time of the clock. -/
def Clock.calculateClockBias (c : Clock) (tK : ℚ) : ℚ :=
  let tB := tK
  let tB := tK - (c.af0 + c.af1 * tB + c.af2 * tB * tB)
  let tB := tK - (c.af0 + c.af1 * tB + c.af2 * tB * tB)
  c.af0 + c.af1 * tB + c.af2 * tB * tB

def calculateRelativisticCorrection (k : Constants) (position velocity : Float3) : ℝ :=
  (-2) * Windup.dotProduct position velocity / (k.c * k.c)

def Orbit.calculateRelativisticCorrectionIdc (k : Constants) (o : Orbit) (eK : ℝ) : ℝ :=
  (-2) * sin eK * o.e * √(o.a * k.mu) / (k.c * k.c)

/-! ### `compute` -/

structure EphemerisResult where
  position : Float3
  velocity : Float3
  clock : ℝ
  relativisticCorrectionBrdc : ℝ
  relativisticCorrectionDotrv : ℝ

/-- The end of `compute`. -/
def Orbit.result (k : Constants) (o : Orbit) (eK : ℝ) (position velocity : Float3) (clock : ℚ) :
    EphemerisResult where
  position := position
  velocity := velocity
  clock := clock
  relativisticCorrectionBrdc := o.calculateRelativisticCorrectionIdc k eK
  relativisticCorrectionDotrv := calculateRelativisticCorrection k position velocity

/-- `compute` from the eccentric anomaly on, with the times since the two reference times. -/
def Orbit.computeAt (k : Constants) (o : Orbit) (c : Clock) (tK tC : ℚ) (eK : ℝ) :
    EphemerisResult :=
  o.result k eK (o.position k tK eK) (o.velocity k tK eK) (c.calculateClockBias tC)

def Orbit.compute (k : Constants) (o : Orbit) (c : Clock) (tK tC : ℚ) : EphemerisResult :=
  o.computeAt k c tK tC (o.calculateEccentricAnomaly k tK)

def GpsEphemeris.compute (e : GpsEphemeris) (time : Ts.Gps) : EphemerisResult :=
  e.toOrbit.compute GpsEphemeris.constants e.toClock (calculateElapsedTime time.mTm e.toe)
    (calculateElapsedTime time.mTm e.toc)

def GalEphemeris.compute (e : GalEphemeris) (time : Ts.Gst) : EphemerisResult :=
  e.toOrbit.compute GalEphemeris.constants e.toClock (calculateElapsedTime time.mTm e.toe)
    (calculateElapsedTime time.mTm e.toc)

def QzsEphemeris.compute (e : QzsEphemeris) (time : Ts.Gps) : EphemerisResult :=
  e.toOrbit.compute QzsEphemeris.constants e.toClock (calculateElapsedTime time.mTm e.toe)
    (calculateElapsedTime time.mTm e.toc)

def BdsEphemeris.computeAt (e : BdsEphemeris) (tK tC : ℚ) (eK : ℝ) : EphemerisResult :=
  if e.isGeo then
    e.result constants eK (e.geoPosition tK eK) (e.geoVelocity tK eK) (e.calculateClockBias tC)
  else e.toOrbit.computeAt constants e.toClock tK tC eK

def BdsEphemeris.compute (e : BdsEphemeris) (time : Ts.Bdt) : EphemerisResult :=
  let tK := calculateElapsedTime time.mTm e.toe
  e.computeAt tK (calculateElapsedTime time.mTm e.toc) (e.calculateEccentricAnomaly constants tK)

end

end SuplLpp
