import SuplLpp.Lib.FloorLog
import SuplLpp.Time.Timestamp

/-!
# Location reports

What the client knows of its location, and the integers of the message that reports it.

* `LocationInformation`, `HaGnssMetrics` and the message `ProvideLocationInformation`;
* `encodeLatitude` and the others, `createProvideLocationInformation`, as the source has them; a
  cast to `long` outside its range has no result;
* `Field`: an integer in its range, one step off at most; `Describes`, that every integer of a
  message is so;
* `describes_iff`: for which data there is a message that describes it.
-/

namespace SuplLpp.Lpp

/-! ### Data -/

/-- Numbers of a confidence of 0 to 1, lengths in metres and angles in degrees. -/
structure HorizontalAccuracy where
  semiMajor : ℚ
  semiMinor : ℚ
  orientation : ℚ
  confidence : ℚ

structure VerticalAccuracy where
  uncertainty : ℚ
  confidence : ℚ

inductive VerticalDirection
  | up
  | down
  deriving DecidableEq

/-- The shapes of a location: a point with an ellipse, or with an altitude and an ellipsoid. -/
inductive LocationShape
  | haepue (latitude longitude : ℚ) (horizontalAccuracy : HorizontalAccuracy)
  | haepaue (latitude longitude altitude : ℚ) (horizontalAccuracy : HorizontalAccuracy)
      (verticalAccuracy : VerticalAccuracy)

/-- The shapes of a velocity; speeds are in metres per second. -/
inductive VelocityShape
  | hv (speed bearing : ℚ)
  | hvv (speed bearing verticalSpeed : ℚ) (direction : VerticalDirection)
  | hvu (speed uncertainty bearing : ℚ)
  | hvvu (speed uncertainty bearing verticalSpeed verticalUncertainty : ℚ)
      (direction : VerticalDirection)

structure LocationInformation where
  time : Ts.Tai
  location : Option LocationShape
  velocity : Option VelocityShape

inductive FixQuality
  | invalid | standalone | dgpsFix | ppsFix | rtkFix | rtkFloat | deadReckoning | manualInput
  | simulation | waasFix
  deriving DecidableEq

structure HaGnssMetrics where
  fixQuality : FixQuality
  numberOfSatellites : ℤ
  ageOfCorrections : Option ℚ
  hdop : Option ℚ
  pdop : Option ℚ

/-- `messages::ProvideLocationInformation`. -/
structure LocationReport where
  locationInformation : Option LocationInformation
  gnssMetrics : Option HaGnssMetrics

/-! ### The message -/

namespace Message

inductive LocationCoordinates
  | haepue (degreesLatitude degreesLongitude uncertaintySemiMajor uncertaintySemiMinor
      orientationMajorAxis confidence : ℤ)
  | haepaue (degreesLatitude degreesLongitude altitude uncertaintySemiMajor uncertaintySemiMinor
      orientationMajorAxis horizontalConfidence uncertaintyAltitude verticalConfidence : ℤ)

inductive Velocity
  | horizontalVelocity (bearing horizontalSpeed : ℤ)
  | horizontalWithVerticalVelocity (bearing horizontalSpeed : ℤ)
      (verticalDirection : VerticalDirection) (verticalSpeed : ℤ)
  | horizontalVelocityWithUncertainty (bearing horizontalSpeed uncertaintySpeed : ℤ)
  | horizontalWithVerticalVelocityAndUncertainty (bearing horizontalSpeed : ℤ)
      (verticalDirection : VerticalDirection)
      (verticalSpeed horizontalUncertaintySpeed verticalUncertaintySpeed : ℤ)

/-- `fixType_r17`. -/
inductive FixType
  | carrierPhaseFix
  | carrierPhaseFloat
  deriving DecidableEq

structure HaGnssMetricsR17 where
  nrOfUsedSatellites : ℤ
  hdopi : Option ℤ
  pdopi : Option ℤ
  age : Option ℤ
  fixType : Option FixType

/-- The reference time of the measurement, and the metrics. -/
structure GnssLocationInformation where
  gnssTodMsec : ℤ
  gnssTodFrac : Option ℤ
  metrics : Option HaGnssMetricsR17

/-- `locationError` is there or not; it is always that measurements are not available. -/
structure CommonIes where
  locationEstimate : Option LocationCoordinates
  velocityEstimate : Option Velocity
  locationError : Bool

structure ProvideLocationInformation where
  common : CommonIes
  gnss : Option GnssLocationInformation

end Message

/-! ### Encoding -/

/-- A cast to `long`, towards zero. -/
def toLong (x : ℚ) : Option ℤ :=
  let n := if 0 ≤ x then ⌊x⌋ else ⌈x⌉
  if -2 ^ 63 ≤ n ∧ n < 2 ^ 63 then some n else none

/-- `if (value < lower) value = lower; if (value > upper) value = upper;` -/
def clampTo {α : Type} [LT α] [DecidableLT α] (lower upper value : α) : α :=
  let value := if value < lower then lower else value
  if value > upper then upper else value

/-- The degrees of a quarter or of half a circle as 31 bits; `≤` and `≥` make no difference. -/
def encodeDegrees (range degrees : ℚ) : Option ℤ :=
  toLong (clampTo (-2147483648) 2147483647 (degrees / range * 2 ^ 31))

def encodeLatitude (lat : ℚ) : Option ℤ := encodeDegrees 90 lat

def encodeLongitude (lon : ℚ) : Option ℤ := encodeDegrees 180 lon

/-- The logarithm has no result at zero and below. -/
def encodeHaUncertainity (r : ℚ) : Option ℤ :=
  let c := 0.3
  let x := 0.02
  if 0 < r / c + 1 then some (clampTo 0 255 (FloorLog.truncLog (1 + x) (r / c + 1))) else none

def encodeHaAltitude (a : ℚ) : Option ℤ := (toLong (a * 128)).map (clampTo (-64000) 1280000)

def encodeOrientation (orientation : ℚ) : Option ℤ := (toLong orientation).map (clampTo 0 179)

def encodeConfidence (confidence : ℚ) : Option ℤ := (toLong (confidence * 100)).map (clampTo 0 100)

/-- In kilometres an hour, halves up. -/
def encodeVelocity (vel : ℚ) (max : ℤ) : Option ℤ :=
  let vel := |vel| * 3.6
  if vel < 0.5 then some 0
  else if vel ≥ max + 0.5 then some max
  else toLong ⌊vel + 1 / 2⌋

/-- `while (bearing < 0.0) bearing += 360.0;` -/
def raiseBearing (bearing : ℚ) : ℚ :=
  if bearing < 0 then raiseBearing (bearing + 360) else bearing
termination_by ⌈-bearing⌉.toNat
decreasing_by
  have hpos : 0 < ⌈-bearing⌉ := Int.ceil_pos.2 (by linarith)
  have hstep : ⌈-(bearing + 360)⌉ = ⌈-bearing⌉ - 360 := by
    rw [← Int.ceil_sub_ofNat]
    congr 1
    ring
  omega

/-- `while (bearing >= 360.0) bearing -= 360.0;` -/
def lowerBearing (bearing : ℚ) : ℚ :=
  if bearing ≥ 360 then lowerBearing (bearing - 360) else bearing
termination_by ⌊bearing⌋.toNat
decreasing_by
  have hpos : 360 ≤ ⌊bearing⌋ := Int.le_floor.2 (by push_cast; linarith)
  have hstep : ⌊bearing - 360⌋ = ⌊bearing⌋ - 360 := Int.floor_sub_ofNat ..
  omega

def encodeBearing (bearing : ℚ) : Option ℤ :=
  (toLong (lowerBearing (raiseBearing bearing))).map (clampTo 0 359)

/-- `location_coordinates`. -/
def locationCoordinates : LocationShape → Option Message.LocationCoordinates
  | .haepue latitude longitude accuracy => do
      return .haepue (← encodeLatitude latitude) (← encodeLongitude longitude)
        (← encodeHaUncertainity accuracy.semiMajor) (← encodeHaUncertainity accuracy.semiMinor)
        (← encodeOrientation accuracy.orientation) (← encodeConfidence accuracy.confidence)
  | .haepaue latitude longitude altitude accuracy vertical => do
      return .haepaue (← encodeLatitude latitude) (← encodeLongitude longitude)
        (← encodeHaAltitude altitude)
        (← encodeHaUncertainity accuracy.semiMajor) (← encodeHaUncertainity accuracy.semiMinor)
        (← encodeOrientation accuracy.orientation) (← encodeConfidence accuracy.confidence)
        (← encodeHaUncertainity vertical.uncertainty) (← encodeConfidence vertical.confidence)

def velocity : VelocityShape → Option Message.Velocity
  | .hv speed bearing => do
      return .horizontalVelocity (← encodeBearing bearing) (← encodeVelocity speed 2047)
  | .hvv speed bearing verticalSpeed direction => do
      return .horizontalWithVerticalVelocity (← encodeBearing bearing)
        (← encodeVelocity speed 2047) direction (← encodeVelocity verticalSpeed 255)
  | .hvu speed uncertainty bearing => do
      return .horizontalVelocityWithUncertainty (← encodeBearing bearing)
        (← encodeVelocity speed 2047) (← encodeVelocity uncertainty 255)
  | .hvvu speed uncertainty bearing verticalSpeed verticalUncertainty direction => do
      return .horizontalWithVerticalVelocityAndUncertainty (← encodeBearing bearing)
        (← encodeVelocity speed 2047) direction (← encodeVelocity verticalSpeed 255)
        (← encodeVelocity uncertainty 255) (← encodeVelocity verticalUncertainty 255)

/-- `common_ies_provide_location_information`. -/
def commonIes (data : LocationReport) : Option Message.CommonIes :=
  match data.locationInformation with
  | some info => do
      return ⟨← info.location.mapM locationCoordinates, ← info.velocity.mapM velocity, false⟩
  | none => some ⟨none, none, true⟩

def fixType : FixQuality → Option Message.FixType
  | .rtkFix => some .carrierPhaseFix
  | .rtkFloat => some .carrierPhaseFloat
  | _ => none

/-- `lpp_ha_gnss_metrics_r17`. -/
def lppHaGnssMetricsR17 (metrics : HaGnssMetrics) : Option Message.HaGnssMetricsR17 := do
  let age ← metrics.ageOfCorrections.mapM fun age => toLong (clampTo 0 99 (age / 0.1))
  let hdopi ← metrics.hdop.mapM fun hdop => toLong (clampTo 1 256 (hdop / 0.1))
  -- here the value is clamped as well, but it is the one before that is written
  let pdopi ← metrics.pdop.mapM fun pdop => toLong (pdop / 0.1)
  return ⟨metrics.numberOfSatellites, hdopi, pdopi, age, fixType metrics.fixQuality⟩

/-- Milliseconds of the hour, and the rest in units of 250 nanoseconds. -/
def measurementReferenceTime (tod : Ts.Timestamp) : Option (ℤ × Option ℤ) := do
  let msec ← toLong (tod * 1000)
  let nfrac := (tod * 1000 - msec) * (1000 * 4)
  let frac ← if nfrac > 0 then (toLong nfrac).map some else some none
  return (msec.tmod (3600 * 1000), frac)

/-- `gnss_location_information`. -/
def gnssLocationInformation (data : LocationReport) :
    Option (Option Message.GnssLocationInformation) :=
  data.locationInformation.mapM fun info => do
    let (msec, frac) ← measurementReferenceTime (Ts.timeOfDay (Ts.Gps.ofTai info.time).mTm)
    return ⟨msec, frac, ← data.gnssMetrics.mapM lppHaGnssMetricsR17⟩

def createProvideLocationInformation (data : LocationReport) :
    Option Message.ProvideLocationInformation := do
  return ⟨← commonIes data, ← gnssLocationInformation data⟩

/-! ### What a message describes -/

/-- An integer of the message in its range which, where the input is between `first` and `last`,
is no more than one step off. -/
structure Field (lower upper : ℤ) (resolution first last input : ℚ) (value : ℤ) : Prop where
  range : lower ≤ value ∧ value ≤ upper
  near : first ≤ input → input ≤ last → |value * resolution - input| ≤ resolution

/-- The steps of an uncertainty grow with it: `value` stands for `0.3 * (1.02 ^ value - 1)`. -/
structure UncertaintyField (r : ℚ) (value : ℤ) : Prop where
  range : 0 ≤ value ∧ value ≤ 255
  near : 0 ≤ r → r ≤ 0.3 * (1.02 ^ 255 - 1) →
    0.3 * (1.02 ^ value.toNat - 1) ≤ r ∧ r ≤ 0.3 * (1.02 ^ (value.toNat + 1) - 1)

/-- A bearing, whole turns aside. -/
structure BearingField (bearing : ℚ) (value : ℤ) : Prop where
  range : 0 ≤ value ∧ value ≤ 359
  near : ∃ turns : ℤ, |value + 360 * turns - bearing| ≤ 1

abbrev LatitudeField := Field (-2147483648) 2147483647 (90 / 2 ^ 31) (-90) 90

abbrev LongitudeField := Field (-2147483648) 2147483647 (180 / 2 ^ 31) (-180) 180

abbrev AltitudeField := Field (-64000) 1280000 (1 / 128) (-500) 10000

abbrev OrientationField := Field 0 179 1 0 180

abbrev ConfidenceField := Field 0 100 (1 / 100) 0 1

/-- A speed without its sign. -/
abbrev SpeedField (upper : ℤ) (speed : ℚ) : ℤ → Prop :=
  Field 0 upper (1 / 3.6) 0 (upper / 3.6) |speed|

abbrev AgeField := Field 0 99 (1 / 10) 0 9.9

abbrev DopField := Field 1 256 (1 / 10) 0.1 25.6

namespace Message

def LocationCoordinates.Describes : LocationCoordinates → LocationShape → Prop
  | .haepue degreesLatitude degreesLongitude semiMajor semiMinor orientation confidence,
    .haepue latitude longitude accuracy =>
      LatitudeField latitude degreesLatitude ∧ LongitudeField longitude degreesLongitude ∧
        UncertaintyField accuracy.semiMajor semiMajor ∧
        UncertaintyField accuracy.semiMinor semiMinor ∧
        OrientationField accuracy.orientation orientation ∧
        ConfidenceField accuracy.confidence confidence
  | .haepaue degreesLatitude degreesLongitude altitude semiMajor semiMinor orientation confidence
      uncertaintyAltitude verticalConfidence,
    .haepaue latitude longitude alt accuracy vertical =>
      LatitudeField latitude degreesLatitude ∧ LongitudeField longitude degreesLongitude ∧
        AltitudeField alt altitude ∧
        UncertaintyField accuracy.semiMajor semiMajor ∧
        UncertaintyField accuracy.semiMinor semiMinor ∧
        OrientationField accuracy.orientation orientation ∧
        ConfidenceField accuracy.confidence confidence ∧
        UncertaintyField vertical.uncertainty uncertaintyAltitude ∧
        ConfidenceField vertical.confidence verticalConfidence
  | _, _ => False

def Velocity.Describes : Velocity → VelocityShape → Prop
  | .horizontalVelocity bearing horizontalSpeed, .hv speed bearing' =>
      BearingField bearing' bearing ∧ SpeedField 2047 speed horizontalSpeed
  | .horizontalWithVerticalVelocity bearing horizontalSpeed direction verticalSpeed,
    .hvv speed bearing' verticalSpeed' direction' =>
      BearingField bearing' bearing ∧ SpeedField 2047 speed horizontalSpeed ∧
        direction = direction' ∧ SpeedField 255 verticalSpeed' verticalSpeed
  | .horizontalVelocityWithUncertainty bearing horizontalSpeed uncertaintySpeed,
    .hvu speed uncertainty bearing' =>
      BearingField bearing' bearing ∧ SpeedField 2047 speed horizontalSpeed ∧
        SpeedField 255 uncertainty uncertaintySpeed
  | .horizontalWithVerticalVelocityAndUncertainty bearing horizontalSpeed direction verticalSpeed
      horizontalUncertaintySpeed verticalUncertaintySpeed,
    .hvvu speed uncertainty bearing' verticalSpeed' verticalUncertainty direction' =>
      BearingField bearing' bearing ∧ SpeedField 2047 speed horizontalSpeed ∧
        direction = direction' ∧ SpeedField 255 verticalSpeed' verticalSpeed ∧
        SpeedField 255 uncertainty horizontalUncertaintySpeed ∧
        SpeedField 255 verticalUncertainty verticalUncertaintySpeed
  | _, _ => False

structure HaGnssMetricsR17.Describes (m : HaGnssMetricsR17) (metrics : HaGnssMetrics) : Prop where
  satellites : m.nrOfUsedSatellites = metrics.numberOfSatellites
  satellites_range : 0 ≤ m.nrOfUsedSatellites ∧ m.nrOfUsedSatellites ≤ 64
  age : Option.Rel AgeField metrics.ageOfCorrections m.age
  hdop : Option.Rel DopField metrics.hdop m.hdopi
  pdop : Option.Rel DopField metrics.pdop m.pdopi

/-- The time of day in milliseconds, whole hours aside. -/
structure DescribesTime (tod : ℚ) (msec : ℤ) (frac : Option ℤ) : Prop where
  msec_range : 0 ≤ msec ∧ msec < 3600000
  frac_range : ∀ f ∈ frac, 0 ≤ f ∧ f < 4000
  near : 0 ≤ tod → ∃ hours : ℤ,
    |3600000 * hours + msec + frac.getD 0 / 4000 - tod * 1000| ≤ 1 / 4000

structure GnssLocationInformation.Describes (gnss : GnssLocationInformation)
    (metrics : Option HaGnssMetrics) (info : LocationInformation) : Prop where
  time : DescribesTime (Ts.timeOfDay (Ts.Gps.ofTai info.time).mTm) gnss.gnssTodMsec gnss.gnssTodFrac
  metrics : Option.Rel (fun m r => HaGnssMetricsR17.Describes r m) metrics gnss.metrics

/-- Every part of the report is there, and every integer is as it should be. -/
structure ProvideLocationInformation.Describes (message : ProvideLocationInformation)
    (data : LocationReport) : Prop where
  location : Option.Rel (fun shape coordinates => LocationCoordinates.Describes coordinates shape)
    (data.locationInformation.bind (·.location)) message.common.locationEstimate
  velocity : Option.Rel (fun shape velocity => Velocity.Describes velocity shape)
    (data.locationInformation.bind (·.velocity)) message.common.velocityEstimate
  error : message.common.locationError = data.locationInformation.isNone
  gnss : Option.Rel (fun info gnss => gnss.Describes data.gnssMetrics info)
    data.locationInformation message.gnss

end Message

/-! ### Casts and clamps -/

/-- The numbers that a cast to `long` has a result for. -/
def FitsLong (x : ℚ) : Prop := -2 ^ 63 - 1 < x ∧ x < 2 ^ 63

section Cast

variable {x : ℚ} {n lo hi : ℤ}

theorem isSome_toLong_iff : (toLong x).isSome ↔ FitsLong x := by
  have hceil : -2 ^ 63 ≤ ⌈x⌉ ↔ -2 ^ 63 - 1 < x := by
    rw [← Int.sub_one_lt_iff, Int.lt_ceil]
    norm_num
  have hfloor : ⌊x⌋ < 2 ^ 63 ↔ x < 2 ^ 63 := by
    rw [Int.floor_lt]
    push_cast
    rfl
  simp only [toLong, Option.isSome_ite, FitsLong]
  split_ifs with h
  · have hnonneg := Int.floor_nonneg.2 h
    rw [hfloor]
    constructor
    · exact fun hx => ⟨by linarith, hx.2⟩
    · exact fun hx => ⟨by omega, hx.2⟩
  · have hneg : ⌈x⌉ ≤ 0 := Int.ceil_le.2 (by push_cast; linarith)
    rw [hceil]
    constructor
    · exact fun hx => ⟨hx.1, by linarith⟩
    · exact fun hx => ⟨hx.1, by omega⟩

/-- A cast cuts less than one off, towards zero. -/
theorem toLong_spec (h : toLong x = some n) :
    (0 ≤ x → (n : ℚ) ≤ x ∧ x < n + 1) ∧ (x < 0 → x ≤ n ∧ (n : ℚ) < x + 1) := by
  simp only [toLong] at h
  split_ifs at h with hsign hfits
  · obtain rfl : ⌊x⌋ = n := by simpa using h
    exact ⟨fun _ => ⟨Int.floor_le x, Int.lt_floor_add_one x⟩, fun hx => absurd hx (not_lt.2 hsign)⟩
  · obtain rfl : ⌈x⌉ = n := by simpa using h
    exact ⟨fun hx => absurd hx hsign, fun _ => ⟨Int.le_ceil x, Int.ceil_lt_add_one x⟩⟩

theorem abs_toLong_sub_lt (h : toLong x = some n) : |(n : ℚ) - x| < 1 := by
  obtain ⟨hpos, hneg⟩ := toLong_spec h
  rw [abs_lt]
  rcases le_or_gt 0 x with hx | hx
  · obtain ⟨h1, h2⟩ := hpos hx
    exact ⟨by linarith, by linarith⟩
  · obtain ⟨h1, h2⟩ := hneg hx
    exact ⟨by linarith, by linarith⟩

theorem toLong_mem (h : toLong x = some n) (hlo : (lo : ℚ) ≤ x) (hhi : x ≤ hi) :
    lo ≤ n ∧ n ≤ hi := by
  have hnear := abs_lt.1 (abs_toLong_sub_lt h)
  obtain ⟨hpos, hneg⟩ := toLong_spec h
  rcases le_or_gt 0 x with hx | hx
  · have hle : (n : ℚ) ≤ hi := (hpos hx).1.trans hhi
    have hlt : (lo : ℚ) < n + 1 := by linarith
    exact ⟨Int.lt_add_one_iff.1 (by exact_mod_cast hlt), by exact_mod_cast hle⟩
  · have hle : (lo : ℚ) ≤ n := hlo.trans (hneg hx).1
    have hlt : (n : ℚ) < hi + 1 := by linarith
    exact ⟨by exact_mod_cast hle, Int.lt_add_one_iff.1 (by exact_mod_cast hlt)⟩

theorem clampTo_mem {α : Type} [LinearOrder α] {lower upper : α} (value : α)
    (h : lower ≤ upper) :
    lower ≤ clampTo lower upper value ∧ clampTo lower upper value ≤ upper := by
  simp only [clampTo]
  split_ifs with h1 h2 h2
  · exact ⟨h, le_refl _⟩
  · exact ⟨le_refl _, not_lt.1 h2⟩
  · exact ⟨h, le_refl _⟩
  · exact ⟨not_lt.1 h1, not_lt.1 h2⟩

theorem clampTo_of_mem {α : Type} [LinearOrder α] {lower upper value : α} (h : lower ≤ value)
    (h' : value ≤ upper) : clampTo lower upper value = value := by
  simp [clampTo, h.not_gt, h'.not_gt]

theorem clampTo_of_lt {α : Type} [LinearOrder α] {lower upper value : α} (h : lower ≤ upper)
    (h' : upper < value) : clampTo lower upper value = upper := by
  simp [clampTo, (h.trans_lt h').not_gt, h']

end Cast

/-! ### Fields -/

section Field

variable {lo hi : ℤ} {resolution first last input : ℚ} {value : ℤ}

/-- One step off at most, as a number of steps. -/
theorem abs_mul_sub_le (hres : 0 < resolution) (h : |(value : ℚ) - input / resolution| ≤ 1) :
    |value * resolution - input| ≤ resolution := by
  have hsplit : value * resolution - input = (value - input / resolution) * resolution := by
    field_simp
  rw [hsplit, abs_mul, abs_of_pos hres]
  exact mul_le_of_le_one_left hres.le h

/-- A field that is clamped after the cast. -/
theorem Field.of_map (hres : 0 < resolution) (hle : lo ≤ hi) (hfirst : lo * resolution ≤ first)
    (hlast : last ≤ (hi + 1) * resolution)
    (h : (toLong (input / resolution)).map (clampTo lo hi) = some value) :
    Field lo hi resolution first last input value := by
  obtain ⟨n, hn, rfl⟩ := Option.map_eq_some_iff.1 h
  refine ⟨clampTo_mem _ hle, fun h1 h2 => abs_mul_sub_le hres ?_⟩
  have hlo : (lo : ℚ) ≤ input / resolution := (le_div_iff₀ hres).2 (hfirst.trans h1)
  have hhi : input / resolution ≤ (hi + 1 : ℤ) := by
    push_cast
    exact (div_le_iff₀ hres).2 (h2.trans hlast)
  obtain ⟨hn1, hn2⟩ := toLong_mem hn hlo hhi
  have hnear := abs_lt.1 (abs_toLong_sub_lt hn)
  rcases hn2.lt_or_eq with hlt | heq
  · rw [clampTo_of_mem hn1 (by omega)]
    exact (abs_toLong_sub_lt hn).le
  · -- the upper end of the range is one step above the last value
    rw [clampTo_of_lt hle (by omega), abs_le]
    have hcast : (n : ℚ) = hi + 1 := by exact_mod_cast heq
    push_cast at hhi
    exact ⟨by linarith, by linarith⟩

/-- A field that is clamped before the cast. -/
theorem Field.of_clampTo (hres : 0 < resolution) (hle : lo ≤ hi)
    (hfirst : lo * resolution ≤ first) (hlast : last ≤ (hi + 1) * resolution)
    (h : toLong (clampTo (lo : ℚ) hi (input / resolution)) = some value) :
    Field lo hi resolution first last input value := by
  have hcast : (lo : ℚ) ≤ hi := by exact_mod_cast hle
  have hmem := clampTo_mem (input / resolution) hcast
  refine ⟨toLong_mem h hmem.1 hmem.2, fun h1 h2 => abs_mul_sub_le hres ?_⟩
  have hlo : (lo : ℚ) ≤ input / resolution := (le_div_iff₀ hres).2 (hfirst.trans h1)
  have hhi : input / resolution ≤ hi + 1 := (div_le_iff₀ hres).2 (h2.trans hlast)
  rcases le_or_gt (input / resolution) hi with hin | hout
  · rw [clampTo_of_mem hlo hin] at h
    exact (abs_toLong_sub_lt h).le
  · rw [clampTo_of_lt hcast hout] at h
    have hvalue := toLong_mem h (le_refl (hi : ℚ)) (le_refl (hi : ℚ))
    obtain rfl : value = hi := le_antisymm hvalue.2 hvalue.1
    rw [abs_le]
    exact ⟨by linarith, by linarith⟩

end Field

/-! ### Encoded values -/

section Encoded

variable {x : ℚ} {v : ℤ}

theorem isSome_toLong_clampTo (lo hi : ℤ) (hle : lo ≤ hi) (hlo : -2 ^ 63 ≤ lo)
    (hhi : hi < 2 ^ 63) (x : ℚ) : (toLong (clampTo (lo : ℚ) hi x)).isSome := by
  have hcast : (lo : ℚ) ≤ hi := by exact_mod_cast hle
  obtain ⟨h1, h2⟩ := clampTo_mem x hcast
  have hlo' : (-2 ^ 63 : ℚ) ≤ lo := by exact_mod_cast hlo
  have hhi' : (hi : ℚ) < 2 ^ 63 := by exact_mod_cast hhi
  exact isSome_toLong_iff.2 ⟨by linarith, by linarith⟩

theorem encodeLatitude_field (h : encodeLatitude x = some v) : LatitudeField x v := by
  refine Field.of_clampTo (by norm_num) (by norm_num) (by norm_num) (by norm_num) ?_
  rw [← h, encodeLatitude, encodeDegrees, div_div_eq_mul_div, div_mul_eq_mul_div]
  norm_num

theorem encodeLongitude_field (h : encodeLongitude x = some v) : LongitudeField x v := by
  refine Field.of_clampTo (by norm_num) (by norm_num) (by norm_num) (by norm_num) ?_
  rw [← h, encodeLongitude, encodeDegrees, div_div_eq_mul_div, div_mul_eq_mul_div]
  norm_num

theorem isSome_encodeDegrees (range x : ℚ) : (encodeDegrees range x).isSome := by
  have h := isSome_toLong_clampTo (-2147483648) 2147483647 (by norm_num)
    (by norm_num) (by norm_num) (x / range * 2 ^ 31)
  simpa [encodeDegrees] using h

theorem encodeHaAltitude_field (h : encodeHaAltitude x = some v) : AltitudeField x v := by
  refine Field.of_map (by norm_num) (by norm_num) (by norm_num) (by norm_num) ?_
  rw [← h, encodeHaAltitude, div_div_eq_mul_div, div_one]

theorem encodeOrientation_field (h : encodeOrientation x = some v) : OrientationField x v := by
  refine Field.of_map (by norm_num) (by norm_num) (by norm_num) (by norm_num) ?_
  rw [← h, encodeOrientation, div_one]

theorem encodeConfidence_field (h : encodeConfidence x = some v) : ConfidenceField x v := by
  refine Field.of_map (by norm_num) (by norm_num) (by norm_num) (by norm_num) ?_
  rw [← h, encodeConfidence, div_div_eq_mul_div, div_one]

/-- The uncertainty with the logarithms that the source takes. -/
theorem encodeHaUncertainity_eq {r : ℚ} (h : 0 < r / 0.3 + 1) :
    encodeHaUncertainity r = some (clampTo 0 255
      (let k := Real.log (r / 0.3 + 1 : ℚ) / Real.log (1 + 0.02 : ℚ)
       if 0 ≤ k then ⌊k⌋ else ⌈k⌉)) := by
  simp only [encodeHaUncertainity]
  rw [if_pos h, FloorLog.truncLog_eq (by norm_num) h]

theorem encodeHaUncertainity_field (h : encodeHaUncertainity x = some v) :
    UncertaintyField x v := by
  simp only [encodeHaUncertainity] at h
  split_ifs at h with hpos
  obtain rfl := Option.some.inj h
  refine ⟨clampTo_mem _ (by norm_num), fun h1 h2 => ?_⟩
  have hbase : (1 + 0.02 : ℚ) = 1.02 := by norm_num
  have hb : (1 : ℚ) < 1.02 := by norm_num
  have hone : 1 ≤ x / 0.3 + 1 := le_add_of_nonneg_left (div_nonneg h1 (by norm_num))
  rw [hbase, FloorLog.truncLog, if_pos hone]
  have hle := FloorLog.pow_natLog_le (b := 1.02) hone
  have hlt := FloorLog.lt_pow_natLog_succ (y := x / 0.3 + 1) hb
  generalize FloorLog.natLog 1.02 (x / 0.3 + 1) = n at hle hlt ⊢
  -- the last uncertainty is that of the last value
  have hlast : x / 0.3 + 1 ≤ 1.02 ^ 255 := by
    rw [← le_sub_iff_add_le, div_le_iff₀' (by norm_num)]
    exact h2
  have hn : n ≤ 255 := (pow_le_pow_iff_right₀ hb).1 (hle.trans hlast)
  rw [clampTo_of_mem (by omega) (by omega), Int.toNat_natCast]
  constructor
  · rw [← le_div_iff₀' (by norm_num), sub_le_iff_le_add]
    exact hle
  · rw [← div_le_iff₀' (by norm_num), le_sub_iff_add_le]
    exact hlt.le

theorem encodeVelocity_field {upper : ℤ} (h0 : 0 ≤ upper) (h : encodeVelocity x upper = some v) :
    SpeedField upper x v := by
  have h0' : (0 : ℚ) ≤ upper := by exact_mod_cast h0
  have habs := abs_nonneg x
  simp only [encodeVelocity] at h
  split_ifs at h with hlow hhigh
  · obtain rfl := Option.some.inj h
    refine ⟨⟨le_refl _, h0⟩, fun _ _ => abs_mul_sub_le (by norm_num) ?_⟩
    rw [abs_le]
    constructor
    · norm_num at hlow ⊢
      linarith
    · norm_num
      linarith
  · obtain rfl := Option.some.inj h
    refine ⟨⟨h0, le_refl _⟩, fun _ hlast => ?_⟩
    -- such a speed is above the last one
    rw [le_div_iff₀ (by norm_num)] at hlast
    linarith
  · obtain ⟨hv1, hv2⟩ := toLong_mem h (le_refl _) (le_refl _)
    obtain rfl := le_antisymm hv2 hv1
    have hfloor := Int.floor_le (|x| * 3.6 + 1 / 2)
    have hfloor' := Int.lt_floor_add_one (|x| * 3.6 + 1 / 2)
    refine ⟨⟨Int.floor_nonneg.2 (by linarith), ?_⟩, fun _ _ => abs_mul_sub_le (by norm_num) ?_⟩
    · rw [← Int.lt_add_one_iff, Int.floor_lt]
      push_cast
      linarith
    · rw [div_div_eq_mul_div, div_one, abs_le]
      exact ⟨by linarith, by linarith⟩

theorem isSome_encodeVelocity {upper : ℤ} (h : upper < 2 ^ 62) (x : ℚ) :
    (encodeVelocity x upper).isSome := by
  simp only [encodeVelocity]
  split_ifs with hlow hhigh
  · rfl
  · rfl
  · have hupper : (upper : ℚ) < 2 ^ 62 := by exact_mod_cast h
    have hfloor := Int.floor_le (|x| * 3.6 + 1 / 2)
    have hfloor' := Int.lt_floor_add_one (|x| * 3.6 + 1 / 2)
    refine isSome_toLong_iff.2 ⟨?_, ?_⟩ <;> linarith

/-! ### Bearings -/

theorem raiseBearing_spec (bearing : ℚ) :
    0 ≤ raiseBearing bearing ∧ ∃ turns : ℤ, raiseBearing bearing = bearing + 360 * turns := by
  induction bearing using raiseBearing.induct with
  | case1 bearing h ih =>
    obtain ⟨hnonneg, turns, hturns⟩ := ih
    rw [raiseBearing, if_pos h]
    refine ⟨hnonneg, turns + 1, ?_⟩
    rw [hturns]
    push_cast
    ring
  | case2 bearing h =>
    rw [raiseBearing, if_neg h]
    exact ⟨not_lt.1 h, 0, by simp⟩

theorem lowerBearing_spec (bearing : ℚ) :
    lowerBearing bearing < 360 ∧ (0 ≤ bearing → 0 ≤ lowerBearing bearing) ∧
      ∃ turns : ℤ, lowerBearing bearing = bearing - 360 * turns := by
  induction bearing using lowerBearing.induct with
  | case1 bearing h ih =>
    obtain ⟨hlt, hnonneg, turns, hturns⟩ := ih
    rw [lowerBearing, if_pos h]
    refine ⟨hlt, fun _ => hnonneg (by linarith), turns + 1, ?_⟩
    rw [hturns]
    push_cast
    ring
  | case2 bearing h =>
    rw [lowerBearing, if_neg h]
    exact ⟨not_le.1 h, id, 0, by simp⟩

theorem encodeBearing_field (h : encodeBearing x = some v) : BearingField x v := by
  obtain ⟨hnonneg, up, hup⟩ := raiseBearing_spec x
  obtain ⟨hlt, hlower, down, hdown⟩ := lowerBearing_spec (raiseBearing x)
  have hfield : Field 0 359 1 0 360 (lowerBearing (raiseBearing x)) v := by
    refine Field.of_map (by norm_num) (by norm_num) (by norm_num) (by norm_num) ?_
    rw [← h, encodeBearing, div_one]
  refine ⟨hfield.range, down - up, ?_⟩
  have hnear := hfield.near (hlower hnonneg) hlt.le
  rw [hdown, hup] at hnear
  push_cast
  convert hnear using 2
  ring

theorem isSome_encodeBearing (x : ℚ) : (encodeBearing x).isSome := by
  obtain ⟨hlt, hlower, -⟩ := lowerBearing_spec (raiseBearing x)
  rw [encodeBearing, Option.isSome_map, isSome_toLong_iff]
  have hnonneg := hlower (raiseBearing_spec x).1
  exact ⟨by linarith, by linarith⟩

end Encoded

/-! ### What can be presented -/

def HorizontalAccuracy.Presentable (accuracy : HorizontalAccuracy) : Prop :=
  -0.3 < accuracy.semiMajor ∧ -0.3 < accuracy.semiMinor ∧ FitsLong accuracy.orientation ∧
    FitsLong (accuracy.confidence * 100)

def LocationShape.Presentable : LocationShape → Prop
  | .haepue _ _ accuracy => accuracy.Presentable
  | .haepaue _ _ altitude accuracy vertical =>
      FitsLong (altitude * 128) ∧ accuracy.Presentable ∧ -0.3 < vertical.uncertainty ∧
        FitsLong (vertical.confidence * 100)

def HaGnssMetrics.Presentable (metrics : HaGnssMetrics) : Prop :=
  0 ≤ metrics.numberOfSatellites ∧ metrics.numberOfSatellites ≤ 64 ∧
    ∀ pdop ∈ metrics.pdop, 0.1 ≤ pdop ∧ pdop < 25.7

/-- A time of day that is not negative, or less than a millisecond before a whole hour. -/
def TimePresentable (tod : ℚ) : Prop :=
  0 ≤ tod ∨ ∃ hours : ℤ, 3600 * hours - 0.001 < tod ∧ tod ≤ 3600 * hours

structure LocationInformation.Presentable (info : LocationInformation)
    (metrics : Option HaGnssMetrics) : Prop where
  location : ∀ shape ∈ info.location, shape.Presentable
  time : TimePresentable (Ts.timeOfDay (Ts.Gps.ofTai info.time).mTm)
  metrics : ∀ m ∈ metrics, m.Presentable

def LocationReport.Presentable (data : LocationReport) : Prop :=
  ∀ info ∈ data.locationInformation, info.Presentable data.gnssMetrics

section Present

theorem isSome_encodeHaUncertainity_iff {r : ℚ} :
    (encodeHaUncertainity r).isSome ↔ -0.3 < r := by
  have hiff : 0 < r / 0.3 + 1 ↔ -0.3 < r := by
    rw [← neg_lt_iff_pos_add, lt_div_iff₀ (by norm_num)]
    norm_num
  simp only [encodeHaUncertainity, Option.isSome_ite, hiff]

theorem isSome_encodeHaAltitude_iff {a : ℚ} : (encodeHaAltitude a).isSome ↔ FitsLong (a * 128) := by
  rw [encodeHaAltitude, Option.isSome_map, isSome_toLong_iff]

theorem isSome_encodeOrientation_iff {o : ℚ} : (encodeOrientation o).isSome ↔ FitsLong o := by
  rw [encodeOrientation, Option.isSome_map, isSome_toLong_iff]

theorem isSome_encodeConfidence_iff {c : ℚ} : (encodeConfidence c).isSome ↔ FitsLong (c * 100) := by
  rw [encodeConfidence, Option.isSome_map, isSome_toLong_iff]

theorem HorizontalAccuracy.presentable_iff (accuracy : HorizontalAccuracy) :
    accuracy.Presentable ↔ (∃ v, encodeHaUncertainity accuracy.semiMajor = some v) ∧
      (∃ v, encodeHaUncertainity accuracy.semiMinor = some v) ∧
      (∃ v, encodeOrientation accuracy.orientation = some v) ∧
      ∃ v, encodeConfidence accuracy.confidence = some v := by
  simp only [← Option.isSome_iff_exists, isSome_encodeHaUncertainity_iff,
    isSome_encodeOrientation_iff, isSome_encodeConfidence_iff, Presentable]

/-- **The location**. -/
theorem locationCoordinates_iff (shape : LocationShape) :
    (∃ c, locationCoordinates shape = some c ∧ c.Describes shape) ↔ shape.Presentable := by
  cases shape with
  | haepue latitude longitude accuracy =>
    rw [LocationShape.Presentable, accuracy.presentable_iff]
    constructor
    · rintro ⟨c, hc, -⟩
      simp only [locationCoordinates, Option.bind_eq_bind, Option.bind_eq_some_iff] at hc
      obtain ⟨lat, -, lon, -, major, hmajor, minor, hminor, o, ho, conf, hconf, -⟩ := hc
      exact ⟨⟨major, hmajor⟩, ⟨minor, hminor⟩, ⟨o, ho⟩, ⟨conf, hconf⟩⟩
    · rintro ⟨⟨major, hmajor⟩, ⟨minor, hminor⟩, ⟨o, ho⟩, ⟨conf, hconf⟩⟩
      obtain ⟨lat, hlat⟩ := Option.isSome_iff_exists.1 (isSome_encodeDegrees 90 latitude)
      obtain ⟨lon, hlon⟩ := Option.isSome_iff_exists.1 (isSome_encodeDegrees 180 longitude)
      refine ⟨.haepue lat lon major minor o conf, ?_, encodeLatitude_field hlat,
        encodeLongitude_field hlon, encodeHaUncertainity_field hmajor,
        encodeHaUncertainity_field hminor, encodeOrientation_field ho,
        encodeConfidence_field hconf⟩
      simp [locationCoordinates, encodeLatitude, encodeLongitude, hlat, hlon, hmajor, hminor, ho,
        hconf]
  | haepaue latitude longitude altitude accuracy vertical =>
    rw [LocationShape.Presentable, accuracy.presentable_iff, ← isSome_encodeHaAltitude_iff,
      ← isSome_encodeHaUncertainity_iff, ← isSome_encodeConfidence_iff]
    simp only [Option.isSome_iff_exists]
    constructor
    · rintro ⟨c, hc, -⟩
      simp only [locationCoordinates, Option.bind_eq_bind, Option.bind_eq_some_iff] at hc
      obtain ⟨lat, -, lon, -, alt, halt, major, hmajor, minor, hminor, o, ho, conf, hconf,
        up, hup, vconf, hvconf, -⟩ := hc
      exact ⟨⟨alt, halt⟩, ⟨⟨major, hmajor⟩, ⟨minor, hminor⟩, ⟨o, ho⟩, ⟨conf, hconf⟩⟩, ⟨up, hup⟩,
        ⟨vconf, hvconf⟩⟩
    · rintro ⟨⟨alt, halt⟩, ⟨⟨major, hmajor⟩, ⟨minor, hminor⟩, ⟨o, ho⟩, ⟨conf, hconf⟩⟩, ⟨up, hup⟩,
        ⟨vconf, hvconf⟩⟩
      obtain ⟨lat, hlat⟩ := Option.isSome_iff_exists.1 (isSome_encodeDegrees 90 latitude)
      obtain ⟨lon, hlon⟩ := Option.isSome_iff_exists.1 (isSome_encodeDegrees 180 longitude)
      refine ⟨.haepaue lat lon alt major minor o conf up vconf, ?_, encodeLatitude_field hlat,
        encodeLongitude_field hlon, encodeHaAltitude_field halt,
        encodeHaUncertainity_field hmajor, encodeHaUncertainity_field hminor,
        encodeOrientation_field ho, encodeConfidence_field hconf, encodeHaUncertainity_field hup,
        encodeConfidence_field hvconf⟩
      simp [locationCoordinates, encodeLatitude, encodeLongitude, hlat, hlon, halt, hmajor, hminor,
        ho, hconf, hup, hvconf]

theorem exists_bearing (x : ℚ) : ∃ v, encodeBearing x = some v ∧ BearingField x v := by
  obtain ⟨v, hv⟩ := Option.isSome_iff_exists.1 (isSome_encodeBearing x)
  exact ⟨v, hv, encodeBearing_field hv⟩

theorem exists_speed (upper : ℤ) (h0 : 0 ≤ upper) (h : upper < 2 ^ 62) (x : ℚ) :
    ∃ v, encodeVelocity x upper = some v ∧ SpeedField upper x v := by
  obtain ⟨v, hv⟩ := Option.isSome_iff_exists.1 (isSome_encodeVelocity h x)
  exact ⟨v, hv, encodeVelocity_field h0 hv⟩

/-- **The velocity**, whatever it is. -/
theorem exists_velocity (shape : VelocityShape) :
    ∃ v, velocity shape = some v ∧ v.Describes shape := by
  have horizontal := exists_speed 2047 (by norm_num) (by norm_num)
  have other := exists_speed 255 (by norm_num) (by norm_num)
  cases shape with
  | hv speed bearing =>
    obtain ⟨b, hb, hb'⟩ := exists_bearing bearing
    obtain ⟨s, hs, hs'⟩ := horizontal speed
    exact ⟨.horizontalVelocity b s, by simp [velocity, hb, hs], hb', hs'⟩
  | hvv speed bearing verticalSpeed direction =>
    obtain ⟨b, hb, hb'⟩ := exists_bearing bearing
    obtain ⟨s, hs, hs'⟩ := horizontal speed
    obtain ⟨w, hw, hw'⟩ := other verticalSpeed
    exact ⟨.horizontalWithVerticalVelocity b s direction w, by simp [velocity, hb, hs, hw],
      hb', hs', rfl, hw'⟩
  | hvu speed uncertainty bearing =>
    obtain ⟨b, hb, hb'⟩ := exists_bearing bearing
    obtain ⟨s, hs, hs'⟩ := horizontal speed
    obtain ⟨u, hu, hu'⟩ := other uncertainty
    exact ⟨.horizontalVelocityWithUncertainty b s u, by simp [velocity, hb, hs, hu], hb', hs', hu'⟩
  | hvvu speed uncertainty bearing verticalSpeed verticalUncertainty direction =>
    obtain ⟨b, hb, hb'⟩ := exists_bearing bearing
    obtain ⟨s, hs, hs'⟩ := horizontal speed
    obtain ⟨u, hu, hu'⟩ := other uncertainty
    obtain ⟨w, hw, hw'⟩ := other verticalSpeed
    obtain ⟨wu, hwu, hwu'⟩ := other verticalUncertainty
    exact ⟨.horizontalWithVerticalVelocityAndUncertainty b s direction w u wu,
      by simp [velocity, hb, hs, hu, hw, hwu], hb', hs', rfl, hw', hu', hwu'⟩

theorem exists_age (age : ℚ) :
    ∃ v, toLong (clampTo 0 99 (age / 0.1)) = some v ∧ AgeField age v := by
  have hsome := isSome_toLong_clampTo 0 99 (by norm_num) (by norm_num)
    (by norm_num) (age / 0.1)
  obtain ⟨v, hv⟩ := Option.isSome_iff_exists.1 hsome
  push_cast at hv
  refine ⟨v, hv, Field.of_clampTo (by norm_num) (by norm_num) (by norm_num) (by norm_num) ?_⟩
  rw [← hv]
  norm_num

theorem exists_dop (dop : ℚ) :
    ∃ v, toLong (clampTo 1 256 (dop / 0.1)) = some v ∧ DopField dop v := by
  have hsome := isSome_toLong_clampTo 1 256 (by norm_num) (by norm_num)
    (by norm_num) (dop / 0.1)
  obtain ⟨v, hv⟩ := Option.isSome_iff_exists.1 hsome
  push_cast at hv
  refine ⟨v, hv, Field.of_clampTo (by norm_num) (by norm_num) (by norm_num) (by norm_num) ?_⟩
  rw [← hv]
  norm_num

/-- A precision that is not clamped. -/
theorem pdop_iff {dop : ℚ} :
    (∃ v, toLong (dop / 0.1) = some v ∧ DopField dop v) ↔ 0.1 ≤ dop ∧ dop < 25.7 := by
  have hscaled : dop / 0.1 = dop * 10 := by norm_num [div_eq_mul_inv]
  rw [hscaled]
  constructor
  · rintro ⟨v, hv, hfield⟩
    obtain ⟨hpos, hneg⟩ := toLong_spec hv
    have h1 : (1 : ℚ) ≤ v := by exact_mod_cast hfield.range.1
    have h256 : (v : ℚ) ≤ 256 := by exact_mod_cast hfield.range.2
    rcases le_or_gt 0 (dop * 10) with hsign | hsign
    · obtain ⟨hle, hlt⟩ := hpos hsign
      norm_num
      exact ⟨by linarith, by linarith⟩
    · have hlt := (hneg hsign).2
      linarith
  · rintro ⟨hlow, hhigh⟩
    norm_num at hlow hhigh
    obtain ⟨v, hv⟩ := Option.isSome_iff_exists.1
      (isSome_toLong_iff.2 ⟨by linarith, by linarith⟩ : (toLong (dop * 10)).isSome)
    obtain ⟨hle, hlt⟩ := (toLong_spec hv).1 (by linarith)
    have h1 : (0 : ℚ) < v := by linarith
    have h256 : (v : ℚ) < 257 := by linarith
    refine ⟨v, hv, ⟨by exact_mod_cast h1, ?_⟩, fun _ _ => abs_mul_sub_le (by norm_num) ?_⟩
    · exact Int.lt_add_one_iff.1 (by exact_mod_cast h256)
    · rw [div_div_eq_mul_div, div_one]
      exact (abs_toLong_sub_lt hv).le

/-- An optional member is encoded if its value is. -/
theorem mapM_rel_iff {α β : Type} {f : α → Option β} {R : α → β → Prop} {o : Option α} :
    (∃ o', o.mapM f = some o' ∧ Option.Rel R o o') ↔ ∀ a ∈ o, ∃ b, f a = some b ∧ R a b := by
  cases o with
  | none =>
    refine iff_of_true ⟨none, rfl, .none⟩ ?_
    simp
  | some a =>
    simp only [Option.mapM_some, Option.map_eq_map, Option.map_eq_some_iff, Option.mem_def,
      Option.some.injEq, forall_eq']
    constructor
    · rintro ⟨-, ⟨b, hb, rfl⟩, hrel⟩
      cases hrel with
      | some h => exact ⟨b, hb, h⟩
    · rintro ⟨b, hb, h⟩
      exact ⟨some b, ⟨b, hb, rfl⟩, .some h⟩

/-- **The metrics**. -/
theorem lppHaGnssMetricsR17_iff (metrics : HaGnssMetrics) :
    (∃ r, lppHaGnssMetricsR17 metrics = some r ∧ r.Describes metrics) ↔ metrics.Presentable := by
  constructor
  · rintro ⟨r, hr, hdescribes⟩
    simp only [lppHaGnssMetricsR17, Option.bind_eq_bind, Option.bind_eq_some_iff] at hr
    obtain ⟨age, -, hdopi, -, pdopi, hpdop, hr⟩ := hr
    obtain rfl := Option.some.inj hr
    obtain ⟨h0, h64⟩ := hdescribes.satellites_range
    refine ⟨h0, h64, fun pdop hmem => ?_⟩
    exact pdop_iff.1 (mapM_rel_iff.1 ⟨pdopi, hpdop, hdescribes.pdop⟩ pdop hmem)
  · rintro ⟨h0, h64, hpdop⟩
    obtain ⟨age, hage, hage'⟩ :=
      mapM_rel_iff.2 fun a (_ : a ∈ metrics.ageOfCorrections) => exists_age a
    obtain ⟨hdopi, hhdop, hhdop'⟩ :=
      mapM_rel_iff.2 fun dop (_ : dop ∈ metrics.hdop) => exists_dop dop
    obtain ⟨pdopi, hpdopi, hpdopi'⟩ := mapM_rel_iff.2 fun dop hmem => pdop_iff.2 (hpdop dop hmem)
    refine ⟨⟨metrics.numberOfSatellites, hdopi, pdopi, age, fixType metrics.fixQuality⟩, ?_,
      rfl, ⟨h0, h64⟩, hage', hhdop', hpdopi'⟩
    simp [lppHaGnssMetricsR17, hage, hhdop, hpdopi]

theorem timeOfDay_mem (t : Ts.Timestamp) : -86400 < Ts.timeOfDay t ∧ Ts.timeOfDay t < 86400 := by
  have hday : Ts.dayInSeconds = 86400 := by decide
  have hfloor := Int.floor_le t
  have hfloor' := Int.lt_floor_add_one t
  have hsplit : Ts.timeOfDay t = t - ⌊t⌋ + ⌊t⌋.tmod 86400 := by
    have hdiv := Int.mul_tdiv_add_tmod ⌊t⌋ 86400
    have hcast : (⌊t⌋ : ℚ) = 86400 * (⌊t⌋.tdiv 86400 : ℤ) + (⌊t⌋.tmod 86400 : ℤ) := by
      exact_mod_cast hdiv.symm
    rw [Ts.timeOfDay, Ts.days, Ts.Timestamp.seconds, hday]
    push_cast
    linarith
  have hlt := Int.tmod_lt_of_pos ⌊t⌋ (b := 86400) (by norm_num)
  have hgt : -86400 < ⌊t⌋.tmod 86400 := Int.lt_tmod_of_pos ⌊t⌋ (by norm_num)
  have hlt' : ((⌊t⌋.tmod 86400 : ℤ) : ℚ) + 1 ≤ 86400 := by exact_mod_cast hlt
  have hgt' : (-86400 : ℚ) + 1 ≤ (⌊t⌋.tmod 86400 : ℤ) := by exact_mod_cast hgt
  rw [hsplit]
  exact ⟨by linarith, by linarith⟩

/-- A time of day that is not negative. -/
theorem describesTime_of_nonneg {tod : ℚ} {msec : ℤ} {frac : Option ℤ} (hmsec : 0 ≤ msec)
    (hfrac : ∀ f ∈ frac, 0 ≤ f ∧ f < 4000)
    (hnear : |msec + frac.getD 0 / 4000 - tod * 1000| ≤ 1 / 4000) :
    Message.DescribesTime tod (msec.tmod (3600 * 1000)) frac := by
  rw [Int.tmod_eq_emod_of_nonneg hmsec]
  refine ⟨⟨Int.emod_nonneg _ (by norm_num), Int.emod_lt_of_pos _ (by norm_num)⟩, hfrac,
    fun _ => ⟨msec / (3600 * 1000), ?_⟩⟩
  have hsplit := Int.mul_ediv_add_emod msec (3600 * 1000)
  have hcast : (3600000 : ℚ) * (msec / (3600 * 1000) : ℤ) + (msec % (3600 * 1000) : ℤ) = msec := by
    exact_mod_cast hsplit
  rw [hcast]
  exact hnear

/-- **The reference time**. -/
theorem measurementReferenceTime_iff {tod : Ts.Timestamp} (hlow : -86400 < tod)
    (hhigh : tod < 86400) :
    (∃ r, measurementReferenceTime tod = some r ∧ Message.DescribesTime tod r.1 r.2) ↔
      TimePresentable tod := by
  obtain ⟨msec, hmsec⟩ := Option.isSome_iff_exists.1
    (isSome_toLong_iff.2 ⟨by linarith, by linarith⟩ : (toLong (tod * 1000)).isSome)
  obtain ⟨hpos, hneg⟩ := toLong_spec hmsec
  rcases le_or_gt 0 tod with hsign | hsign
  · refine iff_of_true ?_ (.inl hsign)
    obtain ⟨hle, hlt⟩ := hpos (by linarith)
    have hmsec0 : (0 : ℚ) < msec + 1 := by linarith
    have hmsec0' : 0 ≤ msec := Int.lt_add_one_iff.1 (by exact_mod_cast hmsec0)
    rcases hle.lt_or_eq with hpart | hwhole
    · have hfrac : (tod * 1000 - msec) * (1000 * 4) > 0 := by linarith
      obtain ⟨f, hf⟩ := Option.isSome_iff_exists.1
        (isSome_toLong_iff.2 ⟨by linarith, by linarith⟩ :
          (toLong ((tod * 1000 - msec) * (1000 * 4))).isSome)
      obtain ⟨hfle, hflt⟩ := (toLong_spec hf).1 hfrac.le
      have hf0 : (0 : ℚ) < f + 1 := by linarith
      have hf4000 : (f : ℚ) < 4000 := by linarith
      refine ⟨(msec.tmod (3600 * 1000), some f), ?_, describesTime_of_nonneg hmsec0' ?_ ?_⟩
      · simp only [measurementReferenceTime, hmsec, Option.bind_eq_bind, Option.bind_some]
        rw [if_pos hfrac, hf]
        rfl
      · intro f' hf'
        obtain rfl := Option.some.inj hf'
        exact ⟨Int.lt_add_one_iff.1 (by exact_mod_cast hf0), by exact_mod_cast hf4000⟩
      · rw [Option.getD_some, abs_le]
        exact ⟨by linarith, by linarith⟩
    · refine ⟨(msec.tmod (3600 * 1000), none), ?_, describesTime_of_nonneg hmsec0' ?_ ?_⟩
      · simp only [measurementReferenceTime, hmsec, Option.bind_eq_bind, Option.bind_some]
        rw [if_neg (by rw [hwhole]; simp)]
        rfl
      · simp
      · rw [hwhole]
        norm_num
  · -- a negative time has no fraction
    obtain ⟨hle, hlt⟩ := hneg (by linarith)
    have hmsec0 : (msec : ℚ) < 1 := by linarith
    have hmsec0' : msec ≤ 0 := Int.lt_add_one_iff.1 (by exact_mod_cast hmsec0)
    have hrun : measurementReferenceTime tod = some (msec.tmod (3600 * 1000), none) := by
      simp only [measurementReferenceTime, hmsec, Option.bind_eq_bind, Option.bind_some]
      rw [if_neg (not_lt.2 (by linarith))]
      rfl
    have hhour : TimePresentable tod ↔ 3600000 ∣ msec := by
      rw [TimePresentable, or_iff_right (not_le.2 hsign)]
      constructor
      · rintro ⟨hours, h1, h2⟩
        norm_num at h1
        have hlow : (3600000 * hours : ℚ) < msec + 1 := by linarith
        have hup : (msec : ℚ) < 3600000 * hours + 1 := by linarith
        have hlow' : 3600000 * hours ≤ msec := Int.lt_add_one_iff.1 (by exact_mod_cast hlow)
        have hup' : msec ≤ 3600000 * hours := Int.lt_add_one_iff.1 (by exact_mod_cast hup)
        exact ⟨hours, le_antisymm hup' hlow'⟩
      · rintro ⟨hours, rfl⟩
        push_cast at hle hlt
        refine ⟨hours, ?_, by linarith⟩
        norm_num
        linarith
    have hmod : 3600000 ∣ msec ↔ 0 ≤ msec.tmod (3600 * 1000) := by
      have hneg' : msec.tmod (3600 * 1000) = -((-msec) % (3600 * 1000)) := by
        rw [← Int.tmod_eq_emod_of_nonneg (by omega), Int.neg_tmod, neg_neg]
      rw [hneg']
      omega
    rw [hhour, hmod]
    constructor
    · rintro ⟨r, hr, hdescribes⟩
      obtain rfl := Option.some.inj (hrun.symm.trans hr)
      exact hdescribes.msec_range.1
    · intro hnonneg
      refine ⟨_, hrun, ⟨hnonneg, ?_⟩, by simp, fun h => absurd h (not_le.2 hsign)⟩
      exact Int.tmod_lt_of_pos _ (by norm_num)

/-- **What the assistance part says.** -/
theorem gnssLocationInformation_iff (data : LocationReport) :
    (∃ gnss, gnssLocationInformation data = some gnss ∧
        Option.Rel (fun info g => Message.GnssLocationInformation.Describes g data.gnssMetrics info)
          data.locationInformation gnss) ↔
      ∀ info ∈ data.locationInformation,
        TimePresentable (Ts.timeOfDay (Ts.Gps.ofTai info.time).mTm) ∧
          ∀ m ∈ data.gnssMetrics, m.Presentable := by
  rw [gnssLocationInformation, mapM_rel_iff]
  refine forall₂_congr fun info _ => ?_
  obtain ⟨hlow, hhigh⟩ := timeOfDay_mem (Ts.Gps.ofTai info.time).mTm
  rw [← measurementReferenceTime_iff hlow hhigh,
    ← forall₂_congr fun m (_ : m ∈ data.gnssMetrics) => lppHaGnssMetricsR17_iff m, ← mapM_rel_iff]
  simp only [Option.bind_eq_bind, Option.bind_eq_some_iff]
  constructor
  · rintro ⟨gnss, ⟨time, htime, metrics, hmetrics, hgnss⟩, hdescribes⟩
    obtain rfl := Option.some.inj hgnss
    exact ⟨⟨time, htime, hdescribes.time⟩, ⟨metrics, hmetrics, hdescribes.metrics⟩⟩
  · rintro ⟨⟨time, htime, htime'⟩, ⟨metrics, hmetrics, hmetrics'⟩⟩
    exact ⟨⟨time.1, time.2, metrics⟩, ⟨time, htime, metrics, hmetrics, rfl⟩, htime', hmetrics'⟩

/-- **What the common part says.** -/
theorem commonIes_iff (data : LocationReport) :
    (∃ common, commonIes data = some common ∧
        Option.Rel (fun shape c => Message.LocationCoordinates.Describes c shape)
          (data.locationInformation.bind (·.location)) common.locationEstimate ∧
        Option.Rel (fun shape v => Message.Velocity.Describes v shape)
          (data.locationInformation.bind (·.velocity)) common.velocityEstimate ∧
        common.locationError = data.locationInformation.isNone) ↔
      ∀ info ∈ data.locationInformation, ∀ shape ∈ info.location, shape.Presentable := by
  cases hinfo : data.locationInformation with
  | none =>
    refine iff_of_true ⟨⟨none, none, true⟩, ?_, .none, .none, rfl⟩ (by simp)
    rw [commonIes, hinfo]
  | some info =>
    simp only [Option.mem_def, Option.some.injEq, forall_eq', Option.bind_some, commonIes, hinfo]
    rw [← forall₂_congr fun shape (_ : info.location = some shape) => locationCoordinates_iff shape]
    have hlocation := mapM_rel_iff (f := locationCoordinates) (o := info.location)
      (R := fun shape c => Message.LocationCoordinates.Describes c shape)
    simp only [Option.mem_def] at hlocation
    rw [← hlocation]
    simp only [Option.bind_eq_bind, Option.bind_eq_some_iff]
    constructor
    · rintro ⟨common, ⟨location, hlocation, velocity, -, hcommon⟩, hrel, -⟩
      obtain rfl := Option.some.inj hcommon
      exact ⟨location, hlocation, hrel⟩
    · rintro ⟨location, hlocation, hrel⟩
      obtain ⟨speed, hspeed, hspeed'⟩ := mapM_rel_iff.2
        fun shape (_ : shape ∈ info.velocity) => exists_velocity shape
      exact ⟨⟨location, speed, false⟩, ⟨location, hlocation, speed, hspeed, rfl⟩, hrel, hspeed',
        rfl⟩

end Present

/-- **Location reports**: there is a message that describes the report, every integer in its range
and one step off at most, if and only if the report can be presented. -/
theorem describes_iff (data : LocationReport) :
    (∃ message, createProvideLocationInformation data = some message ∧ message.Describes data) ↔
      data.Presentable := by
  have hpresentable : data.Presentable ↔
      (∀ info ∈ data.locationInformation, ∀ shape ∈ info.location, shape.Presentable) ∧
        ∀ info ∈ data.locationInformation,
          TimePresentable (Ts.timeOfDay (Ts.Gps.ofTai info.time).mTm) ∧
            ∀ m ∈ data.gnssMetrics, m.Presentable := by
    constructor
    · exact fun h => ⟨fun info hinfo => (h info hinfo).location,
        fun info hinfo => ⟨(h info hinfo).time, (h info hinfo).metrics⟩⟩
    · exact fun h info hinfo => ⟨h.1 info hinfo, (h.2 info hinfo).1, (h.2 info hinfo).2⟩
  rw [hpresentable, ← commonIes_iff, ← gnssLocationInformation_iff]
  simp only [createProvideLocationInformation, Option.bind_eq_bind, Option.bind_eq_some_iff]
  constructor
  · rintro ⟨message, ⟨common, hcommon, gnss, hgnss, hmessage⟩, hdescribes⟩
    obtain rfl := Option.some.inj hmessage
    exact ⟨⟨common, hcommon, hdescribes.location, hdescribes.velocity, hdescribes.error⟩,
      ⟨gnss, hgnss, hdescribes.gnss⟩⟩
  · rintro ⟨⟨common, hcommon, hlocation, hvelocity, herror⟩, ⟨gnss, hgnss, hgnss'⟩⟩
    exact ⟨⟨common, gnss⟩, ⟨common, hcommon, gnss, hgnss, rfl⟩, hlocation, hvelocity, herror,
      hgnss'⟩

/-- A report at the epoch of GPS with a number of satellites and a precision. -/
def reportOf (satellites : ℤ) (pdop : ℚ) : LocationReport where
  locationInformation := some ⟨.ofGps ⟨0⟩, none, none⟩
  gnssMetrics := some ⟨.rtkFix, satellites, none, none, some pdop⟩

/-- Seventy satellites, and the precision of 99.99 that a receiver has without a fix. -/
theorem not_describes :
    (¬∃ message, createProvideLocationInformation (reportOf 70 1) = some message ∧
        message.Describes (reportOf 70 1)) ∧
      ¬∃ message, createProvideLocationInformation (reportOf 12 99.99) = some message ∧
        message.Describes (reportOf 12 99.99) := by
  have hmetrics : ∀ {satellites : ℤ} {pdop : ℚ} {message : Message.ProvideLocationInformation},
      createProvideLocationInformation (reportOf satellites pdop) = some message →
      message.Describes (reportOf satellites pdop) →
      HaGnssMetrics.Presentable ⟨.rtkFix, satellites, none, none, some pdop⟩ := by
    intro satellites pdop message hmessage hdescribes
    simp only [createProvideLocationInformation, Option.bind_eq_bind, Option.bind_eq_some_iff]
      at hmessage
    obtain ⟨common, -, gnss, hgnss, hmessage⟩ := hmessage
    obtain rfl := Option.some.inj hmessage
    exact ((gnssLocationInformation_iff _).1 ⟨gnss, hgnss, hdescribes.gnss⟩ _ rfl).2 _ rfl
  constructor
  · rintro ⟨message, hmessage, hdescribes⟩
    have hle := (hmetrics hmessage hdescribes).2.1
    norm_num at hle
  · rintro ⟨message, hmessage, hdescribes⟩
    have hlt := ((hmetrics hmessage hdescribes).2.2 _ rfl).2
    norm_num at hlt

end SuplLpp.Lpp
