import SuplLpp.Asn.Types
import SuplLpp.Time.Timestamp

/-!
# SPARTN time tags

A time tag counts the seconds since the start of 2010 in the own time of a constellation.

* `SpartnTime`, `spartnTimeFrom`, `spartnTimeForGnss`, as the source computes a tag;
* `LeapSeconds`, `ownSeconds`, what a tag is for: the reading of a constellation's clock at an
  instant; `Expresses`, an LPP epoch denotes an instant;
* `timeTag_eq_iff`: the tag is that reading exactly when the offset of the LPP time system from
  GPS time and the constant that the source adds make up the offset of the constellation.
-/

namespace SuplLpp.Spartn

open Asn Ts

/-! ### The tag of the source -/

structure SpartnTime where
  seconds : ℚ
  roundedSeconds : ℕ
  deriving DecidableEq

/-- The conversion of a number to `uint32_t`. -/
def toUint32 (value : ℤ) : ℕ := (value % 2 ^ 32).toNat

/-- A double loses its fraction on the way to an integer. -/
def truncate (value : ℚ) : ℤ := if 0 ≤ value then ⌊value⌋ else ⌈value⌉

def spartnEpochGpsDays : ℤ := 10953
def spartnEpochGstDays : ℤ := 3785
def spartnEpochBdtDays : ℤ := 1461
def spartnEpochGloDays : ℤ := 5114

def spartnTimeFromDaysTod (days : ℤ) (tod : ℚ) (epochDays : ℤ) : SpartnTime :=
  let daysSince2010 := days - epochDays
  let secondsSince2010 := (daysSince2010 * dayInSeconds : ℤ) + tod
  ⟨secondsSince2010, toUint32 (truncate secondsSince2010)⟩

/-- `time_of_day` of an LPP epoch. -/
def epochTimeOfDay (epochTime : GnssSystemTime) : ℚ :=
  epochTime.gnssTimeOfDay.1 +
    match epochTime.gnssTimeOfDayFracMsec with
    | some msec => (msec.1 : ℚ) / 1000
    | none => 0

/-- The start of 2010 in days of a system; LPP epochs in another system are not read. -/
def spartnEpochDays : GnssId → Option ℤ
  | .gps => some spartnEpochGpsDays
  | .galileo => some spartnEpochGstDays
  | .glonass => some spartnEpochGloDays
  | .bds => some spartnEpochBdtDays
  | .sbas | .qzss | .navic => none

def spartnTimeFrom (epochTime : GnssSystemTime) : SpartnTime :=
  match spartnEpochDays epochTime.gnssTimeId with
  | some epochDays =>
    let t := fromDayTod epochTime.gnssDayNumber.1 (epochTimeOfDay epochTime)
    spartnTimeFromDaysTod (days t) (timeOfDay t) epochDays
  | none => ⟨0, 0⟩

/-- What is added to a time based on GPS for a constellation. -/
def gnssShift : GnssId → ℤ
  | .bds => -14
  | .glonass => 10782
  | .gps | .galileo | .sbas | .qzss | .navic => 0

def spartnTimeForGnss (gpsBased : SpartnTime) (gnssId : GnssId) : ℕ :=
  toUint32 (gpsBased.roundedSeconds + gnssShift gnssId)

theorem spartnTimeForGnss_congr {time time' : SpartnTime}
    (h : time.roundedSeconds = time'.roundedSeconds) (gnssId : GnssId) :
    spartnTimeForGnss time gnssId = spartnTimeForGnss time' gnssId := by
  unfold spartnTimeForGnss
  rw [h]

theorem roundedSeconds_lt (e : GnssSystemTime) : (spartnTimeFrom e).roundedSeconds < 2 ^ 32 := by
  unfold spartnTimeFrom
  cases spartnEpochDays e.gnssTimeId with
  | none => exact Nat.two_pow_pos 32
  | some epochDays =>
    simp only [spartnTimeFromDaysTod, toUint32]
    omega

/-- Without a shift the tag is the epoch. -/
theorem spartnTimeForGnss_of_shift {time : SpartnTime} {gnssId : GnssId}
    (hlt : time.roundedSeconds < 2 ^ 32) (hshift : gnssShift gnssId = 0) :
    spartnTimeForGnss time gnssId = time.roundedSeconds := by
  unfold spartnTimeForGnss toUint32
  rw [hshift]
  omega

/-! ### Instants and clocks

An instant is its GPS time, in seconds since the start of GPS time. -/

/-- GPS time minus UTC at every instant: at most one leap second a month in the years that day
numbers reach, and 15 of them until the middle of 2012. -/
structure LeapSeconds where
  gpsMinusUtc : ℚ → ℤ
  nonneg : ∀ t, 0 ≤ gpsMinusUtc t
  monthly : ∀ t, gpsMinusUtc t ≤ 1380
  until2012 : ∀ t, t < 11865 * 86400 → gpsMinusUtc t ≤ 15

variable (leap : LeapSeconds)

/-- The time of a system minus GPS time, days aside.  BeiDou time started 14 leap seconds after
GPS time, GLONASS time is UTC and three hours, the others keep GPS time. -/
def ownOffset (gnssId : GnssId) (t : ℚ) : ℤ :=
  match gnssId with
  | .bds => -14
  | .glonass => 3 * 3600 - leap.gpsMinusUtc t
  | .gps | .galileo | .sbas | .qzss | .navic => 0

/-- The clock of a system at an instant: seconds since the start of 2010 in its own time. -/
def ownSeconds (gnssId : GnssId) (t : ℚ) : ℚ := t - 10953 * 86400 + ownOffset leap gnssId t

/-- The epoch names a system of which LPP numbers days. -/
def Carried (epochTime : GnssSystemTime) : Prop := (spartnEpochDays epochTime.gnssTimeId).isSome

instance : DecidablePred Carried := fun _ => inferInstanceAs (Decidable (_ = true))

/-- The day number and the time of day of an epoch, in seconds since the start of 2010. -/
def epochReading (epochTime : GnssSystemTime) (epochDays : ℤ) : ℚ :=
  (epochTime.gnssDayNumber.1 - epochDays) * 86400 + epochTimeOfDay epochTime

/-- The epoch denotes the instant `t`. -/
def Expresses (epochTime : GnssSystemTime) (t : ℚ) : Prop :=
  ∃ epochDays ∈ spartnEpochDays epochTime.gnssTimeId,
    epochReading epochTime epochDays = ownSeconds leap epochTime.gnssTimeId t

/-! ### The tag against the clock -/

theorem epochTimeOfDay_range (epochTime : GnssSystemTime) :
    0 ≤ epochTimeOfDay epochTime ∧ epochTimeOfDay epochTime < 86400 := by
  obtain ⟨-, -, ⟨tod, h0, h1⟩, frac⟩ := epochTime
  have htod0 : (0 : ℚ) ≤ tod := by exact_mod_cast h0
  have htod1 : (tod : ℚ) ≤ 86399 := by exact_mod_cast h1
  cases frac with
  | none =>
    simp only [epochTimeOfDay]
    constructor <;> linarith
  | some msec =>
    obtain ⟨msec, hm0, hm1⟩ := msec
    have hmsec0 : (0 : ℚ) ≤ msec := by exact_mod_cast hm0
    have hmsec1 : (msec : ℚ) ≤ 999 := by exact_mod_cast hm1
    simp only [epochTimeOfDay]
    constructor <;> linarith

theorem spartnEpochDays_range {gnssId : GnssId} {epochDays : ℤ}
    (h : epochDays ∈ spartnEpochDays gnssId) : 0 ≤ epochDays ∧ epochDays ≤ 10953 := by
  cases gnssId <;> cases h <;> decide

/-- Splitting an epoch into days and time of day and putting it together again loses nothing. -/
theorem spartnTimeFrom_eq {epochTime : GnssSystemTime} {epochDays : ℤ}
    (h : epochDays ∈ spartnEpochDays epochTime.gnssTimeId) :
    spartnTimeFrom epochTime =
      ⟨epochReading epochTime epochDays,
        toUint32 (truncate (epochReading epochTime epochDays))⟩ := by
  have hsplit := days_add_timeOfDay
    (fromDayTod epochTime.gnssDayNumber.1 (epochTimeOfDay epochTime))
  have hreading : ((days (fromDayTod epochTime.gnssDayNumber.1 (epochTimeOfDay epochTime)) -
        epochDays) * dayInSeconds : ℤ) +
      timeOfDay (fromDayTod epochTime.gnssDayNumber.1 (epochTimeOfDay epochTime)) =
        epochReading epochTime epochDays := by
    have hday : dayInSeconds = 86400 := rfl
    rw [hday] at hsplit ⊢
    unfold epochReading
    rw [fromDayTod, hday] at hsplit ⊢
    push_cast at hsplit ⊢
    linarith
  rw [Option.mem_def] at h
  simp only [spartnTimeFrom, h, spartnTimeFromDaysTod, hreading]

theorem epochReading_range (epochTime : GnssSystemTime) {epochDays : ℤ}
    (h : epochDays ∈ spartnEpochDays epochTime.gnssTimeId) :
    -(10953 * 86400) ≤ epochReading epochTime epochDays ∧
      epochReading epochTime epochDays < 32768 * 86400 := by
  obtain ⟨hd0, hd1⟩ := spartnEpochDays_range h
  obtain ⟨ht0, ht1⟩ := epochTimeOfDay_range epochTime
  obtain ⟨hn0, hn1⟩ := epochTime.gnssDayNumber.2
  have hlow : ((-10953 : ℤ) : ℚ) ≤ ((epochTime.gnssDayNumber.1 - epochDays : ℤ) : ℚ) := by
    exact_mod_cast (by omega : (-10953 : ℤ) ≤ epochTime.gnssDayNumber.1 - epochDays)
  have hhigh : ((epochTime.gnssDayNumber.1 - epochDays : ℤ) : ℚ) ≤ ((32767 : ℤ) : ℚ) := by
    exact_mod_cast (by omega : epochTime.gnssDayNumber.1 - epochDays ≤ (32767 : ℤ))
  push_cast at hlow hhigh
  unfold epochReading
  constructor <;> linarith

/-- Any two clocks are a whole number of seconds apart. -/
theorem floor_ownSeconds (gnssId target : GnssId) (t : ℚ) :
    ⌊ownSeconds leap target t⌋ =
      ⌊ownSeconds leap gnssId t⌋ + (ownOffset leap target t - ownOffset leap gnssId t) := by
  have h : ownSeconds leap target t = ownSeconds leap gnssId t +
      ((ownOffset leap target t - ownOffset leap gnssId t : ℤ) : ℚ) := by
    unfold ownSeconds
    push_cast
    ring
  rw [h, Int.floor_add_intCast]

/-- A clock that has not reached the end of January 2010 is read before 2012. -/
theorem early_leap {gnssId : GnssId} {t : ℚ} (h : ownSeconds leap gnssId t < 86400) :
    leap.gpsMinusUtc t ≤ 15 := by
  have hmonthly : (leap.gpsMinusUtc t : ℚ) ≤ 1380 := by exact_mod_cast leap.monthly t
  apply leap.until2012
  unfold ownSeconds at h
  cases gnssId <;> simp only [ownOffset] at h <;> push_cast at h <;> linarith

theorem truncate_cases (value : ℚ) :
    (0 ≤ ⌊value⌋ ∧ truncate value = ⌊value⌋) ∨
      (⌊value⌋ < 0 ∧ truncate value ≤ 0 ∧ ⌊value⌋ ≤ truncate value ∧
        truncate value ≤ ⌊value⌋ + 1) := by
  unfold truncate
  split
  · next h => exact Or.inl ⟨Int.floor_nonneg.2 h, rfl⟩
  · next h =>
    have hneg : value < 0 := not_le.1 h
    have hceil : ⌈value⌉ ≤ 0 := Int.ceil_le.2 (by exact_mod_cast hneg.le)
    exact Or.inr ⟨Int.floor_lt.2 (by exact_mod_cast hneg), hceil, Int.floor_le_ceil value,
      Int.ceil_le_floor_add_one value⟩

/-- The offset of the LPP time system and the constant of the source make up the offset of the
constellation. -/
def OffsetsAgree (gnssId target : GnssId) (t : ℚ) : Prop :=
  ownOffset leap gnssId t + gnssShift target = ownOffset leap target t

/-- The time tag is the reading of the constellation's clock exactly when the offsets agree and
that clock has reached 2010. -/
theorem timeTag_eq_iff {epochTime : GnssSystemTime} {t : ℚ} (target : GnssId)
    (h : Expresses leap epochTime t) :
    (spartnTimeForGnss (spartnTimeFrom epochTime) target : ℤ) = ⌊ownSeconds leap target t⌋ ↔
      OffsetsAgree leap epochTime.gnssTimeId target t ∧ 0 ≤ ⌊ownSeconds leap target t⌋ := by
  obtain ⟨epochDays, hdays, hreading⟩ := h
  obtain ⟨hlow, hhigh⟩ := epochReading_range epochTime hdays
  have hlow' : -(10953 * 86400) ≤ ⌊epochReading epochTime epochDays⌋ := by
    apply Int.le_floor.2
    push_cast
    linarith
  have hhigh' : ⌊epochReading epochTime epochDays⌋ < 32768 * 86400 := by
    apply Int.floor_lt.2
    push_cast
    linarith
  have hearly : ⌊epochReading epochTime epochDays⌋ < 86400 → leap.gpsMinusUtc t ≤ 15 := by
    intro hlt
    have hq := Int.floor_lt.1 hlt
    push_cast at hq
    rw [hreading] at hq
    exact early_leap leap hq
  have hfloor := floor_ownSeconds leap epochTime.gnssTimeId target t
  rw [← hreading] at hfloor
  have hnonneg := leap.nonneg t
  have hmonthly := leap.monthly t
  rw [spartnTimeFrom_eq hdays, hfloor, OffsetsAgree]
  have hcut := truncate_cases (epochReading epochTime epochDays)
  unfold spartnTimeForGnss toUint32
  generalize ⌊epochReading epochTime epochDays⌋ = reading at *
  generalize truncate (epochReading epochTime epochDays) = cut at *
  -- every pair of systems is arithmetic; a reading before 2010 wraps around or is cut upwards
  clear hreading hlow hhigh hfloor
  rcases hcut with ⟨hreading, rfl⟩ | ⟨hreading, hcut0, hcut1, hcut2⟩
  · cases hsys : epochTime.gnssTimeId <;> rw [hsys] at hdays <;> cases hdays <;>
      cases target <;> simp only [ownOffset, gnssShift] <;> omega
  · have hle := hearly (by omega)
    cases hsys : epochTime.gnssTimeId <;> rw [hsys] at hdays <;> cases hdays <;>
      cases target <;> simp only [ownOffset, gnssShift] <;> omega

end SuplLpp.Spartn
