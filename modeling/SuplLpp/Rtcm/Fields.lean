import SuplLpp.Rtcm.Data
import SuplLpp.Rtcm.Encoder
import Mathlib.Tactic.Positivity
import Mathlib.Tactic.Qify

/-!
# The data fields of an MSM

Each field of a Multiple Signal Message is a number of fixed width.  The encoder scales the
value, rounds it and cuts it to the width.

* `df397` to `df420`, the field encoders, and the fields of each version;
* `Field`, what a field can say: its width, its sign, its resolution, the numbers it carries
  and the number that says "invalid"; `Field.Faithful`, what it should say about an LPP value;
* `fields_faithful_iff`: every field says the right thing, except that the fine ranges of
  MSM4 and MSM5 do not when they round up to one past the width of the field.
-/

namespace SuplLpp.Rtcm

open Asn Bits

/-- `rtcm_round`. -/
def rtcmRound (value : ℚ) : ℤ := ⌊value + 1 / 2⌋

/-! ### Lock times -/

def kMlt2Table : List ℕ :=
  [0, 32, 64, 128, 256, 512, 1024, 2048, 4096, 8192, 16384, 32768, 65536, 131072, 262144, 524288]

/-- `from_msm_lock`, the shortest lock time of an indicator. -/
def fromMsmLock (value : ℤ) : ℚ :=
  if value < 0 then 0
  else if value > 15 then kMlt2Table.getD 15 0 / 1000
  else kMlt2Table.getD value.toNat 0 / 1000

/-- `from_msm_lock_ex`, whose tables are those of `lock_time`. -/
def fromMsmLockEx (value : ℕ) : ℚ := (lockTimeMs value).getD 0 / 1000

/-- A cast to `long` cuts towards zero. -/
def trunc (value : ℚ) : ℤ := if 0 ≤ value then ⌊value⌋ else ⌈value⌉

/-- The lines of `to_msm_lock_ex`: a bound in milliseconds, and what is added and divided by
below it. -/
def lockExRows : List (ℕ × ℤ × ℤ) :=
  [(64, 0, 1), (128, 64, 2), (256, 256, 4), (512, 768, 8), (1024, 2048, 16), (2048, 5120, 32),
    (4096, 12288, 64), (8192, 28672, 128), (16384, 65536, 256), (32768, 147456, 512),
    (65536, 327680, 1024), (131072, 720896, 2048), (262144, 1572864, 4096),
    (524288, 3407872, 8192), (1048576, 7340032, 16384), (2097152, 15728640, 32768),
    (4194304, 33554432, 65536), (8388608, 71303168, 131072), (16777216, 150994944, 262144),
    (33554432, 318767104, 524288), (67108864, 671088640, 1048576)]

def toMsmLockEx (lock : ℚ) : ℤ :=
  let lockMs := trunc (lock * 1000)
  if lock < 0 then 0
  else match lockExRows.find? (fun row => decide (lock < row.1 / 1000)) with
    | some row => (lockMs + row.2.1).tdiv row.2.2
    | none => 704

/-- The first of the bounds 0.032, 0.064 and so on that the lock time stays below. -/
def toMsmLock (lock : ℚ) : ℤ :=
  (kMlt2Table.drop 1).findIdx (fun bound : ℕ => decide (lock < bound / 1000))

/-! ### The field encoders -/

section Encoders

variable (encoder : Encoder) (satellite : Satellite) (signal : Signal)

def df397 : Encoder :=
  let value := satellite.integerMs.value
  if satellite.integerMs.isSome ∧ value ≥ 0 ∧ value ≤ 254 then encoder.u8 8 (UInt8.ofInt value)
  else encoder.u8 8 0xFF

def df398 : Encoder :=
  let value := rtcmRound (satellite.roughRange.value * 2 ^ 10)
  if satellite.roughRange.isSome ∧ value ≥ 0 ∧ value ≤ 1023 then
    encoder.u16 10 (UInt16.ofInt value)
  else encoder.u16 10 0x3FF

def df399 : Encoder :=
  let value := rtcmRound satellite.roughPhaseRangeRate.value
  if satellite.roughPhaseRangeRate.isSome ∧ value ≥ -8191 ∧ value ≤ 8191 then
    encoder.i16 14 (Int16.ofInt value)
  else encoder.u16 14 0x2000

def df419 : Encoder :=
  let channel := satellite.frequencyChannel.value + 7
  if satellite.frequencyChannel.isSome ∧ channel ≥ 0 ∧ channel ≤ 14 then
    encoder.u8 4 (UInt8.ofInt channel)
  else encoder.u8 4 0xF

def dfExt : Encoder :=
  if satellite.id.gnss = .glonass then df419 encoder satellite else encoder.u8 4 0xF

/-- The validity that is tested is the one of the phase range. -/
def df400 : Encoder :=
  let value := rtcmRound (signal.finePseudoRange.value * 2 ^ 24)
  if signal.finePhaseRange.isSome then encoder.i16 15 (Int16.ofInt value)
  else encoder.u16 15 0x4000

/-- The validity that is tested is the one of the pseudo range. -/
def df401 : Encoder :=
  let value := rtcmRound (signal.finePhaseRange.value * 2 ^ 29)
  if signal.finePseudoRange.isSome then encoder.i32 22 (Int32.ofInt value)
  else encoder.u32 22 0x200000

def df402 : Encoder :=
  let value := toMsmLock signal.lockTime.value
  if signal.lockTime.isSome ∧ value ≥ 0 ∧ value ≤ 15 then encoder.u8 4 (UInt8.ofInt value)
  else encoder.u8 4 0

def df403 : Encoder :=
  let value := rtcmRound signal.carrierToNoiseRatio.value
  if signal.carrierToNoiseRatio.isSome ∧ value ≥ 1 ∧ value ≤ 63 then
    encoder.u8 6 (UInt8.ofInt value)
  else encoder.u8 6 0

def df404 : Encoder :=
  let value := rtcmRound (signal.finePhaseRangeRate.value / 0.0001)
  if signal.finePhaseRangeRate.isSome ∧ value > -16384 ∧ value ≤ 16383 then
    encoder.i16 15 (Int16.ofInt value)
  else encoder.u16 15 0x4000

def df405 : Encoder :=
  let value := rtcmRound (signal.finePseudoRange.value * 2 ^ 29)
  if signal.finePhaseRange.isSome then encoder.i32 20 (Int32.ofInt value)
  else encoder.u32 20 0x80000

def df406 : Encoder :=
  let value := rtcmRound (signal.finePhaseRange.value * 2 ^ 31)
  if signal.finePhaseRange.isSome then encoder.i32 24 (Int32.ofInt value)
  else encoder.u32 24 0x800000

def df407 : Encoder :=
  let value := toMsmLockEx signal.lockTime.value
  if signal.lockTime.isSome ∧ value ≥ 0 ∧ value ≤ 704 then encoder.u16 10 (UInt16.ofInt value)
  else encoder.u16 10 0

def df408 : Encoder :=
  let value := rtcmRound (signal.carrierToNoiseRatio.value / 0.0625)
  if signal.carrierToNoiseRatio.isSome ∧ value ≥ 1 ∧ value ≤ 1023 then
    encoder.u16 10 (UInt16.ofInt value)
  else encoder.u16 10 0

def df420 : Encoder := encoder.b signal.halfCycleAmbiguity

end Encoders

/-! ### The fields of each version -/

/-- The fields of a satellite. -/
inductive SatelliteField
  | df397 | df398 | dfExt | df399
  deriving DecidableEq

/-- The fields of a signal. -/
inductive SignalField
  | df400 | df401 | df402 | df403 | df404 | df405 | df406 | df407 | df408 | df420
  deriving DecidableEq

def SatelliteField.write : SatelliteField → Encoder → Satellite → Encoder
  | .df397 => Rtcm.df397
  | .df398 => Rtcm.df398
  | .dfExt => Rtcm.dfExt
  | .df399 => Rtcm.df399

def SatelliteField.width : SatelliteField → ℕ
  | .df397 => 8
  | .df398 => 10
  | .dfExt => 4
  | .df399 => 14

def SignalField.write : SignalField → Encoder → Signal → Encoder
  | .df400 => Rtcm.df400
  | .df401 => Rtcm.df401
  | .df402 => Rtcm.df402
  | .df403 => Rtcm.df403
  | .df404 => Rtcm.df404
  | .df405 => Rtcm.df405
  | .df406 => Rtcm.df406
  | .df407 => Rtcm.df407
  | .df408 => Rtcm.df408
  | .df420 => Rtcm.df420

def SignalField.width : SignalField → ℕ
  | .df400 => 15
  | .df401 => 22
  | .df402 => 4
  | .df403 => 6
  | .df404 => 15
  | .df405 => 20
  | .df406 => 24
  | .df407 => 10
  | .df408 => 10
  | .df420 => 1

/-- The fields that `generate_msm_satellites` writes, in order. -/
def satelliteFields : ℕ → List SatelliteField
  | 4 => [.df397, .df398]
  | 5 => [.df397, .dfExt, .df398, .df399]
  | 6 => [.df397, .df398]
  | 7 => [.df397, .dfExt, .df398, .df399]
  | _ => []

/-- The fields that `generate_msm_signals` writes, in order. -/
def signalFields : ℕ → List SignalField
  | 4 => [.df400, .df401, .df402, .df420, .df403]
  | 5 => [.df400, .df401, .df402, .df420, .df403, .df404]
  | 6 => [.df405, .df406, .df407, .df420, .df408]
  | 7 => [.df405, .df406, .df407, .df420, .df408, .df404]
  | _ => []

/-- The number that a field encoder writes for a satellite. -/
def SatelliteField.raw (field : SatelliteField) (satellite : Satellite) : ℕ :=
  toNat ((bytesBits (field.write Encoder.new satellite).mBuffer).take field.width)

/-- The number that a field encoder writes for a signal. -/
def SignalField.raw (field : SignalField) (signal : Signal) : ℕ :=
  toNat ((bytesBits (field.write Encoder.new signal).mBuffer).take field.width)

/-! ### What a field should say -/

/-- What a field can say: the numbers from `lo` to `hi`, each worth `resolution`, and the
number that stands for "invalid". -/
structure Field where
  resolution : ℚ
  lo : ℤ
  hi : ℤ
  invalid : Option ℤ

/-- No number of steps comes closer to `v`. -/
def Nearest (resolution v : ℚ) (n : ℤ) : Prop :=
  ∀ m : ℤ, |v - n * resolution| ≤ |v - m * resolution|

/-- A value is representable when it is there and rounds to a number that the field carries. -/
def Field.Representable (field : Field) (x : Option ℚ) : Prop :=
  ∃ v, x = some v ∧ field.lo ≤ rtcmRound (v / field.resolution) ∧
    rtcmRound (v / field.resolution) ≤ field.hi

/-- The field says `n` about `x`: the nearest number, of the same sign, or "invalid". -/
def Field.Faithful (field : Field) (x : Option ℚ) (n : ℤ) : Prop :=
  (∃ v, x = some v ∧ Nearest field.resolution v n ∧ (0 ≤ v → 0 ≤ n) ∧ (v ≤ 0 → n ≤ 0)) ∨
    (field.invalid = some n ∧ ¬ field.Representable x)

theorem rtcmRound_le (x : ℚ) : (rtcmRound x : ℚ) ≤ x + 1 / 2 := Int.floor_le _

theorem lt_rtcmRound (x : ℚ) : x - 1 / 2 < rtcmRound x := by
  have h := Int.lt_floor_add_one (x + 1 / 2)
  rw [rtcmRound]
  linarith

theorem rtcmRound_eq {x : ℚ} {n : ℤ} (hlo : n - 1 / 2 ≤ x) (hhi : x < n + 1 / 2) :
    rtcmRound x = n := by
  rw [rtcmRound, Int.floor_eq_iff]
  constructor <;> linarith

theorem rtcmRound_int (n : ℤ) : rtcmRound n = n := rtcmRound_eq (by linarith) (by linarith)

/-- Rounding finds the nearest number. -/
theorem nearest_round {resolution v : ℚ} (hres : 0 < resolution) :
    Nearest resolution v (rtcmRound (v / resolution)) := by
  intro m
  set n := rtcmRound (v / resolution) with hn
  have hv : v = v / resolution * resolution := by field_simp
  have hscale : ∀ k : ℤ, |v - k * resolution| = |v / resolution - k| * resolution := by
    intro k
    rw [← abs_of_pos hres, ← abs_mul, abs_of_pos hres, sub_mul, ← hv]
  rw [hscale, hscale]
  apply mul_le_mul_of_nonneg_right _ hres.le
  have hlo := lt_rtcmRound (v / resolution)
  have hhi := rtcmRound_le (v / resolution)
  rw [← hn] at hlo hhi
  -- `n` is at most half a step away, any other number at least half a step
  rcases lt_trichotomy m n with hmn | hmn | hmn
  · have hm : (m : ℚ) ≤ n - 1 := by
      have : m ≤ n - 1 := by omega
      exact_mod_cast this
    rw [abs_le]
    constructor
    · have := le_abs_self (v / resolution - m)
      linarith
    · have := le_abs_self (v / resolution - m)
      linarith
  · rw [hmn]
  · have hm : (n : ℚ) + 1 ≤ m := by
      have : n + 1 ≤ m := by omega
      exact_mod_cast this
    rw [abs_le]
    constructor
    · have := neg_abs_le (v / resolution - m)
      linarith
    · have := neg_abs_le (v / resolution - m)
      linarith

theorem rtcmRound_nonneg {x : ℚ} (h : 0 ≤ x) : 0 ≤ rtcmRound x := Int.floor_nonneg.mpr (by linarith)

theorem rtcmRound_nonpos {x : ℚ} (h : x ≤ 0) : rtcmRound x ≤ 0 := by
  have : rtcmRound x < 1 := Int.floor_lt.mpr (by push_cast; linarith)
  omega

theorem Field.faithful_round (field : Field) (hres : 0 < field.resolution) {v : ℚ} :
    field.Faithful (some v) (rtcmRound (v / field.resolution)) :=
  .inl ⟨v, rfl, nearest_round hres, fun h => rtcmRound_nonneg (by positivity),
    fun h => rtcmRound_nonpos (div_nonpos_of_nonpos_of_nonneg h hres.le)⟩

theorem Field.faithful_none {field : Field} {n : ℤ} (h : field.invalid = some n) :
    field.Faithful none n :=
  .inr ⟨h, by rintro ⟨v, hv, -⟩; cases hv⟩

/-- Past the ends of the field only "invalid" is right. -/
theorem Field.faithful_invalid {field : Field} {v : ℚ} {n : ℤ} (h : field.invalid = some n)
    (hout : rtcmRound (v / field.resolution) < field.lo ∨
      field.hi < rtcmRound (v / field.resolution)) : field.Faithful (some v) n := by
  refine .inr ⟨h, ?_⟩
  rintro ⟨w, hw, hlo, hhi⟩
  cases hw
  omega

section Statement

variable (gnss : GenericGnssId) (channel : Option (Integer (-7) 13))
variable (srcSatellite : GnssRtkSatelliteDataElement)
variable (srcSignal : GnssRtkSatelliteSignalDataElement)

/-- The lock time `lock` has the indicator `n`: the largest one whose shortest time is not
longer. -/
def LockFaithful (shortest : ℤ → ℚ) (last : ℤ) (lock : ℚ) (n : ℤ) : Prop :=
  0 ≤ n ∧ n ≤ last ∧ shortest n ≤ lock ∧ (n < last → lock < shortest (n + 1))

/-- The bits of a satellite field say what the LPP element says. -/
def SatelliteField.Faithful : SatelliteField → List Bool → Prop
  | .df397, bs => Field.Faithful ⟨1, 0, 254, some 255⟩
      (srcSatellite.integerMs.map fun ms => (ms.1 : ℚ)) (toNat bs)
  | .df398, bs => Field.Faithful ⟨1 / 2 ^ 10, 0, 1023, none⟩
      (some (srcSatellite.roughRange.1 / 2 ^ 10)) (toNat bs)
  | .dfExt, bs => Field.Faithful ⟨1, 0, 14, some 15⟩
      (if gnss = .glonass then channel.map fun c => (c.1 + 7 : ℚ) else none) (toNat bs)
  | .df399, bs => Field.Faithful ⟨1, -8191, 8191, some (-8192)⟩
      (srcSatellite.roughPhaseRangeRate.map fun rate => (rate.1 : ℚ)) (toInt bs)

/-- The bits of a signal field say what the LPP element says. -/
def SignalField.Faithful : SignalField → List Bool → Prop
  | .df400, bs => Field.Faithful ⟨1 / 2 ^ 24, -(2 ^ 14 - 1), 2 ^ 14 - 1, some (-2 ^ 14)⟩
      (some (srcSignal.finePseudoRange.1 / 2 ^ 29)) (toInt bs)
  | .df401, bs => Field.Faithful ⟨1 / 2 ^ 29, -(2 ^ 21 - 1), 2 ^ 21 - 1, some (-2 ^ 21)⟩
      (some (srcSignal.finePhaseRange.1 / 2 ^ 31)) (toInt bs)
  | .df402, bs => LockFaithful fromMsmLock 15
      (fromMsmLockEx srcSignal.lockTimeIndicator.1.toNat) (toNat bs)
  | .df403, bs => Field.Faithful ⟨1, 1, 63, some 0⟩
      (srcSignal.carrierToNoiseRatio.map fun ratio => (ratio.1 / 2 ^ 4 : ℚ)) (toNat bs)
  | .df404, bs => Field.Faithful ⟨1 / 10000, -(2 ^ 14 - 1), 2 ^ 14 - 1, some (-2 ^ 14)⟩
      (srcSignal.finePhaseRangeRate.map fun rate => (rate.1 / 10000 : ℚ)) (toInt bs)
  | .df405, bs => Field.Faithful ⟨1 / 2 ^ 29, -(2 ^ 19 - 1), 2 ^ 19 - 1, some (-2 ^ 19)⟩
      (some (srcSignal.finePseudoRange.1 / 2 ^ 29)) (toInt bs)
  | .df406, bs => Field.Faithful ⟨1 / 2 ^ 31, -(2 ^ 23 - 1), 2 ^ 23 - 1, some (-2 ^ 23)⟩
      (some (srcSignal.finePhaseRange.1 / 2 ^ 31)) (toInt bs)
  | .df407, bs => LockFaithful (fun n => fromMsmLockEx n.toNat) 704
      (fromMsmLockEx srcSignal.lockTimeIndicator.1.toNat) (toNat bs)
  | .df408, bs => Field.Faithful ⟨1 / 2 ^ 4, 1, 1023, some 0⟩
      (srcSignal.carrierToNoiseRatio.map fun ratio => (ratio.1 / 2 ^ 4 : ℚ)) (toNat bs)
  | .df420, bs => bs = [srcSignal.halfCycleAmbiguityIndicator.getBit 0]

/-- A range field of MSM7 spells the LPP integer itself. -/
def SatelliteField.Exact : SatelliteField → List Bool → Prop
  | .df397, bs => ∀ ms ∈ srcSatellite.integerMs, (toNat bs : ℤ) = ms.1
  | .df398, bs => (toNat bs : ℤ) = srcSatellite.roughRange.1
  | .df399, bs => ∀ rate ∈ srcSatellite.roughPhaseRangeRate, toInt bs = rate.1
  | .dfExt, _ => True

/-- A range field of MSM7 spells the LPP integer itself. -/
def SignalField.Exact : SignalField → List Bool → Prop
  | .df405, bs => toInt bs = srcSignal.finePseudoRange.1
  | .df406, bs => toInt bs = srcSignal.finePhaseRange.1
  | .df404, bs => ∀ rate ∈ srcSignal.finePhaseRangeRate, toInt bs = rate.1
  | _, _ => True

/-- The satellite that the fields are written from, with its channel from the auxiliary
information. -/
def emittedSatellite : Satellite :=
  { extractSatellite srcSatellite gnss with frequencyChannel := channel.map fun c => c.1 }

def emittedSignal : Signal := extractSignal srcSignal gnss (satelliteId srcSatellite gnss)

/-- Every field that version `msm` has for the satellite and the signal is as wide as it should
be and says what the LPP elements say; in MSM7 the range fields are exact. -/
def FieldsFaithful (msm : ℕ) : Prop :=
  (∀ field ∈ satelliteFields msm, ∃ bs,
    Encoder.Emits (field.write · (emittedSatellite gnss channel srcSatellite)) bs ∧
    bs.length = field.width ∧ field.Faithful gnss channel srcSatellite bs ∧
    (msm = 7 → field.Exact srcSatellite bs)) ∧
  (∀ field ∈ signalFields msm, ∃ bs,
    Encoder.Emits (field.write · (emittedSignal gnss srcSatellite srcSignal)) bs ∧
    bs.length = field.width ∧ field.Faithful srcSignal bs ∧
    (msm = 7 → field.Exact srcSignal bs))

end Statement

/-! ### What the encoders write -/

/-- The operation writes a bit string of width `w` with the property `P`. -/
def Writes (f : Encoder → Encoder) (w : ℕ) (P : List Bool → Prop) : Prop :=
  ∃ bs, Encoder.Emits f bs ∧ bs.length = w ∧ P bs

theorem two_pow_le {k n : ℕ} (h : k ≤ n) : (2 : ℤ) ^ k ≤ 2 ^ n :=
  pow_le_pow_right₀ (by norm_num) h

theorem writes_u8 {w : ℕ} (hw : w ≤ 8) {v : ℤ} (h0 : 0 ≤ v) (hv : v < 2 ^ w) :
    Writes (fun encoder => encoder.u8 w (UInt8.ofInt v)) w (fun bs => (toNat bs : ℤ) = v) := by
  refine ⟨_, Encoder.emits_u8 hw _, length_ofNat .., ?_⟩
  have hcast : (UInt8.ofInt v).toNat = v.toNat := by
    have := two_pow_le hw
    rw [UInt8.ofInt, UInt8.toNat_ofNat', Int.emod_eq_of_lt h0 (by omega),
      Nat.mod_eq_of_lt (by omega)]
  simp only [toNat_ofNat, hcast]
  push_cast
  rw [Int.toNat_of_nonneg h0, Int.emod_eq_of_lt h0 hv]

theorem writes_u16 {w : ℕ} (hw : w ≤ 16) {v : ℤ} (h0 : 0 ≤ v) (hv : v < 2 ^ w) :
    Writes (fun encoder => encoder.u16 w (UInt16.ofInt v)) w (fun bs => (toNat bs : ℤ) = v) := by
  refine ⟨_, Encoder.emits_u16 hw _, length_ofNat .., ?_⟩
  have hcast : (UInt16.ofInt v).toNat = v.toNat := by
    have := two_pow_le hw
    rw [UInt16.ofInt, UInt16.toNat_ofNat', Int.emod_eq_of_lt h0 (by omega),
      Nat.mod_eq_of_lt (by omega)]
  simp only [toNat_ofNat, hcast]
  push_cast
  rw [Int.toNat_of_nonneg h0, Int.emod_eq_of_lt h0 hv]

theorem writes_i16 {k : ℕ} (hk : k + 1 ≤ 16) {v : ℤ} (hlo : -2 ^ k ≤ v) (hhi : v < 2 ^ k) :
    Writes (fun encoder => encoder.i16 (k + 1) (Int16.ofInt v)) (k + 1)
      (fun bs => toInt bs = v) := by
  refine ⟨_, Encoder.emits_i16 (by omega) hk _, length_ofNat .., ?_⟩
  have := two_pow_le (show k ≤ 15 by omega)
  rw [Int16.toInt_ofInt_of_le (by omega) (by omega)]
  exact Encoder.toInt_signField hlo hhi

theorem writes_i32 {k : ℕ} (hk : k + 1 ≤ 32) {v : ℤ} (hlo : -2 ^ k ≤ v) (hhi : v < 2 ^ k) :
    Writes (fun encoder => encoder.i32 (k + 1) (Int32.ofInt v)) (k + 1)
      (fun bs => toInt bs = v) := by
  refine ⟨_, Encoder.emits_i32 (by omega) hk _, length_ofNat .., ?_⟩
  have := two_pow_le (show k ≤ 31 by omega)
  rw [Int32.toInt_ofInt_of_le (by omega) (by omega)]
  exact Encoder.toInt_signField hlo hhi

theorem Writes.mono {f : Encoder → Encoder} {w : ℕ} {P Q : List Bool → Prop}
    (h : Writes f w P) (hPQ : ∀ bs, P bs → Q bs) : Writes f w Q := by
  obtain ⟨bs, hf, hl, hP⟩ := h
  exact ⟨bs, hf, hl, hPQ bs hP⟩

theorem Writes.ite {c : Prop} [Decidable c] {f g : Encoder → Encoder} {w : ℕ}
    {P : List Bool → Prop} (hf : c → Writes f w P) (hg : ¬ c → Writes g w P) :
    Writes (fun encoder => if c then f encoder else g encoder) w P := by
  by_cases hc : c
  · simpa only [hc, if_true] using hf hc
  · simpa only [hc, if_false] using hg hc

/-- What an operation writes is determined. -/
theorem Encoder.Emits.unique {f : Encoder → Encoder} {bs cs : List Bool}
    (hb : Encoder.Emits f bs) (hc : Encoder.Emits f cs) : bs = cs := by
  have hB := hb.new
  have hC := hc.new
  have hpad : bs.length % 8 = cs.length % 8 := by rw [← hB.index_eq, ← hC.index_eq]
  have h := hB.bytes
  rw [hC.bytes, hpad] at h
  exact (List.append_cancel_right h).symm

/-- A field encoder that writes the rounded number when it is there and in range, and the
invalid number otherwise. -/
theorem writes_checked (field : Field) (x : Option ℚ) (read : List Bool → ℤ) {r inv : ℤ}
    {c : Prop} [Decidable c] {f g : Encoder → Encoder} {w : ℕ} (hres : 0 < field.resolution)
    (hinv : field.invalid = some inv) (hr : ∀ v, x = some v → rtcmRound (v / field.resolution) = r)
    (hc : c ↔ x.isSome ∧ field.lo ≤ r ∧ r ≤ field.hi)
    (hf : c → Writes f w (fun bs => read bs = r)) (hg : Writes g w (fun bs => read bs = inv)) :
    Writes (fun encoder => if c then f encoder else g encoder) w (fun bs =>
      field.Faithful x (read bs) ∧ (c → read bs = r) ∧ (¬ c → read bs = inv)) := by
  apply Writes.ite
  · intro h
    apply (hf h).mono
    intro bs hbs
    obtain ⟨v, hv⟩ := Option.isSome_iff_exists.mp (hc.mp h).1
    refine ⟨?_, fun _ => hbs, fun hn => absurd h hn⟩
    rw [hv, hbs, ← hr v hv]
    exact field.faithful_round hres
  · intro h
    apply hg.mono
    intro bs hbs
    refine ⟨?_, fun hp => absurd hp h, fun _ => hbs⟩
    rw [hbs]
    cases hx : x with
    | none => exact Field.faithful_none hinv
    | some v =>
      apply Field.faithful_invalid hinv
      rw [hr v hx]
      by_contra hn
      exact h (hc.mpr ⟨by rw [hx]; rfl, by omega, by omega⟩)

/-! ### The satellite fields -/

section Satellite

variable (gnss : GenericGnssId) (channel : Option (Integer (-7) 13))
variable (src : GnssRtkSatelliteDataElement)

theorem writes_df397 : Writes (df397 · (emittedSatellite gnss channel src)) 8 (fun bs =>
    SatelliteField.df397.Faithful gnss channel src bs ∧ SatelliteField.df397.Exact src bs) := by
  have hround : ∀ v, (src.integerMs.map fun ms => (ms.1 : ℚ)) = some v →
      rtcmRound (v / 1) = (emittedSatellite gnss channel src).integerMs.value := by
    intro v hv
    obtain ⟨ms, hms, rfl⟩ := Option.map_eq_some_iff.mp hv
    rw [div_one, rtcmRound_int]
    simp [emittedSatellite, extractSatellite, integerMs, hms, Maybe.value]
  apply (writes_checked ⟨1, 0, 254, some 255⟩ _ (fun bs => toNat bs) (by norm_num) rfl hround
    (by simp [emittedSatellite, extractSatellite, integerMs])
    (fun hc => writes_u8 (by omega) hc.2.1 (by have := hc.2.2; omega))
    (writes_u8 (v := 255) (by omega) (by omega) (by omega))).mono
  rintro bs ⟨hfaithful, hin, -⟩
  refine ⟨hfaithful, ?_⟩
  intro ms hms
  have hvalue : (emittedSatellite gnss channel src).integerMs = some ms.1 := by
    simp [emittedSatellite, extractSatellite, integerMs, Option.mem_def.mp hms]
  rw [hvalue] at hin
  exact hin ⟨rfl, ms.2.1, ms.2.2⟩

theorem writes_df398 : Writes (df398 · (emittedSatellite gnss channel src)) 10 (fun bs =>
    SatelliteField.df398.Faithful gnss channel src bs ∧ SatelliteField.df398.Exact src bs) := by
  obtain ⟨hlo, hhi⟩ := src.roughRange.2
  have hround : rtcmRound ((emittedSatellite gnss channel src).roughRange.value * 2 ^ 10) =
      src.roughRange.1 := by
    rw [← rtcmRound_int src.roughRange.1]
    congr 1
    simp only [emittedSatellite, extractSatellite, roughRange, Maybe.value, Option.getD_some]
    ring
  apply Writes.ite
  · intro hc
    rw [hround]
    apply (writes_u16 (w := 10) (by omega) hlo (by omega)).mono
    intro bs hbs
    refine ⟨?_, hbs⟩
    have hfaithful := Field.faithful_round ⟨1 / 2 ^ 10, 0, 1023, none⟩ (by norm_num)
      (v := src.roughRange.1 / 2 ^ 10)
    have hdiv : (src.roughRange.1 / 2 ^ 10 : ℚ) / (1 / 2 ^ 10) = src.roughRange.1 := by
      field_simp
    rw [hdiv, rtcmRound_int] at hfaithful
    simp only [SatelliteField.Faithful]
    rw [hbs]
    exact hfaithful
  · -- the rough range is always there and always fits
    intro hc
    rw [hround] at hc
    exact absurd ⟨rfl, hlo, hhi⟩ hc

theorem writes_df399 : Writes (df399 · (emittedSatellite gnss channel src)) 14 (fun bs =>
    SatelliteField.df399.Faithful gnss channel src bs ∧ SatelliteField.df399.Exact src bs) := by
  have hround : ∀ v, (src.roughPhaseRangeRate.map fun rate => (rate.1 : ℚ)) = some v →
      rtcmRound (v / 1) =
        rtcmRound (emittedSatellite gnss channel src).roughPhaseRangeRate.value := by
    intro v hv
    obtain ⟨rate, hrate, rfl⟩ := Option.map_eq_some_iff.mp hv
    simp [emittedSatellite, extractSatellite, roughPhaseRangeRate, hrate, Maybe.value]
  have hg : Writes (fun encoder => encoder.u16 14 0x2000) 14 (fun bs => toInt bs = -8192) :=
    ⟨_, Encoder.emits_u16 (by omega) _, length_ofNat .., by decide⟩
  apply (writes_checked ⟨1, -8191, 8191, some (-8192)⟩ _ toInt (by norm_num) rfl hround
    (by simp [emittedSatellite, extractSatellite, roughPhaseRangeRate])
    (fun hc => writes_i16 (k := 13) (by omega) (by have := hc.2.1; norm_num; omega)
      (by have := hc.2.2; norm_num; omega)) hg).mono
  rintro bs ⟨hfaithful, hin, hout⟩
  refine ⟨hfaithful, ?_⟩
  intro rate hrate
  have hvalue : (emittedSatellite gnss channel src).roughPhaseRangeRate = some (rate.1 : ℚ) := by
    simp [emittedSatellite, extractSatellite, roughPhaseRangeRate, Option.mem_def.mp hrate]
  have hr : rtcmRound (Maybe.value (some (rate.1 : ℚ))) = rate.1 := rtcmRound_int _
  rw [hvalue, hr] at hin hout
  by_cases hmin : rate.1 = -8192
  · -- the smallest rate is the invalid number itself
    rw [hout (by omega), hmin]
  · have := rate.2.1
    exact hin ⟨rfl, by omega, rate.2.2⟩

theorem writes_dfExt : Writes (dfExt · (emittedSatellite gnss channel src)) 4 (fun bs =>
    SatelliteField.dfExt.Faithful gnss channel src bs) := by
  have hsystem : (emittedSatellite gnss channel src).id.gnss = .glonass ↔ gnss = .glonass := by
    obtain ⟨h0, h64⟩ := src.svId.2
    have hid : (emittedSatellite gnss channel src).id = ⟨gnss.gnss, src.svId.1⟩ :=
      if_neg (by unfold lppSatelliteIdLimit; omega)
    rw [hid]
    cases gnss <;> simp [SatelliteId.gnss, GenericGnssId.gnss]
  have hinvalid : Writes (fun encoder => encoder.u8 4 0xF) 4 (fun bs => (toNat bs : ℤ) = 15) :=
    writes_u8 (v := 15) (by omega) (by omega) (by omega)
  simp only [SatelliteField.Faithful]
  apply Writes.ite
  · intro hglonass
    rw [hsystem] at hglonass
    rw [if_pos hglonass]
    have hround : ∀ v, (channel.map fun c => (c.1 + 7 : ℚ)) = some v →
        rtcmRound (v / 1) = (emittedSatellite gnss channel src).frequencyChannel.value + 7 := by
      intro v hv
      obtain ⟨c, hc, rfl⟩ := Option.map_eq_some_iff.mp hv
      rw [div_one, show (c.1 + 7 : ℚ) = ((c.1 + 7 : ℤ) : ℚ) by push_cast; rfl, rtcmRound_int, hc]
      rfl
    apply (writes_checked ⟨1, 0, 14, some 15⟩ _ (fun bs => toNat bs) (by norm_num) rfl hround
      (by simp [emittedSatellite])
      (fun hc => writes_u8 (by omega) hc.2.1 (by have := hc.2.2; omega)) hinvalid).mono
    rintro bs ⟨hfaithful, -⟩
    exact hfaithful
  · intro hother
    rw [hsystem] at hother
    rw [if_neg hother]
    apply hinvalid.mono
    intro bs hbs
    rw [hbs]
    exact Field.faithful_none rfl

end Satellite

/-! ### The signal fields -/

section Signal

variable (signal : Signal)

/-- The four fine ranges: with the validity that is tested, the rounded number is written if
it fits. -/
theorem writes_df400 {r : ℤ} (hvalid : signal.finePhaseRange.isSome)
    (hr : rtcmRound (signal.finePseudoRange.value * 2 ^ 24) = r) :
    Writes (df400 · signal) 15 (fun bs =>
      bs = ofNat 15 (Encoder.signField 15 (Int16.ofInt r).toInt)) := by
  refine ⟨_, ?_, length_ofNat .., rfl⟩
  unfold df400
  simp only [hvalid, if_true, hr]
  exact Encoder.emits_i16 (by omega) (by omega) _

theorem writes_df401 {r : ℤ} (hvalid : signal.finePseudoRange.isSome)
    (hr : rtcmRound (signal.finePhaseRange.value * 2 ^ 29) = r) :
    Writes (df401 · signal) 22 (fun bs =>
      bs = ofNat 22 (Encoder.signField 22 (Int32.ofInt r).toInt)) := by
  refine ⟨_, ?_, length_ofNat .., rfl⟩
  unfold df401
  simp only [hvalid, if_true, hr]
  exact Encoder.emits_i32 (by omega) (by omega) _

theorem writes_df405 {r : ℤ} (hvalid : signal.finePhaseRange.isSome)
    (hr : rtcmRound (signal.finePseudoRange.value * 2 ^ 29) = r) (hlo : -2 ^ 19 ≤ r)
    (hhi : r < 2 ^ 19) : Writes (df405 · signal) 20 (fun bs => toInt bs = r) := by
  unfold df405
  simp only [hvalid, if_true, hr]
  exact writes_i32 (by omega) hlo hhi

theorem writes_df406 {r : ℤ} (hvalid : signal.finePhaseRange.isSome)
    (hr : rtcmRound (signal.finePhaseRange.value * 2 ^ 31) = r) (hlo : -2 ^ 23 ≤ r)
    (hhi : r < 2 ^ 23) : Writes (df406 · signal) 24 (fun bs => toInt bs = r) := by
  unfold df406
  simp only [hvalid, if_true, hr]
  exact writes_i32 (by omega) hlo hhi

theorem writes_df403 : Writes (df403 · signal) 6 (fun bs =>
    Field.Faithful ⟨1, 1, 63, some 0⟩ signal.carrierToNoiseRatio (toNat bs)) := by
  have hround : ∀ v, signal.carrierToNoiseRatio = some v →
      rtcmRound (v / 1) = rtcmRound signal.carrierToNoiseRatio.value := by
    intro v hv
    rw [div_one, hv]
    rfl
  apply (writes_checked ⟨1, 1, 63, some 0⟩ _ (fun bs => toNat bs) (by norm_num) rfl hround
    Iff.rfl
    (fun hc => writes_u8 (by omega) (by have := hc.2.1; dsimp only at this; omega)
      (by have := hc.2.2; dsimp only at this; omega))
    (writes_u8 (v := 0) (by omega) (by omega) (by omega))).mono
  rintro bs ⟨hfaithful, -⟩
  exact hfaithful

theorem writes_df408 : Writes (df408 · signal) 10 (fun bs =>
    Field.Faithful ⟨1 / 2 ^ 4, 1, 1023, some 0⟩ signal.carrierToNoiseRatio (toNat bs)) := by
  have hround : ∀ v, signal.carrierToNoiseRatio = some v →
      rtcmRound (v / (1 / 2 ^ 4)) = rtcmRound (signal.carrierToNoiseRatio.value / 0.0625) := by
    intro v hv
    rw [hv]
    norm_num [Maybe.value]
  apply (writes_checked ⟨1 / 2 ^ 4, 1, 1023, some 0⟩ _ (fun bs => toNat bs) (by norm_num) rfl
    hround Iff.rfl
    (fun hc => writes_u16 (by omega) (by have := hc.2.1; dsimp only at this; omega)
      (by have := hc.2.2; dsimp only at this; omega))
    (writes_u16 (v := 0) (by omega) (by omega) (by omega))).mono
  rintro bs ⟨hfaithful, -⟩
  exact hfaithful

theorem writes_df404 : Writes (df404 · signal) 15 (fun bs =>
    Field.Faithful ⟨1 / 10000, -(2 ^ 14 - 1), 2 ^ 14 - 1, some (-2 ^ 14)⟩
      signal.finePhaseRangeRate (toInt bs) ∧
    ∀ r : ℤ, -2 ^ 14 ≤ r → r < 2 ^ 14 → signal.finePhaseRangeRate = some (r / 10000 : ℚ) →
      toInt bs = r) := by
  have hround : ∀ v, signal.finePhaseRangeRate = some v →
      rtcmRound (v / (1 / 10000)) = rtcmRound (signal.finePhaseRangeRate.value / 0.0001) := by
    intro v hv
    rw [hv]
    norm_num [Maybe.value]
  have hg : Writes (fun encoder => encoder.u16 15 0x4000) 15 (fun bs => toInt bs = -2 ^ 14) :=
    ⟨_, Encoder.emits_u16 (by omega) _, length_ofNat .., by decide⟩
  apply (writes_checked ⟨1 / 10000, -(2 ^ 14 - 1), 2 ^ 14 - 1, some (-2 ^ 14)⟩
    signal.finePhaseRangeRate toInt (by norm_num) rfl hround (by norm_num; omega)
    (fun hc => writes_i16 (k := 14) (by omega)
      (by have := hc.2.1; norm_num at this ⊢; omega)
      (by have := hc.2.2; norm_num at this ⊢; omega)) hg).mono
  rintro bs ⟨hfaithful, hin, hout⟩
  refine ⟨hfaithful, ?_⟩
  intro r hlo hhi hrate
  have hr : rtcmRound (signal.finePhaseRangeRate.value / 0.0001) = r := by
    have hdiv : (r / 10000 : ℚ) / (1 / 10000) = r := by field_simp
    rw [← hround _ hrate, hdiv, rtcmRound_int]
  rw [hr, hrate] at hin hout
  by_cases hmin : r = -2 ^ 14
  · rw [hout (by rw [hmin]; norm_num), hmin]
  · exact hin ⟨rfl, by norm_num at hlo hmin; omega, by norm_num at hhi; omega⟩

theorem fromMsmLock_le {n : ℕ} (hn : n ≤ 15) :
    fromMsmLock n = (kMlt2Table.getD n 0 : ℕ) / 1000 := by
  rw [fromMsmLock, if_neg (by omega), if_neg (by omega)]
  rfl

/-- The indicator of MSM4 and MSM5, for every lock time. -/
theorem toMsmLock_faithful {lock : ℚ} (h : 0 ≤ lock) :
    LockFaithful fromMsmLock 15 lock (toMsmLock lock) := by
  set bounds := kMlt2Table.drop 1 with hbounds
  set n := bounds.findIdx (fun bound : ℕ => decide (lock < bound / 1000)) with hn
  have hlen : bounds.length = 15 := rfl
  have hle : n ≤ 15 := by
    rw [← hlen]
    exact List.findIdx_le_length
  have hget : ∀ i (hi : i < bounds.length), bounds[i] = kMlt2Table.getD (i + 1) 0 := by
    decide
  have hvalue : toMsmLock lock = n := rfl
  rw [hvalue]
  refine ⟨by omega, by omega, ?_, ?_⟩
  · rw [fromMsmLock_le hle]
    -- the bound before the first one that holds does not hold
    rcases Nat.eq_zero_or_pos n with h0 | hpos
    · rw [h0]
      simpa [kMlt2Table] using h
    · have hbefore : n - 1 < bounds.findIdx fun bound : ℕ => decide (lock < bound / 1000) := by
        omega
      have hnot := List.not_of_lt_findIdx hbefore
      rw [hget, Nat.sub_add_cancel hpos, decide_eq_false_iff_not, not_lt] at hnot
      exact hnot
  · intro hlt
    have hn15 : bounds.findIdx (fun bound : ℕ => decide (lock < bound / 1000)) <
        bounds.length := by omega
    have hyes := List.findIdx_getElem (w := hn15)
    rw [hget, decide_eq_true_eq] at hyes
    have hsucc := fromMsmLock_le (n := n + 1) (by omega)
    push_cast at hsucc
    rw [hsucc]
    exact hyes

/-- The comparisons in seconds are comparisons in milliseconds. -/
theorem toMsmLockEx_ms (ms : ℕ) : toMsmLockEx (ms / 1000) =
    match lockExRows.find? (fun row => decide (ms < row.1)) with
    | some row => (ms + row.2.1).tdiv row.2.2
    | none => 704 := by
  have htrunc : trunc ((ms : ℚ) / 1000 * 1000) = ms := by
    rw [div_mul_cancel₀ _ (by norm_num), trunc, if_pos (by positivity)]
    exact Int.floor_natCast ms
  have hfind : (fun row : ℕ × ℤ × ℤ => decide ((ms : ℚ) / 1000 < row.1 / 1000)) =
      fun row => decide (ms < row.1) := by
    funext row
    rw [decide_eq_decide, div_lt_div_iff_of_pos_right (by norm_num), Nat.cast_lt]
  rw [toMsmLockEx, htrunc, if_neg (by rw [not_lt]; positivity), hfind]

/-- The tables of the lock times, row by row: a row starts where the one before it ends, in
indicators and in milliseconds. -/
theorem lockRow_spec (i : Fin 21) :
    lockTimeCoeff.getD i 0 * lockTimeBase.getD i 0 =
      lockTimeOffset.getD i 0 + (if i.val = 0 then 0 else (lockExRows.getD (i - 1) 0).1) ∧
    lockTimeCoeff.getD i 0 * lockTimeBase.getD (i + 1) 0 =
      lockTimeOffset.getD i 0 + (lockExRows.getD i 0).1 ∧
    lockExRows.getD i 0 =
      ((lockExRows.getD i 0).1, (lockTimeOffset.getD i 0 : ℤ), (lockTimeCoeff.getD i 0 : ℤ)) ∧
    0 < lockTimeCoeff.getD i 0 := by
  revert i
  decide

theorem lockExRows_mono (i j : Fin 21) (h : i ≤ j) :
    (lockExRows.getD i 0).1 ≤ (lockExRows.getD j 0).1 := by
  revert i j
  decide

theorem lockTimeBase_mono (i j : Fin 22) (h : i ≤ j) :
    lockTimeBase.getD i 0 ≤ lockTimeBase.getD j 0 := by
  revert i j
  decide

/-- Below 704 an indicator lies in one row. -/
theorem lockTimeRow_of_lt {n : ℕ} (h : n < 704) : ∃ i, i < 21 ∧ lockTimeRow n = some i ∧
    lockTimeBase.getD i 0 ≤ n ∧ n < lockTimeBase.getD (i + 1) 0 := by
  cases hrow : lockTimeRow n with
  | some i =>
    have hmem := List.mem_range.mp (List.mem_of_find?_eq_some hrow)
    have hp := List.find?_some hrow
    rw [decide_eq_true_eq] at hp
    exact ⟨i, hmem, rfl, hp⟩
  | none =>
    have hnone : ∀ i < 21, ¬ (lockTimeBase.getD i 0 ≤ n ∧ n < lockTimeBase.getD (i + 1) 0) := by
      intro i hi
      have := List.find?_eq_none.mp hrow i (List.mem_range.mpr hi)
      simpa using this
    have hle : ∀ i ≤ 21, lockTimeBase.getD i 0 ≤ n := by
      intro i
      induction i with
      | zero => intro _; exact Nat.zero_le n
      | succ i ih =>
        intro hi
        have hi' := hnone i (by omega)
        have := ih (by omega)
        omega
    exact absurd (hle 21 le_rfl) (by simp only [lockTimeBase]; simpa using h)

/-- The milliseconds of an indicator lie between the bounds of its row. -/
theorem lockTimeMs_of_lt {n : ℕ} (h : n < 704) : ∃ i : Fin 21, ∃ ms : ℕ,
    lockTimeBase.getD i 0 ≤ n ∧ n < lockTimeBase.getD (i + 1) 0 ∧
    lockTimeMs n = some ms ∧ ms + lockTimeOffset.getD i 0 = lockTimeCoeff.getD i 0 * n ∧
    (∀ j < i, (lockExRows.getD j 0).1 ≤ ms) ∧ ms < (lockExRows.getD i 0).1 := by
  obtain ⟨i, hi, hrow, hlo, hhi⟩ := lockTimeRow_of_lt h
  obtain ⟨hstart, hend, -, hpos⟩ := lockRow_spec ⟨i, hi⟩
  simp only at hstart hend hpos
  have hge : lockTimeCoeff.getD i 0 * lockTimeBase.getD i 0 ≤ lockTimeCoeff.getD i 0 * n :=
    Nat.mul_le_mul_left _ hlo
  have hlt : lockTimeCoeff.getD i 0 * n < lockTimeCoeff.getD i 0 * lockTimeBase.getD (i + 1) 0 :=
    Nat.mul_lt_mul_of_pos_left hhi hpos
  refine ⟨⟨i, hi⟩, lockTimeCoeff.getD i 0 * n - lockTimeOffset.getD i 0, hlo, hhi, ?_, ?_, ?_,
    ?_⟩
  · have hbase : lockTimeBase.getD (lockTimeSize - 1) 0 = 704 := rfl
    rw [lockTimeMs, hbase, if_neg (by omega), hrow]
    rfl
  · simp only
    omega
  · intro j hj
    have hj' : j.val < i := hj
    have hmono := lockExRows_mono j ⟨i - 1, by omega⟩ (by rw [Fin.le_def]; simp only; omega)
    simp only at hmono
    rw [if_neg (by omega)] at hstart
    omega
  · simp only
    omega

/-- Every indicator of LPP has a lock time. -/
theorem lockTime_eq (srcSignal : GnssRtkSatelliteSignalDataElement) :
    lockTime srcSignal = some (fromMsmLockEx srcSignal.lockTimeIndicator.1.toNat) := by
  set n := srcSignal.lockTimeIndicator.1.toNat with hn
  have hms : ∃ ms, lockTimeMs n = some ms := by
    by_cases h : n < 704
    · obtain ⟨-, ms, -, -, hms, -⟩ := lockTimeMs_of_lt h
      exact ⟨ms, hms⟩
    · have hbase : lockTimeBase.getD (lockTimeSize - 1) 0 = 704 := rfl
      exact ⟨67108864, by rw [lockTimeMs, hbase, if_pos (by omega)]⟩
  obtain ⟨ms, hms⟩ := hms
  simp [lockTime, ← hn, hms, fromMsmLockEx]

theorem toMsmLockEx_eq (n : ℕ) : toMsmLockEx (fromMsmLockEx n) = min n 704 := by
  rw [fromMsmLockEx, toMsmLockEx_ms]
  by_cases h : n < 704
  · obtain ⟨i, ms, -, -, hms, hoff, hbefore, hlt⟩ := lockTimeMs_of_lt h
    obtain ⟨-, -, hrow, hpos⟩ := lockRow_spec i
    have hfind :
        lockExRows.find? (fun row => decide (ms < row.1)) = some (lockExRows.getD i 0) := by
      rw [List.find?_eq_some_iff_getElem]
      refine ⟨by simpa using hlt, i, i.2, (List.getD_eq_getElem _ _ _).symm, ?_⟩
      intro j hj
      have hlen : lockExRows.length = 21 := rfl
      have hge := hbefore ⟨j, by omega⟩ hj
      rw [List.getD_eq_getElem _ _ (show j < lockExRows.length by omega)] at hge
      simpa using hge
    rw [hms, Option.getD_some, hfind, hrow]
    simp only
    have hcast : (ms : ℤ) + lockTimeOffset.getD i 0 = lockTimeCoeff.getD i 0 * n := by
      exact_mod_cast hoff
    rw [hcast, Int.mul_tdiv_cancel_left _ (by omega)]
    omega
  · have hbase : lockTimeBase.getD (lockTimeSize - 1) 0 = 704 := rfl
    rw [lockTimeMs, hbase, if_pos (by omega), Option.getD_some]
    have hnone : lockExRows.find? (fun row => decide (67108864 < row.1)) = none := by decide
    rw [hnone]
    simp only
    omega

/-- The lock times of the indicators grow. -/
theorem fromMsmLockEx_lt (n : ℕ) (h : n < 704) : fromMsmLockEx n < fromMsmLockEx (n + 1) := by
  obtain ⟨i, ms, hlo, -, hms, hoff, hbefore, hlt⟩ := lockTimeMs_of_lt h
  obtain ⟨ms', hms', hgrow⟩ : ∃ ms', lockTimeMs (n + 1) = some ms' ∧ ms < ms' := by
    by_cases hlast : n + 1 < 704
    · obtain ⟨j, ms', -, hhi', hms', hoff', hbefore', hlt'⟩ := lockTimeMs_of_lt hlast
      refine ⟨ms', hms', ?_⟩
      rcases lt_trichotomy i j with hij | hij | hij
      · exact lt_of_lt_of_le hlt (hbefore' i hij)
      · obtain ⟨-, -, -, hpos⟩ := lockRow_spec i
        rw [← hij, Nat.mul_add, Nat.mul_one] at hoff'
        omega
      · -- the next indicator cannot lie in an earlier row
        have hmono := lockTimeBase_mono ⟨j.val + 1, by omega⟩ ⟨i.val, by omega⟩
          (by rw [Fin.le_def]; exact hij)
        simp only at hmono
        omega
    · have hbase : lockTimeBase.getD (lockTimeSize - 1) 0 = 704 := rfl
      have hbound := lockExRows_mono i 20 (by omega)
      have h20 : (lockExRows.getD (20 : Fin 21) 0).1 = 67108864 := rfl
      refine ⟨67108864, by rw [lockTimeMs, hbase, if_pos (by omega)], by omega⟩
  rw [fromMsmLockEx, fromMsmLockEx, hms, hms', div_lt_div_iff_of_pos_right (by norm_num)]
  exact_mod_cast hgrow

theorem writes_df402 {lock : ℚ} (hlock : signal.lockTime = some lock) (h : 0 ≤ lock) :
    Writes (df402 · signal) 4 (fun bs => LockFaithful fromMsmLock 15 lock (toNat bs)) := by
  have hfaithful := toMsmLock_faithful h
  have hvalue : Maybe.value (some lock) = lock := rfl
  unfold df402
  simp only [hlock, hvalue, Option.isSome_some, true_and]
  apply Writes.ite
  · intro hc
    apply (writes_u8 (by omega) hc.1 (by have := hc.2; omega)).mono
    intro bs hbs
    rwa [hbs]
  · intro hc
    exact absurd ⟨hfaithful.1, hfaithful.2.1⟩ hc

theorem fromMsmLockEx_of_le {n : ℕ} (h : 704 ≤ n) : fromMsmLockEx n = fromMsmLockEx 704 := by
  have hbase : lockTimeBase.getD (lockTimeSize - 1) 0 = 704 := rfl
  rw [fromMsmLockEx, fromMsmLockEx, lockTimeMs, lockTimeMs, hbase, if_pos h, if_pos le_rfl]

theorem writes_df407 {n : ℕ} (hlock : signal.lockTime = some (fromMsmLockEx n)) :
    Writes (df407 · signal) 10 (fun bs =>
      LockFaithful (fun n => fromMsmLockEx n.toNat) 704 (fromMsmLockEx n) (toNat bs)) := by
  have hvalue : toMsmLockEx (Maybe.value (some (fromMsmLockEx n))) = (min n 704 : ℕ) :=
    toMsmLockEx_eq n
  unfold df407
  simp only [hlock, hvalue, Option.isSome_some, true_and]
  apply Writes.ite
  · intro hc
    apply (writes_u16 (by omega) hc.1 (by omega)).mono
    intro bs hbs
    rw [hbs]
    refine ⟨by omega, by omega, ?_, ?_⟩
    · -- past 704 the lock time stays the same
      simp only [Int.toNat_natCast]
      by_cases h : n ≤ 704
      · rw [Nat.min_eq_left h]
      · rw [Nat.min_eq_right (by omega), fromMsmLockEx_of_le (show 704 ≤ n by omega)]
    · intro hlt
      have hn : n < 704 := by omega
      have hnat : (((min n 704 : ℕ) : ℤ) + 1).toNat = n + 1 := by omega
      simp only [hnat]
      exact fromMsmLockEx_lt n hn
  · intro hc
    exact absurd ⟨by omega, by omega⟩ hc

theorem writes_df420 : Writes (df420 · signal) 1 (fun bs => bs = [signal.halfCycleAmbiguity]) :=
  ⟨_, Encoder.emits_b _, rfl, rfl⟩

end Signal

/-! ### Every field -/

section Main

variable (gnss : GenericGnssId) (channel : Option (Integer (-7) 13))
variable (srcSatellite : GnssRtkSatelliteDataElement)
variable (srcSignal : GnssRtkSatelliteSignalDataElement)

/-- The satellite fields are always right. -/
theorem satelliteField_faithful (field : SatelliteField) :
    Writes (field.write · (emittedSatellite gnss channel srcSatellite)) field.width (fun bs =>
      field.Faithful gnss channel srcSatellite bs ∧ field.Exact srcSatellite bs) := by
  cases field with
  | df397 => exact writes_df397 gnss channel srcSatellite
  | df398 => exact writes_df398 gnss channel srcSatellite
  | df399 => exact writes_df399 gnss channel srcSatellite
  | dfExt => exact (writes_dfExt gnss channel srcSatellite).mono fun bs h => ⟨h, trivial⟩

/-- Rounding a number of steps to a coarser step. -/
theorem rtcmRound_div (x : ℤ) {k : ℕ} (hk : 0 < k) :
    rtcmRound (x / (2 * k : ℚ)) = (x + k) / (2 * k) := by
  have hpos : (0 : ℚ) < 2 * k := by positivity
  have hlo : ((2 * k : ℤ) * ((x + k) / (2 * k)) : ℤ) ≤ x + k := Int.mul_ediv_self_le (by omega)
  have hhi : x + k < (2 * k : ℤ) * ((x + k) / (2 * k)) + 2 * k :=
    Int.lt_mul_ediv_self_add (by omega)
  qify at hlo hhi
  apply rtcmRound_eq
  · rw [le_div_iff₀ hpos]
    linarith
  · rw [div_lt_iff₀ hpos]
    linarith

/-- A fine range is always there, so the rounded number is written whatever it is. -/
theorem faithful_signed (field : Field) {v : ℚ} {r : ℤ} (hres : 0 < field.resolution)
    (hr : rtcmRound (v / field.resolution) = r) {bs : List Bool} (hbs : toInt bs = r) :
    field.Faithful (some v) (toInt bs) := by
  rw [hbs, ← hr]
  exact field.faithful_round hres

/-- A signed field that rounding can take to one past its end: there the sign bit is cleared
and zero is written, neither the nearest number nor the invalid one. -/
theorem overflow_faithful_iff (field : Field) {k : ℕ} (hk : 0 < k) {v : ℚ} {r : ℤ}
    (hres : 0 < field.resolution) (hinvalid : field.invalid ≠ some 0)
    (hr : rtcmRound (v / field.resolution) = r) (hlo : -2 ^ k ≤ r) (hhi : r ≤ 2 ^ k) :
    field.Faithful (some v) (toInt (ofNat (k + 1) (Encoder.signField (k + 1) r))) ↔
      r < 2 ^ k := by
  constructor
  · intro hfaithful
    by_contra hge
    have hmax : r = 2 ^ k := by omega
    have hzero : toInt (ofNat (k + 1) (Encoder.signField (k + 1) r)) = 0 := by
      have hpos : (0 : ℤ) < 2 ^ k := by positivity
      apply toInt_ofNat (by omega) hpos
      rw [Encoder.signField, Nat.add_sub_cancel, if_neg (by rw [hmax, not_lt]; positivity), hmax,
        Int.emod_self]
      rfl
    rw [hzero] at hfaithful
    rcases hfaithful with ⟨w, hw, hnearest, -⟩ | ⟨hinv, -⟩
    · cases hw
      -- `r` steps are at most half a step away from the value, none is much further
      have hv : v = v / field.resolution * field.resolution := by field_simp
      have hclose := hnearest r
      have hround := rtcmRound_le (v / field.resolution)
      have hround' := lt_rtcmRound (v / field.resolution)
      rw [hr] at hround hround'
      have hr2 : (2 : ℚ) ≤ r := by
        have : (2 : ℤ) ^ 1 ≤ 2 ^ k := two_pow_le hk
        rw [hmax]
        exact_mod_cast this
      have hsteps : |v - r * field.resolution| =
          |v / field.resolution - r| * field.resolution := by
        rw [← abs_of_pos hres, ← abs_mul, abs_of_pos hres, sub_mul, ← hv]
      have hhalf : |v / field.resolution - r| ≤ 1 / 2 := by
        rw [abs_le]
        constructor <;> linarith
      rw [Int.cast_zero, zero_mul, sub_zero, hsteps] at hclose
      have hle := le_abs_self v
      have hfar : 3 / 2 * field.resolution ≤ v := by
        rw [hv]
        apply mul_le_mul_of_nonneg_right _ hres.le
        linarith
      have hnear : |v / field.resolution - r| * field.resolution ≤ 1 / 2 * field.resolution :=
        mul_le_mul_of_nonneg_right hhalf hres.le
      linarith
    · exact hinvalid hinv
  · intro hlt
    exact faithful_signed field hres hr (Encoder.toInt_signField hlo hlt)

/-- The fine pseudo range of MSM4 and MSM5: 2^14 is one too many for 15 bits. -/
theorem df400_faithful_iff : Writes (df400 · (emittedSignal gnss srcSatellite srcSignal)) 15
    (fun bs => SignalField.df400.Faithful srcSignal bs ↔
      srcSignal.finePseudoRange.1 < 524272) := by
  obtain ⟨hlo, hhi⟩ := srcSignal.finePseudoRange.2
  set x := srcSignal.finePseudoRange.1 with hx
  have hsteps : rtcmRound (x / 32) = (x + 16) / 32 := by
    have h := rtcmRound_div x (k := 16) (by omega)
    norm_num at h
    exact h
  have hround : rtcmRound ((emittedSignal gnss srcSatellite srcSignal).finePseudoRange.value *
      2 ^ 24) = (x + 16) / 32 := by
    rw [← hsteps]
    congr 1
    simp only [emittedSignal, extractSignal, finePseudoRange, Maybe.value, Option.getD_some, ← hx]
    ring
  apply (writes_df400 _ rfl hround).mono
  rintro bs rfl
  rw [Int16.toInt_ofInt_of_le (by omega) (by omega)]
  have hiff := overflow_faithful_iff
    ⟨1 / 2 ^ 24, -(2 ^ 14 - 1), 2 ^ 14 - 1, some (-2 ^ 14)⟩ (k := 14) (v := x / 2 ^ 29)
    (r := (x + 16) / 32) (by omega) (by norm_num) (by simp)
    (by rw [← hsteps]; congr 1; ring) (by norm_num; omega) (by norm_num; omega)
  refine hiff.trans ?_
  norm_num
  omega

/-- The fine phase range of MSM4 and MSM5: 2^21 is one too many for 22 bits. -/
theorem df401_faithful_iff : Writes (df401 · (emittedSignal gnss srcSatellite srcSignal)) 22
    (fun bs => SignalField.df401.Faithful srcSignal bs ↔
      srcSignal.finePhaseRange.1 < 8388606) := by
  obtain ⟨hlo, hhi⟩ := srcSignal.finePhaseRange.2
  set x := srcSignal.finePhaseRange.1 with hx
  have hsteps : rtcmRound (x / 4) = (x + 2) / 4 := by
    have h := rtcmRound_div x (k := 2) (by omega)
    norm_num at h
    exact h
  have hround : rtcmRound ((emittedSignal gnss srcSatellite srcSignal).finePhaseRange.value *
      2 ^ 29) = (x + 2) / 4 := by
    rw [← hsteps]
    congr 1
    simp only [emittedSignal, extractSignal, finePhaseRange, Maybe.value, Option.getD_some, ← hx]
    ring
  apply (writes_df401 _ rfl hround).mono
  rintro bs rfl
  rw [Int32.toInt_ofInt_of_le (by omega) (by omega)]
  have hiff := overflow_faithful_iff
    ⟨1 / 2 ^ 29, -(2 ^ 21 - 1), 2 ^ 21 - 1, some (-2 ^ 21)⟩ (k := 21) (v := x / 2 ^ 31)
    (r := (x + 2) / 4) (by omega) (by norm_num) (by simp)
    (by rw [← hsteps]; congr 1; ring) (by norm_num; omega) (by norm_num; omega)
  refine hiff.trans ?_
  norm_num
  omega

theorem emittedSignal_lockTime : (emittedSignal gnss srcSatellite srcSignal).lockTime =
    some (fromMsmLockEx srcSignal.lockTimeIndicator.1.toNat) := lockTime_eq srcSignal

theorem emittedSignal_carrierToNoiseRatio :
    (emittedSignal gnss srcSatellite srcSignal).carrierToNoiseRatio =
      srcSignal.carrierToNoiseRatio.map fun ratio => (ratio.1 / 2 ^ 4 : ℚ) := by
  simp only [emittedSignal, extractSignal, carrierToNoiseRatio]
  congr 1
  funext ratio
  ring

theorem emittedSignal_finePhaseRangeRate :
    (emittedSignal gnss srcSatellite srcSignal).finePhaseRangeRate =
      srcSignal.finePhaseRangeRate.map fun rate => (rate.1 / 10000 : ℚ) := by
  simp only [emittedSignal, extractSignal, finePhaseRangeRate]
  congr 1
  funext rate
  norm_num
  ring

/-- The fine ranges of MSM6 and MSM7 have the resolution of LPP. -/
theorem df405_faithful : Writes (df405 · (emittedSignal gnss srcSatellite srcSignal)) 20
    (fun bs => SignalField.df405.Faithful srcSignal bs ∧ SignalField.df405.Exact srcSignal bs) := by
  obtain ⟨hlo, hhi⟩ := srcSignal.finePseudoRange.2
  set x := srcSignal.finePseudoRange.1 with hx
  have hround : rtcmRound ((emittedSignal gnss srcSatellite srcSignal).finePseudoRange.value *
      2 ^ 29) = x := by
    rw [← rtcmRound_int x]
    congr 1
    simp only [emittedSignal, extractSignal, finePseudoRange, Maybe.value, Option.getD_some, ← hx]
    ring
  apply (writes_df405 _ rfl hround (by omega) (by omega)).mono
  intro bs hbs
  refine ⟨faithful_signed _ (by norm_num) ?_ hbs, hbs⟩
  rw [← rtcmRound_int x]
  congr 1
  rw [← hx]
  field_simp

theorem df406_faithful : Writes (df406 · (emittedSignal gnss srcSatellite srcSignal)) 24
    (fun bs => SignalField.df406.Faithful srcSignal bs ∧ SignalField.df406.Exact srcSignal bs) := by
  obtain ⟨hlo, hhi⟩ := srcSignal.finePhaseRange.2
  set x := srcSignal.finePhaseRange.1 with hx
  have hround : rtcmRound ((emittedSignal gnss srcSatellite srcSignal).finePhaseRange.value *
      2 ^ 31) = x := by
    rw [← rtcmRound_int x]
    congr 1
    simp only [emittedSignal, extractSignal, finePhaseRange, Maybe.value, Option.getD_some, ← hx]
    ring
  apply (writes_df406 _ rfl hround (by omega) (by omega)).mono
  intro bs hbs
  refine ⟨faithful_signed _ (by norm_num) ?_ hbs, hbs⟩
  rw [← rtcmRound_int x]
  congr 1
  rw [← hx]
  field_simp

/-- The signal fields other than the fine ranges of MSM4 and MSM5 are always right. -/
theorem signalField_faithful (field : SignalField) (h400 : field ≠ .df400)
    (h401 : field ≠ .df401) :
    Writes (field.write · (emittedSignal gnss srcSatellite srcSignal)) field.width (fun bs =>
      field.Faithful srcSignal bs ∧ field.Exact srcSignal bs) := by
  have hlock := emittedSignal_lockTime gnss srcSatellite srcSignal
  have hratio := emittedSignal_carrierToNoiseRatio gnss srcSatellite srcSignal
  have hrate := emittedSignal_finePhaseRangeRate gnss srcSatellite srcSignal
  cases field with
  | df400 => exact absurd rfl h400
  | df401 => exact absurd rfl h401
  | df402 =>
    have hnn : 0 ≤ fromMsmLockEx srcSignal.lockTimeIndicator.1.toNat := by
      rw [fromMsmLockEx]
      positivity
    exact (writes_df402 _ hlock hnn).mono fun bs h => ⟨h, trivial⟩
  | df403 =>
    apply (writes_df403 (emittedSignal gnss srcSatellite srcSignal)).mono
    intro bs h
    rw [hratio] at h
    exact ⟨h, trivial⟩
  | df404 =>
    apply (writes_df404 (emittedSignal gnss srcSatellite srcSignal)).mono
    rintro bs ⟨h, hexact⟩
    rw [hrate] at h hexact
    refine ⟨h, ?_⟩
    intro rate hmem
    obtain ⟨hlo, hhi⟩ := rate.2
    exact hexact rate.1 (by omega) (by omega) (by rw [Option.mem_def.mp hmem]; rfl)
  | df405 => exact df405_faithful gnss srcSatellite srcSignal
  | df406 => exact df406_faithful gnss srcSatellite srcSignal
  | df407 => exact (writes_df407 _ hlock).mono fun bs h => ⟨h, trivial⟩
  | df408 =>
    apply (writes_df408 (emittedSignal gnss srcSatellite srcSignal)).mono
    intro bs h
    rw [hratio] at h
    exact ⟨h, trivial⟩
  | df420 => exact (writes_df420 _).mono fun bs h => ⟨h, trivial⟩

theorem mem_signalFields_df400 (msm : ℕ) : .df400 ∈ signalFields msm ↔ msm = 4 ∨ msm = 5 := by
  unfold signalFields
  split <;> simp_all

theorem mem_signalFields_df401 (msm : ℕ) : .df401 ∈ signalFields msm ↔ msm = 4 ∨ msm = 5 := by
  unfold signalFields
  split <;> simp_all

/-- **Field fidelity**: the fields of a version say what the LPP elements say, exactly when it
has no fine range of 15 or 22 bits or these do not round up to one past their width. -/
theorem fields_faithful_iff (msm : ℕ) :
    FieldsFaithful gnss channel srcSatellite srcSignal msm ↔
      (msm = 4 ∨ msm = 5 →
        srcSignal.finePseudoRange.1 < 524272 ∧ srcSignal.finePhaseRange.1 < 8388606) := by
  obtain ⟨bs400, hemits400, hlen400, h400⟩ := df400_faithful_iff gnss srcSatellite srcSignal
  obtain ⟨bs401, hemits401, hlen401, h401⟩ := df401_faithful_iff gnss srcSatellite srcSignal
  constructor
  · rintro ⟨-, hsignal⟩ hmsm
    constructor
    · obtain ⟨bs, hemits, -, hfaithful, -⟩ := hsignal _ ((mem_signalFields_df400 msm).mpr hmsm)
      rw [hemits.unique hemits400] at hfaithful
      exact h400.mp hfaithful
    · obtain ⟨bs, hemits, -, hfaithful, -⟩ := hsignal _ ((mem_signalFields_df401 msm).mpr hmsm)
      rw [hemits.unique hemits401] at hfaithful
      exact h401.mp hfaithful
  · intro hfit
    constructor
    · intro field _
      obtain ⟨bs, hemits, hlen, hfaithful, hexact⟩ :=
        satelliteField_faithful gnss channel srcSatellite field
      exact ⟨bs, hemits, hlen, hfaithful, fun _ => hexact⟩
    · intro field hmem
      by_cases hf400 : field = .df400
      · subst hf400
        have hrange := hfit ((mem_signalFields_df400 msm).mp hmem)
        exact ⟨bs400, hemits400, hlen400, h400.mpr hrange.1, fun _ => trivial⟩
      by_cases hf401 : field = .df401
      · subst hf401
        have hrange := hfit ((mem_signalFields_df401 msm).mp hmem)
        exact ⟨bs401, hemits401, hlen401, h401.mpr hrange.2, fun _ => trivial⟩
      obtain ⟨bs, hemits, hlen, hfaithful, hexact⟩ :=
        signalField_faithful gnss srcSatellite srcSignal field hf400 hf401
      exact ⟨bs, hemits, hlen, hfaithful, fun _ => hexact⟩

end Main

/-- A signal whose fine pseudo range is the largest that LPP has. -/
def largestPseudoRange : GnssRtkSatelliteSignalDataElement where
  gnssSignalId := ⟨⟨0, Integer.mem⟩, none⟩
  finePseudoRange := ⟨524287, Integer.mem_neg⟩
  finePhaseRange := ⟨0, Integer.mem_neg⟩
  lockTimeIndicator := ⟨0, Integer.mem⟩
  halfCycleAmbiguityIndicator := .ofBits [false]
  carrierToNoiseRatio := none
  finePhaseRangeRate := none

def oneSatellite : GnssRtkSatelliteDataElement where
  svId := ⟨0, Integer.mem⟩
  integerMs := none
  roughRange := ⟨0, Integer.mem⟩
  roughPhaseRangeRate := none
  gnssRtkSatelliteSignalDataList := ⟨[largestPseudoRange], by decide⟩

/-- In MSM4 the largest fine pseudo range, almost 2^-10 ms, is written as zero. -/
theorem largest_pseudo_range_unfaithful :
    ¬ FieldsFaithful .gps none oneSatellite largestPseudoRange 4 := by
  intro h
  obtain ⟨bs, hemits, -, hfaithful, -⟩ := h.2 .df400 (by decide)
  obtain ⟨bs400, hemits400, -, h400⟩ := df400_faithful_iff .gps oneSatellite largestPseudoRange
  rw [hemits.unique hemits400] at hfaithful
  exact absurd (h400.mp hfaithful) (by decide)

end SuplLpp.Rtcm
