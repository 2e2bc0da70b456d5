import SuplLpp.Asn.Types
import SuplLpp.Spartn.Bias
import SuplLpp.Spartn.Builder

/-!
# `MessageBuilder`

The fields of SPARTN payloads.  Each operation of the builder is given by the bits that it
appends; a payload is what `Builder` makes of them.  The doubles of the source are exact
rational numbers here.

* `Failure`, `Result` and `Build`: where the source stops, and what the way it was compiled
  has to do with it;
* `sf005` and the other fields, under the numbers that SPARTN gives them;
* `Message`, `MessageBuilder.build`.
-/

namespace SuplLpp.Spartn

open Asn Bits

/-! ### Failures -/

/-- Where the generator does not go on. -/
inductive Failure
  | assertion
  | unreachable
  | nullDereference
  | undefinedShift
  deriving DecidableEq, Repr

abbrev Result := Except Failure

/-- How the source was compiled: whether an `assert` is checked, and whether a shift by 64 or
more, or by a negative number, stops the program.  Where it does not, the processor takes the
low six bits of the count. -/
structure Build where
  assertions : Bool
  checkedShifts : Bool

namespace Build

/-- Every check is there. -/
def checked : Build := ⟨true, true⟩

/-- `assert`. -/
def assert (build : Build) (cond : Bool) : Result Unit :=
  if build.assertions && !cond then .error .assertion else .ok ()

/-- `(word & (1ULL << index)) != 0`. -/
def testBit (build : Build) (word : ℕ) (index : ℤ) : Result Bool :=
  if 0 ≤ index ∧ index < 64 then .ok (word.testBit index.toNat)
  else if build.checkedShifts then .error .undefinedShift
  else .ok (word.testBit (index % 64).toNat)

end Build

/-! ### Messages -/

inductive CrcType
  | crc8 | crc16 | crc24q
  deriving DecidableEq, Repr

structure Message where
  mMessageType : UInt8
  mMessageSubtype : UInt8
  mMessageTime : UInt32
  mPayload : List UInt8
  mCrcType : CrcType
  mSolutionId : UInt8
  mSolutionProcessorId : UInt8
  deriving DecidableEq

namespace MessageBuilder

/-- `MessageBuilder::build`, when `payload` was written. -/
def build (messageType messageSubtype messageTime : ℕ) (payload : List Bool) : Message :=
  { mMessageType := messageType.toUInt8
    mMessageSubtype := messageSubtype.toUInt8
    mMessageTime := messageTime.toUInt32
    mPayload := ((Builder.new 1024).write payload).data
    mCrcType := .crc16
    mSolutionId := 0
    mSolutionProcessorId := 0 }

/-- A message carries the bits of its payload, padded to whole bytes. -/
theorem bytesBits_build (messageType messageSubtype messageTime : ℕ) (payload : List Bool) :
    bytesBits (build messageType messageSubtype messageTime payload).mPayload =
      payload ++ List.replicate ((8 - payload.length % 8) % 8) false := by
  have hwrite := (Builder.holds_new 1024).write payload
  rw [List.nil_append] at hwrite
  exact hwrite.data

/-! ### Doubles -/

/-- `std::lround`: halves go away from zero. -/
def lround (value : ℚ) : ℤ := if 0 ≤ value then ⌊value + 1 / 2⌋ else ⌈value - 1 / 2⌉

/-- `Builder::double_to_bits`: the bits, and the value that they stand for. -/
def doubleToBits (minRange maxRange resolution value : ℚ) (bits : ℕ) : List Bool × ℚ :=
  let clampedValue := max minRange (min maxRange value)
  let scaledValue := (clampedValue - minRange) / resolution
  let roundedValue := lround scaledValue
  (ofNat bits (roundedValue % 2 ^ 64).toNat, roundedValue * resolution + minRange)

/-- `find_closest`. -/
def findClosest (minimum maximum : ℚ) (values : List ℚ) (value : ℚ) : ℕ :=
  if values.length = 0 then 0
  else if value < minimum then 0
  else if value > maximum then values.length - 1
  else
    (values.zipIdx.foldl
      (fun (best : ℕ × ℚ) (entry : ℚ × ℕ) =>
        let newDiff := |entry.1 - value|
        if newDiff < best.2 then (entry.2, newDiff) else best) (0, maximum * 2)).1

/-! ### Header fields -/

def b (value : Bool) : List Bool := [value]

def sf005 (siou : ℕ) : List Bool := ofNat 9 siou
def sf008 (present : Bool) : List Bool := b present
def sf009 (datum : ℕ) : List Bool := ofNat 1 datum
def sf010 (eos : Bool) : List Bool := b eos
def sf068 (aiou : ℕ) : List Bool := ofNat 4 aiou
def sf069 : List Bool := ofNat 1 0

def sf030 (build : Build) (count : ℕ) : Result (List Bool) := do
  build.assert (1 ≤ count)
  build.assert (count ≤ 32)
  return ofNat 5 (count - 1)

def sf031 (id : ℕ) : List Bool := ofNat 8 id

/-! ### Satellites

The size of a satellite mask is the first of four that the highest number fits. -/

/-- The branches of a system in `satellite_mask`: the code of the size and the size. -/
def maskSize (sizes : ℕ × ℕ × ℕ × ℕ) (count : ℕ) : ℕ × ℕ :=
  if count > sizes.2.2.1 then (3, sizes.2.2.2)
  else if count > sizes.2.1 then (2, sizes.2.2.1)
  else if count > sizes.1 then (1, sizes.2.1)
  else (0, sizes.1)

/-- The sizes of SF011, SF012, SF093 and SF094. -/
def maskSizes : GnssId → Option (ℕ × ℕ × ℕ × ℕ)
  | .gps => some (32, 44, 56, 64)
  | .glonass => some (24, 36, 48, 63)
  | .galileo => some (36, 45, 54, 64)
  | .bds => some (37, 46, 55, 64)
  | .sbas | .qzss | .navic => none

/-- The number of a satellite: LPP starts at 0. -/
def prn (id : SvId) : ℕ := (id.1 + 1).toNat

/-- `satellite_mask`: the highest number decides the size. -/
def satelliteMask (gnssId : GnssId) (ids : List SvId) : Result (List Bool) :=
  let highestPrn := ids.foldl (fun highestPrn id => max highestPrn (prn id)) 0
  match maskSizes gnssId with
  | some sizes =>
    let size := maskSize sizes highestPrn
    .ok (ofNat 2 size.1 ++ (List.range size.2).map fun i => ids.any fun id => prn id - 1 == i)
  | none => .error .unreachable

def sf013 (dnu : Bool) : List Bool := b dnu

def sf014 (orbit clock bias : Bool) : List Bool := b orbit ++ b clock ++ b bias

/-- The steps of SF015 and SF022. -/
def continuity (seconds : ℚ) : List Bool :=
  ofNat 3 <|
    if seconds ≥ 320 then 7 else if seconds ≥ 120 then 6 else if seconds ≥ 60 then 5
    else if seconds ≥ 30 then 4 else if seconds ≥ 10 then 3 else if seconds ≥ 5 then 2
    else if seconds ≥ 1 then 1 else 0

def sf015 (seconds : ℚ) : List Bool := continuity seconds
def sf022 (seconds : ℚ) : List Bool := continuity seconds

/-- SF016, SF017, SF096, SF097 or SF098. -/
def ephemerisType : GnssId → Result (List Bool)
  | .gps => .ok (ofNat 2 0)
  | .glonass => .ok (ofNat 2 0)
  | .galileo => .ok (ofNat 3 1)
  | .bds => .ok (ofNat 4 0)
  | .qzss => .ok (ofNat 3 0)
  | .sbas | .navic => .error .unreachable

/-- SF018, SF019, SF099 or SF100. -/
def orbitIode (gnssId : GnssId) (bitString : BitString 11) : Result (List Bool) :=
  let iode := bitString.asInt64.toNat
  match gnssId with
  | .gps => .ok (ofNat 8 (iode &&& 0xFF))
  | .glonass => .ok (ofNat 7 (iode &&& 0x7F))
  | .galileo => .ok (ofNat 10 (iode &&& 0x3FF))
  | .bds => .ok (ofNat 8 (iode * 512 / 720 % 240))
  | .sbas | .qzss | .navic => .error .unreachable

def sf020 (value : ℚ) : List Bool := (doubleToBits (-16.382) 16.382 0.002 value 14).1
def sf021 (value : ℚ) : List Bool := (doubleToBits 0 354 6 value 6).1
def sf023 (fixOrFloat : Bool) : List Bool := b fixOrFloat

def sf024Raw (ure : ℕ) : List Bool := ofNat 3 ure

def sf024 (ure : ℚ) : List Bool :=
  if ure < 0 then sf024Raw 0
  else sf024Raw (findClosest 0 2 [0.01, 0.02, 0.05, 0.1, 0.3, 1, 2] ure + 1)

/-! ### Biases -/

/-- `sfxxx_bias_mask_raw`. -/
def biasMaskRaw (low high : ℕ) (extended : Bool) (mask : ℕ) : List Bool :=
  b extended ++ if extended then ofNat high mask else ofNat low mask

/-- `sfxxx_bias_mask`: the highest slot that is taken decides whether the mask is extended. -/
def biasMask (low high : ℕ) (slots : BiasSlots) : List Bool :=
  let highest := (List.range high).foldl (fun highest i => if slots.has i then i else highest) 0
  let extended := decide (highest ≥ low)
  let size := if extended then high else low
  b extended ++ (List.range size).map slots.has

def sf025Raw := biasMaskRaw 6 11
def sf025 := biasMask 6 11
def sf026Raw := biasMaskRaw 5 9
def sf026 := biasMask 5 9
def sf027Raw := biasMaskRaw 6 11
def sf027 := biasMask 6 11
def sf028Raw := biasMaskRaw 5 9
def sf028 := biasMask 5 9
def sf102Raw := biasMaskRaw 8 15
def sf102 := biasMask 8 15
def sf103Raw := biasMaskRaw 8 15
def sf103 := biasMask 8 15
def sf105Raw := biasMaskRaw 8 15
def sf105 := biasMask 8 15
def sf106Raw := biasMaskRaw 8 15
def sf106 := biasMask 8 15

def sf029 (value : ℚ) : List Bool := (doubleToBits (-20.46) 20.46 0.02 value 11).1

/-! ### Areas -/

def sf032 (latitude : ℚ) : List Bool := (doubleToBits (-90) 90 0.1 latitude 11).1
def sf033 (longitude : ℚ) : List Bool := (doubleToBits (-180) 180 0.1 longitude 12).1

def sf034 (build : Build) (count : ℕ) : Result (List Bool) := do
  build.assert (1 ≤ count)
  build.assert (count ≤ 8)
  return ofNat 3 (count - 1)

def sf035 (build : Build) (count : ℕ) : Result (List Bool) := do
  build.assert (1 ≤ count)
  build.assert (count ≤ 8)
  return ofNat 3 (count - 1)

def sf036 (spacing : ℚ) : List Bool := (doubleToBits 0.1 3.2 0.1 spacing 5).1
def sf037 (spacing : ℚ) : List Bool := (doubleToBits 0.1 3.2 0.1 spacing 5).1

def sf039 (build : Build) (count : ℕ) : Result (List Bool) := do
  build.assert (count ≤ 127)
  return ofNat 7 count

def sf040 (type : ℕ) : List Bool := ofNat 2 type

/-! ### Troposphere -/

def sf041 (type : ℕ) : List Bool := ofNat 3 type

def sf042Raw (quality : ℕ) : List Bool := ofNat 3 quality

def sf042 (quality : ℚ) : List Bool :=
  if quality < 0 then sf042Raw 0
  else sf042Raw (findClosest 0 0.64 [0.01, 0.02, 0.04, 0.08, 0.16, 0.32, 0.64] quality + 1)

def sf043 (delay : ℚ) : List Bool × ℚ := doubleToBits (-0.508) 0.505 0.004 delay 8
def sf044 (size : ℕ) : List Bool := ofNat 1 size
def sf045 (value : ℚ) : List Bool × ℚ := doubleToBits (-0.252) 0.252 0.004 value 7
def sf046 (value : ℚ) : List Bool × ℚ := doubleToBits (-0.063) 0.063 0.001 value 7
def sf047 (value : ℚ) : List Bool × ℚ := doubleToBits (-0.051) 0.051 0.0002 value 9
def sf048 (value : ℚ) : List Bool × ℚ := doubleToBits (-1.020) 1.020 0.004 value 9
def sf049 (value : ℚ) : List Bool × ℚ := doubleToBits (-0.255) 0.255 0.001 value 9
def sf050 (value : ℚ) : List Bool × ℚ := doubleToBits (-0.2046) 0.2046 0.0002 value 11
def sf051 (size : ℕ) : List Bool := ofNat 1 size
def sf052Invalid : List Bool := ofNat 6 0x3F
def sf052 (value : ℚ) : List Bool := (doubleToBits (-0.124) 0.124 0.004 value 6).1
def sf053Invalid : List Bool := ofNat 8 0xFF
def sf053 (value : ℚ) : List Bool := (doubleToBits (-0.508) 0.508 0.004 value 8).1

/-! ### Ionosphere -/

def sf054 (type : ℕ) : List Bool := ofNat 3 type

def sf055Raw (value : ℕ) : List Bool := ofNat 4 value

def sf055 (quality : ℚ) : List Bool :=
  if quality < 0 then sf055Raw 0
  else sf055Raw (findClosest 0 287.52
    [0.03, 0.05, 0.07, 0.14, 0.28, 0.56, 1.12, 2.24, 4.48, 8.96, 17.92, 35.84, 71.68, 143.36,
      287.52] quality + 1)

def sf056 (largeCoefficient : Bool) : List Bool := b largeCoefficient
def sf057 (value : ℚ) : List Bool := (doubleToBits (-81.88) 81.88 0.04 value 12).1
def sf058 (value : ℚ) : List Bool := (doubleToBits (-16.376) 16.376 0.008 value 12).1
def sf059 (value : ℚ) : List Bool := (doubleToBits (-8.190) 8.190 0.002 value 13).1
def sf060 (value : ℚ) : List Bool := (doubleToBits (-327.64) 327.64 0.04 value 14).1
def sf061 (value : ℚ) : List Bool := (doubleToBits (-65.528) 65.528 0.008 value 14).1
def sf062 (value : ℚ) : List Bool := (doubleToBits (-32.766) 32.766 0.002 value 15).1

def ionosphereCoefficientC00 (largeCoefficient : Bool) (value : ℚ) : List Bool :=
  if largeCoefficient then sf060 value else sf057 value

def ionosphereCoefficientC10C01 (largeCoefficient : Bool) (value : ℚ) : List Bool :=
  if largeCoefficient then sf061 value else sf058 value

def ionosphereCoefficientC11 (largeCoefficient : Bool) (value : ℚ) : List Bool :=
  if largeCoefficient then sf062 value else sf059 value

def sf063 (size : ℕ) : List Bool := ofNat 2 size
def sf064Invalid : List Bool := ofNat 4 0xF
def sf064 (value : ℚ) : List Bool := (doubleToBits (-0.28) 0.28 0.04 value 4).1
def sf065Invalid : List Bool := ofNat 7 0x7F
def sf065 (value : ℚ) : List Bool := (doubleToBits (-2.52) 2.52 0.04 value 7).1
def sf066Invalid : List Bool := ofNat 10 0x3FF
def sf066 (value : ℚ) : List Bool := (doubleToBits (-20.44) 20.44 0.04 value 10).1
def sf067Invalid : List Bool := ofNat 14 0x3FFF
def sf067 (value : ℚ) : List Bool := (doubleToBits (-327.64) 327.64 0.04 value 14).1

def ionosphereResidual (size : ℕ) (value : ℚ) : Result (List Bool) :=
  match size with
  | 0 => .ok (sf064 value)
  | 1 => .ok (sf065 value)
  | 2 => .ok (sf066 value)
  | 3 => .ok (sf067 value)
  | _ => .error .unreachable

def ionosphereResidualInvalid (size : ℕ) : Result (List Bool) :=
  match size with
  | 0 => .ok sf064Invalid
  | 1 => .ok sf065Invalid
  | 2 => .ok sf066Invalid
  | 3 => .ok sf067Invalid
  | _ => .error .unreachable

end MessageBuilder

end SuplLpp.Spartn
