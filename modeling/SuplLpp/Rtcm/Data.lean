import SuplLpp.Asn.Types
import SuplLpp.Gnss.Ids
import SuplLpp.Time.Timestamp

/-!
# RTK data: from LPP to `RtkData`

The RTK elements of an LPP message are turned into the records that the RTCM messages are
built from.  The doubles of the source are exact rational numbers here.

* the LPP elements, with their ASN.1 constraints;
* `Signal`, `Satellite`, `Observations` and the other records of `rtk_data.hpp`;
* the `extract_` functions, one for each element.  `epochTime` has no value where the source
  reaches `UNREACHABLE`: an epoch in the time of SBAS, QZSS or NavIC.
-/

namespace SuplLpp.Asn

/-- `GNSS-RTK-SatelliteSignalDataElement-r15`. -/
structure GnssRtkSatelliteSignalDataElement where
  gnssSignalId : GnssSignalId
  finePseudoRange : Integer (-524288) 524287
  finePhaseRange : Integer (-8388608) 8388607
  lockTimeIndicator : Integer 0 1023
  halfCycleAmbiguityIndicator : BitString 1
  carrierToNoiseRatio : Option (Integer 0 1023)
  finePhaseRangeRate : Option (Integer (-16384) 16383)

/-- `GNSS-RTK-SatelliteDataElement-r15`. -/
structure GnssRtkSatelliteDataElement where
  svId : SvId
  integerMs : Option (Integer 0 254)
  roughRange : Integer 0 1023
  roughPhaseRangeRate : Option (Integer (-8192) 8191)
  gnssRtkSatelliteSignalDataList : SeqOf GnssRtkSatelliteSignalDataElement 1 24

/-- `GNSS-RTK-Observations-r15`. -/
structure GnssRtkObservations where
  epochTime : GnssSystemTime
  gnssObservationList : SeqOf GnssRtkSatelliteDataElement 1 64

/-- `GNSS-RTK-CommonObservationInfo-r15`. -/
structure GnssRtkCommonObservationInfo where
  referenceStationId : Integer 0 65535
  clockSteeringIndicator : Integer 0 3
  externalClockIndicator : Integer 0 3
  smoothingIndicator : BitString 1
  smoothingInterval : BitString 3

/-- `PhysicalReferenceStationInfo-r15`. -/
structure PhysicalReferenceStationInfo where
  physicalReferenceStationId : Integer 0 65535
  physicalArpEcefX : Integer (-137438953472) 137438953471
  physicalArpEcefY : Integer (-137438953472) 137438953471
  physicalArpEcefZ : Integer (-137438953472) 137438953471

/-- `referenceStationIndicator-r15`. -/
inductive ReferenceStationIndicator
  | physical | nonPhysical
  deriving DecidableEq

/-- `GNSS-RTK-ReferenceStationInfo-r15`. -/
structure GnssRtkReferenceStationInfo where
  referenceStationId : Integer 0 65535
  referenceStationIndicator : ReferenceStationIndicator
  antennaReferencePointEcefX : Integer (-137438953472) 137438953471
  antennaReferencePointEcefY : Integer (-137438953472) 137438953471
  antennaReferencePointEcefZ : Integer (-137438953472) 137438953471
  antennaHeight : Option (Integer 0 65535)
  physicalReferenceStationInfo : Option PhysicalReferenceStationInfo

/-- `GLO-RTK-BiasInformation-r15`. -/
structure GloRtkBiasInformation where
  referenceStationId : Integer 0 65535
  cpbIndicator : BitString 1
  l1CaCpBias : Option (Integer (-32768) 32767)
  l1PCpBias : Option (Integer (-32768) 32767)
  l2CaCpBias : Option (Integer (-32768) 32767)
  l2PCpBias : Option (Integer (-32768) 32767)

/-- `RTK-Residuals-Element-r15`. -/
structure RtkResidualsElement where
  svId : SvId
  sOc : Integer 0 255
  sOd : Integer 0 511
  sOh : Integer 0 63
  sLc : Integer 0 1023
  sLd : Integer 0 1023

/-- `GNSS-RTK-Residuals-r15`. -/
structure GnssRtkResiduals where
  epochTime : GnssSystemTime
  referenceStationId : Integer 0 65535
  nRefs : Integer 0 127
  rtkResidualsList : SeqOf RtkResidualsElement 1 64

/-- `GNSS-ID-GLONASS-SatElement`. -/
structure GnssIdGlonassSatElement where
  svId : SvId
  channelNumber : Option (Integer (-7) 13)

/-- `GNSS-AuxiliaryInformation`; the other alternatives are not read. -/
inductive GnssAuxiliaryInformation
  | gnssIdGps
  | gnssIdGlonass (list : SeqOf GnssIdGlonassSatElement 1 64)
  | ext1

end SuplLpp.Asn

namespace SuplLpp.Rtcm

open Asn

/-- `GenericGnssId`. -/
inductive GenericGnssId
  | gps | glonass | galileo | beidou
  deriving DecidableEq, Repr

/-- The same system among `SatelliteId::Gnss` and `SignalId::Gnss`. -/
def GenericGnssId.gnss : GenericGnssId → Gnss
  | .gps => .gps
  | .glonass => .glonass
  | .galileo => .galileo
  | .beidou => .beidou

/-! ### The records -/

structure CommonObservationInfo where
  referenceStationId : UInt32
  clockSteering : ℤ
  externalClock : ℤ
  smoothIndicator : ℤ
  smoothInterval : ℤ

structure ReferenceStation where
  referenceStationId : UInt32
  x : ℚ
  y : ℚ
  z : ℚ
  antennaHeight : Maybe ℚ
  isPhysicalReferenceStation : Bool

structure PhysicalReferenceStation where
  referenceStationId : UInt32
  x : ℚ
  y : ℚ
  z : ℚ

structure Signal where
  id : SignalId
  satellite : SatelliteId
  finePhaseRange : Maybe ℚ
  finePseudoRange : Maybe ℚ
  finePhaseRangeRate : Maybe ℚ
  carrierToNoiseRatio : Maybe ℚ
  lockTime : Maybe ℚ
  halfCycleAmbiguity : Bool

structure Satellite where
  id : SatelliteId
  integerMs : Maybe ℤ
  roughRange : Maybe ℚ
  roughPhaseRangeRate : Maybe ℚ
  frequencyChannel : Maybe ℤ

structure Observations where
  time : Ts.Tai
  signals : List Signal
  satellites : List Satellite

structure BiasInformation where
  referenceStationId : UInt32
  mask : UInt8
  l1Ca : Maybe ℚ
  l1P : Maybe ℚ
  l2Ca : Maybe ℚ
  l2P : Maybe ℚ
  indicator : Bool

structure Residuals.Satellite where
  id : SatelliteId
  sOc : ℚ
  sOd : ℚ
  sOh : ℚ
  sLc : ℚ
  sLd : ℚ

structure Residuals where
  time : Ts.Tai
  referenceStationId : UInt32
  nRefs : UInt32
  satellites : List Residuals.Satellite

/-! ### Time -/

/-- `gnss_id`; the systems without a case reach `UNREACHABLE`. -/
def gnssId (srcTime : GnssSystemTime) : Option GenericGnssId :=
  match srcTime.gnssTimeId with
  | .gps => some .gps
  | .glonass => some .glonass
  | .galileo => some .galileo
  | .bds => some .beidou
  | .sbas | .qzss | .navic => none

def epochTime (srcTime : GnssSystemTime) : Option Ts.Tai :=
  let timeOfDay : ℚ := srcTime.gnssTimeOfDay.1 +
    match srcTime.gnssTimeOfDayFracMsec with
    | some msec => (msec.1 : ℚ) / 1000
    | none => 0
  let timestamp := Ts.fromDayTod srcTime.gnssDayNumber.1 timeOfDay
  (gnssId srcTime).map fun
    | .gps => Ts.Tai.ofGps ⟨timestamp⟩
    | .glonass => Ts.Tai.ofGlo ⟨timestamp⟩
    | .galileo => Ts.Tai.ofGst ⟨timestamp⟩
    | .beidou => Ts.Tai.ofBdt ⟨timestamp⟩

/-! ### Observations -/

section Observations

variable (srcSignal : GnssRtkSatelliteSignalDataElement)
variable (srcSatellite : GnssRtkSatelliteDataElement)

def finePhaseRange : Maybe ℚ := some (srcSignal.finePhaseRange.1 * (1 / 2 ^ 31))

def finePseudoRange : Maybe ℚ := some (srcSignal.finePseudoRange.1 * (1 / 2 ^ 29))

def finePhaseRangeRate : Maybe ℚ :=
  srcSignal.finePhaseRangeRate.map fun rate => rate.1 * 0.0001

def carrierToNoiseRatio : Maybe ℚ :=
  srcSignal.carrierToNoiseRatio.map fun ratio => ratio.1 * (1 / 2 ^ 4)

def lockTimeSize : ℕ := 22

def lockTimeCoeff : List ℕ :=
  [1, 2, 4, 8, 16, 32, 64, 128, 256, 512, 1024, 2048, 4096, 8192, 16384, 32768, 65536, 131072,
    262144, 524288, 1048576, 2097152]

def lockTimeOffset : List ℕ :=
  [0, 64, 256, 768, 2048, 5120, 12288, 28672, 65536, 147456, 327680, 720896, 1572864, 3407872,
    7340032, 15728640, 33554432, 71303168, 150994944, 318767104, 671088640, 1409286144]

def lockTimeBase : List ℕ :=
  [0, 64, 96, 128, 160, 192, 224, 256, 288, 320, 352, 384, 416, 448, 480, 512, 544, 576, 608,
    640, 672, 704]

/-- The loop of `lock_time`: the first row whose interval holds the indicator. -/
def lockTimeRow (value : ℕ) : Option ℕ :=
  (List.range (lockTimeSize - 1)).find? fun i =>
    decide (lockTimeBase.getD i 0 ≤ value ∧ value < lockTimeBase.getD (i + 1) 0)

/-- The lock time of an indicator, before the division by 1000. -/
def lockTimeMs (value : ℕ) : Option ℕ :=
  if value ≥ lockTimeBase.getD (lockTimeSize - 1) 0 then some 67108864
  else (lockTimeRow value).map fun i => lockTimeCoeff.getD i 0 * value - lockTimeOffset.getD i 0

def lockTime : Maybe ℚ :=
  (lockTimeMs srcSignal.lockTimeIndicator.1.toNat).map fun ms => (ms : ℚ) / 1000

def halfCycleAmbiguity : Bool := srcSignal.halfCycleAmbiguityIndicator.getBit 0

def roughRange : Maybe ℚ := some (srcSatellite.roughRange.1 * (1 / 2 ^ 10))

def integerMs : Maybe ℤ := srcSatellite.integerMs.map fun ms => ms.1

def roughPhaseRangeRate : Maybe ℚ := srcSatellite.roughPhaseRangeRate.map fun rate => rate.1

def satelliteId (gnssId : GenericGnssId) : SatelliteId :=
  SatelliteId.fromLpp gnssId.gnss srcSatellite.svId.1

def signalId (gnssId : GenericGnssId) : SignalId :=
  let id :=
    match srcSignal.gnssSignalId.gnssSignalIdExt with
    | some ext => ext.1
    | none => srcSignal.gnssSignalId.gnssSignalId.1
  SignalId.fromLpp gnssId.gnss id

/-- The record that `extract_signal` appends. -/
def extractSignal (gnssId : GenericGnssId) (satelliteId : SatelliteId) : Signal where
  id := signalId srcSignal gnssId
  satellite := satelliteId
  finePhaseRange := finePhaseRange srcSignal
  finePseudoRange := finePseudoRange srcSignal
  finePhaseRangeRate := finePhaseRangeRate srcSignal
  carrierToNoiseRatio := carrierToNoiseRatio srcSignal
  lockTime := lockTime srcSignal
  halfCycleAmbiguity := halfCycleAmbiguity srcSignal

/-- The record that `extract_satellite` appends; the channel comes later. -/
def extractSatellite (gnssId : GenericGnssId) : Satellite where
  id := satelliteId srcSatellite gnssId
  integerMs := integerMs srcSatellite
  roughRange := roughRange srcSatellite
  roughPhaseRangeRate := roughPhaseRangeRate srcSatellite
  frequencyChannel := none

/-- The signals that `extract_satellite` appends. -/
def extractSignals (gnssId : GenericGnssId) : List Signal :=
  srcSatellite.gnssRtkSatelliteSignalDataList.1.map fun srcSignal =>
    extractSignal srcSignal gnssId (satelliteId srcSatellite gnssId)

end Observations

/-- What the loop of `extract_observations` collects. -/
def observationsAt (time : Ts.Tai) (gnssId : GenericGnssId)
    (srcObservation : GnssRtkObservations) : Observations where
  time := time
  signals := srcObservation.gnssObservationList.1.flatMap (extractSignals · gnssId)
  satellites := srcObservation.gnssObservationList.1.map (extractSatellite · gnssId)

def extractObservations (gnssId : GenericGnssId) (srcObservation : GnssRtkObservations) :
    Option Observations :=
  (epochTime srcObservation.epochTime).map fun time => observationsAt time gnssId srcObservation

/-! ### The other elements -/

def extractCommonObservationInfo (srcCommon : GnssRtkCommonObservationInfo) :
    CommonObservationInfo where
  referenceStationId := UInt32.ofInt srcCommon.referenceStationId.1
  clockSteering := srcCommon.clockSteeringIndicator.1
  externalClock := srcCommon.externalClockIndicator.1
  smoothIndicator := if srcCommon.smoothingIndicator.getBit 0 then 1 else 0
  smoothInterval := srcCommon.smoothingInterval.asInt64

def referencePoint (value : ℤ) : ℚ := value * 0.0001

def extractReferenceStationInfo (srcReference : GnssRtkReferenceStationInfo) :
    ReferenceStation where
  referenceStationId := UInt32.ofInt srcReference.referenceStationId.1
  x := referencePoint srcReference.antennaReferencePointEcefX.1
  y := referencePoint srcReference.antennaReferencePointEcefY.1
  z := referencePoint srcReference.antennaReferencePointEcefZ.1
  antennaHeight := srcReference.antennaHeight.map fun height => height.1 * 0.0001
  isPhysicalReferenceStation := decide (srcReference.referenceStationIndicator = .physical)

def extractPhysicalReferenceStationInfo (srcPhysical : PhysicalReferenceStationInfo) :
    PhysicalReferenceStation where
  referenceStationId := UInt32.ofInt srcPhysical.physicalReferenceStationId.1
  x := referencePoint srcPhysical.physicalArpEcefX.1
  y := referencePoint srcPhysical.physicalArpEcefY.1
  z := referencePoint srcPhysical.physicalArpEcefZ.1

def bias (value : ℤ) : ℚ := value * 0.02

def extractBiasInformation (srcBiasInfo : GloRtkBiasInformation) : BiasInformation where
  referenceStationId := UInt32.ofInt srcBiasInfo.referenceStationId.1
  mask := (if srcBiasInfo.l1CaCpBias.isSome then 0x01 else 0x00) |||
    (if srcBiasInfo.l1PCpBias.isSome then 0x02 else 0x00) |||
    (if srcBiasInfo.l2CaCpBias.isSome then 0x04 else 0x00) |||
    (if srcBiasInfo.l2PCpBias.isSome then 0x08 else 0x00)
  l1Ca := srcBiasInfo.l1CaCpBias.map fun value => bias value.1
  l1P := srcBiasInfo.l1PCpBias.map fun value => bias value.1
  l2Ca := srcBiasInfo.l2CaCpBias.map fun value => bias value.1
  l2P := srcBiasInfo.l2PCpBias.map fun value => bias value.1
  indicator := srcBiasInfo.cpbIndicator.getBit 0

/-- One round of the loop of `extract_any_residuas`. -/
def extractResidual (gnssId : GenericGnssId) (srcElement : RtkResidualsElement) :
    Residuals.Satellite where
  id := SatelliteId.fromLpp gnssId.gnss srcElement.svId.1
  sOc := srcElement.sOc.1 * 0.5
  sOd := srcElement.sOd.1 * 0.01
  sOh := srcElement.sOh.1 * 0.1
  sLc := srcElement.sLc.1 * 0.5
  sLd := srcElement.sLd.1 * 0.01

def extractAnyResiduals (gnssId : GenericGnssId) (srcResiduals : GnssRtkResiduals) :
    Option Residuals :=
  (epochTime srcResiduals.epochTime).map fun time =>
    { time := time
      referenceStationId := UInt32.ofInt srcResiduals.referenceStationId.1
      nRefs := UInt32.ofInt srcResiduals.nRefs.1
      satellites := srcResiduals.rtkResidualsList.1.map (extractResidual gnssId) }

/-- `AuxiliaryInformation`: the last entry of a satellite counts. -/
abbrev AuxiliaryInformation := SatelliteId → Option (Maybe ℤ)

def extractGlonassAuxiliaryInformation (srcGlonass : List GnssIdGlonassSatElement) :
    AuxiliaryInformation :=
  srcGlonass.foldl
    (fun aux element =>
      Function.update aux (SatelliteId.fromLpp .glonass element.svId.1)
        (some (element.channelNumber.map fun channel => channel.1)))
    fun _ => none

def extractAuxiliaryInformation (srcAux : GnssAuxiliaryInformation) :
    Option AuxiliaryInformation :=
  match srcAux with
  | .gnssIdGlonass list => some (extractGlonassAuxiliaryInformation list.1)
  | .gnssIdGps | .ext1 => none

/-- The frequency channels that `generate` copies from the auxiliary information. -/
def Observations.withChannels (observations : Observations) :
    Option AuxiliaryInformation → Observations
  | none => observations
  | some aux =>
    { observations with
      satellites := observations.satellites.map fun satellite =>
        match aux satellite.id with
        | some frequencyChannel => { satellite with frequencyChannel := frequencyChannel }
        | none => satellite }

end SuplLpp.Rtcm
