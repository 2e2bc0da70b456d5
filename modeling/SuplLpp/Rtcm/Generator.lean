import SuplLpp.Rtcm.Messages
import SuplLpp.Rtcm.Consistency

/-!
# The RTCM generator

* `extractRtkData`, from an LPP message to `RtkData`;
* `lowestMsmVersion`, `msmVersion`: the version that is chosen;
* `Generator.generate`, all messages of one LPP message; `generateFraming`, which wraps any
  bytes;
* `wellFormed_iff`: what `generate` returns is well formed as long as each MSM fits a frame,
  what `generateFraming` returns as long as it is asked for the number that it announces.
-/

namespace SuplLpp.Asn

/-- `GNSS-CommonAssistData`. -/
structure GnssCommonAssistData where
  gnssRtkCommonObservationInfo : Option GnssRtkCommonObservationInfo
  gnssRtkReferenceStationInfo : Option GnssRtkReferenceStationInfo

/-- `GNSS-GenericAssistDataElement`. -/
structure GnssGenericAssistDataElement where
  gnssId : GnssId
  gnssAuxiliaryInformation : Option GnssAuxiliaryInformation
  gnssRtkObservations : Option GnssRtkObservations
  gloRtkBiasInformation : Option GloRtkBiasInformation
  gnssRtkResiduals : Option GnssRtkResiduals

/-- `A-GNSS-ProvideAssistanceData`. -/
structure AGnssProvideAssistanceData where
  gnssCommonAssistData : Option GnssCommonAssistData
  gnssGenericAssistData : Option (SeqOf GnssGenericAssistDataElement 1 16)

/-- `criticalExtensions` of a `ProvideAssistanceData`. -/
inductive CriticalExtensions
  | provideAssistanceDataR9 (aGnssProvideAssistanceData : Option AGnssProvideAssistanceData)
  | other

inductive LppMessageBody
  | provideAssistanceData (criticalExtensions : CriticalExtensions)
  | other

structure LppMessage where
  lppMessageBody : Option LppMessageBody

end SuplLpp.Asn

namespace SuplLpp.Rtcm

open Asn Bits

/-! ### Extraction -/

structure RtkData where
  commonObservationInfo : Option CommonObservationInfo
  referenceStation : Option ReferenceStation
  physicalReferenceStation : Option PhysicalReferenceStation
  observations : GenericGnssId → Option Observations
  biasInformation : Option BiasInformation
  gpsResiduals : Option Residuals
  glonassResiduals : Option Residuals
  auxiliaryInformation : Option AuxiliaryInformation

def RtkData.new : RtkData := ⟨none, none, none, fun _ => none, none, none, none, none⟩

def extractCommonAssistData (data : RtkData) (srcCommon : GnssCommonAssistData) : RtkData :=
  let data :=
    match srcCommon.gnssRtkCommonObservationInfo with
    | some common =>
      { data with commonObservationInfo := some (extractCommonObservationInfo common) }
    | none => data
  match srcCommon.gnssRtkReferenceStationInfo with
  | some reference =>
    let data := { data with referenceStation := some (extractReferenceStationInfo reference) }
    match reference.physicalReferenceStationInfo with
    | some physical =>
      { data with
        physicalReferenceStation := some (extractPhysicalReferenceStationInfo physical) }
    | none => data
  | none => data

/-- The systems of the elements that are read. -/
def elementGnssId : GnssId → Option GenericGnssId
  | .gps => some .gps
  | .glonass => some .glonass
  | .galileo => some .galileo
  | .bds => some .beidou
  | .sbas | .qzss | .navic => none

section Element

variable (data : RtkData) (gnssId : GenericGnssId)

def RtkData.withAuxiliary (srcAux : Option GnssAuxiliaryInformation) : RtkData :=
  match srcAux.bind extractAuxiliaryInformation with
  | some aux => { data with auxiliaryInformation := some aux }
  | none => data

def RtkData.withObservations (srcObservation : Option GnssRtkObservations) : Option RtkData :=
  match srcObservation with
  | some srcObservation =>
    (extractObservations gnssId srcObservation).map fun observation =>
      { data with observations := Function.update data.observations gnssId (some observation) }
  | none => some data

def RtkData.withBias (srcBiasInfo : Option GloRtkBiasInformation) : RtkData :=
  match srcBiasInfo with
  | some srcBiasInfo =>
    if gnssId = .glonass then
      { data with biasInformation := some (extractBiasInformation srcBiasInfo) }
    else data
  | none => data

/-- `extract_residuals`. -/
def RtkData.withResiduals (srcResiduals : Option GnssRtkResiduals) : Option RtkData :=
  match srcResiduals, gnssId with
  | some srcResiduals, .gps =>
    (extractAnyResiduals gnssId srcResiduals).map fun residuals =>
      { data with gpsResiduals := some residuals }
  | some srcResiduals, .glonass =>
    (extractAnyResiduals gnssId srcResiduals).map fun residuals =>
      { data with glonassResiduals := some residuals }
  | _, _ => some data

def extractGenericElementData (srcGeneric : GnssGenericAssistDataElement) : Option RtkData :=
  match elementGnssId srcGeneric.gnssId with
  | none => some data
  | some gnssId => do
    let data := data.withAuxiliary srcGeneric.gnssAuxiliaryInformation
    let data ← data.withObservations gnssId srcGeneric.gnssRtkObservations
    let data := data.withBias gnssId srcGeneric.gloRtkBiasInformation
    data.withResiduals gnssId srcGeneric.gnssRtkResiduals

end Element

def extractGenericAssistData (data : RtkData) (srcGeneric : List GnssGenericAssistDataElement) :
    Option RtkData :=
  srcGeneric.foldlM extractGenericElementData data

/-- The branch of the message that is read; without it there is no data. -/
def LppMessage.aGnss (lppMessage : LppMessage) : Option AGnssProvideAssistanceData :=
  match lppMessage.lppMessageBody with
  | some (.provideAssistanceData (.provideAssistanceDataR9 aGnss)) => aGnss
  | _ => none

/-- `extract_rtk_data`, of the branch that it reads. -/
def extractRtkData (aGnss : AGnssProvideAssistanceData) : Option RtkData :=
  let data := RtkData.new
  let data :=
    match aGnss.gnssCommonAssistData with
    | some srcCommon => extractCommonAssistData data srcCommon
    | none => data
  match aGnss.gnssGenericAssistData with
  | some srcGeneric => extractGenericAssistData data srcGeneric.1
  | none => some data

/-! ### The version of the MSM -/

/-- `round`: halves go away from zero. -/
def roundHalfAway (value : ℚ) : ℤ := if 0 ≤ value then ⌊value + 1 / 2⌋ else ⌈value - 1 / 2⌉

section Version

def Signal.canBeEncodedAsMsm (signal : Signal) (msmVersion : ℕ) : Bool :=
  let old := decide (msmVersion = 4 ∨ msmVersion = 5)
  let df400Decoded := roundHalfAway (signal.finePseudoRange.value / (1 / 2 ^ 24)) * (1 / 2 ^ 24 : ℚ)
  let df405Decoded := roundHalfAway (signal.finePseudoRange.value / (1 / 2 ^ 29)) * (1 / 2 ^ 29 : ℚ)
  let df401Decoded := roundHalfAway (signal.finePhaseRange.value / (1 / 2 ^ 29)) * (1 / 2 ^ 29 : ℚ)
  let df406Decoded := roundHalfAway (signal.finePhaseRange.value / (1 / 2 ^ 31)) * (1 / 2 ^ 31 : ℚ)
  let df402Decoded := fromMsmLock (toMsmLock signal.lockTime.value)
  let df403Decoded : ℚ := roundHalfAway signal.carrierToNoiseRatio.value
  let df408Decoded := roundHalfAway (signal.carrierToNoiseRatio.value / 0.0625) * (0.0625 : ℚ)
  if signal.lockTime.isNone then false
  else if (msmVersion = 4 ∨ msmVersion = 6) ∧ signal.finePhaseRangeRate.isSome then false
  else if |df400Decoded - df405Decoded| > 0 ∧ old then false
  else if |df401Decoded - df406Decoded| > 0 ∧ old then false
  else if |df402Decoded - signal.lockTime.value| > 0.0001 ∧ old then false
  else if signal.carrierToNoiseRatio.isSome ∧ |df403Decoded - df408Decoded| > 0.0001 ∧ old then
    false
  else true

def Satellite.canBeEncodedAsMsm (satellite : Satellite) (msmVersion : ℕ) : Bool :=
  if satellite.roughRange.isNone then false
  else if (msmVersion = 4 ∨ msmVersion = 6) ∧ satellite.id.gnss = .glonass ∧
      satellite.frequencyChannel.isSome then false
  else if (msmVersion = 4 ∨ msmVersion = 6) ∧ satellite.roughPhaseRangeRate.isSome then false
  else true

/-- The first of the versions 4 to 7 that will do, or 0. -/
def lowestVersion (canBeEncoded : ℕ → Bool) : ℕ := ([4, 5, 6, 7].find? canBeEncoded).getD 0

def Signal.lowestMsmVersion (signal : Signal) : ℕ := lowestVersion signal.canBeEncodedAsMsm

def Satellite.lowestMsmVersion (satellite : Satellite) : ℕ :=
  lowestVersion satellite.canBeEncodedAsMsm

/-- The loops of `Observations::lowest_msm_version`: the largest version, or nothing as soon as
one of them is 0. -/
def largestVersion : ℕ → List ℕ → Option ℕ
  | msm, [] => some msm
  | msm, version :: versions =>
    if version = 0 then none
    else largestVersion (if version > msm then version else msm) versions

def Observations.lowestMsmVersion (observations : Observations) : ℕ :=
  let msm := do
    let msm ← largestVersion 0 (observations.satellites.map Satellite.lowestMsmVersion)
    largestVersion msm (observations.signals.map Signal.lowestMsmVersion)
  msm.getD 0

end Version

structure MessageFilter where
  systems : GenericGnssId → Bool
  msm4 : Bool
  msm5 : Bool
  msm6 : Bool
  msm7 : Bool
  forceMsm4 : Bool
  forceMsm5 : Bool
  forceMsm6 : Bool
  forceMsm7 : Bool
  mt1005 : Bool
  mt1006 : Bool
  mt1032 : Bool
  includeEveryNthGeneration : UInt32

/-- `gMsmGnssMessageOrder`. -/
def gMsmGnssMessageOrder : List GenericGnssId := [.gps, .glonass, .galileo, .beidou]

/-- The observations that messages are generated for: those of the systems that the filter
lets through, with the channels of the auxiliary information. -/
def usedObservations (data : RtkData) (filter : MessageFilter) (gnss : GenericGnssId) :
    Option Observations :=
  let anyMsm := filter.msm4 || filter.msm5 || filter.msm6 || filter.msm7
  let anyForceMsm := filter.forceMsm4 || filter.forceMsm5 || filter.forceMsm6 || filter.forceMsm7
  if !filter.systems gnss then none
  else if !anyMsm && !anyForceMsm then none
  else (data.observations gnss).map (·.withChannels data.auxiliaryInformation)

/-- The MSM version that `generate` chooses for the observations. -/
def msmVersion (filter : MessageFilter) (observations : List Observations) : ℕ :=
  let lowestMsm := (observations.map Observations.lowestMsmVersion).foldl
    (fun lowestMsm gnssMsm => if gnssMsm > lowestMsm then gnssMsm else lowestMsm) 0
  let lowestMsm := if lowestMsm = 4 ∧ !filter.msm4 then 5 else lowestMsm
  let lowestMsm := if lowestMsm = 5 ∧ !filter.msm5 then 6 else lowestMsm
  let lowestMsm := if lowestMsm = 6 ∧ !filter.msm6 then 7 else lowestMsm
  let lowestMsm := if lowestMsm = 7 ∧ !filter.msm7 then 0 else lowestMsm
  let lowestMsm := if filter.forceMsm4 then 4 else lowestMsm
  let lowestMsm := if filter.forceMsm5 then 5 else lowestMsm
  let lowestMsm := if filter.forceMsm6 then 6 else lowestMsm
  let lowestMsm := if filter.forceMsm7 then 7 else lowestMsm
  if lowestMsm = 0 then 4 else lowestMsm

/-! ### The generator -/

structure Generator where
  mGenerationIndex : UInt32
  mReferenceStation : Option ReferenceStation
  mPhysicalReferenceStation : Option PhysicalReferenceStation

def Generator.new : Generator := ⟨0, none, none⟩

/-- The reference station messages. -/
def referenceStationMessages (filter : MessageFilter) (referenceStation : ReferenceStation)
    (physicalReferenceStation : Option PhysicalReferenceStation)
    (gpsIndicator gloIndicator galIndicator : Bool) : List Message :=
  (if filter.mt1006 ∧ referenceStation.antennaHeight.isSome then
      [generate1006 referenceStation gpsIndicator gloIndicator galIndicator]
    else if filter.mt1005 then
      [generate1005 referenceStation gpsIndicator gloIndicator galIndicator]
    else []) ++
  match physicalReferenceStation with
  | some physicalReferenceStation =>
    if filter.mt1032 then [generate1032 referenceStation physicalReferenceStation] else []
  | none => []

/-- The MSM messages: the last one says that no more follow. -/
def msmMessages (msm : UInt32) (common : CommonObservationInfo) :
    List (GenericGnssId × Observations) → List Message
  | [] => []
  | (gnss, observations) :: rest =>
    generateMsm msm rest.isEmpty gnss common observations :: msmMessages msm common rest

/-- The observations in the order of their messages. -/
def messageObservations (rtkData : RtkData) (filter : MessageFilter) :
    List (GenericGnssId × Observations) :=
  gMsmGnssMessageOrder.filterMap fun gnss =>
    (usedObservations rtkData filter gnss).map fun observations => (gnss, observations)

/-- What `generate` does with the data. -/
def Generator.generateFrom (generator : Generator) (rtkData : RtkData) (filter : MessageFilter) :
    List Message × Generator :=
  let observations := messageObservations rtkData filter
  let lowestMsm := msmVersion filter (observations.map (·.2))
  let shouldIncludeReferenceStation := rtkData.referenceStation.isSome ||
    (decide (filter.includeEveryNthGeneration > 0) &&
      generator.mGenerationIndex % filter.includeEveryNthGeneration == 0)
  let indicator gnss := (usedObservations rtkData filter gnss).isSome
  let referenceStation := rtkData.referenceStation.or generator.mReferenceStation
  let physicalReferenceStation :=
    rtkData.physicalReferenceStation.or generator.mPhysicalReferenceStation
  let stationMessages :=
    match referenceStation with
    | some referenceStation =>
      if shouldIncludeReferenceStation then
        referenceStationMessages filter referenceStation physicalReferenceStation
          (indicator .gps) (indicator .glonass) (indicator .galileo)
      else []
    | none => []
  let observationMessages :=
    match rtkData.commonObservationInfo with
    | some common => msmMessages lowestMsm.toUInt32 common observations
    | none => []
  let messages := stationMessages ++ observationMessages ++
    (rtkData.biasInformation.map generate1230).toList ++
    (rtkData.gpsResiduals.map generate1030).toList ++
    (rtkData.glonassResiduals.map generate1031).toList
  (messages,
    { mGenerationIndex := generator.mGenerationIndex + 1
      mReferenceStation := rtkData.referenceStation.or generator.mReferenceStation
      mPhysicalReferenceStation :=
        rtkData.physicalReferenceStation.or generator.mPhysicalReferenceStation })

/-- `Generator::generate`; no value where the extraction reaches `UNREACHABLE`. -/
def Generator.generate (generator : Generator) (lppMessage : Option LppMessage)
    (filter : MessageFilter) : Option (List Message × Generator) :=
  match lppMessage.bind LppMessage.aGnss with
  | none => some ([], generator)
  | some aGnss => (extractRtkData aGnss).map fun rtkData => generator.generateFrom rtkData filter

/-! ### Framing -/

/-- `LRF_MESSAGE_ID`. -/
def lrfMessageId : UInt16 := 355

def framingPayload (messageId : ℤ) (multipleMessageBit : Bool) (lppData : List UInt8) : Encoder :=
  let messageId := if messageId < 0 ∨ messageId > 4095 then 355 else messageId
  let encoder := Encoder.new
  let encoder := encoder.u16 12 (UInt16.ofInt messageId)
  let encoder := encoder.u8 4 0
  let encoder := encoder.u8 1 (if multipleMessageBit then 1 else 0)
  let encoder := encoder.u8 7 0
  encoder.copy lppData

def generateFramingMessage (messageId : ℤ) (multipleMessageBit : Bool) (lppData : List UInt8) :
    Message :=
  ⟨lrfMessageId.toUInt32, frame (framingPayload messageId multipleMessageBit lppData)⟩

/-- `generate_framing`: pieces of at most 1020 bytes. -/
def generateFraming (messageId : ℤ) (lppData : List UInt8) : List Message :=
  if _h : lppData = [] then []
  else
    let length := min lppData.length 1020
    let multipleMessageBit := decide (lppData.length > length)
    generateFramingMessage messageId multipleMessageBit (lppData.take length) ::
      generateFraming messageId (lppData.drop length)
termination_by lppData.length
decreasing_by
  have := List.length_pos_of_ne_nil _h
  simp only [List.length_drop]
  omega

/-! ### The size of an MSM -/

/-- The RTCM numbers of the satellites in the message. -/
def Observations.satelliteNumbers (observations : Observations) : List ℤ :=
  observations.satellites.filterMap (·.id.asMsm)

/-- The RTCM numbers of the signals in the message. -/
def Observations.signalNumbers (observations : Observations) : List ℤ :=
  (observations.signals.filter (·.satellite.asMsm.isSome)).filterMap (·.id.asMsm)

/-- The bits of an MSM: the header and the masks, the cell mask, and the columns. -/
def msmBits (msm : ℕ) (observations : Observations) : ℕ :=
  169 + min (observations.satelliteNumbers.dedup.length *
      observations.signalNumbers.dedup.length) 64 +
    observations.satelliteNumbers.length * ((satelliteFields msm).map SatelliteField.width).sum +
    observations.signalNumbers.length * ((signalFields msm).map SignalField.width).sum

theorem inMask_satellite (id : SatelliteId) : inMask 64 id.asMsm = id.asMsm.isSome := by
  cases h : id.asMsm with
  | none => rfl
  | some n =>
    have hrange := SatelliteId.asMsm_range h
    rw [inMask_iff.mpr ⟨n, rfl, hrange⟩]
    rfl

theorem inMask_signal (id : SignalId) : inMask 32 id.asMsm = id.asMsm.isSome := by
  cases h : id.asMsm with
  | none => rfl
  | some n =>
    have hrange := SignalId.asMsm_range h
    rw [inMask_iff.mpr ⟨n, rfl, by omega, hrange.2⟩]
    rfl

section Size

variable (observations : Observations)

theorem length_msmSatellites :
    (msmSatellites observations).length = observations.satelliteNumbers.length := by
  rw [msmSatellites, List.length_mergeSort, Observations.satelliteNumbers,
    List.length_filterMap_eq_countP, List.countP_eq_length_filter]
  simp only [inMask_satellite]

theorem length_msmSignals :
    (msmSignals observations).length = observations.signalNumbers.length := by
  rw [msmSignals, List.length_mergeSort, Observations.signalNumbers,
    List.length_filterMap_eq_countP, List.countP_eq_length_filter, List.filter_filter]
  simp only [inMask_satellite, inMask_signal]

theorem length_satelliteIds :
    (satelliteIds observations).length = observations.satelliteNumbers.dedup.length := by
  apply length_eq_dedup ((satelliteIds_sorted observations).imp Nat.ne_of_lt)
  · intro n hn
    obtain ⟨satellite, -, hn⟩ := List.mem_filterMap.mp hn
    exact (SatelliteId.asMsm_range hn).1
  intro i
  rw [mem_satelliteIds, satellitePositions, List.mem_map]
  simp only [msmSatellites, List.mem_mergeSort, List.mem_filter, Observations.satelliteNumbers,
    List.mem_filterMap, inMask_satellite, Option.isSome_iff_exists]
  constructor
  · rintro ⟨satellite, ⟨hmem, n, hn⟩, rfl⟩
    exact ⟨n, ⟨satellite, hmem, hn⟩, by simp [satellitePosition, hn, Maybe.value]⟩
  · rintro ⟨n, ⟨satellite, hmem, hn⟩, rfl⟩
    exact ⟨satellite, ⟨hmem, n, hn⟩, by simp [satellitePosition, hn, Maybe.value]⟩

theorem length_signalIds_numbers :
    (signalIds observations).length = observations.signalNumbers.dedup.length := by
  apply length_eq_dedup ((signalIds_sorted observations).imp Nat.ne_of_lt)
  · intro n hn
    obtain ⟨signal, -, hn⟩ := List.mem_filterMap.mp hn
    have hrange := SignalId.asMsm_range hn
    omega
  intro i
  rw [mem_signalIds, signalPositions, List.mem_map]
  simp only [msmSignals, List.mem_mergeSort, List.mem_filter, Observations.signalNumbers,
    List.mem_filterMap, inMask_satellite, inMask_signal, Bool.and_eq_true,
    Option.isSome_iff_exists]
  constructor
  · rintro ⟨signal, ⟨hmem, ⟨n, hn⟩, hsat⟩, rfl⟩
    exact ⟨n, ⟨signal, ⟨hmem, hsat⟩, hn⟩, by simp [signalPosition, hn, Maybe.value]⟩
  · rintro ⟨n, ⟨signal, ⟨hmem, hsat⟩, hn⟩, rfl⟩
    exact ⟨signal, ⟨hmem, ⟨n, hn⟩, hsat⟩, by simp [signalPosition, hn, Maybe.value]⟩

/-- The columns of a block take the bits of their fields for each element. -/
theorem length_columns {φ α : Type} (fields : List φ) (l : List α) (width : φ → ℕ)
    (raw : φ → α → ℕ) :
    (fields.flatMap fun field => l.flatMap fun a => ofNat (width field) (raw field a)).length =
      l.length * (fields.map width).sum := by
  have hcolumn : ∀ field, (l.flatMap fun a => ofNat (width field) (raw field a)).length =
      l.length * width field := by
    intro field
    simp only [List.length_flatMap, length_ofNat, List.map_const', List.sum_replicate_nat]
  rw [List.length_flatMap]
  simp only [hcolumn]
  induction fields with
  | nil => rfl
  | cons field fields ih => simp only [List.map_cons, List.sum_cons, ih, Nat.mul_add]

theorem msmPayload_bits (msm : UInt32) (lastMsm : Bool) (gnss : GenericGnssId)
    (common : CommonObservationInfo) : ∃ bs, bs.length + 12 = msmBits msm.toNat observations ∧
    (msmPayload msm lastMsm gnss common observations).Holds
      (ofNat 12 (msmMessageId msm gnss).toNat ++ bs) := by
  obtain ⟨bs, hlen, hholds⟩ := msmPayload_holds msm lastMsm gnss common observations
  simp only [List.append_assoc] at hholds
  refine ⟨_, ?_, hholds⟩
  have hcells : (cellMask (msmSatellites observations) (msmSignals observations)).length = _ :=
    length_cellBits observations
  have hsatellites := length_columns (satelliteFields msm.toNat) (msmSatellites observations)
    SatelliteField.width SatelliteField.raw
  have hsignals := length_columns (signalFields msm.toNat) (msmSignals observations)
    SignalField.width SignalField.raw
  rw [length_msmSatellites] at hsatellites
  rw [length_msmSignals] at hsignals
  rw [length_satelliteIds, length_signalIds_numbers] at hcells
  unfold satelliteColumn signalColumn
  simp only [List.length_append, length_ofNat, hlen, hcells, hsatellites, hsignals, msmBits]
  omega

end Size

/-! ### The version that is chosen -/

/-- A version, or 0 for none. -/
def IsVersion (msm : ℕ) : Prop := msm = 0 ∨ 4 ≤ msm ∧ msm ≤ 7

theorem lowestVersion_isVersion (canBeEncoded : ℕ → Bool) :
    IsVersion (lowestVersion canBeEncoded) := by
  rw [lowestVersion]
  cases h : [4, 5, 6, 7].find? canBeEncoded with
  | none => exact .inl rfl
  | some msm =>
    have hmem := List.mem_of_find?_eq_some h
    simp only [List.mem_cons, List.not_mem_nil, or_false] at hmem
    refine .inr ?_
    rw [Option.getD_some]
    omega

theorem largestVersion_isVersion {versions : List ℕ} (h : ∀ version ∈ versions, IsVersion version)
    {msm result : ℕ} (hmsm : IsVersion msm) (hresult : largestVersion msm versions = some result) :
    IsVersion result := by
  induction versions generalizing msm with
  | nil =>
    cases hresult
    exact hmsm
  | cons version versions ih =>
    rw [largestVersion] at hresult
    split at hresult
    · cases hresult
    · refine ih (fun v hv => h v (List.mem_cons_of_mem _ hv)) ?_ hresult
      split
      · exact h version (List.mem_cons_self ..)
      · exact hmsm

theorem Observations.lowestMsmVersion_isVersion (observations : Observations) :
    IsVersion observations.lowestMsmVersion := by
  rw [Observations.lowestMsmVersion]
  cases hsat : largestVersion 0 (observations.satellites.map Satellite.lowestMsmVersion) with
  | none => exact .inl rfl
  | some msm =>
    have hmsm : IsVersion msm := by
      refine largestVersion_isVersion ?_ (.inl rfl) hsat
      intro version hmem
      obtain ⟨satellite, -, rfl⟩ := List.mem_map.mp hmem
      exact lowestVersion_isVersion _
    cases hsig : largestVersion msm (observations.signals.map Signal.lowestMsmVersion) with
    | none =>
      refine .inl ?_
      simp [hsig]
    | some result =>
      have hresult : IsVersion result := by
        refine largestVersion_isVersion ?_ hmsm hsig
        intro version hmem
        obtain ⟨signal, -, rfl⟩ := List.mem_map.mp hmem
        exact lowestVersion_isVersion _
      simpa [hsig] using hresult

/-- The version is one that there is. -/
theorem msmVersion_range (filter : MessageFilter) (observations : List Observations) :
    4 ≤ msmVersion filter observations ∧ msmVersion filter observations ≤ 7 := by
  have hfold : ∀ versions : List ℕ, (∀ version ∈ versions, IsVersion version) →
      ∀ lowestMsm, IsVersion lowestMsm → IsVersion (versions.foldl
        (fun lowestMsm gnssMsm => if gnssMsm > lowestMsm then gnssMsm else lowestMsm)
        lowestMsm) := by
    intro versions
    induction versions with
    | nil => exact fun _ lowestMsm h => h
    | cons version versions ih =>
      intro h lowestMsm hlowest
      refine ih (fun v hv => h v (List.mem_cons_of_mem _ hv)) _ ?_
      dsimp only
      split
      · exact h version (List.mem_cons_self ..)
      · exact hlowest
  have hlowest := hfold (observations.map Observations.lowestMsmVersion) (by
    intro version hmem
    obtain ⟨o, -, rfl⟩ := List.mem_map.mp hmem
    exact o.lowestMsmVersion_isVersion) 0 (.inl rfl)
  unfold msmVersion
  generalize (observations.map Observations.lowestMsmVersion).foldl
    (fun lowestMsm gnssMsm => if gnssMsm > lowestMsm then gnssMsm else lowestMsm) 0 = lowestMsm
    at hlowest
  unfold IsVersion at hlowest
  grind

/-! ### The messages of the generator -/

/-- **When an MSM is well formed**: its bits fit a frame. -/
theorem generateMsm_wellFormed_iff {msm : ℕ} (hmsm : 4 ≤ msm ∧ msm ≤ 7) (lastMsm : Bool)
    (gnss : GenericGnssId) (common : CommonObservationInfo) (observations : Observations) :
    WellFormed (generateMsm msm.toUInt32 lastMsm gnss common observations) ↔
      msmBits msm observations ≤ 8184 := by
  have hnat : msm.toUInt32.toNat = msm := by
    rw [Nat.toUInt32_eq, UInt32.toNat_ofNat']
    omega
  have hid : (msmMessageId msm.toUInt32 gnss).toUInt32.toNat =
      (msmMessageId msm.toUInt32 gnss).toNat := UInt16.toNat_toUInt32 _
  have hlt : (msmMessageId msm.toUInt32 gnss).toNat < 4096 := by
    obtain ⟨hlo, hhi⟩ := hmsm
    have hcases : msm = 4 ∨ msm = 5 ∨ msm = 6 ∨ msm = 7 := by omega
    rcases hcases with rfl | rfl | rfl | rfl <;> cases gnss <;> decide
  obtain ⟨bs, hbits, hholds⟩ := msmPayload_bits observations msm.toUInt32 lastMsm gnss common
  have hcount := hholds.byteCount_eq
  rw [List.length_append, length_ofNat] at hcount
  rw [hnat] at hbits
  rw [generateMsm, wellFormed_frame_iff hholds (by simp), List.take_left' (length_ofNat ..),
    toNat_ofNat, hid]
  constructor
  · rintro ⟨hle, -⟩
    omega
  · intro hle
    exact ⟨by omega, Nat.mod_eq_of_lt hlt⟩

/-- The records of the residuals are as many as the ASN.1 list allows. -/
def RtkData.Bounded (data : RtkData) : Prop :=
  (∀ residuals ∈ data.gpsResiduals, residuals.satellites.length ≤ 64) ∧
    ∀ residuals ∈ data.glonassResiduals, residuals.satellites.length ≤ 64

theorem extractAnyResiduals_bounded {gnssId : GenericGnssId} {srcResiduals : GnssRtkResiduals}
    {residuals : Residuals} (h : extractAnyResiduals gnssId srcResiduals = some residuals) :
    residuals.satellites.length ≤ 64 := by
  obtain ⟨time, -, rfl⟩ := Option.map_eq_some_iff.mp h
  simp only [List.length_map]
  exact srcResiduals.rtkResidualsList.2.2

theorem RtkData.Bounded.withAuxiliary {data : RtkData} (h : data.Bounded)
    (srcAux : Option GnssAuxiliaryInformation) : (data.withAuxiliary srcAux).Bounded := by
  unfold RtkData.withAuxiliary
  split <;> exact h

theorem RtkData.Bounded.withObservations {data result : RtkData} (h : data.Bounded)
    {gnssId : GenericGnssId} {srcObservation : Option GnssRtkObservations}
    (hresult : data.withObservations gnssId srcObservation = some result) : result.Bounded := by
  unfold RtkData.withObservations at hresult
  split at hresult
  · obtain ⟨observation, -, rfl⟩ := Option.map_eq_some_iff.mp hresult
    exact h
  · cases hresult
    exact h

theorem RtkData.Bounded.withBias {data : RtkData} (h : data.Bounded) (gnssId : GenericGnssId)
    (srcBiasInfo : Option GloRtkBiasInformation) : (data.withBias gnssId srcBiasInfo).Bounded := by
  unfold RtkData.withBias
  split
  · split <;> exact h
  · exact h

theorem RtkData.Bounded.withResiduals {data result : RtkData} (h : data.Bounded)
    {gnssId : GenericGnssId} {srcResiduals : Option GnssRtkResiduals}
    (hresult : data.withResiduals gnssId srcResiduals = some result) : result.Bounded := by
  unfold RtkData.withResiduals at hresult
  split at hresult
  · obtain ⟨residuals, hresiduals, rfl⟩ := Option.map_eq_some_iff.mp hresult
    refine ⟨?_, h.2⟩
    rintro _ ⟨⟩
    exact extractAnyResiduals_bounded hresiduals
  · obtain ⟨residuals, hresiduals, rfl⟩ := Option.map_eq_some_iff.mp hresult
    refine ⟨h.1, ?_⟩
    rintro _ ⟨⟩
    exact extractAnyResiduals_bounded hresiduals
  · cases hresult
    exact h

theorem extractGenericElementData_bounded {data result : RtkData}
    {srcGeneric : GnssGenericAssistDataElement} (hdata : data.Bounded)
    (h : extractGenericElementData data srcGeneric = some result) : result.Bounded := by
  unfold extractGenericElementData at h
  split at h
  case h_1 =>
    cases h
    exact hdata
  case h_2 gnssId _ =>
    obtain ⟨observed, hobserved, h⟩ := Option.bind_eq_some_iff.mp h
    have hkept := (hdata.withAuxiliary srcGeneric.gnssAuxiliaryInformation).withObservations
      hobserved
    exact (hkept.withBias gnssId srcGeneric.gloRtkBiasInformation).withResiduals h

theorem extractRtkData_bounded {aGnss : AGnssProvideAssistanceData} {data : RtkData}
    (h : extractRtkData aGnss = some data) : data.Bounded := by
  have hnew : RtkData.new.Bounded := ⟨by rintro _ ⟨⟩, by rintro _ ⟨⟩⟩
  have hcommon : ∀ (data : RtkData) (srcCommon : GnssCommonAssistData), data.Bounded →
      (extractCommonAssistData data srcCommon).Bounded := by
    intro data srcCommon hdata
    unfold extractCommonAssistData
    split <;> split <;> first | exact hdata | (split <;> exact hdata)
  have hloop : ∀ (list : List GnssGenericAssistDataElement) (data : RtkData), data.Bounded →
      ∀ result, extractGenericAssistData data list = some result → result.Bounded := by
    intro list
    induction list with
    | nil =>
      rintro data hdata result ⟨⟩
      exact hdata
    | cons srcGeneric list ih =>
      intro data hdata result hresult
      rw [extractGenericAssistData, List.foldlM_cons] at hresult
      obtain ⟨next, hnext, hresult⟩ := Option.bind_eq_some_iff.mp hresult
      exact ih next (extractGenericElementData_bounded hdata hnext) result hresult
  unfold extractRtkData at h
  dsimp only at h
  split at h
  · refine hloop _ _ ?_ _ h
    split
    · exact hcommon _ _ hnew
    · exact hnew
  · cases h
    split
    · exact hcommon _ _ hnew
    · exact hnew

section Statement

/-- All messages that `generate` returns are well formed. -/
def GeneratesWellFormed (generator : Generator) (lppMessage : Option LppMessage)
    (filter : MessageFilter) : Prop :=
  ∀ messages next, generator.generate lppMessage filter = some (messages, next) →
    ∀ message ∈ messages, WellFormed message

/-- Each MSM fits a frame, if there are any: MSMs come with the common observation info. -/
def MsmsFit (lppMessage : Option LppMessage) (filter : MessageFilter) : Prop :=
  ∀ aGnss rtkData, lppMessage.bind LppMessage.aGnss = some aGnss →
    extractRtkData aGnss = some rtkData → rtkData.commonObservationInfo.isSome →
    ∀ entry ∈ messageObservations rtkData filter,
      msmBits (msmVersion filter ((messageObservations rtkData filter).map (·.2))) entry.2 ≤ 8184

end Statement

theorem referenceStationMessages_wellFormed (filter : MessageFilter)
    (referenceStation : ReferenceStation)
    (physicalReferenceStation : Option PhysicalReferenceStation) (gps glo gal : Bool) :
    ∀ message ∈ referenceStationMessages filter referenceStation physicalReferenceStation
      gps glo gal, WellFormed message := by
  intro message hmem
  unfold referenceStationMessages at hmem
  rw [List.mem_append] at hmem
  rcases hmem with hmem | hmem
  · split at hmem
    · rw [List.mem_singleton.mp hmem]
      exact generate1006_wellFormed ..
    · split at hmem
      · rw [List.mem_singleton.mp hmem]
        exact generate1005_wellFormed ..
      · exact absurd hmem List.not_mem_nil
  · split at hmem
    · split at hmem
      · rw [List.mem_singleton.mp hmem]
        exact generate1032_wellFormed ..
      · exact absurd hmem List.not_mem_nil
    · exact absurd hmem List.not_mem_nil

theorem msmMessages_wellFormed_iff {msm : ℕ} (hmsm : 4 ≤ msm ∧ msm ≤ 7)
    (common : CommonObservationInfo) (entries : List (GenericGnssId × Observations)) :
    (∀ message ∈ msmMessages msm.toUInt32 common entries, WellFormed message) ↔
      ∀ entry ∈ entries, msmBits msm entry.2 ≤ 8184 := by
  induction entries with
  | nil => simp [msmMessages]
  | cons entry entries ih =>
    obtain ⟨gnss, observations⟩ := entry
    rw [msmMessages, List.forall_mem_cons, List.forall_mem_cons, ih,
      generateMsm_wellFormed_iff hmsm]

/-- The messages beside the MSMs are well formed. -/
theorem generateFrom_wellFormed_iff {rtkData : RtkData} (hbounded : rtkData.Bounded)
    (generator : Generator) (filter : MessageFilter) :
    (∀ message ∈ (generator.generateFrom rtkData filter).1, WellFormed message) ↔
      (rtkData.commonObservationInfo.isSome → ∀ entry ∈ messageObservations rtkData filter,
        msmBits (msmVersion filter ((messageObservations rtkData filter).map (·.2))) entry.2 ≤
          8184) := by
  have hbias : ∀ message ∈ (rtkData.biasInformation.map generate1230).toList,
      WellFormed message := by
    intro message hmem
    rw [Option.mem_toList] at hmem
    obtain ⟨bias, -, rfl⟩ := Option.map_eq_some_iff.mp hmem
    exact generate1230_wellFormed bias
  have hgps : ∀ message ∈ (rtkData.gpsResiduals.map generate1030).toList,
      WellFormed message := by
    intro message hmem
    rw [Option.mem_toList] at hmem
    obtain ⟨residuals, hresiduals, rfl⟩ := Option.map_eq_some_iff.mp hmem
    exact generate1030_wellFormed (hbounded.1 residuals hresiduals)
  have hglonass : ∀ message ∈ (rtkData.glonassResiduals.map generate1031).toList,
      WellFormed message := by
    intro message hmem
    rw [Option.mem_toList] at hmem
    obtain ⟨residuals, hresiduals, rfl⟩ := Option.map_eq_some_iff.mp hmem
    exact generate1031_wellFormed (hbounded.2 residuals hresiduals)
  have hmsms := fun common => msmMessages_wellFormed_iff
    (msmVersion_range filter ((messageObservations rtkData filter).map (·.2))) common
    (messageObservations rtkData filter)
  simp only [Generator.generateFrom, List.forall_mem_append]
  constructor
  · rintro ⟨⟨⟨⟨-, hobservations⟩, -⟩, -⟩, -⟩ hcommon
    obtain ⟨common, hcommon⟩ := Option.isSome_iff_exists.mp hcommon
    rw [hcommon] at hobservations
    exact (hmsms common).mp hobservations
  · intro hfit
    refine ⟨⟨⟨⟨?_, ?_⟩, hbias⟩, hgps⟩, hglonass⟩
    · split
      · split
        · exact fun message hmem => referenceStationMessages_wellFormed _ _ _ _ _ _ message hmem
        · simp
      · simp
    · split
      case h_1 common hcommon =>
        exact (hmsms common).mpr (hfit (by rw [hcommon]; rfl))
      case h_2 => simp

theorem generatesWellFormed_iff (generator : Generator) (lppMessage : Option LppMessage)
    (filter : MessageFilter) :
    GeneratesWellFormed generator lppMessage filter ↔ MsmsFit lppMessage filter := by
  cases haGnss : lppMessage.bind LppMessage.aGnss with
  | none =>
    have hgenerate : generator.generate lppMessage filter = some ([], generator) := by
      rw [Generator.generate, haGnss]
    constructor
    · intro _ aGnss rtkData h
      rw [haGnss] at h
      cases h
    · intro _ messages next h message hmem
      rw [hgenerate] at h
      cases h
      exact absurd hmem List.not_mem_nil
  | some aGnss =>
    have hgenerate : generator.generate lppMessage filter =
        (extractRtkData aGnss).map fun rtkData => generator.generateFrom rtkData filter := by
      rw [Generator.generate, haGnss]
    cases hdata : extractRtkData aGnss with
    | none =>
      constructor
      · intro _ aGnss' rtkData h hsome
        rw [haGnss] at h
        cases h
        rw [hdata] at hsome
        cases hsome
      · intro _ messages next h
        rw [hgenerate, hdata] at h
        cases h
    | some rtkData =>
      have hiff := generateFrom_wellFormed_iff (extractRtkData_bounded hdata) generator filter
      rw [hdata, Option.map_some] at hgenerate
      constructor
      · intro h aGnss' rtkData' haGnss' hsome
        rw [haGnss] at haGnss'
        cases haGnss'
        rw [hdata] at hsome
        cases hsome
        exact hiff.mp (h _ _ hgenerate)
      · intro h messages next hmessages
        rw [hgenerate] at hmessages
        cases hmessages
        exact hiff.mpr (h aGnss rtkData haGnss hdata)

/-! ### Framing -/

/-- A framing message is well formed when it carries the number that it announces. -/
theorem generateFramingMessage_wellFormed_iff (messageId : ℤ) (multipleMessageBit : Bool)
    {lppData : List UInt8} (hlen : lppData.length ≤ 1020) :
    WellFormed (generateFramingMessage messageId multipleMessageBit lppData) ↔
      messageId = 355 ∨ messageId < 0 ∨ 4095 < messageId := by
  set number := if messageId < 0 ∨ messageId > 4095 then 355 else messageId with hnumber
  have hrange : 0 ≤ number ∧ number ≤ 4095 := by
    rw [hnumber]
    split <;> omega
  have hcast : (UInt16.ofInt number).toNat = number.toNat := by
    rw [UInt16.ofInt, UInt16.toNat_ofNat']
    omega
  have h1 := (Encoder.emits_u16 (show 12 ≤ 16 by omega) (UInt16.ofInt number)).new
  have h2 := Encoder.emits_u8 (show 4 ≤ 8 by omega) 0 _ _ h1
  have h3 := Encoder.emits_u8 (show 1 ≤ 8 by omega) (if multipleMessageBit then 1 else 0) _ _ h2
  have h4 := Encoder.emits_u8 (show 7 ≤ 8 by omega) 0 _ _ h3
  have h5 := h4.copy (by simp) lppData
  simp only [List.append_assoc] at h5
  have hcount := h5.byteCount_eq
  simp only [List.length_append, length_ofNat, length_bytesBits] at hcount
  have hpayload : framingPayload messageId multipleMessageBit lppData = _ := rfl
  rw [generateFramingMessage, framingPayload, ← hnumber, wellFormed_frame_iff h5 (by simp),
    List.take_left' (length_ofNat ..), toNat_ofNat, hcast]
  have hid : lrfMessageId.toUInt32.toNat = 355 := rfl
  rw [hid]
  constructor
  · rintro ⟨-, heq⟩
    by_cases hout : messageId < 0 ∨ messageId > 4095
    · omega
    · rw [if_neg hout] at hnumber
      omega
  · intro h
    refine ⟨by omega, ?_⟩
    have h355 : number = 355 := by
      rw [hnumber]
      split <;> omega
    rw [h355]
    rfl

theorem generateFraming_wellFormed_iff (messageId : ℤ) (lppData : List UInt8) :
    (∀ message ∈ generateFraming messageId lppData, WellFormed message) ↔
      lppData = [] ∨ messageId = 355 ∨ messageId < 0 ∨ 4095 < messageId := by
  induction hn : lppData.length using Nat.strong_induction_on generalizing lppData with
  | _ n ih =>
    rw [generateFraming]
    by_cases hempty : lppData = []
    · rw [dif_pos hempty]
      simp [hempty]
    · have hpos := List.length_pos_of_ne_nil hempty
      have hrest := ih (lppData.drop (min lppData.length 1020)).length
        (by rw [List.length_drop]; omega) _ rfl
      have hfirst := generateFramingMessage_wellFormed_iff messageId
        (decide (lppData.length > min lppData.length 1020))
        (show (lppData.take (min lppData.length 1020)).length ≤ 1020 by
          rw [List.length_take]; omega)
      rw [dif_neg hempty, List.forall_mem_cons, hfirst, hrest]
      constructor
      · exact fun h => .inr h.1
      · intro h
        have hid := h.resolve_left hempty
        exact ⟨hid, .inr hid⟩

/-- **The messages of the generator.**  `generate` returns well formed messages exactly when
each MSM fits a frame; `generateFraming` exactly when the number it is asked for is the number
it announces (an impossible number is replaced by that), or there are no bytes. -/
theorem wellFormed_iff (generator : Generator) (lppMessage : Option LppMessage)
    (filter : MessageFilter) (messageId : ℤ) (lppData : List UInt8) :
    (GeneratesWellFormed generator lppMessage filter ↔ MsmsFit lppMessage filter) ∧
      ((∀ message ∈ generateFraming messageId lppData, WellFormed message) ↔
        lppData = [] ∨ messageId = 355 ∨ messageId < 0 ∨ 4095 < messageId) :=
  ⟨generatesWellFormed_iff generator lppMessage filter,
    generateFraming_wellFormed_iff messageId lppData⟩

/-- The GPS signals that have an RTCM number and need no extension. -/
def crowdedSignals : List (Integer 0 7) :=
  [⟨0, Integer.mem⟩, ⟨4, Integer.mem⟩, ⟨5, Integer.mem⟩, ⟨6, Integer.mem⟩, ⟨7, Integer.mem⟩]

def crowdedSignal (signalId : Integer 0 7) : GnssRtkSatelliteSignalDataElement where
  gnssSignalId := ⟨signalId, none⟩
  finePseudoRange := ⟨0, Integer.mem_neg⟩
  finePhaseRange := ⟨0, Integer.mem_neg⟩
  lockTimeIndicator := ⟨0, Integer.mem⟩
  halfCycleAmbiguityIndicator := .ofBits [false]
  carrierToNoiseRatio := none
  finePhaseRangeRate := none

def crowdedSatellite (svId : Fin 22) : GnssRtkSatelliteDataElement where
  svId := ⟨svId.1, by omega⟩
  integerMs := none
  roughRange := ⟨0, Integer.mem⟩
  roughPhaseRangeRate := none
  gnssRtkSatelliteSignalDataList := ⟨crowdedSignals.map crowdedSignal, by decide⟩

/-- Twenty-two satellites with five signals each. -/
def crowdedObservations : GnssRtkObservations where
  epochTime := ⟨.gps, ⟨0, Integer.mem⟩, ⟨0, Integer.mem⟩, none⟩
  gnssObservationList := ⟨(List.finRange 22).map crowdedSatellite, by decide⟩

def crowdedAssistanceData : AGnssProvideAssistanceData where
  gnssCommonAssistData := some
    { gnssRtkCommonObservationInfo := some ⟨⟨0, Integer.mem⟩, ⟨0, Integer.mem⟩, ⟨0, Integer.mem⟩,
        .ofBits [false], .ofBits [false, false, false]⟩
      gnssRtkReferenceStationInfo := none }
  gnssGenericAssistData := some ⟨[
    { gnssId := .gps
      gnssAuxiliaryInformation := none
      gnssRtkObservations := some crowdedObservations
      gloRtkBiasInformation := none
      gnssRtkResiduals := none }], by decide⟩

def crowdedMessage : LppMessage :=
  ⟨some (.provideAssistanceData (.provideAssistanceDataR9 (some crowdedAssistanceData)))⟩

/-- All systems, MSM7. -/
def forcedFilter : MessageFilter where
  systems := fun _ => true
  msm4 := true
  msm5 := true
  msm6 := true
  msm7 := true
  forceMsm4 := false
  forceMsm5 := false
  forceMsm6 := false
  forceMsm7 := true
  mt1005 := true
  mt1006 := true
  mt1032 := true
  includeEveryNthGeneration := 10

theorem forced_version (observations : List Observations) :
    msmVersion forcedFilter observations = 7 := by
  unfold msmVersion
  rfl

/-- An MSM7 of 110 signals does not fit a frame, and a framing message with number 100 still
says that its number is 355. -/
theorem crowded_not_wellFormed :
    ¬ GeneratesWellFormed Generator.new (some crowdedMessage) forcedFilter ∧
      ¬ ∀ message ∈ generateFraming 100 [0], WellFormed message := by
  constructor
  · rw [generatesWellFormed_iff]
    intro h
    have hfit := h crowdedAssistanceData _ rfl rfl rfl
      (.gps, (observationsAt (Ts.Tai.ofGps ⟨Ts.fromDayTod 0 (0 + 0)⟩) .gps
        crowdedObservations).withChannels none) (List.Mem.head _)
    rw [forced_version] at hfit
    exact absurd hfit (by decide +kernel)
  · rw [generateFraming_wellFormed_iff]
    decide

end SuplLpp.Rtcm
