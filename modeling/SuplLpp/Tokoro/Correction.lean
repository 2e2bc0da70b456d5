import SuplLpp.Lib.Mealy
import SuplLpp.Time.Timestamp
import SuplLpp.Tokoro.Grid

/-!
# The correction data of the generator

`CorrectionData` holds the last orbit, clock, bias and ionosphere correction of each satellite
and the grid of each system.

* the `decode` functions; `CorrectionData.addOrbit` and so on, `add_correction` for each kind of
  correction; `addCorrection`, for any of them;
* `Generator`, with its correction point set; `step`: a message brings a new set or a
  correction.

An epoch time of a system that has no time here is the present, a parameter.
-/

namespace SuplLpp.Tokoro

open Asn Ts

/-! ### The corrections of a message -/

structure OrbitElement extends SsrOrbitCorrectionSatelliteElement where
  dotDeltaRadial : Option (Integer (-1048576) 1048575)
  dotDeltaAlongTrack : Option (Integer (-262144) 262143)
  dotDeltaCrossTrack : Option (Integer (-262144) 262143)

structure OrbitCorrections where
  epochTime : GnssSystemTime
  iodSsr : Integer 0 15
  ssrUpdateInterval : Integer 0 15
  ssrOrbitCorrectionList : SeqOf OrbitElement 1 64

structure ClockCorrections extends GnssSsrClockCorrections where
  ssrUpdateInterval : Integer 0 15

/-- A correction of a system. -/
inductive Correction
  | orbit (orbit : OrbitCorrections)
  | clock (clock : ClockCorrections)
  | codeBias (codeBias : GnssSsrCodeBias)
  | phaseBias (phaseBias : GnssSsrPhaseBias)
  | stec (stec : GnssSsrStecCorrection)
  | gridded (grid : GnssSsrGriddedCorrection)

/-! ### Decoding -/

/-- `decode::epoch_time_r15`, in seconds of TAI. -/
def epochTimeR15 (now : Timestamp) (srcTime : GnssSystemTime) : Timestamp :=
  let timeOfDay : ℚ := srcTime.gnssTimeOfDay.1 +
    match srcTime.gnssTimeOfDayFracMsec with
    | some milliseconds => milliseconds.1 / 1000
    | none => 0
  let t := fromDayTod srcTime.gnssDayNumber.1 timeOfDay
  match srcTime.gnssTimeId with
  | .gps => (Tai.ofGps ⟨t⟩).mTm
  | .glonass => (Tai.ofGlo ⟨t⟩).mTm
  | .galileo => (Tai.ofGst ⟨t⟩).mTm
  | .bds => (Tai.ofBdt ⟨t⟩).mTm
  | _ => now

/-- `decode::ssr_update_interval_r15`. -/
def ssrUpdateIntervalR15 (value : Integer 0 15) : ℚ :=
  [1, 2, 5, 10, 15, 30, 60, 120, 240, 300, 600, 900, 1800, 3600, 7200, 10800].getD
    value.1.toNat 10800

/-- The reference time: the middle of the update interval, if it is longer than a second. -/
def referenceTime (epochTime : Timestamp) (ssrUpdateInterval : Integer 0 15) : Timestamp :=
  let updateInterval := ssrUpdateIntervalR15 ssrUpdateInterval
  if updateInterval > 1 then epochTime + updateInterval * (1 / 2) else epochTime

/-- An optional number with its resolution; zero if it is missing. -/
def optionalValue {lo hi : ℤ} (value : Option (Integer lo hi)) (resolution : ℚ) : ℚ :=
  match value with
  | some value => value.1 * resolution
  | none => 0

/-- `QUALITY_INDICATOR`; the last of the 64 numbers is not written out in the source. -/
def qualityIndicator : List ℚ :=
  [33.6664, 30.2992, 26.9319, 23.5647, 20.1974, 16.8301, 13.4629, 12.3405, 11.2180, 10.0956,
    8.9732, 7.8508, 6.7284, 5.6059, 4.4835, 4.1094, 3.7352, 3.3611, 2.9870, 2.6128, 2.2387,
    1.8645, 1.4904, 1.3657, 1.2410, 1.1163, 0.9915, 0.8668, 0.7421, 0.6174, 0.4927, 0.4511,
    0.4096, 0.3680, 0.3264, 0.2848, 0.2433, 0.2017, 0.1601, 0.1463, 0.1324, 0.1186, 0.1047,
    0.0908, 0.0770, 0.0631, 0.0493, 0.0447, 0.0400, 0.0354, 0.0308, 0.0262, 0.0216, 0.0169,
    0.0123, 0.0108, 0.0092, 0.0077, 0.0062, 0.0046, 0.0031, 0.0015, 0, 0]

/-- `decode::stec_quality_indicator_r16`: whether it is invalid, and its value. -/
def stecQualityIndicatorR16 (bits : BitString 6) : Bool × ℚ :=
  let index := Bits.toNat bits.1
  (index == 0, qualityIndicator.getD (63 - index) 0)

/-! ### What is kept -/

structure OrbitCorrection where
  referenceTime : Timestamp
  ssrIod : ℤ
  iod : ℤ
  delta : Float3
  dotDelta : Float3
  deriving DecidableEq

structure ClockCorrection where
  referenceTime : Timestamp
  ssrIod : ℤ
  c0 : ℚ
  c1 : ℚ
  c2 : ℚ
  deriving DecidableEq

/-- `CodeBiasCorrection` and `PhaseBiasCorrection`, which have the same members. -/
structure BiasCorrection where
  ssrIod : ℤ
  bias : ℚ
  deriving DecidableEq

structure SignalCorrection where
  codeBias : Table SignalId BiasCorrection
  phaseBias : Table SignalId BiasCorrection

def SignalCorrection.new : SignalCorrection := ⟨∅, ∅⟩

structure IonosphericPolynomial where
  c00 : ℚ
  c01 : ℚ
  c10 : ℚ
  c11 : ℚ
  referencePointLatitude : ℚ
  referencePointLongitude : ℚ
  qualityIndicator : ℚ
  qualityIndicatorValid : Bool
  deriving DecidableEq

structure CorrectionData where
  correctionPointSet : Option CorrectionPointSet
  mLatestCorrectionTime : Timestamp
  mSignals : Table SatelliteId (Finset SignalId)
  mOrbit : Table SatelliteId OrbitCorrection
  mClock : Table SatelliteId ClockCorrection
  mSignal : Table SatelliteId SignalCorrection
  mIonosphericPolynomial : Table SatelliteId IonosphericPolynomial
  mGrid : Table Gnss GridData

def CorrectionData.new : CorrectionData := ⟨none, 0, ∅, ∅, ∅, ∅, ∅, ∅⟩

/-- `satellite_gnss_from_id`; the other systems are left out by `find_corrections`. -/
def satelliteGnssFromId : GnssId → Option Gnss
  | .gps => some .gps
  | .galileo => some .galileo
  | .glonass => some .glonass
  | .bds => some .beidou
  | _ => none

/-- `signal_id_from`. -/
def signalIdFrom (gnss : Gnss) (signalId : GnssSignalId) : SignalId :=
  match signalId.gnssSignalIdExt with
  | some extended => .fromLpp gnss extended.1
  | none => .fromLpp gnss signalId.gnssSignalId.1

namespace CorrectionData

/-- The start of every `add_correction`: the latest time. -/
def addTime (data : CorrectionData) (epochTime : Timestamp) : CorrectionData :=
  { data with mLatestCorrectionTime := max data.mLatestCorrectionTime epochTime }

/-- The loop over the satellites of a correction; those with an invalid id are left out. -/
def forSatellites {α : Type} (gnss : Gnss) (svId : α → SvId)
    (add : SatelliteId → CorrectionData → α → CorrectionData) (data : CorrectionData)
    (list : List α) : CorrectionData :=
  list.foldl (fun data satellite =>
    let satelliteId := SatelliteId.fromLpp gnss (svId satellite).1
    if satelliteId.isValid then add satelliteId data satellite else data) data

/-- `add_correction` for orbits. -/
def addOrbit (now : Timestamp) (gnss : Gnss) (data : CorrectionData) (orbit : OrbitCorrections) :
    CorrectionData :=
  let epochTime := epochTimeR15 now orbit.epochTime
  forSatellites gnss (·.svId) (fun satelliteId data satellite =>
    { data with
      mOrbit := data.mOrbit.insert satelliteId
        { referenceTime := referenceTime epochTime orbit.ssrUpdateInterval
          ssrIod := orbit.iodSsr.1
          iod := satellite.iod.asInt64
          delta :=
            { x := satellite.deltaRadial.1 * 0.0001
              y := satellite.deltaAlongTrack.1 * 0.0004
              z := satellite.deltaCrossTrack.1 * 0.0004 }
          dotDelta :=
            { x := optionalValue satellite.dotDeltaRadial (0.0001 * 0.001)
              y := optionalValue satellite.dotDeltaAlongTrack (0.0004 * 0.001)
              z := optionalValue satellite.dotDeltaCrossTrack (0.0004 * 0.001) } } })
    (data.addTime epochTime) orbit.ssrOrbitCorrectionList.1

/-- `add_correction` for clocks. -/
def addClock (now : Timestamp) (gnss : Gnss) (data : CorrectionData) (clock : ClockCorrections) :
    CorrectionData :=
  let epochTime := epochTimeR15 now clock.epochTime
  forSatellites gnss (·.svId) (fun satelliteId data satellite =>
    { data with
      mClock := data.mClock.insert satelliteId
        { referenceTime := referenceTime epochTime clock.ssrUpdateInterval
          ssrIod := clock.iodSsr.1
          c0 := satellite.deltaClockC0.1 * 0.0001
          c1 := optionalValue satellite.deltaClockC1 0.000001
          c2 := optionalValue satellite.deltaClockC2 0.00000002 } })
    (data.addTime epochTime) clock.ssrClockCorrectionList.1

/-- A signal is known for its satellite. -/
def addSignal (satelliteId : SatelliteId) (signalId : SignalId) (data : CorrectionData) :
    CorrectionData :=
  { data with mSignals := Table.upsert data.mSignals satelliteId ∅ (insert signalId) }

/-- `add_correction` for code biases.  A satellite gets its entry before its signals. -/
def addCodeBias (now : Timestamp) (gnss : Gnss) (data : CorrectionData)
    (codeBias : GnssSsrCodeBias) : CorrectionData :=
  forSatellites gnss (·.svId) (fun satelliteId data satellite =>
    satellite.ssrCodeBiasSignalList.1.foldl (fun data signal =>
      let signalId := signalIdFrom gnss signal.signalAndTrackingModeId
      let data := data.addSignal satelliteId signalId
      { data with
        mSignal := Table.upsert data.mSignal satelliteId .new fun corrections =>
          { corrections with
            codeBias := corrections.codeBias.insert signalId
              ⟨codeBias.iodSsr.1, signal.codeBias.1 * 0.01⟩ } })
      { data with mSignal := Table.upsert data.mSignal satelliteId .new id })
    (data.addTime (epochTimeR15 now codeBias.epochTime)) codeBias.ssrCodeBiasSatList.1

/-- `add_correction` for phase biases. -/
def addPhaseBias (now : Timestamp) (gnss : Gnss) (data : CorrectionData)
    (phaseBias : GnssSsrPhaseBias) : CorrectionData :=
  forSatellites gnss (·.svId) (fun satelliteId data satellite =>
    satellite.ssrPhaseBiasSignalList.1.foldl (fun data signal =>
      let signalId := signalIdFrom gnss signal.signalAndTrackingModeId
      let data := data.addSignal satelliteId signalId
      { data with
        mSignal := Table.upsert data.mSignal satelliteId .new fun corrections =>
          { corrections with
            phaseBias := corrections.phaseBias.insert signalId
              ⟨phaseBias.iodSsr.1, signal.phaseBias.1 * 0.001⟩ } })
      { data with mSignal := Table.upsert data.mSignal satelliteId .new id })
    (data.addTime (epochTimeR15 now phaseBias.epochTime)) phaseBias.ssrPhaseBiasSatList.1

/-- `add_correction` for STEC polynomials, of the correction point set `cps` only. -/
def addStec (now : Timestamp) (gnss : Gnss) (cps : CorrectionPointSet) (data : CorrectionData)
    (stec : GnssSsrStecCorrection) : CorrectionData :=
  if stec.correctionPointSetId.1 ≠ cps.setId then data
  else
    forSatellites gnss (·.svId) (fun satelliteId data satellite =>
      let quality := stecQualityIndicatorR16 satellite.stecQualityIndicator
      { data with
        mIonosphericPolynomial := data.mIonosphericPolynomial.insert satelliteId
          { c00 := satellite.stecC00.1 * 0.05
            c01 := optionalValue satellite.stecC01 0.02
            c10 := optionalValue satellite.stecC10 0.02
            c11 := optionalValue satellite.stecC11 0.02
            referencePointLatitude := cps.referencePointLatitude
            referencePointLongitude := cps.referencePointLongitude
            qualityIndicatorValid := !quality.1
            qualityIndicator := quality.2 } })
      ({ data with correctionPointSet := some cps }.addTime (epochTimeR15 now stec.epochTime))
      stec.stecSatList.1

/-- `add_correction` for gridded corrections, of the correction point set `cps` only. -/
def addGridded (now : Timestamp) (gnss : Gnss) (cps : CorrectionPointSet) (data : CorrectionData)
    (grid : GnssSsrGriddedCorrection) : Option CorrectionData :=
  if grid.correctionPointSetId.1 ≠ cps.setId then some data
  else
    (Tokoro.addGridded data.mGrid gnss cps grid.gridList.1).map fun mGrid =>
      { { data with correctionPointSet := some cps }.addTime (epochTimeR15 now grid.epochTime) with
        mGrid := mGrid }

/-- `add_correction`, for a correction of any kind. -/
def addCorrection (now : Timestamp) (gnss : Gnss) (cps : CorrectionPointSet)
    (data : CorrectionData) : Correction → Option CorrectionData
  | .orbit orbit => some (data.addOrbit now gnss orbit)
  | .clock clock => some (data.addClock now gnss clock)
  | .codeBias codeBias => some (data.addCodeBias now gnss codeBias)
  | .phaseBias phaseBias => some (data.addPhaseBias now gnss phaseBias)
  | .stec stec => some (data.addStec now gnss cps stec)
  | .gridded grid => data.addGridded now gnss cps grid

/-! ### The grids -/

theorem mGrid_forSatellites {α : Type} (gnss : Gnss) (svId : α → SvId)
    {add : SatelliteId → CorrectionData → α → CorrectionData}
    (h : ∀ id data a, (add id data a).mGrid = data.mGrid) (data : CorrectionData)
    (list : List α) : (forSatellites gnss svId add data list).mGrid = data.mGrid := by
  unfold forSatellites
  induction list generalizing data with
  | nil => rfl
  | cons a list ih =>
    rw [List.foldl_cons, ih]
    dsimp only
    split
    · exact h _ _ _
    · rfl

/-- The signals of a satellite leave what is not about signals. -/
theorem mGrid_foldl {α : Type} {add : CorrectionData → α → CorrectionData}
    (h : ∀ data a, (add data a).mGrid = data.mGrid) (data : CorrectionData) (list : List α) :
    (list.foldl add data).mGrid = data.mGrid := by
  induction list generalizing data with
  | nil => rfl
  | cons a list ih => rw [List.foldl_cons, ih, h]

/-- Only gridded corrections change the grids. -/
theorem mGrid_addCorrection (now : Timestamp) (gnss : Gnss) (cps : CorrectionPointSet)
    (data : CorrectionData) {correction : Correction} {data' : CorrectionData}
    (h : data.addCorrection now gnss cps correction = some data')
    (hkind : ∀ grid, correction ≠ .gridded grid) : data'.mGrid = data.mGrid := by
  cases correction with
  | orbit orbit =>
    cases h
    refine mGrid_forSatellites _ _ ?_ _ _
    exact fun _ _ _ => rfl
  | clock clock =>
    cases h
    refine mGrid_forSatellites _ _ ?_ _ _
    exact fun _ _ _ => rfl
  | codeBias codeBias =>
    cases h
    refine mGrid_forSatellites _ _ (fun _ data _ => ?_) _ _
    refine (mGrid_foldl ?_ _ _).trans rfl
    exact fun _ _ => rfl
  | phaseBias phaseBias =>
    cases h
    refine mGrid_forSatellites _ _ (fun _ data _ => ?_) _ _
    refine (mGrid_foldl ?_ _ _).trans rfl
    exact fun _ _ => rfl
  | stec stec =>
    cases h
    unfold addStec
    split
    · rfl
    · refine mGrid_forSatellites _ _ ?_ _ _
      exact fun _ _ _ => rfl
  | gridded grid => exact absurd rfl (hkind grid)

end CorrectionData

/-! ### The generator -/

/-- The members of the generator that corrections concern. -/
structure Generator where
  mCorrectionPointSet : Option CorrectionPointSet
  mCorrectionData : Option CorrectionData

def Generator.new : Generator := ⟨none, none⟩

/-- `process_lpp` takes a message apart: the correction point set, and the corrections of each
system. -/
inductive Input
  | correctionPoints (set : CorrectionPointSet)
  | correction (gnssId : GnssId) (correction : Correction)

/-- What `process_lpp` does with a part of a message.  Without a correction point set it reads no
correction.  There is no state after a step with undefined behaviour. -/
def Generator.step (now : Timestamp) (generator : Generator) : Input → Option Generator
  | .correctionPoints set =>
      let data := generator.mCorrectionData.getD .new
      some ⟨some set, some { data with correctionPointSet := some set }⟩
  | .correction gnssId correction =>
      match generator.mCorrectionPointSet, satelliteGnssFromId gnssId with
      | some set, some gnss =>
          let data := generator.mCorrectionData.getD .new
          (({ data with correctionPointSet := some set }).addCorrection now gnss set correction).map
            fun data => ⟨some set, some data⟩
      | _, _ => some generator

end SuplLpp.Tokoro
