import SuplLpp.Lib.Fallible
import SuplLpp.Spartn.Data

/-!
# HPAC messages

Atmospheric corrections of one issue of data: one message for each constellation, correction
point set and epoch time.

* `CorrectionPointSet` and its grid points;
* `troposphereDataBlock`, `ionosphereDataBlock`, `hpacMessage`;
* `generateHpac`, as the source goes through the corrections.
-/

namespace SuplLpp.Spartn

open Asn Bits Fallible MessageBuilder

/-! ### Correction point sets -/

structure GridPoint where
  id : ℤ
  latitude : ℚ
  longitude : ℚ

/-- The rectangle of a correction point set; LPP has at most 63 steps in a direction. -/
structure CorrectionPointGrid where
  referencePointLatitude16 : ℤ
  referencePointLongitude16 : ℤ
  numberOfStepsLatitude : ℕ
  numberOfStepsLongitude : ℕ
  stepOfLatitude : ℤ
  stepOfLongitude : ℤ
  bitmask : ℕ
  latitude_le : numberOfStepsLatitude ≤ 63
  longitude_le : numberOfStepsLongitude ≤ 63

namespace CorrectionPointGrid

section

variable (grid : CorrectionPointGrid)

def gridPointCount : ℕ := (grid.numberOfStepsLatitude + 1) * (grid.numberOfStepsLongitude + 1)

def referencePointLatitude : ℚ := grid.referencePointLatitude16 * 90 * 0.00006103515625
def referencePointLongitude : ℚ := grid.referencePointLongitude16 * 180 * 0.000030517578125
def latitudeDelta : ℚ := grid.stepOfLatitude * 0.01
def longitudeDelta : ℚ := grid.stepOfLongitude * 0.01
def latitudeGridSpacing : ℚ := grid.latitudeDelta * grid.numberOfStepsLatitude
def longitudeGridSpacing : ℚ := grid.longitudeDelta * grid.numberOfStepsLongitude

def hasGridPoint (build : Build) (gridPoint : ℕ) : Result Bool :=
  build.testBit grid.bitmask (64 - 1 - gridPoint)

/-- One round of the loops of `calculate_grid_points`: the points so far and `relative_id`. -/
def addGridPoint (build : Build) (points : List GridPoint × ℤ) (xy : ℕ × ℕ) :
    Result (List GridPoint × ℤ) := do
  let i := xy.1 * (grid.numberOfStepsLongitude + 1) + xy.2
  let latitude := grid.referencePointLatitude - grid.latitudeDelta * xy.1
  let longitude := grid.referencePointLongitude + grid.longitudeDelta * xy.2
  let has ← grid.hasGridPoint build i
  return if has then (points.1 ++ [⟨points.2, latitude, longitude⟩], points.2 + 1)
    else (points.1 ++ [⟨-1, latitude, longitude⟩], points.2)

/-- The rows and columns in the order of the loops. -/
def rounds : List (ℕ × ℕ) :=
  (List.range (grid.numberOfStepsLatitude + 1)).flatMap fun x =>
    (List.range (grid.numberOfStepsLongitude + 1)).map fun y => (x, y)

def calculateGridPoints (build : Build) : Result (List GridPoint) := do
  let points ← grid.rounds.foldlM (grid.addGridPoint build) ([], 0)
  return points.1

end

theorem length_rounds (grid : CorrectionPointGrid) : grid.rounds.length = grid.gridPointCount := by
  simp [rounds, gridPointCount, List.length_flatMap]

theorem length_addGridPoint {grid : CorrectionPointGrid} {build : Build}
    {points points' : List GridPoint × ℤ} {xy : ℕ × ℕ}
    (h : grid.addGridPoint build points xy = .ok points') :
    points'.1.length = points.1.length + 1 := by
  obtain ⟨has, -, h⟩ := bind_eq_ok.1 h
  cases h
  cases has <;> simp

/-- There is one point for each round. -/
theorem length_foldlM {grid : CorrectionPointGrid} {build : Build} {rounds : List (ℕ × ℕ)}
    {points points' : List GridPoint × ℤ}
    (h : rounds.foldlM (grid.addGridPoint build) points = .ok points') :
    points'.1.length = points.1.length + rounds.length := by
  induction rounds generalizing points with
  | nil =>
    cases h
    rfl
  | cons xy rounds ih =>
    rw [List.foldlM_cons] at h
    obtain ⟨next, hone, hrest⟩ := bind_eq_ok.1 h
    rw [ih hrest, length_addGridPoint hone, List.length_cons]
    omega

theorem length_calculateGridPoints {grid : CorrectionPointGrid} {build : Build}
    {points : List GridPoint} (h : grid.calculateGridPoints build = .ok points) :
    points.length = grid.gridPointCount := by
  obtain ⟨state, hloop, h⟩ := bind_eq_ok.1 h
  cases h
  rw [length_foldlM hloop, length_rounds]
  exact Nat.zero_add _

end CorrectionPointGrid

/-- A correction point set has as many grid points as its rectangle. -/
structure CorrectionPointSet extends CorrectionPointGrid where
  setId : ℕ
  areaId : ℕ
  gridPoints : List GridPoint
  length_gridPoints : gridPoints.length = toCorrectionPointGrid.gridPointCount

/-- `reverse` of the 64 bits of a word, as the loop of the source does it. -/
def flipBitmask (bitmask : ℕ) : ℕ :=
  ((List.range 64).foldl (fun (words : ℕ × ℕ) _ => (words.1 * 2 + words.2 % 2, words.2 / 2))
    (0, bitmask)).1

def correctionPointGrid (cfg : Config) (array : GnssSsrArrayOfCorrectionPoints) :
    CorrectionPointGrid :=
  let bitmask :=
    match array.bitmaskOfGrids with
    | some bits => toNat bits.1
    | none => 2 ^ 64 - 1
  let bitmask := if cfg.mFlipGridBitmask then flipBitmask bitmask else bitmask
  { referencePointLatitude16 := array.referencePointLatitude.1
    referencePointLongitude16 := array.referencePointLongitude.1
    numberOfStepsLatitude := array.numberOfStepsLatitude.1.toNat
    numberOfStepsLongitude := array.numberOfStepsLongitude.1.toNat
    stepOfLatitude := array.stepOfLatitude.1
    stepOfLongitude := array.stepOfLongitude.1
    bitmask := bitmask
    latitude_le := Int.toNat_le.2 array.numberOfStepsLatitude.2.2
    longitude_le := Int.toNat_le.2 array.numberOfStepsLongitude.2.2 }

/-- A new correction point set, with its grid points. -/
def newCorrectionPointSet (build : Build) (cfg : Config) (setId areaId : ℕ)
    (array : GnssSsrArrayOfCorrectionPoints) : Result CorrectionPointSet :=
  let grid := correctionPointGrid cfg array
  match h : grid.calculateGridPoints build with
  | .ok points =>
    .ok
      { toCorrectionPointGrid := grid
        setId := setId
        areaId := areaId
        gridPoints := points
        length_gridPoints := CorrectionPointGrid.length_calculateGridPoints h }
  | .error e => .error e

/-- The largest of the sizes that are needed. -/
theorem foldl_max_le_iff {α : Type} {needed : α → ℕ} {l : List α} {start bound : ℕ} :
    l.foldl (fun size a => max size (needed a)) start ≤ bound ↔
      start ≤ bound ∧ ∀ a ∈ l, needed a ≤ bound := by
  induction l generalizing start with
  | nil => simp
  | cons a l ih => simp [ih, and_assoc]

/-! ### Troposphere -/

def withinRange (min max value : ℚ) : Bool := decide (min ≤ value ∧ value ≤ max)

section Troposphere

variable (set : CorrectionPointSet) (corrections : HpacCorrections)

/-- The delays of the grid points, where there are any. -/
def tropospericDelays : List (Option TropospericDelayCorrection) :=
  set.gridPoints.map fun gp =>
    (corrections.findGridPoint gp.id).bind (·.tropospericDelayCorrection)

def computeTroposphereBlockType : ℕ :=
  if corrections.gridded.isNone then 0
  else if (tropospericDelays set corrections).countP (·.isSome) = 0 then 0
  else 2

/-- `compute_average_zentith_delay` and `compute_average_hydrostatic_delay`: the average of the
delays that are there. -/
def averageDelay (delay : TropospericDelayCorrection → ℚ) : ℚ :=
  let delays := (tropospericDelays set corrections).reduceOption.map delay
  if delays.length > 0 then delays.sum / delays.length else 0

def hydroStaticDelay (correction : TropospericDelayCorrection) : ℚ :=
  correction.tropoHydroStaticVerticalDelay.1 * 0.004

def wetDelay (correction : TropospericDelayCorrection) : ℚ :=
  correction.tropoWetVerticalDelay.1 * 0.004

/-- `compute_troposphere_residuals`; there is no residual where it is invalid. -/
def computeTroposphereResiduals (averageZenithDelay hydrostaticDelayAvg : ℚ)
    (addHydrostaticResidualToWetResidual : Bool) : List (Option ℚ) :=
  (tropospericDelays set corrections).map fun delay => delay.map fun correction =>
    let hydrostaticResidual := hydroStaticDelay correction - hydrostaticDelayAvg
    let wetResidual := wetDelay correction - averageZenithDelay
    if addHydrostaticResidualToWetResidual then hydrostaticResidual + wetResidual else wetResidual

def computeTroposphereResidualFieldSize (residuals : List (Option ℚ)) : ℕ :=
  residuals.reduceOption.foldl
    (fun size residual => if withinRange (-0.124) 0.124 residual then max size 0 else max size 1) 0

/-- The quality of the troposphere: an override, the element's own or a default. -/
def sf042Field (cfg : Config) (quality : Option (BitString 6)) : List Bool :=
  if cfg.mSf042Override ≥ 0 then sf042Raw (clampOverride cfg.mSf042Override 7)
  else
    match quality with
    | some quality =>
      let quality := qualityIndicator quality
      if quality.invalid then sf042Raw (clampDefault cfg.mSf042Default 7) else sf042 quality.value
    | none => sf042Raw (clampDefault cfg.mSf042Default 7)

/-- The polynomial of degree 0, and the delay that it stands for. -/
def averageZenithField (averageZenithDelay : ℚ) : List Bool × ℚ :=
  if withinRange (-0.252) 0.252 averageZenithDelay then
    (sf044 0 ++ (sf045 averageZenithDelay).1, (sf045 averageZenithDelay).2)
  else if withinRange (-1.020) 1.020 averageZenithDelay then
    (sf044 1 ++ (sf048 averageZenithDelay).1, (sf048 averageZenithDelay).2)
  else (sf044 0 ++ (sf045 0).1, 0)

def troposphereResidualField (residualFieldSize : ℕ) (residual : Option ℚ) : List Bool :=
  match residual with
  | none => if residualFieldSize = 0 then sf052Invalid else sf053Invalid
  | some residual => if residualFieldSize = 0 then sf052 residual else sf053 residual

def troposphereDataBlock (cfg : Config) : Result (List Bool) :=
  match corrections.gridded with
  | none => .error .nullDereference
  | some data =>
    let hydrostatic := sf043 (averageDelay set corrections hydroStaticDelay)
    let zenith := averageZenithField
      (if cfg.mComputeAverageZenithDelay then averageDelay set corrections wetDelay else 0)
    let residuals := computeTroposphereResiduals set corrections zenith.2 hydrostatic.2
      cfg.mHydrostaticResidualInZenith
    let residualFieldSize :=
      if cfg.mComputeAverageZenithDelay then computeTroposphereResidualFieldSize residuals else 1
    .ok (sf041 0 ++ sf042Field cfg data.troposphericDelayQualityIndicator ++ hydrostatic.1 ++
      zenith.1 ++ sf051 residualFieldSize ++
      residuals.flatMap (troposphereResidualField residualFieldSize))

end Troposphere

/-! ### Ionosphere -/

def computeIonosphereBlockType (corrections : HpacCorrections) : ℕ :=
  if corrections.stec.isNone then 0 else if corrections.gridded.isSome then 2 else 1

structure StecParameters where
  equationType : ℕ
  c00 : ℚ
  c01 : ℚ
  c10 : ℚ
  c11 : ℚ
  referenceX : ℚ
  referenceY : ℚ

def StecParameters.evaluateAtPoint (p : StecParameters) (x y : ℚ) : ℚ :=
  p.c00 + p.c01 * (x - p.referenceX) + p.c10 * (y - p.referenceY) +
    p.c11 * (x - p.referenceX) * (y - p.referenceY)

/-- Whether the large coefficients are needed. -/
def computeCoefficientSizeIndicator (p : StecParameters) : Bool :=
  !(withinRange (-81.88) 81.88 p.c00 &&
    (decide (p.equationType < 1) ||
      (withinRange (-16.376) 16.376 p.c01 && withinRange (-16.376) 16.376 p.c10)) &&
    (decide (p.equationType < 2) || withinRange (-8.190) 8.190 p.c11))

/-- The reference point moves from the first grid point to the middle of the grid. -/
def computeStecParameters (cfg : Config) (set : CorrectionPointSet) (satellite : StecSatElement)
    (equationType : ℕ) : StecParameters :=
  let c00 : ℚ := satellite.stecC00.1 * 0.05
  let c01 := optional satellite.stecC01 0.02
  let c10 := optional satellite.stecC10 0.02
  let c11 := optional satellite.stecC11 0.02
  let c00 := if cfg.mSignFlipC00 then -c00 else c00
  let c01 := if cfg.mSignFlipC01 then -c01 else c01
  let c10 := if cfg.mSignFlipC10 then -c10 else c10
  let c11 := if cfg.mSignFlipC11 then -c11 else c11
  let x0 := set.referencePointLatitude
  let y0 := set.referencePointLongitude
  let hx := set.latitudeGridSpacing / 2
  let hy := set.longitudeGridSpacing / 2
  if cfg.mStecTranform then
    ⟨equationType, c00 - c01 * hx + c10 * hy - c11 * hx * hy, c01 + c11 * hy, c10 - c11 * hx, c11,
      x0 - hx, y0 + hy⟩
  else ⟨equationType, c00, c01, c10, c11, x0, y0⟩

/-- The equation type that one satellite needs. -/
def satelliteEquationType (stec : StecSatElement) : ℕ :=
  if stec.stecC11.isSome then 2
  else if stec.stecC01.isSome || stec.stecC10.isSome then 1
  else 0

def computeEquationType (satellites : List HpacSatellite) : ℕ :=
  satellites.foldl
    (fun equationType satellite =>
      match satellite.stec with
      | some stec => max equationType (satelliteEquationType stec)
      | none => equationType) 0

def sf055Field (cfg : Config) (quality : BitString 6) : List Bool :=
  if cfg.mSf055Override ≥ 0 then sf055Raw (clampOverride cfg.mSf055Override 15)
  else
    let q := stecQualityIndicator quality
    if q.invalid then sf055Raw (clampDefault cfg.mSf055Default 15) else sf055 q.value

/-- `ionosphere_data_block_1`: the coefficients of a satellite. -/
def ionosphereDataBlock1 (cfg : Config) (element : StecSatElement) (p : StecParameters) :
    List Bool :=
  let indicator := computeCoefficientSizeIndicator p
  sf055Field cfg element.stecQualityIndicator ++ sf056 indicator ++
    ionosphereCoefficientC00 indicator p.c00 ++
    (if p.equationType ≥ 1 then
      ionosphereCoefficientC10C01 indicator p.c01 ++ ionosphereCoefficientC10C01 indicator p.c10
    else []) ++
    if p.equationType ≥ 2 then ionosphereCoefficientC11 indicator p.c11 else []

structure StecResidual where
  residual : ℚ
  invalid : Bool

def stecResidualCorrection (element : StecResidualSatElement) : ℚ :=
  match element.stecResidualCorrection with
  | .b7 value => value.1 * 0.04
  | .b16 value => value.1 * 0.04

def computeStecResiduals (cfg : Config) (set : CorrectionPointSet) (satellite : HpacSatellite)
    (p : StecParameters) : List StecResidual :=
  set.gridPoints.map fun gp =>
    let remaining :=
      if cfg.mStecMethod = .moveToResiduals then p.evaluateAtPoint gp.latitude gp.longitude - p.c00
      else 0
    match satellite.residuals.lookup gp.id with
    | none => ⟨remaining, true⟩
    | some element =>
      let residual := stecResidualCorrection element
      let residual := if cfg.mSignFlipStecResiduals then -residual else residual
      ⟨residual + remaining, false⟩

/-- The size that one residual needs. -/
def stecResidualSize (residual : ℚ) : ℕ :=
  if withinRange (-0.28) 0.28 residual then 0
  else if withinRange (-2.52) 2.52 residual then 1
  else if withinRange (-20.44) 20.44 residual then 2
  else 3

def computeResidualFieldSize (residuals : List StecResidual) : ℕ :=
  residuals.foldl (fun size r => max size (stecResidualSize r.residual)) 0

def ionosphereResidualField (cfg : Config) (residualFieldSize : ℕ) (r : StecResidual) :
    Result (List Bool) :=
  if r.invalid && !cfg.mStecInvalidToZero then ionosphereResidualInvalid residualFieldSize
  else ionosphereResidual residualFieldSize r.residual

/-- `ionosphere_data_block_2`: the residuals of a satellite. -/
def ionosphereDataBlock2 (cfg : Config) (set : CorrectionPointSet) (satellite : HpacSatellite)
    (p : StecParameters) : Result (List Bool) := do
  let residuals := computeStecResiduals cfg set satellite p
  let residualFieldSize := computeResidualFieldSize residuals
  let fields ← residuals.mapM (ionosphereResidualField cfg residualFieldSize)
  return sf063 residualFieldSize ++ fields.flatten

def HpacSatellite.hasAllResiduals (satellite : HpacSatellite) (set : CorrectionPointSet) : Bool :=
  set.gridPoints.all fun gp => (satellite.residuals.lookup gp.id).isSome

/-- The satellites that stay in the ionosphere block. -/
def ionosphereSatellites (cfg : Config) (set : CorrectionPointSet) (corrections : HpacCorrections)
    (ocb : Option OcbCorrections) : List HpacSatellite :=
  corrections.satellites.filter fun satellite =>
    satellite.stec.isSome &&
      (match ocb with
        | some ocb => ocb.hasSatellite satellite.id
        | none => true) &&
      (!cfg.mFilterByResiduals || satellite.hasAllResiduals set)

def ionosphereEquationType (cfg : Config) (satellites : List HpacSatellite) : ℕ :=
  match cfg.mStecMethod with
  | .default => computeEquationType satellites
  | .discardC01C10C11 | .moveToResiduals => 0

def ionosphereSatellite (cfg : Config) (set : CorrectionPointSet)
    (ionosphereBlockType equationType : ℕ) (satellite : HpacSatellite) : Result (List Bool) :=
  match satellite.stec with
  | none => .error .unreachable
  | some element => do
    let p := computeStecParameters cfg set element equationType
    let residuals ←
      (if ionosphereBlockType = 2 then ionosphereDataBlock2 cfg set satellite p else .ok [])
    return ionosphereDataBlock1 cfg element p ++ residuals

def ionosphereDataBlock (cfg : Config) (set : CorrectionPointSet) (corrections : HpacCorrections)
    (gnssId : GnssId) (ocb : Option OcbCorrections) (ionosphereBlockType : ℕ) :
    Result (List Bool) := do
  let satellites := ionosphereSatellites cfg set corrections ocb
  let equationType := ionosphereEquationType cfg satellites
  let mask ← satelliteMask gnssId (satellites.map (·.id))
  let blocks ← satellites.mapM (ionosphereSatellite cfg set ionosphereBlockType equationType)
  return sf054 equationType ++ mask ++ blocks.flatten

/-! ### The messages of an issue of data -/

section

variable (build : Build) (cfg : Config) (sets : Table ℕ CorrectionPointSet)

/-- The orbit corrections that satellites are looked up in; the key has the time tag of the
message. -/
def filterCorrections (data : CorrectionData) (iod : ℕ) (gnssId : GnssId) (epochTime : ℕ) :
    Option OcbCorrections :=
  if cfg.mFilterByOcb then
    (data.ocb iod).bind fun ocbData =>
      ocbData.lookup ⟨gnssId, if groupByEpochTime then epochTime else 0⟩
  else none

/-- The satellites whose quality is beyond the threshold. -/
def flaggedSatellites (corrections : HpacCorrections) : List (GnssId × SvId) :=
  if cfg.mIonoQualityThreshold ≥ 0 then
    (corrections.stecs.filter fun element =>
      let q := stecQualityIndicator element.stecQualityIndicator
      !q.invalid && decide (q.value > cfg.mIonoQualityThreshold)).map fun element =>
        (corrections.gnssId, element.svId)
  else []

def HpacCorrections.timeTag (corrections : HpacCorrections) : ℕ :=
  spartnTimeForGnss corrections.epochTime corrections.gnssId

/-- The block types of a message: an alert of the integrity service suppresses a block. -/
def troposphereBlockType (data : CorrectionData) (set : CorrectionPointSet)
    (corrections : HpacCorrections) : ℕ :=
  if data.troposphereDnu = 1 then 0 else computeTroposphereBlockType set corrections

def ionosphereBlockType (data : CorrectionData) (corrections : HpacCorrections) : ℕ :=
  if data.ionosphereDnu = 1 then 0 else computeIonosphereBlockType corrections

/-- The area data block and what comes before it. -/
def hpacHeader (siou : ℕ) (set : CorrectionPointSet) (troposphereType ionosphereType : ℕ) :
    Result (List Bool) := do
  let areaCount ← sf030 build 1
  let gridPoints ← sf039 build (set.gridPointCount % 2 ^ 8)
  return sf005 siou ++ sf068 0 ++ sf069 ++ areaCount ++ sf031 (set.areaId % 2 ^ 8) ++ gridPoints ++
    sf040 troposphereType ++ sf040 ionosphereType

def hpacPayload (data : CorrectionData) (siou iod : ℕ) (set : CorrectionPointSet)
    (corrections : HpacCorrections) : Result (List Bool) := do
  let troposphereType := troposphereBlockType data set corrections
  let ionosphereType := ionosphereBlockType data corrections
  let header ← hpacHeader build siou set troposphereType ionosphereType
  let troposphere ←
    (if troposphereType ≠ 0 then troposphereDataBlock set corrections cfg else .ok [])
  let ionosphere ←
    (if ionosphereType ≠ 0 then
      ionosphereDataBlock cfg set corrections corrections.gnssId
        (filterCorrections cfg data iod corrections.gnssId corrections.timeTag) ionosphereType
    else .ok [])
  return header ++ troposphere ++ ionosphere

def hpacMessage (data : CorrectionData) (siou iod : ℕ) (set : CorrectionPointSet)
    (corrections : HpacCorrections) : Result Message := do
  let subtype ← subtypeFromGnssId corrections.gnssId
  let payload ← hpacPayload build cfg data siou iod set corrections
  return MessageBuilder.build 1 subtype corrections.timeTag payload

/-- The loop of `generate_hpac`; corrections for a set that is not known are left out. -/
def hpacMessages (siou iod : ℕ) (data : CorrectionData) :
    List HpacCorrections → Result (CorrectionData × List Message)
  | [] => .ok (data, [])
  | corrections :: rest =>
    match sets.lookup corrections.setId with
    | none => hpacMessages siou iod data rest
    | some set => do
      let data := { data with
        stecDnuSatellites := data.stecDnuSatellites ++ flaggedSatellites cfg corrections }
      let message ← hpacMessage build cfg data siou iod set corrections
      let hpacs ← hpacMessages siou iod data rest
      return (hpacs.1, message :: hpacs.2)

/-- The corrections of the systems that are supported, in an order of their container. -/
def hpacCandidates (hpacData : List (HpacKey × HpacCorrections)) : List HpacCorrections :=
  (hpacData.filter fun kvp => cfg.supported kvp.1.gnssId).map (·.2)

def generateHpac (lib : Library) (siou iod : ℕ) (data : CorrectionData) :
    Result (CorrectionData × List Message) :=
  match data.hpac iod with
  | none => .ok (data, [])
  | some hpacData => do
    let messages ← sortBySubtype (·.gnssId) lib.hpacSorting
      (hpacCandidates cfg (lib.hpacIteration.order hpacData.pairs))
    hpacMessages build cfg sets siou iod data messages

end

end SuplLpp.Spartn
