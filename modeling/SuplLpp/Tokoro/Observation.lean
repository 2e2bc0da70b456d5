import SuplLpp.Gnss.Frequency
import SuplLpp.Tokoro.Correction
import SuplLpp.Tokoro.EphemerisCache
import SuplLpp.Tokoro.Interpolation

/-!
# Observations and satellites

A satellite of a reference station is enabled by `update` when its position could be computed,
and collects observations of its signals.  An observation is discarded when a correction that it
requires is missing.  The ranges themselves, which are floating point, are left out.

* `LockTime` and `Observation`, with the functions that `initialize_observation` calls;
* `Geometry`, the position computations of a satellite, which are parameters; `Satellite` and
  `Satellite.update`;
* `Observation.SameLock`: the corrections leave the signal and its lock time alone.
-/

namespace SuplLpp.Tokoro

open Ts

/-- `difference_seconds`. -/
def differenceSeconds (time other : Tai) : ℚ := time.mTm.fullSeconds - other.mTm.fullSeconds

/-! ### The corrections for a position -/

namespace CorrectionData

/-- `CorrectionData::tropospheric`, the wet and the dry part. -/
def tropospheric (data : CorrectionData) (svId : SatelliteId) (llh : Float3) : Option (ℚ × ℚ) :=
  match data.correctionPointSet with
  | none => none
  | some _ =>
      match data.mGrid.lookup svId.gnss with
      | none => none
      | some grid =>
          match grid.tropospheric llh with
          | .positionOutsideGrid => none
          | .missingSatelliteData => none
          | .success correction => some correction

end CorrectionData

structure IonosphericCorrection where
  gridResidual : ℚ
  polynomialResidual : ℚ
  quality : ℚ
  qualityValid : Bool

def IonosphericPolynomial.residual (polynomial : IonosphericPolynomial) (llh : Float3) : ℚ :=
  let latitude := llh.x * rad2deg - polynomial.referencePointLatitude
  let longitude := llh.y * rad2deg - polynomial.referencePointLongitude
  polynomial.c00 + polynomial.c01 * latitude + polynomial.c10 * longitude +
    polynomial.c11 * latitude * longitude

namespace CorrectionData

/-- The polynomial's part of `CorrectionData::ionospheric`; the grid's is zero still. -/
def ofPolynomial (polynomial : IonosphericPolynomial) (llh : Float3) : IonosphericCorrection where
  gridResidual := 0
  polynomialResidual := polynomial.residual llh
  quality := if polynomial.qualityIndicatorValid then polynomial.qualityIndicator else 0
  qualityValid := polynomial.qualityIndicatorValid

/-- `CorrectionData::ionospheric`: there is a polynomial, or the grid has the satellite. -/
def ionospheric (data : CorrectionData) (svId : SatelliteId) (llh : Float3) :
    Option IonosphericCorrection :=
  let correction := (data.mIonosphericPolynomial.lookup svId).map (ofPolynomial · llh)
  match data.mGrid.lookup svId.gnss with
  | none => correction
  | some grid =>
      match grid.ionospheric svId llh with
      | .success gridResidual =>
          some { correction.getD ⟨0, 0, 0, false⟩ with gridResidual := gridResidual }
      | .positionOutsideGrid => correction
      | .missingSatelliteData => correction

/-- `signals`. -/
def signals (data : CorrectionData) (id : SatelliteId) : Option (Finset SignalId) :=
  data.mSignals.lookup id

end CorrectionData

/-! ### Observations -/

structure LockTime where
  time : Tai
  seconds : ℚ
  lost : Bool

/-- The members of an observation that decide whether it is valid, and its lock time. -/
structure Observation where
  mSvId : SatelliteId
  mSignalId : SignalId
  mIsValid : Bool
  mGroundLlh : Float3
  mLockTime : LockTime
  mRequireCodeBias : Bool
  mRequirePhaseBias : Bool
  mRequireTropospheric : Bool
  mRequireIonospheric : Bool
  mCodeBias : Option ℚ
  mPhaseBias : Option ℚ
  mTropospheric : Option (ℚ × ℚ)
  mIonospheric : Option IonosphericCorrection

namespace Observation

def ssId (o : Observation) : SatelliteSignalId := ⟨o.mSvId, o.mSignalId⟩

/-- The constructor; an observation has a lock time of its own at first. -/
def new (svId : SatelliteId) (receptionTime : Tai) (signalId : SignalId) (groundLlh : Float3) :
    Observation where
  mSvId := svId
  mSignalId := signalId
  mIsValid := true
  mGroundLlh := groundLlh
  mLockTime := ⟨receptionTime, 0, true⟩
  mRequireCodeBias := true
  mRequirePhaseBias := true
  mRequireTropospheric := true
  mRequireIonospheric := true
  mCodeBias := none
  mPhaseBias := none
  mTropospheric := none
  mIonospheric := none

def updateLockTime (lockTime : LockTime) (o : Observation) : Observation :=
  { o with mLockTime := lockTime }

def computePhaseBias (data : CorrectionData) (o : Observation) : Observation :=
  match (data.mSignal.lookup o.mSvId).bind (·.phaseBias.lookup o.mSignalId) with
  | none => o
  | some correction => { o with mPhaseBias := some correction.bias }

def computeCodeBias (data : CorrectionData) (o : Observation) : Observation :=
  match (data.mSignal.lookup o.mSvId).bind (·.codeBias.lookup o.mSignalId) with
  | none => o
  | some correction => { o with mCodeBias := some correction.bias }

def computeTropospheric (data : CorrectionData) (o : Observation) : Observation :=
  match data.tropospheric o.mSvId o.mGroundLlh, o.mTropospheric with
  | some correction, none => { o with mTropospheric := some correction }
  | _, _ => o

def computeIonospheric (data : CorrectionData) (o : Observation) : Observation :=
  match data.ionospheric o.mSvId o.mGroundLlh with
  | none => o
  | some correction => { o with mIonospheric := some correction }

def discard (o : Observation) : Observation := { o with mIsValid := false }

/-- One check of `compute_ranges`. -/
def discardIf (missing : Observation → Bool) (o : Observation) : Observation :=
  if missing o then o.discard else o

/-- `compute_ranges`, without the ranges. -/
def computeRanges (o : Observation) : Observation :=
  (((o.discardIf fun o => o.mRequireCodeBias && o.mCodeBias.isNone).discardIf
      fun o => o.mRequirePhaseBias && o.mPhaseBias.isNone).discardIf
      fun o => o.mRequireTropospheric && o.mTropospheric.isNone).discardIf
      fun o => o.mRequireIonospheric && o.mIonospheric.isNone

end Observation

/-! ### Satellites -/

/-- The members of the state that are read here. -/
structure SatelliteState where
  receptionTime : Tai
  trueElevation : ℚ

/-- `compute_true_position` and `compute_azimuth_and_elevation`, which may fail. -/
structure Geometry where
  computeTruePosition : SatelliteId → Tai → Ephemeris → OrbitCorrection → Option SatelliteState
  computeAzimuthAndElevation : SatelliteId → SatelliteState → Option SatelliteState

structure Satellite where
  mId : SatelliteId
  mEnabled : Bool
  mDisableReason : Option String
  mGroundLlh : Float3
  mCurrentState : SatelliteState
  mObservations : List Observation

namespace Satellite

def elevation (satellite : Satellite) : ℚ := satellite.mCurrentState.trueElevation

def disable (reason : String) (satellite : Satellite) : Satellite :=
  { satellite with mEnabled := false, mDisableReason := some reason }

def resetObservations (satellite : Satellite) : Satellite := { satellite with mObservations := [] }

def removeDiscardedObservations (satellite : Satellite) : Satellite :=
  { satellite with mObservations := satellite.mObservations.filter (·.mIsValid) }

/-- The orbit correction; the clock correction is needed too. -/
def findCorrections (data : CorrectionData) (id : SatelliteId) : Except String OrbitCorrection :=
  match data.mOrbit.lookup id with
  | none => .error "no_orbit_correction"
  | some orbit =>
      match data.mClock.lookup id with
      | none => .error "no_clock_correction"
      | some _ => .ok orbit

/-- The satellite now and a tenth of a second later; the state now is kept. -/
def locate (geometry : Geometry) (generationTime : Tai) (eph : Ephemeris) (orbit : OrbitCorrection)
    (id : SatelliteId) : Except String SatelliteState :=
  match geometry.computeTruePosition id generationTime eph orbit,
    geometry.computeTruePosition id ⟨generationTime.mTm + 0.1⟩ eph orbit with
  | some current, some next =>
      match geometry.computeAzimuthAndElevation id current,
        geometry.computeAzimuthAndElevation id next with
      | some current, some _ => .ok current
      | _, _ => .error "elevation_failed"
  | _, _ => .error "position_failed"

/-- `Satellite::update`.  The search for an ephemeris notes those that are missing.  The state of a
satellite that stays disabled is not read. -/
def update (geometry : Geometry) (data : CorrectionData) (generationTime : Tai)
    (satellite : Satellite) (ephemerides : Ephemerides) : Satellite × Ephemerides :=
  match findCorrections data satellite.mId with
  | .error reason => (satellite.disable reason, ephemerides)
  | .ok orbit =>
      match ephemerides.findEphemeris satellite.mId generationTime orbit.iod.toNat with
      | (none, ephemerides) => (satellite.disable "no_ephemeris", ephemerides)
      | (some eph, ephemerides) =>
          match locate geometry generationTime eph orbit satellite.mId with
          | .error reason => (satellite.disable reason, ephemerides)
          | .ok state =>
              ({ satellite with mEnabled := true, mDisableReason := none, mCurrentState := state },
                ephemerides)

end Satellite

/-! ### What the functions leave alone -/

namespace Observation

/-- Two observations of one signal at one time. -/
structure SameLock (o o' : Observation) : Prop where
  ssId : o'.ssId = o.ssId
  lockTime : o'.mLockTime = o.mLockTime

theorem SameLock.refl (o : Observation) : o.SameLock o := ⟨rfl, rfl⟩

theorem SameLock.trans {o o' o'' : Observation} (h : o.SameLock o') (h' : o'.SameLock o'') :
    o.SameLock o'' :=
  ⟨h'.ssId.trans h.ssId, h'.lockTime.trans h.lockTime⟩

theorem sameLock_computePhaseBias (data : CorrectionData) (o : Observation) :
    o.SameLock (o.computePhaseBias data) := by
  unfold computePhaseBias
  split
  · exact .refl o
  · exact ⟨rfl, rfl⟩

theorem sameLock_computeCodeBias (data : CorrectionData) (o : Observation) :
    o.SameLock (o.computeCodeBias data) := by
  unfold computeCodeBias
  split
  · exact .refl o
  · exact ⟨rfl, rfl⟩

theorem sameLock_computeTropospheric (data : CorrectionData) (o : Observation) :
    o.SameLock (o.computeTropospheric data) := by
  unfold computeTropospheric
  split
  · exact ⟨rfl, rfl⟩
  · exact .refl o

theorem sameLock_computeIonospheric (data : CorrectionData) (o : Observation) :
    o.SameLock (o.computeIonospheric data) := by
  unfold computeIonospheric
  split
  · exact .refl o
  · exact ⟨rfl, rfl⟩

theorem sameLock_discardIf (missing : Observation → Bool) (o : Observation) :
    o.SameLock (o.discardIf missing) := by
  unfold discardIf
  split
  · exact ⟨rfl, rfl⟩
  · exact .refl o

theorem sameLock_computeRanges (o : Observation) : o.SameLock o.computeRanges :=
  ((sameLock_discardIf _ o).trans (sameLock_discardIf _ _)).trans
    ((sameLock_discardIf _ _).trans (sameLock_discardIf _ _))

end Observation

end SuplLpp.Tokoro
