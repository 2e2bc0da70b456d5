import SuplLpp.Lib.Mealy
import SuplLpp.Lib.Streak
import SuplLpp.Tokoro.Observation
import SuplLpp.Tokoro.Snapshot

/-!
# The lock times of a reference station

`ReferenceStation::generate` builds the observations of a time and keeps a table with the time
at which the receiver would have locked on each signal.

* `ReferenceStation`, `initializeObservation`, `observe` and `generate`;
* `World` and `step`: corrections, ephemerides, snapshots and settings come between the calls;
* `Active`, a valid observation of an enabled satellite; `Locks`: the table and the lock times
  of a call, by the unbroken series of calls in which a signal was active (`Streak.first`);
* `lookup_updateLockTime`, what the end of `generate` does with the table; `locks_run`.
-/

namespace SuplLpp.Tokoro

open Ts

/-! ### The functions of the source -/

structure ReferenceStation where
  mGenerationTime : Tai
  mSatellites : List Satellite
  mElevationMask : ℚ
  mSatelliteIncludeSet : List SatelliteId
  mSignalIncludeSet : List SignalId
  mRequireCodeBias : Bool
  mRequirePhaseBias : Bool
  mRequireTropo : Bool
  mRequireIono : Bool
  mLockTime : Table SatelliteSignalId Tai

/-- The members of `ReferenceStationConfig` that are read here; the position is a latitude and a
longitude. -/
structure ReferenceStationConfig where
  groundLlh : Float3
  generateGps : Bool
  generateGal : Bool
  generateBds : Bool
  generateQzs : Bool

namespace ReferenceStation

/-- A satellite as it is made. -/
def newSatellite (groundLlh : Float3) (id : SatelliteId) : Satellite where
  mId := id
  mEnabled := false
  mDisableReason := none
  mGroundLlh := groundLlh
  mCurrentState := ⟨⟨0⟩, 0⟩
  mObservations := []

/-- The PRNs from `first` to `last`. -/
def prns (first last : ℕ) : List ℕ := (List.range (last + 1 - first)).map (first + ·)

/-- `initialize_satellites`. -/
def initializeSatellites (config : ReferenceStationConfig) : List Satellite :=
  let ids :=
    (if config.generateGps then (prns 1 32).map SatelliteId.fromGpsPrn else []) ++
    (if config.generateGal then (prns 1 36).map SatelliteId.fromGalPrn else []) ++
    (if config.generateBds then (prns 1 63).map SatelliteId.fromBdsPrn else []) ++
    (if config.generateQzs then (prns 193 202).map SatelliteId.fromQzsPrn else [])
  ids.map (newSatellite config.groundLlh)

/-- The constructor, at the present time. -/
def new (config : ReferenceStationConfig) (now : Tai) : ReferenceStation where
  mGenerationTime := now
  mSatellites := initializeSatellites config
  mElevationMask := 10
  mSatelliteIncludeSet := []
  mSignalIncludeSet := []
  mRequireCodeBias := true
  mRequirePhaseBias := true
  mRequireTropo := true
  mRequireIono := true
  mLockTime := ∅

variable (station : ReferenceStation)

/-- The lock time of a signal, by the table of the calls before. -/
def lockTime (ssId : SatelliteSignalId) : LockTime :=
  match station.mLockTime.lookup ssId with
  | none => ⟨station.mGenerationTime, 0, true⟩
  | some time => ⟨time, differenceSeconds station.mGenerationTime time, false⟩

/-- The observation of a signal, before its ranges are computed. -/
def corrected (data : CorrectionData) (satellite : Satellite) (signalId : SignalId) :
    Observation :=
  ((((Observation.new satellite.mId satellite.mCurrentState.receptionTime signalId
      satellite.mGroundLlh).updateLockTime
      (station.lockTime ⟨satellite.mId, signalId⟩)).computePhaseBias data).computeCodeBias
      data).computeTropospheric data |>.computeIonospheric data

def initializeObservation (data : CorrectionData) (satellite : Satellite) (signalId : SignalId) :
    Satellite :=
  let observation :=
    { station.corrected data satellite signalId with
      mRequireCodeBias := station.mRequireCodeBias
      mRequirePhaseBias := station.mRequirePhaseBias
      mRequireTropospheric := station.mRequireTropo
      mRequireIonospheric := station.mRequireIono }
  { satellite with mObservations := satellite.mObservations ++ [observation.computeRanges] }

/-- An include set that is empty includes all. -/
def included {α : Type} [DecidableEq α] (set : List α) (a : α) : Bool :=
  set.isEmpty || decide (a ∈ set)

/-- The first loop of `generate`. -/
def updateSatellites (geometry : Geometry) (data : CorrectionData) :
    List Satellite → Ephemerides → List Satellite × Ephemerides
  | [], ephemerides => ([], ephemerides)
  | satellite :: satellites, ephemerides =>
      let updated :=
        if included station.mSatelliteIncludeSet satellite.mId then
          satellite.update geometry data station.mGenerationTime ephemerides
        else (satellite.disable "not_included", ephemerides)
      let rest := updateSatellites geometry data satellites updated.2
      (updated.1 :: rest.1, rest.2)

/-- The body of the loop over the signals of a satellite. -/
def observeSignal (data : CorrectionData) (satellite : Satellite) (signal : SignalId) : Satellite :=
  if !included station.mSignalIncludeSet signal then satellite
  else if signal.frequency ≤ 1 then satellite
  else (station.initializeObservation data satellite signal).removeDiscardedObservations

/-- The body of the second loop of `generate`: the satellite, and the signals that it adds to the
active ones.  `order` is the order in which a set of signals is run through. -/
def observe (order : Finset SignalId → List SignalId) (data : CorrectionData)
    (satellite : Satellite) : Satellite × List SatelliteSignalId :=
  let satellite := satellite.resetObservations
  if !satellite.mEnabled then (satellite, [])
  else if !included station.mSatelliteIncludeSet satellite.mId then
    (satellite.disable "not_included", [])
  else
    match data.signals satellite.mId with
    | none => (satellite.disable "no_signals", [])
    | some signals =>
        let satellite := (order signals).foldl (station.observeSignal data) satellite
        if satellite.elevation * rad2deg < station.mElevationMask then
          (satellite.disable "elevation_mask", [])
        else if satellite.mObservations.length = 0 then
          (satellite.disable "no_valid_observations", [])
        else (satellite, (satellite.mObservations.filter (·.mIsValid)).map (·.ssId))

/-- The end of `generate`. -/
def updateLockTime (activeSignals : List SatelliteSignalId) : ReferenceStation :=
  let lostLock := station.mLockTime.keys.filter fun id => id ∉ activeSignals
  let mLockTime := lostLock.foldl (fun mLockTime id => mLockTime.erase id) station.mLockTime
  { station with
    mLockTime := activeSignals.foldl
      (fun mLockTime id => Table.emplace mLockTime id station.mGenerationTime) mLockTime }

/-- `generate`: whether there were correction data, and the station and the ephemerides after. -/
def generate (geometry : Geometry) (order : Finset SignalId → List SignalId)
    (correctionData : Option CorrectionData) (ephemerides : Ephemerides) (receptionTime : Tai) :
    Bool × ReferenceStation × Ephemerides :=
  match correctionData with
  | none => (false, station, ephemerides)
  | some data =>
      let station := { station with mGenerationTime := receptionTime }
      let updated := station.updateSatellites geometry data station.mSatellites ephemerides
      let observed := updated.1.map (station.observe order data)
      let station := { station with mSatellites := observed.map Prod.fst }
      (true, station.updateLockTime (observed.flatMap Prod.snd).dedup, updated.2)

end ReferenceStation

/-! ### Runs -/

/-- The setters between two calls. -/
inductive Setting
  | includeSatellite (svId : SatelliteId)
  | includeSignal (signalId : SignalId)
  | elevationMask (mask : ℚ)
  | requireCodeBias (enabled : Bool)
  | requirePhaseBias (enabled : Bool)
  | requireTropo (enabled : Bool)
  | requireIono (enabled : Bool)

def ReferenceStation.set (station : ReferenceStation) : Setting → ReferenceStation
  | .includeSatellite svId =>
      { station with mSatelliteIncludeSet := station.mSatelliteIncludeSet.insert svId }
  | .includeSignal signalId =>
      { station with mSignalIncludeSet := station.mSignalIncludeSet.insert signalId }
  | .elevationMask mask => { station with mElevationMask := mask }
  | .requireCodeBias enabled => { station with mRequireCodeBias := enabled }
  | .requirePhaseBias enabled => { station with mRequirePhaseBias := enabled }
  | .requireTropo enabled => { station with mRequireTropo := enabled }
  | .requireIono enabled => { station with mRequireIono := enabled }

/-- A generator with its reference station. -/
structure World where
  generator : Generator
  ephemerides : Ephemerides
  station : ReferenceStation

inductive Event
  | corrections (now : Timestamp) (input : Input)
  | ephemeris (e : Ephemeris)
  | snapshot (unset : Unset) (ephemerides : List Ephemeris) (input : SnapshotInput)
  | setting (setting : Setting)
  | generate (receptionTime : Tai)

/-- A call of `generate`, with the station after it. -/
structure Call where
  receptionTime : Tai
  station : ReferenceStation

/-- What an event does, and the call that it is.  There is no world after a step with undefined
behaviour. -/
def step (geometry : Geometry) (order : Finset SignalId → List SignalId) :
    Option World → Event → Option World × List Call
  | none, _ => (none, [])
  | some world, .corrections now input =>
      ((world.generator.step now input).map ({ world with generator := · }), [])
  | some world, .ephemeris e =>
      (some { world with ephemerides := world.ephemerides.processEphemeris e }, [])
  | some world, .snapshot unset ephemerides input =>
      (some { world with
        generator := world.generator.loadSnapshot unset input
        ephemerides := world.ephemerides.loadSnapshot ephemerides }, [])
  | some world, .setting setting =>
      (some { world with station := world.station.set setting }, [])
  | some world, .generate receptionTime =>
      let r := world.station.generate geometry order world.generator.mCorrectionData
        world.ephemerides receptionTime
      (some { world with station := r.2.1, ephemerides := r.2.2 }, [⟨receptionTime, r.2.1⟩])

/-- The world before the first event. -/
def World.new (config : ReferenceStationConfig) (now : Tai) (maxCache : ℕ)
    (iodConsistencyCheck : Bool) : World :=
  ⟨.new, .new maxCache iodConsistencyCheck, .new config now⟩

/-! ### What is promised -/

/-- A signal is active: a satellite that is enabled has a valid observation of it. -/
def ReferenceStation.Active (station : ReferenceStation) (ssId : SatelliteSignalId) : Prop :=
  ∃ satellite ∈ station.mSatellites, satellite.mEnabled = true ∧
    ∃ o ∈ satellite.mObservations, o.mIsValid = true ∧ o.ssId = ssId

instance (station : ReferenceStation) (ssId : SatelliteSignalId) :
    Decidable (station.Active ssId) :=
  inferInstanceAs (Decidable (∃ _ ∈ _, _ ∧ ∃ _ ∈ _, _))

/-- A signal is active after a call. -/
def Call.Active (call : Call) : SatelliteSignalId → Prop := call.station.Active

instance (call : Call) (ssId : SatelliteSignalId) : Decidable (call.Active ssId) :=
  inferInstanceAs (Decidable (call.station.Active ssId))

/-- The lock times of a call, by the calls before it, newest first. -/
structure Locks (calls : List Call) (call : Call) : Prop where
  table : ∀ ssId, ssId ∈ call.station.mLockTime ↔ call.Active ssId
  lock : ∀ satellite ∈ call.station.mSatellites, ∀ o ∈ satellite.mObservations,
    call.Active o.ssId → ∃ began, Streak.first Call.Active o.ssId (call :: calls) = some began ∧
      o.mLockTime.seconds = differenceSeconds call.receptionTime began.receptionTime ∧
        (o.mLockTime.lost = true ↔ Streak.series Call.Active o.ssId (call :: calls) = [call])

/-! ### A call -/

namespace ReferenceStation

variable (station : ReferenceStation)

theorem lookup_updateLockTime (activeSignals : List SatelliteSignalId) (ssId : SatelliteSignalId) :
    (station.updateLockTime activeSignals).mLockTime.lookup ssId =
      if ssId ∈ activeSignals then
        some ((station.mLockTime.lookup ssId).getD station.mGenerationTime)
      else none := by
  unfold updateLockTime
  dsimp only
  rw [Table.lookup_foldl_emplace_const, Table.lookup_foldl_erase]
  by_cases hactive : ssId ∈ activeSignals
  · have hkept : ssId ∉ station.mLockTime.keys.filter fun id => id ∉ activeSignals := by
      simp [hactive]
    rw [if_neg hkept, if_pos hactive, if_pos hactive]
    cases station.mLockTime.lookup ssId <;> rfl
  · rw [if_neg hactive, if_neg hactive, Option.or_none]
    by_cases hkey : ssId ∈ station.mLockTime
    · exact if_pos (List.mem_filter.2 ⟨hkey, by simpa using hactive⟩)
    · rw [AList.lookup_eq_none.2 hkey, ite_self]

/-- The lock time of an observation is that of its signal. -/
def Locked (o : Observation) : Prop := o.mLockTime = station.lockTime o.ssId

theorem locked_initializeObservation (data : CorrectionData) (satellite : Satellite)
    (signalId : SignalId)
    (h : ∀ o ∈ satellite.mObservations, station.Locked o) :
    ∀ o ∈ (station.initializeObservation data satellite signalId).mObservations,
      station.Locked o := by
  have hsame : (Observation.new satellite.mId satellite.mCurrentState.receptionTime signalId
      satellite.mGroundLlh |>.updateLockTime (station.lockTime ⟨satellite.mId, signalId⟩)).SameLock
      (station.corrected data satellite signalId) :=
    ((Observation.sameLock_computePhaseBias _ _).trans
      (Observation.sameLock_computeCodeBias _ _)).trans
      ((Observation.sameLock_computeTropospheric _ _).trans
        (Observation.sameLock_computeIonospheric _ _))
  intro o ho
  rcases List.mem_append.1 ho with ho | ho
  · exact h o ho
  · obtain rfl := List.mem_singleton.1 ho
    have hranges := Observation.sameLock_computeRanges
      { station.corrected data satellite signalId with
        mRequireCodeBias := station.mRequireCodeBias
        mRequirePhaseBias := station.mRequirePhaseBias
        mRequireTropospheric := station.mRequireTropo
        mRequireIonospheric := station.mRequireIono }
    unfold Locked
    rw [hranges.lockTime, hranges.ssId]
    exact hsame.lockTime.trans (congrArg station.lockTime hsame.ssId.symm)

theorem locked_observeSignal (data : CorrectionData) (satellite : Satellite) (signal : SignalId)
    (h : ∀ o ∈ satellite.mObservations, station.Locked o) :
    ∀ o ∈ (station.observeSignal data satellite signal).mObservations, station.Locked o := by
  unfold observeSignal
  split_ifs
  · exact h
  · exact h
  · exact fun o ho =>
      station.locked_initializeObservation data satellite signal h o (List.mem_filter.1 ho).1

theorem locked_foldl (data : CorrectionData) (signals : List SignalId) (satellite : Satellite)
    (h : ∀ o ∈ satellite.mObservations, station.Locked o) :
    ∀ o ∈ (signals.foldl (station.observeSignal data) satellite).mObservations,
      station.Locked o := by
  induction signals generalizing satellite with
  | nil => exact h
  | cons signal signals ih => exact ih _ (station.locked_observeSignal data satellite signal h)

theorem mEnabled_foldl (data : CorrectionData) (signals : List SignalId) (satellite : Satellite) :
    (signals.foldl (station.observeSignal data) satellite).mEnabled = satellite.mEnabled := by
  induction signals generalizing satellite with
  | nil => rfl
  | cons signal signals ih =>
    rw [List.foldl_cons, ih]
    unfold observeSignal
    split_ifs <;> rfl

/-- What the loop makes of a satellite: its observations have the lock times of the table, and it
adds the signals that are active. -/
structure Observes (observed : Satellite × List SatelliteSignalId) : Prop where
  locked : ∀ o ∈ observed.1.mObservations, station.Locked o
  active : ∀ ssId, ssId ∈ observed.2 ↔ observed.1.mEnabled = true ∧
    ∃ o ∈ observed.1.mObservations, o.mIsValid = true ∧ o.ssId = ssId

/-- A satellite that ends disabled adds nothing. -/
theorem observes_disabled {satellite : Satellite} (h : satellite.mEnabled = false)
    (hlocked : ∀ o ∈ satellite.mObservations, station.Locked o) :
    station.Observes (satellite, []) :=
  ⟨hlocked, by simp [h]⟩

theorem observes_observe (order : Finset SignalId → List SignalId) (data : CorrectionData)
    (satellite : Satellite) : station.Observes (station.observe order data satellite) := by
  have hnone : ∀ o ∈ satellite.resetObservations.mObservations, station.Locked o := by
    rintro o ⟨⟩
  unfold observe
  dsimp only
  split
  next henabled => exact station.observes_disabled (by simpa using henabled) hnone
  next henabled =>
    split
    · exact station.observes_disabled rfl hnone
    split
    · exact station.observes_disabled rfl hnone
    next signals _ =>
      have hall := station.locked_foldl data (order signals) _ hnone
      split
      · exact station.observes_disabled rfl hall
      split
      · exact station.observes_disabled rfl hall
      · refine ⟨hall, fun ssId => ?_⟩
        have hkept : ((order signals).foldl (station.observeSignal data)
            satellite.resetObservations).mEnabled = true := by
          rw [mEnabled_foldl]
          simpa using henabled
        simp [hkept, and_assoc]

/-- What a call with correction data leads to. -/
structure Generates (receptionTime : Tai) (after : ReferenceStation) : Prop where
  lookup : ∀ ssId, after.mLockTime.lookup ssId =
    if after.Active ssId then some ((station.mLockTime.lookup ssId).getD receptionTime) else none
  locked : ∀ satellite ∈ after.mSatellites, ∀ o ∈ satellite.mObservations,
    { station with mGenerationTime := receptionTime }.Locked o

/-- **The rule of `generate`.** -/
theorem generates_generate (geometry : Geometry) (order : Finset SignalId → List SignalId)
    (data : CorrectionData) (ephemerides : Ephemerides) (receptionTime : Tai) :
    station.Generates receptionTime
      (station.generate geometry order (some data) ephemerides receptionTime).2.1 := by
  let station' := { station with mGenerationTime := receptionTime }
  let satellites := (station'.updateSatellites geometry data station.mSatellites ephemerides).1
  have hsatellites : (station.generate geometry order (some data) ephemerides
      receptionTime).2.1.mSatellites =
      (satellites.map (station'.observe order data)).map Prod.fst := rfl
  have hobserves : ∀ satellite, station'.Observes (station'.observe order data satellite) :=
    station'.observes_observe order data
  constructor
  · intro ssId
    have hactive : ssId ∈ ((satellites.map (station'.observe order data)).flatMap Prod.snd).dedup ↔
        ReferenceStation.Active
          (station.generate geometry order (some data) ephemerides receptionTime).2.1 ssId := by
      unfold Active
      rw [hsatellites]
      simp only [List.mem_dedup, List.mem_flatMap, List.mem_map,
        exists_exists_and_eq_and, (hobserves _).active]
    refine (lookup_updateLockTime _ _ ssId).trans ?_
    exact if_congr hactive rfl rfl
  · intro satellite hsatellite
    rw [hsatellites] at hsatellite
    simp only [List.mem_map, exists_exists_and_eq_and] at hsatellite
    obtain ⟨before, -, rfl⟩ := hsatellite
    exact (hobserves before).locked

end ReferenceStation

/-! ### Whole runs -/

theorem mCorrectionData_step {now : Timestamp} {generator generator' : Generator} {input : Input}
    (h : generator.step now input = some generator') (hnone : generator'.mCorrectionData = none) :
    generator.mCorrectionData = none := by
  cases input with
  | correctionPoints set =>
    cases h
    cases hnone
  | correction gnssId correction =>
    unfold Generator.step at h
    dsimp only at h
    split at h
    · obtain ⟨data, -, rfl⟩ := Option.map_eq_some_iff.1 h
      cases hnone
    · cases h
      exact hnone

/-- What holds between two events, by the calls so far, newest first. -/
structure Consistent (world : World) (calls : List Call) : Prop where
  tracks : Streak.Tracks Call.Active Call.receptionTime world.station.mLockTime calls
  idle : world.generator.mCorrectionData = none →
    (∀ ssId, world.station.mLockTime.lookup ssId = none) ∧
      ∀ satellite ∈ world.station.mSatellites, satellite.mObservations = []

/-- The lock times of a call, when the table was right before it. -/
theorem locks_of_generates {station after : ReferenceStation} {receptionTime : Tai}
    {calls : List Call}
    (htracks : Streak.Tracks Call.Active Call.receptionTime station.mLockTime calls)
    (h : station.Generates receptionTime after) : Locks calls ⟨receptionTime, after⟩ := by
  have hafter : Streak.Tracks Call.Active Call.receptionTime after.mLockTime
      (⟨receptionTime, after⟩ :: calls) := htracks.cons ⟨receptionTime, after⟩ h.lookup
  refine ⟨fun ssId => ?_, fun satellite hsatellite o ho hactive => ?_⟩
  · rw [← AList.lookup_isSome]
    exact hafter.isSome_iff ssId
  · have hlock : o.mLockTime =
        { station with mGenerationTime := receptionTime }.lockTime o.ssId :=
      h.locked satellite hsatellite o ho
    have hbefore := htracks o.ssId
    rw [Streak.first_cons_of_active hactive, Streak.series_cons_of_active hactive, hlock]
    unfold ReferenceStation.lockTime
    dsimp only
    cases hfirst : Streak.first Call.Active o.ssId calls with
    | none =>
      rw [hfirst, Option.map_none] at hbefore
      rw [hbefore, Streak.first_eq_none_iff.1 hfirst]
      exact ⟨_, rfl, (sub_self _).symm, by simp⟩
    | some began =>
      rw [hfirst, Option.map_some] at hbefore
      rw [hbefore]
      refine ⟨began, rfl, rfl, ?_⟩
      have hseries : Streak.series Call.Active o.ssId calls ≠ [] := fun hnil => by
        rw [Streak.first_eq_none_iff.2 hnil] at hfirst
        cases hfirst
      simp [hseries]

/-- A call without correction data is one without active signals. -/
theorem Consistent.call_idle {world : World} {calls : List Call} (h : Consistent world calls)
    (hnone : world.generator.mCorrectionData = none) (receptionTime : Tai) :
    Consistent world (⟨receptionTime, world.station⟩ :: calls) ∧
      Locks calls ⟨receptionTime, world.station⟩ := by
  obtain ⟨hlookup, hempty⟩ := h.idle hnone
  have hinactive : ∀ ssId, ¬world.station.Active ssId := by
    rintro ssId ⟨satellite, hsatellite, -, o, ho, -⟩
    rw [hempty satellite hsatellite] at ho
    cases ho
  refine ⟨⟨h.tracks.cons _ fun ssId => ?_, h.idle⟩, fun ssId => ?_, fun _ _ _ _ hactive => ?_⟩
  · rw [hlookup ssId]
    exact (if_neg (hinactive ssId)).symm
  · refine iff_of_false (fun hmem => ?_) (hinactive ssId)
    rw [← AList.lookup_isSome, hlookup ssId] at hmem
    cases hmem
  · exact absurd hactive (hinactive _)

/-- Every call is right by those before it. -/
def AllLock (calls : List Call) : Prop :=
  ∀ call earlier, call :: earlier <:+ calls → Locks earlier call

theorem AllLock.cons {calls : List Call} (h : AllLock calls) {call : Call}
    (hlocks : Locks calls call) : AllLock (call :: calls) := by
  intro call' earlier hsuffix
  rcases List.suffix_cons_iff.1 hsuffix with heq | hsuffix
  · cases heq
    exact hlocks
  · exact h call' earlier hsuffix

/-- **The step rule.** -/
theorem step_locks (geometry : Geometry) (order : Finset SignalId → List SignalId)
    {world : World} {calls : List Call} (h : Consistent world calls) (hall : AllLock calls)
    (event : Event) :
    let r := step geometry order (some world) event
    (∀ world' ∈ r.1, Consistent world' (r.2.reverse ++ calls)) ∧
      AllLock (r.2.reverse ++ calls) := by
  cases event with
  | corrections now input =>
    refine ⟨fun world' hworld => ?_, hall⟩
    obtain ⟨generator, hgenerator, rfl⟩ := Option.map_eq_some_iff.1 hworld
    exact ⟨h.tracks, fun hnone => h.idle (mCorrectionData_step hgenerator hnone)⟩
  | ephemeris e =>
    refine ⟨fun world' hworld => ?_, hall⟩
    cases hworld
    exact ⟨h.tracks, h.idle⟩
  | snapshot unset ephemerides input =>
    refine ⟨fun world' hworld => ?_, hall⟩
    cases hworld
    exact ⟨h.tracks, by rintro ⟨⟩⟩
  | setting setting =>
    refine ⟨fun world' hworld => ?_, hall⟩
    cases hworld
    cases setting <;> exact ⟨h.tracks, h.idle⟩
  | generate receptionTime =>
    unfold step
    dsimp only
    cases hdata : world.generator.mCorrectionData with
    | none =>
      obtain ⟨hvalid, hlocks⟩ := h.call_idle hdata receptionTime
      refine ⟨fun world' hworld => ?_, hall.cons hlocks⟩
      cases hworld
      exact hvalid
    | some data =>
      have hgenerates := world.station.generates_generate geometry order data world.ephemerides
        receptionTime
      refine ⟨fun world' hworld => ?_, hall.cons (locks_of_generates h.tracks hgenerates)⟩
      cases hworld
      refine ⟨h.tracks.cons ⟨receptionTime, _⟩ hgenerates.lookup, fun hnone => ?_⟩
      rw [hdata] at hnone
      cases hnone

theorem consistent_new (config : ReferenceStationConfig) (now : Tai) (maxCache : ℕ)
    (iodConsistencyCheck : Bool) :
    Consistent (.new config now maxCache iodConsistencyCheck) [] := by
  refine ⟨Streak.tracks_empty, fun _ => ⟨fun _ => rfl, fun satellite hsatellite => ?_⟩⟩
  obtain ⟨id, -, rfl⟩ := List.mem_map.1 hsatellite
  rfl

/-- **Lock times are right** after every call of `generate`, whatever comes between the calls.
The calls are taken newest first. -/
theorem locks_run (geometry : Geometry) (order : Finset SignalId → List SignalId)
    (config : ReferenceStationConfig) (now : Tai) (maxCache : ℕ) (iodConsistencyCheck : Bool)
    (events : List Event) :
    ∀ call calls, call :: calls <:+ (Mealy.run (step geometry order)
      (some (.new config now maxCache iodConsistencyCheck)) events).2.reverse →
        Locks calls call := by
  refine (Mealy.invariant_run (P := fun world out =>
    (∀ w ∈ world, Consistent w out.reverse) ∧ AllLock out.reverse) (fun world out event h _ => ?_)
    ⟨?_, ?_⟩ (Mealy.along_of_forall (fun _ _ _ _ => trivial) _ _)).2
  · rw [List.reverse_append]
    cases world with
    | none => exact ⟨by rintro w ⟨⟩, h.2⟩
    | some world => exact step_locks geometry order (h.1 world rfl) h.2 event
  · rintro w ⟨⟩
    exact consistent_new config now maxCache iodConsistencyCheck
  · intro call calls h
    cases List.suffix_nil.1 h

/-- Midnight at the start of a week. -/
def weekStart : Asn.GnssSystemTime := ⟨.gps, ⟨700, Asn.Integer.mem⟩, ⟨0, Asn.Integer.mem⟩, none⟩

/-- Corrections and an ephemeris for a satellite, and the code bias of a signal. -/
def oneSatellite : List Event :=
  [.corrections 0 (.correctionPoints (.ofArray false 1 twoColumns)),
    .corrections 0 (.correction .gps (.orbit
      { epochTime := weekStart
        iodSsr := ⟨0, Asn.Integer.mem⟩
        ssrUpdateInterval := ⟨0, Asn.Integer.mem⟩
        ssrOrbitCorrectionList := ⟨[{
          svId := ⟨0, Asn.Integer.mem⟩
          iod := ⟨List.replicate 10 false ++ [true], by decide⟩
          deltaRadial := ⟨0, Asn.Integer.mem_neg⟩
          deltaAlongTrack := ⟨0, Asn.Integer.mem_neg⟩
          deltaCrossTrack := ⟨0, Asn.Integer.mem_neg⟩
          dotDeltaRadial := none
          dotDeltaAlongTrack := none
          dotDeltaCrossTrack := none }], by decide⟩ })),
    .corrections 0 (.correction .gps (.clock
      { epochTime := weekStart
        iodSsr := ⟨0, Asn.Integer.mem⟩
        ssrUpdateInterval := ⟨0, Asn.Integer.mem⟩
        ssrClockCorrectionList :=
          ⟨[⟨⟨0, Asn.Integer.mem⟩, ⟨1, Asn.Integer.mem_neg⟩, none, none⟩], by decide⟩ })),
    .corrections 0 (.correction .gps (.codeBias
      { epochTime := weekStart
        iodSsr := ⟨0, Asn.Integer.mem⟩
        ssrCodeBiasSatList := ⟨[⟨⟨0, Asn.Integer.mem⟩,
          ⟨[⟨⟨⟨0, Asn.Integer.mem⟩, none⟩, ⟨0, Asn.Integer.mem_neg⟩⟩], by decide⟩⟩], by decide⟩ })),
    .ephemeris (.gps (broadcastAt 100 0 1)),
    .setting (.requirePhaseBias false), .setting (.requireTropo false),
    .setting (.requireIono false)]

/-- Two calls, a second apart. -/
def twoCalls : List Event :=
  oneSatellite ++ [.generate (.ofGps ⟨700 * 86400⟩), .generate (.ofGps ⟨700 * 86400 + 1⟩)]

/-- Every satellite is high in the sky. -/
def overhead : Geometry where
  computeTruePosition _ time _ _ := some ⟨time, 0⟩
  computeAzimuthAndElevation _ state := some { state with trueElevation := 1 }

/-- The one signal that has a code bias. -/
def onlySignal (signals : Finset SignalId) : List SignalId :=
  [(⟨.gps, 0⟩ : SignalId)].filter (· ∈ signals)

theorem locks_run_twoCalls : ∃ second began : Call,
    (Mealy.run (step overhead onlySignal)
      (some (.new ⟨.zero, true, false, false, false⟩ ⟨0⟩ 1 true)) twoCalls).2.reverse =
        [second, began] ∧
      second.Active ⟨⟨.gps, 0⟩, ⟨.gps, 0⟩⟩ ∧ Locks [began] second := by
  refine ⟨_, _, rfl, ?_, locks_run overhead onlySignal _ _ _ _ twoCalls _ _ (List.suffix_refl _)⟩
  decide +kernel

end SuplLpp.Tokoro
