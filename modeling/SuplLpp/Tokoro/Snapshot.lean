import SuplLpp.Tokoro.Correction

/-!
# Snapshots of the correction data

A snapshot lists what the generator has, satellites by their PRN.  Loading it builds the
correction data anew.

* `CorrectionData.snapshot`, `loadSnapshot` and the same of the generator;
* `Restores`: two correction data have the same entries, under the same ids; `SameSnapshot`, up
  to the order in which tables are listed;
* `reload`, the satellite that an entry is loaded for: PRNs count from 1 and LPP numbers from
  0, so it is the next one (`reload_eq`).

Members that loading leaves unset have values of their own, a parameter.
-/

namespace SuplLpp.Tokoro

open Asn Ts

/-! ### Entries -/

/-- An entry of a satellite: `SnapshotOrbitCorrection` and the like, with their own values. -/
structure SnapshotEntry (ν : Type) where
  gnss : Gnss
  prn : ℤ
  value : ν

/-- The entries of a table. -/
def entriesOf {α ν : Type} (t : Table SatelliteId α) (value : α → ν) : List (SnapshotEntry ν) :=
  (Table.pairs t).map fun (id, a) => ⟨id.gnss, Maybe.value id.prn, value a⟩

/-- The satellite that an entry is loaded for. -/
def SnapshotEntry.satelliteId {ν : Type} (e : SnapshotEntry ν) : SatelliteId :=
  .fromLpp e.gnss e.prn

/-- The table that entries are loaded into. -/
def loadEntries {α ν : Type} (entries : List (SnapshotEntry ν)) (entry : ν → α) :
    Table SatelliteId α :=
  entries.foldl (fun t e => t.insert e.satelliteId (entry e.value)) ∅

structure OrbitValues where
  delta : Float3
  dotDelta : Float3
  iod : ℤ
  deriving DecidableEq

structure ClockValues where
  c0 : ℚ
  c1 : ℚ
  c2 : ℚ
  deriving DecidableEq

/-- The values of `SnapshotCodeBias` and of `SnapshotPhaseBias`. -/
structure BiasValues where
  signal : ℤ
  bias : ℚ
  deriving DecidableEq

abbrev SnapshotOrbitCorrection := SnapshotEntry OrbitValues
abbrev SnapshotClockCorrection := SnapshotEntry ClockValues
abbrev SnapshotCodeBias := SnapshotEntry BiasValues
abbrev SnapshotPhaseBias := SnapshotEntry BiasValues
abbrev SnapshotIonosphericPolynomial := SnapshotEntry IonosphericPolynomial
abbrev SnapshotIonosphereResidual := SnapshotEntry ℚ

structure SnapshotGridPoint where
  latitudeIndex : ℕ
  longitudeIndex : ℕ
  position : Float3
  hasTroposphere : Bool
  troposphereWet : ℚ
  troposphereDry : ℚ
  ionosphereResiduals : List SnapshotIonosphereResidual

structure SnapshotGridData where
  gnss : Gnss
  gridPoints : List SnapshotGridPoint

/-- The lists that `CorrectionData::snapshot` fills. -/
structure CorrectionSnapshot where
  orbitCorrections : List SnapshotOrbitCorrection
  clockCorrections : List SnapshotClockCorrection
  codeBiases : List SnapshotCodeBias
  phaseBiases : List SnapshotPhaseBias
  ionosphericPolynomials : List SnapshotIonosphericPolynomial
  gridData : List SnapshotGridData

/-- The values of an orbit correction that a snapshot has. -/
def OrbitCorrection.values (orbit : OrbitCorrection) : OrbitValues :=
  ⟨orbit.delta, orbit.dotDelta, orbit.iod⟩

def ClockCorrection.values (clock : ClockCorrection) : ClockValues := ⟨clock.c0, clock.c1, clock.c2⟩

/-! ### Taking a snapshot -/

namespace CorrectionData

/-- The biases of one kind, satellite by satellite. -/
def biasesOf (data : CorrectionData)
    (biases : SignalCorrection → Table SignalId BiasCorrection) : List (SnapshotEntry BiasValues) :=
  (Table.pairs data.mSignal).flatMap fun (id, corrections) =>
    (Table.pairs (biases corrections)).map fun (signalId, correction) =>
      ⟨id.gnss, Maybe.value id.prn, ⟨signalId.lppId, correction.bias⟩⟩

end CorrectionData

def GridPoint.snapshot (point : GridPoint) : SnapshotGridPoint where
  latitudeIndex := point.latitudeIndex
  longitudeIndex := point.longitudeIndex
  position := point.position
  hasTroposphere := point.tropsphericValid
  troposphereWet := point.troposphericWet
  troposphereDry := point.troposphericDry
  ionosphereResiduals := entriesOf point.ionosphericResidual id

/-- The valid points of a grid. -/
def GridData.snapshotPoints (grid : GridData) : List SnapshotGridPoint :=
  (grid.gridPoints.filter (·.valid)).map GridPoint.snapshot

namespace CorrectionData

/-- The grids that have valid points. -/
def snapshotGrids (data : CorrectionData) : List SnapshotGridData :=
  ((Table.pairs data.mGrid).map fun (gnss, grid) =>
    (⟨gnss, grid.snapshotPoints⟩ : SnapshotGridData)).filter (!·.gridPoints.isEmpty)

/-- `CorrectionData::snapshot`. -/
def snapshot (data : CorrectionData) : CorrectionSnapshot where
  orbitCorrections := entriesOf data.mOrbit OrbitCorrection.values
  clockCorrections := entriesOf data.mClock ClockCorrection.values
  codeBiases := data.biasesOf SignalCorrection.codeBias
  phaseBiases := data.biasesOf SignalCorrection.phaseBias
  ionosphericPolynomials := entriesOf data.mIonosphericPolynomial id
  gridData := data.snapshotGrids

end CorrectionData

/-! ### Loading a snapshot -/

/-- The values of local variables whose members are not all set. -/
structure Unset where
  orbit : OrbitCorrection
  clock : ClockCorrection
  ssrIod : ℤ

namespace CorrectionData

/-- A loop over biases of one kind. -/
def loadBiases (set : SignalId → BiasCorrection → SignalCorrection → SignalCorrection)
    (unset : Unset) (data : CorrectionData) (biases : List (SnapshotEntry BiasValues)) :
    CorrectionData :=
  biases.foldl (fun data e =>
    let signalId := SignalId.fromLpp e.gnss e.value.signal
    if signalId.isValid then
      { data.addSignal e.satelliteId signalId with
        mSignal := Table.upsert data.mSignal e.satelliteId .new
          (set signalId ⟨unset.ssrIod, e.value.bias⟩) }
    else data) data

end CorrectionData

/-- A grid point, at the index that it gets in the grid. -/
def SnapshotGridPoint.load (point : SnapshotGridPoint) (absoluteIndex : ℕ) : GridPoint where
  valid := true
  tropsphericValid := point.hasTroposphere
  ionosphericValid := !point.ionosphereResiduals.isEmpty
  position := point.position
  arrayIndex := absoluteIndex
  absoluteIndex := absoluteIndex
  latitudeIndex := point.latitudeIndex
  longitudeIndex := point.longitudeIndex
  ionosphericResidual := loadEntries point.ionosphereResiduals id
  troposphericWet := point.troposphereWet
  troposphericDry := point.troposphereDry

/-- Row times width, plus column. -/
def SnapshotGridPoint.home (width : ℕ) (point : SnapshotGridPoint) : ℕ :=
  point.latitudeIndex * width + point.longitudeIndex

/-- The loop over the points of a grid; points outside are left out. -/
def GridData.loadPoints (grid : GridData) (points : List SnapshotGridPoint) : GridData :=
  { grid with
    gridPoints := points.foldl (fun gridPoints point =>
      let absoluteIndex := point.home (grid.numberOfStepsLongitude + 1)
      gridPoints.set absoluteIndex (point.load absoluteIndex)) grid.gridPoints }

namespace CorrectionData

/-- The loop over the grids. -/
def loadGrids (correctionPointSet : Option CorrectionPointSet) (gridData : List SnapshotGridData) :
    Table Gnss GridData :=
  gridData.foldl (fun mGrid e =>
    let grid := (mGrid.lookup e.gnss).getD .new
    let grid := match correctionPointSet with
      | some set => grid.init set
      | none => grid
    mGrid.insert e.gnss (grid.loadPoints e.gridPoints)) ∅

/-- `CorrectionData::load_snapshot`; the times and, of new data, the known signals stay. -/
def loadSnapshot (unset : Unset) (data : CorrectionData) (s : CorrectionSnapshot) :
    CorrectionData :=
  let data :=
    { data with
      mOrbit := loadEntries s.orbitCorrections fun v =>
        { unset.orbit with delta := v.delta, dotDelta := v.dotDelta, iod := v.iod }
      mClock := loadEntries s.clockCorrections fun v =>
        { unset.clock with c0 := v.c0, c1 := v.c1, c2 := v.c2 }
      mSignal := ∅ }
  let data := data.loadBiases (fun signalId bias corrections =>
    { corrections with codeBias := corrections.codeBias.insert signalId bias }) unset s.codeBiases
  let data := data.loadBiases (fun signalId bias corrections =>
    { corrections with phaseBias := corrections.phaseBias.insert signalId bias }) unset
      s.phaseBiases
  { data with
    mIonosphericPolynomial := loadEntries s.ionosphericPolynomials id
    mGrid := loadGrids data.correctionPointSet s.gridData }

end CorrectionData

/-! ### The generator -/

/-- The members of `SnapshotInput` that corrections concern. -/
structure SnapshotInput where
  corrections : CorrectionSnapshot
  correctionPointSet : CorrectionPointSet

namespace Generator

/-- The correction data, which are empty at first. -/
def data (generator : Generator) : CorrectionData := generator.mCorrectionData.getD .new

/-- `Generator::snapshot`; without a correction point set its members are `unset`. -/
def snapshot (unset : CorrectionPointSet) (generator : Generator) : SnapshotInput where
  corrections := generator.data.snapshot
  correctionPointSet := generator.mCorrectionPointSet.getD unset

/-- `Generator::load_snapshot`, into any generator. -/
def loadSnapshot (unset : Unset) (generator : Generator) (input : SnapshotInput) : Generator :=
  let set := if 0 < input.correctionPointSet.gridPointCount then some input.correctionPointSet
    else none
  { mCorrectionPointSet := set.or generator.mCorrectionPointSet
    mCorrectionData := some
      ({ CorrectionData.new with correctionPointSet := set }.loadSnapshot unset input.corrections) }

end Generator

/-! ### The same entries -/

/-- What a snapshot says of a grid point. -/
structure PointValues where
  latitudeIndex : ℕ
  longitudeIndex : ℕ
  position : Float3
  hasTroposphere : Bool
  troposphereWet : ℚ
  troposphereDry : ℚ
  residual : SatelliteId → Option ℚ

def GridPoint.values (point : GridPoint) : PointValues where
  latitudeIndex := point.latitudeIndex
  longitudeIndex := point.longitudeIndex
  position := point.position
  hasTroposphere := point.tropsphericValid
  troposphereWet := point.troposphericWet
  troposphereDry := point.troposphericDry
  residual := point.ionosphericResidual.lookup

/-- The valid point of a system at an index. -/
def CorrectionData.point (data : CorrectionData) (gnss : Gnss) (i : ℕ) : Option GridPoint :=
  (data.mGrid.lookup gnss).bind fun grid => grid.gridPoints[i]?.filter (·.valid)

/-- The bias of a signal. -/
def CorrectionData.bias (data : CorrectionData)
    (biases : SignalCorrection → Table SignalId BiasCorrection) (id : SatelliteId)
    (signalId : SignalId) : Option ℚ :=
  ((data.mSignal.lookup id).bind fun corrections =>
    (biases corrections).lookup signalId).map (·.bias)

/-- The data have the entries of the other data under the same ids, and no others, and the same
known signals. -/
structure Restores (data data' : CorrectionData) : Prop where
  orbit : ∀ id, (data'.mOrbit.lookup id).map OrbitCorrection.values =
    (data.mOrbit.lookup id).map OrbitCorrection.values
  clock : ∀ id, (data'.mClock.lookup id).map ClockCorrection.values =
    (data.mClock.lookup id).map ClockCorrection.values
  codeBias : ∀ id signalId, data'.bias SignalCorrection.codeBias id signalId =
    data.bias SignalCorrection.codeBias id signalId
  phaseBias : ∀ id signalId, data'.bias SignalCorrection.phaseBias id signalId =
    data.bias SignalCorrection.phaseBias id signalId
  ionosphericPolynomial : ∀ id, data'.mIonosphericPolynomial.lookup id =
    data.mIonosphericPolynomial.lookup id
  grid : ∀ gnss i, (data'.point gnss i).map GridPoint.values =
    (data.point gnss i).map GridPoint.values
  signals : ∀ id, data'.mSignals.lookup id = data.mSignals.lookup id

/-- The same point, with its residuals in any order. -/
def SamePoint (p q : SnapshotGridPoint) : Prop :=
  { p with ionosphereResiduals := [] } = { q with ionosphereResiduals := [] } ∧
    p.ionosphereResiduals.Perm q.ionosphereResiduals

def SameGrid (p q : SnapshotGridData) : Prop :=
  p.gnss = q.gnss ∧ List.Forall₂ SamePoint p.gridPoints q.gridPoints

/-- The same snapshot: tables are listed in any order. -/
structure SameSnapshot (s s' : CorrectionSnapshot) : Prop where
  orbitCorrections : s.orbitCorrections.Perm s'.orbitCorrections
  clockCorrections : s.clockCorrections.Perm s'.clockCorrections
  codeBiases : s.codeBiases.Perm s'.codeBiases
  phaseBiases : s.phaseBiases.Perm s'.phaseBiases
  ionosphericPolynomials : s.ionosphericPolynomials.Perm s'.ionosphericPolynomials
  gridData : ∃ l, s'.gridData.Perm l ∧ List.Forall₂ SameGrid s.gridData l

/-- **The round trip.**  Loaded into any generator, the snapshot gives the same entries, and the
same snapshot again. -/
def RoundTrips (generator : Generator) : Prop :=
  ∀ (target : Generator) (unset : Unset) (unsetPoints : CorrectionPointSet),
    let loaded := target.loadSnapshot unset (generator.snapshot unsetPoints)
    Restores generator.data loaded.data ∧
      SameSnapshot generator.data.snapshot loaded.data.snapshot

/-! ### Ids -/

/-- A satellite as LPP names it. -/
def IsNamed (id : SatelliteId) : Prop :=
  id.mGnss ≠ .unknown ∧ 0 ≤ id.mLppId ∧ id.mLppId < 64

theorem isNamed_fromLpp {gnss : Gnss} {svId : SvId}
    (h : (SatelliteId.fromLpp gnss svId.1).isValid = true) :
    IsNamed (.fromLpp gnss svId.1) := by
  obtain ⟨id, h0, h63⟩ := svId
  have hid : SatelliteId.fromLpp gnss id = ⟨gnss, id⟩ :=
    if_neg (by unfold lppSatelliteIdLimit; omega)
  dsimp only at h ⊢
  rw [hid] at h ⊢
  refine ⟨?_, h0, by show id < 64; omega⟩
  rintro hgnss
  cases hgnss
  cases h

/-- The satellite that the entry of a satellite is loaded for. -/
def reload (id : SatelliteId) : SatelliteId := .fromLpp id.gnss (Maybe.value id.prn)

/-- **The ids shift.**  The entry of a satellite is loaded for the next one, that of the last
satellite for none. -/
theorem reload_eq {id : SatelliteId} (h : IsNamed id) :
    reload id = if id.mLppId < 63 then ⟨id.mGnss, id.mLppId + 1⟩ else .invalid := by
  obtain ⟨-, h0, h64⟩ := h
  have hprn : id.prn = some (id.mLppId + 1) := if_pos ⟨h0, by unfold lppSatelliteIdLimit; omega⟩
  have hvalue : Maybe.value id.prn = id.mLppId + 1 := by rw [hprn]; rfl
  unfold reload SatelliteId.fromLpp lppSatelliteIdLimit
  rw [hvalue]
  by_cases hlast : id.mLppId < 63
  · rw [if_pos hlast, if_neg (by omega)]
    rfl
  · rw [if_neg hlast, if_pos (by omega)]

/-- A finite set of satellites that shifts into itself is empty: below each satellite there
would be another one. -/
theorem none_of_reload {p : SatelliteId → Prop} (hnamed : ∀ id, p id → IsNamed id)
    (hreload : ∀ id, p id → ∃ k, p k ∧ reload k = id) (id : SatelliteId) : ¬p id := by
  have hbelow : ∀ (n : ℕ) (id : SatelliteId), id.mLppId = n → ¬p id := by
    intro n
    induction n with
    | zero =>
      intro id hid hp
      obtain ⟨k, hk, hload⟩ := hreload id hp
      have hkn := hnamed k hk
      rw [reload_eq hkn] at hload
      split_ifs at hload with hlast
      · rw [← hload] at hid
        have := hkn.2.1
        simp at hid
        omega
      · rw [← hload] at hid
        cases hid
    | succ n ih =>
      intro id hid hp
      obtain ⟨k, hk, hload⟩ := hreload id hp
      have hkn := hnamed k hk
      rw [reload_eq hkn] at hload
      split_ifs at hload with hlast
      · rw [← hload] at hid
        exact ih k (by simp at hid; omega) hk
      · exact (hnamed id hp).1 (by rw [← hload]; rfl)
  intro hp
  exact hbelow id.mLppId.toNat id (by have := (hnamed id hp).2.1; omega) hp

/-! ### Tables of entries -/

theorem mem_entriesOf {α ν : Type} {t : Table SatelliteId α} {value : α → ν}
    {e : SnapshotEntry ν} (h : e ∈ entriesOf t value) :
    ∃ id, (t.lookup id).isSome ∧ e.satelliteId = reload id := by
  obtain ⟨⟨id, a⟩, hmem, rfl⟩ := List.mem_map.1 h
  exact ⟨id, by rw [Table.mem_pairs.1 hmem]; rfl, rfl⟩

theorem entriesOf_eq_nil {α ν : Type} {t : Table SatelliteId α} (value : α → ν)
    (h : ∀ id, t.lookup id = none) : entriesOf t value = [] := by
  rw [entriesOf, List.map_eq_nil_iff, List.eq_nil_iff_forall_not_mem]
  rintro ⟨id, a⟩ hmem
  rw [Table.mem_pairs, h] at hmem
  cases hmem

/-- An entry of the loaded table comes from an entry of the snapshot. -/
theorem exists_of_loadEntries {α ν : Type} {entries : List (SnapshotEntry ν)} {entry : ν → α}
    {id : SatelliteId} (h : ((loadEntries entries entry).lookup id).isSome) :
    ∃ e ∈ entries, e.satelliteId = id := by
  unfold loadEntries at h
  induction entries using List.reverseRecOn with
  | nil => cases h
  | append_singleton entries e ih =>
    rw [List.foldl_append, List.foldl_cons, List.foldl_nil, Table.lookup_insert] at h
    by_cases hid : id = e.satelliteId
    · exact ⟨e, List.mem_append_right _ List.mem_cons_self, hid.symm⟩
    · rw [if_neg hid] at h
      obtain ⟨e', he', hid'⟩ := ih h
      exact ⟨e', List.mem_append_left _ he', hid'⟩

/-- What is loaded from a table comes from it, one satellite on. -/
theorem exists_of_load {α β ν : Type} {t : Table SatelliteId α} {value : α → ν} {entry : ν → β}
    {id : SatelliteId} (h : ((loadEntries (entriesOf t value) entry).lookup id).isSome) :
    ∃ k, (t.lookup k).isSome ∧ reload k = id := by
  obtain ⟨e, he, hid⟩ := exists_of_loadEntries h
  obtain ⟨k, hk, hload⟩ := mem_entriesOf he
  exact ⟨k, hk, hload.symm.trans hid⟩

/-- A table that is loaded as it was is empty. -/
theorem lookup_eq_none_of_load {α β ν : Type} {t : Table SatelliteId α} {value : α → ν}
    {entry : ν → β} (hnamed : ∀ id, (t.lookup id).isSome → IsNamed id)
    (h : ∀ id, ((loadEntries (entriesOf t value) entry).lookup id).isSome = (t.lookup id).isSome)
    (id : SatelliteId) : t.lookup id = none := by
  rw [← Option.not_isSome_iff_eq_none]
  refine none_of_reload (p := fun id => (t.lookup id).isSome) hnamed (fun id hid => ?_) id
  exact exists_of_load ((h id).trans hid)

/-! ### Biases -/

theorem mem_biasesOf {data : CorrectionData}
    {biases : SignalCorrection → Table SignalId BiasCorrection} {e : SnapshotEntry BiasValues}
    (h : e ∈ data.biasesOf biases) :
    ∃ id signalId, (data.bias biases id signalId).isSome ∧ e.satelliteId = reload id := by
  obtain ⟨⟨id, corrections⟩, hmem, h⟩ := List.mem_flatMap.1 h
  obtain ⟨⟨signalId, correction⟩, hsignal, rfl⟩ := List.mem_map.1 h
  refine ⟨id, signalId, ?_, rfl⟩
  rw [CorrectionData.bias, Table.mem_pairs.1 hmem, Option.bind_some, Table.mem_pairs.1 hsignal]
  rfl

theorem biasesOf_eq_nil {data : CorrectionData}
    {biases : SignalCorrection → Table SignalId BiasCorrection}
    (h : ∀ id signalId, data.bias biases id signalId = none) : data.biasesOf biases = [] := by
  rw [List.eq_nil_iff_forall_not_mem]
  rintro ⟨gnss, prn, value⟩ hmem
  obtain ⟨⟨id, corrections⟩, hpair, hmem⟩ := List.mem_flatMap.1 hmem
  obtain ⟨⟨signalId, correction⟩, hsignal, -⟩ := List.mem_map.1 hmem
  have hnone := h id signalId
  rw [CorrectionData.bias, Table.mem_pairs.1 hpair, Option.bind_some,
    Table.mem_pairs.1 hsignal] at hnone
  cases hnone

/-- The satellites that have signals. -/
def CorrectionData.HasSignals (data : CorrectionData) (id : SatelliteId) : Prop :=
  (data.mSignal.lookup id).isSome ∨ (data.mSignals.lookup id).isSome

/-- The loops over biases add the satellites of the biases. -/
theorem hasSignals_loadBiases
    {set : SignalId → BiasCorrection → SignalCorrection → SignalCorrection} {unset : Unset}
    {data : CorrectionData} {biases : List (SnapshotEntry BiasValues)} {id : SatelliteId}
    (h : (data.loadBiases set unset biases).HasSignals id) :
    data.HasSignals id ∨ ∃ e ∈ biases, e.satelliteId = id := by
  unfold CorrectionData.loadBiases at h
  induction biases using List.reverseRecOn with
  | nil => exact .inl h
  | append_singleton biases e ih =>
    rw [List.foldl_append, List.foldl_cons, List.foldl_nil] at h
    by_cases hid : e.satelliteId = id
    · exact .inr ⟨e, List.mem_append_right _ List.mem_cons_self, hid⟩
    · have hbefore := ih ?_
      · rcases hbefore with hdata | ⟨e', he', hid'⟩
        · exact .inl hdata
        · exact .inr ⟨e', List.mem_append_left _ he', hid'⟩
      · dsimp only at h
        split_ifs at h
        · simp only [CorrectionData.HasSignals, CorrectionData.addSignal, Table.lookup_upsert,
            if_neg (Ne.symm hid)] at h ⊢
          exact h
        · exact h

end SuplLpp.Tokoro
