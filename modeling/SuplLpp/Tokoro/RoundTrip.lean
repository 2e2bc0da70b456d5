import SuplLpp.Tokoro.Snapshot

/-!
# The round trip of a snapshot

Loading a snapshot gives the entries of the generator back only if there are none under a
satellite id, as these shift.

* `point_loadGrids`, the grid points that a snapshot is loaded into;
* `WellNamed`: all satellites of the correction data have LPP numbers, in every reachable state;
* `Restorable`: no entry has a satellite id, and every grid point is where its row and column
  are in the correction point set;
* `snapshot_roundTrips_iff`: exactly then the snapshot makes the round trip.
-/

namespace SuplLpp.Tokoro

open Asn Ts

/-! ### Loading grids -/

theorem getElem?_loadPoints (grid : GridData) (points : List SnapshotGridPoint) (i : ℕ) :
    (grid.loadPoints points).gridPoints[i]? =
      grid.gridPoints[i]?.map fun old =>
        ((points.reverse.find? fun p => p.home (grid.numberOfStepsLongitude + 1) = i).map
          (·.load i)).getD old := by
  unfold GridData.loadPoints
  induction points using List.reverseRecOn with
  | nil => simp
  | append_singleton points p ih =>
    dsimp only at ih ⊢
    rw [List.foldl_append, List.foldl_cons, List.foldl_nil, List.getElem?_set, List.reverse_append,
      List.reverse_singleton, List.singleton_append, List.find?_cons]
    by_cases hhome : p.home (grid.numberOfStepsLongitude + 1) = i
    · -- the last point at the index stays
      rw [if_pos hhome, decide_eq_true hhome, hhome]
      cases hold : grid.gridPoints[i]? with
      | none =>
        rw [hold, Option.map_none, List.getElem?_eq_none_iff] at ih
        rw [if_neg (Nat.not_lt.2 ih), Option.map_none]
      | some old =>
        rw [hold, Option.map_some, List.getElem?_eq_some_iff] at ih
        rw [if_pos ih.1]
        rfl
    · rw [if_neg hhome, decide_eq_false hhome]
      exact ih

/-- What a grid of the snapshot is loaded into. -/
def loadGrid (set : Option CorrectionPointSet) (e : SnapshotGridData) : GridData :=
  (match set with
    | some set => GridData.new.init set
    | none => GridData.new).loadPoints e.gridPoints

theorem lookup_loadGrids (set : Option CorrectionPointSet) {l : List SnapshotGridData}
    (h : (l.map (·.gnss)).Nodup) (gnss : Gnss) :
    (CorrectionData.loadGrids set l).lookup gnss =
      (l.find? fun e => e.gnss = gnss).map (loadGrid set) := by
  unfold CorrectionData.loadGrids
  induction l using List.reverseRecOn generalizing gnss with
  | nil => rfl
  | append_singleton l e ih =>
    rw [List.map_append, List.nodup_append] at h
    obtain ⟨hnodup, -, hdisjoint⟩ := h
    -- the system has no grid yet
    have hnew : l.find? (fun e' => e'.gnss = e.gnss) = none := by
      rw [List.find?_eq_none]
      intro e' he' hsame
      exact hdisjoint _ (List.mem_map_of_mem he') e.gnss List.mem_cons_self (by simpa using hsame)
    have hgrid := ih hnodup e.gnss
    rw [hnew, Option.map_none] at hgrid
    rw [List.foldl_append, List.foldl_cons, List.foldl_nil, List.find?_append, hgrid,
      Table.lookup_insert]
    by_cases hgnss : gnss = e.gnss
    · subst hgnss
      rw [if_pos rfl, hnew]
      simp only [Option.none_or, List.find?_cons, decide_true, Option.map_some]
      rfl
    · rw [if_neg hgnss, ih hnodup gnss]
      have hother : List.find? (fun e' => decide (e'.gnss = gnss)) [e] = none := by
        simp [Ne.symm hgnss]
      rw [hother, Option.or_none]

/-! ### The points of a snapshot -/

/-- The points that a snapshot has for a system. -/
def CorrectionData.points (data : CorrectionData) (gnss : Gnss) : List SnapshotGridPoint :=
  ((data.mGrid.lookup gnss).map GridData.snapshotPoints).getD []

theorem mem_points {data : CorrectionData} {gnss : Gnss} {p : SnapshotGridPoint} :
    p ∈ data.points gnss ↔ ∃ i point, data.point gnss i = some point ∧ p = point.snapshot := by
  unfold CorrectionData.points CorrectionData.point
  cases data.mGrid.lookup gnss with
  | none => simp
  | some grid =>
    simp only [Option.map_some, Option.getD_some, Option.bind_some, GridData.snapshotPoints,
      List.mem_map, List.mem_filter, Option.filter_eq_some_iff]
    constructor
    · rintro ⟨point, ⟨hmem, hvalid⟩, rfl⟩
      obtain ⟨i, hi⟩ := List.mem_iff_getElem?.1 hmem
      exact ⟨i, point, ⟨hi, hvalid⟩, rfl⟩
    · rintro ⟨i, point, ⟨hi, hvalid⟩, rfl⟩
      exact ⟨point, ⟨List.mem_of_getElem? hi, hvalid⟩, rfl⟩

theorem mem_snapshotGrids {data : CorrectionData} {e : SnapshotGridData} :
    e ∈ data.snapshotGrids ↔ e.gridPoints = data.points e.gnss ∧ e.gridPoints ≠ [] := by
  unfold CorrectionData.snapshotGrids CorrectionData.points
  rw [List.mem_filter, List.mem_map]
  constructor
  · rintro ⟨⟨⟨gnss, grid⟩, hmem, rfl⟩, hempty⟩
    rw [Table.mem_pairs] at hmem
    exact ⟨by rw [hmem]; rfl, by simpa using hempty⟩
  · obtain ⟨gnss, points⟩ := e
    rintro ⟨hpoints, hempty⟩
    dsimp only at hpoints hempty ⊢
    cases hgrid : data.mGrid.lookup gnss with
    | none =>
      rw [hgrid] at hpoints
      exact absurd hpoints hempty
    | some grid =>
      rw [hgrid, Option.map_some, Option.getD_some] at hpoints
      exact ⟨⟨(gnss, grid), Table.mem_pairs.2 hgrid, by rw [hpoints]⟩, by simpa using hempty⟩

theorem nodup_snapshotGrids (data : CorrectionData) :
    (data.snapshotGrids.map (·.gnss)).Nodup := by
  have hkeys : ((Table.pairs data.mGrid).map (·.1)).Nodup := by
    rw [Table.pairs, List.map_map]
    exact data.mGrid.keys_nodup
  refine List.Nodup.sublist ((List.filter_sublist).map _) ?_
  rw [List.map_map]
  exact hkeys

theorem find?_snapshotGrids (data : CorrectionData) (gnss : Gnss) :
    data.snapshotGrids.find? (fun e => e.gnss = gnss) =
      if data.points gnss = [] then none else some ⟨gnss, data.points gnss⟩ := by
  cases hfind : data.snapshotGrids.find? (fun e => e.gnss = gnss) with
  | none =>
    by_cases hempty : data.points gnss = []
    · rw [if_pos hempty]
    · have hmem : (⟨gnss, data.points gnss⟩ : SnapshotGridData) ∈ data.snapshotGrids :=
        mem_snapshotGrids.2 ⟨rfl, hempty⟩
      have := List.find?_eq_none.1 hfind _ hmem
      simp at this
  | some e =>
    have hgnss : e.gnss = gnss := by simpa using List.find?_some hfind
    obtain ⟨hpoints, hempty⟩ := mem_snapshotGrids.1 (List.mem_of_find?_eq_some hfind)
    obtain ⟨gnss', points⟩ := e
    dsimp only at hgnss hpoints hempty
    subst hgnss hpoints
    rw [if_neg hempty]

/-- **The points that a snapshot is loaded into**: the last point for an index, if the index is
in the grid of the correction point set. -/
theorem point_loadGrids {data data' : CorrectionData} {set : Option CorrectionPointSet}
    (h : data'.mGrid = CorrectionData.loadGrids set data.snapshotGrids) (gnss : Gnss) (i : ℕ) :
    data'.point gnss i =
      set.bind fun set =>
        if i < set.size then
          ((data.points gnss).reverse.find? fun p => p.home set.width = i).map (·.load i)
        else none := by
  unfold CorrectionData.point
  rw [h, lookup_loadGrids set (nodup_snapshotGrids data), find?_snapshotGrids]
  by_cases hempty : data.points gnss = []
  · rw [if_pos hempty, hempty]
    cases set with
    | none => rfl
    | some set => simp
  · rw [if_neg hempty, Option.map_some, Option.bind_some]
    unfold loadGrid
    cases set with
    | none =>
      rw [getElem?_loadPoints]
      rfl
    | some set =>
      have hresize : (GridData.new.init set).gridPoints[i]? = _ := getElem?_resize [] set.size i
      rw [getElem?_loadPoints, hresize, Option.bind_some]
      have hwidth : (GridData.new.init set).numberOfStepsLongitude + 1 = set.width := rfl
      rw [hwidth]
      by_cases hi : i < set.size
      · rw [if_pos hi, if_pos hi]
        dsimp only
        cases (data.points gnss).reverse.find? fun p => p.home set.width = i with
        | none => rfl
        | some p => rfl
      · rw [if_neg hi, if_neg hi]
        rfl

/-! ### The ids of reachable data -/

/-- All keys are satellites as LPP names them. -/
def KeysNamed {α : Type} (t : Table SatelliteId α) : Prop := ∀ id, (t.lookup id).isSome → IsNamed id

theorem KeysNamed.insert {α : Type} {t : Table SatelliteId α} (h : KeysNamed t) {id : SatelliteId}
    (hid : IsNamed id) (a : α) : KeysNamed (t.insert id a) := by
  intro id' hid'
  rw [Table.lookup_insert] at hid'
  by_cases hsame : id' = id
  · exact hsame ▸ hid
  · rw [if_neg hsame] at hid'
    exact h id' hid'

/-- The residuals of a grid point are those of such satellites. -/
def PointNamed (point : GridPoint) : Prop := KeysNamed point.ionosphericResidual

/-- All satellites of the data have LPP numbers. -/
structure WellNamed (data : CorrectionData) : Prop where
  orbit : KeysNamed data.mOrbit
  clock : KeysNamed data.mClock
  signal : KeysNamed data.mSignal
  ionosphericPolynomial : KeysNamed data.mIonosphericPolynomial
  grid : ∀ gnss grid, data.mGrid.lookup gnss = some grid →
    ∀ point ∈ grid.gridPoints, PointNamed point

theorem keysNamed_empty {α : Type} : KeysNamed (∅ : Table SatelliteId α) := by
  rintro id ⟨⟩

theorem wellNamed_new : WellNamed .new where
  orbit := keysNamed_empty
  clock := keysNamed_empty
  signal := keysNamed_empty
  ionosphericPolynomial := keysNamed_empty
  grid _ _ h := by cases h

/-- The loop over satellites keeps what each satellite keeps. -/
theorem forSatellites_induction {α : Type} {gnss : Gnss} {svId : α → SvId}
    {add : SatelliteId → CorrectionData → α → CorrectionData} {p : CorrectionData → Prop}
    (hadd : ∀ id data a, IsNamed id → p data → p (add id data a)) {data : CorrectionData}
    (hdata : p data) (list : List α) :
    p (CorrectionData.forSatellites gnss svId add data list) := by
  unfold CorrectionData.forSatellites
  induction list generalizing data with
  | nil => exact hdata
  | cons a list ih =>
    rw [List.foldl_cons]
    refine ih ?_
    dsimp only
    by_cases hvalid : (SatelliteId.fromLpp gnss (svId a).1).isValid = true
    · rw [if_pos hvalid]
      exact hadd _ _ _ (isNamed_fromLpp hvalid) hdata
    · rw [if_neg hvalid]
      exact hdata

/-- The loop over the signals of a satellite, in the same way. -/
theorem foldl_induction {α β : Type} {f : β → α → β} {p : β → Prop}
    (hf : ∀ b a, p b → p (f b a)) {b : β} (hb : p b) (l : List α) : p (l.foldl f b) := by
  induction l generalizing b with
  | nil => exact hb
  | cons a l ih => exact ih (hf b a hb)

theorem WellNamed.addSignals {data : CorrectionData} (h : WellNamed data) {id : SatelliteId}
    (hid : IsNamed id) (signals : Table SatelliteId (Finset SignalId))
    (corrections : SignalCorrection) :
    WellNamed { data with mSignals := signals, mSignal := data.mSignal.insert id corrections } :=
  { h with signal := h.signal.insert hid corrections }

theorem forall_mem_modify {α : Type} {p : α → Prop} {f : α → α} (hf : ∀ a, p a → p (f a))
    {l : List α} (hl : ∀ a ∈ l, p a) (i : ℕ) : ∀ a ∈ l.modify i f, p a := by
  intro a ha
  obtain ⟨j, hj⟩ := List.mem_iff_getElem?.1 ha
  rw [List.getElem?_modify] at hj
  obtain ⟨b, hb, rfl⟩ := Option.map_eq_some_iff.1 hj
  have hpb := hl b (List.mem_of_getElem? hb)
  by_cases hij : i = j
  · rw [if_pos hij]
    exact hf b hpb
  · rw [if_neg hij]
    exact hpb

theorem pointNamed_addElement {gnss : Gnss} {point : GridPoint} (h : PointNamed point)
    (element : GridElement) : PointNamed (point.addElement gnss element) := by
  have hholding := congrArg Holding.residual (holding_addElement gnss point element)
  intro id hid
  have hid' : ((point.addElement gnss element).holding.residual id).isSome := hid
  rw [hholding] at hid'
  unfold Holding.over at hid'
  dsimp only at hid'
  cases hnew : (elementHolding gnss element).residual id with
  | none =>
    rw [hnew, Option.none_or] at hid'
    exact h id hid'
  | some residual =>
    -- the element lists the satellite
    obtain ⟨satellite, hfind, -⟩ := Option.map_eq_some_iff.1 hnew
    have hfound := List.find?_some hfind
    obtain ⟨hsat, hvalid⟩ := of_decide_eq_true hfound
    rw [hsat] at hvalid ⊢
    exact isNamed_fromLpp hvalid

/-- The grid of every system, after a gridded correction. -/
theorem pointNamed_addGridded {mGrid mGrid' : Table Gnss GridData} {gnss : Gnss}
    {set : CorrectionPointSet} {list : List GridElement}
    (h : ∀ gnss grid, mGrid.lookup gnss = some grid → ∀ point ∈ grid.gridPoints, PointNamed point)
    (hadd : addGridded mGrid gnss set list = some mGrid') :
    ∀ gnss grid, mGrid'.lookup gnss = some grid → ∀ point ∈ grid.gridPoints, PointNamed point := by
  -- the first loop keeps the residuals of the storage
  have haddPoints : ∀ (count : ℕ) (grid grid' : GridData),
      (∀ point ∈ grid.gridPoints, PointNamed point) → grid.addPoints set count = some grid' →
        ∀ point ∈ grid'.gridPoints, PointNamed point := by
    intro count
    induction count with
    | zero =>
      intro grid grid' hgrid hsome
      cases hsome
      exact hgrid
    | succ count ih =>
      intro grid grid' hgrid hsome
      unfold GridData.addPoints at hsome
      rw [List.range_succ, List.foldlM_append] at hsome
      obtain ⟨before, hbefore, hsome⟩ := Option.bind_eq_some_iff.1 hsome
      have hnamed := ih grid before hgrid hbefore
      cases hindex : set.arrayToIndex count with
      | none => simp [hindex] at hsome
      | some info =>
        simp only [List.foldlM_cons, hindex, Option.map_some, List.foldlM_nil] at hsome
        cases hsome
        unfold GridData.addPoint
        refine forall_mem_modify ?_ hnamed _
        exact fun _ hpoint => hpoint
  have hinit : ∀ grid : GridData, (∀ point ∈ grid.gridPoints, PointNamed point) →
      ∀ point ∈ (grid.init set).gridPoints, PointNamed point := by
    intro grid hgrid point hpoint
    rcases List.mem_append.1 hpoint with hold | hnew
    · exact hgrid point (List.mem_of_mem_take hold)
    · rw [(List.mem_replicate.1 hnew).2]
      exact keysNamed_empty
  have haddElements : ∀ grid : GridData, (∀ point ∈ grid.gridPoints, PointNamed point) →
      ∀ point ∈ (grid.addElements gnss list).gridPoints, PointNamed point := by
    intro grid hgrid
    unfold GridData.addElements
    refine foldl_induction (p := fun grid : GridData => ∀ point ∈ grid.gridPoints,
      PointNamed point) (fun grid e hgrid => ?_) hgrid _
    dsimp only
    split
    · exact hgrid
    · exact forall_mem_modify (fun _ hpoint => pointNamed_addElement hpoint _) hgrid _
  obtain ⟨grid, hgrid, rfl⟩ := Option.map_eq_some_iff.1 hadd
  have hprepared : ∀ point ∈ grid.gridPoints, PointNamed point := by
    unfold prepareGrid at hgrid
    cases hlookup : mGrid.lookup gnss with
    | none =>
      rw [hlookup] at hgrid
      exact haddPoints _ _ _ (hinit _ (by rintro _ ⟨⟩)) hgrid
    | some old =>
      rw [hlookup] at hgrid
      dsimp only at hgrid
      split_ifs at hgrid with hid
      · exact haddPoints _ _ _ (hinit _ (h gnss old hlookup)) hgrid
      · cases hgrid
        exact h gnss _ hlookup
  intro gnss' grid' hlookup
  rw [Table.lookup_insert] at hlookup
  by_cases hsame : gnss' = gnss
  · rw [if_pos hsame] at hlookup
    cases hlookup
    exact haddElements grid hprepared
  · rw [if_neg hsame] at hlookup
    exact h gnss' grid' hlookup

/-- Every correction keeps it. -/
theorem WellNamed.addCorrection {now : Timestamp} {gnss : Gnss} {cps : CorrectionPointSet}
    {data data' : CorrectionData} (h : WellNamed data) {correction : Correction}
    (hadd : data.addCorrection now gnss cps correction = some data') : WellNamed data' := by
  have htime : ∀ {data : CorrectionData} (t : Timestamp), WellNamed data →
      WellNamed (data.addTime t) := fun t h => { h with }
  cases correction with
  | orbit orbit =>
    cases hadd
    unfold CorrectionData.addOrbit
    refine forSatellites_induction ?_ (htime _ h) _
    exact fun id data a hid h => { h with orbit := h.orbit.insert hid _ }
  | clock clock =>
    cases hadd
    unfold CorrectionData.addClock
    refine forSatellites_induction ?_ (htime _ h) _
    exact fun id data a hid h => { h with clock := h.clock.insert hid _ }
  | codeBias codeBias =>
    cases hadd
    unfold CorrectionData.addCodeBias
    refine forSatellites_induction (fun id data a hid h => ?_) (htime _ h) _
    refine foldl_induction ?_ (h.addSignals hid _ _) _
    exact fun data signal h => h.addSignals hid _ _
  | phaseBias phaseBias =>
    cases hadd
    unfold CorrectionData.addPhaseBias
    refine forSatellites_induction (fun id data a hid h => ?_) (htime _ h) _
    refine foldl_induction ?_ (h.addSignals hid _ _) _
    exact fun data signal h => h.addSignals hid _ _
  | stec stec =>
    cases hadd
    unfold CorrectionData.addStec
    split_ifs with hid
    · exact h
    · have hpoints : WellNamed { data with correctionPointSet := some cps } := { h with }
      refine forSatellites_induction ?_ (htime _ hpoints) _
      exact fun id data a hid h =>
        { h with ionosphericPolynomial := h.ionosphericPolynomial.insert hid _ }
  | gridded grid =>
    unfold CorrectionData.addCorrection CorrectionData.addGridded at hadd
    dsimp only at hadd
    split_ifs at hadd with hid
    · cases hadd
      exact h
    · obtain ⟨mGrid, hgrid, rfl⟩ := Option.map_eq_some_iff.1 hadd
      exact { h with grid := pointNamed_addGridded h.grid hgrid }

/-- A run of the generator over the parts of messages. -/
def Generator.run (now : Timestamp) (generator : Generator) (inputs : List Input) :
    Option Generator :=
  inputs.foldlM (Generator.step now) generator

/-- **Reachable data are well named.** -/
theorem wellNamed_run {now : Timestamp} {inputs : List Input} {generator after : Generator}
    (h : WellNamed generator.data) (hrun : generator.run now inputs = some after) :
    WellNamed after.data := by
  unfold Generator.run at hrun
  induction inputs generalizing generator with
  | nil =>
    cases hrun
    exact h
  | cons input inputs ih =>
    rw [List.foldlM_cons] at hrun
    obtain ⟨next, hstep, hrun⟩ := Option.bind_eq_some_iff.1 hrun
    refine ih ?_ hrun
    cases input with
    | correctionPoints set =>
      cases hstep
      exact { h with }
    | correction gnssId correction =>
      unfold Generator.step at hstep
      dsimp only at hstep
      split at hstep
      next set gnss hset hgnss =>
        obtain ⟨data, hadd, rfl⟩ := Option.map_eq_some_iff.1 hstep
        have hdata : WellNamed { generator.data with correctionPointSet := some set } := { h with }
        exact hdata.addCorrection hadd
      next =>
        cases hstep
        exact h

/-! ### What is loaded -/

theorem loadBiases_frame (set : SignalId → BiasCorrection → SignalCorrection → SignalCorrection)
    (unset : Unset) (data : CorrectionData) (biases : List (SnapshotEntry BiasValues)) :
    (data.loadBiases set unset biases).mOrbit = data.mOrbit ∧
      (data.loadBiases set unset biases).mClock = data.mClock ∧
      (data.loadBiases set unset biases).correctionPointSet = data.correctionPointSet := by
  unfold CorrectionData.loadBiases
  refine foldl_induction (p := fun d : CorrectionData => d.mOrbit = data.mOrbit ∧
    d.mClock = data.mClock ∧ d.correctionPointSet = data.correctionPointSet)
    (fun d e hd => ?_) ⟨rfl, rfl, rfl⟩ _
  dsimp only
  split
  · exact hd
  · exact hd

/-- The correction point set that the loaded data have. -/
def loadedSet (input : SnapshotInput) : Option CorrectionPointSet :=
  if 0 < input.correctionPointSet.gridPointCount then some input.correctionPointSet else none

/-- The satellites that have biases. -/
def CorrectionData.HasBias (data : CorrectionData) (id : SatelliteId) : Prop :=
  ∃ signalId, (data.bias SignalCorrection.codeBias id signalId).isSome ∨
    (data.bias SignalCorrection.phaseBias id signalId).isSome

theorem isSome_of_bias {data : CorrectionData}
    {biases : SignalCorrection → Table SignalId BiasCorrection} {id : SatelliteId}
    {signalId : SignalId} (h : (data.bias biases id signalId).isSome) :
    (data.mSignal.lookup id).isSome := by
  unfold CorrectionData.bias at h
  cases hsignal : data.mSignal.lookup id with
  | none => rw [hsignal] at h; cases h
  | some corrections => rfl

theorem CorrectionData.HasBias.isSome {data : CorrectionData} {id : SatelliteId}
    (h : data.HasBias id) : (data.mSignal.lookup id).isSome := by
  obtain ⟨signalId, h | h⟩ := h
  · exact isSome_of_bias h
  · exact isSome_of_bias h

/-- The parts of loaded data, each from its list of the snapshot. -/
structure LoadedFrom (unset : Unset) (s : CorrectionSnapshot) (set : Option CorrectionPointSet)
    (data : CorrectionData) : Prop where
  orbit : data.mOrbit = loadEntries s.orbitCorrections fun v =>
    { unset.orbit with delta := v.delta, dotDelta := v.dotDelta, iod := v.iod }
  clock : data.mClock = loadEntries s.clockCorrections fun v =>
    { unset.clock with c0 := v.c0, c1 := v.c1, c2 := v.c2 }
  signals : ∀ id, data.HasSignals id → ∃ e ∈ s.codeBiases ++ s.phaseBiases, e.satelliteId = id
  ionosphericPolynomial : data.mIonosphericPolynomial = loadEntries s.ionosphericPolynomials id
  grid : data.mGrid = CorrectionData.loadGrids set s.gridData

theorem loadedFrom_loadSnapshot (unset : Unset) (target : Generator) (input : SnapshotInput) :
    LoadedFrom unset input.corrections (loadedSet input)
      (target.loadSnapshot unset input).data := by
  unfold Generator.loadSnapshot Generator.data CorrectionData.loadSnapshot
  dsimp only [Option.getD_some]
  obtain ⟨horbit, hclock, hset⟩ := loadBiases_frame (fun signalId bias corrections =>
    { corrections with codeBias := corrections.codeBias.insert signalId bias }) unset _
      input.corrections.codeBiases
  obtain ⟨horbit', hclock', hset'⟩ := loadBiases_frame (fun signalId bias corrections =>
    { corrections with phaseBias := corrections.phaseBias.insert signalId bias }) unset _
      input.corrections.phaseBiases
  refine ⟨horbit'.trans horbit, hclock'.trans hclock, fun id hid => ?_, rfl,
    congrArg (CorrectionData.loadGrids · input.corrections.gridData) (hset'.trans hset)⟩
  rcases hasSignals_loadBiases hid with hid | ⟨e, he, hid⟩
  · rcases hasSignals_loadBiases hid with hid | ⟨e, he, hid⟩
    · rcases hid with hid | hid <;> cases hid
    · exact ⟨e, List.mem_append_left _ he, hid⟩
  · exact ⟨e, List.mem_append_right _ he, hid⟩

/-- The satellites of loaded signals have biases in the snapshot, one satellite before. -/
theorem LoadedFrom.exists_hasBias {unset : Unset} {data loaded : CorrectionData}
    {set : Option CorrectionPointSet} (h : LoadedFrom unset data.snapshot set loaded)
    {id : SatelliteId} (hid : loaded.HasSignals id) : ∃ k, data.HasBias k ∧ reload k = id := by
  obtain ⟨e, he, hload⟩ := h.signals id hid
  rcases List.mem_append.1 he with hcode | hphase
  · obtain ⟨k, signalId, hk, hreload⟩ := mem_biasesOf hcode
    exact ⟨k, ⟨signalId, .inl hk⟩, hreload.symm.trans hload⟩
  · obtain ⟨k, signalId, hk, hreload⟩ := mem_biasesOf hphase
    exact ⟨k, ⟨signalId, .inr hk⟩, hreload.symm.trans hload⟩

/-! ### The condition -/

/-- No entry has a satellite id, and every valid grid point is where its row and its column are
in the correction point set. -/
structure Restorable (generator : Generator) : Prop where
  orbit : ∀ id, generator.data.mOrbit.lookup id = none
  clock : ∀ id, generator.data.mClock.lookup id = none
  bias : ∀ id, ¬generator.data.HasBias id
  signals : ∀ id, generator.data.mSignals.lookup id = none
  ionosphericPolynomial : ∀ id, generator.data.mIonosphericPolynomial.lookup id = none
  residual : ∀ gnss i point, generator.data.point gnss i = some point →
    ∀ id, point.ionosphericResidual.lookup id = none
  home : ∀ gnss i point, generator.data.point gnss i = some point →
    ∃ set, generator.mCorrectionPointSet = some set ∧ 0 < set.gridPointCount ∧ i < set.size ∧
      point.latitudeIndex * set.width + point.longitudeIndex = i

theorem isSome_eq_of_map {α β γ : Type} {f : α → γ} {g : β → γ} {a : Option α} {b : Option β}
    (h : a.map f = b.map g) : a.isSome = b.isSome := by
  simpa using congrArg Option.isSome h

/-- A grid point that is loaded is one of the snapshot, at its home. -/
theorem exists_of_point_loaded {data loaded : CorrectionData} {set : Option CorrectionPointSet}
    (h : loaded.mGrid = CorrectionData.loadGrids set data.snapshotGrids) {gnss : Gnss} {i : ℕ}
    {q : GridPoint} (hq : loaded.point gnss i = some q) :
    ∃ set', set = some set' ∧ i < set'.size ∧ ∃ j point, data.point gnss j = some point ∧
      point.latitudeIndex * set'.width + point.longitudeIndex = i ∧ q = point.snapshot.load i := by
  rw [point_loadGrids h] at hq
  cases set with
  | none => cases hq
  | some set =>
    rw [Option.bind_some] at hq
    split_ifs at hq with hi
    obtain ⟨p, hfind, rfl⟩ := Option.map_eq_some_iff.1 hq
    obtain ⟨j, point, hpoint, rfl⟩ :=
      mem_points.1 (List.mem_reverse.1 (List.mem_of_find?_eq_some hfind))
    have hhome := List.find?_some hfind
    exact ⟨set, rfl, hi, j, point, hpoint, of_decide_eq_true hhome, rfl⟩

/-- **Only restorable data make the round trip.** -/
theorem restorable_of_roundTrips {generator : Generator} (hnamed : WellNamed generator.data)
    (h : RoundTrips generator) : Restorable generator := by
  -- a correction point set without points, for a generator that has none
  let unsetPoints : CorrectionPointSet := ⟨0, 0, 0, 0, 0, 0, 0, 0, 0⟩
  let unset : Unset := ⟨⟨0, 0, 0, .zero, .zero⟩, ⟨0, 0, 0, 0, 0⟩, 0⟩
  obtain ⟨hrestores, -⟩ := h .new unset unsetPoints
  have hloaded := loadedFrom_loadSnapshot unset .new (generator.snapshot unsetPoints)
  revert hrestores hloaded
  generalize (Generator.new.loadSnapshot unset (generator.snapshot unsetPoints)).data = loaded
  intro hrestores hloaded
  have hbias : ∀ id, ¬generator.data.HasBias id := by
    refine none_of_reload (fun id hid => hnamed.signal id hid.isSome) fun id hid => ?_
    refine hloaded.exists_hasBias (.inl (CorrectionData.HasBias.isSome ?_))
    obtain ⟨signalId, hcode | hphase⟩ := hid
    · exact ⟨signalId, .inl (hrestores.codeBias id signalId ▸ hcode)⟩
    · exact ⟨signalId, .inr (hrestores.phaseBias id signalId ▸ hphase)⟩
  have hhome : ∀ gnss i point, generator.data.point gnss i = some point →
      ∃ set q j point', loadedSet (generator.snapshot unsetPoints) = some set ∧ i < set.size ∧
        point.latitudeIndex * set.width + point.longitudeIndex = i ∧
        generator.data.point gnss j = some point' ∧ q = point'.snapshot.load i ∧
        q.values = point.values := by
    intro gnss i point hpoint
    have hgrid := hrestores.grid gnss i
    rw [hpoint, Option.map_some, Option.map_eq_some_iff] at hgrid
    obtain ⟨q, hq, hvalues⟩ := hgrid
    obtain ⟨set, hset, hi, j, point', hpoint', hhome, hload⟩ :=
      exists_of_point_loaded hloaded.grid hq
    refine ⟨set, q, j, point', hset, hi, ?_, hpoint', hload, hvalues⟩
    have hlat := congrArg PointValues.latitudeIndex hvalues
    have hlon := congrArg PointValues.longitudeIndex hvalues
    rw [hload] at hlat hlon
    rw [← show point'.latitudeIndex = point.latitudeIndex from hlat,
      ← show point'.longitudeIndex = point.longitudeIndex from hlon, hhome]
  have hpoints : ∀ gnss i point, generator.data.point gnss i = some point →
      ∃ grid, generator.data.mGrid.lookup gnss = some grid ∧ point ∈ grid.gridPoints := by
    intro gnss i point hpoint
    obtain ⟨grid, hgrid, hpoint⟩ := Option.bind_eq_some_iff.1 hpoint
    exact ⟨grid, hgrid, List.mem_of_getElem? (Option.filter_eq_some_iff.1 hpoint).1⟩
  -- the satellites of residuals
  have hresidual : ∀ id, ¬∃ gnss i point, generator.data.point gnss i = some point ∧
      (point.ionosphericResidual.lookup id).isSome := by
    refine none_of_reload ?_ ?_
    · rintro id ⟨gnss, i, point, hpoint, hid⟩
      obtain ⟨grid, hgrid, hmem⟩ := hpoints gnss i point hpoint
      exact hnamed.grid gnss grid hgrid point hmem id hid
    · rintro id ⟨gnss, i, point, hpoint, hid⟩
      obtain ⟨set, q, j, point', -, -, -, hpoint', rfl, hvalues⟩ := hhome gnss i point hpoint
      have hlookup := congrFun (congrArg PointValues.residual hvalues) id
      obtain ⟨k, hk, hreload⟩ :=
        exists_of_load ((congrArg Option.isSome hlookup).trans hid)
      exact ⟨k, ⟨gnss, j, point', hpoint', hk⟩, hreload⟩
  exact
    { orbit := lookup_eq_none_of_load hnamed.orbit fun id => by
        have hsome := isSome_eq_of_map (hrestores.orbit id)
        rw [hloaded.orbit] at hsome
        exact hsome
      clock := lookup_eq_none_of_load hnamed.clock fun id => by
        have hsome := isSome_eq_of_map (hrestores.clock id)
        rw [hloaded.clock] at hsome
        exact hsome
      bias := hbias
      signals := fun id => by
        rw [← Option.not_isSome_iff_eq_none]
        intro hid
        obtain ⟨k, hk, -⟩ := hloaded.exists_hasBias (.inr (hrestores.signals id ▸ hid))
        exact hbias k hk
      ionosphericPolynomial := lookup_eq_none_of_load hnamed.ionosphericPolynomial fun id => by
        have hsome := congrArg Option.isSome (hrestores.ionosphericPolynomial id)
        rw [hloaded.ionosphericPolynomial] at hsome
        exact hsome
      residual := fun gnss i point hpoint id => by
        rw [← Option.not_isSome_iff_eq_none]
        exact fun hid => hresidual id ⟨gnss, i, point, hpoint, hid⟩
      home := fun gnss i point hpoint => by
        obtain ⟨set, -, -, -, hset, hi, hhome, -⟩ := hhome gnss i point hpoint
        unfold loadedSet Generator.snapshot at hset
        split_ifs at hset with hcount
        cases hgenerator : generator.mCorrectionPointSet with
        | none =>
          rw [hgenerator] at hcount
          cases hcount
        | some set' =>
          rw [hgenerator] at hset hcount
          cases hset
          exact ⟨_, rfl, hcount, hi, hhome⟩ }

/-! ### Restorable data -/

/-- A list, index by index. -/
theorem map_filter_eq_filterMap_range {α β : Type} (p : α → Bool) (f : α → β) (l : List α) :
    ∀ n, l.length ≤ n →
      (l.filter p).map f = (List.range n).filterMap fun i => (l[i]?.filter p).map f := by
  induction l with
  | nil => simp
  | cons a l ih =>
    intro n hn
    obtain ⟨n, rfl⟩ : ∃ m, n = m + 1 := ⟨n - 1, by simp at hn; omega⟩
    rw [List.range_succ_eq_map, List.filterMap_cons, List.filterMap_map]
    have htail : (List.range n).filterMap ((fun i => ((a :: l)[i]?.filter p).map f) ∘ Nat.succ) =
        (l.filter p).map f := (ih n (by simpa using hn)).symm
    rw [htail, List.getElem?_cons_zero]
    by_cases hp : p a = true
    · simp [Option.filter, hp]
    · simp [Option.filter, hp]

/-- Data with the same points, index by index, have the same points in their snapshots. -/
theorem points_congr {data data' : CorrectionData} {gnss : Gnss}
    (h : ∀ i, (data.point gnss i).map GridPoint.snapshot =
      (data'.point gnss i).map GridPoint.snapshot) : data.points gnss = data'.points gnss := by
  have hlist : ∀ data : CorrectionData, ∃ n, ∀ m, n ≤ m → data.points gnss =
      (List.range m).filterMap fun i => (data.point gnss i).map GridPoint.snapshot := by
    intro data
    unfold CorrectionData.points CorrectionData.point
    cases data.mGrid.lookup gnss with
    | none => exact ⟨0, fun m _ => by simp⟩
    | some grid => exact ⟨grid.gridPoints.length, map_filter_eq_filterMap_range _ _ _⟩
  obtain ⟨n, hn⟩ := hlist data
  obtain ⟨n', hn'⟩ := hlist data'
  rw [hn (max n n') (le_max_left _ _), hn' (max n n') (le_max_right _ _)]
  exact List.filterMap_congr fun i _ => h i

theorem SameGrid.refl (e : SnapshotGridData) : SameGrid e e :=
  ⟨rfl, List.forall₂_same.2 fun _ _ => ⟨rfl, List.Perm.refl _⟩⟩

section Restorable

variable {generator : Generator} (h : Restorable generator)
include h

/-- The grid points of restorable data are loaded where they were. -/
theorem Restorable.point_loaded {loaded : CorrectionData} {unsetPoints : CorrectionPointSet}
    (hgrid : loaded.mGrid = CorrectionData.loadGrids (loadedSet (generator.snapshot unsetPoints))
      generator.data.snapshotGrids) (gnss : Gnss) (i : ℕ) :
    loaded.point gnss i = (generator.data.point gnss i).map (·.snapshot.load i) := by
  -- the point that is loaded to an index was there
  have hsame : ∀ j point set, generator.data.point gnss j = some point →
      loadedSet (generator.snapshot unsetPoints) = some set →
        point.latitudeIndex * set.width + point.longitudeIndex = j ∧ j < set.size := by
    intro j point set hpoint hset
    obtain ⟨set', hset', hcount, hj, hhome⟩ := h.home gnss j point hpoint
    have hloaded : loadedSet (generator.snapshot unsetPoints) = some set' := by
      unfold loadedSet Generator.snapshot
      rw [hset', Option.getD_some, if_pos hcount]
    cases hset.symm.trans hloaded
    exact ⟨hhome, hj⟩
  cases hpoint : generator.data.point gnss i with
  | none =>
    cases hq : loaded.point gnss i with
    | none => rfl
    | some q =>
      obtain ⟨set, hset, -, j, point, hpoint', hhome, -⟩ := exists_of_point_loaded hgrid hq
      obtain rfl : j = i := (hsame j point set hpoint' hset).1.symm.trans hhome
      rw [hpoint] at hpoint'
      cases hpoint'
  | some point =>
    obtain ⟨set, hset, hcount, hi, hhome⟩ := h.home gnss i point hpoint
    have hloaded : loadedSet (generator.snapshot unsetPoints) = some set := by
      unfold loadedSet Generator.snapshot
      rw [hset, Option.getD_some, if_pos hcount]
    cases hq : loaded.point gnss i with
    | none =>
      -- there is a point to load
      have hfind := hq
      rw [point_loadGrids hgrid, hloaded, Option.bind_some, if_pos hi, Option.map_eq_none_iff,
        List.find?_eq_none] at hfind
      refine absurd ?_ (hfind point.snapshot
        (List.mem_reverse.2 (mem_points.2 ⟨i, point, hpoint, rfl⟩)))
      exact decide_eq_true hhome
    | some q =>
      obtain ⟨set', hset', -, j, point', hpoint', hhome', rfl⟩ :=
        exists_of_point_loaded hgrid hq
      obtain rfl : j = i := (hsame j point' set' hpoint' hset').1.symm.trans hhome'
      rw [hpoint] at hpoint'
      cases hpoint'
      rfl

/-- Without residuals a loaded point is listed as it was. -/
theorem Restorable.snapshot_load {gnss : Gnss} {i : ℕ} {point : GridPoint}
    (hpoint : generator.data.point gnss i = some point) :
    (point.snapshot.load i).values = point.values ∧
      (point.snapshot.load i).snapshot = point.snapshot := by
  have hnone := h.residual gnss i point hpoint
  have hempty : entriesOf point.ionosphericResidual id = [] := entriesOf_eq_nil id hnone
  unfold GridPoint.snapshot SnapshotGridPoint.load GridPoint.values
  dsimp only
  rw [hempty]
  refine ⟨?_, rfl⟩
  have hresidual : point.ionosphericResidual.lookup = fun _ => none := funext hnone
  rw [hresidual]
  rfl

/-- **Restorable data make the round trip.** -/
theorem Restorable.roundTrips : RoundTrips generator := by
  intro target unset unsetPoints
  have hloaded := loadedFrom_loadSnapshot unset target (generator.snapshot unsetPoints)
  dsimp only
  revert hloaded
  generalize (target.loadSnapshot unset (generator.snapshot unsetPoints)).data = loaded
  intro hloaded
  -- nothing is listed but grid points
  have horbit : generator.data.snapshot.orbitCorrections = [] := entriesOf_eq_nil _ h.orbit
  have hclock : generator.data.snapshot.clockCorrections = [] := entriesOf_eq_nil _ h.clock
  have hpolynomial : generator.data.snapshot.ionosphericPolynomials = [] :=
    entriesOf_eq_nil _ h.ionosphericPolynomial
  have hbias : ∀ id signalId,
      generator.data.bias SignalCorrection.codeBias id signalId = none ∧
        generator.data.bias SignalCorrection.phaseBias id signalId = none := by
    intro id signalId
    rw [← Option.not_isSome_iff_eq_none, ← Option.not_isSome_iff_eq_none]
    exact ⟨fun hcode => h.bias id ⟨signalId, .inl hcode⟩,
      fun hphase => h.bias id ⟨signalId, .inr hphase⟩⟩
  have hcodeBiases : generator.data.snapshot.codeBiases = [] :=
    biasesOf_eq_nil fun id signalId => (hbias id signalId).1
  have hphaseBiases : generator.data.snapshot.phaseBiases = [] :=
    biasesOf_eq_nil fun id signalId => (hbias id signalId).2
  -- and nothing else is loaded
  have hloadedOrbit : ∀ id, loaded.mOrbit.lookup id = none := fun id => by
    rw [hloaded.orbit]
    show (loadEntries generator.data.snapshot.orbitCorrections _).lookup id = none
    rw [horbit]
    rfl
  have hloadedClock : ∀ id, loaded.mClock.lookup id = none := fun id => by
    rw [hloaded.clock]
    show (loadEntries generator.data.snapshot.clockCorrections _).lookup id = none
    rw [hclock]
    rfl
  have hloadedPolynomial : ∀ id, loaded.mIonosphericPolynomial.lookup id = none := fun id => by
    rw [hloaded.ionosphericPolynomial]
    show (loadEntries generator.data.snapshot.ionosphericPolynomials _).lookup id = none
    rw [hpolynomial]
    rfl
  have hloadedSignals : ∀ id, ¬loaded.HasSignals id := fun id hid => by
    obtain ⟨k, hk, -⟩ := LoadedFrom.exists_hasBias hloaded hid
    exact h.bias k hk
  have hloadedBias : ∀ biases id signalId, loaded.bias biases id signalId = none := by
    intro biases id signalId
    rw [← Option.not_isSome_iff_eq_none]
    exact fun hsome => hloadedSignals id (.inl (isSome_of_bias hsome))
  have hpoint := h.point_loaded hloaded.grid
  have hpoints : ∀ gnss, generator.data.points gnss = loaded.points gnss := by
    intro gnss
    refine points_congr fun i => ?_
    rw [hpoint gnss i]
    cases hi : generator.data.point gnss i with
    | none => rfl
    | some point =>
      exact congrArg some (h.snapshot_load hi).2.symm
  refine ⟨?_, ?_⟩
  · exact
      { orbit := fun id => by rw [hloadedOrbit, h.orbit]
        clock := fun id => by rw [hloadedClock, h.clock]
        codeBias := fun id signalId => by rw [hloadedBias, (hbias id signalId).1]
        phaseBias := fun id signalId => by rw [hloadedBias, (hbias id signalId).2]
        ionosphericPolynomial := fun id => by
          rw [hloadedPolynomial, h.ionosphericPolynomial]
        grid := fun gnss i => by
          rw [hpoint gnss i]
          cases hi : generator.data.point gnss i with
          | none => rfl
          | some point => exact congrArg some (h.snapshot_load hi).1
        signals := fun id => by
          rw [h.signals id, ← Option.not_isSome_iff_eq_none]
          exact fun hid => hloadedSignals id (.inr hid) }
  · have hgrids : loaded.snapshotGrids.Perm generator.data.snapshotGrids := by
      refine (List.perm_ext_iff_of_nodup (nodup_snapshotGrids loaded).of_map
        (nodup_snapshotGrids generator.data).of_map).2 fun e => ?_
      rw [mem_snapshotGrids, mem_snapshotGrids, hpoints]
    refine ⟨?_, ?_, ?_, ?_, ?_, ?_⟩
    · rw [horbit]
      exact (List.Perm.of_eq (entriesOf_eq_nil _ hloadedOrbit)).symm
    · rw [hclock]
      exact (List.Perm.of_eq (entriesOf_eq_nil _ hloadedClock)).symm
    · rw [hcodeBiases]
      exact (List.Perm.of_eq (biasesOf_eq_nil (hloadedBias _))).symm
    · rw [hphaseBiases]
      exact (List.Perm.of_eq (biasesOf_eq_nil (hloadedBias _))).symm
    · rw [hpolynomial]
      exact (List.Perm.of_eq (entriesOf_eq_nil _ hloadedPolynomial)).symm
    · exact ⟨_, hgrids, List.forall₂_same.2 fun e _ => SameGrid.refl e⟩

end Restorable

/-- **The round trip** of a reachable state succeeds exactly if it is restorable. -/
theorem snapshot_roundTrips_iff {now : Timestamp} {inputs : List Input} {generator : Generator}
    (h : Generator.new.run now inputs = some generator) :
    RoundTrips generator ↔ Restorable generator := by
  have hnew : WellNamed Generator.new.data := wellNamed_new
  exact ⟨restorable_of_roundTrips (wellNamed_run hnew h), Restorable.roundTrips⟩

/-- A row of two nodes. -/
def twoNodes : CorrectionPointSet where
  setId := 1
  gridPointCount := 2
  referencePointLatitude := 60
  referencePointLongitude := 20
  stepOfLatitude := 1
  stepOfLongitude := 1
  numberOfStepsLatitude := 0
  numberOfStepsLongitude := 1
  bitmask := 0xC000000000000000#64

/-- Troposphere corrections for the two nodes. -/
def troposphereCorrection : Input :=
  .correction .gps (.gridded
    { epochTime := ⟨.gps, ⟨0, Asn.Integer.mem⟩, ⟨0, Asn.Integer.mem⟩, none⟩
      iodSsr := ⟨0, Asn.Integer.mem⟩
      troposphericDelayQualityIndicator := none
      correctionPointSetId := ⟨1, Asn.Integer.mem⟩
      gridList := ⟨[⟨some ⟨⟨0, Asn.Integer.mem_neg⟩, ⟨0, Asn.Integer.mem_neg⟩⟩, none⟩,
        ⟨some ⟨⟨1, Asn.Integer.mem_neg⟩, ⟨1, Asn.Integer.mem_neg⟩⟩, none⟩], by decide⟩ })

theorem lookup_eq_none_of_keys {κ α : Type} [DecidableEq κ] {t : Table κ α} (h : t.keys = [])
    (k : κ) : t.lookup k = none := by
  rw [AList.lookup_eq_none, AList.mem_keys, h]
  exact List.not_mem_nil

/-- Points without residuals, at their home in the set. -/
theorem roundTrips_troposphere : ∃ generator,
    Generator.new.run 0 [.correctionPoints twoNodes, troposphereCorrection] = some generator ∧
      RoundTrips generator := by
  have hset : (Generator.new.run 0 [.correctionPoints twoNodes, troposphereCorrection]).map
      (·.mCorrectionPointSet) = some (some twoNodes) := by
    decide +kernel
  have hkeys : (Generator.new.run 0 [.correctionPoints twoNodes, troposphereCorrection]).map
      (fun generator => [generator.data.mOrbit.keys, generator.data.mClock.keys,
        generator.data.mSignal.keys, generator.data.mSignals.keys,
        generator.data.mIonosphericPolynomial.keys]) = some [[], [], [], [], []] := by
    decide +kernel
  have hgrids : (Generator.new.run 0 [.correctionPoints twoNodes, troposphereCorrection]).map
      (·.data.mGrid.keys) = some [.gps] := by
    decide +kernel
  have hgrid : (Generator.new.run 0 [.correctionPoints twoNodes, troposphereCorrection]).bind
      (fun generator => (generator.data.mGrid.lookup .gps).map fun grid =>
        grid.gridPoints.map fun point => (point.latitudeIndex, point.longitudeIndex,
          point.ionosphericResidual.keys)) = some [(0, 0, []), (0, 1, [])] := by
    decide +kernel
  obtain ⟨generator, hsome, hset⟩ := Option.map_eq_some_iff.1 hset
  rw [hsome, Option.map_some, Option.some.injEq] at hkeys hgrids
  rw [hsome, Option.bind_some] at hgrid
  simp only [List.cons.injEq, and_true] at hkeys
  obtain ⟨horbit, hclock, hsignal, hsignals, hpolynomial⟩ := hkeys
  -- the points of GPS are the only ones
  have hpoint : ∀ gnss i point, generator.data.point gnss i = some point →
      (point.latitudeIndex, point.longitudeIndex, point.ionosphericResidual.keys) = (0, i, []) ∧
        i < 2 := by
    intro gnss i point hpoint
    obtain ⟨grid, hlookup, hfilter⟩ := Option.bind_eq_some_iff.1 hpoint
    have hgnss : gnss ∈ generator.data.mGrid.keys := by
      rw [← AList.mem_keys, ← AList.lookup_isSome, hlookup]
      rfl
    rw [hgrids, List.mem_singleton] at hgnss
    subst hgnss
    rw [hlookup, Option.map_some, Option.some.injEq] at hgrid
    have hmem : _ = ([(0, 0, []), (0, 1, [])] : List (ℕ × ℕ × List SatelliteId))[i]? :=
      congrArg (·[i]?) hgrid
    rw [List.getElem?_map, (Option.filter_eq_some_iff.1 hfilter).1, Option.map_some] at hmem
    match i with
    | 0 => exact ⟨Option.some.inj hmem, by decide⟩
    | 1 => exact ⟨Option.some.inj hmem, by decide⟩
    | i + 2 => cases hmem
  refine ⟨generator, hsome, (snapshot_roundTrips_iff hsome).2 ?_⟩
  exact
    { orbit := lookup_eq_none_of_keys horbit
      clock := lookup_eq_none_of_keys hclock
      bias := fun id hid => by
        have hsome := hid.isSome
        rw [lookup_eq_none_of_keys hsignal] at hsome
        cases hsome
      signals := lookup_eq_none_of_keys hsignals
      ionosphericPolynomial := lookup_eq_none_of_keys hpolynomial
      residual := fun gnss i point h => by
        obtain ⟨hvalues, -⟩ := hpoint gnss i point h
        exact lookup_eq_none_of_keys (congrArg (·.2.2) hvalues)
      home := fun gnss i point h => by
        obtain ⟨hvalues, hi⟩ := hpoint gnss i point h
        refine ⟨twoNodes, hset, by decide, hi, ?_⟩
        rw [show point.latitudeIndex = 0 from congrArg (·.1) hvalues,
          show point.longitudeIndex = i from congrArg (·.2.1) hvalues, Nat.zero_mul,
          Nat.zero_add] }

/-- A clock correction of the first GPS satellite. -/
def clockCorrection : Input :=
  .correction .gps (.clock
    { epochTime := ⟨.gps, ⟨0, Asn.Integer.mem⟩, ⟨0, Asn.Integer.mem⟩, none⟩
      iodSsr := ⟨0, Asn.Integer.mem⟩
      ssrUpdateInterval := ⟨0, Asn.Integer.mem⟩
      ssrClockCorrectionList := ⟨[⟨⟨0, Asn.Integer.mem⟩, ⟨1, by decide⟩, none, none⟩], by decide⟩ })

/-- The clock correction of the first GPS satellite is loaded for the second. -/
theorem not_roundTrips_clock :
    ¬∀ (now : Timestamp) (inputs : List Input) (generator : Generator),
      Generator.new.run now inputs = some generator → RoundTrips generator := by
  intro h
  have hrun : (Generator.new.run 0 [.correctionPoints twoNodes, clockCorrection]).map
      (fun generator => (generator.data.mClock.lookup ⟨.gps, 0⟩).isSome) = some true := by
    decide +kernel
  obtain ⟨generator, hsome, hclock⟩ := Option.map_eq_some_iff.1 hrun
  have hnew : WellNamed Generator.new.data := wellNamed_new
  have hrestorable := restorable_of_roundTrips (wellNamed_run hnew hsome) (h _ _ _ hsome)
  rw [hrestorable.clock] at hclock
  cases hclock

end SuplLpp.Tokoro
