import SuplLpp.Gnss.Ids
import SuplLpp.Lib.Table
import SuplLpp.Tokoro.Set

/-!
# Gridded corrections

For each system the generator keeps the grid of its last gridded corrections.  A correction for
another correction point set prepares the grid again, in the storage that is there.

* `GridPoint`, `GridData` and their operations; `addGridded`, the gridded part of
  `add_correction`;
* `Holding`, the values of a grid point, and what an element of the list adds to it;
* `Reference`, what the points of a grid should hold: the values of the corrections since the
  correction point set changed; `Mapped`, a grid that holds exactly this.
-/

namespace SuplLpp.Tokoro

open Asn

/-! ### Grids -/

structure GridPoint where
  valid : Bool
  tropsphericValid : Bool
  ionosphericValid : Bool
  position : Float3
  arrayIndex : ℕ
  absoluteIndex : ℕ
  latitudeIndex : ℕ
  longitudeIndex : ℕ
  ionosphericResidual : Table SatelliteId ℚ
  troposphericWet : ℚ
  troposphericDry : ℚ

/-- A grid point that `resize` adds: all members are zero. -/
def GridPoint.new : GridPoint where
  valid := false
  tropsphericValid := false
  ionosphericValid := false
  position := .zero
  arrayIndex := 0
  absoluteIndex := 0
  latitudeIndex := 0
  longitudeIndex := 0
  ionosphericResidual := ∅
  troposphericWet := 0
  troposphericDry := 0

structure GridData where
  correctionPointSetId : ℕ
  deltaLatitude : ℚ
  deltaLongitude : ℚ
  numberOfStepsLatitude : ℕ
  numberOfStepsLongitude : ℕ
  gridPoints : List GridPoint

/-- The grid of a system that had none. -/
def GridData.new : GridData := ⟨0, 0, 0, 0, 0, []⟩

/-- `std::vector::resize`. -/
def resize (points : List GridPoint) (n : ℕ) : List GridPoint :=
  points.take n ++ List.replicate (n - points.length) .new

/-- What `add_point` sets; the values stay. -/
def GridPoint.place (point : GridPoint) (info : CorrectionPointInfo) : GridPoint :=
  { point with
    valid := info.isValid
    position := info.position
    arrayIndex := info.arrayIndex
    absoluteIndex := info.absoluteIndex
    tropsphericValid := false
    ionosphericValid := false
    latitudeIndex := info.latitudeIndex
    longitudeIndex := info.longitudeIndex }

namespace GridData

/-- `GridData::init`. -/
def init (grid : GridData) (set : CorrectionPointSet) : GridData where
  correctionPointSetId := set.setId
  deltaLatitude := set.stepOfLatitude
  deltaLongitude := set.stepOfLongitude
  numberOfStepsLatitude := set.numberOfStepsLatitude
  numberOfStepsLongitude := set.numberOfStepsLongitude
  gridPoints := resize grid.gridPoints set.size

/-- `GridData::add_point`. -/
def addPoint (grid : GridData) (info : CorrectionPointInfo) : GridData :=
  { grid with gridPoints := grid.gridPoints.modify info.absoluteIndex (·.place info) }

/-- `GridData::point_from_array_index`, by its place in the grid. -/
def pointFromArrayIndex (grid : GridData) (arrayIndex : ℕ) : Option ℕ :=
  grid.gridPoints.findIdx? fun point => point.arrayIndex == arrayIndex

/-- The first loop of `add_correction`: a point for each of `count` elements.  There is no
result where `array_to_index` fails: the source goes on with members that were never set. -/
def addPoints (grid : GridData) (set : CorrectionPointSet) (count : ℕ) : Option GridData :=
  (List.range count).foldlM (fun grid i => (set.arrayToIndex i).map grid.addPoint) grid

end GridData

/-! ### Values -/

/-- `decode::tropo_wet_vertical_delay_r16` and `decode::tropo_hydro_static_vertical_delay_r16`,
with what `add_correction` adds to them. -/
def troposphere (tropo : TropospericDelayCorrection) : ℚ × ℚ :=
  (tropo.tropoWetVerticalDelay.1 * 0.004 + 0.252,
    tropo.tropoHydroStaticVerticalDelay.1 * 0.004 + 2.3)

/-- `decode::stec_residual_correction_r16`. -/
def stecResidualCorrection (satellite : StecResidualSatElement) : ℚ :=
  match satellite.stecResidualCorrection with
  | .b7 value => value.1 * 0.04
  | .b16 value => value.1 * 0.04

namespace GridPoint

/-- The loop over the satellites of an element. -/
def addResidual (gnss : Gnss) (point : GridPoint) (satellite : StecResidualSatElement) :
    GridPoint :=
  let satelliteId := SatelliteId.fromLpp gnss satellite.svId.1
  if satelliteId.isValid then
    { point with
      ionosphericValid := true
      ionosphericResidual :=
        point.ionosphericResidual.insert satelliteId (stecResidualCorrection satellite) }
  else point

/-- The body of the second loop of `add_correction`. -/
def addElement (gnss : Gnss) (point : GridPoint) (element : GridElement) : GridPoint :=
  let point :=
    match element.tropospericDelayCorrection with
    | none => point
    | some tropo =>
        { point with
          tropsphericValid := true
          troposphericWet := (troposphere tropo).1
          troposphericDry := (troposphere tropo).2 }
  match element.stecResidualSatList with
  | none => point
  | some list => list.1.foldl (addResidual gnss) point

end GridPoint

/-- The second loop of `add_correction`. -/
def GridData.addElements (grid : GridData) (gnss : Gnss) (list : List GridElement) : GridData :=
  list.zipIdx.foldl
    (fun grid (element, i) =>
      match grid.pointFromArrayIndex i with
      | none => grid
      | some place =>
          { grid with gridPoints := grid.gridPoints.modify place (·.addElement gnss element) })
    grid

/-- The grid of a system as the second loop finds it: prepared for the set, unless it has the id
of the set. -/
def prepareGrid (old : Option GridData) (set : CorrectionPointSet) (count : ℕ) :
    Option GridData :=
  match old with
  | none => (GridData.new.init set).addPoints set count
  | some grid =>
      if grid.correctionPointSetId ≠ set.setId then (grid.init set).addPoints set count
      else some grid

/-- `add_correction` for a gridded correction of the set, on the grids of the systems. -/
def addGridded (mGrid : Table Gnss GridData) (gnss : Gnss) (set : CorrectionPointSet)
    (list : List GridElement) : Option (Table Gnss GridData) :=
  (prepareGrid (mGrid.lookup gnss) set list.length).map fun grid =>
    mGrid.insert gnss (grid.addElements gnss list)

/-! ### What a point holds -/

/-- The values of a point: the troposphere, wet and dry, and the residual of each satellite. -/
@[ext] structure Holding where
  troposphere : Option (ℚ × ℚ)
  residual : SatelliteId → Option ℚ

def Holding.empty : Holding := ⟨none, fun _ => none⟩

/-- The values that the interpolation finds at a point; it asks the table of residuals only. -/
def GridPoint.holding (point : GridPoint) : Holding where
  troposphere :=
    if point.tropsphericValid then some (point.troposphericWet, point.troposphericDry) else none
  residual := point.ionosphericResidual.lookup

/-- The residual that an element lists for a satellite, the last one if there are several. -/
def residualOf (gnss : Gnss) (satellites : List StecResidualSatElement) (id : SatelliteId) :
    Option ℚ :=
  (satellites.reverse.find? fun satellite =>
    id = SatelliteId.fromLpp gnss satellite.svId.1 ∧ id.isValid).map stecResidualCorrection

/-- The values of an element. -/
def elementHolding (gnss : Gnss) (element : GridElement) : Holding where
  troposphere := element.tropospericDelayCorrection.map Tokoro.troposphere
  residual := residualOf gnss (element.stecResidualSatList.elim [] (·.1))

/-- Newer values before older ones. -/
def Holding.over (new old : Holding) : Holding where
  troposphere := new.troposphere.or old.troposphere
  residual id := (new.residual id).or (old.residual id)

theorem lookup_foldl_addResidual (gnss : Gnss) (satellites : List StecResidualSatElement)
    (point : GridPoint) (id : SatelliteId) :
    (satellites.foldl (GridPoint.addResidual gnss) point).ionosphericResidual.lookup id =
      (residualOf gnss satellites id).or (point.ionosphericResidual.lookup id) := by
  induction satellites using List.reverseRecOn with
  | nil => rfl
  | append_singleton satellites satellite ih =>
    rw [List.foldl_append, List.foldl_cons, List.foldl_nil, GridPoint.addResidual]
    unfold residualOf at ih ⊢
    rw [List.reverse_append, List.reverse_singleton, List.singleton_append, List.find?_cons]
    by_cases hvalid : (SatelliteId.fromLpp gnss satellite.svId.1).isValid = true
    · rw [if_pos hvalid]
      dsimp only
      rw [Table.lookup_insert]
      by_cases hid : id = SatelliteId.fromLpp gnss satellite.svId.1
      · rw [if_pos hid, decide_eq_true ⟨hid, hid ▸ hvalid⟩]
        rfl
      · rw [if_neg hid, decide_eq_false fun h => hid h.1]
        exact ih
    · have hid : ¬(id = SatelliteId.fromLpp gnss satellite.svId.1 ∧ id.isValid = true) :=
        fun h => hvalid (h.1 ▸ h.2)
      rw [if_neg hvalid, decide_eq_false hid]
      exact ih

/-- A point without its residuals. -/
def GridPoint.core (point : GridPoint) : GridPoint :=
  { point with ionosphericValid := false, ionosphericResidual := ∅ }

theorem core_foldl_addResidual (gnss : Gnss) (satellites : List StecResidualSatElement)
    (point : GridPoint) :
    (satellites.foldl (GridPoint.addResidual gnss) point).core = point.core := by
  induction satellites generalizing point with
  | nil => rfl
  | cons satellite satellites ih =>
    rw [List.foldl_cons, ih]
    unfold GridPoint.addResidual
    dsimp only
    split <;> rfl

theorem foldl_addResidual_frame (gnss : Gnss) (satellites : List StecResidualSatElement)
    (point : GridPoint) :
    let after := satellites.foldl (GridPoint.addResidual gnss) point
    after.valid = point.valid ∧ after.position = point.position ∧
      after.arrayIndex = point.arrayIndex ∧ after.tropsphericValid = point.tropsphericValid ∧
      after.troposphericWet = point.troposphericWet ∧
      after.troposphericDry = point.troposphericDry := by
  have hcore := core_foldl_addResidual gnss satellites point
  simp only [GridPoint.core, GridPoint.mk.injEq] at hcore
  obtain ⟨hvalid, htropo, -, hposition, harray, -, -, -, -, hwet, hdry⟩ := hcore
  exact ⟨hvalid, hposition, harray, htropo, hwet, hdry⟩

/-- An element leaves a point where it is. -/
theorem addElement_frame (gnss : Gnss) (point : GridPoint) (element : GridElement) :
    (point.addElement gnss element).valid = point.valid ∧
      (point.addElement gnss element).position = point.position ∧
      (point.addElement gnss element).arrayIndex = point.arrayIndex := by
  obtain ⟨tropo, list⟩ := element
  unfold GridPoint.addElement
  cases list with
  | none => cases tropo <;> exact ⟨rfl, rfl, rfl⟩
  | some list =>
    cases tropo
    all_goals
      obtain ⟨hvalid, hposition, harray, -⟩ := foldl_addResidual_frame gnss list.1 _
      exact ⟨hvalid, hposition, harray⟩

/-- **What an element adds**: its values go before the ones that were there. -/
theorem holding_addElement (gnss : Gnss) (point : GridPoint) (element : GridElement) :
    (point.addElement gnss element).holding =
      (elementHolding gnss element).over point.holding := by
  obtain ⟨tropo, list⟩ := element
  have htropo : ∀ (list : List StecResidualSatElement) (point : GridPoint),
      (list.foldl (GridPoint.addResidual gnss) point).holding =
        ⟨point.holding.troposphere, fun id =>
          (residualOf gnss list id).or (point.holding.residual id)⟩ := by
    intro list point
    obtain ⟨-, -, -, hvalid, hwet, hdry⟩ := foldl_addResidual_frame gnss list point
    ext1
    · simp only [GridPoint.holding, hvalid, hwet, hdry]
    · funext id
      exact lookup_foldl_addResidual gnss list point id
  unfold GridPoint.addElement
  cases list with
  | none => cases tropo <;> rfl
  | some list => cases tropo <;> exact htropo list.1 _

/-! ### What a grid should hold -/

/-- The values that the points of a system should hold, for its correction point set. -/
structure Reference where
  set : CorrectionPointSet
  holding : ℕ → Holding

namespace Reference

/-- What is left of the values for a correction of the set: all of them if the set is the same,
none otherwise. -/
def kept (before : Option Reference) (set : CorrectionPointSet) (i : ℕ) : Holding :=
  match before with
  | none => .empty
  | some r => if r.set = set then r.holding i else .empty

/-- The values after a correction of the set: the node with `k` set bits before it has element
`k`. -/
def after (before : Option Reference) (gnss : Gnss) (set : CorrectionPointSet)
    (list : List GridElement) : Reference where
  set := set
  holding i :=
    if set.present i then
      match list[set.rank i]? with
      | some element => (elementHolding gnss element).over (kept before set i)
      | none => kept before set i
    else .empty

end Reference

/-- The points of the grid are the nodes of the set.  The ones with corrections have their
position and their values; the others have none. -/
structure Mapped (grid : GridData) (r : Reference) : Prop where
  size : grid.gridPoints.length = r.set.size
  valid : ∀ i point, grid.gridPoints[i]? = some point → point.valid = r.set.present i
  position : ∀ i point, grid.gridPoints[i]? = some point →
    point.position = if point.valid then r.set.position i else .zero
  holding : ∀ i point, grid.gridPoints[i]? = some point → point.holding = r.holding i

/-- A grid that the code keeps right: the set bits of its set come first, and the points with
corrections have their own index as index in the list. -/
structure Grounded (grid : GridData) (r : Reference) : Prop extends Mapped grid r where
  setId : grid.correctionPointSetId = r.set.setId
  dense : r.set.Dense
  arrayIndex : ∀ i (point : GridPoint), grid.gridPoints[i]? = some point → point.valid →
    point.arrayIndex = i
  empty : ∀ i, r.set.present i = false → r.holding i = .empty

/-! ### The loops -/

theorem getElem?_resize (points : List GridPoint) (n i : ℕ) :
    (resize points n)[i]? = if i < n then some (points[i]?.getD .new) else none := by
  unfold resize
  by_cases hi : i < n
  · rw [if_pos hi]
    by_cases hold : i < points.length
    · rw [List.getElem?_append_left (by simp; omega), List.getElem?_take_of_lt hi,
        List.getElem?_eq_getElem hold, Option.getD_some]
    · rw [List.getElem?_append_right (by simp; omega),
        List.getElem?_replicate_of_lt (by simp; omega), List.getElem?_eq_none (by omega),
        Option.getD_none]
  · rw [if_neg hi]
    exact List.getElem?_eq_none (by simp; omega)

theorem length_resize (points : List GridPoint) (n : ℕ) : (resize points n).length = n := by
  simp [resize]
  omega

/-- Where the set bits come first, the first loop places the points of the elements. -/
theorem addPoints_of_dense (grid : GridData) {set : CorrectionPointSet} (hdense : set.Dense)
    {count : ℕ} (hcount : count ≤ set.pointCount) :
    ∃ grid', grid.addPoints set count = some grid' ∧
      grid'.correctionPointSetId = grid.correctionPointSetId ∧
      ∀ i, grid'.gridPoints[i]? =
        if i < count then
          grid.gridPoints[i]?.map (·.place (set.info i i (set.node i).1 (set.node i).2))
        else grid.gridPoints[i]? := by
  induction count with
  | zero => exact ⟨grid, rfl, rfl, fun i => by simp⟩
  | succ count ih =>
    obtain ⟨grid', hgrid, hid, hpoints⟩ := ih (by omega)
    have hlt : count < set.size := lt_of_lt_of_le hcount set.pointCount_le
    have hindex := hdense.arrayToIndex hlt ((hdense.present_iff hlt).2 hcount)
    refine ⟨grid'.addPoint (set.info count count (set.node count).1 (set.node count).2), ?_, hid,
      fun i => ?_⟩
    · unfold GridData.addPoints at hgrid ⊢
      rw [List.range_succ, List.foldlM_append, hgrid]
      simp [hindex]
    · show (grid'.gridPoints.modify count _)[i]? = _
      rw [List.getElem?_modify, hpoints]
      rcases Nat.lt_trichotomy i count with hi | rfl | hi
      · simp [hi, hi.ne', hi.trans (Nat.lt_succ_self count)]
      · simp
      · simp [hi.ne, not_lt_of_gt hi, Nat.not_lt.2 (Nat.succ_le_of_lt hi)]

theorem addElements_frame (grid : GridData) (gnss : Gnss) (list : List GridElement) :
    (grid.addElements gnss list).correctionPointSetId = grid.correctionPointSetId ∧
      (grid.addElements gnss list).gridPoints.length = grid.gridPoints.length := by
  unfold GridData.addElements
  induction list using List.reverseRecOn with
  | nil => exact ⟨rfl, rfl⟩
  | append_singleton list element ih =>
    rw [List.zipIdx_append, List.foldl_append, List.zipIdx_singleton, List.foldl_cons,
      List.foldl_nil]
    dsimp only
    split
    · exact ih
    · exact ⟨ih.1, (List.length_modify ..).trans ih.2⟩

/-- The second loop gives each element to the point with its index. -/
theorem getElem?_addElements (grid : GridData) (gnss : Gnss) (list : List GridElement)
    (hindex : ∀ i < list.length, ∃ point, grid.gridPoints[i]? = some point ∧ point.arrayIndex = i)
    (i : ℕ) :
    (grid.addElements gnss list).gridPoints[i]? =
      match list[i]? with
      | some element => grid.gridPoints[i]?.map (·.addElement gnss element)
      | none => grid.gridPoints[i]? := by
  induction list using List.reverseRecOn generalizing i with
  | nil => rfl
  | append_singleton list element ih =>
    rw [List.length_append, List.length_singleton] at hindex
    have ih := ih fun i hi => hindex i (by omega)
    have hplace : (grid.addElements gnss list).pointFromArrayIndex list.length =
        some list.length := by
      -- every point has its own index, also after the elements before
      have hown : ∀ i ≤ list.length, ∃ point,
          (grid.addElements gnss list).gridPoints[i]? = some point ∧ point.arrayIndex = i := by
        intro i hi
        obtain ⟨point, hpoint, harray⟩ := hindex i (by omega)
        rw [ih i, hpoint]
        cases list[i]? with
        | none => exact ⟨point, rfl, harray⟩
        | some element =>
          exact ⟨_, rfl, (addElement_frame gnss point element).2.2.trans harray⟩
      obtain ⟨point, hpoint, harray⟩ := hown list.length le_rfl
      obtain ⟨hlt, hget⟩ := List.getElem?_eq_some_iff.1 hpoint
      refine List.findIdx?_eq_some_iff_getElem.2 ⟨hlt, by simp [hget, harray], fun j hj => ?_⟩
      obtain ⟨point', hpoint', harray'⟩ := hown j (by omega)
      obtain ⟨hlt', hget'⟩ := List.getElem?_eq_some_iff.1 hpoint'
      simp [hget', harray', hj.ne]
    have hstep : grid.addElements gnss (list ++ [element]) =
        { grid.addElements gnss list with
          gridPoints := (grid.addElements gnss list).gridPoints.modify list.length
            (·.addElement gnss element) } := by
      unfold GridData.addElements at hplace ⊢
      rw [List.zipIdx_append, List.foldl_append]
      simp [hplace]
    rw [hstep]
    dsimp only
    rw [List.getElem?_modify, ih i]
    rcases Nat.lt_trichotomy i list.length with hi | rfl | hi
    · rw [List.getElem?_append_left hi]
      simp [hi.ne']
    · simp
    · have hnone : (list ++ [element])[i]? = none :=
        List.getElem?_eq_none (by rw [List.length_append, List.length_singleton]; omega)
      rw [List.getElem?_eq_none hi.le, hnone]
      simp [hi.ne]

/-! ### A gridded correction -/

/-- The correction keeps the grid of its system right: the set bits of its set come first, and
what there is in the grid was made for the same set, or is replaced.  The points that were
valid have corrections again, and so have the satellites that they have residuals of. -/
def Keeps (grid : Option GridData) (before : Option Reference) (gnss : Gnss)
    (set : CorrectionPointSet) (list : List GridElement) : Prop :=
  set.Dense ∧ ∀ old r, grid = some old → before = some r →
    if old.correctionPointSetId = set.setId then r.set = set
    else ∀ i (point : GridPoint), i < set.size → old.gridPoints[i]? = some point → point.valid →
      set.present i ∧ ∀ id, (point.ionosphericResidual.lookup id).isSome →
        ∃ element, list[set.rank i]? = some element ∧
          ((elementHolding gnss element).residual id).isSome

theorem over_of_isSome {element old old' : Holding} (htropo : old.troposphere = old'.troposphere)
    (h : ∀ id, (element.residual id).isSome ∨ old.residual id = old'.residual id) :
    element.over old = element.over old' := by
  ext1
  · show element.troposphere.or _ = element.troposphere.or _
    rw [htropo]
  · funext id
    show (element.residual id).or _ = (element.residual id).or _
    rcases h id with hsome | heq
    · obtain ⟨v, hv⟩ := Option.isSome_iff_exists.1 hsome
      rw [hv]
      rfl
    · rw [heq]

/-- A grid as the second loop needs it: every point is in its place, and the elements will
replace what is not of the set. -/
structure Prepared (grid : GridData) (before : Option Reference) (gnss : Gnss)
    (set : CorrectionPointSet) (list : List GridElement) : Prop where
  setId : grid.correctionPointSetId = set.setId
  size : grid.gridPoints.length = set.size
  placed : ∀ i point, grid.gridPoints[i]? = some point → set.present i →
    point.valid = true ∧ point.position = set.position i ∧ point.arrayIndex = i ∧
      ∀ element, list[i]? = some element →
        (elementHolding gnss element).over point.holding =
          (elementHolding gnss element).over (Reference.kept before set i)
  blank : ∀ i point, grid.gridPoints[i]? = some point → set.present i = false →
    point.valid = false ∧ point.position = .zero ∧ point.holding = .empty

/-- The second loop over a prepared grid. -/
theorem Prepared.addElements {grid : GridData} {before : Option Reference} {gnss : Gnss}
    {set : CorrectionPointSet} {list : List GridElement}
    (h : Prepared grid before gnss set list) (hdense : set.Dense)
    (hlength : list.length = set.pointCount) :
    Grounded (grid.addElements gnss list) (Reference.after before gnss set list) := by
  have hpresent : ∀ i < list.length, i < set.size ∧ set.present i := by
    intro i hi
    have hlt : i < set.size := lt_of_lt_of_le (hi.trans_eq hlength) set.pointCount_le
    exact ⟨hlt, (hdense.present_iff hlt).2 (hi.trans_eq hlength)⟩
  have hget := getElem?_addElements grid gnss list fun i hi => by
    obtain ⟨hlt, hset⟩ := hpresent i hi
    have hpoint := List.getElem?_eq_getElem (h.size ▸ hlt : i < grid.gridPoints.length)
    exact ⟨_, hpoint, (h.placed i _ hpoint hset).2.2.1⟩
  obtain ⟨hid, hlen⟩ := addElements_frame grid gnss list
  -- what the second loop makes of a point of the prepared grid
  have hafter : ∀ i point, (grid.addElements gnss list).gridPoints[i]? = some point →
      point.valid = set.present i ∧
        point.position = (if point.valid then set.position i else .zero) ∧
        (point.valid → point.arrayIndex = i) ∧
        point.holding = (Reference.after before gnss set list).holding i := by
    intro i point hpoint
    rw [hget] at hpoint
    cases hset : set.present i with
    | false =>
      have hnone : list[i]? = none := by
        refine List.getElem?_eq_none (Nat.le_of_not_lt fun hi => ?_)
        rw [(hpresent i hi).2] at hset
        cases hset
      rw [hnone] at hpoint
      obtain ⟨hvalid, hposition, hempty⟩ := h.blank i point hpoint hset
      refine ⟨hvalid, by rw [hvalid, hposition]; rfl, fun hv => ?_, ?_⟩
      · rw [hvalid] at hv
        cases hv
      · rw [hempty, Reference.after]
        simp [hset]
    | true =>
      have hlt : i < list.length := by
        rw [hlength, ← hdense.present_iff]
        · exact hset
        · rw [← h.size, ← hlen]
          rw [← hget] at hpoint
          exact (List.getElem?_eq_some_iff.1 hpoint).1
      obtain ⟨old, hold⟩ : ∃ old, grid.gridPoints[i]? = some old :=
        ⟨_, List.getElem?_eq_getElem (h.size ▸ (hpresent i hlt).1)⟩
      rw [List.getElem?_eq_getElem hlt, hold] at hpoint
      cases hpoint
      obtain ⟨hvalid, hposition, harray, hover⟩ := h.placed i old hold hset
      obtain ⟨hv, hp, ha⟩ := addElement_frame gnss old list[i]
      refine ⟨hv.trans hvalid, ?_, fun _ => ha.trans harray, ?_⟩
      · rw [hp, hv, hvalid, hposition]
        rfl
      · rw [holding_addElement, hover _ (List.getElem?_eq_getElem hlt), Reference.after]
        simp [hset, hdense.rank_eq (hpresent i hlt).1 hset, List.getElem?_eq_getElem hlt]
  exact
    { size := hlen.trans h.size
      valid := fun i point hpoint => (hafter i point hpoint).1
      position := fun i point hpoint => (hafter i point hpoint).2.1
      holding := fun i point hpoint => (hafter i point hpoint).2.2.2
      setId := hid.trans h.setId
      dense := hdense
      arrayIndex := fun i point hpoint => (hafter i point hpoint).2.2.1
      empty := fun i hset => by
        have hset : set.present i = false := hset
        simp [Reference.after, hset] }

/-- A grid that was made for the same set is prepared. -/
theorem Grounded.prepared {grid : GridData} {r : Reference} (h : Grounded grid r) (gnss : Gnss)
    (list : List GridElement) :
    Prepared grid (some r) gnss r.set list where
  setId := h.setId
  size := h.size
  placed i point hpoint hset := by
    have hvalid : point.valid = true := (h.valid i point hpoint).trans hset
    have hposition := h.position i point hpoint
    rw [if_pos hvalid] at hposition
    refine ⟨hvalid, hposition, h.arrayIndex i point hpoint hvalid, fun element _ => ?_⟩
    rw [h.holding i point hpoint, Reference.kept, if_pos rfl]
  blank i point hpoint hset := by
    have hvalid : point.valid = false := (h.valid i point hpoint).trans hset
    have hposition := h.position i point hpoint
    rw [hvalid] at hposition
    exact ⟨hvalid, hposition, (h.holding i point hpoint).trans (h.empty i hset)⟩

/-- What a point of the storage must be for the first loop to prepare it. -/
def Replaces (gnss : Gnss) (set : CorrectionPointSet) (list : List GridElement) (i : ℕ)
    (point : GridPoint) : Prop :=
  if point.valid then
    set.present i ∧ ∀ id, (point.ionosphericResidual.lookup id).isSome →
      ∃ element, list[set.rank i]? = some element ∧
        ((elementHolding gnss element).residual id).isSome
  else point.position = .zero ∧ point.holding = .empty

/-- The first loop prepares a grid in the storage that is there. -/
theorem prepared_addPoints (grid : GridData) (before : Option Reference) (gnss : Gnss)
    {set : CorrectionPointSet} {list : List GridElement} (hdense : set.Dense)
    (hlength : list.length = set.pointCount)
    (hkept : ∀ i, Reference.kept before set i = .empty)
    (hpoints : ∀ i point, i < set.size → grid.gridPoints[i]? = some point →
      Replaces gnss set list i point) :
    ∃ grid', (grid.init set).addPoints set list.length = some grid' ∧
      Prepared grid' before gnss set list := by
  obtain ⟨grid', hgrid, hid, hget⟩ := addPoints_of_dense (grid.init set) hdense hlength.le
  -- the storage, with blank points behind it
  have hstorage : ∀ i < set.size, ∃ point, (grid.init set).gridPoints[i]? = some point ∧
      Replaces gnss set list i point := by
    intro i hi
    have hresize : (grid.init set).gridPoints[i]? = _ := getElem?_resize grid.gridPoints set.size i
    rw [if_pos hi] at hresize
    refine ⟨_, hresize, ?_⟩
    cases hold : grid.gridPoints[i]? with
    | none => exact ⟨rfl, rfl⟩
    | some point => exact hpoints i point hi hold
  have hsize : grid'.gridPoints.length = set.size := by
    refine le_antisymm ?_ (Nat.le_of_not_lt fun hlt => ?_)
    · rw [← List.getElem?_eq_none_iff, hget,
        List.getElem?_eq_none (l := (grid.init set).gridPoints) (length_resize ..).le]
      split <;> rfl
    · obtain ⟨point, hpoint, -⟩ := hstorage _ hlt
      have hnone := hget grid'.gridPoints.length
      rw [List.getElem?_eq_none le_rfl, hpoint] at hnone
      split at hnone <;> cases hnone
  refine ⟨grid', hgrid, hid, hsize, fun i point hpoint hset => ?_, fun i point hpoint hset => ?_⟩
  all_goals
    have hi : i < set.size := hsize ▸ (List.getElem?_eq_some_iff.1 hpoint).1
    obtain ⟨old, hold, hreplaces⟩ := hstorage i hi
    rw [hget, hold] at hpoint
    unfold Replaces at hreplaces
  · -- a point with corrections, which the first loop places
    have hlt : i < list.length := hlength ▸ (hdense.present_iff hi).1 hset
    rw [if_pos hlt] at hpoint
    cases hpoint
    have hindex : (set.node i).1 * (set.numberOfStepsLongitude + 1) + (set.node i).2 = i := by
      rw [Nat.mul_comm]
      exact Nat.div_add_mod i set.width
    refine ⟨?_, rfl, rfl, fun element helement => ?_⟩
    · show set.present _ = true
      rw [hindex, hset]
    · rw [hkept]
      refine over_of_isSome rfl fun id => ?_
      by_cases hvalid : old.valid = true
      · rw [if_pos hvalid, hdense.rank_eq hi hset] at hreplaces
        by_cases hid : (old.ionosphericResidual.lookup id).isSome = true
        · obtain ⟨element', helement', hsome⟩ := hreplaces.2 id hid
          rw [helement] at helement'
          cases helement'
          exact .inl hsome
        · exact .inr (Option.not_isSome_iff_eq_none.1 hid)
      · rw [if_neg hvalid] at hreplaces
        exact .inr (congrFun (congrArg Holding.residual hreplaces.2) id)
  · -- a point without, which nothing touches
    have hge : ¬i < list.length := fun hlt => by
      rw [hlength] at hlt
      rw [(hdense.present_iff hi).2 hlt] at hset
      cases hset
    rw [if_neg hge] at hpoint
    cases hpoint
    by_cases hvalid : point.valid = true
    · rw [if_pos hvalid, hset] at hreplaces
      cases hreplaces.1
    · rw [if_neg hvalid] at hreplaces
      exact ⟨Bool.eq_false_iff.2 hvalid, hreplaces⟩

/-- **The step rule**: a gridded correction that keeps the grid right. -/
theorem grounded_addGridded {mGrid : Table Gnss GridData} {before : Option Reference}
    {gnss : Gnss} {set : CorrectionPointSet} {list : List GridElement}
    (hnone : mGrid.lookup gnss = none → before = none)
    (hbefore : ∀ grid, mGrid.lookup gnss = some grid → ∃ r, before = some r ∧ Grounded grid r)
    (hlength : list.length = set.pointCount)
    (hkeeps : Keeps (mGrid.lookup gnss) before gnss set list) :
    ∃ grid, addGridded mGrid gnss set list = some (mGrid.insert gnss grid) ∧
      Grounded grid (Reference.after before gnss set list) := by
  obtain ⟨hdense, hkeeps⟩ := hkeeps
  unfold addGridded prepareGrid
  cases hgrid : mGrid.lookup gnss with
  | none =>
    cases hnone hgrid
    obtain ⟨grid', hadd, hprepared⟩ := prepared_addPoints .new none gnss
      hdense hlength (fun i => rfl) (fun i point _ hpoint => by cases hpoint)
    refine ⟨_, ?_, hprepared.addElements hdense hlength⟩
    simp [hadd]
  | some old =>
    obtain ⟨r, rfl, hgrounded⟩ := hbefore old hgrid
    have hkeeps := hkeeps old r hgrid rfl
    by_cases hid : old.correctionPointSetId = set.setId
    · -- the same set: the grid is as it should be
      rw [if_pos hid] at hkeeps
      subst hkeeps
      refine ⟨_, ?_, (hgrounded.prepared gnss list).addElements hdense hlength⟩
      simp [hid]
    · rw [if_neg hid] at hkeeps
      obtain ⟨grid', hadd, hprepared⟩ := prepared_addPoints old (some r) gnss
        hdense hlength
        (fun i => if_neg fun hset => hid (hgrounded.setId.trans (congrArg _ hset)))
        (fun i point hi hpoint => by
          unfold Replaces
          by_cases hvalid : point.valid = true
          · rw [if_pos hvalid]
            exact hkeeps i point hi hpoint hvalid
          · rw [if_neg hvalid]
            have hposition := hgrounded.position i point hpoint
            have hunset := hgrounded.valid i point hpoint
            rw [if_neg hvalid] at hposition
            rw [Bool.eq_false_iff.2 hvalid] at hunset
            exact ⟨hposition,
              (hgrounded.holding i point hpoint).trans (hgrounded.empty i hunset.symm)⟩)
      refine ⟨_, ?_, hprepared.addElements hdense hlength⟩
      simp [hid, hadd]

end SuplLpp.Tokoro
