import SuplLpp.Lib.Lattice
import SuplLpp.Tokoro.Grid

/-!
# Interpolation in a grid

The correction at a position comes from the four points around it.

* `find4Points`, `ionospheric` and `tropospheric`, as the source has them: the neighbours of the
  top left point are those with the next indexes;
* `Corners.At`: four points that are the corners of a square of the correction point set;
* `Interpolates`: what the interpolation at a position promises;
* `interpolates_iff`: it keeps the promise if and only if the points are in place (`InPlace`);
* `Laid`, what holds of every grid that the generator makes.
-/

namespace SuplLpp.Tokoro

/-! ### The functions of the source -/

def rad2deg : ℚ := 180 / 3.1415926535897932

def interpolate (a b t : ℚ) : ℚ := a * (1 - t) + b * t

/-- The top left, top right, bottom left and bottom right point. -/
structure Corners where
  tl : GridPoint
  tr : GridPoint
  bl : GridPoint
  br : GridPoint

/-- `GridStatus`, with what is written in case of success. -/
inductive GridStatus (β : Type)
  | success (value : β)
  | positionOutsideGrid
  | missingSatelliteData
  deriving DecidableEq

namespace GridData

variable (grid : GridData)

/-- The condition of `find_top_left`, apart from `valid`. -/
def covers (point : GridPoint) (llh : Float3) : Bool :=
  let x0 := point.position.x
  let y0 := point.position.y
  let x1 := x0 - grid.deltaLatitude
  let y1 := y0 + grid.deltaLongitude
  decide (llh.x * rad2deg ≤ x0 ∧ llh.x * rad2deg ≥ x1 ∧ llh.y * rad2deg ≥ y0 ∧
    llh.y * rad2deg ≤ y1)

def findTopLeft (llh : Float3) : Option GridPoint :=
  grid.gridPoints.find? fun point => point.valid && grid.covers point llh

def findWithAbsoluteIndex (absoluteIndex : ℕ) : Option GridPoint :=
  grid.gridPoints.find? fun point => point.valid && point.absoluteIndex == absoluteIndex

def find4Points (llh : Float3) : Option Corners := do
  let topLeft ← grid.findTopLeft llh
  let topRight ← grid.findWithAbsoluteIndex (topLeft.absoluteIndex + 1)
  let bottomLeft ←
    grid.findWithAbsoluteIndex (topLeft.absoluteIndex + (grid.numberOfStepsLongitude + 1))
  let bottomRight ←
    grid.findWithAbsoluteIndex (topLeft.absoluteIndex + (grid.numberOfStepsLongitude + 1) + 1)
  return ⟨topLeft, topRight, bottomLeft, bottomRight⟩

end GridData

/-- Down first, then across. -/
def Corners.bilinear (c : Corners) (llh : Float3) (tl tr bl br : ℚ) : ℚ :=
  let dx := (llh.x * rad2deg - c.tl.position.x) / (c.br.position.x - c.tl.position.x)
  let dy := (llh.y * rad2deg - c.tl.position.y) / (c.br.position.y - c.tl.position.y)
  interpolate (interpolate tl bl dx) (interpolate tr br dx) dy

namespace GridData

variable (grid : GridData)

def ionospheric (svId : SatelliteId) (llh : Float3) : GridStatus ℚ :=
  match grid.find4Points llh with
  | none => .positionOutsideGrid
  | some c =>
      match c.tl.ionosphericResidual.lookup svId, c.tr.ionosphericResidual.lookup svId,
        c.bl.ionosphericResidual.lookup svId, c.br.ionosphericResidual.lookup svId with
      | some tl, some tr, some bl, some br => .success (c.bilinear llh tl tr bl br)
      | _, _, _, _ => .missingSatelliteData

/-- The wet and the dry part. -/
def tropospheric (llh : Float3) : GridStatus (ℚ × ℚ) :=
  match grid.find4Points llh with
  | none => .positionOutsideGrid
  | some c =>
      if c.tl.tropsphericValid && c.tr.tropsphericValid && c.bl.tropsphericValid &&
          c.br.tropsphericValid then
        .success
          (c.bilinear llh c.tl.troposphericWet c.tr.troposphericWet c.bl.troposphericWet
              c.br.troposphericWet,
            c.bilinear llh c.tl.troposphericDry c.tr.troposphericDry c.bl.troposphericDry
              c.br.troposphericDry)
      else .missingSatelliteData

end GridData

/-! ### What is promised -/

/-- The value over four points. -/
def Corners.value (c : Corners) (llh : Float3) (f : GridPoint → ℚ) : ℚ :=
  c.bilinear llh (f c.tl) (f c.tr) (f c.bl) (f c.br)

def Corners.points (c : Corners) : List GridPoint := [c.tl, c.tr, c.bl, c.br]

/-- A point that is where the correction point set has the node of its index. -/
def CorrectionPointSet.AtNode (set : CorrectionPointSet) (point : GridPoint) : Prop :=
  point.position = set.position point.absoluteIndex

/-- The corners of the square whose top left corner is the node `i`. -/
structure Corners.At (set : CorrectionPointSet) (i : ℕ) (c : Corners) : Prop where
  column : i % set.width + 1 < set.width
  tl : c.tl.absoluteIndex = i
  tr : c.tr.absoluteIndex = i + 1
  bl : c.bl.absoluteIndex = i + set.width
  br : c.br.absoluteIndex = i + set.width + 1
  atNode : ∀ point ∈ c.points, set.AtNode point

structure Corners.Contains (c : Corners) (llh : Float3) : Prop where
  bottom : c.br.position.x ≤ llh.x * rad2deg
  top : llh.x * rad2deg ≤ c.tl.position.x
  left : c.tl.position.y ≤ llh.y * rad2deg
  right : llh.y * rad2deg ≤ c.br.position.y

/-- The four corners of a square around the position, all of them valid points of the grid. -/
structure GridData.IsCell (grid : GridData) (set : CorrectionPointSet) (llh : Float3)
    (c : Corners) : Prop where
  mem : ∀ point ∈ c.points, point ∈ grid.gridPoints ∧ point.valid = true
  corners : ∃ i, c.At set i
  contains : c.Contains llh

/-- A value that the interpolation may give: between those of the corners, and equal to one of them
where that corner is. -/
structure Corners.Interpolated (c : Corners) (llh : Float3) (f : GridPoint → ℚ) (v : ℚ) : Prop where
  lower : min (min (f c.tl) (f c.tr)) (min (f c.bl) (f c.br)) ≤ v
  upper : v ≤ max (max (f c.tl) (f c.tr)) (max (f c.bl) (f c.br))
  corner : ∀ point ∈ c.points, point.position.x = llh.x * rad2deg →
    point.position.y = llh.y * rad2deg → v = f point

def GridPoint.residual (svId : SatelliteId) (point : GridPoint) : ℚ :=
  (point.ionosphericResidual.lookup svId).getD 0

/-- What the interpolation at a position promises. -/
structure GridData.Interpolates (grid : GridData) (set : CorrectionPointSet) (llh : Float3) :
    Prop where
  cell : ∀ c, grid.find4Points llh = some c → grid.IsCell set llh c
  ionospheric : ∀ c, grid.find4Points llh = some c → ∀ svId v,
    grid.ionospheric svId llh = .success v → c.Interpolated llh (·.residual svId) v
  tropospheric : ∀ c, grid.find4Points llh = some c → ∀ wet dry,
    grid.tropospheric llh = .success (wet, dry) →
      c.Interpolated llh (·.troposphericWet) wet ∧ c.Interpolated llh (·.troposphericDry) dry
  edge : ∀ c c', grid.IsCell set llh c → grid.IsCell set llh c' →
    ∀ f : GridPoint → ℚ, c.value llh f = c'.value llh f
  outside : (¬∃ c, grid.IsCell set llh c) →
    (∀ svId, grid.ionospheric svId llh = .positionOutsideGrid) ∧
      grid.tropospheric llh = .positionOutsideGrid

/-- A grid of the correction point set: each valid point is at the place of its index. -/
structure GridData.Laid (grid : GridData) (set : CorrectionPointSet) : Prop where
  deltaLatitude : grid.deltaLatitude = set.stepOfLatitude
  deltaLongitude : grid.deltaLongitude = set.stepOfLongitude
  numberOfStepsLongitude : grid.numberOfStepsLongitude = set.numberOfStepsLongitude
  absoluteIndex : ∀ (i : ℕ) (point : GridPoint), grid.gridPoints[i]? = some point →
    point.valid = true → point.absoluteIndex = i

/-- The valid point at a place. -/
def GridData.validAt (grid : GridData) (i : ℕ) : Option GridPoint :=
  (grid.gridPoints[i]?).filter (·.valid)

/-- The first point of the grid that covers the position, where its three neighbours by index are
valid: it is not in the last column, and all four are where the set has their nodes. -/
def GridData.InPlace (grid : GridData) (set : CorrectionPointSet) (llh : Float3) : Prop :=
  ∀ i tl tr bl br, grid.validAt i = some tl → grid.covers tl llh = true →
    (∀ j < i, ∀ point, grid.validAt j = some point → grid.covers point llh = false) →
    grid.validAt (i + 1) = some tr → grid.validAt (i + set.width) = some bl →
    grid.validAt (i + set.width + 1) = some br →
      i % set.width + 1 < set.width ∧ set.AtNode tl ∧ set.AtNode tr ∧ set.AtNode bl ∧ set.AtNode br

/-! ### What is found -/

namespace GridData

variable {grid : GridData} {set : CorrectionPointSet} {llh : Float3}

theorem validAt_eq_some {i : ℕ} {point : GridPoint} :
    grid.validAt i = some point ↔ grid.gridPoints[i]? = some point ∧ point.valid = true := by
  simp [validAt, Option.filter_eq_some_iff]

theorem Laid.validAt_of_mem (hlaid : grid.Laid set) {point : GridPoint}
    (hmem : point ∈ grid.gridPoints) (hvalid : point.valid = true) :
    grid.validAt point.absoluteIndex = some point := by
  obtain ⟨i, hi⟩ := List.mem_iff_getElem?.1 hmem
  rw [hlaid.absoluteIndex i point hi hvalid]
  exact validAt_eq_some.2 ⟨hi, hvalid⟩

/-- A search by index finds the point at that place. -/
theorem Laid.findWithAbsoluteIndex_eq (hlaid : grid.Laid set) (i : ℕ) :
    grid.findWithAbsoluteIndex i = grid.validAt i := by
  have hfound : ∀ point, grid.findWithAbsoluteIndex i = some point →
      grid.validAt i = some point := by
    intro point h
    have hgood := List.find?_some h
    rw [Bool.and_eq_true, beq_iff_eq] at hgood
    rw [← hgood.2]
    exact hlaid.validAt_of_mem (List.mem_of_find?_eq_some h) hgood.1
  cases h : grid.findWithAbsoluteIndex i with
  | some point => exact (hfound point h).symm
  | none =>
    symm
    rw [Option.eq_none_iff_forall_ne_some]
    intro point hpoint
    obtain ⟨hi, hvalid⟩ := validAt_eq_some.1 hpoint
    have hnot := List.find?_eq_none.1 h point (List.mem_of_getElem? hi)
    simp [hvalid, hlaid.absoluteIndex i point hi hvalid] at hnot

/-- The top left point is the first one that covers the position. -/
theorem findTopLeft_eq_some {tl : GridPoint} : grid.findTopLeft llh = some tl ↔
    ∃ i, grid.validAt i = some tl ∧ grid.covers tl llh = true ∧
      ∀ j < i, ∀ point, grid.validAt j = some point → grid.covers point llh = false := by
  rw [findTopLeft, List.find?_eq_some_iff_getElem]
  constructor
  · rintro ⟨hgood, i, hi, rfl, hfirst⟩
    rw [Bool.and_eq_true] at hgood
    refine ⟨i, validAt_eq_some.2 ⟨List.getElem?_eq_getElem hi, hgood.1⟩, hgood.2, ?_⟩
    intro j hj point hpoint
    obtain ⟨hget, hvalid⟩ := validAt_eq_some.1 hpoint
    obtain ⟨hlt, rfl⟩ := List.getElem?_eq_some_iff.1 hget
    simpa [hvalid] using hfirst j hj
  · rintro ⟨i, hpoint, hcovers, hfirst⟩
    obtain ⟨hget, hvalid⟩ := validAt_eq_some.1 hpoint
    obtain ⟨hlt, rfl⟩ := List.getElem?_eq_some_iff.1 hget
    refine ⟨by rw [hvalid, hcovers]; rfl, i, hlt, rfl, fun j hj => ?_⟩
    cases hv : (grid.gridPoints[j]).valid with
    | false => simp
    | true =>
      have hnot := hfirst j hj _ (validAt_eq_some.2 ⟨List.getElem?_eq_getElem (hj.trans hlt), hv⟩)
      simp [hnot]

/-- **The four points** are the first one that covers the position and its neighbours by index. -/
theorem Laid.find4Points_eq_some (hlaid : grid.Laid set) {c : Corners} :
    grid.find4Points llh = some c ↔
      ∃ i, grid.validAt i = some c.tl ∧ grid.covers c.tl llh = true ∧
        (∀ j < i, ∀ point, grid.validAt j = some point → grid.covers point llh = false) ∧
        grid.validAt (i + 1) = some c.tr ∧ grid.validAt (i + set.width) = some c.bl ∧
        grid.validAt (i + set.width + 1) = some c.br := by
  simp only [find4Points, Option.bind_eq_bind, Option.bind_eq_some_iff,
    hlaid.findWithAbsoluteIndex_eq, hlaid.numberOfStepsLongitude]
  constructor
  · rintro ⟨tl, htl, tr, htr, bl, hbl, br, hbr, hc⟩
    obtain rfl := Option.some.inj hc
    obtain ⟨i, hi, hcovers, hfirst⟩ := findTopLeft_eq_some.1 htl
    obtain ⟨hget, hvalid⟩ := validAt_eq_some.1 hi
    rw [hlaid.absoluteIndex i tl hget hvalid] at htr hbl hbr
    exact ⟨i, hi, hcovers, hfirst, htr, hbl, hbr⟩
  · rintro ⟨i, hi, hcovers, hfirst, htr, hbl, hbr⟩
    obtain ⟨hget, hvalid⟩ := validAt_eq_some.1 hi
    have hindex := hlaid.absoluteIndex i c.tl hget hvalid
    refine ⟨c.tl, findTopLeft_eq_some.2 ⟨i, hi, hcovers, hfirst⟩, c.tr, ?_, c.bl, ?_, c.br, ?_, rfl⟩
    · rw [hindex]
      exact htr
    · rw [hindex]
      exact hbl
    · rw [hindex]
      exact hbr

end GridData

/-! ### The surface -/

/-- The row and the column of a position, with a fraction. -/
def CorrectionPointSet.row (set : CorrectionPointSet) (llh : Float3) : ℚ :=
  (set.referencePointLatitude - llh.x * rad2deg) / set.stepOfLatitude

def CorrectionPointSet.column (set : CorrectionPointSet) (llh : Float3) : ℚ :=
  (llh.y * rad2deg - set.referencePointLongitude) / set.stepOfLongitude

/-- The values of the valid points by row and column. -/
def GridData.values (grid : GridData) (set : CorrectionPointSet) (f : GridPoint → ℚ)
    (row column : ℕ) : ℚ :=
  ((grid.validAt (row * set.width + column)).map f).getD 0

section Surface

variable {grid : GridData} {set : CorrectionPointSet} {llh : Float3} {c : Corners}

/-- A point that is at its node has its value there. -/
theorem values_of_mem (hlaid : grid.Laid set) (f : GridPoint → ℚ) {point : GridPoint}
    (hmem : point ∈ grid.gridPoints ∧ point.valid = true) :
    grid.values set f (point.absoluteIndex / set.width) (point.absoluteIndex % set.width) =
      f point := by
  rw [GridData.values, Nat.div_add_mod', hlaid.validAt_of_mem hmem.1 hmem.2]
  rfl

theorem place_eq {width row column : ℕ} (h : column < width) :
    (row * width + column) / width = row ∧ (row * width + column) % width = column := by
  have hpos : 0 < width := by omega
  rw [Nat.add_comm, Nat.add_mul_div_right _ _ hpos, Nat.div_eq_of_lt h, Nat.add_mul_mod_self_right,
    Nat.mod_eq_of_lt h, Nat.zero_add]
  exact ⟨rfl, rfl⟩

/-- The rows and columns of the corners. -/
theorem Corners.At.places {i : ℕ} (h : c.At set i) :
    (c.tl.absoluteIndex / set.width = i / set.width ∧
      c.tl.absoluteIndex % set.width = i % set.width) ∧
    (c.tr.absoluteIndex / set.width = i / set.width ∧
      c.tr.absoluteIndex % set.width = i % set.width + 1) ∧
    (c.bl.absoluteIndex / set.width = i / set.width + 1 ∧
      c.bl.absoluteIndex % set.width = i % set.width) ∧
    (c.br.absoluteIndex / set.width = i / set.width + 1 ∧
      c.br.absoluteIndex % set.width = i % set.width + 1) := by
  have hcolumn := h.column
  have hlt : i % set.width < set.width := by omega
  have hsplit := Nat.div_add_mod' i set.width
  have htr : i + 1 = i / set.width * set.width + (i % set.width + 1) := by omega
  have hbl : i + set.width = (i / set.width + 1) * set.width + i % set.width := by
    rw [Nat.succ_mul]
    omega
  have hbr : i + set.width + 1 = (i / set.width + 1) * set.width + (i % set.width + 1) := by omega
  rw [h.tl, h.tr, h.bl, h.br, htr, hbl]
  refine ⟨⟨rfl, rfl⟩, place_eq hcolumn, place_eq hlt, ?_⟩
  rw [← hbl, hbr]
  exact place_eq hcolumn

/-- The position of a point at its node, by row and column. -/
theorem CorrectionPointSet.AtNode.position {point : GridPoint} (h : set.AtNode point) :
    point.position.x =
        set.referencePointLatitude - (point.absoluteIndex / set.width : ℕ) * set.stepOfLatitude ∧
      point.position.y =
        set.referencePointLongitude +
          (point.absoluteIndex % set.width : ℕ) * set.stepOfLongitude := by
  rw [h]
  exact ⟨rfl, rfl⟩

/-- A square of the grid around a position: where it is, its values, and what is computed from
them. -/
structure Square (grid : GridData) (set : CorrectionPointSet) (llh : Float3) (c : Corners)
    (r column : ℕ) : Prop where
  withinRow : Lattice.Within r (set.row llh)
  withinColumn : Lattice.Within column (set.column llh)
  values : ∀ f, grid.values set f r column = f c.tl ∧ grid.values set f r (column + 1) = f c.tr ∧
    grid.values set f (r + 1) column = f c.bl ∧ grid.values set f (r + 1) (column + 1) = f c.br
  value_eq : ∀ f, c.value llh f =
    Lattice.cell (grid.values set f) r column (set.row llh) (set.column llh)

theorem exists_square (hlaid : grid.Laid set) (hlat : 0 < set.stepOfLatitude)
    (hlon : 0 < set.stepOfLongitude) (h : grid.IsCell set llh c) :
    ∃ r column, Square grid set llh c r column := by
  obtain ⟨i, hi⟩ := h.corners
  obtain ⟨htl, htr, hbl, hbr⟩ := hi.places
  obtain ⟨hx, hy⟩ := (hi.atNode c.tl (by simp [Corners.points])).position
  obtain ⟨hx', hy'⟩ := (hi.atNode c.br (by simp [Corners.points])).position
  rw [htl.1] at hx
  rw [htl.2] at hy
  rw [hbr.1] at hx'
  rw [hbr.2] at hy'
  push_cast at hx' hy'
  obtain ⟨hbottom, htop, hleft, hright⟩ := h.contains
  rw [hx'] at hbottom
  rw [hx] at htop
  rw [hy] at hleft
  rw [hy'] at hright
  have hvalues : ∀ f, grid.values set f (i / set.width) (i % set.width) = f c.tl ∧
      grid.values set f (i / set.width) (i % set.width + 1) = f c.tr ∧
      grid.values set f (i / set.width + 1) (i % set.width) = f c.bl ∧
      grid.values set f (i / set.width + 1) (i % set.width + 1) = f c.br := by
    intro f
    have hpoint := fun point hmem => values_of_mem hlaid f (h.mem point hmem)
    have htl' := hpoint c.tl (by simp [Corners.points])
    have htr' := hpoint c.tr (by simp [Corners.points])
    have hbl' := hpoint c.bl (by simp [Corners.points])
    have hbr' := hpoint c.br (by simp [Corners.points])
    rw [htl.1, htl.2] at htl'
    rw [htr.1, htr.2] at htr'
    rw [hbl.1, hbl.2] at hbl'
    rw [hbr.1, hbr.2] at hbr'
    exact ⟨htl', htr', hbl', hbr'⟩
  refine ⟨i / set.width, i % set.width, ⟨?_, ?_⟩, ⟨?_, ?_⟩, hvalues, fun f => ?_⟩
  · rw [CorrectionPointSet.row, le_div_iff₀ hlat]
    linarith
  · rw [CorrectionPointSet.row, div_le_iff₀ hlat]
    linarith
  · rw [CorrectionPointSet.column, le_div_iff₀ hlon]
    linarith
  · rw [CorrectionPointSet.column, div_le_iff₀ hlon]
    linarith
  · obtain ⟨h1, h2, h3, h4⟩ := hvalues f
    have hdx : (llh.x * rad2deg - c.tl.position.x) / (c.br.position.x - c.tl.position.x) =
        set.row llh - (i / set.width : ℕ) := by
      have hrow : set.row llh * set.stepOfLatitude =
          set.referencePointLatitude - llh.x * rad2deg := div_mul_cancel₀ _ hlat.ne'
      have hdiff : c.br.position.x - c.tl.position.x = -set.stepOfLatitude := by linarith
      rw [hdiff, div_eq_iff (neg_ne_zero.2 hlat.ne')]
      linarith
    have hdy : (llh.y * rad2deg - c.tl.position.y) / (c.br.position.y - c.tl.position.y) =
        set.column llh - (i % set.width : ℕ) := by
      have hcolumn : set.column llh * set.stepOfLongitude =
          llh.y * rad2deg - set.referencePointLongitude := div_mul_cancel₀ _ hlon.ne'
      have hdiff : c.br.position.y - c.tl.position.y = set.stepOfLongitude := by linarith
      rw [hdiff, div_eq_iff hlon.ne']
      linarith
    simp only [Corners.value, Corners.bilinear, interpolate, hdx, hdy, Lattice.cell,
      Lattice.linear, h1, h2, h3, h4]

/-- What is computed over a square is a value that the interpolation may give. -/
theorem Square.interpolated {r column : ℕ} (hlaid : grid.Laid set)
    (hlat : 0 < set.stepOfLatitude) (hlon : 0 < set.stepOfLongitude)
    (h : grid.IsCell set llh c) (hsquare : Square grid set llh c r column) (f : GridPoint → ℚ) :
    c.Interpolated llh f (c.value llh f) := by
  obtain ⟨h1, h2, h3, h4⟩ := hsquare.values f
  rw [hsquare.value_eq]
  refine ⟨?_, ?_, fun point hmem hx hy => ?_⟩
  · apply Lattice.le_cell hsquare.withinRow hsquare.withinColumn <;> simp [h1, h2, h3, h4]
  · apply Lattice.cell_le hsquare.withinRow hsquare.withinColumn <;> simp [h1, h2, h3, h4]
  · obtain ⟨i, hi⟩ := h.corners
    obtain ⟨hx', hy'⟩ := (hi.atNode point hmem).position
    have hrow : set.row llh = (point.absoluteIndex / set.width : ℕ) := by
      rw [CorrectionPointSet.row, ← hx, hx', sub_sub_cancel, mul_div_cancel_right₀ _ hlat.ne']
    have hcolumn : set.column llh = (point.absoluteIndex % set.width : ℕ) := by
      rw [CorrectionPointSet.column, ← hy, hy', add_sub_cancel_left,
        mul_div_cancel_right₀ _ hlon.ne']
    have hr := hsquare.withinRow
    have hc := hsquare.withinColumn
    rw [hrow] at hr ⊢
    rw [hcolumn] at hc ⊢
    rw [Lattice.cell_node hr hc]
    exact values_of_mem hlaid f (h.mem point hmem)

end Surface

/-! ### The promise -/

section Promise

variable {grid : GridData} {set : CorrectionPointSet} {llh : Float3} {c : Corners}

/-- A residual is computed from the residuals of the corners. -/
theorem ionospheric_eq_success {svId : SatelliteId} {v : ℚ} (hc : grid.find4Points llh = some c)
    (h : grid.ionospheric svId llh = .success v) : v = c.value llh (·.residual svId) := by
  rw [GridData.ionospheric, hc] at h
  dsimp only at h
  split at h
  next tl tr bl br htl htr hbl hbr =>
    cases h
    simp [Corners.value, GridPoint.residual, htl, htr, hbl, hbr]
  next => cases h

theorem tropospheric_eq_success {wet dry : ℚ} (hc : grid.find4Points llh = some c)
    (h : grid.tropospheric llh = .success (wet, dry)) :
    wet = c.value llh (·.troposphericWet) ∧ dry = c.value llh (·.troposphericDry) := by
  rw [GridData.tropospheric, hc] at h
  dsimp only at h
  split_ifs at h
  cases h
  exact ⟨rfl, rfl⟩

theorem interpolates_iff_of_pos (hlaid : grid.Laid set) (hlat : 0 < set.stepOfLatitude)
    (hlon : 0 < set.stepOfLongitude) : grid.Interpolates set llh ↔ grid.InPlace set llh := by
  constructor
  · intro h i tl tr bl br htl hcovers hfirst htr hbl hbr
    have hfound : grid.find4Points llh = some ⟨tl, tr, bl, br⟩ :=
      hlaid.find4Points_eq_some.2 ⟨i, htl, hcovers, hfirst, htr, hbl, hbr⟩
    obtain ⟨i', hi'⟩ := (h.cell _ hfound).corners
    obtain ⟨hget, hvalid⟩ := GridData.validAt_eq_some.1 htl
    have hindex : i = i' := (hlaid.absoluteIndex i tl hget hvalid).symm.trans hi'.tl
    have hnode := hi'.atNode
    simp only [Corners.points, List.forall_mem_cons, List.not_mem_nil, false_implies,
      implies_true, and_true] at hnode
    exact ⟨hindex ▸ hi'.column, hnode⟩
  · intro h
    have hcell : ∀ c, grid.find4Points llh = some c → grid.IsCell set llh c := by
      intro c hc
      obtain ⟨i, htl, hcovers, hfirst, htr, hbl, hbr⟩ := hlaid.find4Points_eq_some.1 hc
      obtain ⟨hcolumn, htl', htr', hbl', hbr'⟩ :=
        h i c.tl c.tr c.bl c.br htl hcovers hfirst htr hbl hbr
      have hindex : ∀ {j point}, grid.validAt j = some point →
          point.absoluteIndex = j ∧ point ∈ grid.gridPoints ∧ point.valid = true := by
        intro j point hpoint
        obtain ⟨hget, hvalid⟩ := GridData.validAt_eq_some.1 hpoint
        exact ⟨hlaid.absoluteIndex j point hget hvalid, List.mem_of_getElem? hget, hvalid⟩
      have hat : c.At set i :=
        ⟨hcolumn, (hindex htl).1, (hindex htr).1, (hindex hbl).1, (hindex hbr).1,
          by simp [Corners.points, htl', htr', hbl', hbr']⟩
      refine ⟨?_, ⟨i, hat⟩, ?_⟩
      · simp [Corners.points, (hindex htl).2, (hindex htr).2, (hindex hbl).2, (hindex hbr).2]
      · -- the rectangle of the top left point ends where the bottom right point is
        obtain ⟨⟨hrow, hcol⟩, -, -, ⟨hrow', hcol'⟩⟩ := hat.places
        obtain ⟨hx, hy⟩ := htl'.position
        obtain ⟨hx', hy'⟩ := hbr'.position
        rw [hrow] at hx
        rw [hcol] at hy
        rw [hrow'] at hx'
        rw [hcol'] at hy'
        push_cast at hx' hy'
        have hedge := of_decide_eq_true hcovers
        rw [hlaid.deltaLatitude, hlaid.deltaLongitude] at hedge
        obtain ⟨htop, hbottom, hleft, hright⟩ := hedge
        exact ⟨by linarith, htop, hleft, by linarith⟩
    have hsquare : ∀ c, grid.IsCell set llh c → ∀ f, c.Interpolated llh f (c.value llh f) := by
      intro c hc f
      obtain ⟨r, column, hsquare⟩ := exists_square hlaid hlat hlon hc
      exact hsquare.interpolated hlaid hlat hlon hc f
    refine ⟨hcell, fun c hc svId v hv => ?_, fun c hc wet dry hv => ?_, fun c c' hc hc' f => ?_,
      fun hnone => ?_⟩
    · rw [ionospheric_eq_success hc hv]
      exact hsquare c (hcell c hc) _
    · obtain ⟨hwet, hdry⟩ := tropospheric_eq_success hc hv
      rw [hwet, hdry]
      exact ⟨hsquare c (hcell c hc) _, hsquare c (hcell c hc) _⟩
    · obtain ⟨r, column, hsquare⟩ := exists_square hlaid hlat hlon hc
      obtain ⟨r', column', hsquare'⟩ := exists_square hlaid hlat hlon hc'
      rw [hsquare.value_eq, hsquare'.value_eq]
      exact Lattice.cell_congr hsquare.withinRow hsquare'.withinRow hsquare.withinColumn
        hsquare'.withinColumn
    · have hnotFound : grid.find4Points llh = none := by
        rw [Option.eq_none_iff_forall_ne_some]
        exact fun c hc => hnone ⟨c, hcell c hc⟩
      simp [GridData.ionospheric, GridData.tropospheric, hnotFound]

end Promise

/-- The steps of an array of correction points are at least a hundredth of a degree. -/
theorem CorrectionPointSet.ofArray_pos (ignoreBitmask : Bool) (setId : ℕ)
    (array : Asn.GnssSsrArrayOfCorrectionPoints) :
    0 < (CorrectionPointSet.ofArray ignoreBitmask setId array).stepOfLatitude ∧
      0 < (CorrectionPointSet.ofArray ignoreBitmask setId array).stepOfLongitude := by
  have hlat : (0 : ℚ) < array.stepOfLatitude.1 := by
    have := array.stepOfLatitude.2.1
    exact_mod_cast (by omega : 0 < array.stepOfLatitude.1)
  have hlon : (0 : ℚ) < array.stepOfLongitude.1 := by
    have := array.stepOfLongitude.2.1
    exact_mod_cast (by omega : 0 < array.stepOfLongitude.1)
  constructor
  · show 0 < (array.stepOfLatitude.1 : ℚ) * 0.01
    positivity
  · show 0 < (array.stepOfLongitude.1 : ℚ) * 0.01
    positivity

/-- **Interpolation**: in every grid of a correction point set and at every position it keeps its
promise if and only if the points are in place. -/
theorem interpolates_iff (ignoreBitmask : Bool) (setId : ℕ)
    (array : Asn.GnssSsrArrayOfCorrectionPoints) {grid : GridData}
    (hlaid : grid.Laid (.ofArray ignoreBitmask setId array)) (llh : Float3) :
    grid.Interpolates (.ofArray ignoreBitmask setId array) llh ↔
      grid.InPlace (.ofArray ignoreBitmask setId array) llh := by
  obtain ⟨hlat, hlon⟩ := CorrectionPointSet.ofArray_pos ignoreBitmask setId array
  exact interpolates_iff_of_pos hlaid hlat hlon

/-! ### The grids of the generator -/

namespace GridData

/-- Each valid point is at the place of its index. -/
def Indexed (points : List GridPoint) : Prop :=
  ∀ (i : ℕ) (point : GridPoint), points[i]? = some point → point.valid = true →
    point.absoluteIndex = i

theorem Indexed.modify {points : List GridPoint} {f : GridPoint → GridPoint} {place : ℕ}
    (h : Indexed points)
    (hf : ∀ point, (f point).valid = true → (point.valid = true → point.absoluteIndex = place) →
      (f point).absoluteIndex = place) : Indexed (points.modify place f) := by
  intro i point hpoint hvalid
  rw [List.getElem?_modify] at hpoint
  obtain ⟨old, hold, rfl⟩ := Option.map_eq_some_iff.1 hpoint
  by_cases hi : place = i
  · subst hi
    simp only [if_true] at hvalid ⊢
    exact hf old hvalid (h _ old hold)
  · simp only [hi, if_false] at hvalid ⊢
    exact h i old hold hvalid

theorem Indexed.resize {points : List GridPoint} (h : Indexed points) (n : ℕ) :
    Indexed (Tokoro.resize points n) := by
  intro i point hpoint hvalid
  rw [getElem?_resize] at hpoint
  split_ifs at hpoint
  obtain rfl := Option.some.inj hpoint
  cases hold : points[i]? with
  | some old =>
    rw [hold] at hvalid
    exact h i old hold hvalid
  | none =>
    rw [hold] at hvalid
    cases hvalid

/-- The first loop keeps the points at their places. -/
theorem indexed_addPoints {grid grid' : GridData} {set : CorrectionPointSet} {count : ℕ}
    (h : Indexed grid.gridPoints) (hadd : grid.addPoints set count = some grid') :
    Indexed grid'.gridPoints ∧ grid'.deltaLatitude = grid.deltaLatitude ∧
      grid'.deltaLongitude = grid.deltaLongitude ∧
      grid'.numberOfStepsLongitude = grid.numberOfStepsLongitude := by
  induction count generalizing grid' with
  | zero =>
    obtain rfl := Option.some.inj hadd
    exact ⟨h, rfl, rfl, rfl⟩
  | succ count ih =>
    unfold addPoints at hadd ih
    rw [List.range_succ, List.foldlM_append, Option.bind_eq_bind, Option.bind_eq_some_iff] at hadd
    obtain ⟨before, hbefore, hlast⟩ := hadd
    obtain ⟨hindexed, hrest⟩ := ih hbefore
    simp only [List.foldlM_cons, List.foldlM_nil, Option.pure_def, Option.bind_eq_bind,
      Option.bind_eq_some_iff, Option.map_eq_some_iff, Option.some.injEq] at hlast
    obtain ⟨-, ⟨info, -, rfl⟩, rfl⟩ := hlast
    exact ⟨hindexed.modify fun point _ _ => rfl, hrest⟩

theorem absoluteIndex_addElement (gnss : Gnss) (point : GridPoint) (element : Asn.GridElement) :
    (point.addElement gnss element).absoluteIndex = point.absoluteIndex := by
  have hfold : ∀ (satellites : List Asn.StecResidualSatElement) (point : GridPoint),
      (satellites.foldl (GridPoint.addResidual gnss) point).absoluteIndex =
        point.absoluteIndex := by
    intro satellites point
    have hcore := congrArg GridPoint.absoluteIndex (core_foldl_addResidual gnss satellites point)
    exact hcore
  obtain ⟨tropo, list⟩ := element
  unfold GridPoint.addElement
  cases list with
  | none => cases tropo <;> rfl
  | some list => cases tropo <;> exact hfold list.1 _

/-- The second loop does as well. -/
theorem indexed_addElements {grid : GridData} (h : Indexed grid.gridPoints) (gnss : Gnss)
    (list : List Asn.GridElement) :
    Indexed (grid.addElements gnss list).gridPoints ∧
      (grid.addElements gnss list).deltaLatitude = grid.deltaLatitude ∧
      (grid.addElements gnss list).deltaLongitude = grid.deltaLongitude ∧
      (grid.addElements gnss list).numberOfStepsLongitude = grid.numberOfStepsLongitude := by
  unfold addElements
  induction list using List.reverseRecOn with
  | nil => exact ⟨h, rfl, rfl, rfl⟩
  | append_singleton list element ih =>
    rw [List.zipIdx_append, List.foldl_append, List.zipIdx_singleton, List.foldl_cons,
      List.foldl_nil]
    dsimp only
    split
    · exact ih
    · refine ⟨ih.1.modify fun point hvalid hindex => ?_, ih.2⟩
      rw [(addElement_frame gnss point element).1] at hvalid
      rw [absoluteIndex_addElement]
      exact hindex hvalid

section Made

variable {p : CorrectionPointSet → Prop} {set : CorrectionPointSet}

theorem laid_prepareGrid {old : Option GridData} {count : ℕ} {grid : GridData} (hset : p set)
    (hold : ∀ g ∈ old, ∃ set', p set' ∧ g.Laid set')
    (h : prepareGrid old set count = some grid) : ∃ set', p set' ∧ grid.Laid set' := by
  have hinit : ∀ {g : GridData}, Indexed g.gridPoints →
      (g.init set).addPoints set count = some grid → ∃ set', p set' ∧ grid.Laid set' := by
    intro g hg hadd
    obtain ⟨hindexed, hlat, hlon, hsteps⟩ := indexed_addPoints (hg.resize set.size) hadd
    exact ⟨set, hset, hlat, hlon, hsteps, hindexed⟩
  unfold prepareGrid at h
  split at h
  · exact hinit (fun i point hpoint => by simp [GridData.new] at hpoint) h
  next g =>
    obtain ⟨set', hset', hlaid⟩ := hold g rfl
    split_ifs at h
    · exact hinit hlaid.absoluteIndex h
    · obtain rfl := Option.some.inj h
      exact ⟨set', hset', hlaid⟩

/-- **Every grid** that gridded corrections make is laid out for one of their correction point
sets. -/
theorem laid_addGridded {mGrid mGrid' : Table Gnss GridData} {gnss : Gnss}
    {list : List Asn.GridElement} (hset : p set)
    (hold : ∀ g grid, mGrid.lookup g = some grid → ∃ set', p set' ∧ grid.Laid set')
    (h : addGridded mGrid gnss set list = some mGrid') :
    ∀ g grid, mGrid'.lookup g = some grid → ∃ set', p set' ∧ grid.Laid set' := by
  intro g grid hgrid
  obtain ⟨prepared, hprepared, rfl⟩ := Option.map_eq_some_iff.1 h
  rw [Table.lookup_insert] at hgrid
  split_ifs at hgrid with hg
  · obtain rfl := Option.some.inj hgrid
    obtain ⟨set', hset', hlat, hlon, hsteps, hindex⟩ :=
      laid_prepareGrid hset (hold gnss) hprepared
    obtain ⟨hindexed, hlat', hlon', hsteps'⟩ := indexed_addElements hindex gnss list
    exact ⟨set', hset', hlat'.trans hlat, hlon'.trans hlon, hsteps'.trans hsteps, hindexed⟩
  · exact hold g grid hgrid

/-- A grid that was not there before has its points where the nodes are. -/
theorem atNode_prepareGrid {count : ℕ} {grid : GridData}
    (h : prepareGrid none set count = some grid) :
    ∀ point ∈ grid.gridPoints, point.valid = true → set.AtNode point := by
  change (GridData.new.init set).addPoints set count = some grid at h
  induction count generalizing grid with
  | zero =>
    obtain rfl := Option.some.inj h
    intro point hmem hvalid
    simp only [init, Tokoro.resize, GridData.new, List.take_nil, List.nil_append] at hmem
    rw [List.eq_of_mem_replicate hmem] at hvalid
    cases hvalid
  | succ count ih =>
    unfold addPoints at h ih
    rw [List.range_succ, List.foldlM_append, Option.bind_eq_bind, Option.bind_eq_some_iff] at h
    obtain ⟨before, hbefore, hlast⟩ := h
    simp only [List.foldlM_cons, List.foldlM_nil, Option.pure_def, Option.bind_eq_bind,
      Option.bind_eq_some_iff, Option.map_eq_some_iff, Option.some.injEq] at hlast
    obtain ⟨-, ⟨info, hinfo, rfl⟩, rfl⟩ := hlast
    rw [CorrectionPointSet.arrayToIndex_eq, Option.map_eq_some_iff] at hinfo
    obtain ⟨node, -, rfl⟩ := hinfo
    intro point hmem hvalid
    obtain ⟨i, hi⟩ := List.mem_iff_getElem?.1 hmem
    simp only [addPoint, List.getElem?_modify] at hi
    obtain ⟨old, hold, rfl⟩ := Option.map_eq_some_iff.1 hi
    split_ifs at hvalid ⊢ with hplace
    · rfl
    · exact ih hbefore old (List.mem_of_getElem? hold) hvalid

/-- The elements do not move the points. -/
theorem atNode_addElements {grid : GridData}
    (h : ∀ point ∈ grid.gridPoints, point.valid = true → set.AtNode point) (gnss : Gnss)
    (list : List Asn.GridElement) :
    ∀ point ∈ (grid.addElements gnss list).gridPoints, point.valid = true →
      set.AtNode point := by
  unfold addElements
  induction list using List.reverseRecOn with
  | nil => exact h
  | append_singleton list element ih =>
    rw [List.zipIdx_append, List.foldl_append, List.zipIdx_singleton, List.foldl_cons,
      List.foldl_nil]
    dsimp only
    split
    · exact ih
    · intro point hmem hvalid
      obtain ⟨i, hi⟩ := List.mem_iff_getElem?.1 hmem
      rw [List.getElem?_modify] at hi
      obtain ⟨old, hold, rfl⟩ := Option.map_eq_some_iff.1 hi
      have hmem := List.mem_of_getElem? hold
      split_ifs at hvalid ⊢
      · obtain ⟨hframe, hposition, -⟩ := addElement_frame gnss old element
        rw [hframe] at hvalid
        unfold CorrectionPointSet.AtNode
        rw [hposition, absoluteIndex_addElement]
        exact ih old hmem hvalid
      · exact ih old hmem hvalid

/-- A grid that was not there before the gridded corrections has its points where the nodes
are. -/
theorem atNode_addGridded {mGrid mGrid' : Table Gnss GridData} {gnss : Gnss}
    {list : List Asn.GridElement} (h : addGridded mGrid gnss set list = some mGrid')
    (hnone : mGrid.lookup gnss = none) :
    ∀ grid ∈ mGrid'.lookup gnss, ∀ point ∈ grid.gridPoints, point.valid = true →
      set.AtNode point := by
  intro grid hgrid
  obtain ⟨prepared, hprepared, rfl⟩ := Option.map_eq_some_iff.1 h
  rw [hnone] at hprepared
  rw [Table.lookup_insert, if_pos rfl] at hgrid
  obtain rfl := Option.some.inj hgrid
  exact atNode_addElements (atNode_prepareGrid hprepared) gnss list

end Made

/-- Where no point is left over from another set, it is only the last column that matters. -/
theorem inPlace_iff {grid : GridData} {set : CorrectionPointSet} {llh : Float3}
    (hnode : ∀ point ∈ grid.gridPoints, point.valid = true → set.AtNode point) :
    grid.InPlace set llh ↔
      ∀ i tl tr bl br, grid.validAt i = some tl → grid.covers tl llh = true →
        (∀ j < i, ∀ point, grid.validAt j = some point → grid.covers point llh = false) →
        grid.validAt (i + 1) = some tr → grid.validAt (i + set.width) = some bl →
        grid.validAt (i + set.width + 1) = some br → i % set.width + 1 < set.width := by
  have hvalid : ∀ {i point}, grid.validAt i = some point → set.AtNode point := by
    intro i point hpoint
    obtain ⟨hget, hvalid⟩ := validAt_eq_some.1 hpoint
    exact hnode point (List.mem_of_getElem? hget) hvalid
  constructor
  · intro h i tl tr bl br htl hcovers hfirst htr hbl hbr
    exact (h i tl tr bl br htl hcovers hfirst htr hbl hbr).1
  · intro h i tl tr bl br htl hcovers hfirst htr hbl hbr
    exact ⟨h i tl tr bl br htl hcovers hfirst htr hbl hbr, hvalid htl, hvalid htr, hvalid hbl,
      hvalid hbr⟩

end GridData

/-- A set of three rows of two points at the origin, a degree apart. -/
def twoColumns : Asn.GnssSsrArrayOfCorrectionPoints where
  referencePointLatitude := ⟨0, Asn.Integer.mem_neg⟩
  referencePointLongitude := ⟨0, Asn.Integer.mem_neg⟩
  numberOfStepsLatitude := ⟨2, Asn.Integer.mem⟩
  numberOfStepsLongitude := ⟨1, Asn.Integer.mem⟩
  stepOfLatitude := ⟨100, Asn.Integer.mem⟩
  stepOfLongitude := ⟨100, Asn.Integer.mem⟩
  bitmaskOfGrids := none

/-- The troposphere at a point, and the residual of G01. -/
def pointValues (hydrostatic : Asn.Integer (-256) 255) (wet : Asn.Integer (-128) 127)
    (residual : Asn.Integer (-64) 63) : Asn.GridElement where
  tropospericDelayCorrection := some ⟨hydrostatic, wet⟩
  stecResidualSatList :=
    some ⟨[⟨⟨0, Asn.Integer.mem⟩, .b7 residual⟩], Nat.le_refl 1, Nat.le_of_ble_eq_true rfl⟩

def sixValues : List Asn.GridElement :=
  [pointValues ⟨25, Asn.Integer.mem_neg⟩ ⟨0, Asn.Integer.mem_neg⟩ ⟨0, Asn.Integer.mem_neg⟩,
    pointValues ⟨50, Asn.Integer.mem_neg⟩ ⟨0, Asn.Integer.mem_neg⟩ ⟨25, Asn.Integer.mem_neg⟩,
    pointValues ⟨75, Asn.Integer.mem_neg⟩ ⟨25, Asn.Integer.mem_neg⟩ ⟨25, Asn.Integer.mem_neg⟩,
    pointValues ⟨50, Asn.Integer.mem_neg⟩ ⟨25, Asn.Integer.mem_neg⟩ ⟨50, Asn.Integer.mem_neg⟩,
    pointValues ⟨25, Asn.Integer.mem_neg⟩ ⟨0, Asn.Integer.mem_neg⟩ ⟨25, Asn.Integer.mem_neg⟩,
    pointValues ⟨0, Asn.Integer.mem_neg⟩ ⟨0, Asn.Integer.mem_neg⟩ ⟨0, Asn.Integer.mem_neg⟩]

/-- The grid of the set, with values at all the points. -/
def twoColumnsGrid : GridData :=
  ((prepareGrid none (.ofArray false 1 twoColumns) 6).getD .new).addElements .gps sixValues

theorem addGridded_twoColumns :
    addGridded ∅ .gps (.ofArray false 1 twoColumns) sixValues =
      some ((∅ : Table Gnss GridData).insert .gps twoColumnsGrid) := by
  have hsome : (prepareGrid none (.ofArray false 1 twoColumns) 6).isSome := by decide +kernel
  obtain ⟨grid, hgrid⟩ := Option.isSome_iff_exists.1 hsome
  change (prepareGrid none (.ofArray false 1 twoColumns) 6).map _ = _
  rw [twoColumnsGrid, hgrid]
  rfl

theorem laid_twoColumnsGrid : twoColumnsGrid.Laid (.ofArray false 1 twoColumns) := by
  obtain ⟨set, rfl, hlaid⟩ := GridData.laid_addGridded
    (p := (· = CorrectionPointSet.ofArray false 1 twoColumns)) rfl (by simp)
    addGridded_twoColumns .gps twoColumnsGrid (AList.lookup_insert _)
  exact hlaid

/-- The middle of the first square has the mean of its corners. -/
theorem interpolates_twoColumnsGrid :
    twoColumnsGrid.tropospheric ⟨-1 / 2 / rad2deg, 1 / 2 / rad2deg, 0⟩ =
        .success (0.302, 2.5) ∧
      twoColumnsGrid.ionospheric (.fromLpp .gps 0) ⟨-1 / 2 / rad2deg, 1 / 2 / rad2deg, 0⟩ =
        .success 1 ∧
      twoColumnsGrid.Interpolates (.ofArray false 1 twoColumns)
        ⟨-1 / 2 / rad2deg, 1 / 2 / rad2deg, 0⟩ := by
  refine ⟨by decide +kernel, by decide +kernel,
    (interpolates_iff false 1 twoColumns laid_twoColumnsGrid _).2 ?_⟩
  refine (GridData.inPlace_iff (GridData.atNode_addGridded addGridded_twoColumns rfl _
    (AList.lookup_insert _))).2 ?_
  intro i tl tr bl br htl hcovers _ _ _ _
  have hlength : twoColumnsGrid.gridPoints.length = 6 := by decide +kernel
  have hlt : i < 6 := by
    rw [← hlength]
    exact (List.getElem?_eq_some_iff.1 (GridData.validAt_eq_some.1 htl).1).1
  -- only the first point covers the middle of the first square
  have hfirst : ∀ i < 6, ∀ point ∈ twoColumnsGrid.validAt i,
      twoColumnsGrid.covers point ⟨-1 / 2 / rad2deg, 1 / 2 / rad2deg, 0⟩ = true → i = 0 := by
    decide +kernel
  rw [hfirst i hlt tl htl hcovers]
  decide

/-- Half a degree east of the last column. -/
theorem not_interpolates_twoColumnsGrid :
    ¬twoColumnsGrid.Interpolates (.ofArray false 1 twoColumns)
      ⟨-1 / 2 / rad2deg, 3 / 2 / rad2deg, 0⟩ := by
  intro h
  have hfound : (twoColumnsGrid.find4Points ⟨-1 / 2 / rad2deg, 3 / 2 / rad2deg, 0⟩).map
      (·.tl.absoluteIndex) = some 1 := by decide +kernel
  obtain ⟨c, hc, htl⟩ := Option.map_eq_some_iff.1 hfound
  obtain ⟨i, hi⟩ := (h.cell c hc).corners
  obtain rfl : i = 1 := hi.tl.symm.trans htl
  exact absurd hi.column (by decide)

end SuplLpp.Tokoro
