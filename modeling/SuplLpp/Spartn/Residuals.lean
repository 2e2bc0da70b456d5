import SuplLpp.Spartn.Clean

/-!
# The residuals of the grid points

LPP lists residuals only for the grid points that a set has, in the order of the rows.  The
generator numbers the points that are there anew and gives all others the number −1.

* `residualAt`: what LPP says of a satellite at a position of its list;
* `lookup_satelliteTable`: the residuals that are collected for a satellite are these;
* `present`, `rank`: whether a point is there, and its position in the list; `gridPoints_eq`:
  the numbers of the points;
* `filtersByResiduals_iff`: the test for all residuals, and the residuals that are sent.
-/

namespace SuplLpp.Spartn

open Asn Fallible

/-! ### Satellites by their elements -/

/-- What is collected for a satellite comes from its elements. -/
theorem lookup_collect {σ ε : Type} (new : SvId → σ) (svId : ε → SvId) (add : σ → ε → σ)
    (satellites : Table SvId σ) (elements : List ε) (k : SvId) :
    (collect new svId add satellites elements).lookup k =
      (elements.filter fun e => svId e = k).foldl (fun s e => some (add (s.getD (new k)) e))
        (satellites.lookup k) := by
  induction elements generalizing satellites with
  | nil => rfl
  | cons e es ih =>
    refine (ih _).trans ?_
    rw [Table.lookup_upsert, List.filter_cons]
    by_cases h : svId e = k
    · rw [if_pos (decide_eq_true h), List.foldl_cons, if_pos h.symm, h]
    · rw [if_neg (fun hk => h hk.symm), if_neg (by simpa using h)]

/-- Of the values that are stored under a key, the last one stays. -/
theorem lookup_foldl_insert {κ ν : Type} [DecidableEq κ] (t : Table κ ν) (entries : List (κ × ν))
    (k : κ) :
    (entries.foldl (fun t e => t.insert e.1 e.2) t).lookup k =
      (((entries.filter fun e => e.1 = k).getLast?).map (·.2)).or (t.lookup k) := by
  induction entries using List.reverseRecOn with
  | nil => rfl
  | append_singleton entries e ih =>
    rw [List.foldl_append, List.foldl_cons, List.foldl_nil, Table.lookup_insert, ih,
      List.filter_append]
    by_cases h : e.1 = k
    · simp [h]
    · simp [h, Ne.symm h]

namespace HpacCorrections

variable (corrections : HpacCorrections)

/-- The residual of a satellite at a position of the grid list; the last one, if it has
several. -/
def residualAt (id : SvId) (position : ℕ) : Option StecResidualSatElement :=
  (corrections.grid[position]?).bind fun element =>
    (((element.stecResidualSatList.map (·.1)).getD []).filter fun e => e.svId = id).getLast?

/-- The element at a position, where a position is a number of the code. -/
def elementAt {α : Type} (l : List α) (k : ℕ) (z : ℤ) : Option α :=
  if (k : ℤ) ≤ z then l[(z - k).toNat]? else none

/-- What carries a number comes from the element at this position. -/
theorem filter_zipIdx {α β : Type} (f : α → List β) (p : β → Bool) (l : List α) (k : ℕ) (z : ℤ) :
    (((l.zipIdx k).flatMap fun entry => (f entry.1).map fun x => ((entry.2 : ℤ), x)).filter
        fun e => decide (e.1 = z) && p e.2) =
      ((elementAt l k z).elim [] fun a => (f a).filter p).map fun x => (z, x) := by
  induction l generalizing k with
  | nil => simp [elementAt]
  | cons a l ih =>
    rw [List.zipIdx_cons, List.flatMap_cons, List.filter_append, ih, List.filter_map]
    rcases lt_trichotomy z k with h | h | h
    · have hcons : elementAt (a :: l) k z = none := if_neg (by omega)
      have htail : elementAt l (k + 1) z = none := if_neg (by push_cast; omega)
      have hne : ¬(k : ℤ) = z := by omega
      rw [hcons, htail]
      simp [hne, Function.comp_def]
    · have hcons : elementAt (a :: l) k z = some a := by
        rw [elementAt, if_pos (by omega), show (z - k).toNat = 0 by omega]
        rfl
      have htail : elementAt l (k + 1) z = none := if_neg (by push_cast; omega)
      rw [hcons, htail]
      simp [h, Function.comp_def]
    · have hcons : elementAt (a :: l) k z = elementAt l (k + 1) z := by
        rw [elementAt, elementAt, if_pos (by omega), if_pos (by push_cast; omega),
          show (z - k).toNat = (z - (k + 1 : ℕ)).toNat + 1 by omega]
        rfl
      have hne : ¬(k : ℤ) = z := by omega
      rw [hcons]
      simp [hne, Function.comp_def]

/-- The coefficients of a satellite leave its residuals alone. -/
theorem residuals_foldl_stec (d : HpacSatellite) (elements : List StecSatElement)
    (s : Option HpacSatellite) :
    ((elements.foldl (fun s e => some { s.getD d with stec := some e }) s).getD d).residuals =
      (s.getD d).residuals := by
  induction elements generalizing s with
  | nil => rfl
  | cons e es ih => exact ih _

theorem residuals_foldl_residual (d : HpacSatellite)
    (elements : List (ℤ × StecResidualSatElement)) (s : Option HpacSatellite) :
    ((elements.foldl (fun s r => some { s.getD d with
        residuals := (s.getD d).residuals.insert r.1 r.2 }) s).getD d).residuals =
      elements.foldl (fun t r => t.insert r.1 r.2) (s.getD d).residuals := by
  induction elements generalizing s with
  | nil => rfl
  | cons r rs ih => exact ih _

/-- **What is collected** for a satellite at a number is what LPP says at this position. -/
theorem lookup_satelliteTable {id : SvId} {satellite : HpacSatellite}
    (h : corrections.satelliteTable.lookup id = some satellite) (z : ℤ) :
    satellite.residuals.lookup z =
      if 0 ≤ z then corrections.residualAt id z.toNat else none := by
  have hresiduals : satellite.residuals =
      (corrections.residuals.filter fun r => r.2.svId = id).foldl
        (fun t r => t.insert r.1 r.2) ∅ := by
    rw [satelliteTable, lookup_collect, lookup_collect] at h
    have hfold := congrArg (fun s => (s.getD (HpacSatellite.new id)).residuals) h
    rw [residuals_foldl_residual, residuals_foldl_stec] at hfold
    exact hfold.symm
  rw [hresiduals, lookup_foldl_insert, List.filter_filter, AList.lookup_empty, Option.or_none,
    residuals]
  have hposition := filter_zipIdx
    (fun element : GridElement => (element.stecResidualSatList.map (·.1)).getD [])
    (fun e => decide (e.svId = id)) corrections.grid 0 z
  rw [hposition, List.getLast?_map, Option.map_map]
  unfold elementAt residualAt
  by_cases hz : 0 ≤ z
  · rw [if_pos hz, if_pos (by exact_mod_cast hz), Nat.cast_zero, sub_zero]
    cases corrections.grid[z.toNat]? with
    | none => rfl
    | some element => simp [Function.comp_def]
  · rw [if_neg hz, if_neg (by exact_mod_cast hz)]
    rfl

end HpacCorrections

/-! ### The numbers of the grid points -/

namespace CorrectionPointGrid

/-- The points row by row. -/
theorem flatMap_range (r : ℕ) {c : ℕ} (hc : 0 < c) :
    ((List.range r).flatMap fun x => (List.range c).map fun y => (x, y)) =
      (List.range (r * c)).map fun i => (i / c, i % c) := by
  induction r with
  | zero => simp
  | succ r ih =>
    rw [List.range_succ, List.flatMap_append, ih, List.flatMap_singleton, Nat.add_one_mul,
      List.range_add, List.map_append, List.map_map]
    congr 1
    apply List.map_congr_left
    intro y hy
    have hlt := List.mem_range.1 hy
    simp [Nat.add_comm (r * c), Nat.add_mul_div_right _ _ hc, Nat.div_eq_of_lt hlt,
      Nat.add_mul_mod_self_right, Nat.mod_eq_of_lt hlt]

variable (grid : CorrectionPointGrid) (build : Build)

theorem rounds_eq : grid.rounds = (List.range grid.gridPointCount).map fun i =>
    (i / (grid.numberOfStepsLongitude + 1), i % (grid.numberOfStepsLongitude + 1)) :=
  flatMap_range _ (Nat.succ_pos _)

/-- The bitmask has the point. -/
def present (i : ℕ) : Bool :=
  match grid.hasGridPoint build i with
  | .ok has => has
  | .error _ => false

/-- The position of a point among those that are there. -/
def rank (i : ℕ) : ℕ := (List.range i).countP (grid.present build)

/-- The point with an index in the order of the rows. -/
def point (i : ℕ) : GridPoint :=
  ⟨if grid.present build i then grid.rank build i else -1,
    grid.referencePointLatitude - grid.latitudeDelta * (i / (grid.numberOfStepsLongitude + 1) : ℕ),
    grid.referencePointLongitude +
      grid.longitudeDelta * (i % (grid.numberOfStepsLongitude + 1) : ℕ)⟩

theorem rank_succ (i : ℕ) :
    grid.rank build (i + 1) = grid.rank build i + (grid.present build i).toNat := by
  unfold rank
  rw [List.range_succ, List.countP_append, List.countP_singleton]
  cases grid.present build i <;> rfl

/-- A round appends the point of its index. -/
theorem addGridPoint_eq {i : ℕ} {points points' : List GridPoint × ℤ}
    (hrank : points.2 = grid.rank build i)
    (h : grid.addGridPoint build points
      (i / (grid.numberOfStepsLongitude + 1), i % (grid.numberOfStepsLongitude + 1)) =
        .ok points') :
    points'.1 = points.1 ++ [grid.point build i] ∧ points'.2 = grid.rank build (i + 1) := by
  obtain ⟨has, hhas, h⟩ := bind_eq_ok.1 h
  dsimp only at hhas
  rw [Nat.div_add_mod'] at hhas
  have hpresent : grid.present build i = has := by
    rw [present, hhas]
  cases h
  rw [rank_succ, point, hpresent, ← hrank]
  cases has with
  | true => simp [hrank]
  | false => simp [hrank]

/-- **The grid points**: all of the rectangle, numbered if they are there. -/
theorem calculateGridPoints_eq {points : List GridPoint}
    (h : grid.calculateGridPoints build = .ok points) :
    points = (List.range grid.gridPointCount).map (grid.point build) := by
  obtain ⟨state, hloop, h⟩ := bind_eq_ok.1 h
  cases h
  rw [rounds_eq, List.foldlM_map] at hloop
  suffices hall : ∀ n (state : List GridPoint × ℤ), (List.range n).foldlM
      (fun points i => grid.addGridPoint build points
        (i / (grid.numberOfStepsLongitude + 1), i % (grid.numberOfStepsLongitude + 1))) ([], 0) =
          .ok state →
        state.1 = (List.range n).map (grid.point build) ∧ state.2 = grid.rank build n from
    (hall _ _ hloop).1
  intro n
  induction n with
  | zero =>
    intro state hstate
    cases hstate
    exact ⟨rfl, rfl⟩
  | succ n ih =>
    intro state hstate
    rw [List.range_succ, List.foldlM_append] at hstate
    obtain ⟨before, hbefore, hlast⟩ := bind_eq_ok.1 hstate
    rw [List.foldlM_cons] at hlast
    obtain ⟨after, hafter, hnil⟩ := bind_eq_ok.1 hlast
    cases hnil
    obtain ⟨hpoints, hrank⟩ := ih before hbefore
    obtain ⟨hpoints', hrank'⟩ := grid.addGridPoint_eq build hrank hafter
    rw [hpoints', hpoints, List.range_succ, List.map_append]
    exact ⟨rfl, hrank'⟩

/-- All points can be looked up, unless a word is shifted by more than it has bits. -/
theorem finishes_calculateGridPoints_iff :
    Finishes (grid.calculateGridPoints build) ↔
      (build.checkedShifts = true → grid.gridPointCount ≤ 64) := by
  have hpoint : ∀ i : ℕ, Finishes (grid.hasGridPoint build i) ↔
      (build.checkedShifts = true → i < 64) := by
    intro i
    unfold hasGridPoint Build.testBit
    split_ifs with hrange hshift
    · exact iff_of_true (finishes_ok _) fun _ => by omega
    · exact iff_of_false (not_finishes_error _) fun h => hrange (by have := h hshift; omega)
    · exact iff_of_true (finishes_ok _) fun h => absurd h hshift
  have hloop : Finishes (grid.rounds.foldlM (grid.addGridPoint build) ([], 0)) ↔
      ∀ xy ∈ grid.rounds, build.checkedShifts = true →
        xy.1 * (grid.numberOfStepsLongitude + 1) + xy.2 < 64 :=
    finishes_foldlM (p := fun _ => True) trivial
      (fun xy _ points _ => finishes_bind_of_total (hpoint _) fun _ _ => finishes_pure _)
      fun _ _ _ _ _ _ => trivial
  refine (finishes_bind_of_total hloop fun _ _ => finishes_pure _).trans ?_
  rw [rounds_eq, List.forall_mem_map]
  constructor
  · intro h hshift
    by_contra hcount
    have hlast := h 64 (List.mem_range.2 (by omega)) hshift
    dsimp only at hlast
    rw [Nat.div_add_mod'] at hlast
    omega
  · intro h i hi hshift
    have hcount := h hshift
    have hlt := List.mem_range.1 hi
    dsimp only
    rw [Nat.div_add_mod']
    omega

end CorrectionPointGrid

/-! ### The filter -/

/-- What is sent for a grid point, with its residual if it has one. -/
def stecResidual (cfg : Config) (p : StecParameters) (gp : GridPoint)
    (residual : Option StecResidualSatElement) : StecResidual :=
  let remaining :=
    if cfg.mStecMethod = .moveToResiduals then p.evaluateAtPoint gp.latitude gp.longitude - p.c00
    else 0
  match residual with
  | none => ⟨remaining, true⟩
  | some element =>
    let residual := stecResidualCorrection element
    ⟨(if cfg.mSignFlipStecResiduals then -residual else residual) + remaining, false⟩

theorem computeStecResiduals_eq (cfg : Config) (set : CorrectionPointSet)
    (satellite : HpacSatellite) (p : StecParameters) :
    computeStecResiduals cfg set satellite p = set.gridPoints.map fun gp =>
      stecResidual cfg p gp (satellite.residuals.lookup gp.id) := rfl

/-- A satellite of the list has its own number, and was collected under it. -/
theorem lookup_of_mem_satellites {corrections : HpacCorrections} {s : HpacSatellite}
    (h : s ∈ corrections.satellites) : corrections.satelliteTable.lookup s.id = some s := by
  obtain ⟨k, hk⟩ := mem_sortedById.1 h
  have hnumbered : Numbered HpacSatellite.id corrections.satelliteTable := by
    have hnew : ∀ k, (HpacSatellite.new k).id = k := fun _ => rfl
    refine Numbered.collect ?_ hnew (by intro _ _; rfl) _
    exact Numbered.collect numbered_empty hnew (by intro _ _; rfl) _
  rwa [hnumbered k s hk]

/-- The residual of a point: the one at its position, and none where it is not there. -/
theorem lookup_point {corrections : HpacCorrections} {s : HpacSatellite}
    (hs : s ∈ corrections.satellites) (grid : CorrectionPointGrid) (build : Build) (i : ℕ) :
    s.residuals.lookup (grid.point build i).id =
      if grid.present build i then corrections.residualAt s.id (grid.rank build i) else none := by
  rw [corrections.lookup_satelliteTable (lookup_of_mem_satellites hs),
    CorrectionPointGrid.point]
  dsimp only
  split_ifs <;> first | rfl | omega

section Filter

variable (build : Build) (cfg : Config) (setId areaId : ℕ)
  (array : GnssSsrArrayOfCorrectionPoints) (corrections : HpacCorrections)

/-- As the filter is meant to work: the set has its grid points; a satellite has all residuals if
it has one at every point that the bitmask has, and what is sent for such a point comes from the
position of the point among those that are there. -/
def FiltersByResiduals : Prop :=
  ∃ set, newCorrectionPointSet build cfg setId areaId array = .ok set ∧
    ∀ s ∈ corrections.satellites,
      (s.hasAllResiduals set = true ↔
        ∀ i < set.gridPointCount, set.present build i = true →
          (corrections.residualAt s.id (set.rank build i)).isSome = true) ∧
      ∀ p, ∀ i < set.gridPointCount, set.present build i = true →
        (computeStecResiduals cfg set s p)[i]? =
          some (stecResidual cfg p (set.point build i)
            (corrections.residualAt s.id (set.rank build i)))

theorem newCorrectionPointSet_iff :
    Finishes (newCorrectionPointSet build cfg setId areaId array) ↔
      (build.checkedShifts = true → (correctionPointGrid cfg array).gridPointCount ≤ 64) := by
  rw [← CorrectionPointGrid.finishes_calculateGridPoints_iff]
  unfold newCorrectionPointSet
  dsimp only
  split
  · next points h => exact iff_of_true (finishes_ok _) ⟨points, h⟩
  · next e h =>
    refine iff_of_false (not_finishes_error _) fun ⟨points, hpoints⟩ => ?_
    rw [h] at hpoints
    cases hpoints

variable {build cfg setId areaId array corrections} {set : CorrectionPointSet}
  (hset : newCorrectionPointSet build cfg setId areaId array = .ok set)
include hset

theorem gridPoints_eq :
    set.gridPoints = (List.range set.gridPointCount).map (set.point build) := by
  unfold newCorrectionPointSet at hset
  dsimp only at hset
  split at hset
  · next points h =>
    cases hset
    exact CorrectionPointGrid.calculateGridPoints_eq _ build h
  · cases hset

variable {s : HpacSatellite} (hs : s ∈ corrections.satellites)
include hs

/-- The test asks for a residual at every point, also where there is no point. -/
theorem hasAllResiduals_iff :
    s.hasAllResiduals set = true ↔ ∀ i < set.gridPointCount, set.present build i = true ∧
      (corrections.residualAt s.id (set.rank build i)).isSome = true := by
  rw [HpacSatellite.hasAllResiduals, gridPoints_eq hset, List.all_map, List.all_eq_true]
  constructor
  · intro h i hi
    have hone := h i (List.mem_range.2 hi)
    rw [Function.comp_apply, lookup_point hs] at hone
    split_ifs at hone with hpresent
    · exact ⟨hpresent, hone⟩
    · cases hone
  · intro h i hi
    obtain ⟨hpresent, hresidual⟩ := h i (List.mem_range.1 hi)
    rwa [Function.comp_apply, lookup_point hs, if_pos hpresent]

/-- What is sent for a point that is there. -/
theorem computeStecResiduals_present (cfg : Config) (p : StecParameters) {i : ℕ}
    (hi : i < set.gridPointCount) (hpresent : set.present build i = true) :
    (computeStecResiduals cfg set s p)[i]? =
      some (stecResidual cfg p (set.point build i)
        (corrections.residualAt s.id (set.rank build i))) := by
  rw [computeStecResiduals_eq, gridPoints_eq hset, List.map_map, List.getElem?_map,
    List.getElem?_range hi, Option.map_some, Function.comp_apply, lookup_point hs,
    if_pos hpresent]

end Filter

/-- **Filter by residuals.**  The filter works as it should exactly if every point can be looked
up in the bitmask, and for each satellite either all points of the rectangle are there or a
residual is missing at one that is. -/
theorem filtersByResiduals_iff (build : Build) (cfg : Config) (setId areaId : ℕ)
    (array : GnssSsrArrayOfCorrectionPoints) (corrections : HpacCorrections) :
    FiltersByResiduals build cfg setId areaId array corrections ↔
      (build.checkedShifts = true → (correctionPointGrid cfg array).gridPointCount ≤ 64) ∧
        ∀ s ∈ corrections.satellites,
          (∀ i < (correctionPointGrid cfg array).gridPointCount,
            (correctionPointGrid cfg array).present build i = true) ∨
          ∃ i < (correctionPointGrid cfg array).gridPointCount,
            (correctionPointGrid cfg array).present build i = true ∧
              corrections.residualAt s.id
                ((correctionPointGrid cfg array).rank build i) = none := by
  rw [← newCorrectionPointSet_iff build cfg setId areaId array]
  constructor
  · rintro ⟨set, hset, hall⟩
    refine ⟨⟨set, hset⟩, fun s hs => ?_⟩
    obtain ⟨hgrid, -, -⟩ := newCorrectionPointSet_grid cfg hset
    rw [← hgrid]
    have htest := (hall s hs).1
    rw [hasAllResiduals_iff hset hs] at htest
    by_contra hneither
    rw [not_or, not_exists] at hneither
    obtain ⟨hmissing, hresiduals⟩ := hneither
    refine hmissing fun i hi => (htest.2 (fun j hj hpresent => ?_) i hi).1
    exact Option.isSome_iff_ne_none.2 fun hnone => hresiduals j ⟨hj, hpresent, hnone⟩
  · rintro ⟨⟨set, hset⟩, hall⟩
    obtain ⟨hgrid, -, -⟩ := newCorrectionPointSet_grid cfg hset
    rw [← hgrid] at hall
    refine ⟨set, hset, fun s hs => ⟨?_, fun p i hi hpresent =>
      computeStecResiduals_present hset hs cfg p hi hpresent⟩⟩
    rw [hasAllResiduals_iff hset hs]
    rcases hall s hs with hpresent | ⟨i, hi, hpresent, hnone⟩
    · exact ⟨fun h i hi _ => (h i hi).2, fun h i hi => ⟨hpresent i hi, h i hi (hpresent i hi)⟩⟩
    · constructor
      · intro h j hj _
        exact (h j hj).2
      · intro h
        have hsome := h i hi hpresent
        rw [hnone] at hsome
        cases hsome

/-! A set of two points, of which the second is not there, and a satellite with a residual at the
first. -/

def maskedArray : GnssSsrArrayOfCorrectionPoints where
  referencePointLatitude := ⟨0, Integer.mem_neg⟩
  referencePointLongitude := ⟨0, Integer.mem_neg⟩
  numberOfStepsLatitude := ⟨0, Integer.mem⟩
  numberOfStepsLongitude := ⟨1, Integer.mem⟩
  stepOfLatitude := ⟨1, Integer.mem⟩
  stepOfLongitude := ⟨1, Integer.mem⟩
  bitmaskOfGrids := some ⟨true :: List.replicate 63 false, by decide⟩

def maskedResidual : StecResidualSatElement := ⟨⟨0, Integer.mem⟩, .b7 ⟨0, Integer.mem_neg⟩⟩

def maskedCorrections : HpacCorrections :=
  { HpacCorrections.new with
    gridded := some
      { epochTime := ⟨.gps, ⟨0, Integer.mem⟩, ⟨0, Integer.mem⟩, none⟩
        iodSsr := ⟨0, Integer.mem⟩
        troposphericDelayQualityIndicator := none
        correctionPointSetId := ⟨0, Integer.mem⟩
        gridList := ⟨[⟨none, some ⟨[maskedResidual], by decide⟩⟩], by decide⟩ } }

/-- The satellite is said not to have all residuals. -/
theorem not_filtersByResiduals_masked :
    ¬FiltersByResiduals .checked .new 0 0 maskedArray maskedCorrections := by
  rintro ⟨set, hset, hall⟩
  have hlookup : maskedCorrections.satelliteTable.lookup ⟨0, by decide⟩ =
      some ⟨⟨0, by decide⟩, none, (∅ : Table ℤ _).insert 0 maskedResidual⟩ := rfl
  have hs := (@mem_sortedById _ HpacSatellite.id _ _).2 ⟨_, hlookup⟩
  have htest := (hall _ hs).1
  obtain ⟨hgrid, -, -⟩ := newCorrectionPointSet_grid .new hset
  rw [hasAllResiduals_iff hset hs, hgrid] at htest
  have hfirst : (correctionPointGrid .new maskedArray).present .checked 0 = true := rfl
  have hsecond : (correctionPointGrid .new maskedArray).present .checked 1 = false := rfl
  have hcount : (correctionPointGrid .new maskedArray).gridPointCount = 2 := rfl
  have hboth := htest.2 fun i hi hpresent => by
    rw [hcount] at hi
    have hi' : i = 0 := by
      by_contra hne
      rw [show i = 1 by omega, hsecond] at hpresent
      cases hpresent
    rw [hi']
    rfl
  have hpresent := (hboth 1 (by rw [hcount]; omega)).1
  rw [hsecond] at hpresent
  cases hpresent

end SuplLpp.Spartn
