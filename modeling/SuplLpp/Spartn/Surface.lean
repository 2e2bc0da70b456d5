import SuplLpp.Lib.Bilinear
import SuplLpp.Spartn.Quantisation
import SuplLpp.Spartn.Residuals

/-!
# The ionosphere about another point

LPP gives the slant delay of a satellite as a polynomial about the first grid point, with a
residual for each point; SPARTN takes the polynomial about the middle of the grid.

* `lppPolynomial`, `lppResidual`: what LPP says, after the signs are flipped;
* `SentSatellite`: the coefficients and the residuals that a message has; `ionosphereSatellite_eq`:
  its bits are these;
* `computeStecParameters_surface`: the code moves the origin;
* `delayPreserved_iff`: the methods `Default` and `MoveToResiduals` send the same delays, exactly
  if whatever is moved has a residual to go to.
-/

namespace SuplLpp.Spartn

open Asn Fallible MessageBuilder

/-! ### What LPP says -/

def flipped (flip : Bool) (value : ℚ) : ℚ := if flip then -value else value

/-- The polynomial of a satellite, about the first grid point. -/
def lppPolynomial (cfg : Config) (set : CorrectionPointSet) (element : StecSatElement) :
    Bilinear ℚ where
  originX := set.referencePointLatitude
  originY := set.referencePointLongitude
  constant := flipped cfg.mSignFlipC00 (element.stecC00.1 * 0.05)
  slopeX := flipped cfg.mSignFlipC01 (optional element.stecC01 0.02)
  slopeY := flipped cfg.mSignFlipC10 (optional element.stecC10 0.02)
  twist := flipped cfg.mSignFlipC11 (optional element.stecC11 0.02)

/-- The residual of a satellite at a point; 0 if it has none there. -/
def lppResidual (cfg : Config) (satellite : HpacSatellite) (gp : GridPoint) : ℚ :=
  match satellite.residuals.lookup gp.id with
  | none => 0
  | some element => flipped cfg.mSignFlipStecResiduals (stecResidualCorrection element)

/-! ### What is sent -/

namespace CorrectionPointGrid

variable (grid : CorrectionPointGrid)

/-- Between the first row and the last one. -/
def middleLatitude : ℚ :=
  (grid.referencePointLatitude +
    (grid.referencePointLatitude - grid.latitudeDelta * grid.numberOfStepsLatitude)) / 2

/-- Between the first column and the last one. -/
def middleLongitude : ℚ :=
  (grid.referencePointLongitude +
    (grid.referencePointLongitude + grid.longitudeDelta * grid.numberOfStepsLongitude)) / 2

end CorrectionPointGrid

/-- The coefficients and the residuals of a satellite in a message, in the order of their
fields. -/
structure SentSatellite where
  coefficients : List ℚ
  residuals : List (Option ℚ)

/-- The delay at a grid point; a residual that is not there counts as 0. -/
def SentSatellite.delayAt (sent : SentSatellite) (set : CorrectionPointSet) (i : ℕ)
    (gp : GridPoint) : ℚ :=
  (Bilinear.ofCoefficients set.middleLatitude set.middleLongitude sent.coefficients).eval
      gp.latitude gp.longitude +
    (sent.residuals.getD i none).getD 0

def sentCoefficients (p : StecParameters) : List ℚ :=
  (coefficientEntries p (computeCoefficientSizeIndicator p)).filterMap (·.2)

def sentResidual (cfg : Config) (r : StecResidual) : Option ℚ :=
  if r.invalid && !cfg.mStecInvalidToZero then none else some r.residual

section

variable (cfg : Config) (set : CorrectionPointSet) (corrections : HpacCorrections)
  (ocb : Option OcbCorrections)

def stecParameters (element : StecSatElement) : StecParameters :=
  computeStecParameters cfg set element
    (ionosphereEquationType cfg (ionosphereSatellites cfg set corrections ocb))

/-- What the message has of a satellite: residuals only if there are gridded corrections. -/
def sentSatellite (satellite : HpacSatellite) (element : StecSatElement) : SentSatellite where
  coefficients := sentCoefficients (stecParameters cfg set corrections ocb element)
  residuals :=
    if computeIonosphereBlockType corrections = 2 then
      (computeStecResiduals cfg set satellite
        (stecParameters cfg set corrections ocb element)).map (sentResidual cfg)
    else []

/-- With the transform on and nothing discarded, the message gives the delay that LPP gives, for
every satellite at every grid point. -/
def DelayPreserved : Prop :=
  cfg.mStecTranform = true → cfg.mStecMethod ≠ .discardC01C10C11 →
    ∀ satellite ∈ ionosphereSatellites cfg set corrections ocb, ∀ element ∈ satellite.stec,
      ∀ i gp, set.gridPoints[i]? = some gp →
        (sentSatellite cfg set corrections ocb satellite element).delayAt set i gp =
          (lppPolynomial cfg set element).eval gp.latitude gp.longitude +
            lppResidual cfg satellite gp

/-- What is moved to the residual of a point is sent, or is 0. -/
def MovedPartSent (satellite : HpacSatellite) (element : StecSatElement) (gp : GridPoint) : Prop :=
  computeIonosphereBlockType corrections = 2 ∧
      ((satellite.residuals.lookup gp.id).isSome = true ∨ cfg.mStecInvalidToZero = true) ∨
    (lppPolynomial cfg set element).eval gp.latitude gp.longitude =
      (lppPolynomial cfg set element).eval set.middleLatitude set.middleLongitude

end

/-! ### The bits of a satellite -/

theorem filterMap_coefficientEntries (p : StecParameters) (large : Bool) :
    (coefficientEntries p large).filterMap (·.2) =
      [p.c00] ++ (if p.equationType ≥ 1 then [p.c01, p.c10] else []) ++
        if p.equationType ≥ 2 then [p.c11] else [] := by
  unfold coefficientEntries
  split_ifs <;> rfl

/-- **What a message has of a satellite** are the coefficients and the residuals of
`SentSatellite`, each in its field. -/
theorem ionosphereSatellite_eq (cfg : Config) (set : CorrectionPointSet)
    (corrections : HpacCorrections) (ocb : Option OcbCorrections) {satellite : HpacSatellite}
    {element : StecSatElement} (h : satellite.stec = some element) :
    ∃ header, ∃ size : Fin 4, ∃ coefficients residuals : List (DoubleField × Option ℚ),
      ionosphereSatellite cfg set (computeIonosphereBlockType corrections)
          (ionosphereEquationType cfg (ionosphereSatellites cfg set corrections ocb)) satellite =
        .ok (header ++ coefficients.flatMap entryBits ++
          if computeIonosphereBlockType corrections = 2 then
            sf063 size ++ residuals.flatMap entryBits
          else []) ∧
      sentSatellite cfg set corrections ocb satellite element =
        ⟨coefficients.filterMap (·.2),
          if computeIonosphereBlockType corrections = 2 then residuals.map (·.2) else []⟩ := by
  set p := stecParameters cfg set corrections ocb element with hp
  obtain ⟨large, hcoefficients, -⟩ := ionosphereDataBlock1_selects cfg element p
  obtain ⟨size, hresiduals, -⟩ := ionosphereDataBlock2_selects cfg set satellite p
  refine ⟨sf055Field cfg element.stecQualityIndicator ++ sf056 large, size,
    coefficientEntries p large,
    stecResidualEntries cfg (computeStecResiduals cfg set satellite p) size, ?_, ?_⟩
  · unfold ionosphereSatellite
    rw [h]
    unfold stecParameters at hp
    dsimp only
    rw [← hp, hcoefficients, hresiduals]
    split_ifs <;> rfl
  · unfold sentSatellite sentCoefficients
    rw [← hp, filterMap_coefficientEntries, filterMap_coefficientEntries, stecResidualEntries,
      List.map_map]
    rfl

/-! ### Another origin -/

/-- The polynomial that `evaluate_at_point` evaluates. -/
def StecParameters.surface (p : StecParameters) : Bilinear ℚ :=
  ⟨p.referenceX, p.referenceY, p.c00, p.c01, p.c10, p.c11⟩

theorem evaluateAtPoint_eq (p : StecParameters) (x y : ℚ) :
    p.evaluateAtPoint x y = p.surface.eval x y := rfl

/-- **The transform** moves the origin to the middle of the grid. -/
theorem computeStecParameters_surface {cfg : Config} (h : cfg.mStecTranform = true)
    (set : CorrectionPointSet) (element : StecSatElement) (equationType : ℕ) :
    (computeStecParameters cfg set element equationType).surface =
      (lppPolynomial cfg set element).moveTo set.middleLatitude set.middleLongitude := by
  have hlatitude : set.middleLatitude =
      set.referencePointLatitude - set.latitudeGridSpacing / 2 := by
    unfold CorrectionPointGrid.middleLatitude CorrectionPointGrid.latitudeGridSpacing
    ring
  have hlongitude : set.middleLongitude =
      set.referencePointLongitude + set.longitudeGridSpacing / 2 := by
    unfold CorrectionPointGrid.middleLongitude CorrectionPointGrid.longitudeGridSpacing
    ring
  rw [hlatitude, hlongitude]
  unfold computeStecParameters
  simp only [h, if_true]
  ext <;> simp only [StecParameters.surface, Bilinear.moveTo, Bilinear.eval, lppPolynomial,
    flipped] <;> ring

theorem computeStecParameters_equationType (cfg : Config) (set : CorrectionPointSet)
    (element : StecSatElement) (equationType : ℕ) :
    (computeStecParameters cfg set element equationType).equationType = equationType := by
  unfold computeStecParameters
  split_ifs <;> rfl

/-- The coefficients that the equation type leaves out must be 0. -/
theorem eval_sentCoefficients {p : StecParameters}
    (h1 : p.equationType < 1 → p.c01 = 0 ∧ p.c10 = 0) (h2 : p.equationType < 2 → p.c11 = 0)
    (u v : ℚ) :
    (Bilinear.ofCoefficients p.referenceX p.referenceY (sentCoefficients p)).eval u v =
      p.surface.eval u v := by
  have hsurface : Bilinear.ofCoefficients p.referenceX p.referenceY (sentCoefficients p) =
      p.surface := by
    rw [sentCoefficients, filterMap_coefficientEntries]
    by_cases htwo : p.equationType < 2
    · by_cases hone : p.equationType < 1
      · ext <;> simp [Bilinear.ofCoefficients, StecParameters.surface, h1 hone, h2 htwo,
          show p.equationType = 0 by omega]
      · ext <;> simp [Bilinear.ofCoefficients, StecParameters.surface, h2 htwo,
          show p.equationType = 1 by omega]
    · ext <;> simp [Bilinear.ofCoefficients, StecParameters.surface,
        show 1 ≤ p.equationType by omega, show 2 ≤ p.equationType by omega]
  rw [hsurface]

/-! ### The equation type -/

/-- The equation type is enough for every satellite of the block. -/
theorem satelliteEquationType_le {satellites : List HpacSatellite} {satellite : HpacSatellite}
    {element : StecSatElement} (hmem : satellite ∈ satellites) (h : satellite.stec = some element) :
    satelliteEquationType element ≤ computeEquationType satellites := by
  have hfold : computeEquationType satellites = satellites.foldl (fun equationType satellite =>
      max equationType (satellite.stec.elim 0 satelliteEquationType)) 0 := by
    unfold computeEquationType
    congr
    funext equationType satellite
    cases satellite.stec <;> simp
  have hneeded := (foldl_max_le_iff.1 hfold.ge).2 satellite hmem
  rwa [h] at hneeded

/-- The coefficients that the equation type of a block leaves out are 0. -/
theorem computeStecParameters_zero {cfg : Config} (h : cfg.mStecTranform = true)
    (set : CorrectionPointSet) {element : StecSatElement} {equationType : ℕ}
    (htype : satelliteEquationType element ≤ equationType) :
    (equationType < 1 → (computeStecParameters cfg set element equationType).c01 = 0 ∧
      (computeStecParameters cfg set element equationType).c10 = 0) ∧
    (equationType < 2 → (computeStecParameters cfg set element equationType).c11 = 0) := by
  have hsurface := computeStecParameters_surface h set element equationType
  have htwist : equationType < 2 → (lppPolynomial cfg set element).twist = 0 := by
    intro htwo
    have hnone : element.stecC11 = none := by
      unfold satelliteEquationType at htype
      split_ifs at htype with h11 <;> first | omega | simpa using h11
    simp [lppPolynomial, hnone, optional, flipped]
  constructor
  · intro hone
    have hnone : element.stecC01 = none ∧ element.stecC10 = none := by
      unfold satelliteEquationType at htype
      split_ifs at htype with h11 h01 <;> first | omega | simpa using h01
    have hslopeX := congrArg Bilinear.slopeX hsurface
    have hslopeY := congrArg Bilinear.slopeY hsurface
    simp only [Bilinear.moveTo, StecParameters.surface, htwist (by omega), zero_mul,
      add_zero] at hslopeX hslopeY
    rw [hslopeX, hslopeY]
    simp [lppPolynomial, hnone, optional, flipped]
  · intro htwo
    exact (congrArg Bilinear.twist hsurface).trans (htwist htwo)

/-! ### The residuals -/

theorem stec_foldl_residual (d : HpacSatellite) (elements : List (ℤ × StecResidualSatElement))
    (s : Option HpacSatellite) :
    ((elements.foldl (fun s r => some { s.getD d with
        residuals := (s.getD d).residuals.insert r.1 r.2 }) s).getD d).stec = (s.getD d).stec := by
  induction elements generalizing s with
  | nil => rfl
  | cons r rs ih => exact ih _

/-- The coefficients of a satellite come from the list of coefficients. -/
theorem isSome_stec_of_mem {corrections : HpacCorrections} {satellite : HpacSatellite}
    {element : StecSatElement} (hmem : satellite ∈ corrections.satellites)
    (h : satellite.stec = some element) : corrections.stec.isSome = true := by
  cases hstec : corrections.stec with
  | some stec => rfl
  | none =>
    have hlookup := lookup_of_mem_satellites hmem
    rw [HpacCorrections.satelliteTable, lookup_collect, lookup_collect,
      HpacCorrections.stecs, hstec] at hlookup
    have hfold := congrArg (fun s => (s.getD (HpacSatellite.new satellite.id)).stec) hlookup
    rw [stec_foldl_residual] at hfold
    rw [Option.getD_some, h] at hfold
    cases hfold

/-- Without a grid in the block, no satellite has residuals. -/
theorem lookup_residuals_none {corrections : HpacCorrections} {satellite : HpacSatellite}
    {element : StecSatElement} (hmem : satellite ∈ corrections.satellites)
    (h : satellite.stec = some element) (htype : computeIonosphereBlockType corrections ≠ 2)
    (z : ℤ) : satellite.residuals.lookup z = none := by
  have hgridded : corrections.gridded = none := by
    obtain ⟨stec, hstec⟩ := Option.isSome_iff_exists.1 (isSome_stec_of_mem hmem h)
    cases hgridded : corrections.gridded with
    | none => rfl
    | some data => simp [computeIonosphereBlockType, hstec, hgridded] at htype
  have hgrid : corrections.grid = [] := by rw [HpacCorrections.grid, hgridded]; rfl
  rw [corrections.lookup_satelliteTable (lookup_of_mem_satellites hmem)]
  simp [HpacCorrections.residualAt, hgrid]

/-- The part of the polynomial that goes into the residual of a point. -/
def movedPart (cfg : Config) (p : StecParameters) (gp : GridPoint) : ℚ :=
  if cfg.mStecMethod = .moveToResiduals then p.surface.eval gp.latitude gp.longitude - p.c00 else 0

/-- The residual of a point with what is moved to it, where a residual is sent. -/
theorem sentResidual_eq (cfg : Config) (p : StecParameters) (satellite : HpacSatellite)
    (gp : GridPoint) :
    sentResidual cfg (stecResidual cfg p gp (satellite.residuals.lookup gp.id)) =
      if (satellite.residuals.lookup gp.id).isSome = true ∨ cfg.mStecInvalidToZero = true then
        some (lppResidual cfg satellite gp + movedPart cfg p gp)
      else none := by
  unfold sentResidual stecResidual lppResidual movedPart
  rw [evaluateAtPoint_eq]
  cases satellite.residuals.lookup gp.id with
  | none => cases cfg.mStecInvalidToZero <;> simp
  | some element => simp [flipped]

/-! ### The delay of a message -/

section

variable {cfg : Config} {set : CorrectionPointSet} {corrections : HpacCorrections}
  {ocb : Option OcbCorrections} {satellite : HpacSatellite} {element : StecSatElement}
  (htransform : cfg.mStecTranform = true) (hmethod : cfg.mStecMethod ≠ .discardC01C10C11)
  (hmem : satellite ∈ ionosphereSatellites cfg set corrections ocb)
  (hstec : satellite.stec = some element)
include htransform hmethod hmem hstec

/-- The polynomial that is sent lacks what is moved to the residuals. -/
theorem eval_sent (gp : GridPoint) :
    (Bilinear.ofCoefficients set.middleLatitude set.middleLongitude
      (sentSatellite cfg set corrections ocb satellite element).coefficients).eval
        gp.latitude gp.longitude =
      (lppPolynomial cfg set element).eval gp.latitude gp.longitude -
        movedPart cfg (stecParameters cfg set corrections ocb element) gp := by
  have hsurface : (stecParameters cfg set corrections ocb element).surface = _ :=
    computeStecParameters_surface htransform set element _
  have htype : (stecParameters cfg set corrections ocb element).equationType = _ :=
    computeStecParameters_equationType cfg set element _
  have heval : (stecParameters cfg set corrections ocb element).surface.eval
      gp.latitude gp.longitude =
        (lppPolynomial cfg set element).eval gp.latitude gp.longitude := by
    rw [hsurface, Bilinear.eval_moveTo]
  unfold movedPart
  rw [heval]
  change (Bilinear.ofCoefficients _ _
    (sentCoefficients (stecParameters cfg set corrections ocb element))).eval _ _ = _
  cases hcase : cfg.mStecMethod with
  | discardC01C10C11 => exact absurd hcase hmethod
  | moveToResiduals =>
    have hzero : (stecParameters cfg set corrections ocb element).equationType = 0 := by
      rw [htype, ionosphereEquationType, hcase]
    rw [sentCoefficients, filterMap_coefficientEntries, hzero]
    simp
  | default =>
    have hneeded : satelliteEquationType element ≤
        ionosphereEquationType cfg (ionosphereSatellites cfg set corrections ocb) := by
      rw [ionosphereEquationType, hcase]
      exact satelliteEquationType_le hmem hstec
    obtain ⟨hone, htwo⟩ := computeStecParameters_zero htransform set hneeded
    have hsent := eval_sentCoefficients (p := stecParameters cfg set corrections ocb element)
      (by rw [htype]; exact hone) (by rw [htype]; exact htwo) gp.latitude gp.longitude
    rw [heval] at hsent
    have hx : (stecParameters cfg set corrections ocb element).referenceX = set.middleLatitude :=
      congrArg Bilinear.originX hsurface
    have hy : (stecParameters cfg set corrections ocb element).referenceY = set.middleLongitude :=
      congrArg Bilinear.originY hsurface
    rw [hx, hy] at hsent
    simp [hsent]

omit htransform hmethod in
/-- A residual that is sent carries what is moved to it. -/
theorem residual_sent {i : ℕ} {gp : GridPoint} (hi : set.gridPoints[i]? = some gp) :
    ((sentSatellite cfg set corrections ocb satellite element).residuals.getD i none).getD 0 =
      lppResidual cfg satellite gp +
        if computeIonosphereBlockType corrections = 2 ∧
            ((satellite.residuals.lookup gp.id).isSome = true ∨ cfg.mStecInvalidToZero = true) then
          movedPart cfg (stecParameters cfg set corrections ocb element) gp
        else 0 := by
  have hnone : ∀ z, computeIonosphereBlockType corrections ≠ 2 →
      satellite.residuals.lookup z = none := fun z htype =>
    lookup_residuals_none (List.mem_filter.1 hmem).1 hstec htype z
  have hlpp : satellite.residuals.lookup gp.id = none → lppResidual cfg satellite gp = 0 := by
    intro h
    rw [lppResidual, h]
  unfold sentSatellite
  by_cases htype : computeIonosphereBlockType corrections = 2
  · simp only [htype, if_true, true_and]
    rw [computeStecResiduals_eq, List.map_map, List.getD_eq_getElem?_getD, List.getElem?_map, hi,
      Option.map_some, Option.getD_some, Function.comp_apply, sentResidual_eq]
    split_ifs with hsent
    · rfl
    · rw [not_or, Option.not_isSome_iff_eq_none] at hsent
      rw [hlpp hsent.1, add_zero]
      rfl
  · simp only [htype, if_false, false_and]
    rw [hlpp (hnone gp.id htype), add_zero]
    rfl

/-- **The delay of a message** is that of LPP exactly if nothing is lost that is moved. -/
theorem delayAt_eq_iff {i : ℕ} {gp : GridPoint} (hi : set.gridPoints[i]? = some gp) :
    (sentSatellite cfg set corrections ocb satellite element).delayAt set i gp =
        (lppPolynomial cfg set element).eval gp.latitude gp.longitude +
          lppResidual cfg satellite gp ↔
      (cfg.mStecMethod = .moveToResiduals →
        MovedPartSent cfg set corrections satellite element gp) := by
  have hconstant : (stecParameters cfg set corrections ocb element).c00 =
      (lppPolynomial cfg set element).eval set.middleLatitude set.middleLongitude :=
    congrArg Bilinear.constant (computeStecParameters_surface htransform set element _)
  have heval : (stecParameters cfg set corrections ocb element).surface.eval
      gp.latitude gp.longitude =
        (lppPolynomial cfg set element).eval gp.latitude gp.longitude := by
    have hsurface : (stecParameters cfg set corrections ocb element).surface = _ :=
      computeStecParameters_surface htransform set element _
    rw [hsurface, Bilinear.eval_moveTo]
  unfold SentSatellite.delayAt MovedPartSent
  rw [eval_sent htransform hmethod hmem hstec, residual_sent hmem hstec hi]
  unfold movedPart
  rw [heval, hconstant]
  by_cases hmove : cfg.mStecMethod = .moveToResiduals
  · simp only [hmove, if_true, forall_const]
    split_ifs with hsent
    · exact iff_of_true (by ring) (Or.inl hsent)
    · rw [or_iff_right hsent]
      constructor
      · intro h
        linarith
      · intro h
        rw [h]
        ring
  · simp [hmove]

end

/-- **The ionosphere about another point.**  With the transform on, the methods `Default` and
`MoveToResiduals` send the delays of LPP exactly if, where the polynomial is moved to the
residuals, each point has a residual in the message or the delay of the middle. -/
theorem delayPreserved_iff (cfg : Config) (set : CorrectionPointSet)
    (corrections : HpacCorrections) (ocb : Option OcbCorrections) :
    DelayPreserved cfg set corrections ocb ↔
      (cfg.mStecTranform = true → cfg.mStecMethod = .moveToResiduals →
        ∀ satellite ∈ ionosphereSatellites cfg set corrections ocb, ∀ element ∈ satellite.stec,
          ∀ gp ∈ set.gridPoints, MovedPartSent cfg set corrections satellite element gp) := by
  constructor
  · intro h htransform hmove satellite hmem element hstec gp hgp
    have hmethod : cfg.mStecMethod ≠ .discardC01C10C11 := by
      rw [hmove]
      decide
    obtain ⟨i, hi⟩ := List.mem_iff_getElem?.1 hgp
    exact (delayAt_eq_iff htransform hmethod hmem hstec hi).1
      (h htransform hmethod satellite hmem element hstec i gp hi) hmove
  · intro h htransform hmethod satellite hmem element hstec i gp hi
    refine (delayAt_eq_iff htransform hmethod hmem hstec hi).2 fun hmove => ?_
    exact h htransform hmove satellite hmem element hstec gp (List.mem_of_getElem? hi)

/-! A slope over two rows, and no gridded corrections. -/

def slopedArray : GnssSsrArrayOfCorrectionPoints where
  referencePointLatitude := ⟨0, Integer.mem_neg⟩
  referencePointLongitude := ⟨0, Integer.mem_neg⟩
  numberOfStepsLatitude := ⟨1, Integer.mem⟩
  numberOfStepsLongitude := ⟨0, Integer.mem⟩
  stepOfLatitude := ⟨100, Integer.mem⟩
  stepOfLongitude := ⟨100, Integer.mem⟩
  bitmaskOfGrids := none

def slopedConfig : Config := { Config.new with mStecMethod := .moveToResiduals }

def slopedSet : CorrectionPointSet :=
  { toCorrectionPointGrid := correctionPointGrid slopedConfig slopedArray
    setId := 0
    areaId := 0
    gridPoints := (List.range 2).map ((correctionPointGrid slopedConfig slopedArray).point .checked)
    length_gridPoints := rfl }

def slopedElement : StecSatElement where
  svId := ⟨0, Integer.mem⟩
  stecQualityIndicator := ⟨List.replicate 6 false, rfl⟩
  stecC00 := ⟨0, Integer.mem_neg⟩
  stecC01 := some ⟨1, Integer.mem_neg⟩
  stecC10 := none
  stecC11 := none

def slopedCorrections : HpacCorrections :=
  { HpacCorrections.new with
    stec := some
      { epochTime := ⟨.gps, ⟨0, Integer.mem⟩, ⟨0, Integer.mem⟩, none⟩
        iodSsr := ⟨0, Integer.mem⟩
        correctionPointSetId := ⟨0, Integer.mem⟩
        stecSatList := ⟨[slopedElement], by decide⟩ } }

/-- The slope is neither in the polynomial nor in a residual. -/
theorem not_delayPreserved_sloped :
    ¬DelayPreserved slopedConfig slopedSet slopedCorrections none := by
  intro h
  have hlookup : slopedCorrections.satelliteTable.lookup ⟨0, by decide⟩ =
      some ⟨⟨0, by decide⟩, some slopedElement, ∅⟩ := rfl
  have hmem : (⟨⟨0, by decide⟩, some slopedElement, ∅⟩ : HpacSatellite) ∈
      ionosphereSatellites slopedConfig slopedSet slopedCorrections none :=
    List.mem_filter.2 ⟨(@mem_sortedById _ HpacSatellite.id _ _).2 ⟨_, hlookup⟩, rfl⟩
  have hmethod : slopedConfig.mStecMethod ≠ .discardC01C10C11 := by decide
  have hpoint : slopedSet.gridPoints[0]? =
      some ((correctionPointGrid slopedConfig slopedArray).point .checked 0) := rfl
  have hsent := (delayAt_eq_iff rfl hmethod hmem rfl hpoint).1
    (h rfl hmethod _ hmem slopedElement rfl 0 _ hpoint) rfl
  rcases hsent with ⟨htype, -⟩ | heq
  · cases htype
  · norm_num [Bilinear.eval, lppPolynomial, flipped, optional, slopedElement, slopedSet,
      slopedConfig, Config.new, slopedArray, correctionPointGrid,
      CorrectionPointGrid.point, CorrectionPointGrid.middleLatitude,
      CorrectionPointGrid.middleLongitude, CorrectionPointGrid.latitudeDelta,
      CorrectionPointGrid.longitudeDelta, CorrectionPointGrid.referencePointLatitude,
      CorrectionPointGrid.referencePointLongitude] at heq

end SuplLpp.Spartn
