import SuplLpp.Lib.Quantizer
import SuplLpp.Spartn.Hpac
import Mathlib.Data.List.ReduceOption
import Mathlib.Tactic.FinCases

/-!
# Doubles in fields

The fields of `MessageBuilder` that go through `double_to_bits`, each with its range, resolution,
width and the pattern that says that there is no value.

* `DoubleField`: these fields; `write`, as the builder writes them;
* `quantised`: the number that is written fits, is not the pattern for no value, and stands for
  the clamped value up to half a resolution;
* `Selects`: a size whose fields contain all values, if those of some size do;
* `quantisation_sound`: the fields, and the sizes that the blocks of a message choose.
-/

namespace SuplLpp.Spartn

open Asn Bits MessageBuilder

/-! ### Fields -/

/-- The fields that are written by `double_to_bits`. -/
inductive DoubleField
  | sf020 | sf021 | sf029 | sf032 | sf033 | sf036 | sf037
  | sf043 | sf045 | sf046 | sf047 | sf048 | sf049 | sf050 | sf052 | sf053
  | sf057 | sf058 | sf059 | sf060 | sf061 | sf062 | sf064 | sf065 | sf066 | sf067
  deriving DecidableEq, Repr

namespace DoubleField

/-- Minimum, maximum, resolution and width. -/
def parameters : DoubleField → ℚ × ℚ × ℚ × ℕ
  | sf020 => (-16.382, 16.382, 0.002, 14)
  | sf021 => (0, 354, 6, 6)
  | sf029 => (-20.46, 20.46, 0.02, 11)
  | sf032 => (-90, 90, 0.1, 11)
  | sf033 => (-180, 180, 0.1, 12)
  | sf036 => (0.1, 3.2, 0.1, 5)
  | sf037 => (0.1, 3.2, 0.1, 5)
  | sf043 => (-0.508, 0.505, 0.004, 8)
  | sf045 => (-0.252, 0.252, 0.004, 7)
  | sf046 => (-0.063, 0.063, 0.001, 7)
  | sf047 => (-0.051, 0.051, 0.0002, 9)
  | sf048 => (-1.020, 1.020, 0.004, 9)
  | sf049 => (-0.255, 0.255, 0.001, 9)
  | sf050 => (-0.2046, 0.2046, 0.0002, 11)
  | sf052 => (-0.124, 0.124, 0.004, 6)
  | sf053 => (-0.508, 0.508, 0.004, 8)
  | sf057 => (-81.88, 81.88, 0.04, 12)
  | sf058 => (-16.376, 16.376, 0.008, 12)
  | sf059 => (-8.190, 8.190, 0.002, 13)
  | sf060 => (-327.64, 327.64, 0.04, 14)
  | sf061 => (-65.528, 65.528, 0.008, 14)
  | sf062 => (-32.766, 32.766, 0.002, 15)
  | sf064 => (-0.28, 0.28, 0.04, 4)
  | sf065 => (-2.52, 2.52, 0.04, 7)
  | sf066 => (-20.44, 20.44, 0.04, 10)
  | sf067 => (-327.64, 327.64, 0.04, 14)

def quantizer (f : DoubleField) : Quantizer ℚ where
  lower := f.parameters.1
  upper := f.parameters.2.1
  resolution := f.parameters.2.2.1
  lower_le_upper := by cases f <;> norm_num [parameters]
  resolution_pos := by cases f <;> norm_num [parameters]

def width (f : DoubleField) : ℕ := f.parameters.2.2.2

/-- What is written where there is no value. -/
def invalidPattern : DoubleField → Option (List Bool)
  | sf052 => some sf052Invalid
  | sf053 => some sf053Invalid
  | sf064 => some sf064Invalid
  | sf065 => some sf065Invalid
  | sf066 => some sf066Invalid
  | sf067 => some sf067Invalid
  | _ => none

/-- The bits of a field, as the builder writes them. -/
def write : DoubleField → ℚ → List Bool
  | sf020 => MessageBuilder.sf020
  | sf021 => MessageBuilder.sf021
  | sf029 => MessageBuilder.sf029
  | sf032 => MessageBuilder.sf032
  | sf033 => MessageBuilder.sf033
  | sf036 => MessageBuilder.sf036
  | sf037 => MessageBuilder.sf037
  | sf043 => fun value => (MessageBuilder.sf043 value).1
  | sf045 => fun value => (MessageBuilder.sf045 value).1
  | sf046 => fun value => (MessageBuilder.sf046 value).1
  | sf047 => fun value => (MessageBuilder.sf047 value).1
  | sf048 => fun value => (MessageBuilder.sf048 value).1
  | sf049 => fun value => (MessageBuilder.sf049 value).1
  | sf050 => fun value => (MessageBuilder.sf050 value).1
  | sf052 => MessageBuilder.sf052
  | sf053 => MessageBuilder.sf053
  | sf057 => MessageBuilder.sf057
  | sf058 => MessageBuilder.sf058
  | sf059 => MessageBuilder.sf059
  | sf060 => MessageBuilder.sf060
  | sf061 => MessageBuilder.sf061
  | sf062 => MessageBuilder.sf062
  | sf064 => MessageBuilder.sf064
  | sf065 => MessageBuilder.sf065
  | sf066 => MessageBuilder.sf066
  | sf067 => MessageBuilder.sf067

/-- The number that `double_to_bits` writes. -/
def raw (f : DoubleField) (value : ℚ) : ℤ := lround (f.quantizer.level value)

/-- A value in a field. -/
structure Quantised (f : DoubleField) (value : ℚ) : Prop where
  raw_nonneg : 0 ≤ f.raw value
  raw_lt : f.raw value < 2 ^ f.width
  write_eq : f.write value = Bits.ofNat f.width (f.raw value).toNat
  ne_invalid : ∀ pattern ∈ f.invalidPattern, f.write value ≠ pattern
  decodes : |f.quantizer.decode (f.raw value) - f.quantizer.clamp value| ≤
    f.quantizer.resolution / 2

/-- Every field is what `double_to_bits` makes of its numbers. -/
theorem write_eq_doubleToBits (f : DoubleField) (value : ℚ) :
    f.write value = (doubleToBits f.quantizer.lower f.quantizer.upper f.quantizer.resolution value
      f.width).1 := by
  cases f <;> rfl

/-- The numbers of a field leave room for the pattern, where there is one. -/
theorem range_lt (f : DoubleField) :
    f.quantizer.upper - f.quantizer.lower <
      ((2 ^ f.width - f.invalidPattern.toList.length : ℤ) - 1 / 2) * f.quantizer.resolution := by
  cases f <;> norm_num [quantizer, width, parameters, invalidPattern]

/-- The pattern for no value is a number that is never written. -/
theorem invalidPattern_eq {f : DoubleField} {pattern : List Bool}
    (h : pattern ∈ f.invalidPattern) :
    f.invalidPattern.toList.length = 1 ∧ pattern = Bits.ofNat f.width (2 ^ f.width - 1) := by
  cases f <;> cases h <;> exact ⟨rfl, rfl⟩

/-- Halves go away from zero, so that nothing is off by more than a half. -/
theorem nearest_lround : Quantizer.Nearest lround := by
  intro x
  unfold lround
  rw [abs_le]
  split_ifs
  · have hle := Int.floor_le (x + 1 / 2)
    have hlt := Int.lt_floor_add_one (x + 1 / 2)
    constructor <;> linarith
  · have hle := Int.le_ceil (x - 1 / 2)
    have hlt := Int.ceil_lt_add_one (x - 1 / 2)
    constructor <;> linarith

theorem width_le (f : DoubleField) : f.width ≤ 15 := by
  cases f <;> norm_num [width, parameters]

/-- **A value in a field**: every field has room for what is written. -/
theorem quantised (f : DoubleField) (value : ℚ) : Quantised f value := by
  obtain ⟨hnonneg, hlt⟩ := Quantizer.round_level_mem nearest_lround f.range_lt value
  have hraw : 0 ≤ f.raw value := hnonneg
  have hpow : (2 : ℤ) ^ f.width ≤ 2 ^ 15 := pow_le_pow_right₀ (by norm_num) f.width_le
  have hroom : f.raw value < 2 ^ f.width - f.invalidPattern.toList.length := hlt
  have hwrite : f.write value = Bits.ofNat f.width (f.raw value).toNat := by
    rw [write_eq_doubleToBits]
    have hmod : f.raw value % 2 ^ 64 = f.raw value := Int.emod_eq_of_lt hraw (by omega)
    exact congrArg (fun n : ℤ => Bits.ofNat f.width n.toNat) hmod
  refine ⟨hraw, by omega, hwrite, ?_, Quantizer.abs_decode_sub_clamp_le nearest_lround value⟩
  intro pattern hpattern heq
  obtain ⟨hone, rfl⟩ := invalidPattern_eq hpattern
  rw [hwrite, ofNat_eq_ofNat] at heq
  rw [hone] at hroom
  obtain ⟨n, hn⟩ := Int.eq_ofNat_of_zero_le hraw
  rw [hn] at hroom heq
  have hn' : n + 1 < 2 ^ f.width := by
    zify
    push_cast at hroom
    omega
  rw [Int.toNat_natCast, Nat.mod_eq_of_lt (by omega), Nat.mod_eq_of_lt (by omega)] at heq
  omega

end DoubleField

/-! ### Sizes -/

/-- What goes into a field: a value, or the pattern for no value. -/
def entryBits (e : DoubleField × Option ℚ) : List Bool :=
  match e.2 with
  | some value => e.1.write value
  | none => e.1.invalidPattern.getD []

/-- Every value is in the range of its field. -/
def Fits (entries : List (DoubleField × Option ℚ)) : Prop :=
  ∀ e ∈ entries, ∀ value ∈ e.2, e.1.quantizer.Contains value

/-- The fields of a size contain their values, if those of some size do. -/
def Selects {σ : Type} (entries : σ → List (DoubleField × Option ℚ)) (size : σ) : Prop :=
  ∀ other, Fits (entries other) → Fits (entries size)

/-- The range of a field, in the numbers of `double_to_bits`. -/
theorem contains_iff {f : DoubleField} {value : ℚ} :
    f.quantizer.Contains value ↔ withinRange f.parameters.1 f.parameters.2.1 value = true :=
  decide_eq_true_iff.symm

theorem fits_nil : Fits [] := by simp [Fits]

theorem fits_cons {f : DoubleField} {value : Option ℚ} {entries : List (DoubleField × Option ℚ)} :
    Fits ((f, value) :: entries) ↔ (∀ v ∈ value, f.quantizer.Contains v) ∧ Fits entries := by
  simp [Fits]

theorem fits_append {entries entries' : List (DoubleField × Option ℚ)} :
    Fits (entries ++ entries') ↔ Fits entries ∧ Fits entries' := by
  simp [Fits, or_imp, forall_and]

/-! #### Coefficients -/

/-- The fields of a satellite's coefficients. -/
def coefficientEntries (p : StecParameters) (large : Bool) : List (DoubleField × Option ℚ) :=
  [(if large then .sf060 else .sf057, some p.c00)] ++
    (if p.equationType ≥ 1 then
      [(if large then .sf061 else .sf058, some p.c01),
        (if large then .sf061 else .sf058, some p.c10)]
    else []) ++
    if p.equationType ≥ 2 then [(if large then .sf062 else .sf059, some p.c11)] else []

/-- The small coefficients are chosen exactly if they have room for what is written. -/
theorem computeCoefficientSizeIndicator_eq_false {p : StecParameters} :
    computeCoefficientSizeIndicator p = false ↔ Fits (coefficientEntries p false) := by
  have h1 : Fits (if p.equationType ≥ 1 then
      [(DoubleField.sf058, some p.c01), (.sf058, some p.c10)] else []) ↔
      (decide (p.equationType < 1) || (withinRange (-16.376) 16.376 p.c01 &&
        withinRange (-16.376) 16.376 p.c10)) = true := by
    by_cases h : p.equationType ≥ 1
    · have hlt : decide (p.equationType < 1) = false := decide_eq_false (by omega)
      simp only [if_pos h, hlt, Bool.false_or, Bool.and_eq_true]
      simp [fits_cons, fits_nil, contains_iff, DoubleField.parameters]
    · have hlt : decide (p.equationType < 1) = true := decide_eq_true (by omega)
      rw [if_neg h, hlt, Bool.true_or]
      exact iff_of_true fits_nil rfl
  have h2 : Fits (if p.equationType ≥ 2 then [(DoubleField.sf059, some p.c11)] else []) ↔
      (decide (p.equationType < 2) || withinRange (-8.190) 8.190 p.c11) = true := by
    by_cases h : p.equationType ≥ 2
    · have hlt : decide (p.equationType < 2) = false := decide_eq_false (by omega)
      simp only [if_pos h, hlt, Bool.false_or]
      simp [fits_cons, fits_nil, contains_iff, DoubleField.parameters]
    · have hlt : decide (p.equationType < 2) = true := decide_eq_true (by omega)
      rw [if_neg h, hlt, Bool.true_or]
      exact iff_of_true fits_nil rfl
  have h0 : Fits [(DoubleField.sf057, some p.c00)] ↔ withinRange (-81.88) 81.88 p.c00 = true := by
    simp [fits_cons, fits_nil, contains_iff, DoubleField.parameters]
  simp only [coefficientEntries, Bool.false_eq_true, if_false]
  rw [fits_append, fits_append, h0, h1, h2, computeCoefficientSizeIndicator, Bool.not_eq_false',
    Bool.and_eq_true, Bool.and_eq_true]

/-- **Coefficients**: a satellite's coefficients go into fields that have room for them. -/
theorem ionosphereDataBlock1_selects (cfg : Config) (element : StecSatElement)
    (p : StecParameters) :
    ∃ large, ionosphereDataBlock1 cfg element p =
        sf055Field cfg element.stecQualityIndicator ++ sf056 large ++
          (coefficientEntries p large).flatMap entryBits ∧
      Selects (coefficientEntries p) large := by
  refine ⟨computeCoefficientSizeIndicator p, ?_, fun other hother => ?_⟩
  · unfold ionosphereDataBlock1 coefficientEntries
    dsimp only
    by_cases h1 : p.equationType ≥ 1 <;> by_cases h2 : p.equationType ≥ 2 <;>
      cases computeCoefficientSizeIndicator p <;>
      simp [h1, h2, entryBits, DoubleField.write, ionosphereCoefficientC00,
        ionosphereCoefficientC10C01, ionosphereCoefficientC11]
  · cases hchosen : computeCoefficientSizeIndicator p with
    | false => exact computeCoefficientSizeIndicator_eq_false.1 hchosen
    | true =>
      cases other with
      | true => exact hother
      | false =>
        rw [computeCoefficientSizeIndicator_eq_false.2 hother] at hchosen
        cases hchosen

/-! #### Troposphere -/

def zenithField (size : Fin 2) : DoubleField := if size = 0 then .sf045 else .sf048

/-- The zenith delay that is sent: 0, where no field has room for the average. -/
def sentZenithDelay (average : ℚ) : ℚ :=
  if ∃ size, (zenithField size).quantizer.Contains average then average else 0

def zenithEntries (average : ℚ) (size : Fin 2) : List (DoubleField × Option ℚ) :=
  [(zenithField size, some (sentZenithDelay average))]

def residualZenithField (size : Fin 2) : DoubleField := if size = 0 then .sf052 else .sf053

def troposphereResidualEntries (residuals : List (Option ℚ)) (size : Fin 2) :
    List (DoubleField × Option ℚ) :=
  residuals.map fun residual => (residualZenithField size, residual)

/-- The average goes into the first field that has room for it. -/
theorem averageZenithField_eq (average : ℚ) :
    ∃ size : Fin 2, (averageZenithField average).1 =
        sf044 size ++ (zenithField size).write (sentZenithDelay average) ∧
      (zenithField size).quantizer.Contains (sentZenithDelay average) := by
  have hsent : ∀ size, (zenithField size).quantizer.Contains average →
      sentZenithDelay average = average := fun size h => if_pos ⟨size, h⟩
  unfold averageZenithField
  split_ifs with hsmall hlarge
  · have hcontains : (zenithField 0).quantizer.Contains average := contains_iff.2 hsmall
    rw [hsent 0 hcontains]
    exact ⟨0, rfl, hcontains⟩
  · have hcontains : (zenithField 1).quantizer.Contains average := contains_iff.2 hlarge
    rw [hsent 1 hcontains]
    exact ⟨1, rfl, hcontains⟩
  · have hnone : ¬∃ size, (zenithField size).quantizer.Contains average := by
      rw [Fin.exists_fin_two, contains_iff, contains_iff]
      exact not_or.2 ⟨hsmall, hlarge⟩
    rw [sentZenithDelay, if_neg hnone]
    refine ⟨0, rfl, ?_⟩
    constructor <;> norm_num [zenithField, DoubleField.quantizer, DoubleField.parameters]

/-- All residuals are in the range of a field. -/
theorem fits_troposphereResidualEntries {residuals : List (Option ℚ)} {size : Fin 2} :
    Fits (troposphereResidualEntries residuals size) ↔ ∀ residual ∈ residuals.reduceOption,
      (residualZenithField size).quantizer.Contains residual := by
  simp only [Fits, troposphereResidualEntries, List.forall_mem_map, List.reduceOption_mem_iff,
    Option.mem_def]
  exact ⟨fun h r hr => h _ hr r rfl, fun h a ha v hv => h v (hv ▸ ha)⟩

/-- The small fields are chosen exactly if they have room for all residuals. -/
theorem computeTroposphereResidualFieldSize_spec (residuals : List (Option ℚ)) :
    computeTroposphereResidualFieldSize residuals ≤ 1 ∧
      (computeTroposphereResidualFieldSize residuals = 0 ↔
        Fits (troposphereResidualEntries residuals 0)) := by
  have hfold : computeTroposphereResidualFieldSize residuals = residuals.reduceOption.foldl
      (fun size residual => max size (if withinRange (-0.124) 0.124 residual then 0 else 1)) 0 := by
    unfold computeTroposphereResidualFieldSize
    congr
    funext size residual
    exact (apply_ite (max size) _ _ _).symm
  rw [hfold, ← Nat.le_zero, foldl_max_le_iff, foldl_max_le_iff, fits_troposphereResidualEntries]
  refine ⟨⟨by omega, fun residual _ => by split_ifs <;> omega⟩, ?_⟩
  simp [contains_iff, residualZenithField, DoubleField.parameters]

/-- The larger field has room for what the smaller one has. -/
theorem Fits.large {residuals : List (Option ℚ)} {size : Fin 2}
    (h : Fits (troposphereResidualEntries residuals size)) :
    Fits (troposphereResidualEntries residuals 1) := by
  rw [fits_troposphereResidualEntries] at h ⊢
  intro residual hresidual
  obtain ⟨hlower, hupper⟩ := h residual hresidual
  have hrange : -0.508 ≤ (residualZenithField size).quantizer.lower ∧
      (residualZenithField size).quantizer.upper ≤ 0.508 := by
    fin_cases size <;>
      norm_num [residualZenithField, DoubleField.quantizer, DoubleField.parameters]
  exact ⟨hrange.1.trans hlower, hupper.trans hrange.2⟩

/-- The size of a block, whether it is computed or not. -/
theorem troposphereResidualSize_selects (residuals : List (Option ℚ)) (calculate : Bool) :
    ∃ size : Fin 2,
      (if calculate then computeTroposphereResidualFieldSize residuals else 1) = size ∧
        Selects (troposphereResidualEntries residuals) size := by
  obtain ⟨hle, hzero⟩ := computeTroposphereResidualFieldSize_spec residuals
  by_cases hsmall : calculate = true ∧ computeTroposphereResidualFieldSize residuals = 0
  · refine ⟨0, ?_, fun _ _ => hzero.1 hsmall.2⟩
    rw [if_pos hsmall.1, hsmall.2]
    rfl
  · refine ⟨1, ?_, fun _ hother => hother.large⟩
    show _ = 1
    split_ifs with hcalculate
    · have hne : computeTroposphereResidualFieldSize residuals ≠ 0 := fun h =>
        hsmall ⟨hcalculate, h⟩
      omega
    · rfl

/-- The zenith delay of a troposphere block, before a field is chosen for it. -/
def averageZenithDelay (set : CorrectionPointSet) (corrections : HpacCorrections)
    (cfg : Config) : ℚ :=
  if cfg.mComputeAverageZenithDelay then averageDelay set corrections wetDelay else 0

/-- The residuals of a troposphere block. -/
def troposphereResiduals (set : CorrectionPointSet) (corrections : HpacCorrections)
    (cfg : Config) : List (Option ℚ) :=
  computeTroposphereResiduals set corrections
    (averageZenithField (averageZenithDelay set corrections cfg)).2
    (sf043 (averageDelay set corrections hydroStaticDelay)).2 cfg.mHydrostaticResidualInZenith

theorem flatMap_troposphereResidualField (residuals : List (Option ℚ)) (size : Fin 2) :
    residuals.flatMap (troposphereResidualField size) =
      (troposphereResidualEntries residuals size).flatMap entryBits := by
  rw [troposphereResidualEntries, List.flatMap_map]
  congr
  funext residual
  fin_cases size <;> cases residual <;> rfl

/-- **Troposphere**: the average and the residuals go into fields that have room for them. -/
theorem troposphereDataBlock_selects {set : CorrectionPointSet} {corrections : HpacCorrections}
    {cfg : Config} (hgridded : corrections.gridded.isSome) :
    ∃ front, ∃ zenithSize residualSize : Fin 2,
      troposphereDataBlock set corrections cfg = .ok (front ++
        (sf044 zenithSize ++ (zenithEntries (averageZenithDelay set corrections cfg)
          zenithSize).flatMap entryBits) ++
        (sf051 residualSize ++ (troposphereResidualEntries
          (troposphereResiduals set corrections cfg) residualSize).flatMap entryBits)) ∧
      Selects (zenithEntries (averageZenithDelay set corrections cfg)) zenithSize ∧
      Selects (troposphereResidualEntries (troposphereResiduals set corrections cfg))
        residualSize := by
  obtain ⟨zenithSize, hzenith, hcontains⟩ :=
    averageZenithField_eq (averageZenithDelay set corrections cfg)
  obtain ⟨residualSize, hresidual, hselects⟩ := troposphereResidualSize_selects
    (troposphereResiduals set corrections cfg) cfg.mComputeAverageZenithDelay
  obtain ⟨data, hdata⟩ := Option.isSome_iff_exists.1 hgridded
  let front := sf041 0 ++ sf042Field cfg data.troposphericDelayQualityIndicator ++
    (sf043 (averageDelay set corrections hydroStaticDelay)).1
  let size := if cfg.mComputeAverageZenithDelay then
      computeTroposphereResidualFieldSize (troposphereResiduals set corrections cfg)
    else 1
  have hblock : troposphereDataBlock set corrections cfg = .ok (front ++
      (averageZenithField (averageZenithDelay set corrections cfg)).1 ++ sf051 size ++
      (troposphereResiduals set corrections cfg).flatMap (troposphereResidualField size)) := by
    unfold troposphereDataBlock
    rw [hdata]
    rfl
  have hsize : size = residualSize := hresidual
  refine ⟨front, zenithSize, residualSize, ?_, fun _ _ => ?_, hselects⟩
  · rw [hblock, hsize, hzenith, flatMap_troposphereResidualField]
    simp only [zenithEntries, List.flatMap_singleton, entryBits, List.append_assoc]
  · simpa [zenithEntries, fits_cons, fits_nil] using hcontains

/-! #### Ionosphere -/

def residualSlantField : Fin 4 → DoubleField
  | 0 => .sf064
  | 1 => .sf065
  | 2 => .sf066
  | 3 => .sf067

def stecResidualEntries (cfg : Config) (residuals : List StecResidual) (size : Fin 4) :
    List (DoubleField × Option ℚ) :=
  residuals.map fun r =>
    (residualSlantField size,
      if r.invalid && !cfg.mStecInvalidToZero then none else some r.residual)

/-- The half of the range of a field. -/
def residualSlantBound : Fin 4 → ℚ
  | 0 => 0.28
  | 1 => 2.52
  | 2 => 20.44
  | 3 => 327.64

theorem contains_residualSlantField {size : Fin 4} {residual : ℚ} :
    (residualSlantField size).quantizer.Contains residual ↔
      |residual| ≤ residualSlantBound size := by
  rw [abs_le]
  fin_cases size <;> rfl

theorem monotone_residualSlantBound : Monotone residualSlantBound := by
  apply Fin.monotone_iff_le_succ.2
  intro size
  fin_cases size <;> norm_num [residualSlantBound]

theorem stecResidualSize_le_three (residual : ℚ) : stecResidualSize residual ≤ 3 := by
  unfold stecResidualSize
  split_ifs <;> omega

/-- A field that is at least as large as it has to be has room for a residual, if any field
has. -/
theorem contains_of_stecResidualSize_le {residual : ℚ} {size other : Fin 4}
    (hsize : stecResidualSize residual ≤ size)
    (hother : (residualSlantField other).quantizer.Contains residual) :
    (residualSlantField size).quantizer.Contains residual := by
  rw [contains_residualSlantField] at hother ⊢
  have hrange : ∀ s : Fin 4, (s : ℕ) ≤ size → |residual| ≤ residualSlantBound s →
      |residual| ≤ residualSlantBound size := fun s hs h =>
    h.trans (monotone_residualSlantBound hs)
  unfold stecResidualSize at hsize
  simp only [withinRange, decide_eq_true_eq, ← abs_le] at hsize
  split_ifs at hsize with h0 h1 h2
  · exact hrange 0 hsize h0
  · exact hrange 1 hsize h1
  · exact hrange 2 hsize h2
  · exact hrange other (by omega) hother

theorem ionosphereResidualField_eq (cfg : Config) (size : Fin 4) (r : StecResidual) :
    ionosphereResidualField cfg size r = .ok (entryBits (residualSlantField size,
      if r.invalid && !cfg.mStecInvalidToZero then none else some r.residual)) := by
  unfold ionosphereResidualField
  split_ifs <;> fin_cases size <;> rfl

/-- **Residuals**: the residuals of a satellite go into fields that have room for them. -/
theorem ionosphereDataBlock2_selects (cfg : Config) (set : CorrectionPointSet)
    (satellite : HpacSatellite) (p : StecParameters) :
    ∃ size : Fin 4, ionosphereDataBlock2 cfg set satellite p =
        .ok (sf063 size ++ (stecResidualEntries cfg (computeStecResiduals cfg set satellite p)
          size).flatMap entryBits) ∧
      Selects (stecResidualEntries cfg (computeStecResiduals cfg set satellite p)) size := by
  have hle : computeResidualFieldSize (computeStecResiduals cfg set satellite p) ≤ 3 :=
    foldl_max_le_iff.2 ⟨by omega, fun r _ => stecResidualSize_le_three r.residual⟩
  -- the size is at least what any residual needs
  have hneeded := (foldl_max_le_iff.1 (le_refl
    (computeResidualFieldSize (computeStecResiduals cfg set satellite p)))).2
  obtain ⟨size, hsize⟩ : ∃ size : Fin 4,
      computeResidualFieldSize (computeStecResiduals cfg set satellite p) = size :=
    ⟨⟨computeResidualFieldSize _, Nat.lt_succ_of_le hle⟩, rfl⟩
  refine ⟨size, ?_, fun other hother => ?_⟩
  · unfold ionosphereDataBlock2
    dsimp only
    rw [hsize]
    have hfields : ionosphereResidualField cfg size = fun r => pure (entryBits
        (residualSlantField size,
          if r.invalid && !cfg.mStecInvalidToZero then none else some r.residual)) := by
      funext r
      exact ionosphereResidualField_eq cfg size r
    rw [hfields, List.mapM_pure, stecResidualEntries, List.flatMap_map, List.flatMap_def]
    rfl
  · simp only [Fits, stecResidualEntries, List.forall_mem_map] at hother ⊢
    intro r hr value hvalue
    have hroom := hother r hr value hvalue
    split_ifs at hvalue
    · cases hvalue
    · cases hvalue
      exact contains_of_stecResidualSize_le (hsize ▸ hneeded r hr) hroom

/-- **Quantisation.**  A value that goes through `double_to_bits` fits its field, is not the
pattern for no value and is decoded to the clamped value, up to half a resolution; the blocks
choose sizes whose fields contain all values, if those of some size do. -/
theorem quantisation_sound :
    (∀ f value, DoubleField.Quantised f value) ∧
      (∀ cfg element p, ∃ large, ionosphereDataBlock1 cfg element p =
          sf055Field cfg element.stecQualityIndicator ++ sf056 large ++
            (coefficientEntries p large).flatMap entryBits ∧
        Selects (coefficientEntries p) large) ∧
      (∀ set corrections cfg, corrections.gridded.isSome →
        ∃ front, ∃ zenithSize residualSize : Fin 2,
          troposphereDataBlock set corrections cfg = .ok (front ++
            (sf044 zenithSize ++ (zenithEntries (averageZenithDelay set corrections cfg)
              zenithSize).flatMap entryBits) ++
            (sf051 residualSize ++ (troposphereResidualEntries
              (troposphereResiduals set corrections cfg) residualSize).flatMap entryBits)) ∧
          Selects (zenithEntries (averageZenithDelay set corrections cfg)) zenithSize ∧
          Selects (troposphereResidualEntries (troposphereResiduals set corrections cfg))
            residualSize) ∧
      ∀ cfg set satellite p, ∃ size : Fin 4, ionosphereDataBlock2 cfg set satellite p =
          .ok (sf063 size ++ (stecResidualEntries cfg
            (computeStecResiduals cfg set satellite p) size).flatMap entryBits) ∧
        Selects (stecResidualEntries cfg (computeStecResiduals cfg set satellite p)) size :=
  ⟨DoubleField.quantised, ionosphereDataBlock1_selects,
    fun _ _ _ => troposphereDataBlock_selects, ionosphereDataBlock2_selects⟩

end SuplLpp.Spartn
