import Mathlib.Data.List.Sort
import SuplLpp.Asn.Ssr
import SuplLpp.Lib.Table
import SuplLpp.Spartn.Message
import SuplLpp.Spartn.Time

/-!
# `CorrectionData`

The corrections of one LPP message, by issue of data, constellation, correction point set and
epoch time.

* `OcbCorrections` and `HpacCorrections` with their satellites, sorted by number;
* `CorrectionData` and the `add` operations, one for each element;
* `Library`: the orders that the containers and the sorting of the standard library leave open;
* `satellites_sorted`: a satellite is in the list once, in ascending order.
-/

namespace SuplLpp.Spartn

open Asn

/-- `mGroupByEpochTime`, which has no setter. -/
def groupByEpochTime : Bool := true

/-- `subtype_from_gnss_id`. -/
def subtypeFromGnssId : GnssId → Result ℕ
  | .gps => .ok 0
  | .glonass => .ok 1
  | .galileo => .ok 2
  | .bds => .ok 3
  | .qzss => .ok 4
  | .sbas | .navic => .error .unreachable

/-! ### Configuration -/

inductive StecMethod
  | default | discardC01C10C11 | moveToResiduals
  deriving DecidableEq, Repr

/-- What the setters of `Generator` set, as far as messages depend on it. -/
structure Config where
  mUraOverride : ℤ
  mUraDefault : ℤ
  mContinuityIndicator : ℚ
  mUBloxClockCorrection : Bool
  mSf055Override : ℤ
  mSf055Default : ℤ
  mSf042Override : ℤ
  mSf042Default : ℤ
  mComputeAverageZenithDelay : Bool
  mIncreasingSiou : Bool
  mHydrostaticResidualInZenith : Bool
  mStecMethod : StecMethod
  mStecTranform : Bool
  mFlipGridBitmask : Bool
  mFilterByResiduals : Bool
  mFilterByOcb : Bool
  mIgnoreL2L : Bool
  mStecInvalidToZero : Bool
  mSignFlipC00 : Bool
  mSignFlipC01 : Bool
  mSignFlipC10 : Bool
  mSignFlipC11 : Bool
  mSignFlipStecResiduals : Bool
  mFlipOrbitCorrection : Bool
  mDoNotUseSatellite : Bool
  mDoNotUseAtmosphere : Bool
  mIonoQualityThreshold : ℚ
  mGenerateGad : Bool
  mGenerateOcb : Bool
  mGenerateHpac : Bool
  mGpsSupported : Bool
  mGlonassSupported : Bool
  mGalileoSupported : Bool
  mBeidouSupported : Bool
  mQzssSupported : Bool
  mNavicSupported : Bool
  mGpsBiasMap : BiasMap
  mGloBiasMap : BiasMap
  mGalBiasMap : BiasMap
  mBdsBiasMap : BiasMap

/-- The constructor of `Generator`. -/
def Config.new : Config where
  mUraOverride := -1
  mUraDefault := 0
  mContinuityIndicator := -1
  mUBloxClockCorrection := false
  mSf055Override := -1
  mSf055Default := 0
  mSf042Override := -1
  mSf042Default := 0
  mComputeAverageZenithDelay := false
  mIncreasingSiou := false
  mHydrostaticResidualInZenith := false
  mStecMethod := .default
  mStecTranform := true
  mFlipGridBitmask := false
  mFilterByResiduals := false
  mFilterByOcb := false
  mIgnoreL2L := false
  mStecInvalidToZero := false
  mSignFlipC00 := false
  mSignFlipC01 := false
  mSignFlipC10 := false
  mSignFlipC11 := false
  mSignFlipStecResiduals := false
  mFlipOrbitCorrection := false
  mDoNotUseSatellite := true
  mDoNotUseAtmosphere := true
  mIonoQualityThreshold := -1
  mGenerateGad := true
  mGenerateOcb := true
  mGenerateHpac := true
  mGpsSupported := true
  mGlonassSupported := true
  mGalileoSupported := true
  mBeidouSupported := false
  mQzssSupported := false
  mNavicSupported := false
  mGpsBiasMap := ⟨[], by decide⟩
  mGloBiasMap := ⟨[], by decide⟩
  mGalBiasMap := ⟨[], by decide⟩
  mBdsBiasMap := ⟨[], by decide⟩

/-- The systems whose corrections are left out; SBAS never is. -/
def Config.supported (cfg : Config) : GnssId → Bool
  | .gps => cfg.mGpsSupported
  | .glonass => cfg.mGlonassSupported
  | .galileo => cfg.mGalileoSupported
  | .bds => cfg.mBeidouSupported
  | .qzss => cfg.mQzssSupported
  | .navic => cfg.mNavicSupported
  | .sbas => true

/-- A configured default, brought into the range of its field. -/
def clampDefault (value : ℤ) (largest : ℕ) : ℕ :=
  if value < 0 then 0 else if value > largest then largest else value.toNat

/-- A configured override, which is not negative. -/
def clampOverride (value : ℤ) (largest : ℕ) : ℕ := if value > largest then largest else value.toNat

/-! ### Values

The functions of `decode`. -/

structure QualityIndicator where
  invalid : Bool
  value : ℚ

/-- The class of a quality indicator, and its value. -/
def qualityClass (bitString : BitString 6) : ℕ := Bits.toNat (bitString.1.take 3)

def qualityValue (bitString : BitString 6) : ℕ := Bits.toNat (bitString.1.drop 3)

def qualityIndicator (bitString : BitString 6) : QualityIndicator :=
  let cls := qualityClass bitString
  let val := qualityValue bitString
  let q : ℚ := 3 ^ cls * (1 + val / 4) - 1
  ⟨decide (cls = 0 ∧ val = 0), q / 1000⟩

def stecQualityTable : List ℚ :=
  [33.6664, 30.2992, 26.9319, 23.5647, 20.1974, 16.8301, 13.4629, 12.3405, 11.2180, 10.0956,
    8.9732, 7.8508, 6.7284, 5.6059, 4.4835, 4.1094, 3.7352, 3.3611, 2.9870, 2.6128, 2.2387, 1.8645,
    1.4904, 1.3657, 1.2410, 1.1163, 0.9915, 0.8668, 0.7421, 0.6174, 0.4927, 0.4511, 0.4096, 0.3680,
    0.3264, 0.2848, 0.2433, 0.2017, 0.1601, 0.1463, 0.1324, 0.1186, 0.1047, 0.0908, 0.0770, 0.0631,
    0.0493, 0.0447, 0.0400, 0.0354, 0.0308, 0.0262, 0.0216, 0.0169, 0.0123, 0.0108, 0.0092, 0.0077,
    0.0062, 0.0046, 0.0031, 0.0015, 0]

def stecQualityIndicator (bitString : BitString 6) : QualityIndicator :=
  let index := 8 * qualityClass bitString + qualityValue bitString
  ⟨decide (index = 0), stecQualityTable.getD (63 - index) 0⟩

/-- A number that is not there counts as zero. -/
def optional {lo hi : ℤ} (value : Option (Integer lo hi)) (resolution : ℚ) : ℚ :=
  match value with
  | some value => value.1 * resolution
  | none => 0

/-! ### Satellites -/

/-- The satellites that were collected, in ascending order. -/
def sortedById {σ : Type} (id : σ → SvId) (satellites : Table SvId σ) : List σ :=
  (satellites.pairs.map (·.2)).insertionSort fun a b => (id a).1 ≤ (id b).1

/-- Collect the elements of a list under the numbers of their satellites. -/
def collect {σ ε : Type} (new : SvId → σ) (svId : ε → SvId) (add : σ → ε → σ)
    (satellites : Table SvId σ) (elements : List ε) : Table SvId σ :=
  elements.foldl
    (fun satellites element =>
      satellites.upsert (svId element) (new (svId element)) (add · element)) satellites

section Collect

variable {σ ε : Type} {id : σ → SvId} {new : SvId → σ} {svId : ε → SvId} {add : σ → ε → σ}

/-- Each satellite is under its own number. -/
def Numbered (id : σ → SvId) (satellites : Table SvId σ) : Prop :=
  ∀ k v, satellites.lookup k = some v → id v = k

theorem numbered_empty : Numbered id (∅ : Table SvId σ) := by
  intro k v h
  rw [AList.lookup_empty] at h
  cases h

theorem Numbered.upsert {satellites : Table SvId σ} (h : Numbered id satellites) {k : SvId}
    {f : σ → σ} (hnew : id (new k) = k) (hf : ∀ s, id (f s) = id s) :
    Numbered id (satellites.upsert k (new k) f) := by
  apply Table.forall_upsert h
  rw [hf]
  cases hk : satellites.lookup k with
  | none => exact hnew
  | some v => exact h k v hk

theorem Numbered.collect {satellites : Table SvId σ} (h : Numbered id satellites)
    (hnew : ∀ k, id (new k) = k) (hadd : ∀ s e, id (add s e) = id s) (elements : List ε) :
    Numbered id (collect new svId add satellites elements) := by
  induction elements generalizing satellites with
  | nil => exact h
  | cons e es ih => exact ih (h.upsert (hnew _) (fun s => hadd s e))

/-- A satellite is in the list once, in ascending order. -/
theorem sortedById_sorted {satellites : Table SvId σ} (h : Numbered id satellites) :
    (sortedById id satellites).Pairwise fun a b => (id a).1 < (id b).1 := by
  have htotal : Std.Total fun a b : σ => (id a).1 ≤ (id b).1 := ⟨fun a b => le_total _ _⟩
  have htrans : IsTrans σ fun a b => (id a).1 ≤ (id b).1 := ⟨fun a b c => le_trans⟩
  have hle : (sortedById id satellites).Pairwise fun a b => (id a).1 ≤ (id b).1 :=
    List.pairwise_insertionSort _ _
  have hne : (sortedById id satellites).Pairwise fun a b => id a ≠ id b := by
    have hkeys : (satellites.pairs.map (·.2)).map id = satellites.keys := by
      rw [AList.keys, List.keys, Table.pairs, List.map_map, List.map_map]
      apply List.map_congr_left
      intro e he
      exact h e.1 e.2 (AList.mem_lookup_iff.2 he)
    have hnodup : ((sortedById id satellites).map id).Nodup := by
      rw [sortedById, ((List.perm_insertionSort _ _).map id).nodup_iff, hkeys]
      exact satellites.keys_nodup
    exact List.pairwise_map.1 hnodup
  exact (hle.and hne).imp fun {a b} hab => lt_of_le_of_ne hab.1 fun heq => hab.2 (Subtype.ext heq)

theorem mem_sortedById {satellites : Table SvId σ} {s : σ} :
    s ∈ sortedById id satellites ↔ ∃ k, satellites.lookup k = some s := by
  rw [sortedById, List.mem_insertionSort, List.mem_map]
  constructor
  · rintro ⟨⟨k, v⟩, hmem, rfl⟩
    exact ⟨k, Table.mem_pairs.1 hmem⟩
  · rintro ⟨k, hk⟩
    exact ⟨(k, s), Table.mem_pairs.2 hk, rfl⟩

end Collect

/-! ### Orbit, clock and bias corrections -/

structure OcbKey where
  gnssId : GnssId
  epochTime : ℕ
  deriving DecidableEq

structure OcbSatellite where
  id : SvId
  orbit : Option SsrOrbitCorrectionSatelliteElement
  clock : Option SsrClockCorrectionSatelliteElement
  codeBias : Option SsrCodeBiasSatElement
  phaseBias : Option SsrPhaseBiasSatElement
  ura : Option SsrUraSatElement

def OcbSatellite.new (id : SvId) : OcbSatellite := ⟨id, none, none, none, none, none⟩

structure OcbCorrections where
  gnssId : GnssId
  iod : ℕ
  epochTime : SpartnTime
  orbit : Option GnssSsrOrbitCorrections
  clock : Option GnssSsrClockCorrections
  codeBias : Option GnssSsrCodeBias
  phaseBias : Option GnssSsrPhaseBias
  ura : Option GnssSsrUra

namespace OcbCorrections

def new : OcbCorrections := ⟨.gps, 0, ⟨0, 0⟩, none, none, none, none, none⟩

section

variable (corrections : OcbCorrections)

def orbits : List SsrOrbitCorrectionSatelliteElement :=
  (corrections.orbit.map (·.ssrOrbitCorrectionList.1)).getD []

def clocks : List SsrClockCorrectionSatelliteElement :=
  (corrections.clock.map (·.ssrClockCorrectionList.1)).getD []

def codeBiases : List SsrCodeBiasSatElement :=
  (corrections.codeBias.map (·.ssrCodeBiasSatList.1)).getD []

def phaseBiases : List SsrPhaseBiasSatElement :=
  (corrections.phaseBias.map (·.ssrPhaseBiasSatList.1)).getD []

def uras : List SsrUraSatElement := (corrections.ura.map (·.ssrUraSatList.1)).getD []

def satelliteTable : Table SvId OcbSatellite :=
  let satellites : Table SvId OcbSatellite := ∅
  let satellites := collect OcbSatellite.new (·.svId) (fun satellite element =>
    { satellite with orbit := some element }) satellites corrections.orbits
  let satellites := collect OcbSatellite.new (·.svId) (fun satellite element =>
    { satellite with clock := some element }) satellites corrections.clocks
  let satellites := collect OcbSatellite.new (·.svId) (fun satellite element =>
    { satellite with codeBias := some element }) satellites corrections.codeBiases
  let satellites := collect OcbSatellite.new (·.svId) (fun satellite element =>
    { satellite with phaseBias := some element }) satellites corrections.phaseBiases
  collect OcbSatellite.new (·.svId) (fun satellite element =>
    { satellite with ura := some element }) satellites corrections.uras

def satellites : List OcbSatellite := sortedById OcbSatellite.id corrections.satelliteTable

def hasSatellite (id : SvId) : Bool :=
  corrections.orbits.any (fun element => element.svId = id) ||
    corrections.clocks.any (fun element => element.svId = id) ||
    corrections.codeBiases.any (fun element => element.svId = id) ||
    corrections.phaseBiases.any (fun element => element.svId = id) ||
    corrections.uras.any (fun element => element.svId = id)

end

theorem satellites_sorted (corrections : OcbCorrections) :
    corrections.satellites.Pairwise fun a b => a.id.1 < b.id.1 := by
  apply sortedById_sorted
  have hnew : ∀ k, (OcbSatellite.new k).id = k := fun _ => rfl
  refine Numbered.collect ?_ hnew (by intro _ _; rfl) _
  refine Numbered.collect ?_ hnew (by intro _ _; rfl) _
  refine Numbered.collect ?_ hnew (by intro _ _; rfl) _
  refine Numbered.collect ?_ hnew (by intro _ _; rfl) _
  exact Numbered.collect numbered_empty hnew (by intro _ _; rfl) _

/-- The epoch times of the elements. -/
def epochTimes (corrections : OcbCorrections) : List GnssSystemTime :=
  (corrections.orbit.map (·.epochTime)).toList ++ (corrections.clock.map (·.epochTime)).toList ++
    (corrections.codeBias.map (·.epochTime)).toList ++
    (corrections.phaseBias.map (·.epochTime)).toList ++
    (corrections.ura.map (·.epochTime)).toList

end OcbCorrections

abbrev OcbData := Table OcbKey OcbCorrections

/-! ### Atmospheric corrections -/

structure HpacKey where
  setId : ℕ
  gnssId : GnssId
  epochTime : ℕ
  deriving DecidableEq

structure HpacSatellite where
  id : SvId
  stec : Option StecSatElement
  residuals : Table ℤ StecResidualSatElement

def HpacSatellite.new (id : SvId) : HpacSatellite := ⟨id, none, ∅⟩

structure HpacCorrections where
  gnssId : GnssId
  iod : ℕ
  setId : ℕ
  epochTime : SpartnTime
  gridded : Option GnssSsrGriddedCorrection
  stec : Option GnssSsrStecCorrection

namespace HpacCorrections

def new : HpacCorrections := ⟨.gps, 0, 0, ⟨0, 0⟩, none, none⟩

section

variable (corrections : HpacCorrections)

def stecs : List StecSatElement := (corrections.stec.map (·.stecSatList.1)).getD []

def grid : List GridElement := (corrections.gridded.map (·.gridList.1)).getD []

/-- The residuals of all grid points, each with the number of its grid point. -/
def residuals : List (ℤ × StecResidualSatElement) :=
  corrections.grid.zipIdx.flatMap fun entry =>
    ((entry.1.stecResidualSatList.map (·.1)).getD []).map fun element => ((entry.2 : ℤ), element)

def satelliteTable : Table SvId HpacSatellite :=
  let satellites : Table SvId HpacSatellite := ∅
  let satellites := collect HpacSatellite.new (·.svId) (fun satellite element =>
    { satellite with stec := some element }) satellites corrections.stecs
  collect HpacSatellite.new (·.2.svId) (fun satellite residual =>
    { satellite with residuals := satellite.residuals.insert residual.1 residual.2 })
    satellites corrections.residuals

def satellites : List HpacSatellite := sortedById HpacSatellite.id corrections.satelliteTable

def findGridPoint (gridId : ℤ) : Option GridElement :=
  if gridId < 0 then none else corrections.grid[gridId.toNat]?

end

theorem satellites_sorted (corrections : HpacCorrections) :
    corrections.satellites.Pairwise fun a b => a.id.1 < b.id.1 := by
  apply sortedById_sorted
  have hnew : ∀ k, (HpacSatellite.new k).id = k := fun _ => rfl
  refine Numbered.collect ?_ hnew (by intro _ _; rfl) _
  exact Numbered.collect numbered_empty hnew (by intro _ _; rfl) _

/-- The epoch times of the elements. -/
def epochTimes (corrections : HpacCorrections) : List GnssSystemTime :=
  (corrections.gridded.map (·.epochTime)).toList ++ (corrections.stec.map (·.epochTime)).toList

end HpacCorrections

abbrev HpacData := Table HpacKey HpacCorrections

/-! ### All corrections of a message -/

structure CorrectionData where
  ocbData : Table ℕ OcbData
  hpacData : Table ℕ HpacData
  /-- The satellites that a system's integrity element lists. -/
  realTimeIntegrityData : Table GnssId (List SvId)
  /-- −1 when the alert is not there, 1 for "do not use". -/
  troposphereDnu : ℤ
  ionosphereDnu : ℤ
  /-- The satellites whose ionosphere quality is beyond the threshold. -/
  stecDnuSatellites : List (GnssId × SvId)

namespace CorrectionData

def new : CorrectionData := ⟨∅, ∅, ∅, -1, -1, []⟩

section

variable (data : CorrectionData)

def ocb (iod : ℕ) : Option OcbData := data.ocbData.lookup iod

def hpac (iod : ℕ) : Option HpacData := data.hpacData.lookup iod

/-- Change the corrections of a key, which are new when there are none. -/
def modifyOcb (iod : ℕ) (key : OcbKey) (f : OcbCorrections → OcbCorrections) : CorrectionData :=
  { data with
    ocbData := data.ocbData.upsert iod ∅ fun ocb => ocb.upsert key OcbCorrections.new f }

def modifyHpac (iod : ℕ) (key : HpacKey) (f : HpacCorrections → HpacCorrections) :
    CorrectionData :=
  { data with
    hpacData := data.hpacData.upsert iod ∅ fun hpac => hpac.upsert key HpacCorrections.new f }

variable (gnssId : GnssId)

def ocbKey (epochTime : SpartnTime) : OcbKey :=
  ⟨gnssId, if groupByEpochTime then epochTime.roundedSeconds else 0⟩

def hpacKey (setId : ℕ) (epochTime : SpartnTime) : HpacKey :=
  ⟨setId, gnssId, if groupByEpochTime then epochTime.roundedSeconds else 0⟩

/-- `add_correction` of an element with orbit, clock or bias corrections. -/
def addOcb (iodSsr : Integer 0 15) (epoch : GnssSystemTime)
    (f : OcbCorrections → OcbCorrections) : CorrectionData :=
  let iod := iodSsr.1.toNat
  let epochTime := spartnTimeFrom epoch
  data.modifyOcb iod (ocbKey gnssId epochTime) fun corrections =>
    f { corrections with gnssId := gnssId, iod := iod, epochTime := epochTime }

def addOrbit (orbit : GnssSsrOrbitCorrections) : CorrectionData :=
  data.addOcb gnssId orbit.iodSsr orbit.epochTime fun corrections =>
    { corrections with orbit := some orbit }

def addClock (clock : GnssSsrClockCorrections) : CorrectionData :=
  data.addOcb gnssId clock.iodSsr clock.epochTime fun corrections =>
    { corrections with clock := some clock }

def addCodeBias (codeBias : GnssSsrCodeBias) : CorrectionData :=
  data.addOcb gnssId codeBias.iodSsr codeBias.epochTime fun corrections =>
    { corrections with codeBias := some codeBias }

def addPhaseBias (phaseBias : GnssSsrPhaseBias) : CorrectionData :=
  data.addOcb gnssId phaseBias.iodSsr phaseBias.epochTime fun corrections =>
    { corrections with phaseBias := some phaseBias }

/-- An URA sets the epoch time only when corrections are grouped by it. -/
def addUra (ura : GnssSsrUra) : CorrectionData :=
  let iod := ura.iodSsr.1.toNat
  let epochTime := spartnTimeFrom ura.epochTime
  data.modifyOcb iod (ocbKey gnssId epochTime) fun corrections =>
    let corrections := { corrections with gnssId := gnssId, iod := iod }
    let corrections :=
      if groupByEpochTime then { corrections with epochTime := epochTime } else corrections
    { corrections with ura := some ura }

def addHpac (iodSsr : Integer 0 15) (correctionPointSetId : Integer 0 16383)
    (epoch : GnssSystemTime) (f : HpacCorrections → HpacCorrections) : CorrectionData :=
  let iod := iodSsr.1.toNat
  let epochTime := spartnTimeFrom epoch
  let setId := correctionPointSetId.1.toNat
  data.modifyHpac iod (hpacKey gnssId setId epochTime) fun corrections =>
    f { corrections with gnssId := gnssId, iod := iod, setId := setId, epochTime := epochTime }

def addGridded (gridded : GnssSsrGriddedCorrection) : CorrectionData :=
  data.addHpac gnssId gridded.iodSsr gridded.correctionPointSetId gridded.epochTime
    fun corrections => { corrections with gridded := some gridded }

def addStec (stec : GnssSsrStecCorrection) : CorrectionData :=
  data.addHpac gnssId stec.iodSsr stec.correctionPointSetId stec.epochTime
    fun corrections => { corrections with stec := some stec }

/-- `add_correction` of a `GNSS-RealTimeIntegrity`: the bad signals are looked for exactly when
the element names none. -/
def addRealTimeIntegrity (rti : GnssRealTimeIntegrity) : Result CorrectionData :=
  if rti.gnssBadSignalList.1.any fun element => element.badSignalId.isNone then
    .error .nullDereference
  else
    .ok { data with
      realTimeIntegrityData :=
        data.realTimeIntegrityData.insert gnssId (rti.gnssBadSignalList.1.map (·.badSvId)) }

end

/-- `iods`: each issue of data once, in ascending order. -/
def iods (data : CorrectionData) : List ℕ :=
  (data.ocbData.keys ++ data.hpacData.keys).dedup.insertionSort (· ≤ ·)

/-- `RealTimeIntegrityData::can_use_satellite`, also when the system has no such data. -/
def canUseSatellite (data : CorrectionData) (gnssId : GnssId) (id : SvId) : Bool :=
  match data.realTimeIntegrityData.lookup gnssId with
  | some badSatellites => !decide (id ∈ badSatellites)
  | none => true

end CorrectionData

/-! ### The orders of the standard library -/

/-- One of the orders of a list. -/
structure Iteration (α : Type) where
  order : List α → List α
  perm : ∀ l, (order l).Perm l

/-- A sorting by a key, which need not be stable. -/
structure Sorting (α : Type) (key : α → ℕ) where
  sort : List α → List α
  perm : ∀ l, (sort l).Perm l
  sorted : ∀ l, (sort l).Pairwise fun a b => key a ≤ key b

/-- The subtype of a constellation that has one. -/
def subtypeOf (gnssId : GnssId) : ℕ :=
  match subtypeFromGnssId gnssId with
  | .ok subtype => subtype
  | .error _ => 0

/-- What an implementation of the standard library decides: the order in which an
`unordered_map` hands out its entries, and how `std::sort` orders what compares equal. -/
structure Library where
  ocbIteration : Iteration (OcbKey × OcbCorrections)
  hpacIteration : Iteration (HpacKey × HpacCorrections)
  ocbSorting : Sorting OcbCorrections fun corrections => subtypeOf corrections.gnssId
  hpacSorting : Sorting HpacCorrections fun corrections => subtypeOf corrections.gnssId

/-- `std::sort` by subtype: it compares every element as soon as there are two. -/
def sortBySubtype {α : Type} (gnssId : α → GnssId)
    (sorting : Sorting α fun a => subtypeOf (gnssId a)) (messages : List α) : Result (List α) :=
  if 2 ≤ messages.length ∧ ∃ m ∈ messages, ¬ (subtypeFromGnssId (gnssId m)).isOk = true then
    .error .unreachable
  else .ok (sorting.sort messages)

end SuplLpp.Spartn
