import Mathlib.Tactic.IntervalCases
import SuplLpp.Spartn.Collected

/-!
# Where the SPARTN generator finishes

One lemma for each operation says when it finishes, from the fields up to the messages.

* `HasSubtype`, `HasMask`: the systems that have a subtype, and those that have a satellite
  mask;
* `finishes_ocbMessage`, `finishes_hpacMessage`: when a message does;
* `OcbFinishes`, `finishes_generateOcb`: when the messages of an issue of data do.
-/

namespace SuplLpp.Spartn

open Asn Bits Fallible MessageBuilder

/-! ### Systems -/

/-- The systems whose corrections have a message subtype. -/
def HasSubtype (gnssId : GnssId) : Prop := gnssId ≠ .sbas ∧ gnssId ≠ .navic

/-- The systems that satellites have a mask for: QZSS has a subtype, but no mask. -/
def HasMask (gnssId : GnssId) : Prop := (maskSizes gnssId).isSome

instance : DecidablePred HasSubtype := fun _ => inferInstanceAs (Decidable (_ ∧ _))

instance : DecidablePred HasMask := fun _ => inferInstanceAs (Decidable (_ = true))

theorem HasMask.hasSubtype {gnssId : GnssId} (h : HasMask gnssId) : HasSubtype gnssId := by
  cases gnssId <;> first | decide | cases h

theorem finishes_subtype (gnssId : GnssId) :
    Finishes (subtypeFromGnssId gnssId) ↔ HasSubtype gnssId := by
  cases gnssId <;> simp [subtypeFromGnssId, HasSubtype]

theorem finishes_ephemerisType (gnssId : GnssId) :
    Finishes (ephemerisType gnssId) ↔ HasSubtype gnssId := by
  cases gnssId <;> simp [ephemerisType, HasSubtype]

theorem finishes_satelliteMask (gnssId : GnssId) (ids : List SvId) :
    Finishes (satelliteMask gnssId ids) ↔ HasMask gnssId := by
  cases gnssId <;> simp [satelliteMask, HasMask, maskSizes]

theorem finishes_orbitIode {gnssId : GnssId} (h : HasMask gnssId) (iod : BitString 11) :
    Finishes (orbitIode gnssId iod) := by
  cases gnssId <;> first | exact finishes_ok _ | cases h

/-! ### OCB messages -/

section Ocb

variable (cfg : Config) (data : CorrectionData)

theorem finishes_ocbSatellite {corrections : OcbCorrections} (h : HasMask corrections.gnssId)
    (satellite : OcbSatellite) : Finishes (ocbSatellite cfg data corrections satellite) := by
  have hbias : Finishes (satelliteBiasBlock cfg corrections.gnssId satellite) := by
    unfold satelliteBiasBlock
    split
    · cases hg : corrections.gnssId <;> rw [hg] at h <;> first | exact finishes_ok _ | cases h
    · exact finishes_ok _
  obtain ⟨bias, hbias⟩ := hbias
  refine (finishes_bind_of_total (p := True) (iff_of_true ?_ trivial) fun orbit _ => ?_).2 trivial
  · cases satellite.orbit with
    | none => exact finishes_ok _
    | some orbit =>
      obtain ⟨iode, hiode⟩ := finishes_orbitIode h orbit.iod
      exact finishes_bind.2 ⟨iode, hiode, finishes_pure _⟩
  · exact finishes_bind.2 ⟨bias, hbias, finishes_pure _⟩

theorem finishes_ocbPayload (siou : ℕ) (eos : Bool) (corrections : OcbCorrections) :
    Finishes (ocbPayload cfg data siou eos corrections) ↔ HasMask corrections.gnssId := by
  have hiff : HasSubtype corrections.gnssId ∧ HasMask corrections.gnssId ↔
      HasMask corrections.gnssId := and_iff_right_of_imp HasMask.hasSubtype
  rw [← hiff]
  apply finishes_bind_iff (finishes_ephemerisType _)
  intro ephemeris _
  apply finishes_bind_of_total (finishes_satelliteMask _ _)
  intro mask hmask
  have hsystem : HasMask corrections.gnssId := (finishes_satelliteMask _ _).1 ⟨mask, hmask⟩
  obtain ⟨blocks, hblocks⟩ := finishes_mapM.2
    fun satellite (_ : satellite ∈ corrections.satellites) =>
      finishes_ocbSatellite cfg data hsystem satellite
  exact finishes_bind.2 ⟨blocks, hblocks, finishes_pure _⟩

theorem finishes_ocbMessage (siou : ℕ) (eos : Bool) (corrections : OcbCorrections) :
    Finishes (ocbMessage cfg data siou eos corrections) ↔ HasMask corrections.gnssId := by
  have hiff : HasSubtype corrections.gnssId ∧ HasMask corrections.gnssId ↔
      HasMask corrections.gnssId := and_iff_right_of_imp HasMask.hasSubtype
  rw [← hiff]
  apply finishes_bind_iff (finishes_subtype _)
  intro subtype _
  exact finishes_bind_of_total (finishes_ocbPayload cfg data siou eos corrections)
    fun payload _ => finishes_pure _

theorem finishes_ocbMessages (siou : ℕ) (messages : List OcbCorrections) :
    Finishes (ocbMessages cfg data siou messages) ↔
      ∀ c ∈ messages, c.timeTag ≠ 0 → HasMask c.gnssId := by
  induction messages with
  | nil => simp [ocbMessages]
  | cons c rest ih =>
    rw [List.forall_mem_cons, ocbMessages]
    split
    · next hskip => simp [ih, hskip]
    · next hsend =>
      rw [forall_prop_of_true hsend]
      apply finishes_bind_iff (finishes_ocbMessage cfg data siou _ c)
      intro message _
      exact finishes_bind_of_total ih fun messages _ => finishes_pure _

end Ocb

/-! ### The order of the messages -/

/-- `std::sort` looks at every subtype as soon as there are two messages. -/
def Sortable {α : Type} (gnssId : α → GnssId) (messages : List α) : Prop :=
  2 ≤ messages.length → ∀ m ∈ messages, HasSubtype (gnssId m)

theorem Sortable.perm {α : Type} {gnssId : α → GnssId} {l m : List α} (hperm : l.Perm m) :
    Sortable gnssId l ↔ Sortable gnssId m := by
  unfold Sortable
  rw [hperm.length_eq]
  exact imp_congr_right fun _ => forall_congr' fun c => imp_congr_left hperm.mem_iff

theorem isOk_subtype (gnssId : GnssId) :
    (subtypeFromGnssId gnssId).isOk = true ↔ HasSubtype gnssId := by
  cases gnssId <;> simp [subtypeFromGnssId, HasSubtype, Except.isOk, Except.toBool]

theorem sortBySubtype_eq {α : Type} {gnssId : α → GnssId}
    (sorting : Sorting α fun a => subtypeOf (gnssId a)) {messages : List α}
    (h : Sortable gnssId messages) :
    sortBySubtype gnssId sorting messages = .ok (sorting.sort messages) := by
  unfold sortBySubtype
  apply if_neg
  rintro ⟨hlen, m, hm, hok⟩
  exact hok ((isOk_subtype _).2 (h hlen m hm))

theorem sortBySubtype_eq_ok {α : Type} {gnssId : α → GnssId}
    {sorting : Sorting α fun a => subtypeOf (gnssId a)} {messages sorted : List α} :
    sortBySubtype gnssId sorting messages = .ok sorted ↔
      Sortable gnssId messages ∧ sorting.sort messages = sorted := by
  constructor
  · intro h
    have hsortable : Sortable gnssId messages := by
      intro hlen m hm
      by_contra hno
      unfold sortBySubtype at h
      rw [if_pos ⟨hlen, m, hm, fun hok => hno ((isOk_subtype _).1 hok)⟩] at h
      cases h
    rw [sortBySubtype_eq sorting hsortable] at h
    cases h
    exact ⟨hsortable, rfl⟩
  · rintro ⟨hsortable, rfl⟩
    exact sortBySubtype_eq sorting hsortable

/-! ### OCB messages of an issue of data -/

/-- The OCB messages of these corrections can be generated. -/
def OcbFinishes (messages : List OcbCorrections) : Prop :=
  Sortable (·.gnssId) messages ∧ ∀ c ∈ messages, c.timeTag ≠ 0 → HasMask c.gnssId

theorem ocbCandidates_perm (cfg : Config) (iteration : Iteration (OcbKey × OcbCorrections))
    (ocbData : List (OcbKey × OcbCorrections)) :
    (ocbCandidates cfg (iteration.order ocbData)).Perm (ocbCandidates cfg ocbData) :=
  ((iteration.perm ocbData).filter _).map _

theorem finishes_generateOcb (cfg : Config) (data : CorrectionData) (lib : Library)
    (siou iod : ℕ) :
    Finishes (generateOcb cfg data lib siou iod) ↔ OcbFinishes (data.ocbCandidates cfg iod) := by
  unfold generateOcb CorrectionData.ocbCandidates
  cases data.ocb iod with
  | none =>
    simp [OcbFinishes, Sortable]
  | some ocbData =>
    have hperm := ocbCandidates_perm cfg lib.ocbIteration ocbData.pairs
    rw [OcbFinishes, ← Sortable.perm hperm]
    apply finishes_bind_iff
    · constructor
      · rintro ⟨sorted, hsorted⟩
        exact (sortBySubtype_eq_ok.1 hsorted).1
      · intro h
        exact ⟨_, sortBySubtype_eq _ h⟩
    · intro sorted hsorted
      obtain ⟨-, rfl⟩ := sortBySubtype_eq_ok.1 hsorted
      rw [finishes_ocbMessages]
      apply forall_congr'
      intro c
      rw [((lib.ocbSorting.perm _).trans hperm).mem_iff]

/-! ### HPAC messages -/

theorem finishes_assert (build : Build) (cond : Bool) :
    Finishes (build.assert cond) ↔ (build.assertions = true → cond = true) := by
  unfold Build.assert
  cases build.assertions <;> cases cond <;> simp

theorem finishes_hpacHeader (build : Build) (siou : ℕ) (set : CorrectionPointSet)
    (troposphereType ionosphereType : ℕ) :
    Finishes (hpacHeader build siou set troposphereType ionosphereType) ↔
      (build.assertions = true → set.gridPointCount % 2 ^ 8 ≤ 127) := by
  have hcount : Finishes (sf030 build 1) := by
    obtain ⟨a, ha⟩ := (finishes_assert build (decide (1 ≤ 1))).2 fun _ => rfl
    obtain ⟨b, hb⟩ := (finishes_assert build (decide (1 ≤ 32))).2 fun _ => rfl
    exact finishes_bind.2 ⟨a, ha, finishes_bind.2 ⟨b, hb, finishes_pure _⟩⟩
  have hpoints : Finishes (sf039 build (set.gridPointCount % 2 ^ 8)) ↔
      (build.assertions = true → set.gridPointCount % 2 ^ 8 ≤ 127) := by
    refine (finishes_bind_of_total (finishes_assert build _) fun _ _ => finishes_pure _).trans ?_
    rw [decide_eq_true_iff]
  refine (finishes_bind_iff (iff_true_intro hcount) fun areaCount _ => ?_).trans
    (iff_of_eq (true_and _))
  exact finishes_bind_of_total hpoints fun gridPoints _ => finishes_pure _

section Hpac

variable (cfg : Config) (set : CorrectionPointSet) (corrections : HpacCorrections)

theorem finishes_troposphereDataBlock :
    Finishes (troposphereDataBlock set corrections cfg) ↔ corrections.gridded.isSome := by
  unfold troposphereDataBlock
  cases corrections.gridded <;> simp

theorem stecResidualSize_le (residual : ℚ) : stecResidualSize residual ≤ 3 := by
  unfold stecResidualSize
  split_ifs <;> omega

theorem computeResidualFieldSize_le (residuals : List StecResidual) :
    computeResidualFieldSize residuals ≤ 3 := by
  have hloop : ∀ size ≤ 3, residuals.foldl
      (fun size r => max size (stecResidualSize r.residual)) size ≤ 3 := by
    induction residuals with
    | nil => intro size h; exact h
    | cons r residuals ih =>
      intro size h
      exact ih _ (max_le h (stecResidualSize_le _))
  exact hloop 0 (by omega)

theorem finishes_ionosphereResidualField {size : ℕ} (h : size ≤ 3) (r : StecResidual) :
    Finishes (ionosphereResidualField cfg size r) := by
  unfold ionosphereResidualField
  interval_cases size <;> split <;> exact finishes_ok _

theorem finishes_ionosphereSatellite (blockType equationType : ℕ) (satellite : HpacSatellite) :
    Finishes (ionosphereSatellite cfg set blockType equationType satellite) ↔
      satellite.stec.isSome := by
  unfold ionosphereSatellite
  cases satellite.stec with
  | none => simp
  | some element =>
    have hresiduals : Finishes (if blockType = 2 then
        ionosphereDataBlock2 cfg set satellite (computeStecParameters cfg set element equationType)
      else .ok []) := by
      split
      · obtain ⟨fields, hfields⟩ := finishes_mapM.2
          fun r (_ : r ∈ computeStecResiduals cfg set satellite
              (computeStecParameters cfg set element equationType)) =>
            finishes_ionosphereResidualField cfg (computeResidualFieldSize_le
              (computeStecResiduals cfg set satellite
                (computeStecParameters cfg set element equationType))) r
        exact finishes_bind.2 ⟨fields, hfields, finishes_pure _⟩
      · exact finishes_ok _
    obtain ⟨residuals, hresiduals⟩ := hresiduals
    exact iff_of_true (finishes_bind.2 ⟨residuals, hresiduals, finishes_pure _⟩) rfl

theorem finishes_ionosphereDataBlock (gnssId : GnssId) (ocb : Option OcbCorrections)
    (blockType : ℕ) :
    Finishes (ionosphereDataBlock cfg set corrections gnssId ocb blockType) ↔ HasMask gnssId := by
  apply finishes_bind_of_total (finishes_satelliteMask _ _)
  intro mask _
  obtain ⟨blocks, hblocks⟩ := finishes_mapM.2
    fun satellite (h : satellite ∈ ionosphereSatellites cfg set corrections ocb) =>
      (finishes_ionosphereSatellite cfg set blockType
        (ionosphereEquationType cfg (ionosphereSatellites cfg set corrections ocb)) satellite).2 (by
          have hkeep := (List.mem_filter.1 h).2
          simp only [Bool.and_eq_true] at hkeep
          exact hkeep.1.1)
  exact finishes_bind.2 ⟨blocks, hblocks, finishes_pure _⟩

variable (build : Build) (data : CorrectionData)

/-- An HPAC message of these corrections can be generated. -/
def HpacMessageFinishes (grid : CorrectionPointGrid) : Prop :=
  HasSubtype corrections.gnssId ∧
    (build.assertions = true → grid.gridPointCount % 2 ^ 8 ≤ 127) ∧
    (ionosphereBlockType data corrections ≠ 0 → HasMask corrections.gnssId)

theorem finishes_hpacMessage (siou iod : ℕ) :
    Finishes (hpacMessage build cfg data siou iod set corrections) ↔
      HpacMessageFinishes corrections build data set.toCorrectionPointGrid := by
  apply finishes_bind_iff (finishes_subtype _)
  intro subtype _
  refine finishes_bind_of_total ?_ fun payload _ => finishes_pure _
  apply finishes_bind_iff (finishes_hpacHeader ..)
  intro header _
  have htroposphere : Finishes (if troposphereBlockType data set corrections ≠ 0 then
      troposphereDataBlock set corrections cfg else .ok []) := by
    split
    · next h =>
      apply (finishes_troposphereDataBlock cfg set corrections).2
      by_contra hnone
      rw [Bool.not_eq_true, Option.isSome_eq_false_iff] at hnone
      apply h
      simp [troposphereBlockType, computeTroposphereBlockType, hnone]
    · exact finishes_ok _
  refine (finishes_bind_iff (iff_true_intro htroposphere) fun troposphere _ => ?_).trans
    (iff_of_eq (true_and _))
  refine finishes_bind_of_total ?_ fun ionosphere _ => finishes_pure _
  split
  · next h => rw [finishes_ionosphereDataBlock, forall_prop_of_true h]
  · next h => exact iff_of_true (finishes_ok _) fun hne => absurd hne h

end Hpac

end SuplLpp.Spartn
