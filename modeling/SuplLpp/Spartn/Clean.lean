import Mathlib.Tactic.MkIffOfInductiveProp
import SuplLpp.Spartn.DoNotUse

/-!
# Messages that the SPARTN generator finishes on

With every check compiled in, the generator stops at an assertion, a shift, an absent field or an
unreachable branch for some messages.  One lemma for each loop says when it finishes; together
they say it of the elements of an LPP message.

* `finishes_findCorrectionPointSet`, `finishes_generateGads`, `finishes_generateHpac`,
  `finishes_generateIod`;
* `GeneratesCleanly`, a condition on the elements of a message, the configuration and the sets
  that the generator knows;
* `generate_finishes_iff`: `generate` finishes exactly on the messages of `GeneratesCleanly`.
-/

namespace SuplLpp.Spartn

open Asn Fallible MessageBuilder

/-! ### Correction point sets -/

theorem checked_assertions : Build.checked.assertions = true := rfl

theorem checked_shifts : Build.checked.checkedShifts = true := rfl

theorem finishes_testBit (word : ℕ) (index : ℤ) :
    Finishes (Build.checked.testBit word index) ↔ 0 ≤ index ∧ index < 64 := by
  unfold Build.testBit
  by_cases h : 0 ≤ index ∧ index < 64
  · rw [if_pos h]
    exact iff_of_true (finishes_ok _) h
  · rw [if_neg h, if_pos checked_shifts]
    exact iff_of_false (not_finishes_error _) h

namespace CorrectionPointGrid

variable (grid : CorrectionPointGrid)

theorem finishes_hasGridPoint (gridPoint : ℕ) :
    Finishes (grid.hasGridPoint .checked gridPoint) ↔ gridPoint < 64 := by
  unfold hasGridPoint
  rw [finishes_testBit]
  omega

theorem mem_rounds {xy : ℕ × ℕ} :
    xy ∈ grid.rounds ↔
      xy.1 < grid.numberOfStepsLatitude + 1 ∧ xy.2 < grid.numberOfStepsLongitude + 1 := by
  unfold rounds
  rw [List.mem_flatMap]
  constructor
  · rintro ⟨x, hx, hxy⟩
    obtain ⟨y, hy, rfl⟩ := List.mem_map.1 hxy
    exact ⟨List.mem_range.1 hx, List.mem_range.1 hy⟩
  · rintro ⟨hx, hy⟩
    exact ⟨xy.1, List.mem_range.2 hx, List.mem_map.2 ⟨xy.2, List.mem_range.2 hy, rfl⟩⟩

/-- The bitmask of LPP has 64 bits, one for each grid point. -/
theorem finishes_calculateGridPoints :
    Finishes (grid.calculateGridPoints .checked) ↔ grid.gridPointCount ≤ 64 := by
  have hloop : Finishes (grid.rounds.foldlM (grid.addGridPoint .checked) ([], 0)) ↔
      ∀ xy ∈ grid.rounds, xy.1 * (grid.numberOfStepsLongitude + 1) + xy.2 < 64 :=
    finishes_foldlM (p := fun _ => True) trivial
      (fun xy _ points _ => finishes_bind_of_total (finishes_hasGridPoint grid _)
        fun _ _ => finishes_pure _) fun _ _ _ _ _ _ => trivial
  refine (finishes_bind_of_total hloop fun _ _ => finishes_pure _).trans ?_
  unfold gridPointCount
  constructor
  · intro h
    -- the last point
    have hlast := h (grid.numberOfStepsLatitude, grid.numberOfStepsLongitude)
      ((mem_rounds grid).2 ⟨Nat.lt_succ_self _, Nat.lt_succ_self _⟩)
    rw [Nat.add_one_mul]
    dsimp only at hlast
    omega
  · rintro h ⟨x, y⟩ hxy
    obtain ⟨hx, hy⟩ := (mem_rounds grid).1 hxy
    dsimp only at hx hy ⊢
    calc x * (grid.numberOfStepsLongitude + 1) + y
        < x * (grid.numberOfStepsLongitude + 1) + (grid.numberOfStepsLongitude + 1) :=
          Nat.add_lt_add_left hy _
      _ = (x + 1) * (grid.numberOfStepsLongitude + 1) := (Nat.add_one_mul _ _).symm
      _ ≤ (grid.numberOfStepsLatitude + 1) * (grid.numberOfStepsLongitude + 1) :=
          Nat.mul_le_mul_right _ hx
      _ ≤ 64 := h

end CorrectionPointGrid

section Sets

variable (cfg : Config) (generator : Generator) (assistData : SsrAssistData)

theorem finishes_newCorrectionPointSet (setId areaId : ℕ)
    (array : GnssSsrArrayOfCorrectionPoints) :
    Finishes (newCorrectionPointSet .checked cfg setId areaId array) ↔
      (correctionPointGrid cfg array).gridPointCount ≤ 64 := by
  rw [← CorrectionPointGrid.finishes_calculateGridPoints]
  unfold newCorrectionPointSet
  dsimp only
  split
  · next points h => exact iff_of_true (finishes_ok _) ⟨points, h⟩
  · next e h =>
    refine iff_of_false (not_finishes_error _) fun ⟨points, hpoints⟩ => ?_
    rw [h] at hpoints
    cases hpoints

theorem newCorrectionPointSet_grid {build : Build} {setId areaId : ℕ}
    {array : GnssSsrArrayOfCorrectionPoints} {set : CorrectionPointSet}
    (h : newCorrectionPointSet build cfg setId areaId array = .ok set) :
    set.toCorrectionPointGrid = correctionPointGrid cfg array ∧ set.setId = setId ∧
      set.areaId = areaId := by
  unfold newCorrectionPointSet at h
  dsimp only at h
  split at h
  · cases h
    exact ⟨rfl, rfl, rfl⟩
  · cases h

theorem finishes_findCorrectionPointSet :
    Finishes (generator.findCorrectionPointSet .checked cfg assistData) ↔
      ∀ entry ∈ generator.newCorrectionPoints assistData,
        (correctionPointGrid cfg entry.2).gridPointCount ≤ 64 := by
  unfold Generator.findCorrectionPointSet
  cases generator.newCorrectionPoints assistData with
  | none => simp
  | some entry =>
    obtain ⟨setId, array⟩ := entry
    refine (finishes_bind_of_total (finishes_newCorrectionPointSet cfg setId _ array)
      fun _ _ => finishes_pure _).trans ?_
    simp

/-- The rectangle of a set that the generator has when it generates messages: from before, or
from this message. -/
def Generator.knownGrid (setId : ℕ) : Option CorrectionPointGrid :=
  match generator.newCorrectionPoints assistData with
  | some (newId, array) =>
    if setId = newId then some (correctionPointGrid cfg array)
    else (generator.mCorrectionPointSets.lookup setId).map (·.toCorrectionPointGrid)
  | none => (generator.mCorrectionPointSets.lookup setId).map (·.toCorrectionPointGrid)

variable {cfg generator assistData}

theorem lookup_known {build : Build} {generator' : Generator}
    (h : generator.findCorrectionPointSet build cfg assistData = .ok generator') (setId : ℕ) :
    (generator'.mCorrectionPointSets.lookup setId).map (·.toCorrectionPointGrid) =
      generator.knownGrid cfg assistData setId := by
  unfold Generator.findCorrectionPointSet at h
  unfold Generator.knownGrid
  cases hnew : generator.newCorrectionPoints assistData with
  | none =>
    rw [hnew] at h
    cases h
    rfl
  | some entry =>
    obtain ⟨newId, array⟩ := entry
    rw [hnew] at h
    obtain ⟨set, hset, h⟩ := bind_eq_ok.1 h
    cases h
    dsimp only
    rw [Table.lookup_insert]
    by_cases heq : setId = newId
    · rw [if_pos heq, if_pos heq, Option.map_some, (newCorrectionPointSet_grid cfg hset).1]
    · rw [if_neg heq, if_neg heq]

end Sets

/-! ### GAD messages -/

/-- A set that a GAD message can announce: at most eight points in each direction. -/
def Announceable (grid : CorrectionPointGrid) : Prop :=
  grid.numberOfStepsLatitude ≤ 7 ∧ grid.numberOfStepsLongitude ≤ 7

theorem Announceable.gridPointCount_le {grid : CorrectionPointGrid} (h : Announceable grid) :
    grid.gridPointCount ≤ 64 :=
  Nat.mul_le_mul (Nat.succ_le_succ h.1) (Nat.succ_le_succ h.2)

theorem finishes_gridCount (count : ℕ) (h : count ≤ 63) :
    Finishes (sf034 .checked ((count + 1) % 2 ^ 8)) ↔ count ≤ 7 := by
  unfold sf034
  have hleast : Finishes (Build.checked.assert (decide (1 ≤ (count + 1) % 2 ^ 8))) := by
    rw [finishes_assert]
    intro _
    rw [decide_eq_true_iff]
    omega
  refine (finishes_bind_iff (iff_true_intro hleast) fun _ _ => ?_).trans (iff_of_eq (true_and _))
  refine (finishes_bind_of_total (finishes_assert _ _) fun _ _ => finishes_pure _).trans ?_
  rw [forall_prop_of_true checked_assertions, decide_eq_true_iff]
  omega

theorem finishes_gadPayload (siou : ℕ) (set : CorrectionPointSet) :
    Finishes (gadPayload .checked siou set) ↔ Announceable set.toCorrectionPointGrid := by
  have hcount : Finishes (sf030 .checked 1) := ⟨_, rfl⟩
  have hpoints : Finishes ((List.range (min set.gridPointCount 255)).mapM
      (set.hasGridPoint .checked)) ↔ set.gridPointCount ≤ 64 := by
    rw [finishes_mapM]
    simp only [CorrectionPointGrid.finishes_hasGridPoint, List.mem_range]
    constructor
    · intro h
      by_contra hlarge
      exact absurd (h 64 (by omega)) (lt_irrefl 64)
    · intro h gridPoint hlt
      omega
  have hfields : Finishes (gadPayload .checked siou set) ↔ set.gridPointCount ≤ 64 ∧
      set.numberOfStepsLatitude ≤ 7 ∧ set.numberOfStepsLongitude ≤ 7 := by
    refine finishes_bind_iff hpoints fun _ _ => ?_
    refine (finishes_bind_iff (iff_true_intro hcount) fun _ _ => ?_).trans
      (iff_of_eq (true_and _))
    refine finishes_bind_iff (finishes_gridCount _ set.latitude_le) fun _ _ => ?_
    exact finishes_bind_of_total (finishes_gridCount _ set.longitude_le) fun _ _ => finishes_pure _
  rw [hfields]
  exact and_iff_right_of_imp fun h => Announceable.gridPointCount_le h

theorem finishes_generateGads {sets : Table ℕ CorrectionPointSet} {siou : ℕ}
    {hpacData : List (HpacKey × HpacCorrections)} :
    Finishes (generateGads .checked sets siou hpacData) ↔
      (∃ kvp ∈ hpacData, kvp.2.gnssId = .gps) → ∀ kvp ∈ hpacData,
        ∀ set ∈ sets.lookup kvp.1.setId, Announceable set.toCorrectionPointGrid := by
  have hgad : ∀ setId epochTime, Finishes (generateGad .checked sets siou epochTime setId) ↔
      ∀ set ∈ sets.lookup setId, Announceable set.toCorrectionPointGrid := by
    intro setId epochTime
    unfold generateGad
    cases sets.lookup setId with
    | none => simp
    | some set =>
      refine (finishes_bind_of_total (finishes_gadPayload siou set) fun _ _ =>
        finishes_pure _).trans ?_
      simp
  unfold generateGads
  rw [← isSome_findGadEpochTime]
  cases findGadEpochTime hpacData with
  | none => simp
  | some epochTime =>
    refine (finishes_bind_of_total finishes_mapM fun _ _ => finishes_pure _).trans ?_
    simp only [hgad, mem_setIds, Option.isSome_some, forall_true_left]
    constructor
    · intro h kvp hkvp
      exact h kvp.1.setId ⟨kvp, hkvp, rfl⟩
    · rintro h setId ⟨kvp, hkvp, rfl⟩
      exact h kvp hkvp

/-! ### HPAC messages -/

section Hpac

variable {cfg : Config} {sets : Table ℕ CorrectionPointSet} {lib : Library} {siou iod : ℕ}

/-- An HPAC message can be generated for each of these corrections whose set is known. -/
def HpacFinishes (sets : Table ℕ CorrectionPointSet) (data : CorrectionData)
    (messages : List HpacCorrections) : Prop :=
  Sortable (·.gnssId) messages ∧ ∀ c ∈ messages, ∀ set ∈ sets.lookup c.setId,
    HpacMessageFinishes c .checked data set.toCorrectionPointGrid

theorem finishes_hpacMessages (data : CorrectionData) (messages : List HpacCorrections) :
    Finishes (hpacMessages .checked cfg sets siou iod data messages) ↔
      ∀ c ∈ messages, ∀ set ∈ sets.lookup c.setId,
        HpacMessageFinishes c .checked data set.toCorrectionPointGrid := by
  induction messages generalizing data with
  | nil => simp [hpacMessages]
  | cons c rest ih =>
    rw [List.forall_mem_cons]
    unfold hpacMessages
    cases hset : sets.lookup c.setId with
    | none => simp [ih data]
    | some set =>
      -- what is flagged on the way does not matter for the rest
      refine finishes_bind_iff ?_ fun message _ =>
        finishes_bind_of_total (ih _) fun _ _ => finishes_pure _
      rw [finishes_hpacMessage]
      simp only [Option.mem_def, Option.some.injEq, forall_eq']
      rfl

theorem finishes_generateHpac (data : CorrectionData) :
    Finishes (generateHpac .checked cfg sets lib siou iod data) ↔
      HpacFinishes sets data (data.hpacCandidates cfg iod) := by
  unfold generateHpac CorrectionData.hpacCandidates
  cases data.hpac iod with
  | none => simp [HpacFinishes, Sortable]
  | some hpacData =>
    have hperm := hpacCandidates_perm cfg lib.hpacIteration hpacData.pairs
    rw [HpacFinishes, ← Sortable.perm hperm]
    apply finishes_bind_iff
    · constructor
      · rintro ⟨sorted, hsorted⟩
        exact (sortBySubtype_eq_ok.1 hsorted).1
      · intro h
        exact ⟨_, sortBySubtype_eq _ h⟩
    · intro sorted hsorted
      obtain ⟨-, rfl⟩ := sortBySubtype_eq_ok.1 hsorted
      rw [finishes_hpacMessages]
      apply forall_congr'
      intro c
      rw [((lib.hpacSorting.perm _).trans hperm).mem_iff]

end Hpac

/-! ### A round -/

/-- The round of the issue of data finishes with these corrections. -/
@[mk_iff] structure RoundFinishes (cfg : Config) (sets : Table ℕ CorrectionPointSet)
    (data : CorrectionData) (iod : ℕ) : Prop where
  gad : cfg.mGenerateGad = true → ∀ hpacData ∈ data.hpac iod,
    (∃ kvp ∈ hpacData.pairs, kvp.2.gnssId = .gps) → ∀ kvp ∈ hpacData.pairs,
      ∀ set ∈ sets.lookup kvp.1.setId, Announceable set.toCorrectionPointGrid
  hpac : cfg.mGenerateHpac = true → HpacFinishes sets data (data.hpacCandidates cfg iod)
  ocb : cfg.mGenerateOcb = true → OcbFinishes (data.ocbCandidates cfg iod)

theorem finishes_ite {ε α : Type} {p : Prop} [Decidable p] {x : Except ε α} {a : α} {q : Prop}
    (hx : Finishes x ↔ q) : Finishes (if p then x else .ok a) ↔ (p → q) := by
  by_cases hp : p
  · rw [if_pos hp, hx, forall_prop_of_true hp]
  · rw [if_neg hp]
    exact iff_of_true (finishes_ok a) fun h => absurd h hp

theorem finishes_generateIod {cfg : Config} {sets : Table ℕ CorrectionPointSet} {lib : Library}
    {generation : Generation} {iod : ℕ} :
    Finishes (generateIod .checked sets cfg lib generation iod) ↔
      RoundFinishes cfg sets generation.mCorrectionData iod := by
  rw [roundFinishes_iff]
  refine finishes_bind_iff ?_ fun gads _ => ?_
  · cases generation.mCorrectionData.hpac iod with
    | none => simp
    | some hpacData =>
      refine (finishes_ite finishes_generateGads).trans ?_
      simp only [Option.mem_def, Option.some.injEq, forall_eq',
        (lib.hpacIteration.perm hpacData.pairs).mem_iff]
  refine finishes_bind_iff (finishes_ite (finishes_generateHpac generation.mCorrectionData))
    fun hpacs hhpacs => ?_
  refine finishes_bind_of_total (finishes_ite ?_) fun ocbs _ => finishes_pure _
  rw [finishes_generateOcb]
  -- the HPAC messages leave the OCB corrections alone
  by_cases hgenerate : cfg.mGenerateHpac = true
  · rw [if_pos hgenerate] at hhpacs
    obtain ⟨data, out⟩ := hpacs
    rw [(generateHpac_data hhpacs).1]
    rfl
  · rw [if_neg hgenerate] at hhpacs
    cases hhpacs
    rfl

/-- The loop finishes when each round does with the corrections of the message: what a round
flags does not matter for the others. -/
theorem finishes_rounds {cfg : Config} {sets : Table ℕ CorrectionPointSet} {lib : Library}
    {iods : List ℕ} {siouIndex : ℕ} {start : CorrectionData} :
    Finishes (iods.foldlM (generateIod .checked sets cfg lib) ⟨siouIndex, start, []⟩) ↔
      ∀ iod ∈ iods, RoundFinishes cfg sets start iod := by
  apply finishes_foldlM (p := fun generation : Generation => ∃ flagged,
    generation.mCorrectionData = { start with stecDnuSatellites := flagged })
  · exact ⟨_, rfl⟩
  · rintro iod - generation ⟨flagged, hdata⟩
    rw [finishes_generateIod, hdata, roundFinishes_iff, roundFinishes_iff]
    rfl
  · rintro iod - generation generation' hround ⟨flagged, hdata⟩
    refine ⟨generation'.mCorrectionData.stecDnuSatellites, ?_⟩
    rw [(generateIod_data hround).1, hdata]

/-! ### The elements of a message -/

/-- The elements of a message that share an issue of data with another key. -/
def Shared {E κ : Type} (cfg : Config) (iod : GnssId × E → ℕ) (key : GnssId × E → κ)
    (entries : List (GnssId × E)) (entry : GnssId × E) : Prop :=
  ∃ other ∈ entries, cfg.supported other.1 = true ∧ iod other = iod entry ∧
    key other ≠ key entry

/-- The generator finishes on the message: each element passes the checks of the messages that
it is generated in. -/
@[mk_iff] structure GeneratesCleanly (cfg : Config) (generator : Generator)
    (assistData : SsrAssistData) : Prop where
  signals : SignalsNamed assistData
  grid : ∀ entry ∈ generator.newCorrectionPoints assistData,
    (correctionPointGrid cfg entry.2).gridPointCount ≤ 64
  gad : cfg.mGenerateGad = true → ∀ entry ∈ hpacElements assistData,
    (∃ other ∈ hpacElements assistData, hpacIod other = hpacIod entry ∧ other.1 = .gps) →
      ∀ grid ∈ generator.knownGrid cfg assistData (hpacSetId entry), Announceable grid
  hpac : cfg.mGenerateHpac = true → ∀ entry ∈ hpacElements assistData,
    cfg.supported entry.1 = true →
      (Shared cfg hpacIod hpacKeyOf (hpacElements assistData) entry → HasSubtype entry.1) ∧
      ∀ grid ∈ generator.knownGrid cfg assistData (hpacSetId entry),
        HasSubtype entry.1 ∧ grid.gridPointCount % 2 ^ 8 ≤ 127 ∧
          (entry.2.isStec = true → ionosphereSuppressed cfg assistData = false →
            HasMask entry.1)
  ocb : cfg.mGenerateOcb = true → ∀ entry ∈ ocbElements assistData,
    cfg.supported entry.1 = true →
      (Shared cfg ocbIod ocbKeyOf (ocbElements assistData) entry → HasSubtype entry.1) ∧
      (spartnTimeForGnss (spartnTimeFrom entry.2.epochTime) entry.1 ≠ 0 → HasMask entry.1)

section Elements

variable {cfg : Config} {assistData : SsrAssistData}

theorem sortable_ocbCandidates {data : CorrectionData} {iod : ℕ} :
    Sortable (·.gnssId) (data.ocbCandidates cfg iod) ↔
      ∀ key c, Table.find data.ocbData iod key = some c → cfg.supported key.gnssId = true →
        (∃ key', key' ≠ key ∧ (Table.find data.ocbData iod key').isSome ∧
          cfg.supported key'.gnssId = true) → HasSubtype c.gnssId := by
  unfold CorrectionData.ocbCandidates CorrectionData.ocb Table.find Sortable
  cases data.ocbData.lookup iod with
  | none => simp
  | some t => exact Table.forall_of_two_iff (t := t) (p := fun key => cfg.supported key.gnssId)

theorem sortable_hpacCandidates {data : CorrectionData} {iod : ℕ} :
    Sortable (·.gnssId) (data.hpacCandidates cfg iod) ↔
      ∀ key c, Table.find data.hpacData iod key = some c → cfg.supported key.gnssId = true →
        (∃ key', key' ≠ key ∧ (Table.find data.hpacData iod key').isSome ∧
          cfg.supported key'.gnssId = true) → HasSubtype c.gnssId := by
  unfold CorrectionData.hpacCandidates CorrectionData.hpac Table.find Sortable
  cases data.hpacData.lookup iod with
  | none => simp
  | some t => exact Table.forall_of_two_iff (t := t) (p := fun key => cfg.supported key.gnssId)

/-- The corrections that an element is collected in. -/
theorem exists_ocb {entry : GnssId × OcbElement} (h : entry ∈ ocbElements assistData) :
    ∃ c, Table.find (collectedOcb assistData) (ocbIod entry) (ocbKeyOf entry) = some c ∧
      c.gnssId = entry.1 ∧
      c.timeTag = spartnTimeForGnss (spartnTimeFrom entry.2.epochTime) entry.1 := by
  obtain ⟨c, hc⟩ := Option.isSome_iff_exists.1 (isSome_find_ocb.2 ⟨entry, h, rfl, rfl⟩)
  have hkey := ocb_of_find hc
  have hgnss : c.gnssId = entry.1 := congrArg OcbKey.gnssId hkey
  refine ⟨c, hc, hgnss, ?_⟩
  unfold OcbCorrections.timeTag
  rw [hgnss]
  exact spartnTimeForGnss_congr (congrArg OcbKey.epochTime hkey) _

theorem exists_hpac {entry : GnssId × HpacElement} (h : entry ∈ hpacElements assistData) :
    ∃ c, Table.find (collectedHpac assistData) (hpacIod entry) (hpacKeyOf entry) = some c ∧
      c.gnssId = entry.1 ∧ c.setId = hpacSetId entry := by
  obtain ⟨c, hc⟩ := Option.isSome_iff_exists.1 (isSome_find_hpac.2 ⟨entry, h, rfl, rfl⟩)
  have hkey := hpac_of_find hc
  exact ⟨c, hc, congrArg HpacKey.gnssId hkey, congrArg HpacKey.setId hkey⟩

theorem forall_ocbFinishes {data : CorrectionData}
    (hdata : data.ocbData = collectedOcb assistData) :
    (∀ iod, OcbFinishes (data.ocbCandidates cfg iod)) ↔
      ∀ entry ∈ ocbElements assistData, cfg.supported entry.1 = true →
        (Shared cfg ocbIod ocbKeyOf (ocbElements assistData) entry → HasSubtype entry.1) ∧
        (spartnTimeForGnss (spartnTimeFrom entry.2.epochTime) entry.1 ≠ 0 →
          HasMask entry.1) := by
  unfold OcbFinishes
  simp only [sortable_ocbCandidates, mem_ocbCandidates, hdata]
  constructor
  · intro h entry hentry hsupported
    obtain ⟨c, hc, hgnss, htag⟩ := exists_ocb hentry
    obtain ⟨hsortable, hmask⟩ := h (ocbIod entry)
    rw [← htag, ← hgnss]
    constructor
    · rintro ⟨other, hother, hother', hiod, hkey⟩
      refine hsortable _ c hc hsupported ⟨ocbKeyOf other, hkey, ?_, hother'⟩
      exact isSome_find_ocb.2 ⟨other, hother, hiod.symm, rfl⟩
    · exact hmask c ⟨_, hc, hsupported⟩
  · intro h iod
    constructor
    · rintro key c hc hsupported ⟨key', hne, hsome, hsupported'⟩
      obtain ⟨entry, hentry, rfl, rfl⟩ := isSome_find_ocb.1 (Option.isSome_of_mem hc)
      obtain ⟨other, hother, hiod, rfl⟩ := isSome_find_ocb.1 hsome
      have hgnss : c.gnssId = entry.1 := congrArg OcbKey.gnssId (ocb_of_find hc)
      rw [hgnss]
      exact (h entry hentry hsupported).1 ⟨other, hother, hsupported', hiod.symm, hne⟩
    · rintro c ⟨key, hc, hsupported⟩ hne
      obtain ⟨entry, hentry, rfl, rfl⟩ := isSome_find_ocb.1 (Option.isSome_of_mem hc)
      obtain ⟨c', hc', hgnss, htag⟩ := exists_ocb hentry
      obtain rfl : c = c' := Option.some.inj (hc.symm.trans hc')
      rw [hgnss]
      rw [htag] at hne
      exact (h entry hentry hsupported).2 hne

/-- The ionosphere block is left out without a STEC correction, and when the alert says so. -/
theorem ionosphereBlockType_ne_zero {data : CorrectionData} {c : HpacCorrections}
    (h : data.ionosphereDnu = 1 ↔ ionosphereSuppressed cfg assistData = true) :
    ionosphereBlockType data c ≠ 0 ↔
      ionosphereSuppressed cfg assistData = false ∧ c.stec.isSome := by
  unfold ionosphereBlockType computeIonosphereBlockType
  rw [← Bool.not_eq_true, ← h]
  by_cases hdnu : data.ionosphereDnu = 1
  · simp [hdnu]
  · cases c.stec <;> cases c.gridded <;> simp [hdnu]

theorem forall_hpacFinishes {data : CorrectionData} {sets : Table ℕ CorrectionPointSet}
    {generator : Generator} (hdata : data.hpacData = collectedHpac assistData)
    (hdnu : data.ionosphereDnu = 1 ↔ ionosphereSuppressed cfg assistData = true)
    (hsets : ∀ setId, (sets.lookup setId).map (·.toCorrectionPointGrid) =
      generator.knownGrid cfg assistData setId) :
    (∀ iod, HpacFinishes sets data (data.hpacCandidates cfg iod)) ↔
      ∀ entry ∈ hpacElements assistData, cfg.supported entry.1 = true →
        (Shared cfg hpacIod hpacKeyOf (hpacElements assistData) entry → HasSubtype entry.1) ∧
        ∀ grid ∈ generator.knownGrid cfg assistData (hpacSetId entry),
          HasSubtype entry.1 ∧ grid.gridPointCount % 2 ^ 8 ≤ 127 ∧
            (entry.2.isStec = true → ionosphereSuppressed cfg assistData = false →
              HasMask entry.1) := by
  unfold HpacFinishes HpacMessageFinishes
  simp only [sortable_hpacCandidates, mem_hpacCandidates, hdata, ← hsets, checked_assertions,
    ionosphereBlockType_ne_zero hdnu, forall_true_left, Option.mem_def, Option.map_eq_some_iff]
  constructor
  · intro h entry hentry hsupported
    obtain ⟨c, hc, hgnss, hset⟩ := exists_hpac hentry
    obtain ⟨hsortable, hmessage⟩ := h (hpacIod entry)
    rw [← hgnss, ← hset]
    constructor
    · rintro ⟨other, hother, hother', hiod, hkey⟩
      refine hsortable _ c hc hsupported ⟨hpacKeyOf other, hkey, ?_, hother'⟩
      exact isSome_find_hpac.2 ⟨other, hother, hiod.symm, rfl⟩
    · rintro grid ⟨set, hlookup, rfl⟩
      obtain ⟨hsubtype, hcount, hmask⟩ := hmessage c ⟨_, hc, hsupported⟩ set hlookup
      refine ⟨hsubtype, hcount, fun hstec halert => hmask ⟨halert, ?_⟩⟩
      exact (isSome_stec hc).2 ⟨entry, hentry, rfl, rfl, hstec⟩
  · intro h iod
    constructor
    · rintro key c hc hsupported ⟨key', hne, hsome, hsupported'⟩
      obtain ⟨entry, hentry, rfl, rfl⟩ := isSome_find_hpac.1 (Option.isSome_of_mem hc)
      obtain ⟨other, hother, hiod, rfl⟩ := isSome_find_hpac.1 hsome
      have hgnss : c.gnssId = entry.1 := congrArg HpacKey.gnssId (hpac_of_find hc)
      rw [hgnss]
      exact (h entry hentry hsupported).1 ⟨other, hother, hsupported', hiod.symm, hne⟩
    · rintro c ⟨key, hc, hsupported⟩ set hlookup
      obtain ⟨entry, hentry, rfl, rfl⟩ := isSome_find_hpac.1 (Option.isSome_of_mem hc)
      have hkey := hpac_of_find hc
      have hgnss : c.gnssId = entry.1 := congrArg HpacKey.gnssId hkey
      have hset : c.setId = hpacSetId entry := congrArg HpacKey.setId hkey
      rw [hset] at hlookup
      obtain ⟨hsubtype, hcount, -⟩ := (h entry hentry hsupported).2 _ ⟨set, hlookup, rfl⟩
      rw [hgnss]
      refine ⟨hsubtype, hcount, ?_⟩
      rintro ⟨halert, hstec⟩
      -- the element that brought the STEC correction, with the same key
      obtain ⟨other, hother, hiod, hkey', hstec'⟩ := (isSome_stec hc).1 hstec
      have hgnss' : entry.1 = other.1 := congrArg HpacKey.gnssId hkey'
      have hset' : hpacSetId entry = hpacSetId other := congrArg HpacKey.setId hkey'
      rw [hkey'] at hsupported
      rw [hset'] at hlookup
      rw [hgnss']
      exact ((h other hother hsupported).2 _ ⟨set, hlookup, rfl⟩).2.2 hstec' halert

theorem forall_gadFinishes {data : CorrectionData} {sets : Table ℕ CorrectionPointSet}
    {generator : Generator} (hdata : data.hpacData = collectedHpac assistData)
    (hsets : ∀ setId, (sets.lookup setId).map (·.toCorrectionPointGrid) =
      generator.knownGrid cfg assistData setId) :
    (∀ iod, ∀ hpacData ∈ data.hpac iod, (∃ kvp ∈ hpacData.pairs, kvp.2.gnssId = .gps) →
        ∀ kvp ∈ hpacData.pairs, ∀ set ∈ sets.lookup kvp.1.setId,
          Announceable set.toCorrectionPointGrid) ↔
      ∀ entry ∈ hpacElements assistData,
        (∃ other ∈ hpacElements assistData, hpacIod other = hpacIod entry ∧ other.1 = .gps) →
          ∀ grid ∈ generator.knownGrid cfg assistData (hpacSetId entry), Announceable grid := by
  have hfind : ∀ {iod hpacData key c}, data.hpac iod = some hpacData →
      ((key, c) ∈ hpacData.pairs ↔ Table.find (collectedHpac assistData) iod key = some c) := by
    intro iod hpacData key c hlookup
    rw [CorrectionData.hpac, hdata] at hlookup
    rw [Table.mem_pairs, Table.find, hlookup, Option.bind_some]
  simp only [← hsets, Option.mem_def, Option.map_eq_some_iff]
  constructor
  · rintro h entry hentry ⟨other, hother, hiod, hgps⟩ grid ⟨set, hlookup, rfl⟩
    obtain ⟨c, hc, -, hset⟩ := exists_hpac hentry
    obtain ⟨c', hc', hgnss', -⟩ := exists_hpac hother
    obtain ⟨hpacData, hhpac, -⟩ := Option.bind_eq_some_iff.1 hc
    have hhpac' : data.hpac (hpacIod entry) = some hpacData := by
      rw [CorrectionData.hpac, hdata, hhpac]
    rw [hiod] at hc'
    exact h (hpacIod entry) hpacData hhpac'
      ⟨(_, c'), (hfind hhpac').2 hc', hgnss'.trans hgps⟩ (_, c) ((hfind hhpac').2 hc) set hlookup
  · rintro h iod hpacData hhpac ⟨⟨key', c'⟩, hmem', hgps⟩ ⟨key, c⟩ hmem set hlookup
    have hc := (hfind hhpac).1 hmem
    have hc' := (hfind hhpac).1 hmem'
    obtain ⟨entry, hentry, rfl, rfl⟩ := isSome_find_hpac.1 (Option.isSome_of_mem hc)
    obtain ⟨other, hother, hiod, rfl⟩ := isSome_find_hpac.1 (Option.isSome_of_mem hc')
    have hgnss' : c'.gnssId = other.1 := congrArg HpacKey.gnssId (hpac_of_find hc')
    exact h entry hentry ⟨other, hother, hiod.symm, hgnss'.symm.trans hgps⟩ _ ⟨set, hlookup, rfl⟩

end Elements

/-! ### A whole message -/

section Message

variable {cfg : Config} {lib : Library} {generator : Generator} {assistData : SsrAssistData}

/-- A round for an issue of data that is not there does nothing. -/
theorem roundFinishes_of_not_mem {sets : Table ℕ CorrectionPointSet} {data : CorrectionData}
    {iod : ℕ} (h : iod ∉ data.iods) : RoundFinishes cfg sets data iod := by
  unfold CorrectionData.iods at h
  rw [List.mem_insertionSort, List.mem_dedup, List.mem_append, not_or] at h
  have hocb : data.ocb iod = none := AList.lookup_eq_none.2 h.1
  have hhpac : data.hpac iod = none := AList.lookup_eq_none.2 h.2
  constructor
  · intro _ hpacData hsome
    rw [hhpac] at hsome
    cases hsome
  · intro _
    simp [HpacFinishes, Sortable, CorrectionData.hpacCandidates, hhpac]
  · intro _
    simp [OcbFinishes, Sortable, CorrectionData.ocbCandidates, hocb]

/-- The rounds of a call, in terms of the elements of its message. -/
theorem forall_roundFinishes {known : Generator} {start : CorrectionData}
    (hknown : generator.findCorrectionPointSet .checked cfg assistData = .ok known)
    (hstart : correctionData cfg assistData = .ok start) :
    (∀ iod ∈ start.iods, RoundFinishes cfg known.mCorrectionPointSets start iod) ↔
      (cfg.mGenerateGad = true → ∀ entry ∈ hpacElements assistData,
        (∃ other ∈ hpacElements assistData, hpacIod other = hpacIod entry ∧ other.1 = .gps) →
          ∀ grid ∈ generator.knownGrid cfg assistData (hpacSetId entry), Announceable grid) ∧
      (cfg.mGenerateHpac = true → ∀ entry ∈ hpacElements assistData,
        cfg.supported entry.1 = true →
          (Shared cfg hpacIod hpacKeyOf (hpacElements assistData) entry → HasSubtype entry.1) ∧
          ∀ grid ∈ generator.knownGrid cfg assistData (hpacSetId entry),
            HasSubtype entry.1 ∧ grid.gridPointCount % 2 ^ 8 ≤ 127 ∧
              (entry.2.isStec = true → ionosphereSuppressed cfg assistData = false →
                HasMask entry.1)) ∧
      (cfg.mGenerateOcb = true → ∀ entry ∈ ocbElements assistData,
        cfg.supported entry.1 = true →
          (Shared cfg ocbIod ocbKeyOf (ocbElements assistData) entry → HasSubtype entry.1) ∧
          (spartnTimeForGnss (spartnTimeFrom entry.2.epochTime) entry.1 ≠ 0 →
            HasMask entry.1)) := by
  obtain ⟨hocb, hhpac, hdnu⟩ := correctionData_eq hstart
  have hsets := lookup_known hknown
  have hall : (∀ iod ∈ start.iods, RoundFinishes cfg known.mCorrectionPointSets start iod) ↔
      ∀ iod, RoundFinishes cfg known.mCorrectionPointSets start iod := by
    refine forall_congr' fun iod => ⟨fun h => ?_, fun h _ => h⟩
    by_cases hmem : iod ∈ start.iods
    · exact h hmem
    · exact roundFinishes_of_not_mem hmem
  rw [hall, ← forall_gadFinishes hhpac hsets, ← forall_hpacFinishes hhpac hdnu hsets,
    ← forall_ocbFinishes hocb]
  constructor
  · intro h
    exact ⟨fun hgad iod => (h iod).gad hgad, fun hhpac iod => (h iod).hpac hhpac,
      fun hocb iod => (h iod).ocb hocb⟩
  · rintro ⟨hgad, hhpac, hocb⟩ iod
    exact ⟨fun h => hgad h iod, fun h => hhpac h iod, fun h => hocb h iod⟩

theorem finishes_generateFrom :
    Finishes (generator.generateFrom .checked cfg lib assistData) ↔
      GeneratesCleanly cfg generator assistData := by
  rw [generatesCleanly_iff, and_left_comm]
  refine finishes_bind_iff (finishes_findCorrectionPointSet cfg generator assistData)
    fun known hknown => ?_
  refine finishes_bind_iff (finishes_correctionData cfg assistData) fun start hstart => ?_
  refine finishes_bind_of_total ?_ fun _ _ => finishes_pure _
  rw [finishes_rounds]
  exact forall_roundFinishes hknown hstart

/-- `generate` finishes, with every check compiled in, exactly on these messages. -/
theorem generate_finishes_iff (cfg : Config) (lib : Library) (generator : Generator)
    (lppMessage : Option SsrLppMessage) :
    Finishes (generator.generate .checked cfg lib lppMessage) ↔
      ∀ assistData, lppMessage.bind (·.lppMessageBody) =
        some (.provideAssistanceDataR9 (some assistData)) →
          GeneratesCleanly cfg generator assistData := by
  unfold Generator.generate
  cases lppMessage.bind (·.lppMessageBody) with
  | none => simp
  | some body =>
    cases body with
    | other => simp
    | provideAssistanceDataR9 assistData =>
      cases assistData with
      | none => simp
      | some assistData => simp [finishes_generateFrom]

/-! ### A message that the generator stops on -/

/-- The integrity element of `GNSS-BadSignalList` may leave out which signals are bad. -/
def unnamedAssistData : SsrAssistData :=
  ⟨none, some ⟨[⟨.gps, some ⟨⟨[⟨⟨4, Integer.mem⟩, none⟩], by decide⟩⟩, none, none, none, none, none,
    none, none⟩], by decide⟩⟩

/-- The default generator dereferences the signals that are not there. -/
theorem not_finishes_unnamed :
    ¬Finishes (Generator.new.generate .checked .new .plain
      (some ⟨some (.provideAssistanceDataR9 (some unnamedAssistData))⟩)) := by
  rintro ⟨answer, h⟩
  obtain ⟨known, -, h⟩ := bind_eq_ok.1 h
  obtain ⟨start, hstart, -⟩ := bind_eq_ok.1 h
  cases hstart

end Message

end SuplLpp.Spartn
