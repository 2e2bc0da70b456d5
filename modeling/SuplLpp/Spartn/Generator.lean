import SuplLpp.Spartn.Hpac
import SuplLpp.Spartn.Ocb

/-!
# The SPARTN generator

* `findCorrectionPointSet`, the sets that the generator keeps, each with an area of its own;
* `correctionData`, the corrections of a message;
* `generateGad`, the message that announces an area;
* `Generator.generate`, all messages of one LPP message: for each issue of data first the
  areas, then the atmospheric corrections, then the others.
-/

namespace SuplLpp.Spartn

open Asn Bits Fallible MessageBuilder

/-- The members of `Generator` that outlive a call. -/
structure Generator where
  mNextAreaId : ℕ
  mCorrectionPointSets : Table ℕ CorrectionPointSet
  mSiouIndex : ℕ

def Generator.new : Generator := ⟨1, ∅, 1⟩

/-! ### The elements of a message -/

def SsrAssistData.correctionPoints (assistData : SsrAssistData) : Option GnssSsrCorrectionPoints :=
  assistData.gnssCommonAssistData.bind (·.gnssSsrCorrectionPoints)

def SsrAssistData.serviceAlert (assistData : SsrAssistData) : Option GnssIntegrityServiceAlert :=
  assistData.gnssCommonAssistData.bind (·.gnssIntegrityServiceAlert)

def SsrAssistData.elements (assistData : SsrAssistData) : List SsrGenericAssistDataElement :=
  (assistData.gnssGenericAssistData.map (·.1)).getD []

/-- The correction point set of a message that the generator does not have yet. -/
def Generator.newCorrectionPoints (generator : Generator) (assistData : SsrAssistData) :
    Option (ℕ × GnssSsrArrayOfCorrectionPoints) :=
  match SsrAssistData.correctionPoints assistData with
  | some ⟨setId, .arrayOfCorrectionPoints array⟩ =>
    if (generator.mCorrectionPointSets.lookup setId.1.toNat).isSome then none
    else some (setId.1.toNat, array)
  | some ⟨_, .listOfCorrectionPoints⟩ | none => none

/-- `find_correction_point_set`: a set that is known is not changed, a new one gets
`next_area_id`. -/
def Generator.findCorrectionPointSet (build : Build) (cfg : Config) (generator : Generator)
    (assistData : SsrAssistData) : Result Generator :=
  match generator.newCorrectionPoints assistData with
  | none => .ok generator
  | some (setId, array) => do
    let set ← newCorrectionPointSet build cfg setId generator.mNextAreaId array
    return { generator with
      mNextAreaId := (generator.mNextAreaId + 1) % 256
      mCorrectionPointSets := generator.mCorrectionPointSets.insert setId set }

/-- Add an element that may be missing. -/
def addOptional {α : Type} (add : CorrectionData → GnssId → α → CorrectionData)
    (gnssId : GnssId) (element : Option α) (data : CorrectionData) : CorrectionData :=
  match element with
  | some element => add data gnssId element
  | none => data

/-- One round of `find_ocb_corrections`. -/
def findOcbCorrections (data : CorrectionData) (element : SsrGenericAssistDataElement) :
    CorrectionData :=
  let data := addOptional .addOrbit element.gnssId element.gnssSsrOrbitCorrections data
  let data := addOptional .addClock element.gnssId element.gnssSsrClockCorrections data
  let data := addOptional .addCodeBias element.gnssId element.gnssSsrCodeBias data
  let data := addOptional .addPhaseBias element.gnssId element.gnssSsrPhaseBias data
  addOptional .addUra element.gnssId element.gnssSsrUra data

/-- One round of `find_hpac_corrections`. -/
def findHpacCorrections (data : CorrectionData) (element : SsrGenericAssistDataElement) :
    CorrectionData :=
  let data := addOptional .addStec element.gnssId element.gnssSsrStecCorrection data
  addOptional .addGridded element.gnssId element.gnssSsrGriddedCorrection data

/-- One round of `find_rti_corrections`. -/
def findRtiCorrections (data : CorrectionData) (element : SsrGenericAssistDataElement) :
    Result CorrectionData :=
  match element.gnssRealTimeIntegrity with
  | some rti => data.addRealTimeIntegrity element.gnssId rti
  | none => .ok data

def applyServiceAlert (cfg : Config) (alert : Option GnssIntegrityServiceAlert)
    (data : CorrectionData) : CorrectionData :=
  match alert with
  | some alert =>
    if cfg.mDoNotUseAtmosphere then
      { data with
        troposphereDnu := if alert.troposphereDoNotUse then 1 else 0
        ionosphereDnu := if alert.ionosphereDoNotUse then 1 else 0 }
    else data
  | none => data

/-- The corrections of a message. -/
def correctionData (cfg : Config) (assistData : SsrAssistData) : Result CorrectionData := do
  let elements := SsrAssistData.elements assistData
  let data := elements.foldl findOcbCorrections CorrectionData.new
  let data := elements.foldl findHpacCorrections data
  let data ← elements.foldlM findRtiCorrections data
  return applyServiceAlert cfg (SsrAssistData.serviceAlert assistData) data

/-! ### GAD messages -/

/-- `HpacData::set_ids`: each set once. -/
def setIds (hpacData : List (HpacKey × HpacCorrections)) : List ℕ :=
  hpacData.foldl
    (fun ids kvp => if kvp.1.setId ∈ ids then ids else ids ++ [kvp.1.setId]) []

/-- One round of the loop of `find_gad_epoch_time`. -/
def laterGadEpoch (time : Option SpartnTime) (kvp : HpacKey × HpacCorrections) :
    Option SpartnTime :=
  if kvp.2.gnssId ≠ .gps then time
  else
    match time with
    | none => some kvp.2.epochTime
    | some time =>
      if kvp.2.epochTime.seconds > time.seconds then some kvp.2.epochTime else some time

/-- `find_gad_epoch_time`: the latest epoch of the GPS corrections. -/
def findGadEpochTime (hpacData : List (HpacKey × HpacCorrections)) : Option SpartnTime :=
  hpacData.foldl laterGadEpoch none

theorem mem_setIds {hpacData : List (HpacKey × HpacCorrections)} {setId : ℕ} :
    setId ∈ setIds hpacData ↔ ∃ kvp ∈ hpacData, kvp.1.setId = setId := by
  have hloop : ∀ (l : List (HpacKey × HpacCorrections)) (ids : List ℕ),
      setId ∈ l.foldl
          (fun ids kvp => if kvp.1.setId ∈ ids then ids else ids ++ [kvp.1.setId]) ids ↔
        setId ∈ ids ∨ ∃ kvp ∈ l, kvp.1.setId = setId := by
    intro l
    induction l with
    | nil => simp
    | cons kvp l ih =>
      intro ids
      rw [List.foldl_cons, ih, List.exists_mem_cons_iff, ← or_assoc]
      apply or_congr_left
      by_cases hmem : kvp.1.setId ∈ ids
      · rw [if_pos hmem]
        exact (or_iff_left_of_imp fun heq => heq ▸ hmem).symm
      · rw [if_neg hmem, List.mem_append, List.mem_singleton, eq_comm (a := setId)]
  rw [setIds, hloop]
  simp

theorem laterGadEpoch_cases (time : Option SpartnTime) (kvp : HpacKey × HpacCorrections) :
    laterGadEpoch time kvp = time ∨
      kvp.2.gnssId = .gps ∧ laterGadEpoch time kvp = some kvp.2.epochTime := by
  unfold laterGadEpoch
  by_cases hgps : kvp.2.gnssId = .gps
  · rw [if_neg (not_not.2 hgps)]
    cases time with
    | none => exact Or.inr ⟨hgps, rfl⟩
    | some time =>
      by_cases hlater : kvp.2.epochTime.seconds > time.seconds
      · simp [hlater, hgps]
      · simp [hlater]
  · exact Or.inl (if_pos hgps)

theorem isSome_laterGadEpoch (time : Option SpartnTime) (kvp : HpacKey × HpacCorrections) :
    (laterGadEpoch time kvp).isSome ↔ time.isSome ∨ kvp.2.gnssId = .gps := by
  unfold laterGadEpoch
  by_cases hgps : kvp.2.gnssId = .gps
  · rw [if_neg (not_not.2 hgps)]
    cases time with
    | none => simp [hgps]
    | some time => dsimp only; split <;> simp
  · rw [if_pos hgps, or_iff_left hgps]

/-- The epoch is that of a GPS correction. -/
theorem mem_of_findGadEpochTime {hpacData : List (HpacKey × HpacCorrections)}
    {epochTime : SpartnTime} (h : findGadEpochTime hpacData = some epochTime) :
    ∃ kvp ∈ hpacData, kvp.2.gnssId = .gps ∧ kvp.2.epochTime = epochTime := by
  rw [findGadEpochTime] at h
  refine List.foldlRecOn (motive := fun time => ∀ epochTime, time = some epochTime →
    ∃ kvp ∈ hpacData, kvp.2.gnssId = .gps ∧ kvp.2.epochTime = epochTime) hpacData laterGadEpoch
      (fun _ hnone => by cases hnone) ?_ epochTime h
  intro time ih kvp hmem epochTime heq
  obtain hkeep | ⟨hgps, hnew⟩ := laterGadEpoch_cases time kvp
  · exact ih epochTime (hkeep.symm.trans heq)
  · exact ⟨kvp, hmem, hgps, Option.some.inj (hnew.symm.trans heq)⟩

/-- There is an epoch exactly when there is a GPS correction. -/
theorem isSome_findGadEpochTime (hpacData : List (HpacKey × HpacCorrections)) :
    (findGadEpochTime hpacData).isSome ↔ ∃ kvp ∈ hpacData, kvp.2.gnssId = .gps := by
  have hloop : ∀ (l : List (HpacKey × HpacCorrections)) (time : Option SpartnTime),
      (l.foldl laterGadEpoch time).isSome ↔
        time.isSome ∨ ∃ kvp ∈ l, kvp.2.gnssId = .gps := by
    intro l
    induction l with
    | nil => simp
    | cons kvp l ih =>
      intro time
      rw [List.foldl_cons, ih, isSome_laterGadEpoch, List.exists_mem_cons_iff, or_assoc]
  rw [findGadEpochTime, hloop]
  simp

section

variable (build : Build) (sets : Table ℕ CorrectionPointSet)

/-- The bits of a GAD message.  The grid points are looked up before that, for the log. -/
def gadPayload (siou : ℕ) (set : CorrectionPointSet) : Result (List Bool) := do
  let _ ← (List.range (min set.gridPointCount 255)).mapM (set.hasGridPoint build)
  let areaCount ← sf030 build 1
  let gridCountLat ← sf034 build ((set.numberOfStepsLatitude + 1) % 2 ^ 8)
  let gridCountLng ← sf035 build ((set.numberOfStepsLongitude + 1) % 2 ^ 8)
  return sf005 siou ++ sf068 0 ++ sf069 ++ areaCount ++ sf031 (set.areaId % 2 ^ 8) ++
    sf032 set.referencePointLatitude ++ sf033 set.referencePointLongitude ++ gridCountLat ++
    gridCountLng ++ sf036 set.latitudeDelta ++ sf037 set.longitudeDelta

/-- `generate_gad`; a set that is not known is not announced. -/
def generateGad (siou epochTime setId : ℕ) : Result (List Message) :=
  match sets.lookup setId with
  | none => .ok []
  | some set => do
    let payload ← gadPayload build siou set
    return [MessageBuilder.build 2 0 epochTime payload]

/-- The GAD messages of an issue of data: none without a GPS epoch. -/
def generateGads (siou : ℕ) (hpacData : List (HpacKey × HpacCorrections)) :
    Result (List Message) :=
  match findGadEpochTime hpacData with
  | none => .ok []
  | some epochTime => do
    let messages ← (setIds hpacData).mapM (generateGad build sets siou epochTime.roundedSeconds)
    return messages.flatten

/-! ### All messages -/

variable (cfg : Config) (lib : Library)

/-- What the loop over the issues of data changes. -/
structure Generation where
  mSiouIndex : ℕ
  mCorrectionData : CorrectionData
  mMessages : List Message

/-- One round of the loop over the issues of data. -/
def generateIod (generation : Generation) (iod : ℕ) : Result Generation := do
  let data := generation.mCorrectionData
  let siouIndex :=
    if cfg.mIncreasingSiou && ((data.hpac iod).isSome && cfg.mGenerateHpac) then
      (generation.mSiouIndex + 1) % 512
    else generation.mSiouIndex
  let siou := if cfg.mIncreasingSiou then siouIndex else iod
  let gads ←
    (match data.hpac iod with
    | some hpacData =>
      if cfg.mGenerateGad then
        generateGads build sets siou (lib.hpacIteration.order hpacData.pairs)
      else .ok []
    | none => .ok [])
  let hpacs ←
    (if cfg.mGenerateHpac then generateHpac build cfg sets lib siou iod data else .ok (data, []))
  let ocbs ← (if cfg.mGenerateOcb then generateOcb cfg hpacs.1 lib siou iod else .ok [])
  return ⟨siouIndex, hpacs.1, generation.mMessages ++ gads ++ hpacs.2 ++ ocbs⟩

/-- The part of `generate` that is run for a `ProvideAssistanceData`. -/
def Generator.generateFrom (generator : Generator) (assistData : SsrAssistData) :
    Result (Generator × List Message) := do
  let generator ← generator.findCorrectionPointSet build cfg assistData
  let data ← correctionData cfg assistData
  let generation ← data.iods.foldlM
    (generateIod build generator.mCorrectionPointSets cfg lib) ⟨generator.mSiouIndex, data, []⟩
  return ({ generator with mSiouIndex := generation.mSiouIndex }, generation.mMessages)

/-- `Generator::generate`. -/
def Generator.generate (generator : Generator) (lppMessage : Option SsrLppMessage) :
    Result (Generator × List Message) :=
  match lppMessage.bind (·.lppMessageBody) with
  | some (.provideAssistanceDataR9 (some assistData)) =>
    generator.generateFrom build cfg lib assistData
  | some (.provideAssistanceDataR9 none) | some .other | none => .ok (generator, [])

end

end SuplLpp.Spartn
