import SuplLpp.Lib.Mealy
import SuplLpp.Rtcm.StationMessages

/-!
# Reference stations and their physical stations

The generator keeps the last reference station and the last physical reference station that it
got, and repeats them every so many generations.

* `Paired`, the generator beside the reference station information received last; `step`, which
  notes with each message what was received last;
* `Sent.IsLatest`: 1005 and 1006 are those of the information, and 1032 is that of its physical
  station;
* `Pairs`: no physical station of an older information is left, and the numbers that are written
  fit 12 bits; `paired_iff`: all messages of a run are right exactly if all its steps meet it.
-/

namespace SuplLpp.Rtcm

open Asn Bits

/-! ### The generator and what it received -/

/-- The reference station information of a message. -/
def receivedStation (lppMessage : Option LppMessage) : Option GnssRtkReferenceStationInfo :=
  ((lppMessage.bind LppMessage.aGnss).bind (·.gnssCommonAssistData)).bind
    (·.gnssRtkReferenceStationInfo)

/-- The generator, and the information received last.  There is no generator after a message whose
extraction is undefined. -/
structure Paired where
  generator : Option Generator
  latest : Option GnssRtkReferenceStationInfo

def Paired.new : Paired := ⟨some .new, none⟩

/-- The information received last, the message included. -/
def Paired.latestWith (s : Paired) (lppMessage : Option LppMessage) :
    Option GnssRtkReferenceStationInfo :=
  (receivedStation lppMessage).or s.latest

/-- A message, with the information received last. -/
structure Sent where
  latest : Option GnssRtkReferenceStationInfo
  message : Message

def pairedStep (s : Paired) (input : Option LppMessage × MessageFilter) : Paired × List Sent :=
  match s.generator with
  | none => (s, [])
  | some generator =>
    let latest := s.latestWith input.1
    match generator.generate input.1 input.2 with
    | none => (⟨none, latest⟩, [])
    | some (messages, next) => (⟨some next, latest⟩, messages.map (⟨latest, ·⟩))

/-! ### What is promised -/

/-- A station message is that of the information received last. -/
structure Sent.IsLatest (sent : Sent) : Prop where
  station : sent.message.id = 1005 ∨ sent.message.id = 1006 →
    ∃ info ∈ sent.latest, Announces info sent.message
  physical : sent.message.id = 1032 → ∃ info ∈ sent.latest,
    ∃ physical ∈ info.physicalReferenceStationInfo, AnnouncesPhysical info physical sent.message

/-- The station messages are due: an information was received, or it is their turn. -/
def stationsDue (generator : Generator) (filter : MessageFilter) (received : Bool) : Bool :=
  received || (decide (filter.includeEveryNthGeneration > 0) &&
    generator.mGenerationIndex % filter.includeEveryNthGeneration == 0)

/-- What station messages of an information need: the numbers of the stations that are written
fit, and without a physical station there is none left from before. -/
structure Fits (generator : Generator) (filter : MessageFilter)
    (info : GnssRtkReferenceStationInfo) : Prop where
  station : filter.mt1006 ∧ info.antennaHeight.isSome ∨ filter.mt1005 →
    info.referenceStationId.1 < 4096
  present : filter.mt1032 → ∀ physical ∈ info.physicalReferenceStationInfo,
    info.referenceStationId.1 < 4096 ∧ physical.physicalReferenceStationId.1 < 4096
  absent : filter.mt1032 → info.physicalReferenceStationInfo = none →
    generator.mPhysicalReferenceStation = none

/-- If station messages are due, they have what they need. -/
def Pairs (s : Paired) (input : Option LppMessage × MessageFilter) : Prop :=
  ∀ generator ∈ s.generator, ∀ aGnss ∈ input.1.bind LppMessage.aGnss,
    (extractRtkData aGnss).isSome →
      stationsDue generator input.2 (receivedStation input.1).isSome →
        ∀ info ∈ s.latestWith input.1, Fits generator input.2 info

/-! ### Extraction -/

/-- The stations of the data. -/
def RtkData.stations (data : RtkData) : Option ReferenceStation × Option PhysicalReferenceStation :=
  (data.referenceStation, data.physicalReferenceStation)

theorem stations_withObservations {data result : RtkData} {gnssId : GenericGnssId}
    {srcObservation : Option GnssRtkObservations}
    (h : data.withObservations gnssId srcObservation = some result) :
    result.stations = data.stations := by
  unfold RtkData.withObservations at h
  split at h
  · obtain ⟨observation, -, rfl⟩ := Option.map_eq_some_iff.1 h
    rfl
  · cases h
    rfl

theorem stations_withResiduals {data result : RtkData} {gnssId : GenericGnssId}
    {srcResiduals : Option GnssRtkResiduals}
    (h : data.withResiduals gnssId srcResiduals = some result) :
    result.stations = data.stations := by
  unfold RtkData.withResiduals at h
  split at h
  · obtain ⟨residuals, -, rfl⟩ := Option.map_eq_some_iff.1 h
    rfl
  · obtain ⟨residuals, -, rfl⟩ := Option.map_eq_some_iff.1 h
    rfl
  · cases h
    rfl

theorem stations_extractGenericElementData {data result : RtkData}
    {srcGeneric : GnssGenericAssistDataElement}
    (h : extractGenericElementData data srcGeneric = some result) :
    result.stations = data.stations := by
  unfold extractGenericElementData at h
  split at h
  · cases h
    rfl
  next gnssId _ =>
    obtain ⟨observed, hobserved, h⟩ := Option.bind_eq_some_iff.1 h
    have hauxiliary : (data.withAuxiliary srcGeneric.gnssAuxiliaryInformation).stations =
        data.stations := by
      unfold RtkData.withAuxiliary
      split <;> rfl
    have hbias : (observed.withBias gnssId srcGeneric.gloRtkBiasInformation).stations =
        observed.stations := by
      unfold RtkData.withBias
      split
      · split <;> rfl
      · rfl
    rw [stations_withResiduals h, hbias, stations_withObservations hobserved, hauxiliary]

theorem stations_extractGenericAssistData {list : List GnssGenericAssistDataElement}
    {data result : RtkData} (h : extractGenericAssistData data list = some result) :
    result.stations = data.stations := by
  induction list generalizing data with
  | nil =>
    cases h
    rfl
  | cons srcGeneric list ih =>
    rw [extractGenericAssistData, List.foldlM_cons] at h
    obtain ⟨next, hnext, h⟩ := Option.bind_eq_some_iff.1 h
    rw [ih h, stations_extractGenericElementData hnext]

/-- The stations are those of the information of the message. -/
theorem stations_extractRtkData {lppMessage : Option LppMessage}
    {aGnss : AGnssProvideAssistanceData} (hmessage : lppMessage.bind LppMessage.aGnss = some aGnss)
    {data : RtkData} (h : extractRtkData aGnss = some data) :
    data.referenceStation = (receivedStation lppMessage).map extractReferenceStationInfo ∧
      data.physicalReferenceStation =
        ((receivedStation lppMessage).bind (·.physicalReferenceStationInfo)).map
          extractPhysicalReferenceStationInfo := by
  refine Prod.ext_iff.1 (show data.stations = (_, _) from ?_)
  unfold receivedStation
  rw [hmessage, Option.bind_some]
  unfold extractRtkData at h
  cases hcommon : aGnss.gnssCommonAssistData with
  | none =>
    have hstations : data.stations = RtkData.new.stations := by
      rw [hcommon] at h
      dsimp only at h
      split at h
      · exact stations_extractGenericAssistData h
      · cases h
        rfl
    exact hstations
  | some srcCommon =>
    have hstations : data.stations = (extractCommonAssistData .new srcCommon).stations := by
      rw [hcommon] at h
      dsimp only at h
      split at h
      · exact stations_extractGenericAssistData h
      · cases h
        rfl
    rw [hstations]
    dsimp only [Option.bind_some]
    unfold extractCommonAssistData
    cases srcCommon.gnssRtkCommonObservationInfo <;>
      cases srcCommon.gnssRtkReferenceStationInfo with
      | none => rfl
      | some info =>
        dsimp only [Option.bind_some]
        cases info.physicalReferenceStationInfo <;> rfl

/-! ### The messages of a generation -/

/-- The station messages of `generateFrom`. -/
def stationMessages (generator : Generator) (rtkData : RtkData) (filter : MessageFilter) :
    List Message :=
  match rtkData.referenceStation.or generator.mReferenceStation with
  | some referenceStation =>
    if stationsDue generator filter rtkData.referenceStation.isSome then
      referenceStationMessages filter referenceStation
        (rtkData.physicalReferenceStation.or generator.mPhysicalReferenceStation)
        (usedObservations rtkData filter .gps).isSome
        (usedObservations rtkData filter .glonass).isSome
        (usedObservations rtkData filter .galileo).isSome
    else []
  | none => []

/-- A message that is not about reference stations. -/
def Message.IsOther (message : Message) : Prop :=
  message.id ≠ 1005 ∧ message.id ≠ 1006 ∧ message.id ≠ 1032

theorem isOther_generateMsm {msm : ℕ} (hmsm : 4 ≤ msm ∧ msm ≤ 7) (lastMsm : Bool)
    (gnss : GenericGnssId) (common : CommonObservationInfo) (observations : Observations) :
    (generateMsm msm.toUInt32 lastMsm gnss common observations).IsOther := by
  have hcases : msm = 4 ∨ msm = 5 ∨ msm = 6 ∨ msm = 7 := by omega
  show (msmMessageId msm.toUInt32 gnss).toUInt32 ≠ 1005 ∧
    (msmMessageId msm.toUInt32 gnss).toUInt32 ≠ 1006 ∧
    (msmMessageId msm.toUInt32 gnss).toUInt32 ≠ 1032
  rcases hcases with rfl | rfl | rfl | rfl <;> cases gnss <;> decide

theorem isOther_msmMessages {msm : ℕ} (hmsm : 4 ≤ msm ∧ msm ≤ 7) (common : CommonObservationInfo)
    (entries : List (GenericGnssId × Observations)) :
    ∀ message ∈ msmMessages msm.toUInt32 common entries, message.IsOther := by
  induction entries with
  | nil => rintro message ⟨⟩
  | cons entry entries ih =>
    rw [msmMessages]
    exact List.forall_mem_cons.2 ⟨isOther_generateMsm hmsm _ _ _ _, ih⟩

/-- The other messages of `generateFrom`. -/
def otherMessages (rtkData : RtkData) (filter : MessageFilter) : List Message :=
  let observations := messageObservations rtkData filter
  (match rtkData.commonObservationInfo with
    | some common =>
      msmMessages (msmVersion filter (observations.map (·.2))).toUInt32 common observations
    | none => []) ++
  ((rtkData.biasInformation.map generate1230).toList ++
    ((rtkData.gpsResiduals.map generate1030).toList ++
      (rtkData.glonassResiduals.map generate1031).toList))

theorem isOther_otherMessages (rtkData : RtkData) (filter : MessageFilter) :
    ∀ message ∈ otherMessages rtkData filter, message.IsOther := by
  have hbias (bias : BiasInformation) : (generate1230 bias).IsOther := by
    show (1230 : UInt32) ≠ 1005 ∧ (1230 : UInt32) ≠ 1006 ∧ (1230 : UInt32) ≠ 1032
    decide
  have hgps (residuals : Residuals) : (generate1030 residuals).IsOther := by
    show (1030 : UInt32) ≠ 1005 ∧ (1030 : UInt32) ≠ 1006 ∧ (1030 : UInt32) ≠ 1032
    decide
  have hglonass (residuals : Residuals) : (generate1031 residuals).IsOther := by
    show (1031 : UInt32) ≠ 1005 ∧ (1031 : UInt32) ≠ 1006 ∧ (1031 : UInt32) ≠ 1032
    decide
  unfold otherMessages
  refine List.forall_mem_append.2 ⟨?_, ?_⟩
  · cases rtkData.commonObservationInfo with
    | none => rintro message ⟨⟩
    | some common => exact isOther_msmMessages (msmVersion_range _ _) _ _
  · cases rtkData.biasInformation <;> cases rtkData.gpsResiduals <;>
      cases rtkData.glonassResiduals <;> simp [hbias, hgps, hglonass]

theorem generateFrom_eq (generator : Generator) (rtkData : RtkData) (filter : MessageFilter) :
    (generator.generateFrom rtkData filter).1 =
      stationMessages generator rtkData filter ++ otherMessages rtkData filter := by
  unfold otherMessages
  simp only [← List.append_assoc]
  rfl

/-! ### Right messages -/

theorem Message.IsOther.isLatest {message : Message} (h : message.IsOther)
    (latest : Option GnssRtkReferenceStationInfo) : Sent.IsLatest ⟨latest, message⟩ := by
  obtain ⟨h1005, h1006, h1032⟩ := h
  exact ⟨fun hid => absurd hid (not_or.2 ⟨h1005, h1006⟩), fun hid => absurd hid h1032⟩

section Messages

variable (info : GnssRtkReferenceStationInfo) (gps glo gal : Bool)

theorem isLatest_1005_iff :
    Sent.IsLatest ⟨some info, generate1005 (extractReferenceStationInfo info) gps glo gal⟩ ↔
      info.referenceStationId.1 < 4096 := by
  rw [← announces_generate1005_iff info gps glo gal]
  refine ⟨fun h => ?_, fun h => ⟨fun _ => ⟨info, rfl, h⟩, fun hid => ?_⟩⟩
  · obtain ⟨latest, hlatest, h⟩ := h.station (.inl rfl)
    cases hlatest
    exact h
  · exact absurd hid (show (1005 : UInt32) ≠ 1032 by decide)

theorem isLatest_1006_iff (hheight : info.antennaHeight.isSome) :
    Sent.IsLatest ⟨some info, generate1006 (extractReferenceStationInfo info) gps glo gal⟩ ↔
      info.referenceStationId.1 < 4096 := by
  rw [← announces_generate1006_iff info hheight gps glo gal]
  refine ⟨fun h => ?_, fun h => ⟨fun _ => ⟨info, rfl, h⟩, fun hid => ?_⟩⟩
  · obtain ⟨latest, hlatest, h⟩ := h.station (.inr rfl)
    cases hlatest
    exact h
  · exact absurd hid (show (1006 : UInt32) ≠ 1032 by decide)

theorem isLatest_1032_iff (physical : PhysicalReferenceStation) :
    Sent.IsLatest ⟨some info, generate1032 (extractReferenceStationInfo info) physical⟩ ↔
      ∃ p ∈ info.physicalReferenceStationInfo, AnnouncesPhysical info p
        (generate1032 (extractReferenceStationInfo info) physical) := by
  refine ⟨fun h => ?_, fun h => ⟨fun hid => ?_, fun _ => ⟨info, rfl, h⟩⟩⟩
  · obtain ⟨latest, hlatest, h⟩ := h.physical rfl
    cases hlatest
    exact h
  · rcases hid with hid | hid
    · exact absurd hid (show (1032 : UInt32) ≠ 1005 by decide)
    · exact absurd hid (show (1032 : UInt32) ≠ 1006 by decide)

theorem isLatest_station_iff (filter : MessageFilter) :
    (∀ message ∈ if filter.mt1006 ∧ (extractReferenceStationInfo info).antennaHeight.isSome then
        [generate1006 (extractReferenceStationInfo info) gps glo gal]
      else if filter.mt1005 then
        [generate1005 (extractReferenceStationInfo info) gps glo gal]
      else [], Sent.IsLatest ⟨some info, message⟩) ↔
      (filter.mt1006 ∧ info.antennaHeight.isSome ∨ filter.mt1005 →
        info.referenceStationId.1 < 4096) := by
  have hsome : (extractReferenceStationInfo info).antennaHeight.isSome =
      info.antennaHeight.isSome := Option.isSome_map
  rw [hsome]
  split
  next h => rw [List.forall_mem_singleton, isLatest_1006_iff info gps glo gal h.2,
      imp_iff_right (.inl h)]
  next h =>
    split
    next h1005 => rw [List.forall_mem_singleton, isLatest_1005_iff, imp_iff_right (.inr h1005)]
    next h1005 =>
      exact iff_of_true (by rintro message ⟨⟩) fun hor => absurd hor (not_or.2 ⟨h, h1005⟩)

/-- The message of the physical station is right if that is the one of the information. -/
theorem isLatest_physical_iff (filter : MessageFilter) (generator : Generator) :
    (∀ message ∈ match (info.physicalReferenceStationInfo.map
          extractPhysicalReferenceStationInfo).or generator.mPhysicalReferenceStation with
        | some physical =>
          if filter.mt1032 then [generate1032 (extractReferenceStationInfo info) physical] else []
        | none => [], Sent.IsLatest ⟨some info, message⟩) ↔
      (filter.mt1032 → ∀ physical ∈ info.physicalReferenceStationInfo,
        info.referenceStationId.1 < 4096 ∧ physical.physicalReferenceStationId.1 < 4096) ∧
      (filter.mt1032 → info.physicalReferenceStationInfo = none →
        generator.mPhysicalReferenceStation = none) := by
  by_cases h1032 : filter.mt1032
  · cases hinfo : info.physicalReferenceStationInfo with
    | some physical =>
      simp [h1032, isLatest_1032_iff, hinfo, announcesPhysical_generate1032_iff]
    | none =>
      cases hkept : generator.mPhysicalReferenceStation with
      | none => simp
      | some kept => simp [h1032, isLatest_1032_iff, hinfo]
  · refine iff_of_true (fun message hmessage => ?_)
      ⟨fun h => absurd h h1032, fun h => absurd h h1032⟩
    split at hmessage
    · rw [if_neg h1032] at hmessage
      cases hmessage
    · cases hmessage

/-- **The station messages of an information** are right exactly if they have what they need. -/
theorem isLatest_referenceStationMessages_iff (filter : MessageFilter) (generator : Generator) :
    (∀ message ∈ referenceStationMessages filter (extractReferenceStationInfo info)
      ((info.physicalReferenceStationInfo.map extractPhysicalReferenceStationInfo).or
        generator.mPhysicalReferenceStation) gps glo gal, Sent.IsLatest ⟨some info, message⟩) ↔
      Fits generator filter info := by
  unfold referenceStationMessages
  rw [List.forall_mem_append, isLatest_station_iff]
  refine (and_congr_right' (isLatest_physical_iff info filter generator)).trans ?_
  exact ⟨fun h => ⟨h.1, h.2.1, h.2.2⟩, fun h => ⟨h.station, h.present, h.absent⟩⟩

end Messages

/-! ### Runs -/

/-- What holds between two messages: the generator keeps the information received last, and its
physical station if it has one. -/
def Paired.Keeps (s : Paired) : Prop :=
  ∀ generator ∈ s.generator,
    generator.mReferenceStation = s.latest.map extractReferenceStationInfo ∧
      ∀ info ∈ s.latest, ∀ physical ∈ info.physicalReferenceStationInfo,
        generator.mPhysicalReferenceStation = some (extractPhysicalReferenceStationInfo physical)

/-- The stations that a generation uses are those of the information received last; without a
physical one it uses what is left. -/
theorem used_stations {s : Paired} (hs : s.Keeps) {generator : Generator}
    (hgenerator : s.generator = some generator) {lppMessage : Option LppMessage}
    {aGnss : AGnssProvideAssistanceData} (hmessage : lppMessage.bind LppMessage.aGnss = some aGnss)
    {data : RtkData} (hdata : extractRtkData aGnss = some data) :
    data.referenceStation.or generator.mReferenceStation =
        (s.latestWith lppMessage).map extractReferenceStationInfo ∧
      ∀ info ∈ s.latestWith lppMessage,
        data.physicalReferenceStation.or generator.mPhysicalReferenceStation =
          (info.physicalReferenceStationInfo.map extractPhysicalReferenceStationInfo).or
            generator.mPhysicalReferenceStation := by
  obtain ⟨hstation, hphysical⟩ := hs generator hgenerator
  obtain ⟨hdataStation, hdataPhysical⟩ := stations_extractRtkData hmessage hdata
  unfold Paired.latestWith
  rw [hdataStation, hdataPhysical]
  cases receivedStation lppMessage with
  | some received => exact ⟨rfl, by rintro info ⟨⟩; rfl⟩
  | none =>
    refine ⟨hstation, fun info hinfo => ?_⟩
    cases hp : info.physicalReferenceStationInfo with
    | none => rfl
    | some physical => exact hphysical info hinfo physical hp

/-- A message without assistance data changes nothing. -/
theorem pairedStep_idle {s : Paired} {generator : Generator}
    (hgenerator : s.generator = some generator) {input : Option LppMessage × MessageFilter}
    (hmessage : input.1.bind LppMessage.aGnss = none) : pairedStep s input = (s, []) := by
  obtain ⟨_, latest⟩ := s
  cases hgenerator
  unfold pairedStep Generator.generate Paired.latestWith receivedStation
  simp [hmessage]

theorem pairedStep_undefined {s : Paired} {generator : Generator}
    (hgenerator : s.generator = some generator) {input : Option LppMessage × MessageFilter}
    {aGnss : AGnssProvideAssistanceData} (hmessage : input.1.bind LppMessage.aGnss = some aGnss)
    (hdata : extractRtkData aGnss = none) :
    pairedStep s input = (⟨none, s.latestWith input.1⟩, []) := by
  unfold pairedStep Generator.generate
  simp [hgenerator, hmessage, hdata]

theorem pairedStep_data {s : Paired} {generator : Generator}
    (hgenerator : s.generator = some generator) {input : Option LppMessage × MessageFilter}
    {aGnss : AGnssProvideAssistanceData} (hmessage : input.1.bind LppMessage.aGnss = some aGnss)
    {data : RtkData} (hdata : extractRtkData aGnss = some data) :
    pairedStep s input =
      (⟨some (generator.generateFrom data input.2).2, s.latestWith input.1⟩,
        (generator.generateFrom data input.2).1.map (⟨s.latestWith input.1, ·⟩)) := by
  unfold pairedStep Generator.generate
  simp [hgenerator, hmessage, hdata]

theorem keeps_step {s : Paired} (hs : s.Keeps) (input : Option LppMessage × MessageFilter) :
    (pairedStep s input).1.Keeps := by
  cases hgenerator : s.generator with
  | none =>
    unfold pairedStep
    rw [hgenerator]
    exact hs
  | some generator =>
    cases hmessage : input.1.bind LppMessage.aGnss with
    | none =>
      rw [pairedStep_idle hgenerator hmessage]
      exact hs
    | some aGnss =>
      cases hdata : extractRtkData aGnss with
      | none =>
        rw [pairedStep_undefined hgenerator hmessage hdata]
        rintro next ⟨⟩
      | some data =>
        obtain ⟨hstation, hphysical⟩ := used_stations hs hgenerator hmessage hdata
        rw [pairedStep_data hgenerator hmessage hdata]
        rintro next ⟨⟩
        refine ⟨hstation, fun info hinfo physical hp => (hphysical info hinfo).trans ?_⟩
        rw [Option.mem_def.1 hp]
        rfl

/-- **The step rule.** -/
theorem isLatest_step_iff {s : Paired} (hs : s.Keeps) (input : Option LppMessage × MessageFilter) :
    (∀ sent ∈ (pairedStep s input).2, sent.IsLatest) ↔ Pairs s input := by
  cases hgenerator : s.generator with
  | none =>
    unfold pairedStep
    rw [hgenerator]
    refine iff_of_true (by rintro sent ⟨⟩) fun generator h => ?_
    rw [hgenerator] at h
    cases h
  | some generator =>
    cases hmessage : input.1.bind LppMessage.aGnss with
    | none =>
      rw [pairedStep_idle hgenerator hmessage]
      refine iff_of_true (by rintro sent ⟨⟩) fun _ _ aGnss h => ?_
      rw [hmessage] at h
      cases h
    | some aGnss =>
      have hpairs : Pairs s input ↔ ((extractRtkData aGnss).isSome →
          stationsDue generator input.2 (receivedStation input.1).isSome →
            ∀ info ∈ s.latestWith input.1, Fits generator input.2 info) := by
        unfold Pairs
        simp [hgenerator, hmessage]
      rw [hpairs]
      cases hdata : extractRtkData aGnss with
      | none =>
        rw [pairedStep_undefined hgenerator hmessage hdata]
        exact iff_of_true (by rintro sent ⟨⟩) fun h => absurd h (by decide)
      | some data =>
        obtain ⟨hstation, hphysical⟩ := used_stations hs hgenerator hmessage hdata
        have hdue : data.referenceStation.isSome = (receivedStation input.1).isSome := by
          rw [(stations_extractRtkData hmessage hdata).1]
          exact Option.isSome_map
        rw [pairedStep_data hgenerator hmessage hdata, List.forall_mem_map, generateFrom_eq,
          List.forall_mem_append,
          and_iff_left fun message h => (isOther_otherMessages data input.2 message h).isLatest _]
        unfold stationMessages
        rw [hstation, hdue]
        cases hlatest : s.latestWith input.1 with
        | none => simp
        | some info =>
          rw [hphysical info hlatest]
          dsimp only [Option.map_some]
          cases stationsDue generator input.2 (receivedStation input.1).isSome with
          | false => simp
          | true => simp [isLatest_referenceStationMessages_iff]

theorem keeps_new : Paired.new.Keeps := by
  rintro generator ⟨⟩
  exact ⟨rfl, by rintro info ⟨⟩⟩

/-- **Reference stations and physical stations** are those of the information received last, in
all messages of a run, exactly if the station messages of every step have what they need. -/
theorem paired_iff (inputs : List (Option LppMessage × MessageFilter)) :
    (∀ sent ∈ (Mealy.run pairedStep .new inputs).2, sent.IsLatest) ↔
      Mealy.Along (fun s _ input => Pairs s input) pairedStep .new [] inputs :=
  Mealy.outputs_iff_along (P := Paired.Keeps) (fun _ input hs => keeps_step hs input)
    (fun _ input hs => isLatest_step_iff hs input) keeps_new [] inputs

/-- A message with nothing but a reference station information. -/
def stationOnly (info : GnssRtkReferenceStationInfo) : LppMessage :=
  ⟨some (.provideAssistanceData (.provideAssistanceDataR9 (some
    { gnssCommonAssistData := some
        { gnssRtkCommonObservationInfo := none
          gnssRtkReferenceStationInfo := some info }
      gnssGenericAssistData := none })))⟩

/-- The first station has a physical one behind it. -/
def nonPhysicalStation : GnssRtkReferenceStationInfo where
  referenceStationId := ⟨1, by decide⟩
  referenceStationIndicator := .nonPhysical
  antennaReferencePointEcefX := ⟨0, by decide⟩
  antennaReferencePointEcefY := ⟨0, by decide⟩
  antennaReferencePointEcefZ := ⟨0, by decide⟩
  antennaHeight := none
  physicalReferenceStationInfo := some
    { physicalReferenceStationId := ⟨2, by decide⟩
      physicalArpEcefX := ⟨10, by decide⟩
      physicalArpEcefY := ⟨20, by decide⟩
      physicalArpEcefZ := ⟨30, by decide⟩ }

/-- The second station is one itself. -/
def physicalStation : GnssRtkReferenceStationInfo :=
  { nonPhysicalStation with
    referenceStationId := ⟨3, by decide⟩
    referenceStationIndicator := .physical
    physicalReferenceStationInfo := none }

/-- The new station is sent with the physical station of the old one. -/
theorem not_isLatest_physicalStation :
    ¬∀ sent ∈ (Mealy.run pairedStep .new
      [(some (stationOnly nonPhysicalStation), forcedFilter),
        (some (stationOnly physicalStation), forcedFilter)]).2, sent.IsLatest := by
  intro h
  have hold := h ⟨some physicalStation, generate1032 (extractReferenceStationInfo physicalStation)
    ((nonPhysicalStation.physicalReferenceStationInfo.map
      extractPhysicalReferenceStationInfo).get rfl)⟩
    (.tail _ (.tail _ (.tail _ (.head _))))
  obtain ⟨info, hinfo, physical, hphysical, -⟩ := hold.physical rfl
  cases hinfo
  cases hphysical

end SuplLpp.Rtcm
