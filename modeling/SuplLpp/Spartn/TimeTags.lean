import SuplLpp.Spartn.Clean

/-!
# The time tags of messages

The source takes the time tag of a message from an LPP epoch in two steps.  The first reads the
epoch in the system that it names, the second assumes GPS time.

* `Reached`, `HpacSent`, `GadSent`: the messages of a call; `Tagged`: the constellation of a
  message, its time tag and the LPP epochs that it stands for;
* `timeTag_of_tagged`: a tag is computed from any of the epochs;
* `timeTagsTrue_iff`: the tags are the readings of the constellations' clocks exactly when the
  epochs name systems that make the offsets agree.
-/

namespace SuplLpp.Spartn

open Asn Fallible MessageBuilder

/-! ### The epochs of corrections -/

theorem mem_epochTimes_ocbUpdate {entry : GnssId × OcbElement} {c : OcbCorrections}
    {e : GnssSystemTime} (h : e ∈ (ocbUpdate entry c).epochTimes) :
    e = entry.2.epochTime ∨ e ∈ c.epochTimes := by
  obtain ⟨gnssId, element⟩ := entry
  unfold OcbCorrections.epochTimes at h ⊢
  cases element <;>
    simp only [ocbUpdate, OcbElement.store, Option.map_some, Option.toList_some, List.mem_append,
      List.mem_singleton] at h ⊢ <;> tauto

theorem mem_epochTimes_hpacUpdate {entry : GnssId × HpacElement} {c : HpacCorrections}
    {e : GnssSystemTime} (h : e ∈ (hpacUpdate entry c).epochTimes) :
    e = entry.2.epochTime ∨ e ∈ c.epochTimes := by
  obtain ⟨gnssId, element⟩ := entry
  unfold HpacCorrections.epochTimes at h ⊢
  cases element <;>
    simp only [hpacUpdate, HpacElement.store, Option.map_some, Option.toList_some, List.mem_append,
      List.mem_singleton] at h ⊢ <;> tauto

section Collected

variable {assistData : SsrAssistData} {iod : ℕ}

/-- The epochs of corrections are those of their key. -/
theorem roundedSeconds_ocb {key : OcbKey} {c : OcbCorrections}
    (h : Table.find (collectedOcb assistData) iod key = some c) {e : GnssSystemTime}
    (he : e ∈ c.epochTimes) :
    (spartnTimeFrom e).roundedSeconds = c.epochTime.roundedSeconds := by
  have hkey := ocb_of_find h
  have hall : ∀ e ∈ c.epochTimes, (spartnTimeFrom e).roundedSeconds = key.epochTime := by
    refine Table.find_foldl_induction (p := fun c : OcbCorrections =>
      ∀ e ∈ c.epochTimes, (spartnTimeFrom e).roundedSeconds = key.epochTime)
      (fun e he => absurd he List.not_mem_nil) ?_ h
    rintro entry - - hk c hc e he
    rcases mem_epochTimes_ocbUpdate he with rfl | he
    · rw [hk]
      rfl
    · exact hc e he
  rw [hall e he, ← hkey]
  rfl

theorem roundedSeconds_hpac {key : HpacKey} {c : HpacCorrections}
    (h : Table.find (collectedHpac assistData) iod key = some c) {e : GnssSystemTime}
    (he : e ∈ c.epochTimes) :
    (spartnTimeFrom e).roundedSeconds = c.epochTime.roundedSeconds := by
  have hkey := hpac_of_find h
  have hall : ∀ e ∈ c.epochTimes, (spartnTimeFrom e).roundedSeconds = key.epochTime := by
    refine Table.find_foldl_induction (p := fun c : HpacCorrections =>
      ∀ e ∈ c.epochTimes, (spartnTimeFrom e).roundedSeconds = key.epochTime)
      (fun e he => absurd he List.not_mem_nil) ?_ h
    rintro entry - - hk c hc e he
    rcases mem_epochTimes_hpacUpdate he with rfl | he
    · rw [hk]
      rfl
    · exact hc e he
  rw [hall e he, ← hkey]
  rfl

end Collected

/-! ### The messages of a call -/

section Tagged

variable (build : Build) (cfg : Config) (lib : Library) (generator : Generator)
  (assistData : SsrAssistData)

/-- The call generates the messages of the issue of data, and has the corrections `data`
then. -/
def Reached (iod : ℕ) (data : CorrectionData) : Prop :=
  ∃ generator' start pre post generation,
    generator.findCorrectionPointSet build cfg assistData = .ok generator' ∧
    correctionData cfg assistData = .ok start ∧ start.iods = pre ++ iod :: post ∧
    (pre ++ [iod]).foldlM (generateIod build generator'.mCorrectionPointSets cfg lib)
      ⟨generator'.mSiouIndex, start, []⟩ = .ok generation ∧
    data = generation.mCorrectionData

/-- The call sends an HPAC message with these corrections. -/
def HpacSent (iod : ℕ) (corrections : HpacCorrections) (data : CorrectionData) : Prop :=
  cfg.mGenerateHpac = true ∧ corrections ∈ data.hpacCandidates cfg iod ∧
    KnownSet build cfg generator assistData corrections.setId ∧
    Reached build cfg lib generator assistData iod data

/-- The call sends GAD messages with the epoch of these corrections. -/
def GadSent (iod : ℕ) (corrections : HpacCorrections) (data : CorrectionData) : Prop :=
  cfg.mGenerateGad = true ∧
    (∃ hpacData, data.hpac iod = some hpacData ∧ (∃ kvp ∈ hpacData.pairs, kvp.2 = corrections) ∧
      (∃ kvp ∈ hpacData.pairs, KnownSet build cfg generator assistData kvp.1.setId) ∧
      corrections.gnssId = .gps ∧
      findGadEpochTime (lib.hpacIteration.order hpacData.pairs) = some corrections.epochTime) ∧
    Reached build cfg lib generator assistData iod data

/-- The call sends a message for the constellation with this time tag, which stands for the
epochs.  A GAD message has the epoch of GPS corrections. -/
inductive Tagged : GnssId → ℕ → List GnssSystemTime → Prop
  | ocb {iod : ℕ} {c : OcbCorrections} {data : CorrectionData}
      (h : OcbSent build cfg lib generator assistData iod c data) :
      Tagged c.gnssId c.timeTag c.epochTimes
  | hpac {iod : ℕ} {c : HpacCorrections} {data : CorrectionData}
      (h : HpacSent build cfg lib generator assistData iod c data) :
      Tagged c.gnssId c.timeTag c.epochTimes
  | gad {iod : ℕ} {c : HpacCorrections} {data : CorrectionData}
      (h : GadSent build cfg lib generator assistData iod c data) :
      Tagged .gps c.epochTime.roundedSeconds c.epochTimes

variable {build cfg lib generator assistData}

/-- The corrections stay what was collected from the message. -/
theorem Reached.collected {iod : ℕ} {data : CorrectionData}
    (h : Reached build cfg lib generator assistData iod data) :
    data.ocbData = collectedOcb assistData ∧ data.hpacData = collectedHpac assistData := by
  obtain ⟨known, start, pre, post, round, -, hstart, -, hround, rfl⟩ := h
  rw [(stecDnuSatellites_foldlM hround).1]
  exact ⟨(correctionData_eq hstart).1, (correctionData_eq hstart).2.1⟩

/-! ### The time tag of an epoch -/

/-- GPS time is not shifted. -/
theorem spartnTimeForGnss_gps (e : GnssSystemTime) :
    spartnTimeForGnss (spartnTimeFrom e) .gps = (spartnTimeFrom e).roundedSeconds :=
  spartnTimeForGnss_of_shift (roundedSeconds_lt e) rfl

/-- The time tag is computed from any of the epochs. -/
theorem timeTag_of_tagged {gnssId : GnssId} {timeTag : ℕ} {epochs : List GnssSystemTime}
    (h : Tagged build cfg lib generator assistData gnssId timeTag epochs) {e : GnssSystemTime}
    (he : e ∈ epochs) : timeTag = spartnTimeForGnss (spartnTimeFrom e) gnssId := by
  cases h with
  | ocb hsent =>
    obtain ⟨-, hmem, -, hreached⟩ := hsent
    obtain ⟨key, hfind, -⟩ := mem_ocbCandidates.1 hmem
    rw [(Reached.collected hreached).1] at hfind
    exact spartnTimeForGnss_congr (roundedSeconds_ocb hfind he).symm _
  | hpac hsent =>
    obtain ⟨-, hmem, -, hreached⟩ := hsent
    obtain ⟨key, hfind, -⟩ := mem_hpacCandidates.1 hmem
    rw [hreached.collected.2] at hfind
    exact spartnTimeForGnss_congr (roundedSeconds_hpac hfind he).symm _
  | gad hsent =>
    obtain ⟨-, ⟨hpacData, hlookup, ⟨⟨key, c⟩, hmem, rfl⟩, -, -, -⟩, hreached⟩ := hsent
    rw [CorrectionData.hpac, hreached.collected.2] at hlookup
    have hfind : Table.find (collectedHpac assistData) _ key = some c :=
      Option.bind_eq_some_iff.2 ⟨hpacData, hlookup, Table.mem_pairs.1 hmem⟩
    rw [spartnTimeForGnss_gps, roundedSeconds_hpac hfind he]

/-! ### The tags against the clocks -/

variable (leap : LeapSeconds) (build cfg lib generator assistData)

/-- Every message that is sent stands for epochs in systems of which LPP numbers days, and its
time tag is what the clock of its constellation shows at the instant of each of them. -/
def TimeTagsTrue : Prop :=
  ∀ gnssId timeTag epochs, Tagged build cfg lib generator assistData gnssId timeTag epochs →
    ∀ e ∈ epochs, Carried e ∧ ∀ t, Expresses leap e t →
      (timeTag : ℤ) = ⌊ownSeconds leap gnssId t⌋

/-- Every message that is sent stands for epochs whose systems, with the constant that the
source adds, make up the offset of its constellation, at an instant since 2010. -/
def EpochsAgree : Prop :=
  ∀ gnssId timeTag epochs, Tagged build cfg lib generator assistData gnssId timeTag epochs →
    ∀ e ∈ epochs, Carried e ∧ ∀ t, Expresses leap e t →
      OffsetsAgree leap e.gnssTimeId gnssId t ∧ 0 ≤ ⌊ownSeconds leap gnssId t⌋

/-- The time tags are true exactly when the offsets of the epochs agree. -/
theorem timeTagsTrue_iff :
    TimeTagsTrue build cfg lib generator assistData leap ↔
      EpochsAgree build cfg lib generator assistData leap := by
  refine forall₄_congr fun gnssId timeTag epochs htagged => forall₂_congr fun e he => ?_
  refine and_congr_right fun _ => forall₂_congr fun t hexpresses => ?_
  rw [timeTag_of_tagged htagged he]
  exact timeTag_eq_iff leap gnssId hexpresses

end Tagged

/-! ### GLONASS corrections in GLONASS time -/

/-- The leap seconds since 2009, by days of GPS time. -/
def recentLeapSeconds : LeapSeconds where
  gpsMinusUtc t :=
    if t < 11865 * 86400 then 15 else if t < 12960 * 86400 then 16
    else if t < 13510 * 86400 then 17 else 18
  nonneg t := by
    split_ifs <;> decide
  monthly t := by
    split_ifs <;> decide
  until2012 t h := by
    rw [if_pos h]

/-- Noon of a day in 2023, in GLONASS time. -/
def glonassEpoch : GnssSystemTime := ⟨.glonass, ⟨10000, Integer.mem⟩, ⟨43200, Integer.mem⟩, none⟩

def glonassClock : GnssSsrClockCorrections := { lateClock with epochTime := glonassEpoch }

/-- A clock correction for a GLONASS satellite. -/
def glonassAssistData : SsrAssistData :=
  ⟨none, some ⟨[⟨.glonass, none, none, some glonassClock, none, none, none, none, none⟩],
    by decide⟩⟩

def glonassCorrections : OcbCorrections :=
  { OcbCorrections.new with
    gnssId := .glonass
    epochTime := spartnTimeFrom glonassEpoch
    clock := some glonassClock }

/-- The instant of the epoch. -/
def glonassInstant : ℚ := (10000 - 5114) * 86400 + 43200 + 10953 * 86400 - 10800 + 18

theorem expresses_glonass : Expresses recentLeapSeconds glonassEpoch glonassInstant := by
  refine ⟨spartnEpochGloDays, rfl, ?_⟩
  have hleap : recentLeapSeconds.gpsMinusUtc glonassInstant = 18 := by
    unfold recentLeapSeconds glonassInstant
    norm_num
  unfold ownSeconds
  simp only [ownOffset, glonassEpoch, hleap]
  norm_num [epochReading, epochTimeOfDay, spartnEpochGloDays, glonassInstant]

/-- Three hours without 18 seconds are added to a time that has them already. -/
theorem not_timeTagsTrue_glonass :
    ¬TimeTagsTrue .checked .new .plain .new glonassAssistData recentLeapSeconds := by
  intro h
  have hcandidates : (collected glonassAssistData).ocbCandidates .new 0 = [glonassCorrections] :=
    rfl
  have htag : glonassCorrections.timeTag ≠ 0 := by decide +kernel
  have hfinishes : Finishes (generateIod .checked ∅ .new .plain
      ⟨1, collected glonassAssistData, []⟩ 0) := by
    rw [finishes_generateIod, roundFinishes_iff]
    refine ⟨fun _ hpacData hsome => (by cases hsome), fun _ => ?_, fun _ => ?_⟩
    · exact ⟨fun hlen => absurd hlen (by decide), fun c hc => absurd hc List.not_mem_nil⟩
    · rw [hcandidates]
      refine ⟨fun hlen => absurd hlen (by decide), fun c hc _ => ?_⟩
      rw [List.mem_singleton.1 hc]
      decide
  obtain ⟨round, hround⟩ := hfinishes
  have hsent : OcbSent .checked .new .plain .new glonassAssistData 0 glonassCorrections
      round.mCorrectionData := by
    refine ⟨rfl, ?_, htag, .new, collected glonassAssistData, [], [], round, rfl, rfl, by decide,
      foldlM_snoc (l := []) rfl hround, rfl⟩
    rw [(generateIod_data hround).1]
    exact hcandidates ▸ List.mem_singleton.2 rfl
  have htrue := (h _ _ _ (.ocb hsent) glonassEpoch (List.mem_singleton.2 rfl)).2 _
    expresses_glonass
  rw [timeTag_of_tagged (.ocb hsent) (List.mem_singleton.2 rfl)] at htrue
  obtain ⟨hagree, -⟩ := (timeTag_eq_iff recentLeapSeconds .glonass expresses_glonass).1 htrue
  simp [OffsetsAgree, gnssShift, glonassEpoch] at hagree

end SuplLpp.Spartn
