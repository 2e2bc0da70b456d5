import SuplLpp.Spartn.DoNotUse

/-!
# The satellites of HPAC messages and their OCB corrections

With filtering by OCB a satellite stays in an ionosphere block only if it has orbit, clock or
bias corrections at the same epoch.  Corrections are collected under the epoch of LPP, and looked
up under the time tag of the message, which is in the time of the constellation.

* `ocbAt`, the OCB corrections at the epoch of an HPAC correction; `OcbFiltered`, what the filter
  should do with them;
* `hpacFiltered_iff`: it does so for constellations that keep GPS time and without grouping, and
  for the others exactly if what is found under the tag decides the same.
-/

namespace SuplLpp.Spartn

open Asn Fallible

/-! ### What the filter is for -/

section Filter

variable (group : Bool) (build : Build) (cfg : Config) (sets : Table ℕ CorrectionPointSet)
  (lib : Library) (siou iod : ℕ)

/-- The OCB corrections of the constellation at the epoch of an HPAC correction. -/
def ocbAt (data : CorrectionData) (c : HpacCorrections) : Option OcbCorrections :=
  (data.ocb iod).bind fun ocbData =>
    ocbData.lookup ⟨c.gnssId, epochKey group c.epochTime.roundedSeconds⟩

/-- The satellites of the ionosphere block of a message. -/
def blockSatellites (data : CorrectionData) (set : CorrectionPointSet) (c : HpacCorrections) :
    List HpacSatellite :=
  ionosphereSatellites cfg set c (filterCorrectionsBy group cfg data iod c.gnssId c.timeTag)

/-- What a satellite needs besides OCB corrections. -/
def Eligible (set : CorrectionPointSet) (satellite : HpacSatellite) : Prop :=
  satellite.stec.isSome = true ∧
    (cfg.mFilterByResiduals = true → satellite.hasAllResiduals set = true)

/-- Each satellite of the block has OCB corrections at its epoch, and no satellite that has some
is missing for want of them. -/
def OcbFiltered (data : CorrectionData) (set : CorrectionPointSet) (c : HpacCorrections) : Prop :=
  ∀ ocb ∈ ocbAt group iod data c,
    (∀ satellite ∈ blockSatellites group cfg iod data set c,
      ocb.hasSatellite satellite.id = true) ∧
    ∀ satellite ∈ c.satellites, Eligible cfg set satellite →
      ocb.hasSatellite satellite.id = true → satellite ∈ blockSatellites group cfg iod data set c

/-- What is found under the time tag decides like what is there at the epoch. -/
def TagAgrees (data : CorrectionData) (set : CorrectionPointSet) (c : HpacCorrections) : Prop :=
  group = false ∨ gnssShift c.gnssId = 0 ∨
    ∀ ocb ∈ ocbAt group iod data c, ∀ satellite ∈ c.satellites, Eligible cfg set satellite →
      match (data.ocb iod).bind fun ocbData => ocbData.lookup ⟨c.gnssId, c.timeTag⟩ with
      | some found => found.hasSatellite satellite.id = ocb.hasSatellite satellite.id
      | none => ocb.hasSatellite satellite.id = true

theorem mem_blockSatellites {data : CorrectionData} {set : CorrectionPointSet}
    {c : HpacCorrections} {satellite : HpacSatellite} :
    satellite ∈ blockSatellites group cfg iod data set c ↔
      satellite ∈ c.satellites ∧ Eligible cfg set satellite ∧
        ∀ found ∈ filterCorrectionsBy group cfg data iod c.gnssId c.timeTag,
          found.hasSatellite satellite.id = true := by
  unfold blockSatellites ionosphereSatellites Eligible
  rw [List.mem_filter]
  refine and_congr_right fun _ => ?_
  cases filterCorrectionsBy group cfg data iod c.gnssId c.timeTag with
  | none => cases cfg.mFilterByResiduals <;> simp
  | some found =>
    cases cfg.mFilterByResiduals
    · simp
    · simp only [Option.mem_def, Option.some.injEq, forall_eq', Bool.and_eq_true, Bool.not_true,
        Bool.false_or, forall_const]
      tauto

/-- **When the filter does what it is for**, for one correction. -/
theorem ocbFiltered_iff {data : CorrectionData} {set : CorrectionPointSet} {c : HpacCorrections}
    (hfilter : cfg.mFilterByOcb = true) (hlt : c.epochTime.roundedSeconds < 2 ^ 32) :
    OcbFiltered group cfg iod data set c ↔ TagAgrees group cfg iod data set c := by
  have hfound : filterCorrectionsBy group cfg data iod c.gnssId c.timeTag =
      (data.ocb iod).bind fun ocbData => ocbData.lookup ⟨c.gnssId, epochKey group c.timeTag⟩ :=
    if_pos hfilter
  by_cases hsame : group = false ∨ gnssShift c.gnssId = 0
  · -- the same key: the filter looks at the very corrections
    have hkey : epochKey group c.timeTag = epochKey group c.epochTime.roundedSeconds := by
      rcases hsame with rfl | hshift
      · rfl
      · rw [HpacCorrections.timeTag, spartnTimeForGnss_of_shift hlt hshift]
    refine iff_of_true ?_ (hsame.imp_right Or.inl)
    intro ocb hocb
    rw [hkey] at hfound
    have hat : filterCorrectionsBy group cfg data iod c.gnssId c.timeTag = some ocb :=
      hfound.trans hocb
    constructor
    · intro satellite hmem
      exact ((mem_blockSatellites group cfg iod).1 hmem).2.2 ocb hat
    · intro satellite hmem heligible hhas
      refine (mem_blockSatellites group cfg iod).2 ⟨hmem, heligible, ?_⟩
      intro found hfound'
      rw [hat] at hfound'
      cases hfound'
      exact hhas
  · rw [not_or] at hsame
    obtain ⟨hgroup, hshift⟩ := hsame
    have hkey : epochKey group c.timeTag = c.timeTag :=
      if_pos (Bool.eq_true_of_not_eq_false hgroup)
    rw [hkey] at hfound
    unfold OcbFiltered TagAgrees
    rw [or_iff_right hgroup, or_iff_right hshift, ← hfound]
    refine forall₂_congr fun ocb _ => ?_
    constructor
    · rintro ⟨hhave, hstay⟩ satellite hmem heligible
      have hin : satellite ∈ blockSatellites group cfg iod data set c ↔ _ :=
        mem_blockSatellites group cfg iod
      cases hf : filterCorrectionsBy group cfg data iod c.gnssId c.timeTag with
      | none =>
        rw [hf] at hin
        exact hhave satellite (hin.2 ⟨hmem, heligible, fun _ h => by cases h⟩)
      | some found =>
        rw [hf] at hin
        dsimp only
        rw [Bool.eq_iff_iff]
        constructor
        · intro hhas
          exact hhave satellite (hin.2 ⟨hmem, heligible, fun _ h => by cases h; exact hhas⟩)
        · intro hhas
          exact (hin.1 (hstay satellite hmem heligible hhas)).2.2 found rfl
    · intro hagree
      constructor
      · intro satellite hin
        obtain ⟨hmem, heligible, hall⟩ := (mem_blockSatellites group cfg iod).1 hin
        have h := hagree satellite hmem heligible
        cases hf : filterCorrectionsBy group cfg data iod c.gnssId c.timeTag with
        | none =>
          rw [hf] at h
          exact h
        | some found =>
          rw [hf] at h
          exact h.symm.trans (hall found hf)
      · intro satellite hmem heligible hhas
        have h := hagree satellite hmem heligible
        refine (mem_blockSatellites group cfg iod).2 ⟨hmem, heligible, ?_⟩
        intro found hf
        rw [Option.mem_def.1 hf] at h
        exact h.trans hhas

end Filter

/-! ### What is collected -/

section Collected

variable {group : Bool} {cfg : Config} {assistData : SsrAssistData} {data : CorrectionData}

theorem foldl_addOcbEntryBy (entries : List (GnssId × OcbElement)) (data : CorrectionData) :
    entries.foldl (addOcbEntryBy group) data = { data with
      ocbData := entries.foldl (fun ocbData entry =>
        Table.modify ocbData (ocbIod entry) (ocbKeyBy group entry) OcbCorrections.new
          (ocbUpdateBy group entry)) data.ocbData } := by
  induction entries generalizing data with
  | nil => rfl
  | cons entry entries ih => exact ih _

theorem foldl_addHpacEntryBy (entries : List (GnssId × HpacElement)) (data : CorrectionData) :
    entries.foldl (addHpacEntryBy group) data = { data with
      hpacData := entries.foldl (fun hpacData entry =>
        Table.modify hpacData (hpacIod entry) (hpacKeyBy group entry) HpacCorrections.new
          (hpacUpdate entry)) data.hpacData } := by
  induction entries generalizing data with
  | nil => rfl
  | cons entry entries ih => exact ih _

theorem foldlM_findRtiCorrections {elements : List SsrGenericAssistDataElement}
    {start data : CorrectionData} (h : elements.foldlM findRtiCorrections start = .ok data) :
    data.ocbData = start.ocbData ∧ data.hpacData = start.hpacData := by
  refine foldlM_induction (p := fun data : CorrectionData =>
    data.ocbData = start.ocbData ∧ data.hpacData = start.hpacData) h ⟨rfl, rfl⟩ ?_
  rintro element - data data' hone hkeep
  obtain ⟨rti, rfl⟩ := findRtiCorrections_keeps hone
  exact hkeep

/-- The corrections of a message are those of its elements, under their keys. -/
theorem correctionDataBy_tables (h : correctionDataBy group cfg assistData = .ok data) :
    data.ocbData = (ocbElements assistData).foldl (fun ocbData entry =>
        Table.modify ocbData (ocbIod entry) (ocbKeyBy group entry) OcbCorrections.new
          (ocbUpdateBy group entry)) ∅ ∧
      data.hpacData = (hpacElements assistData).foldl (fun hpacData entry =>
        Table.modify hpacData (hpacIod entry) (hpacKeyBy group entry) HpacCorrections.new
          (hpacUpdate entry)) ∅ := by
  obtain ⟨integrity, hloop, hdata⟩ := bind_eq_ok.1 h
  have hocb : findOcbCorrectionsBy group = fun data element =>
      (OcbElement.ofAssistData element).foldl (addOcbEntryBy group) data := rfl
  have hhpac : findHpacCorrectionsBy group = fun data element =>
      (HpacElement.ofAssistData element).foldl (addHpacEntryBy group) data := rfl
  rw [hocb, hhpac, ← List.foldl_flatMap, ← List.foldl_flatMap] at hloop
  change (SsrAssistData.elements assistData).foldlM findRtiCorrections
    ((hpacElements assistData).foldl (addHpacEntryBy group)
      ((ocbElements assistData).foldl (addOcbEntryBy group) CorrectionData.new)) = _ at hloop
  rw [foldl_addOcbEntryBy, foldl_addHpacEntryBy] at hloop
  obtain ⟨hocbData, hhpacData⟩ := foldlM_findRtiCorrections hloop
  cases hdata
  unfold applyServiceAlert
  split
  · split
    · exact ⟨hocbData, hhpacData⟩
    · exact ⟨hocbData, hhpacData⟩
  · exact ⟨hocbData, hhpacData⟩

/-- The epoch of an HPAC correction is that of an element. -/
theorem candidate_epoch_lt (h : correctionDataBy group cfg assistData = .ok data) {iod : ℕ}
    {c : HpacCorrections} (hc : c ∈ data.hpacCandidates cfg iod) :
    c.epochTime.roundedSeconds < 2 ^ 32 := by
  obtain ⟨key, hfind, -⟩ := mem_hpacCandidates.1 hc
  rw [(correctionDataBy_tables h).2] at hfind
  refine Table.forall_find_foldl (p := fun _ _ (c : HpacCorrections) =>
    c.epochTime.roundedSeconds < 2 ^ 32) _ ?_ hfind
  rintro ⟨gnssId, element⟩ - c
  cases element <;> exact roundedSeconds_lt _

/-- There are OCB corrections at the epoch of an HPAC correction exactly if the LPP message has
an element of the same issue of data, constellation and epoch, as far as epochs count. -/
theorem isSome_ocbAt (h : correctionDataBy group cfg assistData = .ok data) {iod : ℕ}
    {c : HpacCorrections} :
    (ocbAt group iod data c).isSome ↔ ∃ entry ∈ ocbElements assistData, iod = ocbIod entry ∧
      c.gnssId = entry.1 ∧ (group = true → c.epochTime.roundedSeconds =
        (spartnTimeFrom entry.2.epochTime).roundedSeconds) := by
  change (Table.find data.ocbData iod _).isSome ↔ _
  rw [(correctionDataBy_tables h).1, Table.isSome_find_foldl]
  refine exists_congr fun entry => and_congr_right fun _ => and_congr_right fun _ => ?_
  rw [ocbKeyBy, OcbKey.mk.injEq, epochKey, epochKey]
  cases group <;> simp

end Collected

/-! ### The messages that are generated -/

/-- The message of an HPAC correction with an ionosphere block. -/
structure MessageOf (group : Bool) (build : Build) (cfg : Config)
    (sets : Table ℕ CorrectionPointSet) (siou iod : ℕ) (data : CorrectionData)
    (c : HpacCorrections) (set : CorrectionPointSet) (m : Message) : Prop where
  candidate : c ∈ data.hpacCandidates cfg iod
  known : sets.lookup c.setId = some set
  message : ∃ flagged, hpacMessageBy group build cfg { data with stecDnuSatellites := flagged }
    siou iod set c = .ok m
  ionosphere : ionosphereBlockType data c ≠ 0

/-! ### Every message -/

section Sent

variable (group : Bool) (build : Build) (cfg : Config) (sets : Table ℕ CorrectionPointSet)
  (lib : Library) (siou iod : ℕ) (assistData : SsrAssistData)

/-- A property of the corrections of every HPAC message with an ionosphere block that is
generated for an LPP message, with filtering by OCB. -/
def ForallMessages (p : CorrectionData → CorrectionPointSet → HpacCorrections → Prop) : Prop :=
  cfg.mFilterByOcb = true → ∀ data, correctionDataBy group cfg assistData = .ok data →
    ∀ data' messages,
      generateHpacBy group build cfg sets lib siou iod data = .ok (data', messages) →
        ∀ m ∈ messages, ∀ c set, MessageOf group build cfg sets siou iod data c set m →
          p data set c

def HpacFiltered : Prop :=
  ForallMessages group build cfg sets lib siou iod assistData (OcbFiltered group cfg iod)

/-- Each message is for a constellation that keeps GPS time, or without grouping, or what is
found under its tag decides like the corrections at its epoch. -/
def TagsAgree : Prop :=
  ForallMessages group build cfg sets lib siou iod assistData (TagAgrees group cfg iod)

/-- **When satellites of HPAC messages are filtered by their OCB corrections.** -/
theorem hpacFiltered_iff :
    HpacFiltered group build cfg sets lib siou iod assistData ↔
      TagsAgree group build cfg sets lib siou iod assistData := by
  unfold HpacFiltered TagsAgree ForallMessages
  refine forall_congr' fun hfilter => forall₂_congr fun data hdata => ?_
  refine forall₂_congr fun data' messages => forall_congr' fun _ => forall₂_congr fun m _ => ?_
  refine forall₂_congr fun c set => forall_congr' fun hmessage => ?_
  exact ocbFiltered_iff group cfg iod hfilter (candidate_epoch_lt hdata hmessage.candidate)

end Sent

/-! ### A message for GLONASS -/

/-- STEC corrections of the satellites 5 and 6 (the ids 4 and 5). -/
def twoStecs : GnssSsrStecCorrection :=
  ⟨lateEpoch, ⟨0, Integer.mem⟩, ⟨7, Integer.mem⟩,
    ⟨[⟨⟨4, Integer.mem⟩, .ofBits [true, true, true, true, true, false], ⟨0, Integer.mem_neg⟩,
        none, none, none⟩,
      ⟨⟨5, Integer.mem⟩, .ofBits [true, true, true, true, true, false], ⟨0, Integer.mem_neg⟩,
        none, none, none⟩], by decide⟩⟩

/-- A clock correction of the satellite 5 only, of the same issue of data and epoch. -/
def clockAndStecs (gnssId : GnssId) : SsrAssistData :=
  ⟨none, some ⟨[⟨gnssId, none, none, some lateClock, none, none, none, some twoStecs, none⟩],
    by simp⟩⟩

/-- A set of one grid point. -/
def pointSet : CorrectionPointSet where
  referencePointLatitude16 := 0
  referencePointLongitude16 := 0
  numberOfStepsLatitude := 0
  numberOfStepsLongitude := 0
  stepOfLatitude := 1
  stepOfLongitude := 1
  bitmask := 2 ^ 64 - 1
  latitude_le := by decide
  longitude_le := by decide
  setId := 7
  areaId := 1
  gridPoints := [⟨0, 0, 0⟩]
  length_gridPoints := rfl

def filterConfig : Config := { Config.new with mFilterByOcb := true }

def pointSets : Table ℕ CorrectionPointSet := (∅ : Table ℕ CorrectionPointSet).insert 7 pointSet

/-- The only corrections of the message. -/
def twoStecCorrections (gnssId : GnssId) : HpacCorrections :=
  { HpacCorrections.new with
    gnssId := gnssId
    setId := 7
    epochTime := spartnTimeFrom lateEpoch
    stec := some twoStecs }

theorem length_messages_glonass : (match generateHpacBy true .checked filterConfig pointSets .plain
    0 0 (collected (clockAndStecs .glonass)) with
    | .ok (_, messages) => messages.length
    | .error _ => 0) = 1 := by
  decide +kernel

/-- The satellite 6 has no OCB corrections and stays: nothing is found under the time tag. -/
theorem not_hpacFiltered_glonass :
    ¬HpacFiltered true .checked filterConfig pointSets .plain 0 0 (clockAndStecs .glonass) := by
  intro h
  have hdata : correctionDataBy true filterConfig (clockAndStecs .glonass) =
      .ok (collected (clockAndStecs .glonass)) := rfl
  have hcandidates : (collected (clockAndStecs .glonass)).hpacCandidates filterConfig 0 =
      [twoStecCorrections .glonass] := rfl
  have hlength := length_messages_glonass
  cases hrun : generateHpacBy true .checked filterConfig pointSets .plain 0 0
      (collected (clockAndStecs .glonass)) with
  | error e =>
    rw [hrun] at hlength
    cases hlength
  | ok result =>
    obtain ⟨data', messages⟩ := result
    rw [hrun] at hlength
    obtain ⟨m, hm⟩ := List.length_pos_iff_exists_mem.1 (hlength.symm ▸ Nat.one_pos)
    obtain ⟨c, hmem, set, hset, hsent⟩ := mem_generateHpacBy hrun hm
    obtain rfl : c = twoStecCorrections .glonass := List.mem_singleton.1 (hcandidates ▸ hmem)
    have hmessage : MessageOf true .checked filterConfig pointSets 0 0
        (collected (clockAndStecs .glonass)) (twoStecCorrections .glonass) set m :=
      ⟨hmem, hset, hsent, by decide +kernel⟩
    obtain rfl : pointSet = set := Option.some.inj hset
    have hnot : (ocbAt true 0 (collected (clockAndStecs .glonass))
        (twoStecCorrections .glonass)).any (fun ocb =>
          !(blockSatellites true filterConfig 0 (collected (clockAndStecs .glonass)) pointSet
            (twoStecCorrections .glonass)).all fun satellite => ocb.hasSatellite satellite.id) =
        true := by
      decide +kernel
    obtain ⟨ocb, hat, hsome⟩ := Option.any_eq_true _ _ |>.1 hnot
    have hhave := (h rfl _ hdata data' messages hrun m hm _ pointSet hmessage ocb hat).1
    rw [List.all_eq_true.2 hhave] at hsome
    cases hsome

end SuplLpp.Spartn
