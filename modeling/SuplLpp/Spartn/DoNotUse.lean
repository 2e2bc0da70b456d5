import SuplLpp.Spartn.Sent

/-!
# The do-not-use bits of OCB messages

A satellite is flagged when its bad signals are listed, or when the quality of its ionosphere
correction is beyond a threshold.  The second kind of flag is set while an HPAC message is
generated and read while an OCB message is, in one loop over the issues of data.

* `OcbSent`: an OCB message of a call, and the state in which its bits are computed;
* `stecDnuSatellites_foldlM`: what the loop has flagged after some issues of data;
* `doNotUseComplete_iff`: every bit says what the whole message says about its satellite,
  exactly when each satellite with a poor correction is flagged by an HPAC message in time.
-/

namespace SuplLpp.Spartn

open Asn Fallible MessageBuilder

/-! ### Satellites with a poor correction -/

/-- A valid quality that is beyond the threshold. -/
def Poor (cfg : Config) (element : StecSatElement) : Prop :=
  (stecQualityIndicator element.stecQualityIndicator).invalid = false ∧
    cfg.mIonoQualityThreshold < (stecQualityIndicator element.stecQualityIndicator).value

instance (cfg : Config) (element : StecSatElement) : Decidable (Poor cfg element) :=
  inferInstanceAs (Decidable (_ ∧ _))

/-- Some STEC correction of the message is poor for the satellite. -/
def PoorStec (cfg : Config) (assistData : SsrAssistData) (gnssId : GnssId) (id : SvId) : Prop :=
  ∃ element ∈ SsrAssistData.elements assistData, element.gnssId = gnssId ∧
    ∃ stec, element.gnssSsrStecCorrection = some stec ∧
      ∃ satellite ∈ stec.stecSatList.1, satellite.svId = id ∧ Poor cfg satellite

theorem mem_flaggedSatellites {cfg : Config} (h : 0 ≤ cfg.mIonoQualityThreshold)
    {corrections : HpacCorrections} {gnssId : GnssId} {id : SvId} :
    (gnssId, id) ∈ flaggedSatellites cfg corrections ↔
      corrections.gnssId = gnssId ∧
        ∃ satellite ∈ corrections.stecs, satellite.svId = id ∧ Poor cfg satellite := by
  unfold flaggedSatellites Poor
  rw [if_pos h, List.mem_map]
  constructor
  · rintro ⟨satellite, hmem, heq⟩
    obtain ⟨hmem, hpoor⟩ := List.mem_filter.1 hmem
    simp only [Bool.and_eq_true, Bool.not_eq_true', decide_eq_true_eq, gt_iff_lt] at hpoor
    obtain ⟨rfl, rfl⟩ := Prod.mk.inj heq
    exact ⟨rfl, satellite, hmem, rfl, hpoor⟩
  · rintro ⟨rfl, satellite, hmem, rfl, hpoor⟩
    refine ⟨satellite, List.mem_filter.2 ⟨hmem, ?_⟩, rfl⟩
    simp only [Bool.and_eq_true, Bool.not_eq_true', decide_eq_true_eq, gt_iff_lt]
    exact hpoor

theorem mem_hpacElements_stec {assistData : SsrAssistData} {gnssId : GnssId}
    {stec : GnssSsrStecCorrection} :
    (gnssId, HpacElement.stec stec) ∈ hpacElements assistData ↔
      ∃ element ∈ SsrAssistData.elements assistData, element.gnssId = gnssId ∧
        element.gnssSsrStecCorrection = some stec := by
  unfold hpacElements HpacElement.ofAssistData
  simp only [List.mem_flatMap, List.mem_map, List.mem_append, Option.mem_toList,
    Option.map_eq_some_iff, Prod.mk.injEq]
  constructor
  · rintro ⟨element, hmem, e, ⟨stec', hstec, rfl⟩ | ⟨gridded, -, rfl⟩, hgnss, heq⟩
    · cases heq
      exact ⟨element, hmem, hgnss, hstec⟩
    · cases heq
  · rintro ⟨element, hmem, hgnss, hstec⟩
    exact ⟨element, hmem, _, Or.inl ⟨stec, hstec, rfl⟩, hgnss, rfl⟩

/-- The STEC correction that is kept under a key is an element of the message. -/
theorem stec_mem_hpacElements {assistData : SsrAssistData} {iod : ℕ} {key : HpacKey}
    {c : HpacCorrections} (h : Table.find (collectedHpac assistData) iod key = some c)
    {stec : GnssSsrStecCorrection} (hstec : c.stec = some stec) :
    (c.gnssId, HpacElement.stec stec) ∈ hpacElements assistData := by
  have hkey := hpac_of_find h
  have hmem : ∀ stec, c.stec = some stec →
      (key.gnssId, HpacElement.stec stec) ∈ hpacElements assistData := by
    have hnew : ∀ stec, HpacCorrections.new.stec = some stec →
        (key.gnssId, HpacElement.stec stec) ∈ hpacElements assistData := by
      intro stec hstec
      cases hstec
    refine Table.find_foldl_induction (p := fun c : HpacCorrections => ∀ stec, c.stec = some stec →
      (key.gnssId, HpacElement.stec stec) ∈ hpacElements assistData) hnew ?_ h
    rintro ⟨gnssId, element⟩ hmem - hk c hc stec hstec
    cases element with
    | gridded gridded => exact hc stec hstec
    | stec correction =>
      cases hstec
      rw [hk]
      exact hmem
  have hgnss : key.gnssId = c.gnssId := by
    rw [← hkey]
    rfl
  exact hgnss ▸ hmem stec hstec

/-- A satellite that an HPAC message flags has a poor correction in the message. -/
theorem poorStec_of_candidate {cfg : Config} {assistData : SsrAssistData}
    {data : CorrectionData} (hdata : data.hpacData = collectedHpac assistData) {iod : ℕ}
    {c : HpacCorrections} (hc : c ∈ data.hpacCandidates cfg iod) {satellite : StecSatElement}
    (hmem : satellite ∈ c.stecs) (hpoor : Poor cfg satellite) :
    PoorStec cfg assistData c.gnssId satellite.svId := by
  obtain ⟨key, hfind, -⟩ := mem_hpacCandidates.1 hc
  rw [hdata] at hfind
  unfold HpacCorrections.stecs at hmem
  cases hstec : c.stec with
  | none =>
    rw [hstec] at hmem
    exact absurd hmem List.not_mem_nil
  | some stec =>
    rw [hstec] at hmem
    obtain ⟨element, helement, hgnss, hsome⟩ :=
      mem_hpacElements_stec.1 (stec_mem_hpacElements hfind hstec)
    exact ⟨element, helement, hgnss, stec, hsome, satellite, hmem, rfl, hpoor⟩

/-! ### What the loop flags -/

section Loop

variable {build : Build} {cfg : Config} {sets : Table ℕ CorrectionPointSet} {lib : Library}

/-- The corrections of these messages whose set is known flag their satellites. -/
theorem hpacMessages_data {siou iod : ℕ} {data data' : CorrectionData}
    {messages : List HpacCorrections} {out : List Message}
    (h : hpacMessages build cfg sets siou iod data messages = .ok (data', out)) :
    data' = { data with stecDnuSatellites := data'.stecDnuSatellites } ∧
      ∀ x, x ∈ data'.stecDnuSatellites ↔ x ∈ data.stecDnuSatellites ∨
        ∃ c ∈ messages, (sets.lookup c.setId).isSome ∧ x ∈ flaggedSatellites cfg c := by
  induction messages generalizing data data' out with
  | nil =>
    cases h
    exact ⟨rfl, fun x => by simp⟩
  | cons c rest ih =>
    unfold hpacMessages at h
    cases hset : sets.lookup c.setId with
    | none =>
      rw [hset] at h
      obtain ⟨hrest, hmem⟩ := ih h
      refine ⟨hrest, fun x => (hmem x).trans ?_⟩
      simp [hset]
    | some set =>
      rw [hset] at h
      obtain ⟨message, -, h⟩ := bind_eq_ok.1 h
      obtain ⟨hpacs, hhpacs, heq⟩ := bind_eq_ok.1 h
      cases heq
      obtain ⟨hrest, hmem⟩ := ih hhpacs
      refine ⟨hrest, fun x => (hmem x).trans ?_⟩
      simp [hset, or_assoc]

theorem generateHpac_data {siou iod : ℕ} {data data' : CorrectionData} {out : List Message}
    (h : generateHpac build cfg sets lib siou iod data = .ok (data', out)) :
    data' = { data with stecDnuSatellites := data'.stecDnuSatellites } ∧
      ∀ x, x ∈ data'.stecDnuSatellites ↔ x ∈ data.stecDnuSatellites ∨
        ∃ c ∈ data.hpacCandidates cfg iod,
          (sets.lookup c.setId).isSome ∧ x ∈ flaggedSatellites cfg c := by
  unfold generateHpac at h
  unfold CorrectionData.hpacCandidates
  cases hhpac : data.hpac iod with
  | none =>
    rw [hhpac] at h
    cases h
    exact ⟨rfl, fun x => by simp⟩
  | some hpacData =>
    rw [hhpac] at h
    obtain ⟨messages, hsort, h⟩ := bind_eq_ok.1 h
    obtain ⟨-, rfl⟩ := sortBySubtype_eq_ok.1 hsort
    obtain ⟨hrest, hmem⟩ := hpacMessages_data h
    refine ⟨hrest, fun x => (hmem x).trans (or_congr_right ?_)⟩
    have hperm := (lib.hpacSorting.perm _).trans
      (hpacCandidates_perm cfg lib.hpacIteration hpacData.pairs)
    exact exists_congr fun c => and_congr_left fun _ => hperm.mem_iff

/-- One round of the loop over the issues of data. -/
theorem generateIod_data {generation generation' : Generation} {iod : ℕ}
    (h : generateIod build sets cfg lib generation iod = .ok generation') :
    generation'.mCorrectionData = { generation.mCorrectionData with
        stecDnuSatellites := generation'.mCorrectionData.stecDnuSatellites } ∧
      ∀ x, x ∈ generation'.mCorrectionData.stecDnuSatellites ↔
        x ∈ generation.mCorrectionData.stecDnuSatellites ∨
          cfg.mGenerateHpac = true ∧ ∃ c ∈ generation.mCorrectionData.hpacCandidates cfg iod,
            (sets.lookup c.setId).isSome ∧ x ∈ flaggedSatellites cfg c := by
  unfold generateIod at h
  obtain ⟨gads, -, h⟩ := bind_eq_ok.1 h
  obtain ⟨⟨data, out⟩, hhpacs, h⟩ := bind_eq_ok.1 h
  obtain ⟨ocbs, -, h⟩ := bind_eq_ok.1 h
  cases h
  by_cases hgenerate : cfg.mGenerateHpac = true
  · rw [if_pos hgenerate] at hhpacs
    obtain ⟨hrest, hmem⟩ := generateHpac_data hhpacs
    exact ⟨hrest, fun x => (hmem x).trans (by simp [hgenerate])⟩
  · rw [if_neg hgenerate] at hhpacs
    cases hhpacs
    exact ⟨rfl, fun x => by simp [hgenerate]⟩

/-- **The loop.**  After some issues of data, the satellites that their HPAC messages flag are
flagged, and nothing else has changed. -/
theorem stecDnuSatellites_foldlM {iods : List ℕ} {generation generation' : Generation}
    (h : iods.foldlM (generateIod build sets cfg lib) generation = .ok generation') :
    generation'.mCorrectionData = { generation.mCorrectionData with
        stecDnuSatellites := generation'.mCorrectionData.stecDnuSatellites } ∧
      ∀ x, x ∈ generation'.mCorrectionData.stecDnuSatellites ↔
        x ∈ generation.mCorrectionData.stecDnuSatellites ∨
          cfg.mGenerateHpac = true ∧ ∃ iod ∈ iods,
            ∃ c ∈ generation.mCorrectionData.hpacCandidates cfg iod,
              (sets.lookup c.setId).isSome ∧ x ∈ flaggedSatellites cfg c := by
  induction iods generalizing generation with
  | nil =>
    cases h
    exact ⟨rfl, fun x => by simp⟩
  | cons iod iods ih =>
    rw [List.foldlM_cons] at h
    obtain ⟨next, hnext, h⟩ := bind_eq_ok.1 h
    obtain ⟨hround, hmem⟩ := generateIod_data hnext
    obtain ⟨hrest, hmem'⟩ := ih h
    have hcandidates : ∀ iod', next.mCorrectionData.hpacCandidates cfg iod' =
        generation.mCorrectionData.hpacCandidates cfg iod' := by
      intro iod'
      rw [hround]
      rfl
    refine ⟨?_, fun x => ?_⟩
    · rw [hrest, hround]
    · rw [hmem' x, hmem x, or_assoc]
      simp only [hcandidates, List.exists_mem_cons_iff, and_or_left]

end Loop

/-! ### The OCB messages of a call -/

section Sent

variable (build : Build) (cfg : Config) (lib : Library) (generator : Generator)
  (assistData : SsrAssistData)

/-- The call sends an OCB message with these corrections for the issue of data, and computes
its bits with `data`. -/
def OcbSent (iod : ℕ) (corrections : OcbCorrections) (data : CorrectionData) : Prop :=
  cfg.mGenerateOcb = true ∧ corrections ∈ data.ocbCandidates cfg iod ∧ corrections.timeTag ≠ 0 ∧
    ∃ generator' start pre post generation,
      generator.findCorrectionPointSet build cfg assistData = .ok generator' ∧
      correctionData cfg assistData = .ok start ∧ start.iods = pre ++ iod :: post ∧
      (pre ++ [iod]).foldlM (generateIod build generator'.mCorrectionPointSets cfg lib)
        ⟨generator'.mSiouIndex, start, []⟩ = .ok generation ∧
      data = generation.mCorrectionData

/-- The generator knows the correction point set, from before or from this message. -/
def KnownSet (setId : ℕ) : Prop :=
  ∃ generator', generator.findCorrectionPointSet build cfg assistData = .ok generator' ∧
    (generator'.mCorrectionPointSets.lookup setId).isSome

end Sent

/-! ### The order of the issues of data -/

theorem iods_sorted (data : CorrectionData) : data.iods.Pairwise (· < ·) := by
  unfold CorrectionData.iods
  have hle := List.pairwise_insertionSort (· ≤ ·) (data.ocbData.keys ++ data.hpacData.keys).dedup
  have hnodup : ((data.ocbData.keys ++ data.hpacData.keys).dedup.insertionSort (· ≤ ·)).Nodup :=
    (List.perm_insertionSort _ _).nodup_iff.2 (List.nodup_dedup _)
  exact (hle.and hnodup).imp fun h => lt_of_le_of_ne h.1 h.2

theorem mem_iods_of_candidate {data : CorrectionData} {cfg : Config} {iod : ℕ}
    {c : HpacCorrections} (h : c ∈ data.hpacCandidates cfg iod) : iod ∈ data.iods := by
  obtain ⟨key, hfind, -⟩ := mem_hpacCandidates.1 h
  unfold CorrectionData.iods
  rw [List.mem_insertionSort, List.mem_dedup, List.mem_append]
  obtain ⟨hpacData, hlookup, -⟩ := Option.bind_eq_some_iff.1 hfind
  exact Or.inr (Table.mem_of_lookup hlookup)

/-- The issues of data that the loop has gone through are those up to the current one. -/
theorem mem_rounds_iff {data : CorrectionData} {pre post : List ℕ} {iod iod' : ℕ}
    (h : data.iods = pre ++ iod :: post) :
    iod' ∈ pre ++ [iod] ↔ iod' ∈ data.iods ∧ iod' ≤ iod := by
  have hsorted := iods_sorted data
  rw [h, List.pairwise_append, List.pairwise_cons] at hsorted
  obtain ⟨-, ⟨hpost, -⟩, hpre⟩ := hsorted
  rw [h]
  simp only [List.mem_append, List.mem_cons, List.not_mem_nil, or_false]
  constructor
  · rintro (hmem | rfl)
    · exact ⟨Or.inl hmem, (hpre iod' hmem iod List.mem_cons_self).le⟩
    · exact ⟨Or.inr (Or.inl rfl), le_refl _⟩
  · rintro ⟨hmem | rfl | hmem, hle⟩
    · exact Or.inl hmem
    · exact Or.inr rfl
    · exact absurd (hpost iod' hmem) (not_lt.2 hle)

/-! ### Completeness -/

section Complete

variable (build : Build) (cfg : Config) (lib : Library) (generator : Generator)
  (assistData : SsrAssistData)

/-- In every OCB message of the call, the do-not-use bit of a satellite is set exactly when the
satellite is listed as bad, or some STEC correction of the message is poor for it. -/
def DoNotUseComplete : Prop :=
  ∀ iod c data, OcbSent build cfg lib generator assistData iod c data →
    ∀ satellite ∈ c.satellites,
      (!doUseSatellite cfg data c.gnssId satellite.id) = true ↔
        data.canUseSatellite c.gnssId satellite.id = false ∨
          PoorStec cfg assistData c.gnssId satellite.id

/-- Each satellite of an OCB message of the call with a poor correction is listed as bad, or an
HPAC message for a known set and no later issue of data flags it. -/
def FlaggedInTime : Prop :=
  ∀ iod c data, OcbSent build cfg lib generator assistData iod c data →
    ∀ satellite ∈ c.satellites, PoorStec cfg assistData c.gnssId satellite.id →
      data.canUseSatellite c.gnssId satellite.id = false ∨
        cfg.mGenerateHpac = true ∧ ∃ iod' ≤ iod, ∃ c' ∈ data.hpacCandidates cfg iod',
          KnownSet build cfg generator assistData c'.setId ∧ c'.gnssId = c.gnssId ∧
            ∃ element ∈ c'.stecs, element.svId = satellite.id ∧ Poor cfg element

variable {build cfg lib generator assistData}

/-- What is flagged when an OCB message is sent. -/
theorem mem_stecDnuSatellites {iod : ℕ} {c : OcbCorrections} {data : CorrectionData}
    (h : OcbSent build cfg lib generator assistData iod c data)
    (hthreshold : 0 ≤ cfg.mIonoQualityThreshold) {gnssId : GnssId} {id : SvId} :
    (gnssId, id) ∈ data.stecDnuSatellites ↔
      cfg.mGenerateHpac = true ∧ ∃ iod' ≤ iod, ∃ c' ∈ data.hpacCandidates cfg iod',
        KnownSet build cfg generator assistData c'.setId ∧ c'.gnssId = gnssId ∧
          ∃ element ∈ c'.stecs, element.svId = id ∧ Poor cfg element := by
  obtain ⟨-, -, -, known, start, pre, post, round, hknown, hstart, hiods, hround, rfl⟩ := h
  obtain ⟨hrest, hmem⟩ := stecDnuSatellites_foldlM hround
  have hcandidates : ∀ iod', round.mCorrectionData.hpacCandidates cfg iod' =
      start.hpacCandidates cfg iod' := by
    intro iod'
    rw [hrest]
    rfl
  have hnew : start.stecDnuSatellites = [] := by
    obtain ⟨integrity, hloop, hdata⟩ := bind_eq_ok.1 hstart
    rw [foldl_find_eq] at hloop
    have hkeep : integrity.stecDnuSatellites = [] := by
      apply foldlM_induction (p := fun data : CorrectionData => data.stecDnuSatellites = []) hloop
        rfl
      rintro element - data data' hone hdata
      obtain ⟨rti, rfl⟩ := findRtiCorrections_keeps hone
      exact hdata
    cases hdata
    unfold applyServiceAlert
    split
    · split <;> exact hkeep
    · exact hkeep
  have hset : ∀ setId, KnownSet build cfg generator assistData setId ↔
      (known.mCorrectionPointSets.lookup setId).isSome := by
    intro setId
    unfold KnownSet
    rw [hknown]
    exact ⟨fun ⟨_, h, hsome⟩ => by cases h; exact hsome, fun hsome => ⟨known, rfl, hsome⟩⟩
  rw [hmem, hnew]
  simp only [List.not_mem_nil, false_or, mem_flaggedSatellites hthreshold, hcandidates, hset]
  refine and_congr_right fun _ => exists_congr fun iod' => ?_
  constructor
  · rintro ⟨hiod', c', hc', hrest⟩
    exact ⟨((mem_rounds_iff hiods).1 hiod').2, c', hc', hrest⟩
  · rintro ⟨hle, c', hc', hrest⟩
    exact ⟨(mem_rounds_iff hiods).2 ⟨mem_iods_of_candidate hc', hle⟩, c', hc', hrest⟩

theorem doUseSatellite_eq_false_iff (hdnu : cfg.mDoNotUseSatellite = true)
    {data : CorrectionData} {gnssId : GnssId} {id : SvId} :
    (!doUseSatellite cfg data gnssId id) = true ↔
      data.canUseSatellite gnssId id = false ∨ (gnssId, id) ∈ data.stecDnuSatellites := by
  unfold doUseSatellite
  rw [hdnu]
  cases data.canUseSatellite gnssId id <;> simp

/-- With do-not-use handling and a threshold: the bits are complete if and only if every poor
satellite is flagged in time. -/
theorem doNotUseComplete_iff (hdnu : cfg.mDoNotUseSatellite = true)
    (hthreshold : 0 ≤ cfg.mIonoQualityThreshold) :
    DoNotUseComplete build cfg lib generator assistData ↔
      FlaggedInTime build cfg lib generator assistData := by
  refine forall₄_congr fun iod c data hsent => forall₂_congr fun satellite _ => ?_
  rw [doUseSatellite_eq_false_iff hdnu, mem_stecDnuSatellites hsent hthreshold]
  -- what an HPAC message flags has a poor correction in the message
  have hpoor : (cfg.mGenerateHpac = true ∧ ∃ iod' ≤ iod, ∃ c' ∈ data.hpacCandidates cfg iod',
      KnownSet build cfg generator assistData c'.setId ∧ c'.gnssId = c.gnssId ∧
        ∃ element ∈ c'.stecs, element.svId = satellite.id ∧ Poor cfg element) →
      PoorStec cfg assistData c.gnssId satellite.id := by
    rintro ⟨-, iod', -, c', hc', -, hgnss, element, helement, hid, hpoor⟩
    obtain ⟨-, -, -, known, start, pre, post, round, -, hstart, -, hround, rfl⟩ := hsent
    have hhpac : round.mCorrectionData.hpacData = collectedHpac assistData := by
      rw [(stecDnuSatellites_foldlM hround).1]
      exact (correctionData_eq hstart).2.1
    have := poorStec_of_candidate hhpac hc' helement hpoor
    rwa [hgnss, hid] at this
  constructor
  · intro hcomplete hsome
    exact hcomplete.2 (Or.inr hsome)
  · intro hflagged
    constructor
    · rintro (hbad | hflag)
      · exact Or.inl hbad
      · exact Or.inr (hpoor hflag)
    · rintro (hbad | hsome)
      · exact Or.inl hbad
      · exact hflagged hsome

end Complete

/-! ### A satellite that is flagged too late -/

/-- The library that keeps the order of a container and sorts by insertion. -/
def Library.plain : Library where
  ocbIteration := ⟨id, fun _ => List.Perm.refl _⟩
  hpacIteration := ⟨id, fun _ => List.Perm.refl _⟩
  ocbSorting :=
    { sort := List.insertionSort fun a b => subtypeOf a.gnssId ≤ subtypeOf b.gnssId
      perm := List.perm_insertionSort _
      sorted := by
        intro l
        have htotal : Std.Total fun a b : OcbCorrections =>
            subtypeOf a.gnssId ≤ subtypeOf b.gnssId := ⟨fun a b => le_total _ _⟩
        have htrans : IsTrans OcbCorrections fun a b =>
            subtypeOf a.gnssId ≤ subtypeOf b.gnssId := ⟨fun a b c => le_trans⟩
        exact List.pairwise_insertionSort _ _ }
  hpacSorting :=
    { sort := List.insertionSort fun a b => subtypeOf a.gnssId ≤ subtypeOf b.gnssId
      perm := List.perm_insertionSort _
      sorted := by
        intro l
        have htotal : Std.Total fun a b : HpacCorrections =>
            subtypeOf a.gnssId ≤ subtypeOf b.gnssId := ⟨fun a b => le_total _ _⟩
        have htrans : IsTrans HpacCorrections fun a b =>
            subtypeOf a.gnssId ≤ subtypeOf b.gnssId := ⟨fun a b c => le_trans⟩
        exact List.pairwise_insertionSort _ _ }

/-- The default configuration, with a threshold. -/
def thresholdConfig : Config := { Config.new with mIonoQualityThreshold := 1 }

/-- Noon of a day in 2023, in GPS time. -/
def lateEpoch : GnssSystemTime := ⟨.gps, ⟨16000, Integer.mem⟩, ⟨43200, Integer.mem⟩, none⟩

def lateClock : GnssSsrClockCorrections :=
  ⟨lateEpoch, ⟨0, Integer.mem⟩,
    ⟨[⟨⟨4, Integer.mem⟩, ⟨10, Integer.mem_neg⟩, none, none⟩], by decide⟩⟩

def lateStec : GnssSsrStecCorrection :=
  ⟨lateEpoch, ⟨1, Integer.mem⟩, ⟨7, Integer.mem⟩,
    ⟨[⟨⟨4, Integer.mem⟩, .ofBits [true, true, true, true, true, false], ⟨0, Integer.mem_neg⟩,
      none, none, none⟩], by decide⟩⟩

/-- A clock correction of the issue 0 and a poor STEC correction of the issue 1, for one GPS
satellite. -/
def lateAssistData : SsrAssistData :=
  ⟨none, some ⟨[⟨.gps, none, none, some lateClock, none, none, none, some lateStec, none⟩],
    by decide⟩⟩

def lateCorrections : OcbCorrections :=
  { OcbCorrections.new with
    epochTime := spartnTimeFrom lateEpoch
    clock := some lateClock }

theorem correctionData_late :
    correctionData thresholdConfig lateAssistData = .ok (collected lateAssistData) := rfl

theorem iods_late : (collected lateAssistData).iods = [0, 1] := by decide

theorem ocbCandidates_late :
    (collected lateAssistData).ocbCandidates thresholdConfig 0 = [lateCorrections] := rfl

theorem timeTag_late : lateCorrections.timeTag ≠ 0 := by
  decide +kernel

/-- The round of the first issue of data: there is no HPAC message yet. -/
theorem finishes_round_late :
    Finishes (generateIod .checked ∅ thresholdConfig .plain
      ⟨1, collected lateAssistData, []⟩ 0) := by
  have hocb : Finishes (generateOcb thresholdConfig (collected lateAssistData) .plain 0 0) := by
    rw [finishes_generateOcb, ocbCandidates_late]
    refine ⟨fun hlen => absurd hlen (by decide), fun c hc _ => ?_⟩
    rw [List.mem_singleton.1 hc]
    decide
  obtain ⟨ocbs, hocbs⟩ := hocb
  exact finishes_bind.2 ⟨[], rfl, finishes_bind.2 ⟨(collected lateAssistData, []), rfl,
    finishes_bind.2 ⟨ocbs, hocbs, finishes_pure _⟩⟩⟩

theorem poorStec_late : PoorStec thresholdConfig lateAssistData .gps ⟨4, by decide⟩ := by
  refine ⟨_, List.mem_singleton.2 rfl, rfl, lateStec, rfl, _, List.mem_singleton.2 rfl, rfl, ?_⟩
  decide +kernel

/-- The default configuration with a threshold: the satellite is sent as usable. -/
theorem not_doNotUseComplete_late :
    ¬DoNotUseComplete .checked thresholdConfig .plain .new lateAssistData := by
  intro h
  obtain ⟨round, hround⟩ := finishes_round_late
  obtain ⟨hrest, hmem⟩ := generateIod_data hround
  have hcandidates : round.mCorrectionData.ocbCandidates thresholdConfig 0 = [lateCorrections] := by
    rw [hrest]
    exact ocbCandidates_late
  have hsent : OcbSent .checked thresholdConfig .plain .new lateAssistData 0 lateCorrections
      round.mCorrectionData := by
    refine ⟨rfl, ?_, timeTag_late, .new, collected lateAssistData, [], [1], round, rfl,
      correctionData_late, iods_late, ?_, rfl⟩
    · rw [hcandidates]
      exact List.mem_singleton.2 rfl
    · exact foldlM_snoc (l := []) rfl hround
  have hbit := (h 0 lateCorrections _ hsent _ (List.mem_singleton.2 rfl)).2 (Or.inr poorStec_late)
  rw [doUseSatellite_eq_false_iff rfl] at hbit
  rcases hbit with hbad | hflag
  · rw [hrest] at hbad
    exact Bool.false_ne_true hbad.symm
  · rcases (hmem _).1 hflag with hold | ⟨-, c, hc, -⟩
    · exact absurd hold List.not_mem_nil
    · exact absurd hc List.not_mem_nil

theorem doNotUseComplete_iff_late :
    DoNotUseComplete .checked thresholdConfig .plain .new lateAssistData ↔
      FlaggedInTime .checked thresholdConfig .plain .new lateAssistData :=
  doNotUseComplete_iff rfl (by decide +kernel)

end SuplLpp.Spartn
