import SuplLpp.Spartn.OcbFilter
import SuplLpp.Spartn.Surface
import SuplLpp.Spartn.TimeTags

/-!
# What the messages of a call convey

* `OcbBits`, `HpacBits`: the satellites of a message, and the blocks of bits that they have in it;
* `Filtered`: the satellites of an HPAC message against the OCB corrections of the same epoch;
* `Conveyed`: a message with the corrections that it was made from;
* `conveyed_of_mem`: every message of a call is one of these.
-/

namespace SuplLpp.Spartn

open Asn Fallible MessageBuilder

/-! ### The satellites of a message -/

section Blocks

variable (cfg : Config) (data : CorrectionData)

/-- An OCB message names its satellites in ascending order and has a block for each, which starts
with the do-not-use bit. -/
def OcbBits (c : OcbCorrections) (bits : List Bool) : Prop :=
  c.satellites.Pairwise (fun a b => a.id.1 < b.id.1) ∧
    ∃ before mask blocks pad, satelliteMask c.gnssId (c.satellites.map (·.id)) = .ok mask ∧
      bits = before ++ mask ++ blocks.flatten ++ pad ∧
      List.Forall₂ (fun satellite block => block.head? =
        some (!doUseSatellite cfg data c.gnssId satellite.id)) c.satellites blocks

/-- The bits of a satellite in an ionosphere block are the coefficients and the residuals of
`SentSatellite`, each in its field. -/
def StecBits (set : CorrectionPointSet) (c : HpacCorrections) (ocb : Option OcbCorrections)
    (satellite : HpacSatellite) (block : List Bool) : Prop :=
  ∃ element ∈ satellite.stec, ∃ header, ∃ size : Fin 4,
    ∃ coefficients residuals : List (DoubleField × Option ℚ),
      block = header ++ coefficients.flatMap entryBits ++
        (if computeIonosphereBlockType c = 2 then sf063 size ++ residuals.flatMap entryBits
        else []) ∧
      sentSatellite cfg set c ocb satellite element =
        ⟨coefficients.filterMap (·.2),
          if computeIonosphereBlockType c = 2 then residuals.map (·.2) else []⟩

/-- An HPAC message with an ionosphere block names the satellites that the filters leave, in
ascending order, and has a block for each. -/
def HpacBits (iod : ℕ) (set : CorrectionPointSet) (c : HpacCorrections) (bits : List Bool) : Prop :=
  ionosphereBlockType data c ≠ 0 →
    (blockSatellites groupByEpochTime cfg iod data set c).Pairwise
        (fun a b => a.id.1 < b.id.1) ∧
      ∃ before mask blocks pad, satelliteMask c.gnssId
          ((blockSatellites groupByEpochTime cfg iod data set c).map (·.id)) = .ok mask ∧
        bits = before ++ mask ++ blocks.flatten ++ pad ∧
        List.Forall₂ (StecBits cfg set c
            (filterCorrectionsBy groupByEpochTime cfg data iod c.gnssId c.timeTag))
          (blockSatellites groupByEpochTime cfg iod data set c) blocks

/-- For a constellation that keeps GPS time, the filter leaves the satellites that have OCB
corrections of the same epoch, where the LPP message has some. -/
def Filtered (assistData : SsrAssistData) (iod : ℕ) (set : CorrectionPointSet)
    (c : HpacCorrections) : Prop :=
  cfg.mFilterByOcb = true → gnssShift c.gnssId = 0 →
    (∃ entry ∈ ocbElements assistData, iod = ocbIod entry ∧ c.gnssId = entry.1 ∧
      c.epochTime.roundedSeconds = (spartnTimeFrom entry.2.epochTime).roundedSeconds) →
    ∃ ocb ∈ ocbAt groupByEpochTime iod data c, ∀ satellite,
      satellite ∈ blockSatellites groupByEpochTime cfg iod data set c ↔
        satellite ∈ c.satellites ∧ Eligible cfg set satellite ∧
          ocb.hasSatellite satellite.id = true

variable {cfg data}

theorem head_ocbSatellite {c : OcbCorrections} {satellite : OcbSatellite} {block : List Bool}
    (h : ocbSatellite cfg data c satellite = .ok block) :
    block.head? = some (!doUseSatellite cfg data c.gnssId satellite.id) := by
  obtain ⟨orbit, -, h⟩ := bind_eq_ok.1 h
  obtain ⟨bias, -, h⟩ := bind_eq_ok.1 h
  cases h
  rfl

theorem ocbMessage_bits {siou : ℕ} {eos : Bool} {c : OcbCorrections} {m : Message}
    (h : ocbMessage cfg data siou eos c = .ok m) :
    OcbBits cfg data c (Bits.bytesBits m.mPayload) := by
  obtain ⟨subtype, -, h⟩ := bind_eq_ok.1 h
  obtain ⟨payload, hpayload, h⟩ := bind_eq_ok.1 h
  cases h
  obtain ⟨ephemeris, -, hpayload⟩ := bind_eq_ok.1 hpayload
  obtain ⟨mask, hmask, hpayload⟩ := bind_eq_ok.1 hpayload
  obtain ⟨blocks, hblocks, hpayload⟩ := bind_eq_ok.1 hpayload
  cases hpayload
  exact ⟨c.satellites_sorted, _, mask, blocks, _, hmask, bytesBits_build ..,
    (mapM_eq_ok.1 hblocks).imp fun _ _ h => head_ocbSatellite h⟩

theorem stecBits_of_ionosphereSatellite {set : CorrectionPointSet} {c : HpacCorrections}
    {ocb : Option OcbCorrections} {satellite : HpacSatellite} {block : List Bool}
    (h : ionosphereSatellite cfg set (computeIonosphereBlockType c)
      (ionosphereEquationType cfg (ionosphereSatellites cfg set c ocb)) satellite = .ok block) :
    StecBits cfg set c ocb satellite block := by
  cases hstec : satellite.stec with
  | none =>
    unfold ionosphereSatellite at h
    rw [hstec] at h
    cases h
  | some element =>
    obtain ⟨header, size, coefficients, residuals, hbits, hsent⟩ :=
      ionosphereSatellite_eq cfg set c ocb hstec
    exact ⟨element, hstec, header, size, coefficients, residuals,
      Except.ok.inj (h.symm.trans hbits), hsent⟩

theorem ionosphereBlockType_eq {c : HpacCorrections} (h : ionosphereBlockType data c ≠ 0) :
    ionosphereBlockType data c = computeIonosphereBlockType c := by
  unfold ionosphereBlockType at h ⊢
  by_cases hdnu : data.ionosphereDnu = 1
  · rw [if_pos hdnu] at h
    exact absurd rfl h
  · exact if_neg hdnu

theorem hpacMessage_bits {build : Build} {siou iod : ℕ} {set : CorrectionPointSet}
    {c : HpacCorrections} {flagged : List (GnssId × SvId)} {m : Message}
    (h : hpacMessage build cfg { data with stecDnuSatellites := flagged } siou iod set c = .ok m) :
    HpacBits cfg data iod set c (Bits.bytesBits m.mPayload) := by
  intro htype
  obtain ⟨subtype, -, h⟩ := bind_eq_ok.1 h
  obtain ⟨payload, hpayload, h⟩ := bind_eq_ok.1 h
  obtain ⟨pad, hpad⟩ : ∃ pad, Bits.bytesBits m.mPayload = payload ++ pad := by
    cases h
    exact ⟨_, bytesBits_build ..⟩
  obtain ⟨header, -, hpayload⟩ := bind_eq_ok.1 hpayload
  obtain ⟨troposphere, -, hpayload⟩ := bind_eq_ok.1 hpayload
  obtain ⟨ionosphere, hblock, hpayload⟩ := bind_eq_ok.1 hpayload
  -- the flags of satellites have no part in the type of the block
  have htype' : ionosphereBlockType { data with stecDnuSatellites := flagged } c ≠ 0 := htype
  rw [if_pos htype', ionosphereBlockType_eq htype'] at hblock
  obtain ⟨mask, hmask, hblock⟩ := bind_eq_ok.1 hblock
  obtain ⟨blocks, hblocks, hblock⟩ := bind_eq_ok.1 hblock
  obtain ⟨equation, rfl⟩ : ∃ equation, ionosphere = equation ++ mask ++ blocks.flatten := by
    cases hblock
    exact ⟨_, rfl⟩
  cases hpayload
  refine ⟨c.satellites_sorted.filter _, header ++ troposphere ++ equation, mask, blocks, pad,
    hmask, ?_, (mapM_eq_ok.1 hblocks).imp fun _ _ h => stecBits_of_ionosphereSatellite h⟩
  rw [hpad]
  simp only [List.append_assoc]

end Blocks

/-! ### The messages of a call -/

section Conveyed

variable (build : Build) (cfg : Config) (lib : Library) (generator : Generator)
  (assistData : SsrAssistData)

/-- A message of a call, with the corrections that it was made from: it has the time tag of their
epochs and the bits of their satellites. -/
inductive Conveyed (m : Message) : Prop
  | ocb {iod : ℕ} {c : OcbCorrections} {data : CorrectionData}
      (sent : OcbSent build cfg lib generator assistData iod c data)
      (type : m.mMessageType = 0) (time : m.mMessageTime = c.timeTag.toUInt32)
      (epochs : ∀ e ∈ c.epochTimes, c.timeTag = spartnTimeForGnss (spartnTimeFrom e) c.gnssId)
      (bits : OcbBits cfg data c (Bits.bytesBits m.mPayload))
  | hpac {iod : ℕ} {c : HpacCorrections} {data : CorrectionData} {known : Generator}
      {set : CorrectionPointSet} (sent : HpacSent build cfg lib generator assistData iod c data)
      (type : m.mMessageType = 1) (time : m.mMessageTime = c.timeTag.toUInt32)
      (epochs : ∀ e ∈ c.epochTimes, c.timeTag = spartnTimeForGnss (spartnTimeFrom e) c.gnssId)
      (sets : generator.findCorrectionPointSet build cfg assistData = .ok known)
      (lookup : known.mCorrectionPointSets.lookup c.setId = some set)
      (bits : HpacBits cfg data iod set c (Bits.bytesBits m.mPayload))
      (filtered : Filtered cfg data assistData iod set c)
  | gad {iod : ℕ} {c : HpacCorrections} {data : CorrectionData}
      (sent : GadSent build cfg lib generator assistData iod c data)
      (type : m.mMessageType = 2) (time : m.mMessageTime = c.epochTime.roundedSeconds.toUInt32)
      (epochs : ∀ e ∈ c.epochTimes,
        c.epochTime.roundedSeconds = spartnTimeForGnss (spartnTimeFrom e) .gps)

variable {build cfg lib generator assistData}

theorem filtered_of_reached {iod : ℕ} {data : CorrectionData} {set : CorrectionPointSet}
    {c : HpacCorrections} {start : CorrectionData}
    (hstart : correctionData cfg assistData = .ok start)
    (hdata : data.ocbData = start.ocbData) (hc : c ∈ start.hpacCandidates cfg iod) :
    Filtered cfg data assistData iod set c := by
  rintro hfilter hshift ⟨entry, hentry, hiod, hgnss, hepoch⟩
  rw [← correctionDataBy_eq] at hstart
  have hat : ocbAt groupByEpochTime iod data c = ocbAt groupByEpochTime iod start c := by
    unfold ocbAt CorrectionData.ocb
    rw [hdata]
  obtain ⟨ocb, hocb⟩ := Option.isSome_iff_exists.1
    ((isSome_ocbAt hstart).2 ⟨entry, hentry, hiod, hgnss, fun _ => hepoch⟩)
  rw [← hat] at hocb
  have hlt := candidate_epoch_lt hstart hc
  have hfiltered : OcbFiltered groupByEpochTime cfg iod data set c :=
    (ocbFiltered_iff groupByEpochTime cfg iod hfilter hlt).2 (.inr (.inl hshift))
  obtain ⟨hhave, hstay⟩ := hfiltered ocb hocb
  refine ⟨ocb, hocb, fun satellite => ?_⟩
  constructor
  · intro hmem
    obtain ⟨hmem', heligible, -⟩ := (mem_blockSatellites groupByEpochTime cfg iod).1 hmem
    exact ⟨hmem', heligible, hhave satellite hmem⟩
  · rintro ⟨hmem, heligible, hhas⟩
    exact hstay satellite hmem heligible hhas

/-- **Every message of a call conveys corrections of its LPP message**, under the time tag of
their epochs, with the satellites in ascending order. -/
theorem conveyed_of_mem {generator' : Generator} {messages : List Message}
    (h : generator.generateFrom build cfg lib assistData = .ok (generator', messages)) :
    ∀ m ∈ messages, Conveyed build cfg lib generator assistData m := by
  intro m hm
  obtain ⟨known, start, pre, iod, post, before, round, siou, hknown, hstart, heq, hpre, hround,
    hsent⟩ := exists_round h hm
  have hreached : Reached build cfg lib generator assistData iod round.mCorrectionData :=
    ⟨known, start, pre, post, round, hknown, hstart, heq, foldlM_snoc hpre hround, rfl⟩
  have hdata := (generateIod_data hround).1
  cases hsent with
  | gad on corrections mem known' epoch bits hbuild =>
    obtain ⟨kvp, hkvp, hgps, hepoch⟩ := mem_of_findGadEpochTime epoch
    have hgad : GadSent build cfg lib generator assistData iod kvp.2 round.mCorrectionData := by
      refine ⟨on, ⟨_, ?_, ⟨kvp, (lib.hpacIteration.perm _).mem_iff.1 hkvp, rfl⟩,
        ⟨_, mem, known, hknown, by rw [known']; rfl⟩, hgps, hepoch ▸ epoch⟩, hreached⟩
      rw [hdata]
      exact corrections
    refine .gad hgad ?_ ?_ fun e he => timeTag_of_tagged (.gad hgad) he
    · rw [hbuild]
      rfl
    · rw [hbuild, hepoch]
      rfl
  | @hpac c set flagged on mem known' hmessage =>
    have hmem : c ∈ round.mCorrectionData.hpacCandidates cfg iod := by
      rw [hdata]
      exact mem
    have hhpac : HpacSent build cfg lib generator assistData iod c round.mCorrectionData :=
      ⟨on, hmem, ⟨known, hknown, by rw [known']; rfl⟩, hreached⟩
    have hbits : HpacBits cfg round.mCorrectionData iod set c (Bits.bytesBits m.mPayload) := by
      rw [hdata]
      exact hpacMessage_bits hmessage
    obtain ⟨hwhole, -⟩ := stecDnuSatellites_foldlM (foldlM_snoc hpre hround)
    have hfiltered : Filtered cfg round.mCorrectionData assistData iod set c := by
      rw [hwhole] at hmem
      exact filtered_of_reached hstart (by rw [hwhole]) hmem
    obtain ⟨htype, htime⟩ := header_hpacMessage hmessage
    exact .hpac hhpac htype htime (fun e he => timeTag_of_tagged (.hpac hhpac) he) hknown known'
      hbits hfiltered
  | ocb on mem tag hmessage =>
    have hocb : OcbSent build cfg lib generator assistData iod _ round.mCorrectionData :=
      ⟨on, mem, tag, hreached⟩
    obtain ⟨htype, htime⟩ := header_ocbMessage hmessage
    exact .ocb hocb htype htime (fun e he => timeTag_of_tagged (.ocb hocb) he)
      (ocbMessage_bits hmessage)

end Conveyed

/-! ### A call with a message of each kind -/

/-- The generator after a message with the set of one grid point. -/
def pointGenerator : Generator := { Generator.new with mCorrectionPointSets := pointSets }

/-- The kinds of the messages of a call, in order. -/
def kindsOf (result : Result (Generator × List Message)) : List ℕ :=
  match result with
  | .ok (_, messages) => messages.map (·.mMessageType.toNat)
  | .error _ => []

theorem kindsOf_clockAndStecs :
    kindsOf (pointGenerator.generateFrom .checked filterConfig .plain (clockAndStecs .gps)) =
      [2, 1, 0] := by
  decide +kernel

theorem conveyed_of_mem_gps : ∃ generator' messages,
    pointGenerator.generateFrom .checked filterConfig .plain (clockAndStecs .gps) =
      .ok (generator', messages) ∧
    messages.map (·.mMessageType.toNat) = [2, 1, 0] ∧
    ∀ m ∈ messages,
      Conveyed .checked filterConfig .plain pointGenerator (clockAndStecs .gps) m := by
  have hkinds := kindsOf_clockAndStecs
  cases hrun : pointGenerator.generateFrom .checked filterConfig .plain (clockAndStecs .gps) with
  | error e =>
    rw [hrun] at hkinds
    cases hkinds
  | ok result =>
    rw [hrun] at hkinds
    exact ⟨result.1, result.2, rfl, hkinds, conveyed_of_mem hrun⟩

end SuplLpp.Spartn
