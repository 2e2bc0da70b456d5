import SuplLpp.Spartn.Grouping

/-!
# The messages of a round

What a message that the generator sends was made from.

* `SentBy`: the three kinds of messages that a round of the loop over the issues of data sends;
* `mem_generateGads`, `mem_generateHpac`, `mem_generateOcb`: a message of a kind, traced back to
  its corrections;
* `mem_generateIod`, `exists_round`: every message of a call is sent by one of its rounds.
-/

namespace SuplLpp.Spartn

open Asn Fallible MessageBuilder

/-! ### One kind of messages -/

section Kinds

variable {build : Build} {cfg : Config} {sets : Table ℕ CorrectionPointSet} {lib : Library}
  {siou iod : ℕ} {data : CorrectionData}

theorem mem_generateGads {hpacData : List (HpacKey × HpacCorrections)} {out : List Message}
    (h : generateGads build sets siou hpacData = .ok out) {m : Message} (hm : m ∈ out) :
    ∃ kvp ∈ hpacData, ∃ set, sets.lookup kvp.1.setId = some set ∧
      ∃ epochTime, findGadEpochTime hpacData = some epochTime ∧
        ∃ payload, gadPayload build siou set = .ok payload ∧
          m = MessageBuilder.build 2 0 epochTime.roundedSeconds payload := by
  unfold generateGads at h
  cases htime : findGadEpochTime hpacData with
  | none =>
    rw [htime] at h
    cases h
    exact absurd hm List.not_mem_nil
  | some epochTime =>
    rw [htime] at h
    obtain ⟨messages, hmessages, h⟩ := bind_eq_ok.1 h
    cases h
    obtain ⟨gads, hgads, hm⟩ := List.mem_flatten.1 hm
    obtain ⟨setId, hsetId, hgad⟩ := exists_of_mem_mapM hmessages hgads
    obtain ⟨kvp, hkvp, rfl⟩ := mem_setIds.1 hsetId
    unfold generateGad at hgad
    cases hset : sets.lookup kvp.1.setId with
    | none =>
      rw [hset] at hgad
      cases hgad
      exact absurd hm List.not_mem_nil
    | some set =>
      rw [hset] at hgad
      obtain ⟨payload, hpayload, hgad⟩ := bind_eq_ok.1 hgad
      cases hgad
      exact ⟨kvp, hkvp, set, hset, epochTime, rfl, payload, hpayload, List.mem_singleton.1 hm⟩

theorem mem_generateHpac {data' : CorrectionData} {out : List Message}
    (h : generateHpac build cfg sets lib siou iod data = .ok (data', out)) {m : Message}
    (hm : m ∈ out) :
    ∃ c ∈ data.hpacCandidates cfg iod, ∃ set, sets.lookup c.setId = some set ∧
      ∃ flagged, hpacMessage build cfg { data with stecDnuSatellites := flagged } siou iod set c =
        .ok m := by
  rw [← generateHpacBy_eq] at h
  exact mem_generateHpacBy h hm

theorem mem_ocbMessages {messages : List OcbCorrections} {out : List Message}
    (h : ocbMessages cfg data siou messages = .ok out) {m : Message} (hm : m ∈ out) :
    ∃ c ∈ messages, c.timeTag ≠ 0 ∧ ∃ eos, ocbMessage cfg data siou eos c = .ok m := by
  induction messages generalizing out with
  | nil =>
    cases h
    exact absurd hm List.not_mem_nil
  | cons c rest ih =>
    unfold ocbMessages at h
    by_cases htag : c.timeTag = 0
    · rw [if_pos htag] at h
      obtain ⟨c', hc', hsent⟩ := ih h hm
      exact ⟨c', List.mem_cons_of_mem c hc', hsent⟩
    · rw [if_neg htag] at h
      obtain ⟨message, hmessage, h⟩ := bind_eq_ok.1 h
      obtain ⟨rest', hrest, h⟩ := bind_eq_ok.1 h
      cases h
      rcases List.mem_cons.1 hm with rfl | hm
      · exact ⟨c, List.mem_cons_self, htag, _, hmessage⟩
      · obtain ⟨c', hc', hsent⟩ := ih hrest hm
        exact ⟨c', List.mem_cons_of_mem c hc', hsent⟩

theorem mem_generateOcb {out : List Message}
    (h : generateOcb cfg data lib siou iod = .ok out) {m : Message} (hm : m ∈ out) :
    ∃ c ∈ data.ocbCandidates cfg iod, c.timeTag ≠ 0 ∧
      ∃ eos, ocbMessage cfg data siou eos c = .ok m := by
  unfold generateOcb at h
  unfold CorrectionData.ocbCandidates
  cases hocb : data.ocb iod with
  | none =>
    rw [hocb] at h
    cases h
    exact absurd hm List.not_mem_nil
  | some ocbData =>
    rw [hocb] at h
    obtain ⟨messages, hsort, h⟩ := bind_eq_ok.1 h
    obtain ⟨-, rfl⟩ := sortBySubtype_eq_ok.1 hsort
    obtain ⟨c, hc, hsent⟩ := mem_ocbMessages h hm
    have hperm := (lib.ocbSorting.perm _).trans
      (ocbCandidates_perm cfg lib.ocbIteration ocbData.pairs)
    exact ⟨c, hperm.mem_iff.1 hc, hsent⟩

end Kinds

/-! ### A round -/

section Round

variable (build : Build) (cfg : Config) (sets : Table ℕ CorrectionPointSet) (lib : Library)

/-- The round of the issue of data sends the message, with the corrections `data` at its start
and `data'` at its end. -/
inductive SentBy (siou iod : ℕ) (data data' : CorrectionData) (m : Message) : Prop
  | gad {hpacData : HpacData} {kvp : HpacKey × HpacCorrections} {set : CorrectionPointSet}
      {epochTime : SpartnTime} {payload : List Bool} (on : cfg.mGenerateGad = true)
      (corrections : data.hpac iod = some hpacData) (mem : kvp ∈ hpacData.pairs)
      (known : sets.lookup kvp.1.setId = some set)
      (epoch : findGadEpochTime (lib.hpacIteration.order hpacData.pairs) = some epochTime)
      (bits : gadPayload build siou set = .ok payload)
      (eq : m = MessageBuilder.build 2 0 epochTime.roundedSeconds payload)
  | hpac {c : HpacCorrections} {set : CorrectionPointSet} {flagged : List (GnssId × SvId)}
      (on : cfg.mGenerateHpac = true) (mem : c ∈ data.hpacCandidates cfg iod)
      (known : sets.lookup c.setId = some set)
      (eq : hpacMessage build cfg { data with stecDnuSatellites := flagged } siou iod set c = .ok m)
  | ocb {c : OcbCorrections} {eos : Bool} (on : cfg.mGenerateOcb = true)
      (mem : c ∈ data'.ocbCandidates cfg iod) (tag : c.timeTag ≠ 0)
      (eq : ocbMessage cfg data' siou eos c = .ok m)

variable {build cfg sets lib}

theorem mem_generateIod {generation generation' : Generation} {iod : ℕ}
    (h : generateIod build sets cfg lib generation iod = .ok generation') {m : Message}
    (hm : m ∈ generation'.mMessages) :
    m ∈ generation.mMessages ∨ ∃ siou, SentBy build cfg sets lib siou iod
      generation.mCorrectionData generation'.mCorrectionData m := by
  unfold generateIod at h
  obtain ⟨gads, hgads, h⟩ := bind_eq_ok.1 h
  obtain ⟨⟨data, out⟩, hhpacs, h⟩ := bind_eq_ok.1 h
  obtain ⟨ocbs, hocbs, h⟩ := bind_eq_ok.1 h
  cases h
  simp only [List.mem_append] at hm
  rcases hm with ((hm | hm) | hm) | hm
  · exact Or.inl hm
  · right
    cases hhpac : generation.mCorrectionData.hpac iod with
    | none =>
      rw [hhpac] at hgads
      cases hgads
      exact absurd hm List.not_mem_nil
    | some hpacData =>
      rw [hhpac] at hgads
      dsimp only at hgads
      by_cases hgenerate : cfg.mGenerateGad = true
      · rw [if_pos hgenerate] at hgads
        obtain ⟨kvp, hkvp, set, hset, epochTime, hepoch, payload, hpayload, heq⟩ :=
          mem_generateGads hgads hm
        exact ⟨_, .gad hgenerate hhpac ((lib.hpacIteration.perm _).mem_iff.1 hkvp) hset hepoch
          hpayload heq⟩
      · rw [if_neg hgenerate] at hgads
        cases hgads
        exact absurd hm List.not_mem_nil
  · right
    by_cases hgenerate : cfg.mGenerateHpac = true
    · rw [if_pos hgenerate] at hhpacs
      obtain ⟨c, hc, set, hset, flagged, hmessage⟩ := mem_generateHpac hhpacs hm
      exact ⟨_, .hpac hgenerate hc hset hmessage⟩
    · rw [if_neg hgenerate] at hhpacs
      cases hhpacs
      exact absurd hm List.not_mem_nil
  · right
    by_cases hgenerate : cfg.mGenerateOcb = true
    · rw [if_pos hgenerate] at hocbs
      obtain ⟨c, hc, htag, eos, hmessage⟩ := mem_generateOcb hocbs hm
      exact ⟨_, .ocb hgenerate hc htag hmessage⟩
    · rw [if_neg hgenerate] at hocbs
      cases hocbs
      exact absurd hm List.not_mem_nil

/-- Every message of a call is sent by one of the rounds. -/
theorem exists_round {generator generator' : Generator} {assistData : SsrAssistData}
    {messages : List Message}
    (h : generator.generateFrom build cfg lib assistData = .ok (generator', messages))
    {m : Message} (hm : m ∈ messages) :
    ∃ known start pre iod post before round siou,
      generator.findCorrectionPointSet build cfg assistData = .ok known ∧
      correctionData cfg assistData = .ok start ∧ start.iods = pre ++ iod :: post ∧
      pre.foldlM (generateIod build known.mCorrectionPointSets cfg lib)
        ⟨known.mSiouIndex, start, []⟩ = .ok before ∧
      generateIod build known.mCorrectionPointSets cfg lib before iod = .ok round ∧
      SentBy build cfg known.mCorrectionPointSets lib siou iod before.mCorrectionData
        round.mCorrectionData m := by
  obtain ⟨known, hknown, h⟩ := bind_eq_ok.1 h
  obtain ⟨start, hstart, h⟩ := bind_eq_ok.1 h
  obtain ⟨generation, hloop, h⟩ := bind_eq_ok.1 h
  cases h
  -- the round in which the message was generated
  obtain ⟨pre, iod, post, before, round, heq, hpre, hround, hnot, hmem⟩ :=
    foldlM_first (p := fun generation : Generation => m ∈ generation.mMessages) hloop
      List.not_mem_nil hm
  obtain hbefore | ⟨siou, hsent⟩ := mem_generateIod hround hmem
  · exact absurd hbefore hnot
  · exact ⟨known, start, pre, iod, post, before, round, siou, hknown, hstart, heq, hpre, hround,
      hsent⟩

end Round

/-! ### The header of a message -/

theorem header_ocbMessage {cfg : Config} {data : CorrectionData} {siou : ℕ} {eos : Bool}
    {c : OcbCorrections} {m : Message} (h : ocbMessage cfg data siou eos c = .ok m) :
    m.mMessageType = 0 ∧ m.mMessageTime = c.timeTag.toUInt32 := by
  obtain ⟨subtype, -, h⟩ := bind_eq_ok.1 h
  obtain ⟨payload, -, h⟩ := bind_eq_ok.1 h
  cases h
  exact ⟨rfl, rfl⟩

theorem header_hpacMessage {build : Build} {cfg : Config} {data : CorrectionData} {siou iod : ℕ}
    {set : CorrectionPointSet} {c : HpacCorrections} {m : Message}
    (h : hpacMessage build cfg data siou iod set c = .ok m) :
    m.mMessageType = 1 ∧ m.mMessageTime = c.timeTag.toUInt32 := by
  obtain ⟨subtype, -, h⟩ := bind_eq_ok.1 h
  obtain ⟨payload, -, h⟩ := bind_eq_ok.1 h
  cases h
  exact ⟨rfl, rfl⟩

end SuplLpp.Spartn
