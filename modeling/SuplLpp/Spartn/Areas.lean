import SuplLpp.Lib.Mealy
import SuplLpp.Spartn.Clean

/-!
# Area ids

A GAD message announces the area of a correction point set under an id, HPAC messages refer to
the set by that id.  The generator keeps its sets and counters over all calls.

* `Message.siou`, `Message.areaId`: the two fields, read from the bits of a GAD or HPAC message;
* `Preceded`: every HPAC message comes behind a GAD message with the same fields;
  `preceded_generateIod`, one round;
* `AreasNumbered`: the areas of the sets count up from 1 modulo 256; `AreasDistinct`;
* `step`, the generator as a machine over calls; `announced_run`: over whole runs, as long as
  each atmospheric correction for a known set has a GPS correction beside it, and there are at
  most 256 sets.
-/

namespace SuplLpp.Spartn

open Asn Bits Fallible MessageBuilder

/-! ### The header of GAD and HPAC messages -/

/-- SF005, the first nine bits. -/
def Message.siou (m : Message) : ℕ := toNat ((bytesBits m.mPayload).take 9)

/-- SF031, behind SF005, SF068, SF069 and SF030. -/
def Message.areaId (m : Message) : ℕ := toNat (((bytesBits m.mPayload).drop 19).take 8)

/-- What a GAD and an HPAC message start with. -/
def areaHeader (siou areaId : ℕ) : List Bool :=
  sf005 siou ++ (sf068 0 ++ sf069 ++ ofNat 5 0) ++ sf031 (areaId % 2 ^ 8)

theorem sf030_one (build : Build) : sf030 build 1 = .ok (ofNat 5 0) := by
  cases build with
  | mk assertions checkedShifts => cases assertions <;> rfl

theorem fields_build (messageType messageSubtype messageTime siou areaId : ℕ)
    (rest : List Bool) :
    (MessageBuilder.build messageType messageSubtype messageTime
        (areaHeader siou areaId ++ rest)).siou = siou % 2 ^ 9 ∧
      (MessageBuilder.build messageType messageSubtype messageTime
        (areaHeader siou areaId ++ rest)).areaId = areaId % 2 ^ 8 := by
  have hsiou : (sf005 siou).length = 9 := length_ofNat 9 siou
  have harea : (sf031 (areaId % 2 ^ 8)).length = 8 := length_ofNat 8 _
  have hbetween : (sf005 siou ++ (sf068 0 ++ sf069 ++ ofNat 5 0)).length = 19 := by
    rw [List.length_append, hsiou]
    rfl
  unfold Message.siou Message.areaId
  rw [bytesBits_build]
  unfold areaHeader
  constructor
  · rw [List.append_assoc, List.append_assoc, List.append_assoc,
      List.take_left' hsiou, sf005, toNat_ofNat]
  · rw [List.append_assoc, List.append_assoc, List.drop_left' hbetween,
      List.take_left' harea, sf031, toNat_ofNat, Nat.mod_mod]

theorem gadPayload_header {build : Build} {siou : ℕ} {set : CorrectionPointSet}
    {payload : List Bool} (h : gadPayload build siou set = .ok payload) :
    ∃ rest, payload = areaHeader siou set.areaId ++ rest := by
  obtain ⟨_, -, h⟩ := bind_eq_ok.1 h
  obtain ⟨areaCount, hcount, h⟩ := bind_eq_ok.1 h
  obtain ⟨gridCountLat, -, h⟩ := bind_eq_ok.1 h
  obtain ⟨gridCountLng, -, h⟩ := bind_eq_ok.1 h
  rw [sf030_one] at hcount
  cases hcount
  cases h
  exact ⟨sf032 set.referencePointLatitude ++ sf033 set.referencePointLongitude ++ gridCountLat ++
    gridCountLng ++ sf036 set.latitudeDelta ++ sf037 set.longitudeDelta, by
      simp only [areaHeader, List.append_assoc]⟩

theorem hpacPayload_header {build : Build} {cfg : Config} {data : CorrectionData}
    {siou iod : ℕ} {set : CorrectionPointSet} {c : HpacCorrections} {payload : List Bool}
    (h : hpacPayload build cfg data siou iod set c = .ok payload) :
    ∃ rest, payload = areaHeader siou set.areaId ++ rest := by
  obtain ⟨header, hheader, h⟩ := bind_eq_ok.1 h
  obtain ⟨troposphere, -, h⟩ := bind_eq_ok.1 h
  obtain ⟨ionosphere, -, h⟩ := bind_eq_ok.1 h
  cases h
  obtain ⟨areaCount, hcount, h⟩ := bind_eq_ok.1 hheader
  obtain ⟨gridPoints, -, h⟩ := bind_eq_ok.1 h
  rw [sf030_one] at hcount
  cases hcount
  cases h
  exact ⟨gridPoints ++ sf040 (troposphereBlockType data set c) ++
    sf040 (ionosphereBlockType data c) ++ troposphere ++ ionosphere, by
      simp only [areaHeader, List.append_assoc]⟩

/-! ### Messages in order -/

/-- The GAD message announces the area of the HPAC message, for its issue of update. -/
def Announces (gad hpac : Message) : Prop :=
  gad.mMessageType = 2 ∧ gad.areaId = hpac.areaId ∧ gad.siou = hpac.siou

/-- Every HPAC message comes behind a GAD message that announces its area. -/
def Preceded (messages : List Message) : Prop :=
  ∀ pre m post, messages = pre ++ m :: post → m.mMessageType = 1 → ∃ gad ∈ pre, Announces gad m

theorem preceded_nil : Preceded [] := by
  intro pre m post h
  exact absurd h.symm (List.append_ne_nil_of_right_ne_nil _ (List.cons_ne_nil m post))

/-- More messages, whose areas were announced before. -/
theorem Preceded.append {l l' : List Message} (h : Preceded l)
    (h' : ∀ m ∈ l', m.mMessageType = 1 → ∃ gad ∈ l, Announces gad m) : Preceded (l ++ l') := by
  intro pre m post heq htype
  rcases List.append_eq_append_iff.1 heq with ⟨behind, rfl, hl'⟩ | ⟨rest, rfl, hrest⟩
  · -- the message is in the second part
    obtain ⟨gad, hgad, hann⟩ := h' m (hl' ▸ List.mem_append_right _ List.mem_cons_self) htype
    exact ⟨gad, List.mem_append_left _ hgad, hann⟩
  · cases rest with
    | nil =>
      rw [List.nil_append] at hrest
      obtain ⟨gad, hgad, hann⟩ := h' m (hrest ▸ List.mem_cons_self) htype
      rw [List.append_nil] at hgad
      exact ⟨gad, hgad, hann⟩
    | cons a rest =>
      obtain ⟨rfl, -⟩ := List.cons.inj hrest
      exact h pre m rest rfl htype

/-! ### One round -/

section Round

variable {build : Build} {cfg : Config} {sets : Table ℕ CorrectionPointSet} {lib : Library}
  {siou iod : ℕ}

/-- Each known set of an issue of data with a GPS correction is announced. -/
theorem exists_gad {hpacData : List (HpacKey × HpacCorrections)} {out : List Message}
    (h : generateGads build sets siou hpacData = .ok out)
    (hgps : ∃ kvp ∈ hpacData, kvp.2.gnssId = .gps) {kvp : HpacKey × HpacCorrections}
    (hmem : kvp ∈ hpacData) {set : CorrectionPointSet}
    (hset : sets.lookup kvp.1.setId = some set) :
    ∃ gad ∈ out, gad.mMessageType = 2 ∧ gad.siou = siou % 2 ^ 9 ∧
      gad.areaId = set.areaId % 2 ^ 8 := by
  unfold generateGads at h
  obtain ⟨epochTime, htime⟩ := Option.isSome_iff_exists.1
    ((isSome_findGadEpochTime hpacData).2 hgps)
  rw [htime] at h
  obtain ⟨messages, hmessages, h⟩ := bind_eq_ok.1 h
  cases h
  have hid : kvp.1.setId ∈ setIds hpacData := mem_setIds.2 ⟨kvp, hmem, rfl⟩
  obtain ⟨gads, hgads, hone⟩ := exists_mapM_of_mem hmessages hid
  unfold generateGad at hone
  rw [hset] at hone
  obtain ⟨payload, hpayload, heq⟩ := bind_eq_ok.1 hone
  cases heq
  obtain ⟨rest, rfl⟩ := gadPayload_header hpayload
  refine ⟨_, List.mem_flatten.2 ⟨_, hgads, List.mem_singleton.2 rfl⟩, rfl, ?_⟩
  exact fields_build ..

theorem fields_hpacMessage {data : CorrectionData} {set : CorrectionPointSet}
    {c : HpacCorrections} {m : Message} (h : hpacMessage build cfg data siou iod set c = .ok m) :
    m.siou = siou % 2 ^ 9 ∧ m.areaId = set.areaId % 2 ^ 8 := by
  obtain ⟨subtype, -, h⟩ := bind_eq_ok.1 h
  obtain ⟨payload, hpayload, h⟩ := bind_eq_ok.1 h
  cases h
  obtain ⟨rest, rfl⟩ := hpacPayload_header hpayload
  exact fields_build ..

/-- Every HPAC correction for a known set has a GPS correction in its issue of data. -/
def GpsBeside (cfg : Config) (sets : Table ℕ CorrectionPointSet) (data : CorrectionData)
    (iod : ℕ) : Prop :=
  ∀ c ∈ data.hpacCandidates cfg iod, (sets.lookup c.setId).isSome →
    ∃ hpacData ∈ data.hpac iod, (∃ kvp ∈ hpacData.pairs, kvp.2.gnssId = .gps) ∧
      ∃ kvp ∈ hpacData.pairs, kvp.1.setId = c.setId

/-- A round keeps the order, with GAD messages on. -/
theorem preceded_generateIod {generation generation' : Generation}
    (hgad : cfg.mGenerateGad = true)
    (hgps : GpsBeside cfg sets generation.mCorrectionData iod)
    (h : generateIod build sets cfg lib generation iod = .ok generation')
    (hbefore : Preceded generation.mMessages) : Preceded generation'.mMessages := by
  unfold generateIod at h
  obtain ⟨gads, hgads, h⟩ := bind_eq_ok.1 h
  obtain ⟨⟨data, hpacs⟩, hhpacs, h⟩ := bind_eq_ok.1 h
  obtain ⟨ocbs, hocbs, h⟩ := bind_eq_ok.1 h
  cases h
  refine ((hbefore.append ?_).append ?_).append ?_
  · intro m hm htype
    -- a GAD message is no HPAC message
    exfalso
    cases hhpac : generation.mCorrectionData.hpac iod with
    | none =>
      rw [hhpac] at hgads
      cases hgads
      exact absurd hm List.not_mem_nil
    | some hpacData =>
      rw [hhpac] at hgads
      dsimp only at hgads
      rw [if_pos hgad] at hgads
      obtain ⟨_, _, _, _, _, _, _, _, heq⟩ := mem_generateGads hgads hm
      rw [heq] at htype
      exact absurd htype (by decide : (2 : ℕ).toUInt8 ≠ 1)
  · intro m hm _
    by_cases hgenerate : cfg.mGenerateHpac = true
    · rw [if_pos hgenerate] at hhpacs
      obtain ⟨c, hc, set, hset, flagged, hmessage⟩ := mem_generateHpac hhpacs hm
      obtain ⟨hpacData, hhpac, hother, kvp, hkvp, hid⟩ := hgps c hc (by rw [hset]; rfl)
      rw [Option.mem_def] at hhpac
      rw [hhpac] at hgads
      dsimp only at hgads
      rw [if_pos hgad] at hgads
      have hperm := lib.hpacIteration.perm hpacData.pairs
      obtain ⟨gad, hmem, htype, hsiou, harea⟩ := exists_gad hgads
        (hother.imp fun kvp h => ⟨hperm.mem_iff.2 h.1, h.2⟩) (hperm.mem_iff.2 hkvp)
        (by rw [hid]; exact hset)
      obtain ⟨hsiou', harea'⟩ := fields_hpacMessage hmessage
      refine ⟨gad, List.mem_append_right _ hmem, htype, ?_, ?_⟩
      · rw [harea, harea']
      · rw [hsiou, hsiou', hhpac]
    · rw [if_neg hgenerate] at hhpacs
      cases hhpacs
      exact absurd hm List.not_mem_nil
  · intro m hm htype
    exfalso
    by_cases hgenerate : cfg.mGenerateOcb = true
    · rw [if_pos hgenerate] at hocbs
      obtain ⟨c, -, -, eos, hmessage⟩ := mem_generateOcb hocbs hm
      rw [(header_ocbMessage hmessage).1] at htype
      exact absurd htype (by decide)
    · rw [if_neg hgenerate] at hocbs
      cases hocbs
      exact absurd hm List.not_mem_nil

end Round

/-! ### One call -/

section Call

variable {build : Build} {cfg : Config} {lib : Library} {generator : Generator}
  {assistData : SsrAssistData}

/-- Every HPAC element for a set that the generator knows has a GPS element in its issue of
data. -/
def GpsElsewhere (cfg : Config) (generator : Generator) (assistData : SsrAssistData) : Prop :=
  ∀ entry ∈ hpacElements assistData, cfg.supported entry.1 = true →
    (generator.knownGrid cfg assistData (hpacSetId entry)).isSome →
      ∃ other ∈ hpacElements assistData, hpacIod other = hpacIod entry ∧ other.1 = .gps

theorem GpsElsewhere.beside (h : GpsElsewhere cfg generator assistData) {known : Generator}
    {start : CorrectionData}
    (hknown : generator.findCorrectionPointSet build cfg assistData = .ok known)
    (hstart : correctionData cfg assistData = .ok start) (iod : ℕ) :
    GpsBeside cfg known.mCorrectionPointSets start iod := by
  intro c hc hset
  have hdata := (correctionData_eq hstart).2.1
  obtain ⟨key, hfind, hsupported⟩ := mem_hpacCandidates.1 hc
  rw [hdata] at hfind
  obtain ⟨entry, hentry, rfl, rfl⟩ := isSome_find_hpac.1 (Option.isSome_of_mem hfind)
  have hid : c.setId = hpacSetId entry := congrArg HpacKey.setId (hpac_of_find hfind)
  have hgrid : (generator.knownGrid cfg assistData (hpacSetId entry)).isSome := by
    rw [← lookup_known hknown, Option.isSome_map, ← hid]
    exact hset
  obtain ⟨other, hother, hiod, hgps⟩ := h entry hentry hsupported hgrid
  obtain ⟨c', hfind', hgnss, -⟩ := exists_hpac hother
  rw [hiod] at hfind'
  obtain ⟨hpacData, hlookup, hkey⟩ := Option.bind_eq_some_iff.1 hfind
  obtain ⟨hpacData', hlookup', hkey'⟩ := Option.bind_eq_some_iff.1 hfind'
  obtain rfl : hpacData = hpacData' := Option.some.inj (hlookup.symm.trans hlookup')
  refine ⟨hpacData, ?_, ⟨(hpacKeyOf other, c'), Table.mem_pairs.2 hkey', hgnss.trans hgps⟩,
    (hpacKeyOf entry, c), Table.mem_pairs.2 hkey, hid.symm⟩
  rw [Option.mem_def, CorrectionData.hpac, hdata, hlookup]

theorem preceded_generateFrom (hgad : cfg.mGenerateGad = true)
    (hgps : GpsElsewhere cfg generator assistData) {generator' : Generator}
    {messages : List Message}
    (h : generator.generateFrom build cfg lib assistData = .ok (generator', messages)) :
    Preceded messages := by
  obtain ⟨known, hknown, h⟩ := bind_eq_ok.1 h
  obtain ⟨start, hstart, h⟩ := bind_eq_ok.1 h
  obtain ⟨generation, hloop, h⟩ := bind_eq_ok.1 h
  cases h
  have hinv := foldlM_induction (p := fun generation : Generation =>
    Preceded generation.mMessages ∧ ∃ flagged,
      generation.mCorrectionData = { start with stecDnuSatellites := flagged }) hloop
    ⟨preceded_nil, _, rfl⟩ ?_
  · exact hinv.1
  · rintro iod - before after hround ⟨hbefore, flagged, hdata⟩
    refine ⟨preceded_generateIod hgad ?_ hround hbefore,
      after.mCorrectionData.stecDnuSatellites, ?_⟩
    · rw [hdata]
      exact hgps.beside hknown hstart iod
    · rw [(generateIod_data hround).1, hdata]

/-! ### The sets of the generator -/

/-- The areas count up from 1, and start again at 0 behind 255. -/
structure AreasNumbered (generator : Generator) : Prop where
  areas : generator.mCorrectionPointSets.entries.map (fun e => e.2.areaId) =
    ((List.range generator.mCorrectionPointSets.entries.length).map
      fun i => (i + 1) % 256).reverse
  next : generator.mNextAreaId = (generator.mCorrectionPointSets.entries.length + 1) % 256

/-- No two sets have the same area. -/
def AreasDistinct (generator : Generator) : Prop :=
  ∀ setId setId' set set', generator.mCorrectionPointSets.lookup setId = some set →
    generator.mCorrectionPointSets.lookup setId' = some set' → setId ≠ setId' →
      set.areaId ≠ set'.areaId

theorem areasNumbered_new : AreasNumbered .new := ⟨rfl, rfl⟩

theorem AreasNumbered.areasDistinct (h : AreasNumbered generator)
    (hroom : generator.mCorrectionPointSets.entries.length ≤ 256) : AreasDistinct generator := by
  have hnodup : (generator.mCorrectionPointSets.entries.map fun e => e.2.areaId).Nodup := by
    rw [h.areas, List.nodup_reverse]
    refine List.Nodup.map_on ?_ List.nodup_range
    intro i hi j hj heq
    rw [List.mem_range] at hi hj
    omega
  intro setId setId' set set' hset hset' hne heq
  have hpair := List.inj_on_of_nodup_map hnodup (AList.mem_lookup_iff.1 hset)
    (AList.mem_lookup_iff.1 hset') heq
  exact hne (congrArg Sigma.fst hpair)

theorem AreasNumbered.findCorrectionPointSet (h : AreasNumbered generator) {known : Generator}
    (hknown : generator.findCorrectionPointSet build cfg assistData = .ok known) :
    AreasNumbered known ∧ known.mCorrectionPointSets.entries.length =
      generator.mCorrectionPointSets.entries.length +
        (generator.newCorrectionPoints assistData).toList.length := by
  unfold Generator.findCorrectionPointSet at hknown
  cases hnew : generator.newCorrectionPoints assistData with
  | none =>
    rw [hnew] at hknown
    cases hknown
    exact ⟨h, rfl⟩
  | some entry =>
    obtain ⟨setId, array⟩ := entry
    rw [hnew] at hknown
    obtain ⟨set, hset, heq⟩ := bind_eq_ok.1 hknown
    cases heq
    -- a set is new only under an id that is not there
    have hfresh : setId ∉ generator.mCorrectionPointSets := by
      unfold Generator.newCorrectionPoints at hnew
      split at hnew
      · split_ifs at hnew with hsome
        cases hnew
        rwa [AList.lookup_isSome] at hsome
      · cases hnew
      · cases hnew
    have hentries := AList.entries_insert_of_notMem (b := set) hfresh
    have harea : set.areaId = generator.mNextAreaId := (newCorrectionPointSet_grid cfg hset).2.2
    refine ⟨⟨?_, ?_⟩, ?_⟩
    · dsimp only
      rw [hentries, List.map_cons, List.length_cons, List.range_succ, List.map_append,
        List.reverse_append, h.areas, harea, h.next]
      rfl
    · dsimp only
      rw [hentries, List.length_cons, h.next]
      omega
    · dsimp only
      rw [hentries]
      rfl

end Call

/-! ### Whole runs -/

/-- A call of `generate`, with GAD and HPAC messages on. -/
structure Call where
  cfg : Config
  lib : Library
  lppMessage : Option SsrLppMessage
  gad : cfg.mGenerateGad = true
  hpac : cfg.mGenerateHpac = true

/-- What a call answers, and the generator behind it. -/
structure Answer where
  generator : Generator
  messages : List Message

/-- The generator as a machine: there is no generator any more after a call that stops. -/
def step (build : Build) (state : Option Generator) (call : Call) :
    Option Generator × List Answer :=
  match state with
  | none => (none, [])
  | some generator =>
    match generator.generate build call.cfg call.lib call.lppMessage with
    | .ok (generator, messages) => (some generator, [⟨generator, messages⟩])
    | .error _ => (none, [])

/-- Every HPAC message comes behind the announcement of its area, and no two sets share one. -/
def Announced (answer : Answer) : Prop :=
  Preceded answer.messages ∧ AreasDistinct answer.generator

/-- Each HPAC element for a known set has a GPS element beside it, and there is an area left for
a new set. -/
def StepOk (state : Option Generator) (call : Call) : Prop :=
  ∀ generator ∈ state, ∀ assistData,
    call.lppMessage.bind (·.lppMessageBody) =
      some (.provideAssistanceDataR9 (some assistData)) →
    GpsElsewhere call.cfg generator assistData ∧
      generator.mCorrectionPointSets.entries.length +
        (generator.newCorrectionPoints assistData).toList.length ≤ 256

section Run

variable {build : Build}

/-- What holds between the calls. -/
def RunInvariant (state : Option Generator) (answers : List Answer) : Prop :=
  (∀ generator ∈ state, AreasNumbered generator ∧
    generator.mCorrectionPointSets.entries.length ≤ 256) ∧
  ∀ answer ∈ answers, Announced answer

theorem generate_announced {call : Call} {generator generator' : Generator}
    {messages : List Message} (hok : StepOk (some generator) call)
    (hareas : AreasNumbered generator)
    (hroom : generator.mCorrectionPointSets.entries.length ≤ 256)
    (h : generator.generate build call.cfg call.lib call.lppMessage = .ok (generator', messages)) :
    (AreasNumbered generator' ∧ generator'.mCorrectionPointSets.entries.length ≤ 256) ∧
      Preceded messages := by
  unfold Generator.generate at h
  cases hbody : call.lppMessage.bind (·.lppMessageBody) with
  | none =>
    rw [hbody] at h
    cases h
    exact ⟨⟨hareas, hroom⟩, preceded_nil⟩
  | some body =>
    rw [hbody] at h
    rcases body with ⟨- | assistData⟩ | _
    · cases h
      exact ⟨⟨hareas, hroom⟩, preceded_nil⟩
    · obtain ⟨hgps, hlimit⟩ := hok generator rfl assistData hbody
      refine ⟨?_, preceded_generateFrom call.gad hgps h⟩
      obtain ⟨known, hknown, h⟩ := bind_eq_ok.1 h
      obtain ⟨start, -, h⟩ := bind_eq_ok.1 h
      obtain ⟨generation, -, h⟩ := bind_eq_ok.1 h
      cases h
      obtain ⟨hareas', hlength⟩ := hareas.findCorrectionPointSet hknown
      exact ⟨⟨hareas'.areas, hareas'.next⟩, hlength ▸ hlimit⟩
    · cases h
      exact ⟨⟨hareas, hroom⟩, preceded_nil⟩

theorem runInvariant_step {state : Option Generator} {answers : List Answer} {call : Call}
    (h : RunInvariant state answers) (hok : StepOk state call) :
    RunInvariant (step build state call).1 (answers ++ (step build state call).2) := by
  obtain ⟨hstate, hanswers⟩ := h
  cases state with
  | none => exact ⟨fun _ hnone => (by cases hnone), by simpa [step] using hanswers⟩
  | some generator =>
    obtain ⟨hareas, hroom⟩ := hstate generator rfl
    unfold step
    dsimp only
    split
    · next generator' messages hgenerate =>
      obtain ⟨⟨hareas', hroom'⟩, hpreceded⟩ := generate_announced hok hareas hroom hgenerate
      refine ⟨fun _ hsome => ?_, fun answer hmem => ?_⟩
      · cases hsome
        exact ⟨hareas', hroom'⟩
      · rcases List.mem_append.1 hmem with hmem | hmem
        · exact hanswers answer hmem
        · rw [List.mem_singleton.1 hmem]
          exact ⟨hpreceded, hareas'.areasDistinct hroom'⟩
    · exact ⟨fun _ hnone => (by cases hnone), by simpa using hanswers⟩

/-- **Whole runs.**  As long as every call meets the condition, the areas of all HPAC messages
are announced before them, and are those of one set each. -/
theorem announced_run (build : Build) (calls : List Call)
    (h : Mealy.Along (fun state _ call => StepOk state call) (step build) (some .new) [] calls) :
    ∀ answer ∈ (Mealy.run (step build) (some .new) calls).2, Announced answer := by
  refine (Mealy.invariant_run (P := RunInvariant)
    (fun _ _ _ hbefore hok => runInvariant_step hbefore hok) ?_ h).2
  refine ⟨fun _ hnew => ?_, fun _ hnil => absurd hnil List.not_mem_nil⟩
  cases hnew
  exact ⟨areasNumbered_new, Nat.zero_le _⟩

end Run

/-! ### Two messages -/

/-- One grid point. -/
def pointArray : GnssSsrArrayOfCorrectionPoints :=
  ⟨⟨0, Integer.mem_neg⟩, ⟨0, Integer.mem_neg⟩, ⟨0, Integer.mem⟩, ⟨0, Integer.mem⟩, ⟨1, Integer.mem⟩,
    ⟨1, Integer.mem⟩, none⟩

/-- The set 7 with one grid point, and a STEC correction for it. -/
def stecMessage (gnssId : GnssId) : SsrLppMessage :=
  ⟨some (.provideAssistanceDataR9 (some
    ⟨some ⟨some ⟨⟨7, Integer.mem⟩, .arrayOfCorrectionPoints pointArray⟩, none⟩,
      some ⟨[⟨gnssId, none, none, none, none, none, none, some lateStec, none⟩],
        by simp⟩⟩))⟩

def stecCall (gnssId : GnssId) : Call := ⟨.new, .plain, some (stecMessage gnssId), rfl, rfl⟩

theorem announced_run_gps :
    (Mealy.run (step .checked) (some .new) [stecCall .gps]).2.length = 1 ∧
      ∀ answer ∈ (Mealy.run (step .checked) (some .new) [stecCall .gps]).2,
        Announced answer := by
  refine ⟨by decide +kernel, announced_run .checked [stecCall .gps] ⟨?_, trivial⟩⟩
  intro generator hnew assistData hbody
  cases hnew
  cases hbody
  refine ⟨fun entry hentry _ _ => ⟨entry, hentry, rfl, ?_⟩, by decide⟩
  rw [List.mem_singleton.1 hentry]

/-- A Galileo correction alone: its HPAC message is the only message of the call. -/
theorem not_announced_galileo : ¬∀ answer ∈
    (Mealy.run (step .checked) (some .new) [stecCall .galileo]).2, Announced answer := by
  intro h
  have htypes : (Mealy.run (step .checked) (some .new) [stecCall .galileo]).2.map
      (fun answer => answer.messages.map (·.mMessageType)) = [[1]] := by decide +kernel
  obtain ⟨answer, _, hrun, htype, -⟩ := List.map_eq_cons_iff.1 htypes
  obtain ⟨m, _, hmessages, htype, -⟩ := List.map_eq_cons_iff.1 htype
  obtain ⟨gad, hgad, -⟩ := (h answer (hrun ▸ List.mem_cons_self)).1 [] m _ hmessages htype
  exact absurd hgad List.not_mem_nil

end SuplLpp.Spartn
