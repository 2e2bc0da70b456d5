import SuplLpp.Spartn.Totality

/-!
# Grouping of corrections as a parameter

The source groups corrections by their epoch, unless `mGroupByEpochTime` is off, for which it has
no setter.

* `correctionDataBy`, `generateHpacBy`: the generator with `mGroupByEpochTime` as a parameter;
  with the value of the constructor they are what they were (`correctionDataBy_eq`,
  `generateHpacBy_eq`);
* `mem_generateHpacBy`: every HPAC message is the message of a correction.
-/

namespace SuplLpp.Spartn

open Asn Fallible

/-! ### Grouping as a parameter -/

section Grouping

variable (group : Bool)

/-- The epoch of a key. -/
def epochKey (epochTime : ℕ) : ℕ := if group then epochTime else 0

def ocbKeyBy (entry : GnssId × OcbElement) : OcbKey :=
  ⟨entry.1, epochKey group (spartnTimeFrom entry.2.epochTime).roundedSeconds⟩

/-- What an element makes of the corrections of its key: an URA sets the epoch time only when
corrections are grouped by it. -/
def ocbUpdateBy (entry : GnssId × OcbElement) (corrections : OcbCorrections) : OcbCorrections :=
  let epochTime :=
    match entry.2 with
    | .ura _ => if group then spartnTimeFrom entry.2.epochTime else corrections.epochTime
    | _ => spartnTimeFrom entry.2.epochTime
  entry.2.store { corrections with
    gnssId := entry.1
    iod := ocbIod entry
    epochTime := epochTime }

/-- `add_correction` of an OCB element. -/
def addOcbEntryBy (data : CorrectionData) (entry : GnssId × OcbElement) : CorrectionData :=
  data.modifyOcb (ocbIod entry) (ocbKeyBy group entry) (ocbUpdateBy group entry)

def hpacKeyBy (entry : GnssId × HpacElement) : HpacKey :=
  ⟨hpacSetId entry, entry.1, epochKey group (spartnTimeFrom entry.2.epochTime).roundedSeconds⟩

/-- `add_correction` of an HPAC element. -/
def addHpacEntryBy (data : CorrectionData) (entry : GnssId × HpacElement) : CorrectionData :=
  data.modifyHpac (hpacIod entry) (hpacKeyBy group entry) (hpacUpdate entry)

def findOcbCorrectionsBy (data : CorrectionData) (element : SsrGenericAssistDataElement) :
    CorrectionData :=
  (OcbElement.ofAssistData element).foldl (addOcbEntryBy group) data

def findHpacCorrectionsBy (data : CorrectionData) (element : SsrGenericAssistDataElement) :
    CorrectionData :=
  (HpacElement.ofAssistData element).foldl (addHpacEntryBy group) data

/-- The corrections of a message. -/
def correctionDataBy (cfg : Config) (assistData : SsrAssistData) : Result CorrectionData := do
  let elements := SsrAssistData.elements assistData
  let data := elements.foldl (findOcbCorrectionsBy group) CorrectionData.new
  let data := elements.foldl (findHpacCorrectionsBy group) data
  let data ← elements.foldlM findRtiCorrections data
  return applyServiceAlert cfg (SsrAssistData.serviceAlert assistData) data

variable (build : Build) (cfg : Config) (sets : Table ℕ CorrectionPointSet)

/-- The OCB corrections that satellites are looked up in. -/
def filterCorrectionsBy (data : CorrectionData) (iod : ℕ) (gnssId : GnssId) (epochTime : ℕ) :
    Option OcbCorrections :=
  if cfg.mFilterByOcb then
    (data.ocb iod).bind fun ocbData => ocbData.lookup ⟨gnssId, epochKey group epochTime⟩
  else none

def hpacPayloadBy (data : CorrectionData) (siou iod : ℕ) (set : CorrectionPointSet)
    (corrections : HpacCorrections) : Result (List Bool) := do
  let troposphereType := troposphereBlockType data set corrections
  let ionosphereType := ionosphereBlockType data corrections
  let header ← hpacHeader build siou set troposphereType ionosphereType
  let troposphere ←
    (if troposphereType ≠ 0 then troposphereDataBlock set corrections cfg else .ok [])
  let ionosphere ←
    (if ionosphereType ≠ 0 then
      ionosphereDataBlock cfg set corrections corrections.gnssId
        (filterCorrectionsBy group cfg data iod corrections.gnssId corrections.timeTag)
        ionosphereType
    else .ok [])
  return header ++ troposphere ++ ionosphere

def hpacMessageBy (data : CorrectionData) (siou iod : ℕ) (set : CorrectionPointSet)
    (corrections : HpacCorrections) : Result Message := do
  let subtype ← subtypeFromGnssId corrections.gnssId
  let payload ← hpacPayloadBy group build cfg data siou iod set corrections
  return MessageBuilder.build 1 subtype corrections.timeTag payload

def hpacMessagesBy (siou iod : ℕ) (data : CorrectionData) :
    List HpacCorrections → Result (CorrectionData × List Message)
  | [] => .ok (data, [])
  | corrections :: rest =>
    match sets.lookup corrections.setId with
    | none => hpacMessagesBy siou iod data rest
    | some set => do
      let data := { data with
        stecDnuSatellites := data.stecDnuSatellites ++ flaggedSatellites cfg corrections }
      let message ← hpacMessageBy group build cfg data siou iod set corrections
      let hpacs ← hpacMessagesBy siou iod data rest
      return (hpacs.1, message :: hpacs.2)

def generateHpacBy (lib : Library) (siou iod : ℕ) (data : CorrectionData) :
    Result (CorrectionData × List Message) :=
  match data.hpac iod with
  | none => .ok (data, [])
  | some hpacData => do
    let messages ← sortBySubtype (·.gnssId) lib.hpacSorting
      (hpacCandidates cfg (lib.hpacIteration.order hpacData.pairs))
    hpacMessagesBy group build cfg sets siou iod data messages

end Grouping

/-! ### The value of the constructor -/

theorem correctionDataBy_eq : correctionDataBy groupByEpochTime = correctionData := by
  have hocb : addOcbEntryBy groupByEpochTime = addOcbEntry := by
    funext data entry
    obtain ⟨gnssId, element⟩ := entry
    cases element <;> rfl
  have hhpac : addHpacEntryBy groupByEpochTime = addHpacEntry := by
    funext data entry
    rfl
  funext cfg assistData
  unfold correctionDataBy correctionData
  have hfindOcb : findOcbCorrectionsBy groupByEpochTime = findOcbCorrections := by
    funext data element
    rw [findOcbCorrections_eq, findOcbCorrectionsBy, hocb]
  have hfindHpac : findHpacCorrectionsBy groupByEpochTime = findHpacCorrections := by
    funext data element
    rw [findHpacCorrections_eq, findHpacCorrectionsBy, hhpac]
  rw [hfindOcb, hfindHpac]

theorem generateHpacBy_eq : generateHpacBy groupByEpochTime = generateHpac := by
  have hmessages : hpacMessagesBy groupByEpochTime = hpacMessages := by
    funext build cfg sets siou iod data messages
    induction messages generalizing data with
    | nil => rfl
    | cons corrections rest ih =>
      unfold hpacMessagesBy hpacMessages
      simp only [ih]
      rfl
  funext build cfg sets lib siou iod data
  unfold generateHpacBy generateHpac
  rewrite [hmessages]
  cases data.hpac iod <;> rfl

/-! ### The corrections of a message -/

section Messages

variable {group : Bool} {build : Build} {cfg : Config} {sets : Table ℕ CorrectionPointSet}
  {lib : Library} {siou iod : ℕ} {data : CorrectionData}

theorem hpacCandidates_perm (cfg : Config) (iteration : Iteration (HpacKey × HpacCorrections))
    (hpacData : List (HpacKey × HpacCorrections)) :
    (hpacCandidates cfg (iteration.order hpacData)).Perm (hpacCandidates cfg hpacData) :=
  ((iteration.perm hpacData).filter _).map _

theorem mem_hpacMessagesBy {data' : CorrectionData} {messages : List HpacCorrections}
    {out : List Message}
    (h : hpacMessagesBy group build cfg sets siou iod data messages = .ok (data', out))
    {m : Message} (hm : m ∈ out) :
    ∃ c ∈ messages, ∃ set, sets.lookup c.setId = some set ∧
      ∃ flagged, hpacMessageBy group build cfg { data with stecDnuSatellites := flagged }
        siou iod set c = .ok m := by
  induction messages generalizing data out with
  | nil =>
    cases h
    exact absurd hm List.not_mem_nil
  | cons c rest ih =>
    unfold hpacMessagesBy at h
    cases hset : sets.lookup c.setId with
    | none =>
      rw [hset] at h
      obtain ⟨c', hc', hsent⟩ := ih h hm
      exact ⟨c', List.mem_cons_of_mem c hc', hsent⟩
    | some set =>
      rw [hset] at h
      obtain ⟨message, hmessage, h⟩ := bind_eq_ok.1 h
      obtain ⟨hpacs, hhpacs, heq⟩ := bind_eq_ok.1 h
      cases heq
      rcases List.mem_cons.1 hm with rfl | hm
      · exact ⟨c, List.mem_cons_self, set, hset, _, hmessage⟩
      · obtain ⟨c', hc', hsent⟩ := ih hhpacs hm
        exact ⟨c', List.mem_cons_of_mem c hc', hsent⟩

/-- Every message of an issue of data is the message of a correction. -/
theorem mem_generateHpacBy {data' : CorrectionData} {out : List Message}
    (h : generateHpacBy group build cfg sets lib siou iod data = .ok (data', out)) {m : Message}
    (hm : m ∈ out) :
    ∃ c ∈ data.hpacCandidates cfg iod, ∃ set, sets.lookup c.setId = some set ∧
      ∃ flagged, hpacMessageBy group build cfg { data with stecDnuSatellites := flagged }
        siou iod set c = .ok m := by
  unfold generateHpacBy at h
  unfold CorrectionData.hpacCandidates
  cases hhpac : data.hpac iod with
  | none =>
    rw [hhpac] at h
    cases h
    exact absurd hm List.not_mem_nil
  | some hpacData =>
    rw [hhpac] at h
    obtain ⟨messages, hsort, h⟩ := bind_eq_ok.1 h
    obtain ⟨-, rfl⟩ := sortBySubtype_eq_ok.1 hsort
    obtain ⟨c, hc, hsent⟩ := mem_hpacMessagesBy h hm
    have hperm := (lib.hpacSorting.perm _).trans
      (hpacCandidates_perm cfg lib.hpacIteration hpacData.pairs)
    exact ⟨c, hperm.mem_iff.1 hc, hsent⟩

end Messages

end SuplLpp.Spartn
