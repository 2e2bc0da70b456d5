import SuplLpp.Spartn.Generator

/-!
# What the corrections of a message are made of

The elements of an LPP message, one by one, and the corrections that they are collected in.

* `OcbElement` and `HpacElement` with their keys; `ocbElements`, `hpacElements`, the elements of
  a message;
* `ocbCandidates`, `hpacCandidates`: the corrections that messages are generated for.
-/

namespace SuplLpp.Spartn

open Asn Fallible

/-! ### OCB elements -/

inductive OcbElement
  | orbit (correction : GnssSsrOrbitCorrections)
  | clock (correction : GnssSsrClockCorrections)
  | codeBias (correction : GnssSsrCodeBias)
  | phaseBias (correction : GnssSsrPhaseBias)
  | ura (correction : GnssSsrUra)

namespace OcbElement

def iodSsr : OcbElement → Integer 0 15
  | orbit correction => correction.iodSsr
  | clock correction => correction.iodSsr
  | codeBias correction => correction.iodSsr
  | phaseBias correction => correction.iodSsr
  | ura correction => correction.iodSsr

def epochTime : OcbElement → GnssSystemTime
  | orbit correction => correction.epochTime
  | clock correction => correction.epochTime
  | codeBias correction => correction.epochTime
  | phaseBias correction => correction.epochTime
  | ura correction => correction.epochTime

def store (corrections : OcbCorrections) : OcbElement → OcbCorrections
  | orbit correction => { corrections with orbit := some correction }
  | clock correction => { corrections with clock := some correction }
  | codeBias correction => { corrections with codeBias := some correction }
  | phaseBias correction => { corrections with phaseBias := some correction }
  | ura correction => { corrections with ura := some correction }

/-- The elements for one constellation, in the order in which they are collected. -/
def ofAssistData (element : SsrGenericAssistDataElement) : List (GnssId × OcbElement) :=
  ((element.gnssSsrOrbitCorrections.map orbit).toList ++
    (element.gnssSsrClockCorrections.map clock).toList ++
    (element.gnssSsrCodeBias.map codeBias).toList ++
    (element.gnssSsrPhaseBias.map phaseBias).toList ++
    (element.gnssSsrUra.map ura).toList).map (element.gnssId, ·)

end OcbElement

/-- The issue of data and the key of an element. -/
def ocbIod (entry : GnssId × OcbElement) : ℕ := entry.2.iodSsr.1.toNat

def ocbKeyOf (entry : GnssId × OcbElement) : OcbKey :=
  CorrectionData.ocbKey entry.1 (spartnTimeFrom entry.2.epochTime)

/-- What an element makes of the corrections of its key. -/
def ocbUpdate (entry : GnssId × OcbElement) (corrections : OcbCorrections) : OcbCorrections :=
  entry.2.store { corrections with
    gnssId := entry.1
    iod := ocbIod entry
    epochTime := spartnTimeFrom entry.2.epochTime }

def addOcbEntry (data : CorrectionData) (entry : GnssId × OcbElement) : CorrectionData :=
  data.modifyOcb (ocbIod entry) (ocbKeyOf entry) (ocbUpdate entry)

/-- The elements of a message with orbit, clock and bias corrections. -/
def ocbElements (assistData : SsrAssistData) : List (GnssId × OcbElement) :=
  (SsrAssistData.elements assistData).flatMap OcbElement.ofAssistData

/-! ### HPAC elements -/

inductive HpacElement
  | gridded (correction : GnssSsrGriddedCorrection)
  | stec (correction : GnssSsrStecCorrection)

namespace HpacElement

def iodSsr : HpacElement → Integer 0 15
  | gridded correction => correction.iodSsr
  | stec correction => correction.iodSsr

def correctionPointSetId : HpacElement → Integer 0 16383
  | gridded correction => correction.correctionPointSetId
  | stec correction => correction.correctionPointSetId

def epochTime : HpacElement → GnssSystemTime
  | gridded correction => correction.epochTime
  | stec correction => correction.epochTime

def store (corrections : HpacCorrections) : HpacElement → HpacCorrections
  | gridded correction => { corrections with gridded := some correction }
  | stec correction => { corrections with stec := some correction }

def isStec : HpacElement → Bool
  | gridded _ => false
  | stec _ => true

/-- The elements for one constellation, in the order in which they are collected. -/
def ofAssistData (element : SsrGenericAssistDataElement) : List (GnssId × HpacElement) :=
  ((element.gnssSsrStecCorrection.map stec).toList ++
    (element.gnssSsrGriddedCorrection.map gridded).toList).map (element.gnssId, ·)

end HpacElement

def hpacIod (entry : GnssId × HpacElement) : ℕ := entry.2.iodSsr.1.toNat

def hpacSetId (entry : GnssId × HpacElement) : ℕ := entry.2.correctionPointSetId.1.toNat

def hpacKeyOf (entry : GnssId × HpacElement) : HpacKey :=
  CorrectionData.hpacKey entry.1 (hpacSetId entry) (spartnTimeFrom entry.2.epochTime)

def hpacUpdate (entry : GnssId × HpacElement) (corrections : HpacCorrections) : HpacCorrections :=
  entry.2.store { corrections with
    gnssId := entry.1
    iod := hpacIod entry
    setId := hpacSetId entry
    epochTime := spartnTimeFrom entry.2.epochTime }

def addHpacEntry (data : CorrectionData) (entry : GnssId × HpacElement) : CorrectionData :=
  data.modifyHpac (hpacIod entry) (hpacKeyOf entry) (hpacUpdate entry)

/-- The elements of a message with atmospheric corrections. -/
def hpacElements (assistData : SsrAssistData) : List (GnssId × HpacElement) :=
  (SsrAssistData.elements assistData).flatMap HpacElement.ofAssistData

/-! ### Collecting, element by element -/

theorem addOptional_eq {α E : Type} (add : CorrectionData → GnssId → α → CorrectionData)
    (entry : α → E) (addEntry : CorrectionData → GnssId × E → CorrectionData)
    (h : ∀ data gnssId a, add data gnssId a = addEntry data (gnssId, entry a)) (gnssId : GnssId)
    (o : Option α) (data : CorrectionData) :
    addOptional add gnssId o data =
      ((o.map entry).toList.map (gnssId, ·)).foldl addEntry data := by
  cases o with
  | none => rfl
  | some a => exact h data gnssId a

theorem findOcbCorrections_eq (data : CorrectionData) (element : SsrGenericAssistDataElement) :
    findOcbCorrections data element =
      (OcbElement.ofAssistData element).foldl addOcbEntry data := by
  unfold findOcbCorrections OcbElement.ofAssistData
  simp only [List.map_append, List.foldl_append]
  rw [addOptional_eq CorrectionData.addOrbit .orbit addOcbEntry fun _ _ _ => rfl,
    addOptional_eq CorrectionData.addClock .clock addOcbEntry fun _ _ _ => rfl,
    addOptional_eq CorrectionData.addCodeBias .codeBias addOcbEntry fun _ _ _ => rfl,
    addOptional_eq CorrectionData.addPhaseBias .phaseBias addOcbEntry fun _ _ _ => rfl,
    addOptional_eq CorrectionData.addUra .ura addOcbEntry fun _ _ _ => rfl]

theorem findHpacCorrections_eq (data : CorrectionData) (element : SsrGenericAssistDataElement) :
    findHpacCorrections data element =
      (HpacElement.ofAssistData element).foldl addHpacEntry data := by
  unfold findHpacCorrections HpacElement.ofAssistData
  simp only [List.map_append, List.foldl_append]
  rw [addOptional_eq CorrectionData.addStec .stec addHpacEntry fun _ _ _ => rfl,
    addOptional_eq CorrectionData.addGridded .gridded addHpacEntry fun _ _ _ => rfl]

theorem foldl_addOcbEntry (entries : List (GnssId × OcbElement)) (data : CorrectionData) :
    entries.foldl addOcbEntry data = { data with
      ocbData := entries.foldl (fun ocbData entry =>
        Table.modify ocbData (ocbIod entry) (ocbKeyOf entry) OcbCorrections.new (ocbUpdate entry))
          data.ocbData } := by
  induction entries generalizing data with
  | nil => rfl
  | cons entry entries ih => exact ih _

theorem foldl_addHpacEntry (entries : List (GnssId × HpacElement)) (data : CorrectionData) :
    entries.foldl addHpacEntry data = { data with
      hpacData := entries.foldl (fun hpacData entry =>
        Table.modify hpacData (hpacIod entry) (hpacKeyOf entry) HpacCorrections.new
          (hpacUpdate entry)) data.hpacData } := by
  induction entries generalizing data with
  | nil => rfl
  | cons entry entries ih => exact ih _

/-! ### The corrections of a message -/

/-- Every bad signal of the integrity elements names its signals. -/
def SignalsNamed (assistData : SsrAssistData) : Prop :=
  ∀ element ∈ SsrAssistData.elements assistData, ∀ rti ∈ element.gnssRealTimeIntegrity,
    ∀ bad ∈ rti.gnssBadSignalList.1, bad.badSignalId.isSome

/-- The alert of a message suppresses ionosphere blocks. -/
def ionosphereSuppressed (cfg : Config) (assistData : SsrAssistData) : Bool :=
  cfg.mDoNotUseAtmosphere &&
    (SsrAssistData.serviceAlert assistData).any (·.ionosphereDoNotUse)

/-- The corrections by issue of data and key. -/
def collectedOcb (assistData : SsrAssistData) : Table ℕ OcbData :=
  (ocbElements assistData).foldl (fun ocbData entry =>
    Table.modify ocbData (ocbIod entry) (ocbKeyOf entry) OcbCorrections.new (ocbUpdate entry)) ∅

def collectedHpac (assistData : SsrAssistData) : Table ℕ HpacData :=
  (hpacElements assistData).foldl (fun hpacData entry =>
    Table.modify hpacData (hpacIod entry) (hpacKeyOf entry) HpacCorrections.new
      (hpacUpdate entry)) ∅

/-- The corrections before the integrity elements. -/
def collected (assistData : SsrAssistData) : CorrectionData :=
  { CorrectionData.new with
    ocbData := collectedOcb assistData
    hpacData := collectedHpac assistData }

theorem foldl_find_eq (assistData : SsrAssistData) :
    (SsrAssistData.elements assistData).foldl findHpacCorrections
      ((SsrAssistData.elements assistData).foldl findOcbCorrections CorrectionData.new) =
      collected assistData := by
  have hocb : findOcbCorrections = fun data element =>
      (OcbElement.ofAssistData element).foldl addOcbEntry data := by
    funext data element
    exact findOcbCorrections_eq data element
  have hhpac : findHpacCorrections = fun data element =>
      (HpacElement.ofAssistData element).foldl addHpacEntry data := by
    funext data element
    exact findHpacCorrections_eq data element
  rw [hocb, hhpac, ← List.foldl_flatMap, ← List.foldl_flatMap]
  change (hpacElements assistData).foldl addHpacEntry
    ((ocbElements assistData).foldl addOcbEntry CorrectionData.new) = _
  rw [foldl_addOcbEntry, foldl_addHpacEntry]
  rfl

theorem finishes_addRealTimeIntegrity (data : CorrectionData) (gnssId : GnssId)
    (rti : GnssRealTimeIntegrity) :
    Finishes (data.addRealTimeIntegrity gnssId rti) ↔
      ∀ bad ∈ rti.gnssBadSignalList.1, bad.badSignalId.isSome := by
  unfold CorrectionData.addRealTimeIntegrity
  split
  · next h =>
    simp only [not_finishes_error, false_iff, not_forall]
    obtain ⟨bad, hbad, hnone⟩ := List.any_eq_true.1 h
    refine ⟨bad, hbad, ?_⟩
    rw [Option.isNone_iff_eq_none] at hnone
    rw [hnone]
    decide
  · next h =>
    refine iff_of_true (finishes_ok _) fun bad hbad => ?_
    by_contra hnone
    apply h
    rw [List.any_eq_true]
    exact ⟨bad, hbad, by simpa using hnone⟩

theorem finishes_findRtiCorrections (data : CorrectionData)
    (element : SsrGenericAssistDataElement) :
    Finishes (findRtiCorrections data element) ↔
      ∀ rti ∈ element.gnssRealTimeIntegrity, ∀ bad ∈ rti.gnssBadSignalList.1,
        bad.badSignalId.isSome := by
  unfold findRtiCorrections
  cases element.gnssRealTimeIntegrity with
  | none => simp
  | some rti => simp [finishes_addRealTimeIntegrity]

theorem finishes_correctionData (cfg : Config) (assistData : SsrAssistData) :
    Finishes (correctionData cfg assistData) ↔ SignalsNamed assistData := by
  refine finishes_bind_of_total ?_ fun data _ => finishes_pure _
  exact finishes_foldlM (p := fun _ => True) trivial
    (fun element _ data _ => finishes_findRtiCorrections data element) (fun _ _ _ _ _ _ => trivial)

/-- The integrity elements and the alert leave the corrections alone. -/
theorem findRtiCorrections_keeps {data data' : CorrectionData}
    {element : SsrGenericAssistDataElement} (h : findRtiCorrections data element = .ok data') :
    ∃ rti, data' = { data with realTimeIntegrityData := rti } := by
  unfold findRtiCorrections CorrectionData.addRealTimeIntegrity at h
  split at h
  · split at h <;> cases h
    exact ⟨_, rfl⟩
  · cases h
    exact ⟨_, rfl⟩

theorem correctionData_eq {cfg : Config} {assistData : SsrAssistData} {data : CorrectionData}
    (h : correctionData cfg assistData = .ok data) :
    data.ocbData = collectedOcb assistData ∧ data.hpacData = collectedHpac assistData ∧
      (data.ionosphereDnu = 1 ↔ ionosphereSuppressed cfg assistData = true) := by
  obtain ⟨integrity, hloop, hdata⟩ := bind_eq_ok.1 h
  rw [foldl_find_eq] at hloop
  have hkeep : ∃ rti, integrity = { collected assistData with realTimeIntegrityData := rti } := by
    apply foldlM_induction (p := fun data : CorrectionData =>
      ∃ rti, data = { collected assistData with realTimeIntegrityData := rti }) hloop ⟨_, rfl⟩
    rintro element - data data' hone ⟨rti, rfl⟩
    obtain ⟨rti', rfl⟩ := findRtiCorrections_keeps hone
    exact ⟨rti', rfl⟩
  obtain ⟨rti, rfl⟩ := hkeep
  cases hdata
  unfold applyServiceAlert ionosphereSuppressed
  cases SsrAssistData.serviceAlert assistData with
  | none => exact ⟨rfl, rfl, by simp [collected, CorrectionData.new]⟩
  | some alert =>
    cases hcfg : cfg.mDoNotUseAtmosphere with
    | false => exact ⟨rfl, rfl, by simp [collected, CorrectionData.new]⟩
    | true => refine ⟨rfl, rfl, ?_⟩; cases ha : alert.ionosphereDoNotUse <;> simp [ha]

/-! ### The corrections of an issue of data -/

/-- The corrections that messages are generated for. -/
def CorrectionData.ocbCandidates (data : CorrectionData) (cfg : Config) (iod : ℕ) :
    List OcbCorrections :=
  match data.ocb iod with
  | some ocbData => Spartn.ocbCandidates cfg ocbData.pairs
  | none => []

def CorrectionData.hpacCandidates (data : CorrectionData) (cfg : Config) (iod : ℕ) :
    List HpacCorrections :=
  match data.hpac iod with
  | some hpacData => Spartn.hpacCandidates cfg hpacData.pairs
  | none => []

theorem mem_ocbCandidates {data : CorrectionData} {cfg : Config} {iod : ℕ} {c : OcbCorrections} :
    c ∈ data.ocbCandidates cfg iod ↔
      ∃ key, Table.find data.ocbData iod key = some c ∧ cfg.supported key.gnssId = true := by
  unfold CorrectionData.ocbCandidates CorrectionData.ocb Table.find
  cases data.ocbData.lookup iod with
  | none => simp
  | some ocbData =>
    exact Table.mem_valuesWhere (t := ocbData) (p := fun key => cfg.supported key.gnssId)

theorem mem_hpacCandidates {data : CorrectionData} {cfg : Config} {iod : ℕ}
    {c : HpacCorrections} :
    c ∈ data.hpacCandidates cfg iod ↔
      ∃ key, Table.find data.hpacData iod key = some c ∧ cfg.supported key.gnssId = true := by
  unfold CorrectionData.hpacCandidates CorrectionData.hpac Table.find
  cases data.hpacData.lookup iod with
  | none => simp
  | some hpacData =>
    exact Table.mem_valuesWhere (t := hpacData) (p := fun key => cfg.supported key.gnssId)

/-- The key that corrections are under. -/
def OcbCorrections.key (corrections : OcbCorrections) : OcbKey :=
  CorrectionData.ocbKey corrections.gnssId corrections.epochTime

def HpacCorrections.key (corrections : HpacCorrections) : HpacKey :=
  CorrectionData.hpacKey corrections.gnssId corrections.setId corrections.epochTime

section

variable {assistData : SsrAssistData} {iod : ℕ}

theorem isSome_find_ocb {key : OcbKey} :
    (Table.find (collectedOcb assistData) iod key).isSome ↔
      ∃ entry ∈ ocbElements assistData, iod = ocbIod entry ∧ key = ocbKeyOf entry :=
  Table.isSome_find_foldl ..

theorem isSome_find_hpac {key : HpacKey} :
    (Table.find (collectedHpac assistData) iod key).isSome ↔
      ∃ entry ∈ hpacElements assistData, iod = hpacIod entry ∧ key = hpacKeyOf entry :=
  Table.isSome_find_foldl ..

theorem ocb_of_find {key : OcbKey} {c : OcbCorrections}
    (h : Table.find (collectedOcb assistData) iod key = some c) : c.key = key := by
  refine Table.forall_find_foldl (p := fun _ key (c : OcbCorrections) => c.key = key) _ ?_ h
  rintro ⟨gnssId, element⟩ - c
  cases element <;> rfl

theorem hpac_of_find {key : HpacKey} {c : HpacCorrections}
    (h : Table.find (collectedHpac assistData) iod key = some c) : c.key = key := by
  refine Table.forall_find_foldl (p := fun _ key (c : HpacCorrections) => c.key = key) _ ?_ h
  rintro ⟨gnssId, element⟩ - c
  cases element <;> rfl

/-- There is a STEC correction exactly when an element of the key is one. -/
theorem isSome_stec {key : HpacKey} {c : HpacCorrections}
    (h : Table.find (collectedHpac assistData) iod key = some c) :
    c.stec.isSome ↔ ∃ entry ∈ hpacElements assistData,
      iod = hpacIod entry ∧ key = hpacKeyOf entry ∧ entry.2.isStec = true := by
  have hloop : ∀ (l : List (GnssId × HpacElement)) (o : Option HpacCorrections),
      ((l.foldl (fun o entry => some (hpacUpdate entry (o.getD HpacCorrections.new))) o).bind
          (·.stec)).isSome ↔ (o.bind (·.stec)).isSome ∨ ∃ entry ∈ l, entry.2.isStec = true := by
    intro l
    induction l with
    | nil => simp
    | cons entry l ih =>
      intro o
      rw [List.foldl_cons, ih, List.exists_mem_cons_iff, ← or_assoc]
      apply or_congr_left
      obtain ⟨gnssId, element⟩ := entry
      cases o <;> cases element <;>
        simp [hpacUpdate, HpacElement.store, HpacElement.isStec, HpacCorrections.new]
  have hfold : Table.find (collectedHpac assistData) iod key =
      ((hpacElements assistData).filter fun entry =>
        iod = hpacIod entry ∧ key = hpacKeyOf entry).foldl
          (fun o entry => some (hpacUpdate entry (o.getD HpacCorrections.new))) none :=
    Table.find_foldl_modify ..
  rw [h] at hfold
  have hstec := hloop ((hpacElements assistData).filter fun entry =>
    iod = hpacIod entry ∧ key = hpacKeyOf entry) none
  rw [← hfold] at hstec
  simpa [List.mem_filter, and_assoc] using hstec

end

end SuplLpp.Spartn
