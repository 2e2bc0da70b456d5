import SuplLpp.Gnss.Ids
import SuplLpp.Lib.Decimal

/-!
# Observation records in RINEX

`format::rinex::Builder` writes a header, and for every satellite of an epoch a line with its
observations in the order of the header.

* `ObservationType` and the orders of the four systems;
* `Builder` and its functions; of the header only the observation types, as they are written;
* `Column`, `Laid`: an observation line as it is to be, and what is read back from it;
* `laidFields_iff`: for which observations the fields of a line are laid out so;
* `observations_iff`: the same for the lines of a builder, after any calls.
-/

namespace SuplLpp.Format.Rinex

open Decimal

inductive ObservationKind
  | code
  | phase
  | doppler
  | signalStrength
  deriving DecidableEq

/-- The value of the enumerator. -/
def ObservationKind.toInt : ObservationKind → ℕ
  | .code => 0
  | .phase => 1
  | .doppler => 2
  | .signalStrength => 3

structure ObservationType where
  kind : ObservationKind
  signalId : SignalId
  deriving DecidableEq

/-- `operator<`. -/
def ObservationType.lt (a b : ObservationType) : Bool :=
  if a.signalId.lppId < b.signalId.lppId then true
  else if a.signalId.lppId > b.signalId.lppId then false
  else a.kind.toInt < b.kind.toInt

/-! ### The builder -/

def gGpsSignals : List SignalId := [0, 8, 11, 14].map (SignalId.fromLpp .gps)

def gGloSignals : List SignalId := [0, 1].map (SignalId.fromLpp .glonass)

def gGalSignals : List SignalId := [8, 17, 20, 23].map (SignalId.fromLpp .galileo)

def gBdsSignals : List SignalId := [0, 3, 11, 14].map (SignalId.fromLpp .beidou)

/-- The types of a system, if it is supported. -/
def typeOrder (support : Bool) (signals : List SignalId) : List ObservationType :=
  if support then
    signals.flatMap fun signal => [⟨.code, signal⟩, ⟨.phase, signal⟩, ⟨.signalStrength, signal⟩]
  else []

/-- What is written: the observation types of a system in the header, the line of an epoch and that
of a satellite. -/
inductive Output
  | observationTypes (gnss : Char) (types : List ObservationType)
  | epoch
  | observations (text : List Char)

/-- The members that the observation lines depend on, and what has been written. -/
structure Builder where
  mVersion : ℚ
  mGpsTypeOrder : List ObservationType
  mGloTypeOrder : List ObservationType
  mGalTypeOrder : List ObservationType
  mBdsTypeOrder : List ObservationType
  mGpsSupport : Bool
  mGloSupport : Bool
  mGalSupport : Bool
  mBdsSupport : Bool
  mInitialized : Bool
  mStream : List Output

/-- `SatelliteId::to_string`. -/
def satelliteText (id : SatelliteId) : List Char :=
  let letter :=
    match id.mGnss with
    | .gps => 'G'
    | .glonass => 'R'
    | .galileo => 'E'
    | .beidou => 'C'
    | .qzss => 'J'
    | .unknown => 'U'
  letter ::
    if 0 ≤ id.mLppId then (Nat.toDigits 10 id.mLppId.toNat).leftpad 2 '0'
    else '-' :: Nat.toDigits 10 id.mLppId.natAbs

/-- What `observations` writes for one type. -/
def field (observations : ObservationType → Option Signed) (lossSignals : SignalId → Bool)
    (type : ObservationType) : List Char :=
  match observations type with
  | none => setw 14 [] ++ [' ', ' ']
  | some value =>
    if type.kind = .phase then
      setw 15 (value.text 3) ++ (if lossSignals type.signalId then ['0'] else []) ++ [' ']
    else setw 14 (value.text 3) ++ [' ', ' ']

namespace Builder

/-- The constructor. -/
def new (version : ℚ) : Builder := ⟨version, [], [], [], [], true, true, true, true, false, []⟩

def generateObservationOrder (b : Builder) : Builder := { b with
  mGpsTypeOrder := typeOrder b.mGpsSupport gGpsSignals
  mGloTypeOrder := typeOrder b.mGloSupport gGloSignals
  mGalTypeOrder := typeOrder b.mGalSupport gGalSignals
  mBdsTypeOrder := typeOrder b.mBdsSupport gBdsSignals }

def headerObservationTypesGnss (types : List ObservationType) (gnss : Char) : List Output :=
  if types = [] then [] else [.observationTypes gnss types]

/-- `std::sort`. -/
def sort (types : List ObservationType) : List ObservationType :=
  types.mergeSort fun a b => !b.lt a

def headerObservationTypes (b : Builder) : Builder :=
  let b := { b with
    mGpsTypeOrder := sort b.mGpsTypeOrder
    mGloTypeOrder := sort b.mGloTypeOrder
    mGalTypeOrder := sort b.mGalTypeOrder
    mBdsTypeOrder := sort b.mBdsTypeOrder }
  { b with mStream := b.mStream ++
    (headerObservationTypesGnss b.mGpsTypeOrder 'G' ++
      (headerObservationTypesGnss b.mGloTypeOrder 'R' ++
        (headerObservationTypesGnss b.mGalTypeOrder 'E' ++
          headerObservationTypesGnss b.mBdsTypeOrder 'C'))) }

/-- `epoch`; the file can be opened, or not. -/
def epoch (b : Builder) (isOpen : Bool) (satellites : List SatelliteId) : Builder :=
  if satellites = [] then b
  else if b.mInitialized then { b with mStream := b.mStream ++ [.epoch] }
  else if isOpen then
    let b := b.generateObservationOrder.headerObservationTypes
    { b with mInitialized := true, mStream := b.mStream ++ [.epoch] }
  else b

/-- `observation_types`; no value where it is not reachable. -/
def observationTypes (b : Builder) (id : SatelliteId) : Option (List ObservationType) :=
  match id.mGnss with
  | .gps => some b.mGpsTypeOrder
  | .glonass => some b.mGloTypeOrder
  | .galileo => some b.mGalTypeOrder
  | .beidou => some b.mBdsTypeOrder
  | .qzss | .unknown => none

/-- `observations`; nothing is written when the file has not been opened. -/
def observations (b : Builder) (id : SatelliteId)
    (observations : ObservationType → Option Signed) (lossSignals : SignalId → Bool) :
    Option Builder :=
  (b.observationTypes id).map fun order =>
    let text := (if b.mVersion ≥ 3 then satelliteText id else []) ++
      order.flatMap (field observations lossSignals)
    if b.mInitialized then { b with mStream := b.mStream ++ [.observations text] } else b

end Builder

/-! ### The calls -/

inductive Op
  | setSupport (gps glo gal bds : Bool)
  | epoch (isOpen : Bool) (satellites : List SatelliteId)
  | observations (id : SatelliteId) (observations : ObservationType → Option Signed)
    (lossSignals : SignalId → Bool)

def Builder.step (b : Builder) : Op → Option Builder
  | .setSupport gps glo gal bds =>
    some { b with mGpsSupport := gps, mGloSupport := glo, mGalSupport := gal, mBdsSupport := bds }
  | .epoch isOpen satellites => some (b.epoch isOpen satellites)
  | .observations id observations lossSignals => b.observations id observations lossSignals

/-- The calls one after the other, as long as they return. -/
def Builder.run (b : Builder) (ops : List Op) : Option Builder := ops.foldlM Builder.step b

/-! ### The layout of a line -/

/-- The 16 columns of an observation. -/
structure Column where
  value : List Char
  lossOfLock : Char
  signalStrength : Char

def Column.text (c : Column) : List Char := c.value ++ [c.lossOfLock, c.signalStrength]

section Layout

variable (observed : ObservationType → Option Signed) (lossSignals : SignalId → Bool)

/-- The columns of an observation: the value in 14 columns with 3 decimals, which is read back
rounded, or blanks; and a flag for the phase of a lost signal. -/
def Column.Holds (type : ObservationType) (c : Column) : Prop :=
  c.value.length = 14 ∧
  match observed type with
  | none => c.value = setw 14 [] ∧ c.lossOfLock = ' '
  | some v => c.value = setw 14 (v.text 3) ∧ read 3 c.value = some (v.rounded 3) ∧
      (c.lossOfLock ≠ ' ' ↔ type.kind = .phase ∧ lossSignals type.signalId = true)

/-- The columns of the types, one after the other. -/
def LaidFields (types : List ObservationType) (text : List Char) : Prop :=
  ∃ columns, List.Forall₂ (Column.Holds observed lossSignals) types columns ∧
    text = columns.flatMap Column.text

/-- The satellite, in three characters, and the columns. -/
def Laid (types : List ObservationType) (id : SatelliteId) (text : List Char) : Prop :=
  (satelliteText id).length = 3 ∧ ∃ rest, text = satelliteText id ++ rest ∧
    LaidFields observed lossSignals types rest

/-- The observation is no phase, and does not round to a billion with a minus. -/
def Fits (type : ObservationType) : Prop :=
  ∀ v, observed type = some v → type.kind ≠ .phase ∧
    (v.negative = true → v.magnitude < 10 ^ 9 - 1 / 2000)

variable {observed lossSignals}

/-- The text of a number below a billion, and when it has 14 characters at most. -/
theorem length_text (v : Signed) (hsmall : v.magnitude < 10 ^ 9) :
    (v.text 3).length ≤ 14 ↔ (v.negative = true → v.magnitude < 10 ^ 9 - 1 / 2000) := by
  have hnine : v.units 3 < 10 ^ 12 ↔ v.magnitude < 10 ^ 9 - 1 / 2000 := by
    rw [units_lt_iff (by norm_num) (by norm_num)]
    push_cast
    constructor <;> intro h <;> linarith
  have hten : v.units 3 < 10 ^ 13 := by
    rw [units_lt_iff (by norm_num) (by norm_num)]
    push_cast
    linarith
  rw [← hnine]
  cases hneg : v.negative with
  | true =>
    have hlength := length_text_le_iff (by decide : 0 < 3) v (by decide : 0 < 9)
    rw [Signed.signText, hneg] at hlength
    simpa using hlength
  | false =>
    have hlength := (length_text_le_iff (by decide : 0 < 3) v (by decide : 0 < 10)).2 hten
    rw [Signed.signText, hneg] at hlength
    simpa using hlength

theorem length_setw (w : ℕ) (text : List Char) : (setw w text).length = max w text.length :=
  List.length_leftpad

/-- Columns that hold stand only where the observation fits, and have the length of the field. -/
theorem fits_of_holds {type : ObservationType} {c : Column} {rest rest' : List Char}
    (hsmall : ∀ v, observed type = some v → v.magnitude < 10 ^ 9)
    (hholds : c.Holds observed lossSignals type)
    (heq : field observed lossSignals type ++ rest = c.text ++ rest') :
    Fits observed type ∧ rest = rest' := by
  obtain ⟨hlength, hcolumn⟩ := hholds
  have htext : c.text.length = 16 := by
    rw [Column.text, List.length_append, hlength]
    rfl
  rw [field] at heq
  cases hobserved : observed type with
  | none =>
    rw [hobserved] at heq
    refine ⟨fun v hv => ?_, (List.append_inj heq (by rw [htext]; rfl)).2⟩
    rw [hobserved] at hv
    cases hv
  | some v =>
    rw [hobserved] at heq hcolumn
    obtain ⟨hvalue, -, -⟩ := hcolumn
    rw [hvalue, length_setw] at hlength
    have hfits : (v.text 3).length ≤ 14 := by omega
    by_cases hphase : type.kind = .phase
    · simp only [if_pos hphase, Column.text, hvalue, List.append_assoc] at heq
      exact absurd heq.symm (ne_of_wider v (by decide) hfits _ _)
    · simp only [if_neg hphase] at heq
      refine ⟨fun v' hv' => ?_, (List.append_inj heq ?_).2⟩
      · obtain rfl := Option.some.inj (hobserved.symm.trans hv')
        exact ⟨hphase, (length_text v (hsmall v hobserved)).1 hfits⟩
      · rw [htext, List.length_append, length_setw]
        exact congrArg (· + 2) hlength

/-- The field of an observation that fits is columns that hold. -/
theorem holds_of_fits {type : ObservationType}
    (hsmall : ∀ v, observed type = some v → v.magnitude < 10 ^ 9) (hfits : Fits observed type) :
    ∃ c : Column, c.Holds observed lossSignals type ∧
      c.text = field observed lossSignals type := by
  cases hobserved : observed type with
  | none =>
    refine ⟨⟨setw 14 [], ' ', ' '⟩, ⟨rfl, ?_⟩, ?_⟩
    · rw [hobserved]
      exact ⟨rfl, rfl⟩
    · rw [field, hobserved]
      rfl
  | some v =>
    obtain ⟨hkind, hshort⟩ := hfits v hobserved
    have hlength := (length_text v (hsmall v hobserved)).2 hshort
    refine ⟨⟨setw 14 (v.text 3), ' ', ' '⟩, ⟨?_, ?_⟩, ?_⟩
    · rw [length_setw]
      exact Nat.max_eq_left hlength
    · rw [hobserved]
      exact ⟨rfl, read_setw_text (by decide) v 14,
        iff_of_false (fun h => h rfl) fun h => hkind h.1⟩
    · rw [field, hobserved]
      exact (if_neg hkind).symm

/-- **The fields are laid out so** if and only if every observation fits. -/
theorem laidFields_iff {types : List ObservationType}
    (hsmall : ∀ type v, observed type = some v → v.magnitude < 10 ^ 9) :
    LaidFields observed lossSignals types (types.flatMap (field observed lossSignals)) ↔
      ∀ type ∈ types, Fits observed type := by
  induction types with
  | nil => exact ⟨fun _ _ h => (List.not_mem_nil h).elim, fun _ => ⟨[], .nil, rfl⟩⟩
  | cons type types ih =>
    rw [List.forall_mem_cons, ← ih, List.flatMap_cons]
    constructor
    · rintro ⟨_, hcolumns, htext⟩
      obtain ⟨c, columns, hholds, hrest, rfl⟩ := List.forall₂_cons_left_iff.1 hcolumns
      obtain ⟨hfits, heq⟩ := fits_of_holds (hsmall type) hholds htext
      exact ⟨hfits, columns, hrest, heq⟩
    · rintro ⟨hfits, columns, hrest, heq⟩
      obtain ⟨c, hholds, htext⟩ : ∃ c : Column, c.Holds observed lossSignals type ∧
          c.text = field observed lossSignals type := holds_of_fits (hsmall type) hfits
      exact ⟨c :: columns, .cons hholds hrest, by rw [List.flatMap_cons, htext, heq]⟩

end Layout

/-! ### The header -/

/-- The types of a system in the header. -/
def headerOrder (stream : List Output) (gnss : Char) : List ObservationType :=
  (stream.findSome? fun
    | .observationTypes ch types => if ch = gnss then some types else none
    | _ => none).getD []

/-- The types of the system of a satellite; no value for the systems without a header. -/
def headerTypes (stream : List Output) (id : SatelliteId) : Option (List ObservationType) :=
  match id.mGnss with
  | .gps => some (headerOrder stream 'G')
  | .glonass => some (headerOrder stream 'R')
  | .galileo => some (headerOrder stream 'E')
  | .beidou => some (headerOrder stream 'C')
  | .qzss | .unknown => none

theorem headerOrder_append {stream : List Output} {output : Output} (gnss : Char)
    (h : ∀ ch types, output ≠ .observationTypes ch types) :
    headerOrder (stream ++ [output]) gnss = headerOrder stream gnss := by
  have hnone : ([output].findSome? fun
      | .observationTypes ch types => if ch = gnss then some types else none
      | _ => none) = none := by
    cases output with
    | observationTypes ch types => exact absurd rfl (h ch types)
    | epoch => rfl
    | observations text => rfl
  rw [headerOrder, List.findSome?_append, hnone, Option.or_none]
  rfl

/-- The types of a system are those that are written for it. -/
theorem headerOrder_types (types : List ObservationType) (ch gnss : Char) (rest : List Output)
    (hrest : headerOrder rest ch = []) :
    headerOrder (Builder.headerObservationTypesGnss types ch ++ rest) gnss =
      if ch = gnss then types else headerOrder rest gnss := by
  rw [Builder.headerObservationTypesGnss]
  by_cases htypes : types = []
  · rw [if_pos htypes, List.nil_append, htypes]
    split
    · rename_i heq
      rw [← heq, hrest]
    · rfl
  · rw [if_neg htypes, List.singleton_append, headerOrder, List.findSome?_cons]
    by_cases heq : ch = gnss
    · simp only [if_pos heq, Option.getD_some]
    · simp only [if_neg heq]
      rfl

namespace Builder

/-- The orders are those of the header, once it has been written; nothing is written before. -/
def Keeps (b : Builder) : Prop :=
  if b.mInitialized then ∀ id, headerTypes b.mStream id = b.observationTypes id
  else b.mStream = []

theorem headerTypes_append {stream : List Output} {output : Output} (id : SatelliteId)
    (h : ∀ ch types, output ≠ .observationTypes ch types) :
    headerTypes (stream ++ [output]) id = headerTypes stream id := by
  simp only [headerTypes, headerOrder_append _ h]

/-- **The header has the orders** in which the observations follow. -/
theorem headerTypes_headerObservationTypes {b : Builder} (h : b.mStream = []) (id : SatelliteId) :
    headerTypes b.headerObservationTypes.mStream id =
      b.headerObservationTypes.observationTypes id := by
  have horder : ∀ gnss, headerOrder b.headerObservationTypes.mStream gnss =
      if 'G' = gnss then sort b.mGpsTypeOrder else if 'R' = gnss then sort b.mGloTypeOrder
      else if 'E' = gnss then sort b.mGalTypeOrder else if 'C' = gnss then sort b.mBdsTypeOrder
      else [] := by
    have hbds : ∀ gnss, headerOrder (headerObservationTypesGnss (sort b.mBdsTypeOrder) 'C') gnss =
        if 'C' = gnss then sort b.mBdsTypeOrder else [] := fun gnss => by
      have hlast := headerOrder_types (sort b.mBdsTypeOrder) 'C' gnss [] rfl
      rwa [List.append_nil] at hlast
    have hgal := fun gnss => headerOrder_types (sort b.mGalTypeOrder) 'E' gnss _ (hbds 'E')
    have hglo := fun gnss => headerOrder_types (sort b.mGloTypeOrder) 'R' gnss _
      ((hgal 'R').trans (hbds 'R'))
    have hgps := fun gnss => headerOrder_types (sort b.mGpsTypeOrder) 'G' gnss _
      ((hglo 'G').trans ((hgal 'G').trans (hbds 'G')))
    intro gnss
    rw [← hbds gnss, ← hgal gnss, ← hglo gnss, ← hgps gnss, headerObservationTypes, h]
    rfl
  rw [headerTypes, observationTypes]
  cases id.mGnss <;> simp only [horder] <;> rfl

theorem Keeps.append {b : Builder} (h : b.Keeps) (hinit : b.mInitialized = true) {output : Output}
    (houtput : ∀ ch types, output ≠ .observationTypes ch types) :
    Keeps { b with mStream := b.mStream ++ [output] } := by
  rw [Keeps, if_pos hinit] at h
  rw [Keeps, if_pos hinit]
  exact fun id => (headerTypes_append id houtput).trans (h id)

theorem Keeps.step {b b' : Builder} (h : b.Keeps) {op : Op} (hstep : b.step op = some b') :
    b'.Keeps := by
  cases op with
  | setSupport gps glo gal bds =>
    obtain rfl := Option.some.inj hstep
    exact h
  | epoch isOpen satellites =>
    obtain rfl := Option.some.inj hstep
    rw [epoch]
    by_cases hsatellites : satellites = []
    · rwa [if_pos hsatellites]
    · rw [if_neg hsatellites]
      by_cases hinit : b.mInitialized = true
      · rw [if_pos hinit]
        exact h.append hinit fun _ _ => nofun
      · rw [if_neg hinit]
        by_cases hopen : isOpen = true
        · rw [if_pos hopen]
          rw [Keeps, if_neg hinit] at h
          have houtput : ∀ ch types, Output.epoch ≠ .observationTypes ch types := fun _ _ => nofun
          exact fun id => (headerTypes_append id houtput).trans
            (headerTypes_headerObservationTypes (b := b.generateObservationOrder) h id)
        · rwa [if_neg hopen]
  | observations id observed lossSignals =>
    obtain ⟨order, -, rfl⟩ := Option.map_eq_some_iff.1 hstep
    by_cases hinit : b.mInitialized = true
    · simp only [if_pos hinit]
      exact h.append hinit fun _ _ => nofun
    · simp only [if_neg hinit]
      exact h

theorem Keeps.run {ops : List Op} {b b' : Builder} (h : b.Keeps) (hrun : b.run ops = some b') :
    b'.Keeps := by
  induction ops generalizing b with
  | nil =>
    obtain rfl := Option.some.inj hrun
    exact h
  | cons op ops ih =>
    obtain ⟨b₁, hstep, hrest⟩ := Option.bind_eq_some_iff.1 hrun
    exact ih (h.step hstep) hrest

end Builder

/-! ### The lines of a builder -/

theorem not_isAlpha_of_isDigit {c : Char} (h : c.isDigit = true) : ¬c.isAlpha = true := by
  have hdigit : c ≤ '9' := of_decide_eq_true (Bool.and_eq_true_iff.1 h).2
  intro halpha
  rcases Bool.or_eq_true_iff.1 halpha with hupper | hlower
  · exact absurd (Char.le_trans (of_decide_eq_true hupper).1 hdigit) (by decide)
  · have ha : 'a' ≤ c := of_decide_eq_true (Bool.and_eq_true_iff.1 hlower).1
    exact absurd (Char.le_trans ha hdigit) (by decide)

theorem not_isAlpha_of_mem_setw {w : ℕ} {v : Signed} :
    ∀ c ∈ setw w (v.text 3), ¬c.isAlpha = true := by
  intro c hc
  rw [setw_text, List.mem_append, List.mem_append, List.mem_append, List.mem_cons] at hc
  rcases hc with (hc | hc | hc) | rfl | hc
  · rw [List.eq_of_mem_replicate hc]
    decide
  · rw [Signed.signText] at hc
    split at hc
    · rw [List.mem_singleton.1 hc]
      decide
    · cases hc
  · exact not_isAlpha_of_isDigit (isDigit_wholeText 3 v c hc)
  · decide
  · exact not_isAlpha_of_isDigit (isDigit_decimals 3 v c hc)

theorem not_isAlpha_of_all {text : List Char} (h : text.all (fun c => !c.isAlpha) = true) :
    ∀ c ∈ text, ¬c.isAlpha = true := by
  intro c hc
  simpa using List.all_eq_true.1 h c hc

/-- A character of a field is no letter. -/
theorem not_isAlpha_of_mem_field {observed : ObservationType → Option Signed}
    {lossSignals : SignalId → Bool} {type : ObservationType} :
    ∀ c ∈ field observed lossSignals type, ¬c.isAlpha = true := by
  intro c hc
  rw [field] at hc
  cases hobserved : observed type with
  | none =>
    rw [hobserved] at hc
    dsimp only at hc
    exact not_isAlpha_of_all (by decide) c hc
  | some v =>
    rw [hobserved] at hc
    dsimp only at hc
    split at hc
    · rw [List.mem_append, List.mem_append] at hc
      rcases hc with (hc | hc) | hc
      · exact not_isAlpha_of_mem_setw c hc
      · split at hc
        · rw [List.mem_singleton.1 hc]
          decide
        · cases hc
      · rw [List.mem_singleton.1 hc]
        decide
    · rw [List.mem_append] at hc
      rcases hc with hc | hc
      · exact not_isAlpha_of_mem_setw c hc
      · exact not_isAlpha_of_all (by decide) c hc

/-- The satellite stands in three characters, the first a letter. -/
theorem satelliteText_spec {id : SatelliteId} (hid : id.prn ≠ none) :
    (satelliteText id).length = 3 ∧ ∃ c ∈ satelliteText id, c.isAlpha = true := by
  have hrange : 0 ≤ id.mLppId ∧ id.mLppId < 64 := by
    by_contra hnot
    exact hid (if_neg hnot)
  refine ⟨?_, _, List.mem_cons_self, ?_⟩
  · rw [satelliteText, List.length_cons, if_pos hrange.1, List.length_leftpad,
      Nat.max_eq_left ((Nat.length_toDigits_le_iff (by decide) (by decide)).2 (by omega))]
  · cases id.mGnss <;> decide

/-- The satellite is of a system with a header, the lines begin with it, and all its observations
fit. -/
def AllFit (b : Builder) (id : SatelliteId) (observed : ObservationType → Option Signed) : Prop :=
  3 ≤ b.mVersion ∧
    ∃ types, headerTypes b.mStream id = some types ∧ ∀ type ∈ types, Fits observed type

/-- The call writes a line for the satellite, laid out in the order of the header. -/
def WritesLaid (b : Builder) (id : SatelliteId) (observed : ObservationType → Option Signed)
    (lossSignals : SignalId → Bool) : Prop :=
  ∃ b' text types, b.observations id observed lossSignals = some b' ∧
    b'.mStream = b.mStream ++ [.observations text] ∧ headerTypes b.mStream id = some types ∧
    Laid observed lossSignals types id text

/-- A line after the header. -/
theorem writesLaid_iff {b : Builder} (hkeeps : b.Keeps) (hinit : b.mInitialized = true)
    {id : SatelliteId} (hid : id.prn ≠ none) {observed : ObservationType → Option Signed}
    (hsmall : ∀ type v, observed type = some v → v.magnitude < 10 ^ 9)
    (lossSignals : SignalId → Bool) :
    WritesLaid b id observed lossSignals ↔ AllFit b id observed := by
  rw [Builder.Keeps, if_pos hinit] at hkeeps
  obtain ⟨hthree, letter, hletter, halpha⟩ := satelliteText_spec hid
  constructor
  · rintro ⟨b', text, types, hwrite, hstream, htypes, -, rest, htext, hlaid⟩
    obtain ⟨order, horder, rfl⟩ := Option.map_eq_some_iff.1 hwrite
    obtain rfl : order = types :=
      Option.some.inj (horder.symm.trans ((hkeeps id).symm.trans htypes))
    simp only [if_pos hinit] at hstream
    have hline := Output.observations.inj (List.singleton_inj.1 (List.append_cancel_left hstream))
    rw [htext] at hline
    by_cases hversion : 3 ≤ b.mVersion
    · rw [if_pos hversion] at hline
      rw [← List.append_cancel_left hline] at hlaid
      exact ⟨hversion, order, htypes, (laidFields_iff hsmall).1 hlaid⟩
    · -- without the satellite there is no letter in the line
      rw [if_neg hversion, List.nil_append] at hline
      have hmem : letter ∈ order.flatMap (field observed lossSignals) := by
        rw [hline]
        exact List.mem_append_left _ hletter
      obtain ⟨type, -, hfield⟩ := List.mem_flatMap.1 hmem
      exact absurd halpha (not_isAlpha_of_mem_field letter hfield)
  · rintro ⟨hversion, types, htypes, hfits⟩
    have horder := (hkeeps id).symm.trans htypes
    refine ⟨_, _, types, by rw [Builder.observations, horder]; rfl, ?_, htypes, hthree, _, rfl,
      (laidFields_iff hsmall).2 hfits⟩
    simp only [if_pos hinit, if_pos hversion]

theorem keeps_new (version : ℚ) : (Builder.new version).Keeps := rfl

/-- **The line of a satellite**, after any calls in which the header was written: it is laid out as
it is to be if and only if it begins with the satellite and all observations fit. -/
theorem observations_iff {version : ℚ} {ops : List Op} {b : Builder}
    (hrun : (Builder.new version).run ops = some b) (hinit : b.mInitialized = true)
    {id : SatelliteId} (hid : id.prn ≠ none) {observed : ObservationType → Option Signed}
    (hsmall : ∀ type v, observed type = some v → v.magnitude < 10 ^ 9)
    (lossSignals : SignalId → Bool) :
    WritesLaid b id observed lossSignals ↔ AllFit b id observed :=
  writesLaid_iff ((keeps_new version).run hrun) hinit hid hsmall lossSignals

/-! ### A satellite without a phase, and with one -/

/-- The first epoch, with one satellite. -/
def firstEpoch : Builder := (Builder.new (304 / 100)).epoch true [⟨.gps, 0⟩]

theorem run_firstEpoch :
    (Builder.new (304 / 100)).run [.epoch true [⟨.gps, 0⟩]] = some firstEpoch := rfl

theorem version_firstEpoch : firstEpoch.mVersion = 304 / 100 := rfl

/-- A range of 23052113.554 metres. -/
def range : Signed := ⟨false, 23052113554 / 1000, by norm_num⟩

theorem range_lt : range.magnitude < 10 ^ 9 := by norm_num [range]

theorem observations_iff_code :
    WritesLaid firstEpoch ⟨.gps, 0⟩ (fun type => if type.kind = .code then some range else none)
      (fun _ => false) := by
  refine (observations_iff run_firstEpoch rfl (by decide) (fun type v hv => ?_) _).2
    ⟨by norm_num [version_firstEpoch], _, rfl, fun type _ v hv => ?_⟩
  · split at hv
    · rw [← Option.some.inj hv]
      exact range_lt
    · cases hv
  · dsimp only at hv
    split at hv
    case isTrue hcode =>
      rw [← Option.some.inj hv, hcode]
      exact ⟨by decide, fun h => absurd h (by decide)⟩
    case isFalse => cases hv

/-- **With the phase of a signal** the columns are not those of the header's types. -/
theorem not_writesLaid_phase :
    ¬WritesLaid firstEpoch ⟨.gps, 0⟩ (fun _ => some range) (fun _ => false) := by
  have hkeeps : firstEpoch.Keeps := (keeps_new _).run run_firstEpoch
  rw [writesLaid_iff hkeeps rfl (by decide) fun _ v hv => by
    rw [← Option.some.inj hv]
    exact range_lt]
  rintro ⟨-, types, htypes, hfits⟩
  have hmem : (⟨.phase, SignalId.fromLpp .gps 0⟩ : ObservationType) ∈ types := by
    have horder : Builder.sort (typeOrder true gGpsSignals) = types :=
      Option.some.inj ((hkeeps ⟨.gps, 0⟩).symm.trans htypes)
    rw [← horder, Builder.sort, List.mem_mergeSort]
    decide
  exact (hfits _ hmem range rfl).1 rfl

end SuplLpp.Format.Rinex
