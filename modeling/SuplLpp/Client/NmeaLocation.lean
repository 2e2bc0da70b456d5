import Mathlib.Data.Rat.Floor
import SuplLpp.Lib.Mealy

/-!
# Positions from NMEA messages

`NmeaLocation` keeps the last GGA, VTG, GST and EPE message and reports a position from them.
With an order list it reports once the messages of the list have come in their order.

* `Config`, `Message`, `NmeaLocation`, `consume`: the processor, as the source has it;
* `Tracked`, `step`: the processor beside the messages accepted in the current round of the
  order list;
* `Grouped`: what a report may combine, and what a completed round leaves behind;
* `InTurn`: the messages after which this holds; `grouped_run`, over whole runs.

A report keeps the messages it combines, and `process` computes what is pushed from them.
Coordinates and errors are rationals; the factor between two confidence levels, a quotient of
logarithms, is a number of the configuration.
-/

namespace SuplLpp.Client

/-! ### Messages -/

/-- `format::nmea::GgaFixQuality`. -/
inductive GgaFixQuality
  | invalid
  | gpsFix
  | dgpsFix
  | ppsFix
  | rtkFixed
  | rtkFloat
  | deadReckoning
  deriving DecidableEq, Repr

/-- `format::nmea::GgaMessage`; the altitude is mean sea level plus geoid separation. -/
structure Gga where
  timeOfDay : ℕ
  latitude : ℚ
  longitude : ℚ
  fixQuality : GgaFixQuality
  satellitesInView : ℤ
  hDop : ℚ
  msl : ℚ
  geoidSeparation : ℚ
  ageOfDifferentialCorrections : ℚ
  deriving DecidableEq, Repr

/-- `format::nmea::VtgMessage`. -/
structure Vtg where
  trueCourseOverGround : ℚ
  speedOverGroundKmh : ℚ
  deriving DecidableEq, Repr

/-- The errors that a GST or an EPE message gives. -/
structure Errors where
  semiMajor : ℚ
  semiMinor : ℚ
  orientation : ℚ
  verticalPositionError : ℚ
  deriving DecidableEq, Repr

/-- A parsed message; `other` is any message but these four. -/
inductive Message
  | gga (m : Gga)
  | vtg (m : Vtg)
  | gst (m : Errors)
  | epe (m : Errors)
  | other
  deriving DecidableEq, Repr

/-- The names of the order list; the configuration parser drops every other name. -/
inductive MessageType
  | gga
  | vtg
  | gst
  | epe
  deriving DecidableEq, Repr

/-- `message_type`. -/
def Message.messageType : Message → Option MessageType
  | .gga _ => some .gga
  | .vtg _ => some .vtg
  | .gst _ => some .gst
  | .epe _ => some .epe
  | .other => none

/-- `LocationInformationConfig`, as far as the processor reads it. -/
structure Config where
  convertConfidence95To68 : Bool
  outputEllipse68 : Bool
  /-- The quotient of the confidence multipliers for 0.6827 and 0.393469. -/
  scaleTo68 : ℚ
  overrideHorizontalConfidence : ℚ
  nmeaRequireGst : Bool
  nmeaRequireVtg : Bool
  nmeaOrder : List MessageType
  nmeaOrderStrict : Bool

/-! ### What a report pushes -/

/-- `lpp::HorizontalAccuracy`. -/
structure HorizontalAccuracy where
  semiMajor : ℚ
  semiMinor : ℚ
  orientation : ℚ
  confidence : ℚ
  deriving DecidableEq, Repr

/-- Into `[0, 180)`, by steps of 180. -/
def normalizeOrientation (orientation : ℚ) : ℚ := orientation - 180 * ⌊orientation / 180⌋

/-- `HorizontalAccuracy::from_1sigma`. -/
def HorizontalAccuracy.from1sigma (semiMajor semiMinor orientation : ℚ) : HorizontalAccuracy where
  semiMajor := semiMajor
  semiMinor := semiMinor
  orientation := normalizeOrientation orientation
  confidence := 0.393469

/-- `HorizontalAccuracy::to_68`. -/
def HorizontalAccuracy.to68 (scale : ℚ) (accuracy : HorizontalAccuracy) : HorizontalAccuracy where
  semiMajor := accuracy.semiMajor * scale
  semiMinor := accuracy.semiMinor * scale
  orientation := accuracy.orientation
  confidence := 0.6827

/-- `NmeaLocation::horizontal_accuracy`. -/
def horizontalAccuracy (config : Config) (semiMajor semiMinor orientation : ℚ) :
    HorizontalAccuracy :=
  let scale := if config.convertConfidence95To68 then 2.4477 else 1
  let accuracy := HorizontalAccuracy.from1sigma (semiMajor / scale) (semiMinor / scale) orientation
  let accuracy := if config.outputEllipse68 then accuracy.to68 config.scaleTo68 else accuracy
  if 0 ≤ config.overrideHorizontalConfidence ∧ config.overrideHorizontalConfidence ≤ 1 then
    { accuracy with confidence := config.overrideHorizontalConfidence }
  else accuracy

/-- Where the accuracy of a report comes from: a GST or EPE message, or a fixed value. -/
inductive Accuracy
  | gst (m : Errors)
  | epe (m : Errors)
  | fixed (semi : ℚ)
  deriving DecidableEq, Repr

/-- The messages that a report combines. -/
structure Report where
  gga : Gga
  vtg : Option Vtg
  accuracy : Accuracy
  deriving DecidableEq, Repr

/-- `lpp::LocationInformation`, as far as `process` fills it; the velocity is speed and bearing. -/
structure LocationInformation where
  time : ℕ
  latitude : ℚ
  longitude : ℚ
  altitude : ℚ
  horizontal : HorizontalAccuracy
  vertical : ℚ
  velocity : ℚ × ℚ
  deriving DecidableEq, Repr

/-- `lpp::HaGnssMetrics`; `process` passes the fix quality on under the same name. -/
structure HaGnssMetrics where
  fixQuality : GgaFixQuality
  numberOfSatellites : ℤ
  hdop : ℚ
  ageOfCorrections : ℚ
  deriving DecidableEq, Repr

/-- `horizontal`, the first argument after the velocity of `process`. -/
def Report.horizontal (config : Config) (report : Report) : HorizontalAccuracy :=
  match report.accuracy with
  | .gst m | .epe m => horizontalAccuracy config m.semiMajor m.semiMinor m.orientation
  | .fixed semi => HorizontalAccuracy.from1sigma semi semi 0

/-- `vertical`, the uncertainty at confidence 0.68. -/
def Report.vertical (report : Report) : ℚ :=
  match report.accuracy with
  | .gst m | .epe m => m.verticalPositionError
  | .fixed _ => 1

/-- `velocity`: speed in metres per second and course. -/
def Report.velocity (report : Report) : ℚ × ℚ :=
  match report.vtg with
  | some vtg => (vtg.speedOverGroundKmh / 3.6, vtg.trueCourseOverGround)
  | none => (0, 0)

/-- `NmeaLocation::process`. -/
def process (config : Config) (report : Report) : LocationInformation × HaGnssMetrics :=
  ({ time := report.gga.timeOfDay
     latitude := report.gga.latitude
     longitude := report.gga.longitude
     altitude := report.gga.msl + report.gga.geoidSeparation
     horizontal := report.horizontal config
     vertical := report.vertical
     velocity := report.velocity },
   { fixQuality := report.gga.fixQuality
     numberOfSatellites := report.gga.satellitesInView
     hdop := report.gga.hDop
     ageOfCorrections := report.gga.ageOfDifferentialCorrections })

/-! ### The processor -/

/-- `NmeaLocation`: the last message of each type, and the types received in order. -/
structure NmeaLocation where
  mGga : Option Gga
  mVtg : Option Vtg
  mGst : Option Errors
  mEpe : Option Errors
  mOrderReceived : List MessageType
  deriving DecidableEq, Repr

/-- The state after construction, and after all members were reset. -/
def NmeaLocation.new : NmeaLocation := ⟨none, none, none, none, []⟩

/-- What `consume` does to its surroundings: it pushes a position, or indexes the order list
past its end. -/
inductive Output
  | report (report : Report) (pushed : LocationInformation × HaGnssMetrics)
  | pastEnd
  deriving DecidableEq, Repr

namespace NmeaLocation

/-- The casts at the start of `consume`: a message replaces the last one of its type. -/
def store (l : NmeaLocation) : Message → NmeaLocation
  | .gga m => { l with mGga := some m }
  | .vtg m => { l with mVtg := some m }
  | .gst m => { l with mGst := some m }
  | .epe m => { l with mEpe := some m }
  | .other => l

/-- The accuracy of a report; `none` where the configuration requires a message for it. -/
def accuracy (config : Config) (l : NmeaLocation) (gga : Gga) : Option Accuracy :=
  match l.mGst, l.mEpe with
  | some gst, _ => some (.gst gst)
  | none, some epe => some (.epe epe)
  | none, none =>
      if config.nmeaRequireGst then none
      else
        match gga.fixQuality with
        | .rtkFixed => some (.fixed 0.05)
        | .rtkFloat => some (.fixed 0.5)
        | _ => some (.fixed 5)

/-- The rest of `consume`, from the check for a GGA message on. -/
def reportPosition (config : Config) (l : NmeaLocation) : NmeaLocation × List Output :=
  match l.mGga with
  | none =>
      if config.nmeaOrder ≠ [] ∧ l.mOrderReceived.length = config.nmeaOrder.length then (new, [])
      else (l, [])
  | some gga =>
      match l.accuracy config gga with
      | none => (l, [])
      | some accuracy =>
          -- the order that is received stays full here and above, no member is reset
          if l.mVtg = none ∧ config.nmeaRequireVtg then (l, [])
          else
            let report : Report := ⟨gga, l.mVtg, accuracy⟩
            (if config.nmeaOrder = [] then l else new, [.report report (process config report)])

/-- `NmeaLocation::consume`; no state is left once the order list was indexed past its end. -/
def consume (config : Config) (l : NmeaLocation) (message : Message) :
    Option NmeaLocation × List Output :=
  match message.messageType with
  | none => (some l, [])
  | some messageType =>
      let l := l.store message
      if config.nmeaOrder = [] then
        ((l.reportPosition config).map some id)
      else
        match config.nmeaOrder[l.mOrderReceived.length]? with
        | none => (none, [.pastEnd])
        | some expected =>
            if expected ≠ messageType then
              if config.nmeaOrderStrict then (some new, []) else (some l, [])
            else
              let l := { l with mOrderReceived := l.mOrderReceived ++ [messageType] }
              if l.mOrderReceived.length ≠ config.nmeaOrder.length then (some l, [])
              else (l.reportPosition config).map some id

/-- The stored message of a type. -/
def stored (l : NmeaLocation) : MessageType → Option Message
  | .gga => l.mGga.map .gga
  | .vtg => l.mVtg.map .vtg
  | .gst => l.mGst.map .gst
  | .epe => l.mEpe.map .epe

@[simp] theorem stored_new (type : MessageType) : new.stored type = none := by
  cases type <;> rfl

@[simp] theorem mOrderReceived_store (l : NmeaLocation) (m : Message) :
    (l.store m).mOrderReceived = l.mOrderReceived := by
  cases m <;> rfl

@[simp] theorem stored_received (l : NmeaLocation) (received : List MessageType)
    (type : MessageType) : stored { l with mOrderReceived := received } type = l.stored type := by
  cases type <;> rfl

theorem stored_store {m : Message} {messageType : MessageType}
    (h : m.messageType = some messageType) (l : NmeaLocation) (type : MessageType) :
    (l.store m).stored type = if type = messageType then some m else l.stored type := by
  cases m <;> cases h <;> cases type <;> rfl

end NmeaLocation

/-! ### Rounds of the order list -/

namespace Config

/-- The messages accepted in the round that the next message belongs to: a full round is over. -/
def current (config : Config) (round : List Message) : List Message :=
  if round.length < config.nmeaOrder.length then round else []

/-- The messages accepted in the current round, once `message` has come. -/
def accept (config : Config) (round : List Message) (message : Message) : List Message :=
  let current := config.current round
  match message.messageType with
  | none => current
  | some messageType =>
      if config.nmeaOrder[current.length]? = some messageType then current ++ [message]
      else if config.nmeaOrderStrict then [] else current

end Config

/-- The processor, and the messages accepted in the current round. -/
structure Tracked where
  location : Option NmeaLocation
  round : List Message

/-- At the start, with nothing accepted. -/
def Tracked.new : Tracked := ⟨some .new, []⟩

/-- A step as it is seen from outside: the round with the message of the step, and what the
processor did. -/
structure Observed where
  round : List Message
  location : Option NmeaLocation
  outputs : List Output
  deriving DecidableEq

/-- A message is consumed, by a processor that still runs. -/
def step (config : Config) (t : Tracked) (message : Message) : Tracked × List Observed :=
  match t.location with
  | none => (t, [])
  | some l =>
      let after := l.consume config message
      let round := config.accept t.round message
      (⟨after.1, round⟩, [⟨round, after.1, after.2⟩])

/-- The messages of a report. -/
def Report.messages (report : Report) : List Message :=
  .gga report.gga :: report.vtg.toList.map .vtg ++
    match report.accuracy with
    | .gst m => [.gst m]
    | .epe m => [.epe m]
    | .fixed _ => []

/-- The order list is indexed inside its bounds.  Where there is one, the accepted messages
follow it, a report takes its messages from them, each at most once, and a full round leaves
the processor as new. -/
structure Grouped (config : Config) (o : Observed) : Prop where
  inBounds : Output.pastEnd ∉ o.outputs
  inOrder : config.nmeaOrder ≠ [] →
    o.round.map Message.messageType <+: config.nmeaOrder.map some
  combines : config.nmeaOrder ≠ [] →
    ∀ report pushed, .report report pushed ∈ o.outputs → report.messages.Subperm o.round
  restarts : config.nmeaOrder ≠ [] →
    o.round.length = config.nmeaOrder.length → o.location = some .new

/-! ### Messages in turn -/

/-- A stored message of this type is not reported: its type comes again in the round, a GST
message is preferred to it, or no GGA message comes. -/
def Replaced (config : Config) (received : ℕ) (type : MessageType) : Prop :=
  type ∈ config.nmeaOrder.drop received ∨
    type = .epe ∧ .gst ∈ config.nmeaOrder ∨ type ≠ .gga ∧ .gga ∉ config.nmeaOrder

/-- The order list has the messages that the configuration requires beside a GGA message. -/
def Config.Fits (config : Config) : Prop :=
  .gga ∈ config.nmeaOrder →
    (config.nmeaRequireGst → .gst ∈ config.nmeaOrder ∨ .epe ∈ config.nmeaOrder) ∧
      (config.nmeaRequireVtg → .vtg ∈ config.nmeaOrder)

/-- The expected message may come last only if the order list fits; another message may come
if it resets the round, or is not reported. -/
def InTurn (config : Config) (l : NmeaLocation) (message : Message) : Prop :=
  config.nmeaOrder ≠ [] → ∀ messageType, message.messageType = some messageType →
    if config.nmeaOrder[l.mOrderReceived.length]? = some messageType then
      l.mOrderReceived.length + 1 = config.nmeaOrder.length → config.Fits
    else config.nmeaOrderStrict ∨ Replaced config l.mOrderReceived.length messageType

/-- The processor holds the messages of its round, and otherwise only replaced ones. -/
structure Follows (config : Config) (l : NmeaLocation) (round : List Message) : Prop where
  received : l.mOrderReceived.map some = round.map Message.messageType
  inOrder : round.map Message.messageType <+: config.nmeaOrder.map some
  stored : ∀ type m, l.stored type = some m → m ∈ round ∨ Replaced config round.length type
  kept : ∀ type, some type ∈ round.map Message.messageType → (l.stored type).isSome

namespace Follows

variable {config : Config} {l : NmeaLocation} {round : List Message} {m : Message}
  {messageType : MessageType}

theorem new (config : Config) : Follows config .new [] where
  received := rfl
  inOrder := List.nil_prefix
  stored type m h := by rw [NmeaLocation.stored_new] at h; cases h
  kept type h := absurd h List.not_mem_nil

theorem length_received (h : Follows config l round) :
    l.mOrderReceived.length = round.length := by
  simpa using congrArg List.length h.received

/-- The expected message joins the round. -/
theorem accept (h : Follows config l round) (htype : m.messageType = some messageType)
    (hexpected : config.nmeaOrder[round.length]? = some messageType) :
    Follows config { l.store m with mOrderReceived := l.mOrderReceived ++ [messageType] }
      (round ++ [m]) where
  received := by simp [h.received, htype]
  inOrder := by
    obtain ⟨rest, hrest⟩ := h.inOrder
    have hnext : (config.nmeaOrder.map some)[round.length]? = some (some messageType) := by
      rw [List.getElem?_map, hexpected, Option.map_some]
    rw [← hrest, List.getElem?_append_right (by simp), List.length_map, Nat.sub_self] at hnext
    cases rest with
    | nil => cases hnext
    | cons next rest =>
      cases hnext
      exact ⟨rest, by rw [← hrest]; simp [htype]⟩
  stored type m' h' := by
    rw [NmeaLocation.stored_received, NmeaLocation.stored_store htype] at h'
    by_cases hsame : type = messageType
    · rw [if_pos hsame] at h'
      cases h'
      exact .inl (List.mem_append_right _ List.mem_cons_self)
    · rw [if_neg hsame] at h'
      rcases h.stored type m' h' with hmem | hlater | hrest
      · exact .inl (List.mem_append_left _ hmem)
      · -- the type comes again, and not at this position
        obtain ⟨hlt, rfl⟩ := List.getElem?_eq_some_iff.1 hexpected
        rw [List.drop_eq_getElem_cons hlt] at hlater
        have hlater := (List.mem_cons.1 hlater).resolve_left hsame
        exact .inr (.inl (by simpa using hlater))
      · exact .inr (.inr hrest)
  kept type h' := by
    rw [NmeaLocation.stored_received, NmeaLocation.stored_store htype]
    by_cases hsame : type = messageType
    · rw [if_pos hsame]
      rfl
    · rw [if_neg hsame]
      rw [List.map_append, List.mem_append] at h'
      refine h.kept type (h'.resolve_right fun hlast => hsame ?_)
      simpa [htype] using hlast

/-- A replaced message is stored beside the round. -/
theorem ignore (h : Follows config l round) (htype : m.messageType = some messageType)
    (hreplaced : Replaced config round.length messageType) :
    Follows config (l.store m) round where
  received := by rw [NmeaLocation.mOrderReceived_store, h.received]
  inOrder := h.inOrder
  stored type m' h' := by
    rw [NmeaLocation.stored_store htype] at h'
    by_cases hsame : type = messageType
    · exact .inr (hsame ▸ hreplaced)
    · rw [if_neg hsame] at h'
      exact h.stored type m' h'
  kept type h' := by
    rw [NmeaLocation.stored_store htype]
    by_cases hsame : type = messageType
    · rw [if_pos hsame]
      rfl
    · rw [if_neg hsame]
      exact h.kept type h'

end Follows

/-! ### The end of a round -/

theorem Config.current_of_lt {config : Config} {round : List Message}
    (h : round.length < config.nmeaOrder.length) : config.current round = round := if_pos h

/-- A full round holds the types of the order list. -/
theorem Follows.map_messageType {config : Config} {l : NmeaLocation} {round : List Message}
    (h : Follows config l round) (hfull : round.length = config.nmeaOrder.length) :
    round.map Message.messageType = config.nmeaOrder.map some :=
  h.inOrder.eq_of_length (by simpa using hfull)

/-- With a full round, a type of the order list is stored. -/
theorem Follows.isSome_stored {config : Config} {l : NmeaLocation} {round : List Message}
    (h : Follows config l round) (hfull : round.length = config.nmeaOrder.length)
    {type : MessageType} (htype : type ∈ config.nmeaOrder) : (l.stored type).isSome := by
  apply h.kept
  rw [h.map_messageType hfull]
  exact List.mem_map_of_mem htype

/-- With a full round that has a GGA message, a stored message is in the round, an EPE message
unless a GST message is preferred to it. -/
theorem Follows.mem_round {config : Config} {l : NmeaLocation} {round : List Message}
    (h : Follows config l round) (hfull : round.length = config.nmeaOrder.length)
    (hgga : .gga ∈ config.nmeaOrder) {type : MessageType} {m : Message}
    (hm : l.stored type = some m) (hepe : type = .epe → .gst ∉ config.nmeaOrder) :
    m ∈ round := by
  rcases h.stored type m hm with hmem | hlater | ⟨htype, hgst⟩ | ⟨-, hnot⟩
  · exact hmem
  · rw [hfull, List.drop_length] at hlater
    exact absurd hlater List.not_mem_nil
  · exact absurd hgst (hepe htype)
  · exact absurd hgga hnot

/-- The GGA message of a full round is one of the order list. -/
theorem Follows.gga_mem {config : Config} {l : NmeaLocation} {round : List Message}
    (h : Follows config l round) (hfull : round.length = config.nmeaOrder.length) {gga : Gga}
    (hgga : l.mGga = some gga) : .gga ∈ config.nmeaOrder := by
  have hstored : l.stored .gga = some (.gga gga) := by rw [NmeaLocation.stored, hgga]; rfl
  have hround : .gga gga ∈ round := by
    rcases h.stored .gga _ hstored with hmem | hlater | ⟨hepe, -⟩ | ⟨hne, -⟩
    · exact hmem
    · rw [hfull, List.drop_length] at hlater
      exact absurd hlater List.not_mem_nil
    · cases hepe
    · exact absurd rfl hne
  have htypes := List.mem_map_of_mem (f := Message.messageType) hround
  rw [h.map_messageType hfull] at htypes
  simpa [Message.messageType] using htypes

/-- The accuracy of a full round is there, and comes from a message of the round. -/
theorem Follows.accuracy {config : Config} {l : NmeaLocation} {round : List Message}
    (h : Follows config l round) (hfull : round.length = config.nmeaOrder.length)
    (hfits : config.Fits) (hgga : .gga ∈ config.nmeaOrder) (gga : Gga) :
    ∃ accuracy, l.accuracy config gga = some accuracy ∧
      (∀ m, accuracy = .gst m → .gst m ∈ round) ∧ (∀ m, accuracy = .epe m → .epe m ∈ round) := by
  unfold NmeaLocation.accuracy
  cases hgst : l.mGst with
  | some gst =>
    have hstored : l.stored .gst = some (.gst gst) := by rw [NmeaLocation.stored, hgst]; rfl
    refine ⟨.gst gst, rfl, ?_, ?_⟩
    · rintro m ⟨⟩
      exact h.mem_round hfull hgga hstored (by rintro ⟨⟩)
    · rintro m ⟨⟩
  | none =>
    have hno : .gst ∉ config.nmeaOrder := fun hmem => by
      simpa [NmeaLocation.stored, hgst] using h.isSome_stored hfull hmem
    cases hepe : l.mEpe with
    | some epe =>
      have hstored : l.stored .epe = some (.epe epe) := by rw [NmeaLocation.stored, hepe]; rfl
      refine ⟨.epe epe, rfl, ?_, ?_⟩
      · rintro m ⟨⟩
      · rintro m ⟨⟩
        exact h.mem_round hfull hgga hstored fun _ => hno
    | none =>
      have hnoEpe : .epe ∉ config.nmeaOrder := fun hmem => by
        simpa [NmeaLocation.stored, hepe] using h.isSome_stored hfull hmem
      have hfree : ¬config.nmeaRequireGst = true := fun hrequire =>
        ((hfits hgga).1 hrequire).elim hno hnoEpe
      dsimp only
      rw [if_neg hfree]
      split
      all_goals exact ⟨_, rfl, by rintro m ⟨⟩, by rintro m ⟨⟩⟩

/-- The messages of a report have different types. -/
theorem Report.nodup_messages (report : Report) : report.messages.Nodup := by
  obtain ⟨gga, vtg, accuracy⟩ := report
  cases vtg <;> cases accuracy <;> simp [Report.messages]

/-- **The end of a round.**  A full round leaves the processor as new, and what is reported
combines messages of the round. -/
theorem Follows.reportPosition {config : Config} {l : NmeaLocation} {round : List Message}
    (h : Follows config l round) (hne : config.nmeaOrder ≠ [])
    (hfull : round.length = config.nmeaOrder.length) (hfits : config.Fits) :
    (l.reportPosition config).1 = .new ∧ .pastEnd ∉ (l.reportPosition config).2 ∧
      ∀ report pushed, .report report pushed ∈ (l.reportPosition config).2 →
        report.messages.Subperm round := by
  unfold NmeaLocation.reportPosition
  cases hgga : l.mGga with
  | none =>
    dsimp only
    rw [if_pos ⟨hne, h.length_received.trans hfull⟩]
    exact ⟨rfl, List.not_mem_nil, fun _ _ hmem => absurd hmem List.not_mem_nil⟩
  | some gga =>
    have hmem := h.gga_mem hfull hgga
    have hstored : l.stored .gga = some (.gga gga) := by rw [NmeaLocation.stored, hgga]; rfl
    have hround : .gga gga ∈ round := h.mem_round hfull hmem hstored (by rintro ⟨⟩)
    obtain ⟨accuracy, haccuracy, hgst, hepe⟩ := h.accuracy hfull hfits hmem gga
    have hvtg : ¬(l.mVtg = none ∧ config.nmeaRequireVtg) := by
      rintro ⟨hnone, hrequire⟩
      have := h.isSome_stored hfull ((hfits hmem).2 hrequire)
      simp [NmeaLocation.stored, hnone] at this
    dsimp only
    rw [haccuracy]
    dsimp only
    rw [if_neg hvtg, if_neg hne]
    refine ⟨rfl, by simp, fun report pushed hreport => ?_⟩
    obtain ⟨rfl, -⟩ := Output.report.inj (List.mem_singleton.1 hreport)
    refine List.subperm_of_subset (Report.nodup_messages _) fun m hm => ?_
    rw [Report.messages, List.mem_append, List.mem_cons] at hm
    rcases hm with (rfl | hm) | hm
    · exact hround
    · obtain ⟨vtg, hvtg, rfl⟩ := List.mem_map.1 hm
      have hvtg : l.mVtg = some vtg := Option.mem_toList.1 hvtg
      have hstored : l.stored .vtg = some (.vtg vtg) := by rw [NmeaLocation.stored, hvtg]; rfl
      exact h.mem_round hfull hmem hstored (by rintro ⟨⟩)
    · cases accuracy with
      | gst gst => exact List.mem_singleton.1 hm ▸ hgst gst rfl
      | epe epe => exact List.mem_singleton.1 hm ▸ hepe epe rfl
      | fixed semi => exact absurd hm List.not_mem_nil

theorem pastEnd_notMem_reportPosition (config : Config) (l : NmeaLocation) :
    .pastEnd ∉ (l.reportPosition config).2 := by
  unfold NmeaLocation.reportPosition
  split
  · split <;> exact List.not_mem_nil
  · split
    · exact List.not_mem_nil
    · split <;> simp

/-! ### Runs -/

theorem Config.length_current_lt {config : Config} (hne : config.nmeaOrder ≠ [])
    (round : List Message) : (config.current round).length < config.nmeaOrder.length := by
  unfold Config.current
  split
  · assumption
  · exact List.length_pos_iff.2 hne

/-- What holds between two messages: the processor runs, and follows the round that the next
message belongs to, if there is an order list. -/
def Valid (config : Config) (t : Tracked) : Prop :=
  ∃ l, t.location = some l ∧
    (config.nmeaOrder ≠ [] → Follows config l (config.current t.round))

theorem valid_new (config : Config) : Valid config .new := by
  refine ⟨.new, rfl, fun _ => ?_⟩
  have hnil : config.current Tracked.new.round = [] := by
    unfold Config.current
    split <;> rfl
  rw [hnil]
  exact Follows.new config

/-- A step inside a round: nothing is reported, the processor follows the longer round. -/
theorem keeps_of_follows {config : Config} {l : NmeaLocation} {round : List Message}
    (h : Follows config l round) (hlt : round.length < config.nmeaOrder.length) :
    Valid config ⟨some l, round⟩ ∧ Grouped config ⟨round, some l, []⟩ := by
  refine ⟨⟨l, rfl, fun _ => ?_⟩, List.not_mem_nil, fun _ => h.inOrder,
    fun _ _ _ hmem => absurd hmem List.not_mem_nil, fun _ hfull => absurd hfull hlt.ne⟩
  rw [Config.current_of_lt hlt]
  exact h

/-- The step that completes a round. -/
theorem completes_of_follows {config : Config} {l : NmeaLocation} {round : List Message}
    (h : Follows config l round) (hne : config.nmeaOrder ≠ [])
    (hfull : round.length = config.nmeaOrder.length) (hfits : config.Fits) :
    Valid config ⟨some (l.reportPosition config).1, round⟩ ∧
      Grouped config
        ⟨round, some (l.reportPosition config).1, (l.reportPosition config).2⟩ := by
  obtain ⟨hnew, hbounds, hcombines⟩ := h.reportPosition hne hfull hfits
  refine ⟨⟨_, rfl, fun _ => ?_⟩, hbounds, fun _ => h.inOrder, fun _ => hcombines,
    fun _ _ => congrArg some hnew⟩
  rw [hnew, Config.current, if_neg hfull.not_lt]
  exact Follows.new config

/-- **The step rule.**  A message in turn is handled as it should be. -/
theorem step_grouped {config : Config} {t : Tracked} {m : Message} (ht : Valid config t)
    (hm : ∀ l, t.location = some l → InTurn config l m) :
    Valid config (step config t m).1 ∧ ∀ o ∈ (step config t m).2, Grouped config o := by
  obtain ⟨l, hl, hfollows⟩ := ht
  have hturn := hm l hl
  suffices h : Valid config ⟨(l.consume config m).1, config.accept t.round m⟩ ∧
      Grouped config ⟨config.accept t.round m, (l.consume config m).1, (l.consume config m).2⟩ by
    unfold step
    rw [hl]
    exact ⟨h.1, List.forall_mem_singleton.2 h.2⟩
  by_cases hne : config.nmeaOrder = []
  · -- without an order list every message may lead to a report
    have hout : ∃ l', (l.consume config m).1 = some l' ∧ .pastEnd ∉ (l.consume config m).2 := by
      unfold NmeaLocation.consume
      split
      · exact ⟨l, rfl, List.not_mem_nil⟩
      · dsimp only
        rw [if_pos hne]
        exact ⟨_, rfl, pastEnd_notMem_reportPosition config _⟩
    obtain ⟨l', hl', hout⟩ := hout
    exact ⟨⟨l', hl', fun h => absurd hne h⟩, hout, fun h => absurd hne h,
      fun h => absurd hne h, fun h => absurd hne h⟩
  · have hfollows := hfollows hne
    have hlt := Config.length_current_lt hne t.round
    have hnext := hturn hne
    unfold NmeaLocation.consume Config.accept
    cases htype : m.messageType with
    | none => exact keeps_of_follows hfollows hlt
    | some messageType =>
      have hnext := hnext messageType htype
      rw [hfollows.length_received] at hnext
      dsimp only
      rw [if_neg hne, NmeaLocation.mOrderReceived_store, hfollows.length_received,
        List.getElem?_eq_getElem hlt]
      dsimp only
      rw [List.getElem?_eq_getElem hlt] at hnext
      by_cases hsame : config.nmeaOrder[(config.current t.round).length] = messageType
      · -- the expected message, which may complete the round
        have haccept := hfollows.accept htype (hsame ▸ List.getElem?_eq_getElem hlt)
        rw [if_pos (congrArg some hsame)] at hnext ⊢
        rw [if_neg (not_not_intro hsame)]
        have hlength : (l.mOrderReceived ++ [messageType]).length =
            (config.current t.round ++ [m]).length := haccept.length_received
        by_cases hfull : (config.current t.round ++ [m]).length = config.nmeaOrder.length
        · rw [if_neg (not_not_intro (hlength.trans hfull))]
          exact completes_of_follows haccept hne hfull (hnext (by simpa using hfull))
        · rw [if_pos (fun h => hfull (hlength.symm.trans h))]
          refine keeps_of_follows haccept (lt_of_le_of_ne ?_ hfull)
          rw [List.length_append]
          exact hlt
      · rw [if_neg fun h => hsame (Option.some.inj h)] at hnext ⊢
        rw [if_pos hsame]
        by_cases hstrict : config.nmeaOrderStrict = true
        · rw [if_pos hstrict, if_pos hstrict]
          exact keeps_of_follows (Follows.new config) (List.length_pos_iff.2 hne)
        · rw [if_neg hstrict, if_neg hstrict]
          exact keeps_of_follows (hfollows.ignore htype (hnext.resolve_left hstrict)) hlt

/-- **Positions are grouped by round**, in every run whose messages come in turn. -/
theorem grouped_run (config : Config) (messages : List Message)
    (h : Mealy.Along (fun t _ m => ∀ l, t.location = some l → InTurn config l m)
      (step config) .new [] messages) :
    ∀ o ∈ (Mealy.run (step config) .new messages).2, Grouped config o := by
  refine (Mealy.invariant_run (P := fun t out => Valid config t ∧ ∀ o ∈ out, Grouped config o)
    (fun t out m ht hm => ?_) ⟨valid_new config, by rintro o ⟨⟩⟩ h).2
  obtain ⟨hvalid, hgrouped⟩ := step_grouped ht.1 hm
  exact ⟨hvalid, List.forall_mem_append.2 ⟨ht.2, hgrouped⟩⟩

/-- A configuration with this order list, not strict, without conversions. -/
def orderConfig (requireVtg : Bool) (order : List MessageType) : Config where
  convertConfidence95To68 := false
  outputEllipse68 := false
  scaleTo68 := 1
  overrideHorizontalConfidence := -1
  nmeaRequireGst := false
  nmeaRequireVtg := requireVtg
  nmeaOrder := order
  nmeaOrderStrict := false

/-- A GGA message of a fixed RTK position. -/
def fixedGga : Gga := ⟨0, 69.06, 20.55, .rtkFixed, 12, 0.9, 100, 30, 1⟩

/-- GGA, EPE and GST for the order GGA, GST: the EPE message is out of turn and not reported. -/
theorem grouped_run_epe :
    (Mealy.run (step (orderConfig false [.gga, .gst])) .new
        [.gga fixedGga, .epe ⟨1, 1, 0, 2⟩, .gst ⟨1, 1, 0, 2⟩]).2.length = 3 ∧
      ∀ o ∈ (Mealy.run (step (orderConfig false [.gga, .gst])) .new
        [.gga fixedGga, .epe ⟨1, 1, 0, 2⟩, .gst ⟨1, 1, 0, 2⟩]).2,
        Grouped (orderConfig false [.gga, .gst]) o := by
  refine ⟨by decide +kernel, grouped_run _ _ ⟨?_, ?_, ?_, trivial⟩⟩
  all_goals
    intro l hl
    cases hl
    intro _ messageType htype
    cases htype
  · intro h
    exact absurd h (by decide)
  · exact .inr (.inr (.inl ⟨rfl, by decide⟩))
  · exact fun _ _ => ⟨by simp [orderConfig], by simp [orderConfig]⟩

/-- A VTG message out of turn is reported all the same; and after a round without the VTG
message that is required the order list is indexed past its end. -/
theorem not_grouped_ignored :
    (¬∀ o ∈ (Mealy.run (step (orderConfig false [.gga, .gst])) .new
        [.gga fixedGga, .vtg ⟨90, 36⟩, .gst ⟨1, 1, 0, 2⟩]).2,
        Grouped (orderConfig false [.gga, .gst]) o) ∧
      ¬∀ o ∈ (Mealy.run (step (orderConfig true [.gga])) .new
        [.gga fixedGga, .gga fixedGga]).2, Grouped (orderConfig true [.gga]) o := by
  constructor
  · intro h
    have hreported : Message.vtg ⟨90, 36⟩ ∉ [Message.gga fixedGga, .gst ⟨1, 1, 0, 2⟩] := by decide
    exact hreported (((h _ (List.getElem_mem (n := 2) (by decide +kernel))).combines (by decide)
      ⟨fixedGga, some ⟨90, 36⟩, .gst ⟨1, 1, 0, 2⟩⟩ _ (List.mem_singleton_self _)).subset
        (by decide))
  · intro h
    exact (h _ (List.getElem_mem (n := 1) (by decide +kernel))).inBounds (List.mem_singleton_self _)

end SuplLpp.Client
