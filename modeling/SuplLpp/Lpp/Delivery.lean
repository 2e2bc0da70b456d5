import SuplLpp.Lib.Since
import SuplLpp.Lpp.Ending
import SuplLpp.Lpp.LocationReport
import SuplLpp.Lpp.Sending

/-!
# Delivering location reports

What `lpp::Client` does with a request for location information: it reads the request, makes a
delivery whose timer reports the location again and again, and keeps it in a map under the
transaction.

* `RequestLocationInformation.description`: what the client takes from a request;
* `LocationClient`: the session, the map of the deliveries, and the parts of calls that wait for
  a callback of the user to return (`LocationPiece`);
* `step`: a call or an event at the session, a tick of a timer, a callback that returns, or a call
  of the user.

`mReportingAmount` is stored and never read: `deliver` sends every report without the end of the
transaction, and a delivery leaves the map only with its transaction or with the client's cancel.
A callback may call the session and the client it is called from, so any calls may stand before
the answer to it.
-/

namespace SuplLpp.Lpp

/-! ### Requests and reports -/

/-- A `reportingAmount` that is missing was not sent. -/
structure PeriodicalReportingCriteria where
  reportingAmount : Option ℤ
  reportingInterval : ℤ

structure CommonIEsRequestLocationInformation where
  periodicalReporting : Option PeriodicalReportingCriteria

structure RequestLocationInformation where
  commonIEsRequestLocationInformation : Option CommonIEsRequestLocationInformation

/-- The body of a message, with bodies of other kinds in a type `ω`. -/
inductive Body (ω : Type*)
  | requestLocationInformation (inner : RequestLocationInformation)
  | provideLocationInformation (data : LocationReport)
  | other (body : ω)

/-- `PeriodicLocationInformationDeliveryDescription`; the interval is in seconds. -/
structure DeliveryDescription where
  reportingAmountUnlimited : Bool
  reportingAmount : ℤ
  reportingInterval : ℤ

/-- How many reports are asked for, if their number is limited. -/
def DeliveryDescription.amount (description : DeliveryDescription) : Option ℕ :=
  if description.reportingAmountUnlimited then none else some description.reportingAmount.toNat

/-- The number of `ra1` to `ra64`, and 0 for `ra_Infinity`. -/
def reportingAmount (reportingAmountEnum : ℤ) : Option ℤ :=
  match reportingAmountEnum with
  | 0 => some 1
  | 1 => some 2
  | 2 => some 4
  | 3 => some 8
  | 4 => some 16
  | 5 => some 32
  | 6 => some 64
  | 7 => some 0
  | _ => none

/-- The seconds that stand for `ri0_25` to `ri64`. -/
def reportingInterval (reportingIntervalEnum : ℤ) : Option ℤ :=
  match reportingIntervalEnum with
  | 1 => some 1
  | 2 => some 2
  | 3 => some 4
  | 4 => some 8
  | 5 => some 10
  | 6 => some 16
  | 7 => some 20
  | 8 => some 32
  | 9 => some 64
  | _ => none

/-- What `process_request_location_information` takes from a request; only periodical reporting
is supported. -/
def RequestLocationInformation.description (inner : RequestLocationInformation) :
    Option DeliveryDescription := do
  let common ← inner.commonIEsRequestLocationInformation
  let periodicalReporting ← common.periodicalReporting
  let reportingAmountEnum := periodicalReporting.reportingAmount.getD 0
  let amount ← reportingAmount reportingAmountEnum
  let interval ← reportingInterval periodicalReporting.reportingInterval
  return ⟨reportingAmountEnum = 7, amount, interval⟩

section Message

variable {ω : Type*}

def getRequestLocationInformation (message : Message (Body ω)) :
    Option RequestLocationInformation :=
  match message.lppMessageBody with
  | some (.requestLocationInformation inner) => some inner
  | _ => none

/-- `create_provide_location_information`, with the data before it is encoded. -/
def reportMessage (data : LocationReport) : Message (Body ω) :=
  ⟨none, false, none, some (.provideLocationInformation data)⟩

def isReport (message : Message (Body ω)) : Bool :=
  match message.lppMessageBody with
  | some (.provideLocationInformation _) => true
  | _ => false

end Message

/-! ### The client -/

/-- `mPeriodicTask`: the timer is scheduled. -/
structure LocationInformationDelivery where
  mTransaction : TransactionHandle
  mReportingInterval : ℤ
  mReportingAmount : ℤ
  mReportingAmountUnlimited : Bool
  mPeriodicTask : Bool

/-- The constructor; `scheduled` tells whether there is a scheduler that takes the timer. -/
def LocationInformationDelivery.new (transaction : TransactionHandle)
    (description : DeliveryDescription) (scheduled : Bool) : LocationInformationDelivery where
  mTransaction := transaction
  mReportingInterval := description.reportingInterval
  mReportingAmount := description.reportingAmount
  mReportingAmountUnlimited := description.reportingAmountUnlimited
  mPeriodicTask := scheduled

/-- The rest of a call that waits for a callback. -/
inductive LocationPiece
  /-- After `on_request_location_information`. -/
  | requested (transaction : TransactionHandle) (inner : RequestLocationInformation)
  /-- After `on_provide_location_information_advanced`. -/
  | advanced (delivery : LocationInformationDelivery)
  /-- After `on_provide_location_information`. -/
  | provide (delivery : LocationInformationDelivery)
  /-- After `deliver` in `start_periodic_location_information`. -/
  | insert (delivery : LocationInformationDelivery)

/-- `session` holds the LPP session and the payload it is delivering. -/
structure LocationClient (σ : Type*) where
  session : Endpoint.Config σ
  mScheduler : Bool
  mLocationInformationDeliveries : Table TransactionHandle LocationInformationDelivery
  pieces : List LocationPiece

/-- What is seen of a client: the events of its session, the calls that are to send a report, the
deliveries it starts, and its cancels. -/
inductive Sight (ω : Type*)
  | lpp (event : Event (Body ω))
  | asked (transaction : TransactionHandle)
  | started (transaction : TransactionHandle) (description : DeliveryDescription)
  | cancelled

/-- What a callback answers, with the data it filled in; a callback that is not set handles
nothing.  `registers`: a timer that is scheduled then is taken by the scheduler. -/
structure Answer where
  handled : Bool
  data : LocationReport
  registers : Bool

section Calls

variable {σ ω : Type*} (codec : Codec (Body ω))

/-- What a call of the session is to send, and whether it asks for the end with it. -/
def sentBy : Endpoint.Op σ (Body ω) → Option (TransactionHandle × Message (Body ω) × Bool)
  | .send handle message => some (handle, message, false)
  | .sendWithEnd handle message => some (handle, message, true)
  | .abort handle => some (handle, Endpoint.createAbort codec, true)
  | _ => none

/-- The transaction of the table on which a call is to send a report, and whether the report would
carry the end. -/
def reportCall (s : Endpoint σ) (op : Endpoint.Op σ (Body ω)) :
    Option (TransactionHandle × Bool) :=
  (sentBy codec op).bind fun (handle, message, withEnd) =>
    (s.findTransaction handle).bind fun transaction =>
      if isReport message then some (handle, withEnd || transaction.clientShouldSendEnd) else none

end Calls

/-- The data of the report that `deliver` makes. -/
def Answer.report (answer : Answer) : LocationReport :=
  if answer.handled then answer.data else ⟨none, none⟩

/-- The events and the calls that move a client. -/
inductive LocationOp (σ ω : Type*)
  | session (op : Endpoint.Op σ (Body ω))
  | tick (transaction : TransactionHandle)
  | answer (answer : Answer)
  | startPeriodicLocationInformation (transaction : TransactionHandle)
      (description : DeliveryDescription) (registers : Bool)
  | stopPeriodicLocationInformation (transaction : TransactionHandle)
  | schedule
  | cancel

namespace LocationClient

variable {σ ω : Type*}

def new (hack : Bool) : LocationClient σ where
  session := (Endpoint.new hack, none)
  mScheduler := false
  mLocationInformationDeliveries := ∅
  pieces := []

/-- No call is under way. -/
def idle (c : LocationClient σ) : Bool := c.pieces.isEmpty && c.session.2.isNone

/-- `process_request_location_information` up to the first callback, for a message that is such
a request. -/
def processMessage (c : LocationClient σ) (transaction : TransactionHandle)
    (message : Message (Body ω)) : LocationClient σ :=
  match getRequestLocationInformation message with
  | none => c
  | some inner =>
    if (c.mLocationInformationDeliveries.lookup transaction).isSome then c
    else { c with pieces := .requested transaction inner :: c.pieces }

/-- The callbacks of the session; `process_end_transaction` erases the delivery, and the
destructor cancels the timer. -/
def onEvent (c : LocationClient σ) : Event (Body ω) → LocationClient σ
  | .onEndTransaction transaction =>
    { c with
      mLocationInformationDeliveries := c.mLocationInformationDeliveries.erase transaction }
  | .onMessage transaction message => c.processMessage transaction message
  | _ => c

variable (supl : Supl σ) (codec : Codec (Body ω))

def onSession (c : LocationClient σ) (op : Endpoint.Op σ (Body ω)) :
    LocationClient σ × List (Sight ω) :=
  let r := Endpoint.step supl codec c.session op
  (r.2.foldl onEvent { c with session := r.1 },
    ((reportCall codec c.session.1 op).map fun call => .asked call.1).toList ++ r.2.map .lpp)

/-- The session takes the next payload, and returns from one, when no callback is running. -/
def waits : Endpoint.Op σ (Body ω) → Bool
  | .receive _ | .returned => true
  | _ => false

/-- `start_periodic_location_information`, up to the first callback of `deliver`. -/
def startPeriodicLocationInformation (c : LocationClient σ) (transaction : TransactionHandle)
    (description : DeliveryDescription) (registers : Bool) :
    LocationClient σ × List (Sight ω) :=
  if (c.mLocationInformationDeliveries.lookup transaction).isSome then (c, [])
  else
    let delivery := LocationInformationDelivery.new transaction description
      (c.mScheduler && registers)
    ({ c with pieces := .advanced delivery :: .insert delivery :: c.pieces },
      [.started transaction description])

/-- A callback returns. -/
def resume (c : LocationClient σ) (answer : Answer) : LocationClient σ × List (Sight ω) :=
  match c.pieces with
  | [] => (c, [])
  | .requested transaction inner :: pieces =>
    let c := { c with pieces := pieces }
    if answer.handled then (c, [])
    else
      match inner.description with
      | none => (c, [])
      | some description =>
        c.startPeriodicLocationInformation transaction description answer.registers
  | .advanced delivery :: pieces =>
    if answer.handled then ({ c with pieces := pieces }, [])
    else ({ c with pieces := .provide delivery :: pieces }, [])
  | .provide delivery :: pieces =>
    onSession supl codec { c with pieces := pieces }
      (.send delivery.mTransaction (reportMessage answer.report))
  | .insert delivery :: pieces =>
    ({ c with
        pieces := pieces
        mLocationInformationDeliveries :=
          c.mLocationInformationDeliveries.insert delivery.mTransaction delivery }, [])

/-- The timer of the delivery in the map is scheduled. -/
def timer (c : LocationClient σ) (transaction : TransactionHandle) : Bool :=
  (c.mLocationInformationDeliveries.lookup transaction).any (·.mPeriodicTask)

/-- The timer of a delivery calls `deliver`. -/
def tick (c : LocationClient σ) (transaction : TransactionHandle) : LocationClient σ :=
  match c.mLocationInformationDeliveries.lookup transaction with
  | none => c
  | some delivery =>
    if c.idle && delivery.mPeriodicTask then { c with pieces := .advanced delivery :: c.pieces }
    else c

/-- `cancel` as far as the session and the deliveries go. -/
def cancel (c : LocationClient σ) : LocationClient σ × List (Sight ω) :=
  ({ c with
      session := (Endpoint.step supl codec c.session (.supl none)).1
      mScheduler := false
      mLocationInformationDeliveries := ∅ }, [.cancelled])

/-- One step; `stop_periodic_location_information` does nothing. -/
def step (c : LocationClient σ) : LocationOp σ ω → LocationClient σ × List (Sight ω)
  | .session op =>
    if waits op && !c.pieces.isEmpty then (c, []) else c.onSession supl codec op
  | .tick transaction => (c.tick transaction, [])
  | .answer answer => c.resume supl codec answer
  | .startPeriodicLocationInformation transaction description registers =>
    c.startPeriodicLocationInformation transaction description registers
  | .stopPeriodicLocationInformation _ => (c, [])
  | .schedule => ({ c with mScheduler := true }, [])
  | .cancel => c.cancel supl codec

/-! ### What the events of the session change -/

variable {supl codec}

@[simp] theorem processMessage_session (c : LocationClient σ) (k : TransactionHandle)
    (m : Message (Body ω)) : (c.processMessage k m).session = c.session := by
  unfold processMessage
  split
  · rfl
  · split_ifs <;> rfl

@[simp] theorem processMessage_deliveries (c : LocationClient σ) (k : TransactionHandle)
    (m : Message (Body ω)) :
    (c.processMessage k m).mLocationInformationDeliveries =
      c.mLocationInformationDeliveries := by
  unfold processMessage
  split
  · rfl
  · split_ifs <;> rfl

theorem insert_mem_processMessage (c : LocationClient σ) (k : TransactionHandle)
    (m : Message (Body ω)) (d : LocationInformationDelivery) :
    .insert d ∈ (c.processMessage k m).pieces ↔ .insert d ∈ c.pieces := by
  unfold processMessage
  split
  · rfl
  · split_ifs <;> simp

theorem foldl_onEvent_session (c : LocationClient σ) (es : List (Event (Body ω))) :
    (es.foldl onEvent c).session = c.session := by
  induction es generalizing c with
  | nil => rfl
  | cons e es ih =>
    rw [List.foldl_cons, ih]
    cases e <;> simp [onEvent]

/-- A delivery leaves the map with its transaction. -/
theorem foldl_onEvent_lookup (c : LocationClient σ) (es : List (Event (Body ω)))
    (h : TransactionHandle) :
    (.onEndTransaction h ∈ es ∧
        (es.foldl onEvent c).mLocationInformationDeliveries.lookup h = none) ∨
      (.onEndTransaction h ∉ es ∧
        (es.foldl onEvent c).mLocationInformationDeliveries.lookup h =
          c.mLocationInformationDeliveries.lookup h) := by
  induction es generalizing c with
  | nil => simp
  | cons e es ih =>
    rw [List.foldl_cons]
    rcases ih (c.onEvent e) with ⟨hmem, hnone⟩ | ⟨hmem, hsame⟩
    · exact Or.inl ⟨List.mem_cons_of_mem _ hmem, hnone⟩
    · rw [hsame]
      cases e with
      | onEndTransaction k =>
        by_cases hk : h = k
        · subst hk
          exact Or.inl ⟨List.mem_cons_self, AList.lookup_erase _ _⟩
        · exact Or.inr (by simp [onEvent, hk, hmem])
      | _ => exact Or.inr (by simp [onEvent, hmem])

/-- No event of the session brings a delivery that is to be put into the map. -/
theorem insert_mem_foldl_onEvent (c : LocationClient σ) (es : List (Event (Body ω)))
    (d : LocationInformationDelivery) :
    .insert d ∈ (es.foldl onEvent c).pieces ↔ .insert d ∈ c.pieces := by
  induction es generalizing c with
  | nil => rfl
  | cons e es ih =>
    rw [List.foldl_cons, ih]
    cases e <;> simp [onEvent, insert_mem_processMessage]

end LocationClient

end SuplLpp.Lpp
