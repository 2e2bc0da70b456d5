import SuplLpp.Lpp.Sending

/-!
# `lpp::Client`: its sessions and their destruction

A client keeps a session object for each periodic and each single request.  The objects refer to
each other through handles: the client finds an object by the handle of a transaction or of a
periodic session, and a closure that was deferred finds it in the same way later.

* `PeriodicSession`, `SingleSession`: the session objects, which have numbers here, so that an
  object and a later one with its handle are told apart;
* `Client`: the client with the closures that wait at the scheduler;
* `Piece`: what a call of the client still has to do.  A callback of the user may call the client
  it is called from, so each function is cut at its callbacks and at the calls that lead to
  them; `exec` is one such piece;
* `step`: one piece, a call of the user (from outside, or from a callback), or an event.

A piece that uses an object that was destroyed, or that fails an assertion, stops the program.
The order of the loops over unordered maps is that of the tables.  The deliveries of locations are
a module of their own.
-/

namespace SuplLpp.Lpp

structure PeriodicSessionHandle where
  id : ℤ
  initiator : Initiator
  deriving DecidableEq

def PeriodicSessionHandle.isValid (handle : PeriodicSessionHandle) : Bool :=
  decide (0 ≤ handle.id ∧ handle.id ≤ 255)

/-- The number of a session object, in the order in which they are constructed. -/
abbrev ObjectId := ℕ

/-- `mPeriodicTask`: the supervision task is scheduled. -/
structure PeriodicSession where
  mHandle : PeriodicSessionHandle
  mRequestTransactions : Table TransactionHandle ℚ
  mPeriodicTransactions : List TransactionHandle
  mHackBadTransactionInitiator : Bool
  mHackNeverSendAbort : Bool
  mPeriodicTask : Bool

/-- `mTransaction` is no handle once it was cleared. -/
structure SingleSession where
  mTransaction : Option TransactionHandle
  mLastRequestTime : ℚ
  mHackNeverSendAbort : Bool
  mPeriodicTask : Bool

/-- What the client defers.  `asker` is not in the closure: it tells which object asked. -/
inductive Closure
  | deallocatePeriodicSessionHandle (handle : PeriodicSessionHandle) (asker : ObjectId)
  | removeSingleSession (handle : TransactionHandle)
  | disconnected
  deriving DecidableEq

/-- `periodic` and `single` hold the objects that live, in a map of the client or while they are
destroyed. -/
structure Client (σ : Type*) where
  mSession : Endpoint σ
  mScheduler : Bool
  mHackBadTransactionInitiator : Bool
  mHackNeverSendAbort : Bool
  mRequestTransactions : Table TransactionHandle PeriodicSessionHandle
  mPeriodicTransactions : Table TransactionHandle PeriodicSessionHandle
  mSingleSessions : Table TransactionHandle ObjectId
  mSessions : Table PeriodicSessionHandle ObjectId
  mNextSessionId : ℤ
  periodic : Table ObjectId PeriodicSession
  single : Table ObjectId SingleSession
  nextObject : ObjectId
  deferred : List Closure

/-- What a call still has to do, piece by piece. -/
inductive Piece (β : Type*)
  /-- A callback of the user. -/
  | user
  | cancel
  | cancelSessions
  | cancelMaps
  | processMessage (transaction : TransactionHandle) (message : Message β)
  | returned (frame : Frame)
  /-- The parts of `process_end_transaction`. -/
  | endRequest (transaction : TransactionHandle)
  | endSingle (transaction : TransactionHandle)
  | endPeriodic (transaction : TransactionHandle)
  /-- The members of `PeriodicSession`. -/
  | message (o : ObjectId) (transaction : TransactionHandle)
  | ended (o : ObjectId) (transaction : TransactionHandle)
  | handlePeriodicEnded (o : ObjectId) (transaction : TransactionHandle)
  | notify (o : ObjectId)
  | sendAbort (transaction : TransactionHandle)
  | unregisterRequest (o : ObjectId) (transaction : TransactionHandle)
  | tryDestroy (o : ObjectId)
  | eraseRequest (o : ObjectId) (transaction : TransactionHandle)
  | destroy (o : ObjectId)
  | destroyPeriodic (o : ObjectId)
  | destroyEnded (o : ObjectId) (transaction : TransactionHandle)
  | destroyHandle (o : ObjectId)
  | free (o : ObjectId)
  /-- The members of `SingleSession`. -/
  | singleMessage (o : ObjectId) (transaction : TransactionHandle)
  | singleNotify (o : ObjectId)
  | singleTryDestroy (o : ObjectId)
  | singleAbort (o : ObjectId)
  | singleDestroy (o : ObjectId)
  /-- The closures. -/
  | deallocatePeriodicSessionHandle (handle : PeriodicSessionHandle) (asker : ObjectId)
  | removeSingleSession (transaction : TransactionHandle)

/-- What is seen of a client and its objects. -/
inductive Notice (β : Type*)
  | lpp (event : Event β)
  /-- The object leaves the map of the sessions on behalf of another one or of itself. -/
  | removed (o : ObjectId) (asker : ObjectId)
  /-- The request of a single session is stale. -/
  | stale (o : ObjectId) (transaction : TransactionHandle)
  /-- The single session sends an abort on the transaction. -/
  | aborting (o : ObjectId) (transaction : TransactionHandle)
  | singleDestroyed (o : ObjectId)
  deriving DecidableEq

namespace Client

variable {σ β : Type*}

def new (hackBadTransactionInitiator hackNeverSendAbort hackServerInitiatedPush : Bool) :
    Client σ where
  mSession := Endpoint.new hackServerInitiatedPush
  mScheduler := false
  mHackBadTransactionInitiator := hackBadTransactionInitiator
  mHackNeverSendAbort := hackNeverSendAbort
  mRequestTransactions := ∅
  mPeriodicTransactions := ∅
  mSingleSessions := ∅
  mSessions := ∅
  mNextSessionId := 1
  periodic := ∅
  single := ∅
  nextObject := 0
  deferred := []

/-- What a piece of a call leaves: the client, the pieces that come next, and what is seen. -/
abbrev Outcome (σ β : Type*) := Client σ × List (Piece β) × List (Notice β)

/-! ### The session objects -/

def setPeriodic (c : Client σ) (o : ObjectId) (session : PeriodicSession) : Client σ :=
  { c with periodic := c.periodic.insert o session }

def setSingle (c : Client σ) (o : ObjectId) (session : SingleSession) : Client σ :=
  { c with single := c.single.insert o session }

/-- Where a callback of the LPP session leads. -/
def reaction : Event β → List (Piece β)
  | .onMessage transaction message => [.processMessage transaction message]
  | .onEndTransaction transaction =>
    [.endRequest transaction, .endSingle transaction, .endPeriodic transaction]
  | _ => []

/-- What the LPP session did, and the callbacks it makes. -/
def onSession (c : Client σ) (r : Endpoint σ × List (Event β)) : Outcome σ β :=
  ({ c with mSession := r.1 }, r.2.flatMap reaction, r.2.map .lpp)

def findByRequestTransactionHandle (c : Client σ) (transaction : TransactionHandle) :
    Option ObjectId :=
  (c.mRequestTransactions.lookup transaction).bind c.mSessions.lookup

def findByPeriodicTransactionHandle (c : Client σ) (transaction : TransactionHandle) :
    Option ObjectId :=
  (c.mPeriodicTransactions.lookup transaction).bind c.mSessions.lookup

/-- `PeriodicSession::unregister_request`. -/
def unregisterRequest (c : Client σ) (o : ObjectId) (session : PeriodicSession)
    (transaction : TransactionHandle) : Client σ :=
  { c.setPeriodic o
      { session with mRequestTransactions := session.mRequestTransactions.erase transaction } with
    mRequestTransactions := c.mRequestTransactions.erase transaction }

/-- `PeriodicSession::register_request`. -/
def registerRequest (c : Client σ) (o : ObjectId) (session : PeriodicSession)
    (transaction : TransactionHandle) (now : ℚ) : Client σ :=
  { c.setPeriodic o
      { session with
        mRequestTransactions := session.mRequestTransactions.insert transaction now } with
    mRequestTransactions := c.mRequestTransactions.insert transaction session.mHandle }

/-- The request that the hack for bad initiators takes a message of the server for. -/
def correctedTransaction (session : PeriodicSession) (transaction : TransactionHandle) :
    Option TransactionHandle :=
  if session.mHackBadTransactionInitiator && transaction.initiator = .locationServer then
    session.mRequestTransactions.keys.find? fun corrected =>
      decide (corrected.initiator = .targetDevice ∧ corrected.id = transaction.id)
  else none

/-- `PeriodicSession::message`. -/
def sessionMessage (c : Client σ) (o : ObjectId) (session : PeriodicSession)
    (transaction : TransactionHandle) : Client σ × List (Piece β) :=
  match correctedTransaction session transaction with
  | some corrected => (c, [.notify o, .ended o corrected])
  | none =>
    if transaction ∈ session.mRequestTransactions then (c, [.notify o])
    else if transaction.initiator = .targetDevice then (c, [])
    else if transaction ∈ session.mPeriodicTransactions then (c, [.notify o])
    else
      ({ c.setPeriodic o
          { session with
            mPeriodicTransactions := session.mPeriodicTransactions ++ [transaction] } with
        mPeriodicTransactions := c.mPeriodicTransactions.insert transaction session.mHandle },
        [.notify o, .notify o])

/-- `PeriodicSession::handle_periodic_ended` up to its callback; the transaction has to be one
of the session. -/
def handlePeriodicEnded (c : Client σ) (o : ObjectId) (session : PeriodicSession)
    (transaction : TransactionHandle) : Option (Client σ) :=
  if transaction ∈ session.mPeriodicTransactions then
    some { c.setPeriodic o
        { session with
          mPeriodicTransactions := session.mPeriodicTransactions.erase transaction } with
      mPeriodicTransactions := c.mPeriodicTransactions.erase transaction }
  else none

/-- `PeriodicSession::end`. -/
def sessionEnded (c : Client σ) (o : ObjectId) (session : PeriodicSession)
    (transaction : TransactionHandle) : Client σ × List (Piece β) :=
  if transaction ∈ session.mRequestTransactions then
    (c.unregisterRequest o session transaction, [])
  else if transaction ∈ session.mPeriodicTransactions then
    (c, [.handlePeriodicEnded o transaction])
  else (c, [])

/-- The aborts of a list of transactions; with the hack there are none, and what should follow
each of them is left out with it. -/
def aborts (hackNeverSendAbort : Bool) (transactions : List TransactionHandle)
    (following : TransactionHandle → Piece β) : List (Piece β) :=
  if hackNeverSendAbort then []
  else transactions.flatMap fun transaction => [.sendAbort transaction, following transaction]

/-- The requests without an answer for more than five seconds. -/
def staleRequests (session : PeriodicSession) (now : ℚ) : List TransactionHandle :=
  (session.mRequestTransactions.pairs.filter fun entry => decide (now - entry.2 > 5)).map (·.1)

/-- `PeriodicSession::check_active_requests`. -/
def checkActiveRequests (o : ObjectId) (session : PeriodicSession) (now : ℚ) : List (Piece β) :=
  let toRemove := staleRequests session now
  (toRemove.flatMap fun transaction =>
      [.notify o, .tryDestroy o, .eraseRequest o transaction]) ++
    aborts session.mHackNeverSendAbort toRemove (.unregisterRequest o)

/-- `SingleSession::check_active_requests`. -/
def checkActiveRequest (o : ObjectId) (session : SingleSession) (now : ℚ) : List (Piece β) :=
  if now - session.mLastRequestTime > 5 then
    [.singleNotify o, .singleTryDestroy o, .singleAbort o]
  else []

/-! ### The client -/

/-- The handle of `allocate_periodic_session_handle`. -/
def freeHandle (c : Client σ) : Option PeriodicSessionHandle :=
  ((List.range 256).map fun i : ℕ =>
    (⟨(c.mNextSessionId + i) % 256, .targetDevice⟩ : PeriodicSessionHandle)).find?
    (· ∉ c.mSessions)

/-- `deallocate_periodic_session_handle`: the object that leaves the map is destroyed. -/
def deallocatePeriodicSessionHandle (c : Client σ) (handle : PeriodicSessionHandle)
    (asker : ObjectId) : Outcome σ β :=
  if handle.isValid then
    match c.mSessions.lookup handle with
    | some o => ({ c with mSessions := c.mSessions.erase handle }, [.destroy o], [.removed o asker])
    | none => (c, [], [])
  else (c, [], [])

def removeSingleSession (c : Client σ) (handle : TransactionHandle) :
    Client σ × List (Piece β) :=
  match c.mSingleSessions.lookup handle with
  | some o => ({ c with mSingleSessions := c.mSingleSessions.erase handle }, [.singleDestroy o])
  | none => (c, [])

/-- An object of a table is changed. -/
def changeObject {ν : Type*} (f : ObjectId → ν → ν) (table : Table ObjectId ν) (o : ObjectId) :
    Table ObjectId ν :=
  match table.lookup o with
  | some session => table.insert o (f o session)
  | none => table

/-- Schedules or cancels the tasks of all sessions of the maps; `task` is what becomes of one. -/
def setTasks (c : Client σ) (task : ObjectId → Bool → Bool) : Client σ :=
  { c with
    periodic := (c.mSessions.pairs.map (·.2)).foldl (changeObject fun o session =>
      { session with mPeriodicTask := task o session.mPeriodicTask }) c.periodic
    single := (c.mSingleSessions.pairs.map (·.2)).foldl (changeObject fun o session =>
      { session with mPeriodicTask := task o session.mPeriodicTask }) c.single }

/-- `PeriodicTask::schedule`; `registers`: the task has a timer and the scheduler takes it.  A task
that is scheduled stays so. -/
def scheduleTask (registers : ObjectId → Bool) (o : ObjectId) (scheduled : Bool) : Bool :=
  if scheduled then true else registers o

/-- `PeriodicTask::cancel`. -/
def cancelTask (_ : ObjectId) (_ : Bool) : Bool := false

section Calls

variable (supl : Supl σ) (codec : Codec β)

/-- A new transaction with the message of a request on it. -/
def sendNewRequest (c : Client σ) (message : Message β) :
    Client σ × Option TransactionHandle × List (Notice β) :=
  let created := c.mSession.toTransactions.createTransaction (β := β) true
  let session := { c.mSession with toTransactions := created.1 }
  match created.2.2 with
  | none => ({ c with mSession := session }, none, created.2.1.map .lpp)
  | some transaction =>
    let sent := session.send supl codec transaction message
    ({ c with mSession := sent.1 }, some transaction, (created.2.1 ++ sent.2).map .lpp)

/-- `request_assistance_data` for a periodic session.  The task of the new object is not
scheduled. -/
def requestAssistanceData (c : Client σ) (message : Message β) (now : ℚ) : Outcome σ β :=
  match c.freeHandle with
  | none => (c, [], [])
  | some handle =>
    match { c with mNextSessionId := handle.id }.sendNewRequest supl codec message with
    | (c, none, notices) => (c, [], notices)
    | (c, some transaction, notices) =>
      let o := c.nextObject
      let session : PeriodicSession :=
        ⟨handle, ∅, [], c.mHackBadTransactionInitiator, c.mHackNeverSendAbort, false⟩
      let c := { c with mSessions := c.mSessions.insert handle o, nextObject := o + 1 }
      (c.registerRequest o session transaction now, [], notices)

def updateAssistanceData (c : Client σ) (handle : PeriodicSessionHandle) (message : Message β)
    (now : ℚ) : Outcome σ β :=
  match (c.mSessions.lookup handle).bind fun o => (c.periodic.lookup o).map (o, ·) with
  | none => (c, [], [])
  | some (o, session) =>
    match c.sendNewRequest supl codec message with
    | (c, none, notices) => (c, [], notices)
    | (c, some transaction, notices) =>
      (c.registerRequest o session transaction now, [], notices)

/-- `request_assistance_data` for a single session. -/
def requestSingle (c : Client σ) (message : Message β) (now : ℚ) : Outcome σ β :=
  match c.sendNewRequest supl codec message with
  | (c, none, notices) => (c, [], notices)
  | (c, some transaction, notices) =>
    let o := c.nextObject
    ({ c with
        mSingleSessions := c.mSingleSessions.insert transaction o
        single := c.single.insert o ⟨some transaction, now, c.mHackNeverSendAbort, false⟩
        nextObject := o + 1 }, [], notices)

/-- The assertion fails if there is a scheduler.  What becomes of the tasks is not looked at. -/
def schedule (c : Client σ) (registers : ObjectId → Bool) : Option (Outcome σ β) :=
  if c.mScheduler then none
  else some ({ c.setTasks (scheduleTask registers) with mScheduler := true }, [], [])

def cancel (c : Client σ) : Option (Outcome σ β) :=
  if c.mScheduler then
    some ({ c.setTasks cancelTask with
      mSession := { c.mSession with mSession := none }
      mScheduler := false }, [.cancelSessions], [])
  else none

/-- `process_message`; `inspect` tells an assistance data message and the periodic session that
it names.  The other messages go to the user. -/
def processMessage (inspect : Message β → Option (Option PeriodicSessionHandle)) (c : Client σ)
    (transaction : TransactionHandle) (message : Message β) : List (Piece β) :=
  match inspect message with
  | none => [.user]
  | some periodicSession =>
    match c.findByRequestTransactionHandle transaction with
    | some o => [.message o transaction]
    | none =>
      match c.mSingleSessions.lookup transaction with
      | some o => [.singleMessage o transaction]
      | none =>
        match periodicSession.bind c.mSessions.lookup with
        | some o => [.message o transaction]
        | none => []

/-- A piece of a member of a periodic session; it needs the object. -/
def onPeriodic (c : Client σ) (o : ObjectId)
    (f : PeriodicSession → Option (Outcome σ β)) : Option (Outcome σ β) :=
  (c.periodic.lookup o).bind f

/-- A piece of a member of a single session. -/
def onSingle (c : Client σ) (o : ObjectId) (f : SingleSession → Option (Outcome σ β)) :
    Option (Outcome σ β) :=
  (c.single.lookup o).bind f

/-- One piece; no value where the program stops. -/
def exec (inspect : Message β → Option (Option PeriodicSessionHandle)) (c : Client σ) :
    Piece β → Option (Outcome σ β)
  | .user => some (c, [], [])
  | .cancel => c.cancel
  | .cancelSessions =>
    match c.mSessions.pairs with
    | [] => some (c, [.cancelMaps], [])
    | (handle, o) :: _ =>
      some ({ c with mSessions := c.mSessions.erase handle }, [.destroy o, .cancelSessions], [])
  | .cancelMaps =>
    some ({ c with
      mRequestTransactions := ∅
      mPeriodicTransactions := ∅
      mSingleSessions := ∅
      mNextSessionId := 1 }, (c.mSingleSessions.pairs.map (·.2)).map .singleDestroy, [])
  | .processMessage transaction message =>
    some (c, c.processMessage inspect transaction message, [])
  | .returned frame => some (c.onSession (c.mSession.returned frame))
  | .endRequest transaction =>
    some (c, ((c.findByRequestTransactionHandle transaction).map (.ended · transaction)).toList, [])
  | .endSingle transaction =>
    let r := c.removeSingleSession transaction
    some (r.1, r.2, [])
  | .endPeriodic transaction =>
    some (c, ((c.findByPeriodicTransactionHandle transaction).map (.ended · transaction)).toList,
      [])
  | .message o transaction => c.onPeriodic o fun session =>
    let r := c.sessionMessage o session transaction
    some (r.1, r.2, [])
  | .ended o transaction => c.onPeriodic o fun session =>
    let r := c.sessionEnded o session transaction
    some (r.1, r.2, [])
  | .handlePeriodicEnded o transaction => c.onPeriodic o fun session =>
    (c.handlePeriodicEnded o session transaction).map fun c => (c, [.notify o], [])
  | .notify o => c.onPeriodic o fun _ => some (c, [.user], [])
  | .sendAbort transaction => some (c.onSession (c.mSession.abort supl codec transaction))
  | .unregisterRequest o transaction => c.onPeriodic o fun session =>
    some (c.unregisterRequest o session transaction, [], [])
  | .tryDestroy o => c.onPeriodic o fun session =>
    some (if c.mScheduler then
        { c with deferred := c.deferred ++ [.deallocatePeriodicSessionHandle session.mHandle o] }
      else c, [], [])
  | .eraseRequest o transaction => c.onPeriodic o fun session =>
    some (c.setPeriodic o
      { session with mRequestTransactions := session.mRequestTransactions.erase transaction },
      [], [])
  | .destroy o => c.onPeriodic o fun session =>
    some (c, aborts session.mHackNeverSendAbort session.mRequestTransactions.keys
      (.unregisterRequest o) ++ [.destroyPeriodic o], [])
  | .destroyPeriodic o => c.onPeriodic o fun session =>
    some (c.setPeriodic o { session with mRequestTransactions := ∅ },
      aborts session.mHackNeverSendAbort session.mPeriodicTransactions (.destroyEnded o) ++
        [.destroyHandle o], [])
  -- the object is no `AssistanceDataHandler` any more, whose user would be told
  | .destroyEnded o transaction => c.onPeriodic o fun session =>
    (c.handlePeriodicEnded o session transaction).map fun c => (c, [], [])
  | .destroyHandle o => c.onPeriodic o fun session =>
    let r := c.deallocatePeriodicSessionHandle (β := β) session.mHandle o
    some (r.1, r.2.1 ++ [.free o], r.2.2)
  | .free o => some ({ c with periodic := c.periodic.erase o }, [], [])
  | .singleMessage o transaction => c.onSingle o fun session =>
    some (c, if session.mTransaction = some transaction then [.user] else [], [])
  | .singleNotify o => c.onSingle o fun _ => some (c, [.user], [])
  | .singleTryDestroy o => c.onSingle o fun session =>
    match session.mTransaction with
    | some transaction =>
      let c := if c.mScheduler then
          { c with deferred := c.deferred ++ [.removeSingleSession transaction] }
        else c
      some (c.setSingle o { session with mTransaction := none }, [], [])
    | none => some (c, [], [])
  | .singleAbort o => c.onSingle o fun session =>
    if session.mHackNeverSendAbort then some (c, [], [])
    else match session.mTransaction with
      | some transaction =>
        let r := c.onSession (c.mSession.abort supl codec transaction)
        some (r.1, r.2.1, .aborting o transaction :: r.2.2)
      | none => some (c, [], [])
  | .singleDestroy o => c.onSingle o fun session =>
    let r := match session.mTransaction with
      | some transaction => c.removeSingleSession (β := β) transaction
      | none => (c, [])
    some ({ r.1 with single := r.1.single.erase o }, r.2, [.singleDestroyed o])
  | .deallocatePeriodicSessionHandle handle asker =>
    some (c.deallocatePeriodicSessionHandle handle asker)
  | .removeSingleSession transaction =>
    let r := c.removeSingleSession transaction
    some (r.1, r.2, [])

/-! ### The client as a machine -/

/-- A client in the middle of its calls; `stopped`: an assertion failed, or an object was used
that was destroyed. -/
structure Config (σ β : Type*) where
  client : Client σ
  todo : List (Piece β)
  stopped : Bool

def Config.new (client : Client σ) : Config σ β := ⟨client, [], false⟩

/-- What moves a client: the next piece of a call, or the return of a callback; the calls of the
user, from outside or from a callback; the events, which come one after the other. -/
inductive Move (σ β : Type*)
  | run
  | returns
  | requestAssistanceData (message : Message β) (now : ℚ)
  | updateAssistanceData (handle : PeriodicSessionHandle) (message : Message β) (now : ℚ)
  | requestSingle (message : Message β) (now : ℚ)
  | createTransaction (singleSideEndable : Bool)
  | send (call : SendCall β)
  /-- With the registrations at the scheduler that succeed. -/
  | schedule (registers : ObjectId → Bool)
  | cancel
  /-- The LPP session calls `on_disconnected`. -/
  | disconnected
  | receive (message : Option (Message β))
  | tick (o : ObjectId) (now : ℚ)
  | singleTick (o : ObjectId) (now : ℚ)
  /-- The scheduler runs the closure that waits longest. -/
  | deferred
  /-- The connection: the SUPL session changes, or takes the queue with its POSINIT. -/
  | supl (session : σ)
  | posinit

namespace Config

/-- The user can call the client: nothing is running, or a callback. -/
def usersTurn (c : Config σ β) : Bool :=
  match c.todo with
  | [] => true
  | .user :: _ => true
  | _ => false

/-- The pieces of a call come before what is left to do. -/
def push (c : Config σ β) (r : Outcome σ β) : Config σ β × List (Notice β) :=
  ({ c with client := r.1, todo := r.2.1 ++ c.todo }, r.2.2)

def pushOrStop (c : Config σ β) : Option (Outcome σ β) → Config σ β × List (Notice β)
  | some r => c.push r
  | none => ({ c with stopped := true }, [])

/-- What a closure does. -/
def closurePieces : Closure → List (Piece β)
  | .deallocatePeriodicSessionHandle handle asker =>
    [.deallocatePeriodicSessionHandle handle asker]
  | .removeSingleSession handle => [.removeSingleSession handle]
  | .disconnected => [.cancel, .user]

end Config

/-- A call of the user. -/
def call (c : Config σ β) (r : Option (Outcome σ β)) : Config σ β × List (Notice β) :=
  if c.usersTurn then c.pushOrStop r else (c, [])

/-- An event, which comes when nothing is running. -/
def event (c : Config σ β) (r : Option (Outcome σ β)) : Config σ β × List (Notice β) :=
  match c.todo with
  | [] => c.pushOrStop r
  | _ => (c, [])

/-- A move that is not possible changes nothing. -/
def move (inspect : Message β → Option (Option PeriodicSessionHandle)) (c : Config σ β) :
    Move σ β → Config σ β × List (Notice β)
  | .run =>
    match c.todo with
    | [] | .user :: _ => (c, [])
    | task :: todo => { c with todo := todo }.pushOrStop (c.client.exec supl codec inspect task)
  | .returns =>
    match c.todo with
    | .user :: todo => ({ c with todo := todo }, [])
    | _ => (c, [])
  | .requestAssistanceData message now =>
    call c (some (c.client.requestAssistanceData supl codec message now))
  | .updateAssistanceData handle message now =>
    call c (some (c.client.updateAssistanceData supl codec handle message now))
  | .requestSingle message now => call c (some (c.client.requestSingle supl codec message now))
  | .createTransaction sse =>
    call c (some (c.client.onSession (c.client.mSession.createTransaction sse)))
  | .send sendCall => call c (some (c.client.onSession (sendCall.run supl codec c.client.mSession)))
  | .schedule registers => call c (c.client.schedule registers)
  | .cancel => call c c.client.cancel
  | .disconnected =>
    call c (if c.client.mScheduler then
        some ({ c.client with deferred := c.client.deferred ++ [.disconnected] }, [], [])
      else none)
  | .receive message =>
    if c.client.mScheduler && c.client.mSession.mSession.isSome then
      let r := c.client.mSession.receive message
      let outcome := c.client.onSession (r.1, r.2.1)
      event c (some (outcome.1, outcome.2.1 ++ (r.2.2.map Piece.returned).toList, outcome.2.2))
    else (c, [])
  | .tick o now =>
    match c.client.periodic.lookup o with
    | some session =>
      if session.mPeriodicTask then event c (some (c.client, checkActiveRequests o session now, []))
      else (c, [])
    | none => (c, [])
  | .singleTick o now =>
    match c.client.single.lookup o with
    | some session =>
      if session.mPeriodicTask then
        event c (some (c.client, checkActiveRequest o session now,
          if now - session.mLastRequestTime > 5 then
            (session.mTransaction.map (Notice.stale o)).toList
          else []))
      else (c, [])
    | none => (c, [])
  | .deferred =>
    match c.client.deferred with
    | closure :: deferred =>
      event c (some ({ c.client with deferred := deferred }, Config.closurePieces closure, []))
    | [] => (c, [])
  | .supl session =>
    if c.client.mScheduler && c.usersTurn then
      ({ c with client := { c.client with
          mSession := { c.client.mSession with mSession := some session } } }, [])
    else (c, [])
  | .posinit =>
    if c.client.mScheduler && c.usersTurn then
      ({ c with client := { c.client with
          mSession := { c.client.mSession with mPosQueue := [] } } }, [])
    else (c, [])

/-- Once the program has stopped nothing happens. -/
def step (inspect : Message β → Option (Option PeriodicSessionHandle)) (c : Config σ β)
    (m : Move σ β) : Config σ β × List (Notice β) :=
  if c.stopped then (c, []) else move supl codec inspect c m

end Calls

end Client

end SuplLpp.Lpp
