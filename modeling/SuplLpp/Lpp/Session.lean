import SuplLpp.Lpp.Endpoint

/-!
# `lpp::Session`: the connection and its wait registrations

`process` runs the states of a session until one of them asks to wait.  It then leaves a
deferred update with the scheduler, which registers the connection's file descriptor.

* `SuplApi σ`: the SUPL session, with states of any type `σ`, so every outcome of its calls
  is some `SuplApi σ`.  All it promises is that a message handed out was in the buffer;
* `World`: a session, the updates that wait at the scheduler, and what the callbacks will
  do.  An update that was queued when the session was cancelled is marked `stale`;
* `World.step`: a start, an event on the file descriptor, one deferred update, or a call.

The scheduler runs deferred updates before it delivers the next event, and an event only
for a file descriptor that is registered, with the interests it is registered for; errors
and hangups are always reported.
-/

namespace SuplLpp.Lpp

inductive State
  | unknown
  | connect
  | connecting
  | connected
  | connectionFailed
  | disconnected
  | suplHandshakeSend
  | suplHandshakeRecv
  | suplPosinit
  | established
  | message
  | error
  | exit
  deriving DecidableEq

/-- What a state function answers: the state to go on with, or the states to go on with
when the awaited events come. -/
structure NextState where
  readState : State
  writeState : State
  errorState : State
  nextState : State
  schedule : Bool
  deriving DecidableEq

namespace NextState

def make : NextState := ⟨.unknown, .unknown, .unknown, .unknown, false⟩

def read (n : NextState) (state : State) : NextState :=
  { n with readState := state, schedule := true }

def write (n : NextState) (state : State) : NextState :=
  { n with writeState := state, schedule := true }

def error (n : NextState) (state : State) : NextState :=
  { n with errorState := state, schedule := true }

def next (n : NextState) (state : State) : NextState := { n with nextState := state }

end NextState

inductive ConnectProgress
  | done
  | wantRead
  | wantWrite
  | failed
  deriving DecidableEq

inductive Handshake
  | ok
  | error
  | noData
  deriving DecidableEq

/-- What `try_receive` answers, with the message of a `POS`. -/
inductive Received
  | unknown
  | invalidSession
  | unableToDecode
  | sessionTerminated
  | noData
  | response
  | endSession
  | pos (pos : Pos)
  deriving DecidableEq

/-- `try_receive` took a message from the buffer and the session goes on reading. -/
def Received.goesOn : Received → Bool
  | .noData | .endSession | .sessionTerminated | .invalidSession => false
  | _ => true

/-- What `lpp::Session` calls of `supl::Session`.  `lost` is true when its TCP client is
disconnected, `buffered` measures what it has read and not handed out. -/
structure SuplApi (σ : Type*) extends Supl σ where
  connect : σ → σ × Bool
  handleConnection : σ → σ × ConnectProgress
  handshake : σ → σ × Bool
  handleHandshake : σ → σ × Handshake
  sendPosinit : σ → List Payload → σ × Bool
  fillReceiveBuffer : σ → σ × Bool
  tryReceive : σ → σ × Received
  fd : σ → ℤ
  isDisconnected : σ → Bool
  lost : σ → Bool
  buffered : σ → ℕ
  tryReceive_lt : ∀ s, (tryReceive s).2.goesOn = true → buffered (tryReceive s).1 < buffered s
  send_le : ∀ s p, buffered (send s p).1 ≤ buffered s
  disconnect_le : ∀ s, buffered (disconnect s) ≤ buffered s

/-! ### The registration task -/

/-- The arguments of a deferred `SessionTask::update`. -/
structure Update where
  fd : ℤ
  read : Bool
  write : Bool
  error : Bool
  deriving DecidableEq

/-- The update of a session that has nothing to wait for. -/
def Update.off : Update := ⟨-1, false, false, false⟩

/-- The update that registers the awaited events of `fd`. -/
def NextState.update (n : NextState) (fd : ℤ) : Update :=
  ⟨fd, n.readState ≠ .unknown, n.writeState ≠ .unknown, n.errorState ≠ .unknown⟩

/-- `mScheduler` is set while the task is registered. -/
structure SessionTask where
  mFd : ℤ
  mScheduler : Bool
  mReadEnabled : Bool
  mWriteEnabled : Bool
  mErrorEnabled : Bool
  deriving DecidableEq

namespace SessionTask

def new : SessionTask := ⟨-1, false, false, false, false⟩

/-- `registers`: the scheduler accepts the file descriptor. -/
def schedule (t : SessionTask) (registers : Bool) : SessionTask :=
  if t.mScheduler then t else { t with mScheduler := registers }

def cancel (t : SessionTask) : SessionTask := { t with mScheduler := false }

/-- The start of `update`, where the file descriptor changes. -/
def changeFd (t : SessionTask) (fd : ℤ) : SessionTask :=
  { (if t.mFd ≠ -1 ∧ t.mScheduler = true then t.cancel else t) with mFd := fd }

/-- The middle of `update`, where the interests change. -/
def changeFlags (t : SessionTask) (u : Update) : SessionTask :=
  let t : SessionTask := { t with
    mReadEnabled := u.read
    mWriteEnabled := u.write
    mErrorEnabled := u.error }
  if t.mFd ≠ -1 ∧ t.mScheduler = true then t.cancel else t

def update (t : SessionTask) (u : Update) (registers : Bool) : SessionTask :=
  let fdDiffers : Bool := t.mFd ≠ u.fd
  let flagsDiffer : Bool :=
    t.mReadEnabled ≠ u.read ∨ t.mWriteEnabled ≠ u.write ∨ t.mErrorEnabled ≠ u.error
  let t₁ := if fdDiffers then t.changeFd u.fd else t
  let t₂ := if flagsDiffer then t₁.changeFlags u else t₁
  if t₂.mFd ≠ -1 ∧ (fdDiffers || flagsDiffer) = true then t₂.schedule registers else t₂

/-- The last update the task was given. -/
def wants (t : SessionTask) : Update :=
  ⟨t.mFd, t.mReadEnabled, t.mWriteEnabled, t.mErrorEnabled⟩

/-- A task is never registered without a file descriptor. -/
def Sound (t : SessionTask) : Prop := t.mScheduler = true → t.mFd ≠ -1

theorem sound_new : new.Sound := by simp [Sound, new]

theorem sound_cancel (t : SessionTask) : t.cancel.Sound := by simp [Sound, cancel]

theorem Sound.changeFd {t : SessionTask} (h : t.Sound) (fd : ℤ) :
    t.changeFd fd = ⟨fd, false, t.mReadEnabled, t.mWriteEnabled, t.mErrorEnabled⟩ := by
  unfold SessionTask.changeFd
  cases hs : t.mScheduler with
  | false => simp [hs]
  | true => simp [h hs, cancel]

theorem Sound.changeFlags {t : SessionTask} (h : t.Sound) (u : Update) :
    t.changeFlags u = ⟨t.mFd, false, u.read, u.write, u.error⟩ := by
  unfold SessionTask.changeFlags
  cases hs : t.mScheduler with
  | false => simp
  | true => simp [h hs, cancel]

/-- `update` registers the task anew unless nothing changed. -/
theorem update_eq {t : SessionTask} (h : t.Sound) (u : Update) (registers : Bool) :
    t.update u registers =
      if t.wants = u then t
      else ⟨u.fd, decide (u.fd ≠ -1) && registers, u.read, u.write, u.error⟩ := by
  have hfresh : ∀ fd r w e, (⟨fd, false, r, w, e⟩ : SessionTask).Sound := by simp [Sound]
  -- every way to a change leaves the task unregistered, and then `schedule` decides
  have hlast : ∀ fd r w e, (if fd ≠ -1 then
      (⟨fd, false, r, w, e⟩ : SessionTask).schedule registers else ⟨fd, false, r, w, e⟩) =
      ⟨fd, decide (fd ≠ -1) && registers, r, w, e⟩ := by
    intro fd r w e
    by_cases hfd : fd = -1 <;> simp [hfd, schedule]
  by_cases hfd : t.mFd = u.fd
  · by_cases hfl : t.mReadEnabled = u.read ∧ t.mWriteEnabled = u.write ∧ t.mErrorEnabled = u.error
    · simp [update, wants, hfd, hfl]
    · have hfl' : t.mReadEnabled ≠ u.read ∨ t.mWriteEnabled ≠ u.write ∨
          t.mErrorEnabled ≠ u.error := by tauto
      have hw : t.wants ≠ u := by
        rintro rfl
        simp [wants] at hfl
      rw [if_neg hw, ← hlast, ← hfd]
      simp [update, hfd, hfl', h.changeFlags]
  · have hw : t.wants ≠ u := by
      rintro rfl
      simp [wants] at hfd
    rw [if_neg hw, ← hlast]
    by_cases hfl : t.mReadEnabled = u.read ∧ t.mWriteEnabled = u.write ∧ t.mErrorEnabled = u.error
    · simp [update, hfd, hfl, h.changeFd]
    · have hfl' : t.mReadEnabled ≠ u.read ∨ t.mWriteEnabled ≠ u.write ∨
          t.mErrorEnabled ≠ u.error := by tauto
      simp [update, hfd, hfl', h.changeFd, (hfresh _ _ _ _).changeFlags]

theorem wants_update {t : SessionTask} (h : t.Sound) (u : Update) (registers : Bool) :
    (t.update u registers).wants = u := by
  rw [update_eq h]
  by_cases hu : t.wants = u
  · rw [if_pos hu, hu]
  · rw [if_neg hu]
    rfl

theorem sound_update {t : SessionTask} (h : t.Sound) (u : Update) (registers : Bool) :
    (t.update u registers).Sound := by
  rw [update_eq h]
  split_ifs with hu
  · exact h
  · simp only [Sound, Bool.and_eq_true, decide_eq_true_eq]
    exact And.left

end SessionTask

/-! ### The session -/

structure Session (σ : Type*) extends Endpoint σ where
  mState : State
  mScheduler : Bool
  mTask : SessionTask
  mNextReadState : State
  mNextWriteState : State
  mNextErrorState : State

/-- An update at the scheduler; `stale` when the session was cancelled since it was queued. -/
structure Deferred where
  update : Update
  stale : Bool
  deriving DecidableEq

/-- The calls into a session that its user and its callbacks make. -/
inductive Call (β : Type*)
  | createTransaction (singleSideEndable : Bool)
  | deleteTransaction (handle : TransactionHandle)
  | send (handle : TransactionHandle) (message : Message β)
  | sendWithEnd (handle : TransactionHandle) (message : Message β)
  | abort (handle : TransactionHandle)
  | cancel

/-- A session, the updates at its scheduler, the calls that the next callbacks will make,
and the state of the next SUPL session that is created. -/
structure World (σ β : Type*) extends Session σ where
  deferred : List Deferred
  callbacks : List (List (Call β))
  fresh : σ

/-- Where a session would stop the program. -/
inductive Fault
  | nullSession
  | nullScheduler
  | unreachable
  | fuel
  deriving DecidableEq

/-- What an observer of a session and its scheduler sees.  `cancelled` notes the state, the
task and the queued updates that the call of `cancel` found. -/
inductive Occurrence (β : Type*)
  | lpp (event : Event β)
  | connecting
  | onEstablished
  | onDisconnected
  | cancelled (state : State) (task : SessionTask) (queued : List Update)
  | handshakeFailed
  | waitingLost
  | waitingForgotten
  | registered (update : Update) (stale : Bool)
  | fault (fault : Fault)
  deriving DecidableEq

namespace World

variable {σ β : Type*} (api : SuplApi σ) (codec : Codec β)

def new (fresh : σ) (hack : Bool) : World σ β where
  toEndpoint := Endpoint.new hack
  mState := .unknown
  mScheduler := false
  mTask := SessionTask.new
  mNextReadState := .unknown
  mNextWriteState := .unknown
  mNextErrorState := .unknown
  deferred := []
  callbacks := []
  fresh := fresh

/-- Runs a function on the endpoint. -/
def onEndpoint (w : World σ β) (r : Endpoint σ × List (Event β)) :
    World σ β × List (Occurrence β) :=
  ({ w with toEndpoint := r.1 }, r.2.map .lpp)

def switchState (w : World σ β) (state : State) : World σ β := { w with mState := state }

/-- The assertion stops a cancel without a scheduler. -/
def cancel (w : World σ β) : World σ β × List (Occurrence β) :=
  if w.mScheduler then
    ({ w with
        mState := .exit
        mTask := if w.mTask.mScheduler then w.mTask.cancel else w.mTask
        mSession := none
        mScheduler := false
        deferred := w.deferred.map fun d => { d with stale := true } },
      [.cancelled w.mState w.mTask (w.deferred.map Deferred.update)])
  else (w, [.fault .nullScheduler])

def call (w : World σ β) : Call β → World σ β × List (Occurrence β)
  | .createTransaction sse => w.onEndpoint (w.toEndpoint.createTransaction sse)
  | .deleteTransaction handle => w.onEndpoint (w.toEndpoint.deleteTransaction handle)
  | .send handle message => w.onEndpoint (w.toEndpoint.send api.toSupl codec handle message)
  | .sendWithEnd handle message =>
    w.onEndpoint (w.toEndpoint.sendWithEnd api.toSupl codec handle message)
  | .abort handle => w.onEndpoint (w.toEndpoint.abort api.toSupl codec handle)
  | .cancel => w.cancel

/-- A callback runs and makes its calls. -/
def callback (w : World σ β) : World σ β × List (Occurrence β) :=
  match w.callbacks with
  | [] => (w, [])
  | calls :: callbacks => Mealy.run (call api codec) { w with callbacks := callbacks } calls

/-! ### Receiving -/

/-- `process_lpp_payload`; the last component is false when the program stops. -/
def processLppPayload (w : World σ β) (payload : Payload) :
    World σ β × List (Occurrence β) × Bool :=
  match w.mSession with
  | none => (w, [.fault .nullSession], false)
  | some _ =>
    let r := w.toEndpoint.receive (codec.decode payload.data)
    let w' : World σ β × List (Occurrence β) := w.onEndpoint (r.1, r.2.1)
    match r.2.2 with
    | none => (w'.1, w'.2, true)
    | some frame =>
      let c := w'.1.callback api codec
      let e := c.1.onEndpoint (c.1.toEndpoint.returned frame)
      (e.1, w'.2 ++ c.2 ++ e.2, true)

/-- The loop of `process_supl_pos`. -/
def processSuplPos (w : World σ β) : List Payload → World σ β × List (Occurrence β) × Bool
  | [] => (w, [], true)
  | payload :: payloads =>
    match payload.type with
    | .lpp =>
      let r := w.processLppPayload api codec payload
      if r.2.2 then
        let t := processSuplPos r.1 payloads
        (t.1, r.2.1 ++ t.2.1, t.2.2)
      else r
    | _ => processSuplPos w payloads

/-- The answer of a state function; `none` when the program stops. -/
abbrev Answer (σ β : Type*) := World σ β × List (Occurrence β) × Option NextState

/-- A null pointer is dereferenced, or the assertion before that stops the program. -/
def nullSession (w : World σ β) : Answer σ β := (w, [.fault .nullSession], none)

/-- The loop of `state_message`. -/
def receiveLoop : ℕ → World σ β → Answer σ β
  | 0, w => (w, [.fault .fuel], none)
  | fuel + 1, w =>
    match w.mSession with
    | none => w.nullSession
    | some session =>
      let r := api.tryReceive session
      let w := { w with mSession := some r.1 }
      match r.2 with
      | .noData => (w, [], some (NextState.make.read .message |>.error .disconnected))
      | .endSession | .sessionTerminated | .invalidSession =>
        (w, [], some (NextState.make.next .disconnected))
      | .pos pos =>
        let p := w.processSuplPos api codec pos.payloads
        if p.2.2 then
          let t := receiveLoop fuel p.1
          (t.1, p.2.1 ++ t.2.1, t.2.2)
        else (p.1, p.2.1, none)
      | .unknown | .unableToDecode | .response => receiveLoop fuel w

/-! ### The states -/

def stateConnect (w : World σ β) : Answer σ β :=
  match w.mSession with
  | some _ => (w, [], some (NextState.make.next .disconnected))
  | none =>
    let r := api.connect w.fresh
    ({ w with mSession := some r.1 }, [],
      if r.2 then
        some (NextState.make.read .connecting |>.write .connecting |>.error .error)
      else some (NextState.make.next .disconnected))

def stateConnecting (w : World σ β) : Answer σ β :=
  match w.mSession with
  | none => w.nullSession
  | some session =>
    let r := api.handleConnection session
    ({ w with mSession := some r.1 }, [],
      match r.2 with
      | .done => some (NextState.make.next .connected)
      | .wantRead => some (NextState.make.read .connecting |>.error .error)
      | .wantWrite => some (NextState.make.write .connecting |>.error .error)
      | .failed => some (NextState.make.next .connectionFailed))

def stateConnectionFailed (w : World σ β) : Answer σ β :=
  (w, [], some (NextState.make.next .disconnected))

def stateDisconnected (w : World σ β) : Answer σ β :=
  let r := w.callback api codec
  (r.1, .onDisconnected :: r.2, some (NextState.make.next .exit))

def stateError (w : World σ β) : Answer σ β :=
  (w, [], some (NextState.make.next .disconnected))

def stateConnected (w : World σ β) : Answer σ β :=
  (w, [], some (NextState.make.next .suplHandshakeSend))

def stateHandshakeSend (w : World σ β) : Answer σ β :=
  match w.mSession with
  | none => w.nullSession
  | some session =>
    let r := api.handshake session
    ({ w with mSession := some r.1 }, [],
      if r.2 then some (NextState.make.read .suplHandshakeRecv |>.error .disconnected)
      else some (NextState.make.next .disconnected))

def stateHandshakeRecv (w : World σ β) : Answer σ β :=
  match w.mSession with
  | none => w.nullSession
  | some session =>
    let r := api.handleHandshake session
    let w := { w with mSession := some r.1 }
    match r.2 with
    | .noData => (w, [], some (NextState.make.read .suplHandshakeRecv |>.error .disconnected))
    | .error => (w, [.handshakeFailed], some (NextState.make.error .disconnected))
    | .ok => (w, [], some (NextState.make.next .suplPosinit))

def statePosinit (w : World σ β) : Answer σ β :=
  match w.mSession with
  | none => w.nullSession
  | some session =>
    let r := api.sendPosinit session (w.mPosQueue.flatMap Pos.payloads)
    ({ w with mSession := some r.1, mPosQueue := [] }, [],
      if r.2 then some (NextState.make.next .established)
      else some (NextState.make.next .disconnected))

def stateEstablished (w : World σ β) : Answer σ β :=
  let r := w.callback api codec
  (r.1, .onEstablished :: r.2, some (NextState.make.read .message |>.error .disconnected))

def stateMessage (w : World σ β) : Answer σ β :=
  match w.mSession with
  | none => w.nullSession
  | some session =>
    let r := api.fillReceiveBuffer session
    let w := { w with mSession := some r.1 }
    if r.2 then receiveLoop api codec (api.buffered r.1 + 1) w
    else (w, [], some (NextState.make.next .disconnected))

/-- The switch of `process`. -/
def state (w : World σ β) : Answer σ β :=
  match w.mState with
  | .unknown | .exit => (w, [.fault .unreachable], none)
  | .connect => w.stateConnect api
  | .connecting => w.stateConnecting api
  | .connectionFailed => w.stateConnectionFailed
  | .connected => w.stateConnected
  | .disconnected => w.stateDisconnected api codec
  | .error => w.stateError
  | .suplHandshakeSend => w.stateHandshakeSend api
  | .suplHandshakeRecv => w.stateHandshakeRecv api
  | .suplPosinit => w.statePosinit api
  | .established => w.stateEstablished api codec
  | .message => w.stateMessage api codec

/-! ### `process` -/

def defer (w : World σ β) (u : Update) : World σ β :=
  { w with deferred := w.deferred ++ [⟨u, false⟩] }

/-- The task once the scheduler has run what is queued and accepted every registration. -/
def taskAfter (w : World σ β) : SessionTask :=
  w.deferred.foldl (fun t d => t.update d.update true) w.mTask

/-- The task remembers the file descriptor and the interests but is not registered. -/
def forgotten (w : World σ β) (u : Update) : Bool :=
  !w.taskAfter.mScheduler && w.taskAfter.wants = u

def awaiting (w : World σ β) (result : NextState) : World σ β :=
  { w with
    mNextReadState := result.readState
    mNextWriteState := result.writeState
    mNextErrorState := result.errorState }

/-- The end of a round of `process` whose state asks to wait.  That the connection is lost,
or the registration forgotten, is noted for the observer. -/
def wait (w : World σ β) (result : NextState) : World σ β × List (Occurrence β) :=
  match w.mSession with
  | none => (w.switchState .disconnected, [.waitingLost])
  | some session =>
    if !w.mScheduler ∨ api.fd session < 0 ∨ api.isDisconnected session then
      (w.switchState .disconnected, [.waitingLost])
    else
      let w := w.awaiting result
      let u := result.update (api.fd session)
      (w.defer u,
        (if api.lost session then [.waitingLost] else []) ++
          (if w.forgotten u then [.waitingForgotten] else []))

def process : ℕ → World σ β → World σ β × List (Occurrence β)
  | 0, w => (w, [.fault .fuel])
  | fuel + 1, w =>
    if w.mState = .exit then
      if w.mScheduler then (w.defer .off, []) else (w, [.fault .nullScheduler])
    else
      let r := w.state api codec
      match r.2.2 with
      | none => (r.1, r.2.1)
      | some result =>
        if result.schedule then
          let t := r.1.wait api result
          (t.1, r.2.1 ++ t.2)
        else
          let t := process fuel (r.1.switchState result.nextState)
          (t.1, r.2.1 ++ t.2)

/-- More rounds than a call of `process` can take. -/
def rounds : ℕ := 16

/-! ### The session and its scheduler as a machine -/

/-- The conditions an event reports. -/
structure Triggered where
  read : Bool
  write : Bool
  error : Bool
  hangup : Bool
  deriving DecidableEq

inductive Op (σ β : Type*)
  | start (fresh : σ) (callbacks : List (List (Call β)))
  | event (triggered : Triggered) (callbacks : List (List (Call β)))
  | deferred (registers : Bool)
  | call (call : Call β)

/-- The connection information is set; refused while a connection is up. -/
def connect (w : World σ β) : World σ β × List (Occurrence β) :=
  if w.mState ≠ .unknown ∧ w.mState ≠ .exit then (w, [])
  else (w.switchState .connect, [.connecting])

/-- `connect` and `schedule`, as a client calls them. -/
def start (w : World σ β) (fresh : σ) (callbacks : List (List (Call β))) :
    World σ β × List (Occurrence β) :=
  let c := w.connect
  let t := { c.1 with
    mScheduler := true
    fresh := fresh
    callbacks := callbacks }.process api codec rounds
  (t.1, c.2 ++ t.2)

/-- The scheduler delivers the event. -/
def delivers (w : World σ β) (triggered : Triggered) : Bool :=
  w.mTask.mScheduler && w.deferred.isEmpty && (!triggered.read || w.mTask.mReadEnabled) &&
    (!triggered.write || w.mTask.mWriteEnabled)

/-- `SessionTask::event`. -/
def event (w : World σ β) (triggered : Triggered) : World σ β × List (Occurrence β) :=
  if triggered.read then (w.switchState w.mNextReadState).process api codec rounds
  else if triggered.write then (w.switchState w.mNextWriteState).process api codec rounds
  else if triggered.error then (w.switchState w.mNextErrorState).process api codec rounds
  else (w, [])

/-- The scheduler runs the oldest deferred update. -/
def runDeferred (w : World σ β) (registers : Bool) : World σ β × List (Occurrence β) :=
  match w.deferred with
  | [] => (w, [])
  | d :: deferred =>
    let task := w.mTask.update d.update registers
    ({ w with mTask := task, deferred := deferred },
      if task ≠ w.mTask.update d.update false then [.registered d.update d.stale] else [])

def step (w : World σ β) : Op σ β → World σ β × List (Occurrence β)
  | .start fresh callbacks => w.start api codec fresh callbacks
  | .event triggered callbacks =>
    if w.delivers triggered then { w with callbacks := callbacks }.event api codec triggered
    else (w, [])
  | .deferred registers => w.runDeferred registers
  | .call c => w.call api codec c

end World

/-- A SUPL session that answers every call well and never receives a message. -/
def SuplApi.ideal : SuplApi Unit where
  send s _ := (s, true)
  disconnect s := s
  connect s := (s, true)
  handleConnection s := (s, .done)
  handshake s := (s, true)
  handleHandshake s := (s, .ok)
  sendPosinit s _ := (s, true)
  fillReceiveBuffer s := (s, true)
  tryReceive s := (s, .noData)
  fd _ := 5
  isDisconnected _ := false
  lost _ := false
  buffered _ := 0
  tryReceive_lt _ h := by cases h
  send_le _ _ := le_rfl
  disconnect_le _ := le_rfl

/-- The events of a connection that comes up: the connection is made, and it is written to. -/
def World.comingUp {σ β : Type*} (fresh : σ) : List (World.Op σ β) :=
  [.start fresh [], .deferred true, .event ⟨false, true, false, false⟩ [], .deferred true]

end SuplLpp.Lpp
