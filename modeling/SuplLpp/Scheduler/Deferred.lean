import Mathlib.Tactic
import SuplLpp.Lib.Mealy

/-!
# Deferred callbacks and the objects they capture

`TimeoutTask`, `TcpConnectTask`, the clients of a `TcpServerStream` and `lpp::Client` put
callbacks into the scheduler that hold a raw pointer to the object, or to its server.  A heap of
such objects, and of the `AGnssProcessor` that owns some of them, takes timer events, connection
errors, failed requests and destructions in any order.

* `World`: the objects, the deferred callbacks, the batch that is being processed, and the
  callbacks of user code that are running;
* `step`: one event, one call, or the next callback of the batch;
* `Unreferenced`: nothing that is queued or running comes back to the object;
* `owners_alive`: a run that destroys only unreferenced objects runs no callback of a dead one.
-/

namespace SuplLpp.Deferred

/-! ### The objects -/

/-- A pointer; it is never given out again. -/
abbrev ObjId := ℕ

structure TimeoutTask where
  /-- Is `mEvent` valid? -/
  mEvent : Bool
  /-- Is the timer armed? -/
  mTimer : Bool
  /-- The processor whose callback it runs; otherwise the callback is user code. -/
  processor : Option ObjId

/-- `TcpConnectTask::State`. -/
inductive ConnectState
  | unscheduled
  | connecting
  | connected
  | disconnected
  | error
  deriving DecidableEq

structure TcpConnectTask where
  mState : ConnectState
  mIsScheduled : Bool
  mShouldReconnect : Bool
  /-- Is `mReconnectTimeout` scheduled? -/
  mReconnectTimeout : Bool

/-- `TcpServerStream::Client`. -/
structure ServerClient where
  fd : ℤ
  mDestroying : Bool

structure TcpServerStream where
  mClients : List ServerClient

/-- A session for one request, and whether its `mTransaction` is valid. -/
structure SingleSession where
  handle : ℕ
  valid : Bool

/-- `lpp::Client`. -/
structure Client where
  /-- Is `mScheduler` set? -/
  mScheduler : Bool
  mSessions : List ℕ
  mSingleSessions : List SingleSession
  /-- The processor whose callbacks it has; otherwise they are user code. -/
  processor : Option ObjId

structure AGnssProcessor where
  mClient : Option ObjId
  mTriggeredDelayTask : Option ObjId
  mTriggeredRequestPending : Bool

inductive Object
  | timeout (task : TimeoutTask)
  | connect (task : TcpConnectTask)
  | server (stream : TcpServerStream)
  | client (client : Client)
  | processor (processor : AGnssProcessor)

/-! ### The world -/

/-- A deferred callback, by what it captured. -/
inductive Closure
  | cancelTimeout (task : ObjId)
  | reconnect (task : ObjId)
  | disconnect (task : ObjId)
  | scheduleReconnect (task : ObjId)
  | removeClient (server : ObjId) (fd : ℤ)
  | cancelClient (client : ObjId)
  | deallocatePeriodicSession (client : ObjId) (handle : ℕ)
  | removeSingleSession (client : ObjId) (handle : ℕ)
  | updateSession (client : ObjId)
  | resetClient (processor : ObjId)
  | user
  deriving DecidableEq

/-- What a timeout, a connect task, the client of a server or an `lpp::Client` captured. -/
def Closure.captured : Closure → Option ObjId
  | .cancelTimeout o | .reconnect o | .disconnect o | .scheduleReconnect o | .removeClient o _
  | .cancelClient o | .deallocatePeriodicSession o _ | .removeSingleSession o _
  | .updateSession o => some o
  | .resetClient _ | .user => none

/-- A callback of user code that is running, by the code that goes on when it returns. -/
inductive Frame
  /-- `TimeoutTask::on_event` in `mCallback`. -/
  | timeout (task : ObjId)
  /-- `check_active_requests` in `stale_request`. -/
  | stale (client : ObjId) (handle : ℕ)
  deriving DecidableEq

structure World where
  heap : ObjId → Option Object
  next : ObjId
  mDeferredCallbacks : List Closure
  batch : List Closure
  frames : List Frame

namespace World

def empty : World := ⟨fun _ => none, 0, [], [], []⟩

def Live (s : World) (o : ObjId) : Prop := s.heap o ≠ none

instance (s : World) (o : ObjId) : Decidable (s.Live o) :=
  decidable_of_iff ((s.heap o).isSome = true) Option.isSome_iff_ne_none

def defer (s : World) (k : Closure) : World :=
  { s with mDeferredCallbacks := s.mDeferredCallbacks ++ [k] }

def deferAll (s : World) (ks : List Closure) : World :=
  { s with mDeferredCallbacks := s.mDeferredCallbacks ++ ks }

/-- Write an object. -/
def put (s : World) (o : ObjId) (x : Object) : World :=
  { s with heap := Function.update s.heap o (some x) }

/-- Release the memory of an object. -/
def free (s : World) (o : ObjId) : World :=
  { s with heap := Function.update s.heap o none }

@[simp] theorem heap_put_self (s : World) (o : ObjId) (x : Object) :
    (s.put o x).heap o = some x := by
  unfold World.put
  exact Function.update_self ..

theorem heap_put_of_ne (s : World) {o o' : ObjId} (h : o' ≠ o) (x : Object) :
    (s.put o x).heap o' = s.heap o' := by
  unfold World.put
  exact Function.update_of_ne h ..

@[simp] theorem heap_free_self (s : World) (o : ObjId) : (s.free o).heap o = none := by
  unfold World.free
  exact Function.update_self ..

theorem heap_free_of_ne (s : World) {o o' : ObjId} (h : o' ≠ o) :
    (s.free o).heap o' = s.heap o' := by
  unfold World.free
  exact Function.update_of_ne h ..

/-- A new object. -/
def create (s : World) (x : Object) : World :=
  { s.put s.next x with next := s.next + 1 }

/-! ### The objects at work -/

/-- `TcpServerStream::Client::destroy`, of clients that are given up. -/
def goodbyes (server : ObjId) (clients : List ServerClient) : List Closure :=
  (clients.filter fun c => !c.mDestroying).map fun c => .removeClient server c.fd

/-- The destructor of an object that owns no other. -/
def destroyOne (s : World) (o : ObjId) : World :=
  match s.heap o with
  | some (.server stream) => (s.free o).deferAll (goodbyes o stream.mClients)
  | _ => s.free o

def destroyOpt (s : World) : Option ObjId → World
  | none => s
  | some o => s.destroyOne o

/-- The destructor of an object. -/
def destroyObject (s : World) (o : ObjId) : World :=
  match s.heap o with
  | some (.processor p) =>
      ((s.destroyOpt p.mTriggeredDelayTask).destroyOpt p.mClient).destroyOne o
  | _ => s.destroyOne o

end World

/-- How `connect` and `register_fd` answer a connect task. -/
inductive ConnectAnswer
  | failed
  | inProgress (registered : Bool)
  | established (registered : Bool)

/-- `TcpConnectTask::cancel`. -/
def TcpConnectTask.cancel (t : TcpConnectTask) : TcpConnectTask := { t with mIsScheduled := false }

/-- `TcpConnectTask::disconnect`. -/
def TcpConnectTask.disconnect (t : TcpConnectTask) : TcpConnectTask :=
  if t.mState ≠ .connecting ∧ t.mState ≠ .connected then t
  else { t.cancel with mState := .disconnected }

/-- `TcpConnectTask::connect`; on `none` it returns false and leaves the state as it is. -/
def TcpConnectTask.connect (t : TcpConnectTask) (answer : ConnectAnswer) : Option ConnectState :=
  if t.mState ≠ .unscheduled ∧ t.mState ≠ .disconnected then none
  else
    match answer with
    | .failed => some .error
    | .inProgress _ => some .connecting
    | .established _ => some .connected

/-- `TcpConnectTask::schedule`. -/
def TcpConnectTask.schedule (t : TcpConnectTask) (answer : ConnectAnswer) : TcpConnectTask :=
  if t.mIsScheduled then t
  else
    match t.connect answer, answer with
    | none, _ => if t.mShouldReconnect then { t with mReconnectTimeout := true } else t
    | some state, .failed =>
        { t with
          mState := state
          mReconnectTimeout := t.mReconnectTimeout || t.mShouldReconnect }
    | some state, .inProgress registered | some state, .established registered =>
        if registered then { t with mState := state, mIsScheduled := true }
        else { t with mState := .error }

/-- What `TcpConnectTask::error` defers: `disconnect` in every state. -/
def TcpConnectTask.error (t : TcpConnectTask) (o : ObjId) : List Closure :=
  .disconnect o ::
    if t.mShouldReconnect && !t.mReconnectTimeout then [.scheduleReconnect o] else []

/-- `Client::cancel`. -/
def Client.cancel (c : Client) : Client :=
  { c with mScheduler := false, mSessions := [], mSingleSessions := [] }

namespace World

/-- `AGnssProcessor::request_agnss`; `sent` tells whether the request could be made. -/
def requestAgnss (s : World) (o : ObjId) (sent : Bool) : World :=
  match s.heap o with
  | some (.processor p) =>
      if p.mClient.isSome then s
      else if !sent then { s with next := s.next + 1 }
      else
        (s.create (.client ⟨true, [], [⟨0, true⟩], some o⟩)).put o
          (.processor { p with mClient := some s.next })
  | _ => s

/-- `AGnssProcessor::schedule_triggered_request`; `registered` is the answer to the new task. -/
def scheduleTriggeredRequest (s : World) (o : ObjId) (registered : Bool) : World :=
  match s.heap o with
  | some (.processor p) =>
      if p.mTriggeredRequestPending then s
      else
        ((s.create (.timeout ⟨registered, true, some o⟩)).put o
          (.processor { p with
            mTriggeredRequestPending := true
            mTriggeredDelayTask := some s.next })).destroyOpt p.mTriggeredDelayTask
  | _ => s

/-- The callback of the triggered task. -/
def triggered (s : World) (o : ObjId) (sent : Bool) : World :=
  match s.heap o with
  | some (.processor p) =>
      (s.put o (.processor { p with mTriggeredRequestPending := false })).requestAgnss o sent
  | _ => s

/-- What the processor does on `on_error` and `on_disconnected` of its client. -/
def notify (s : World) : Option ObjId → World
  | none => s
  | some processor => s.defer (.resetClient processor)

/-- The body of a deferred callback; an assertion that fails stops it. -/
def runClosure (s : World) (answer : ConnectAnswer) : Closure → World
  | .cancelTimeout o =>
      match s.heap o with
      | some (.timeout t) => s.put o (.timeout { t with mEvent := false, mTimer := false })
      | _ => s
  | .reconnect o =>
      match s.heap o with
      | some (.connect t) =>
          s.put o (.connect ({ t with mReconnectTimeout := false }.schedule answer))
      | _ => s
  | .disconnect o =>
      match s.heap o with
      | some (.connect t) => s.put o (.connect t.disconnect)
      | _ => s
  | .scheduleReconnect o =>
      match s.heap o with
      | some (.connect t) => s.put o (.connect { t with mReconnectTimeout := true })
      | _ => s
  | .removeClient o fd =>
      match s.heap o with
      | some (.server stream) =>
          (s.put o (.server ⟨stream.mClients.eraseP fun c => c.fd = fd⟩)).deferAll
            (goodbyes o (stream.mClients.find? fun c => c.fd = fd).toList)
      | _ => s
  | .cancelClient o =>
      match s.heap o with
      | some (.client c) =>
          if c.mScheduler then (s.put o (.client c.cancel)).notify c.processor else s
      | _ => s
  | .deallocatePeriodicSession o handle =>
      match s.heap o with
      | some (.client c) => s.put o (.client { c with mSessions := c.mSessions.erase handle })
      | _ => s
  | .removeSingleSession o handle =>
      match s.heap o with
      | some (.client c) =>
          s.put o (.client { c with
            mSingleSessions := c.mSingleSessions.filter fun session => session.handle ≠ handle })
      | _ => s
  | .updateSession _ => s
  | .resetClient o =>
      match s.heap o with
      | some (.processor p) =>
          (s.put o (.processor { p with mClient := none })).destroyOpt p.mClient
      | _ => s
  | .user => s

end World

/-! ### Steps -/

inductive Op
  | newTimeout (registered : Bool)
  | newConnect (shouldReconnect : Bool)
  | newServer
  | newClient
  | newProcessor
  /-- User code destroys an object of its own. -/
  | destroy (o : ObjId)
  /-- User code defers a callback of its own. -/
  | defer
  | cancelTimeout (o : ObjId)
  /-- The timer of a timeout task expires; `sent` is for the request of a processor. -/
  | timerEvent (o : ObjId) (sent : Bool)
  /-- The innermost callback of user code returns. -/
  | callbackReturns
  | connectSchedule (o : ObjId) (answer : ConnectAnswer)
  | connectCancel (o : ObjId)
  /-- The connection becomes writable. -/
  | connectWrite (o : ObjId)
  | connectError (o : ObjId)
  | reconnectTimer (o : ObjId)
  | serverAccept (o : ObjId) (fd : ℤ)
  /-- A client of the server disconnects or fails. -/
  | serverClientGone (o : ObjId) (i : ℕ)
  | serverCancel (o : ObjId)
  | clientRequest (o : ObjId) (handle : ℕ)
  | clientRequestPeriodic (o : ObjId) (handle : ℕ)
  | clientSchedule (o : ObjId)
  | clientCancel (o : ObjId)
  /-- A periodic session ends. -/
  | periodicEnds (o : ObjId) (handle : ℕ)
  /-- A request stays without a response. -/
  | staleRequest (o : ObjId) (handle : ℕ)
  | sessionDisconnected (o : ObjId)
  /-- The session of a client goes to its next state. -/
  | sessionProcess (o : ObjId)
  | processorRequest (o : ObjId) (sent : Bool)
  | processorTrigger (o : ObjId) (registered : Bool)
  | processDeferred
  /-- The next callback of the batch runs; `answer` is for a connect task. -/
  | runNext (answer : ConnectAnswer)

/-- A deferred callback that is run, and whether what it captured is alive. -/
structure Ran where
  callback : Closure
  alive : Bool
  deriving DecidableEq

namespace World

/-- Does a processor own the object? -/
def owned (s : World) (o : ObjId) : Bool :=
  match s.heap o with
  | some (.timeout t) => t.processor.isSome
  | some (.client c) => c.processor.isSome
  | _ => false

/-- What goes on when a callback of user code returns. -/
def resume (s : World) : Frame → World
  | .timeout o => s.defer (.cancelTimeout o)
  | .stale o handle =>
      match s.heap o with
      | some (.client c) =>
          if c.mSingleSessions.any fun session => session.handle = handle && session.valid then
            let ended := { c with
              mSingleSessions := c.mSingleSessions.map fun session =>
                if session.handle = handle then { session with valid := false } else session }
            if c.mScheduler then (s.put o (.client ended)).defer (.removeSingleSession o handle)
            else s.put o (.client ended)
          else s
      -- the session was destroyed with its client
      | _ => s

/-- A call or an event. -/
def act (s : World) : Op → World
  | .newTimeout registered => s.create (.timeout ⟨registered, true, none⟩)
  | .newConnect shouldReconnect =>
      s.create (.connect ⟨.unscheduled, false, shouldReconnect, false⟩)
  | .newServer => s.create (.server ⟨[]⟩)
  | .newClient => s.create (.client ⟨false, [], [], none⟩)
  | .newProcessor => s.create (.processor ⟨none, none, false⟩)
  | .destroy o => if s.owned o then s else s.destroyObject o
  | .defer => s.defer .user
  | .cancelTimeout o =>
      match s.heap o with
      | some (.timeout t) => s.put o (.timeout { t with mEvent := false, mTimer := false })
      | _ => s
  | .timerEvent o sent =>
      match s.heap o with
      | some (.timeout t) =>
          if t.mEvent && t.mTimer then
            let s := s.put o (.timeout { t with mTimer := false })
            let s := { s with frames := .timeout o :: s.frames }
            match t.processor with
            | none => s
            | some processor => s.triggered processor sent
          else s
      | _ => s
  | .callbackReturns =>
      match s.frames with
      | [] => s
      | f :: frames => { s with frames }.resume f
  | .connectSchedule o answer =>
      match s.heap o with
      | some (.connect t) => s.put o (.connect (t.schedule answer))
      | _ => s
  | .connectCancel o =>
      match s.heap o with
      | some (.connect t) => s.put o (.connect t.cancel)
      | _ => s
  | .connectWrite o =>
      match s.heap o with
      | some (.connect t) =>
          if t.mIsScheduled && t.mState = .connecting then
            s.put o (.connect { t with mState := .connected })
          else s
      | _ => s
  | .connectError o =>
      match s.heap o with
      | some (.connect t) => if t.mIsScheduled then s.deferAll (t.error o) else s
      | _ => s
  | .reconnectTimer o =>
      match s.heap o with
      | some (.connect t) => if t.mReconnectTimeout then s.defer (.reconnect o) else s
      | _ => s
  | .serverAccept o fd =>
      match s.heap o with
      | some (.server stream) => s.put o (.server ⟨stream.mClients ++ [⟨fd, false⟩]⟩)
      | _ => s
  | .serverClientGone o i =>
      match s.heap o with
      | some (.server stream) =>
          let clients := stream.mClients.modify i fun c => { c with mDestroying := true }
          (s.put o (.server ⟨clients⟩)).deferAll (goodbyes o stream.mClients[i]?.toList)
      | _ => s
  | .serverCancel o =>
      match s.heap o with
      | some (.server stream) => (s.put o (.server ⟨[]⟩)).deferAll (goodbyes o stream.mClients)
      | _ => s
  | .clientRequest o handle =>
      match s.heap o with
      | some (.client c) =>
          s.put o (.client { c with mSingleSessions := c.mSingleSessions ++ [⟨handle, true⟩] })
      | _ => s
  | .clientRequestPeriodic o handle =>
      match s.heap o with
      | some (.client c) => s.put o (.client { c with mSessions := c.mSessions ++ [handle] })
      | _ => s
  | .clientSchedule o =>
      match s.heap o with
      | some (.client c) => s.put o (.client { c with mScheduler := true })
      | _ => s
  | .clientCancel o =>
      match s.heap o with
      | some (.client c) => if c.mScheduler then s.put o (.client c.cancel) else s
      | _ => s
  | .periodicEnds o handle =>
      match s.heap o with
      | some (.client c) =>
          if c.mScheduler && c.mSessions.contains handle then
            s.defer (.deallocatePeriodicSession o handle)
          else s
      | _ => s
  | .staleRequest o handle =>
      match s.heap o with
      | some (.client c) =>
          if c.mSingleSessions.any fun session => session.handle = handle then
            { s.notify c.processor with frames := .stale o handle :: s.frames }
          else s
      | _ => s
  | .sessionDisconnected o =>
      match s.heap o with
      | some (.client c) => if c.mScheduler then s.defer (.cancelClient o) else s
      | _ => s
  | .sessionProcess o =>
      match s.heap o with
      | some (.client c) => if c.mScheduler then s.defer (.updateSession o) else s
      | _ => s
  | .processorRequest o sent => s.requestAgnss o sent
  | .processorTrigger o registered => s.scheduleTriggeredRequest o registered
  | .processDeferred =>
      { s with batch := s.mDeferredCallbacks ++ s.batch, mDeferredCallbacks := [] }
  | .runNext answer =>
      match s.batch with
      | [] => s
      | k :: batch => { s with batch }.runClosure answer k

/-- Is what the callback captured alive? -/
def holds (s : World) (k : Closure) : Bool :=
  match k.captured with
  | none => true
  | some o => s.Live o

/-- The callback that a step runs. -/
def runs (s : World) : Op → List Ran
  | .runNext _ => s.batch.head?.toList.map fun k => ⟨k, s.holds k⟩
  | _ => []

end World

def step (s : World) (op : Op) : World × List Ran := (s.act op, s.runs op)

/-! ### What may be destroyed -/

namespace World

/-- The clients of a server that are still connected. -/
def connected (s : World) (o : ObjId) : List ServerClient :=
  match s.heap o with
  | some (.server stream) => stream.mClients.filter fun c => !c.mDestroying
  | _ => []

/-- No deferred callback captured the object, it is not in its own callback, and no client
of it is connected. -/
def Unreferenced (s : World) (o : ObjId) : Prop :=
  (∀ k ∈ s.mDeferredCallbacks ++ s.batch, k.captured ≠ some o) ∧
    Frame.timeout o ∉ s.frames ∧ s.connected o = []

instance (s : World) (o : ObjId) : Decidable (s.Unreferenced o) :=
  inferInstanceAs (Decidable (_ ∧ _ ∧ _))

/-- What goes with an object. -/
def parts (s : World) (o : ObjId) : List ObjId :=
  match s.heap o with
  | some (.processor p) => p.mTriggeredDelayTask.toList ++ p.mClient.toList ++ [o]
  | _ => [o]

/-- The task that `schedule_triggered_request` replaces. -/
def replaced (s : World) (o : ObjId) : List ObjId :=
  match s.heap o with
  | some (.processor p) =>
      if p.mTriggeredRequestPending then [] else p.mTriggeredDelayTask.toList
  | _ => []

/-- The client that a deferred callback resets. -/
def resets (s : World) : Closure → List ObjId
  | .resetClient o =>
      match s.heap o with
      | some (.processor p) => p.mClient.toList
      | _ => []
  | _ => []

/-- The objects that a step destroys. -/
def doomed (s : World) : Op → List ObjId
  | .destroy o => if s.owned o then [] else s.parts o
  | .processorTrigger o _ => s.replaced o
  | .runNext _ => s.batch.head?.toList.flatMap s.resets
  | _ => []

/-- The step destroys only objects that nothing comes back to. -/
def Careful (s : World) (op : Op) : Prop := ∀ o ∈ s.doomed op, s.Unreferenced o

instance (s : World) (op : Op) : Decidable (s.Careful op) :=
  inferInstanceAs (Decidable (∀ o ∈ s.doomed op, s.Unreferenced o))

/-- What the deferred callbacks captured is alive, and so are the tasks whose callback runs. -/
structure Safe (s : World) : Prop where
  queued : ∀ k ∈ s.mDeferredCallbacks ++ s.batch, ∀ o, k.captured = some o → s.Live o
  running : ∀ o, Frame.timeout o ∈ s.frames → s.Live o

section Safe

variable {s : World} {o o' : ObjId}

theorem safe_empty : Safe empty :=
  ⟨fun _ hk => absurd hk List.not_mem_nil, fun _ hf => absurd hf List.not_mem_nil⟩

theorem live_of_heap {x : Object} (h : s.heap o = some x) : s.Live o := by
  unfold Live
  rw [h]
  exact Option.some_ne_none x

/-! ### Writing and deferring -/

theorem Live.put (h : s.Live o') (o : ObjId) (x : Object) : (s.put o x).Live o' := by
  by_cases ho : o' = o
  · rw [ho]
    exact live_of_heap (s.heap_put_self o x)
  · unfold Live
    rw [s.heap_put_of_ne ho]
    exact h

theorem Safe.put (h : s.Safe) (o : ObjId) (x : Object) : (s.put o x).Safe :=
  ⟨fun k hk o' ho' => (h.queued k hk o' ho').put o x, fun o' hf => (h.running o' hf).put o x⟩

theorem Safe.create (h : s.Safe) (x : Object) : (s.create x).Safe :=
  ⟨(h.put s.next x).queued, (h.put s.next x).running⟩

theorem Safe.deferAll (h : s.Safe) {ks : List Closure}
    (hks : ∀ k ∈ ks, ∀ o, k.captured = some o → s.Live o) : (s.deferAll ks).Safe := by
  refine ⟨fun k hk o hko => ?_, h.running⟩
  simp only [World.deferAll, List.mem_append] at hk
  rcases hk with (hk | hk) | hk
  · exact h.queued k (List.mem_append_left _ hk) o hko
  · exact hks k hk o hko
  · exact h.queued k (List.mem_append_right _ hk) o hko

theorem Safe.defer (h : s.Safe) {k : Closure} (hk : ∀ o, k.captured = some o → s.Live o) :
    (s.defer k).Safe :=
  h.deferAll fun _ hmem => List.mem_singleton.1 hmem ▸ hk

theorem Safe.defer_own (h : s.Safe) {k : Closure} (hk : k.captured = some o) (ho : s.Live o) :
    (s.defer k).Safe := by
  refine h.defer fun o' ho' => ?_
  rw [hk] at ho'
  exact Option.some.inj ho' ▸ ho

theorem captured_of_mem_goodbyes {clients : List ServerClient} {k : Closure}
    (hk : k ∈ goodbyes o clients) : k.captured = some o := by
  obtain ⟨c, -, rfl⟩ := List.mem_map.1 hk
  rfl

/-- The clients of a server defer callbacks for the server. -/
theorem Safe.deferAll_goodbyes (h : s.Safe) (ho : s.Live o) (clients : List ServerClient) :
    (s.deferAll (goodbyes o clients)).Safe := by
  refine h.deferAll fun k hk o' ho' => ?_
  rw [captured_of_mem_goodbyes hk] at ho'
  exact Option.some.inj ho' ▸ ho

theorem Safe.notify (h : s.Safe) (processor : Option ObjId) : (s.notify processor).Safe := by
  cases processor with
  | none => exact h
  | some p => exact h.defer nofun

/-! ### Destroying -/

theorem Safe.free (h : s.Safe) (ho : s.Unreferenced o) : (s.free o).Safe := by
  have hkeeps : ∀ o', o' ≠ o → s.Live o' → (s.free o).Live o' := by
    intro o' hne hlive
    unfold Live
    rw [s.heap_free_of_ne hne]
    exact hlive
  refine ⟨fun k hk o' ho' => hkeeps o' ?_ (h.queued k hk o' ho'),
    fun o' hf => hkeeps o' ?_ (h.running o' hf)⟩
  · rintro rfl
    exact ho.1 k hk ho'
  · rintro rfl
    exact ho.2.1 hf

/-- A server without connected clients defers nothing when it is destroyed. -/
theorem destroyOne_eq (ho : s.Unreferenced o) : s.destroyOne o = s.free o := by
  have hconnected := ho.2.2
  unfold World.destroyOne
  unfold connected at hconnected
  split
  · rename_i stream hheap
    rw [hheap] at hconnected
    simp only [goodbyes, hconnected, List.map_nil, World.deferAll, List.append_nil]
  · rfl

theorem Safe.destroyOne (h : s.Safe) (ho : s.Unreferenced o) : (s.destroyOne o).Safe := by
  rw [destroyOne_eq ho]
  exact h.free ho

theorem Safe.destroyOpt (h : s.Safe) {p : Option ObjId}
    (hp : ∀ o ∈ p.toList, s.Unreferenced o) : (s.destroyOpt p).Safe := by
  cases p with
  | none => exact h
  | some o => exact h.destroyOne (hp o (List.mem_singleton.2 rfl))

/-- Nothing comes back to an object because another one is freed. -/
theorem Unreferenced.free (ho' : s.Unreferenced o') (o : ObjId) :
    (s.free o).Unreferenced o' := by
  refine ⟨ho'.1, ho'.2.1, ?_⟩
  have hconnected := ho'.2.2
  unfold connected at *
  by_cases hne : o' = o
  · rw [hne, heap_free_self]
  · rw [s.heap_free_of_ne hne]
    exact hconnected

theorem Unreferenced.destroyOpt (ho' : s.Unreferenced o') {p : Option ObjId}
    (hp : ∀ o ∈ p.toList, s.Unreferenced o) : (s.destroyOpt p).Unreferenced o' := by
  cases p with
  | none => exact ho'
  | some o =>
    unfold World.destroyOpt
    dsimp only
    rw [destroyOne_eq (hp o (List.mem_singleton.2 rfl))]
    exact ho'.free o

/-- Nothing comes back to an object because something else than a server is written. -/
theorem Unreferenced.put (ho' : s.Unreferenced o') (o : ObjId) {x : Object}
    (hx : ∀ stream, x ≠ .server stream) : (s.put o x).Unreferenced o' := by
  refine ⟨ho'.1, ho'.2.1, ?_⟩
  have hconnected := ho'.2.2
  unfold connected at *
  by_cases hne : o' = o
  · rw [hne, heap_put_self]
    split
    · rename_i stream heq
      exact absurd (Option.some.inj heq) (hx stream)
    · rfl
  · rw [s.heap_put_of_ne hne]
    exact hconnected

theorem Unreferenced.create (ho' : s.Unreferenced o') {x : Object}
    (hx : ∀ stream, x ≠ .server stream) : (s.create x).Unreferenced o' :=
  ho'.put s.next hx

theorem Safe.destroyObject (h : s.Safe) (ho : ∀ o' ∈ s.parts o, s.Unreferenced o') :
    (s.destroyObject o).Safe := by
  unfold parts at ho
  unfold World.destroyObject
  split
  · rename_i p hheap
    rw [hheap] at ho
    have htask : ∀ o ∈ p.mTriggeredDelayTask.toList, s.Unreferenced o := fun o' ho' =>
      ho o' (List.mem_append_left _ (List.mem_append_left _ ho'))
    have hclient : ∀ o ∈ p.mClient.toList,
        (s.destroyOpt p.mTriggeredDelayTask).Unreferenced o := fun o' ho' =>
      (ho o' (List.mem_append_left _ (List.mem_append_right _ ho'))).destroyOpt htask
    have hself := (ho o (List.mem_append_right _ (List.mem_singleton.2 rfl))).destroyOpt htask
    exact ((h.destroyOpt htask).destroyOpt hclient).destroyOne (hself.destroyOpt hclient)
  · rename_i hheap
    refine h.destroyOne (ho o ?_)
    split
    · rename_i p hp
      exact absurd hp (hheap p)
    · exact List.mem_singleton.2 rfl

/-! ### The operations keep what is captured alive -/

theorem Safe.requestAgnss (h : s.Safe) (o : ObjId) (sent : Bool) :
    (s.requestAgnss o sent).Safe := by
  unfold World.requestAgnss
  split
  · split_ifs
    · exact h
    · exact ⟨h.queued, h.running⟩
    · exact (h.create _).put _ _
  · exact h

theorem Safe.triggered (h : s.Safe) (o : ObjId) (sent : Bool) : (s.triggered o sent).Safe := by
  unfold World.triggered
  split
  · exact (h.put _ _).requestAgnss o sent
  · exact h

theorem Safe.scheduleTriggeredRequest (h : s.Safe) (ho : ∀ o' ∈ s.replaced o, s.Unreferenced o')
    (registered : Bool) : (s.scheduleTriggeredRequest o registered).Safe := by
  unfold replaced at ho
  unfold World.scheduleTriggeredRequest
  split
  · rename_i p hheap
    rw [hheap] at ho
    split_ifs with hpending
    · exact h
    · refine ((h.create _).put _ _).destroyOpt fun o' ho' => ?_
      have htask : s.Unreferenced o' := by
        refine ho o' ?_
        dsimp only
        rw [if_neg hpending]
        exact ho'
      have hcreated : (s.create (.timeout ⟨registered, true, some o⟩)).Unreferenced o' :=
        htask.create nofun
      exact hcreated.put o nofun
  · exact h

/-- A deferred callback that is taken from the batch. -/
theorem Safe.runClosure (h : s.Safe) (answer : ConnectAnswer) {k : Closure}
    (ho : ∀ o ∈ s.resets k, s.Unreferenced o) : (s.runClosure answer k).Safe := by
  cases k with
  | removeClient o fd =>
    unfold World.runClosure
    dsimp only
    split
    · rename_i stream hheap
      exact (h.put _ _).deferAll_goodbyes (live_of_heap (s.heap_put_self o _)) _
    · exact h
  | cancelClient o =>
    unfold World.runClosure
    dsimp only
    split
    · split_ifs
      · exact (h.put _ _).notify _
      · exact h
    · exact h
  | resetClient o =>
    unfold resets at ho
    unfold World.runClosure
    dsimp only at ho ⊢
    split
    · rename_i p hheap
      rw [hheap] at ho
      exact (h.put _ _).destroyOpt fun o' ho' => (ho o' ho').put o nofun
    · exact h
  | updateSession o => exact h
  | user => exact h
  | _ =>
    unfold World.runClosure
    dsimp only
    split
    · exact h.put _ _
    · exact h

theorem Safe.resume (h : s.Safe) {f : Frame} (hf : ∀ o, f = .timeout o → s.Live o) :
    (s.resume f).Safe := by
  cases f with
  | timeout o => exact h.defer_own rfl (hf o rfl)
  | stale o handle =>
    unfold World.resume
    dsimp only
    split
    · split_ifs
      · exact (h.put _ _).defer_own rfl (live_of_heap (s.heap_put_self o _))
      · exact h.put _ _
      · exact h
    · exact h

/-- A batch that takes the whole list, in front of the rest of the outer one. -/
theorem Safe.processDeferred (h : s.Safe) :
    ({ s with batch := s.mDeferredCallbacks ++ s.batch, mDeferredCallbacks := [] } : World).Safe :=
  ⟨h.queued, h.running⟩

/-- The timer of a task fires and its callback starts. -/
theorem Safe.timerEvent (h : s.Safe) (o : ObjId) (sent : Bool) :
    (s.act (.timerEvent o sent)).Safe := by
  unfold World.act
  dsimp only
  split
  · rename_i t hheap
    split_ifs
    · have hput := h.put o (.timeout { t with mTimer := false })
      have hframe : ({ s.put o (.timeout { t with mTimer := false }) with
          frames := .timeout o :: s.frames } : World).Safe := by
        refine ⟨hput.queued, fun o' ho' => ?_⟩
        rcases List.mem_cons.1 ho' with ho' | ho'
        · cases ho'
          exact live_of_heap (s.heap_put_self o _)
        · exact hput.running o' ho'
      split
      · exact hframe
      · exact hframe.triggered _ sent
    · exact h
  · exact h

theorem Safe.callbackReturns (h : s.Safe) : (s.act .callbackReturns).Safe := by
  unfold World.act
  dsimp only
  split
  · exact h
  · rename_i f frames hframes
    have hrest : ({ s with frames } : World).Safe := by
      refine ⟨h.queued, fun o ho => h.running o ?_⟩
      rw [hframes]
      exact List.mem_cons_of_mem f ho
    refine hrest.resume ?_
    rintro o rfl
    refine h.running o ?_
    rw [hframes]
    exact List.mem_cons_self

theorem Safe.staleRequest (h : s.Safe) (o : ObjId) (handle : ℕ) :
    (s.act (.staleRequest o handle)).Safe := by
  unfold World.act
  dsimp only
  split
  · rename_i c hheap
    split_ifs
    · have hnotify := h.notify c.processor
      refine ⟨hnotify.queued, fun o' ho' => ?_⟩
      have hrunning : Frame.timeout o' ∈ s.frames := by
        rcases List.mem_cons.1 ho' with ho' | ho'
        · cases ho'
        · exact ho'
      exact hnotify.running o' (by cases c.processor <;> exact hrunning)
    · exact h
  · exact h

theorem Safe.connectError (h : s.Safe) (o : ObjId) : (s.act (.connectError o)).Safe := by
  unfold World.act
  dsimp only
  split
  · rename_i t hheap
    split_ifs
    · refine h.deferAll fun k hk o' ho' => ?_
      have hown : k.captured = some o := by
        unfold TcpConnectTask.error at hk
        rcases List.mem_cons.1 hk with rfl | hk
        · rfl
        · split_ifs at hk
          · rw [List.mem_singleton.1 hk]
            rfl
          · exact absurd hk List.not_mem_nil
      rw [hown] at ho'
      exact Option.some.inj ho' ▸ live_of_heap hheap
    · exact h
  · exact h

theorem Safe.runNext (h : s.Safe) (answer : ConnectAnswer)
    (hok : s.Careful (.runNext answer)) : (s.act (.runNext answer)).Safe := by
  unfold World.act
  dsimp only
  split
  · exact h
  · rename_i k batch hbatch
    have hmem : ∀ k' ∈ s.mDeferredCallbacks ++ batch, k' ∈ s.mDeferredCallbacks ++ s.batch := by
      intro k' hk'
      rw [hbatch]
      rcases List.mem_append.1 hk' with hk' | hk'
      · exact List.mem_append_left _ hk'
      · exact List.mem_append_right _ (List.mem_cons_of_mem k hk')
    have hpop : ({ s with batch } : World).Safe :=
      ⟨fun k' hk' => h.queued k' (hmem k' hk'), h.running⟩
    refine hpop.runClosure answer fun o ho => ?_
    have hdoomed : o ∈ s.doomed (.runNext answer) := by
      unfold doomed
      simp only [hbatch, List.head?_cons, Option.toList_some, List.flatMap_singleton]
      exact ho
    obtain ⟨hqueued, hrunning, hconnected⟩ := hok o hdoomed
    exact ⟨fun k' hk' => hqueued k' (hmem k' hk'), hrunning, hconnected⟩

/-- **The step.**  A step that destroys only unreferenced objects keeps alive what the deferred
callbacks captured. -/
theorem Safe.act (h : s.Safe) {op : Op} (hok : s.Careful op) : (s.act op).Safe := by
  cases op with
  | destroy o =>
    unfold World.act
    dsimp only
    split_ifs with hown
    · exact h
    · refine h.destroyObject fun o' ho' => hok o' ?_
      unfold doomed
      dsimp only
      rw [if_neg hown]
      exact ho'
  | defer => exact h.defer nofun
  | timerEvent o sent => exact h.timerEvent o sent
  | callbackReturns => exact h.callbackReturns
  | staleRequest o handle => exact h.staleRequest o handle
  | connectError o => exact h.connectError o
  | processorRequest o sent => exact h.requestAgnss o sent
  | processorTrigger o registered => exact h.scheduleTriggeredRequest hok registered
  | processDeferred => exact h.processDeferred
  | runNext answer => exact h.runNext answer hok
  | serverClientGone o i =>
    unfold World.act
    dsimp only
    split
    · exact (h.put _ _).deferAll_goodbyes (live_of_heap (s.heap_put_self o _)) _
    · exact h
  | serverCancel o =>
    unfold World.act
    dsimp only
    split
    · exact (h.put _ _).deferAll_goodbyes (live_of_heap (s.heap_put_self o _)) _
    · exact h
  | reconnectTimer o =>
    unfold World.act
    dsimp only
    split
    · rename_i t hheap
      split_ifs
      · exact h.defer_own rfl (live_of_heap hheap)
      · exact h
    · exact h
  | periodicEnds o handle =>
    unfold World.act
    dsimp only
    split
    · rename_i c hheap
      split_ifs
      · exact h.defer_own rfl (live_of_heap hheap)
      · exact h
    · exact h
  | sessionDisconnected o =>
    unfold World.act
    dsimp only
    split
    · rename_i c hheap
      split_ifs
      · exact h.defer_own rfl (live_of_heap hheap)
      · exact h
    · exact h
  | sessionProcess o =>
    unfold World.act
    dsimp only
    split
    · rename_i c hheap
      split_ifs
      · exact h.defer_own rfl (live_of_heap hheap)
      · exact h
    · exact h
  | connectWrite o =>
    unfold World.act
    dsimp only
    split
    · split_ifs
      · exact h.put _ _
      · exact h
    · exact h
  | clientCancel o =>
    unfold World.act
    dsimp only
    split
    · split_ifs
      · exact h.put _ _
      · exact h
    · exact h
  | newTimeout registered => exact h.create _
  | newConnect shouldReconnect => exact h.create _
  | newServer => exact h.create _
  | newClient => exact h.create _
  | newProcessor => exact h.create _
  | _ =>
    unfold World.act
    dsimp only
    split
    · exact h.put _ _
    · exact h

/-- The callback that runs next captured something alive. -/
theorem Safe.alive (h : s.Safe) (op : Op) : ∀ r ∈ s.runs op, r.alive = true := by
  intro r hr
  cases op with
  | runNext answer =>
    unfold World.runs at hr
    dsimp only at hr
    cases hbatch : s.batch with
    | nil =>
      rw [hbatch] at hr
      exact absurd hr List.not_mem_nil
    | cons k batch =>
      rw [hbatch] at hr
      obtain rfl := List.mem_singleton.1 hr
      show s.holds k = true
      unfold World.holds
      cases hk : k.captured with
      | none => rfl
      | some o =>
        have hmem : k ∈ s.mDeferredCallbacks ++ s.batch := by
          rw [hbatch]
          exact List.mem_append_right _ List.mem_cons_self
        exact decide_eq_true (h.queued k hmem o hk)
  | _ => exact absurd hr List.not_mem_nil

end Safe

end World

/-! ### Runs -/

/-- No deferred callback of the run runs after the object that it captured was destroyed. -/
def OwnersAlive (ops : List Op) : Prop :=
  ∀ r ∈ (Mealy.run step .empty ops).2, r.alive = true

/-- A run that destroys only unreferenced objects runs no deferred callback whose object was
destroyed. -/
theorem owners_alive {ops : List Op}
    (h : Mealy.Along (fun s _ op => s.Careful op) step .empty [] ops) : OwnersAlive ops := by
  refine (Mealy.invariant_run (P := fun s out => s.Safe ∧ ∀ r ∈ out, r.alive = true) ?_
    ⟨World.safe_empty, fun r hr => absurd hr List.not_mem_nil⟩ h).2
  rintro s out op ⟨hs, hout⟩ hok
  refine ⟨hs.act hok, fun r hr => ?_⟩
  rcases List.mem_append.1 hr with hr | hr
  · exact hout r hr
  · exact hs.alive op r hr

/-- A triggered request whose client is reset after its session has disconnected. -/
def triggeredRequest : List Op :=
  [.newProcessor, .processorTrigger 0 true, .timerEvent 1 true, .callbackReturns,
    .processDeferred, .runNext .failed, .sessionDisconnected 2, .processDeferred,
    .runNext .failed, .processDeferred, .runNext .failed, .destroy 0]

theorem owners_alive_triggeredRequest : OwnersAlive triggeredRequest :=
  owners_alive (by decide)

/-- A request that stays without a response: the processor resets its client before the client
removes the session. -/
def staleRequest : List Op :=
  [.newProcessor, .processorRequest 0 true, .staleRequest 1 0, .callbackReturns,
    .processDeferred, .runNext .failed, .runNext .failed]

theorem not_owners_alive_staleRequest : ¬∀ ops : List Op, OwnersAlive ops := by
  intro h
  have halive := h staleRequest ⟨.removeSingleSession 1 0, false⟩ (by decide)
  exact Bool.false_ne_true halive

end SuplLpp.Deferred
