import SuplLpp.Scheduler.Event
import SuplLpp.Socket.Connect
import SuplLpp.Socket.WriteBuffer

/-!
# The TCP client stream

`TcpClientStream` has a connect task, puts what the socket does not take into a write buffer and
what it reads into a read buffer.  Its peer sends bytes and closes; what the kernel reports of
the socket comes as bits of epoll.

* `TcpClientStream` with the callbacks that it gives to its task (`World.call`) and its own
  `schedule`, `cancel` and `write`;
* `World`, `step`: the stream, its task with the deferred callbacks, and the receiving side of
  the socket; `Output`: what a user of the stream, its peer and the kernel can see;
* `Transcript`: what was written, sent, received and delivered on the connection so far.
-/

namespace SuplLpp.Socket

open Sched (EventInterest epollToInterests)

/-! ### The stream -/

/-- `Stream::State`. -/
inductive StreamState
  | initial
  | connecting
  | connected
  | disconnected
  | error
  deriving DecidableEq

/-- `TcpClientConfig`, with the part of `ReadBufferConfig` that `on_raw_read` reads. -/
structure TcpClientConfig where
  host : String
  path : String
  reconnect : Bool
  minBytes : ℕ

structure TcpClientStream where
  mState : StreamState
  mReadBuffer : List UInt8
  mWriteBuffer : WriteBuffer
  mWriteRegistered : Bool

def TcpClientStream.create : TcpClientStream := ⟨.initial, [], .create, false⟩

/-- What the kernel has for the stream to read. -/
structure Receiving where
  unread : List UInt8
  /-- Has the peer closed the connection? -/
  closed : Bool

/-- `sizeof(mReadBuf)`. -/
def readBufSize : ℕ := 4096

/-- How `::read` returns. -/
inductive ReadResult
  /-- With what there is, at most so many bytes; 0 at the end, -1 and `EAGAIN` for nothing. -/
  | upTo (n : ℕ)
  /-- With -1 and another `errno`. -/
  | failed

/-- How `::write` returns. -/
inductive WriteResult
  /-- With so many bytes, or all there are. -/
  | accepts (n : ℕ)
  /-- With -1 and `EAGAIN`. -/
  | wouldBlock
  /-- With -1 and another `errno`. -/
  | failed

/-- What the kernel answers in one event. -/
structure IoResults where
  read : ReadResult
  /-- One for each turn of the loop; it would block when there are no more. -/
  writes : List WriteResult

inductive Output
  /-- A new socket. -/
  | opened
  | connected
  | disconnected
  /-- `write` is called on a stream that is connected. -/
  | written (data : List UInt8)
  /-- `::write` takes bytes. -/
  | sent (data : List UInt8)
  /-- The peer sends bytes. -/
  | received (data : List UInt8)
  /-- The kernel reports the end that the peer made. -/
  | endOfStream
  /-- The read callbacks get bytes. -/
  | delivered (data : List UInt8)
  | onError
  | onComplete
  deriving DecidableEq

structure World where
  config : TcpClientConfig
  stream : TcpClientStream
  /-- `mConnectTask`, with what it deferred. -/
  tasks : System
  receiving : Receiving

namespace World

/-- A stream before its first `schedule`. -/
def start (config : TcpClientConfig) : World :=
  ⟨config, .create, ⟨none, [], false⟩, ⟨[], false⟩⟩

/-- Is a task there whose socket is registered for these interests? -/
def RegisteredFor (w : World) (interests : EventInterest) : Prop :=
  ∃ t i, w.tasks.task = some t ∧ t.mEvent = some i ∧ i.meets interests = true

/-- `mConnectTask->update_interests`. -/
def updateInterests (w : World) (interests : EventInterest) : World :=
  { w with tasks := { w.tasks with
      task := w.tasks.task.map fun t => t.updateInterests interests } }

/-! ### The callbacks of the task -/

/-- `flush_read_buffer`. -/
def flushReadBuffer (w : World) : World × List Output :=
  if w.stream.mReadBuffer = [] then (w, [])
  else ({ w with stream := { w.stream with mReadBuffer := [] } },
    [.delivered w.stream.mReadBuffer])

/-- `set_error`. -/
def setError (w : World) : World × List Output :=
  ({ w with stream := { w.stream with mState := .error } }, [.onError, .onComplete])

/-- `on_disconnected`. -/
def onDisconnected (w : World) : World × List Output :=
  let r := w.flushReadBuffer
  if w.config.reconnect then
    ({ r.1 with stream := { r.1.stream with mState := .connecting } }, r.2 ++ [.disconnected])
  else
    ({ r.1 with stream := { r.1.stream with mState := .disconnected } },
      r.2 ++ [.disconnected, .onComplete])

/-- The insertion in `on_raw_read`. -/
def insertRead (w : World) (data : List UInt8) : World :=
  { w with stream := { w.stream with mReadBuffer := w.stream.mReadBuffer ++ data } }

/-- `on_raw_read`. -/
def onRawRead (w : World) (data : List UInt8) : World × List Output :=
  if w.config.minBytes ≤ (w.insertRead data).stream.mReadBuffer.length then
    (w.insertRead data).flushReadBuffer
  else (w.insertRead data, [])

/-- How many bytes `::read` takes, when there are some. -/
def readSize (n : ℕ) : ℕ := max 1 (min n readBufSize)

/-- `::read` takes bytes. -/
def dropRead (w : World) (n : ℕ) : World :=
  { w with receiving := { w.receiving with unread := w.receiving.unread.drop n } }

/-- `on_read`. -/
def onRead (w : World) : ReadResult → World × List Output
  | .failed => w.setError
  | .upTo n =>
      if w.receiving.unread = [] then
        if w.receiving.closed then w.flushReadBuffer else (w, [])
      else (w.dropRead (readSize n)).onRawRead (w.receiving.unread.take (readSize n))

/-- The loop of `on_write`; true when it is left by `return`. -/
def writeLoop (b : WriteBuffer) : List WriteResult → WriteBuffer × List Output × Bool
  | [] => (b, [], false)
  | r :: rs =>
      if b.empty then (b, [], false)
      else
        match r with
        | .wouldBlock => (b, [], false)
        | .failed => (b, [], true)
        | .accepts n =>
            let rest := writeLoop (b.consume (min n b.peek.length)) rs
            (rest.1, .sent (b.peek.take n) :: rest.2.1, rest.2.2)

/-- The interests of a connection with nothing to write. -/
def readOnly : EventInterest := (EventInterest.Read.or .Error).or .Hangup

/-- And with bytes that wait. -/
def readWrite : EventInterest := ((EventInterest.Read.or .Write).or .Error).or .Hangup

/-- `on_write`. -/
def onWrite (w : World) (results : List WriteResult) : World × List Output :=
  let r := writeLoop w.stream.mWriteBuffer results
  let w := { w with stream := { w.stream with mWriteBuffer := r.1 } }
  if !r.2.2 && r.1.empty && w.stream.mWriteRegistered then
    let w := w.updateInterests readOnly
    ({ w with stream := { w.stream with mWriteRegistered := false } }, r.2.1)
  else (w, r.2.1)

/-- What the stream and the kernel make of a call of the task. -/
def call (k : IoResults) (w : World) : Call → World × List Output
  | .socket (some _) => ({ w with receiving := ⟨[], false⟩ }, [.opened])
  | .onConnected => ({ w with stream := { w.stream with mState := .connected } }, [.connected])
  | .onDisconnected => w.onDisconnected
  | .onRead => w.onRead k.read
  | .onWrite => w.onWrite k.writes
  | .socket none | .close _ | .reconnects => (w, [])

/-- The calls of the task, in their order. -/
def calls (k : IoResults) (w : World) (cs : List Call) : World × List Output :=
  Mealy.run (call k) w cs

theorem calls_append (k : IoResults) (w : World) (cs ds : List Call) :
    w.calls k (cs ++ ds) =
      (((w.calls k cs).1.calls k ds).1, (w.calls k cs).2 ++ ((w.calls k cs).1.calls k ds).2) :=
  Mealy.run_append ..

@[simp] theorem calls_nil (k : IoResults) (w : World) : w.calls k [] = (w, []) := rfl

@[simp] theorem calls_singleton (k : IoResults) (w : World) (c : Call) :
    w.calls k [c] = w.call k c := by
  rw [calls, Mealy.run_cons, Mealy.run_nil, List.append_nil]

/-- For the calls that neither read nor write. -/
def noIo : IoResults := ⟨.upTo 0, []⟩

/-- A step of the task. -/
def runTask (k : IoResults) (w : World) (i : Input) : World × List Output :=
  calls k { w with tasks := (w.tasks.step i).1 } (w.tasks.step i).2

/-! ### The stream and its user -/

/-- The task that `schedule` makes; `mFd` is what is in the memory. -/
def newTask (w : World) (mFd : ℤ) : TcpConnectTask :=
  .create (if w.config.path = "" then w.config.host else "") w.config.path w.config.reconnect
    true true mFd

/-- `mConnectTask.reset(new ...)`: the old task goes when the new one is there. -/
def resetTask (w : World) (mFd : ℤ) : World × List Output :=
  let old := w.runTask noIo .destroy
  ({ old.1 with tasks := { old.1.tasks with task := some (w.newTask mFd) } }, old.2)

/-- `mConnectTask->schedule(scheduler)`. -/
def scheduleTask (w : World) (t : TcpConnectTask) (a : Answers) : World × List Output :=
  calls noIo { w with tasks := ⟨some (t.schedule a).2.1, w.tasks.deferred, true⟩ }
    (t.schedule a).2.2

/-- `mState = State::Connecting`. -/
def connecting (w : World) : World :=
  { w with stream := { w.stream with mState := .connecting } }

def schedule (w : World) (a : Answers) (mFd : ℤ) : World × List Output :=
  let old := w.connecting.resetTask mFd
  let new := old.1.scheduleTask (w.newTask mFd) a
  if ((w.newTask mFd).schedule a).1 then (new.1, old.2 ++ new.2)
  else (new.1.setError.1, old.2 ++ new.2 ++ new.1.setError.2)

/-- The end of `write`, with the bytes that were not sent. -/
def enqueue (w : World) (data : List UInt8) : World :=
  let w := { w with stream :=
    { w.stream with mWriteBuffer := w.stream.mWriteBuffer.enqueue data } }
  if w.stream.mWriteRegistered then w
  else
    let w := w.updateInterests readWrite
    { w with stream := { w.stream with mWriteRegistered := true } }

/-- `write`, when nothing waits. -/
def writeNow (w : World) (data : List UInt8) : WriteResult → World × List Output
  | .failed => (w, [.written data])
  | .wouldBlock => if data = [] then (w, [.written data]) else (w.enqueue data, [.written data])
  | .accepts n =>
      if data.length ≤ n then (w, [.written data, .sent data])
      else (w.enqueue (data.drop n), [.written data, .sent (data.take n)])

def write (w : World) (data : List UInt8) (r : WriteResult) : World × List Output :=
  if w.tasks.task.isNone ∨ w.stream.mState ≠ .connected then (w, [])
  else if !w.stream.mWriteBuffer.empty then (w.enqueue data, [.written data])
  else w.writeNow data r

end World

/-- One call of the user, act of the peer, event, or deferred callback. -/
inductive StreamInput
  | schedule (a : Answers) (mFd : ℤ)
  | cancel
  | write (data : List UInt8) (r : WriteResult)
  | peerSends (data : List UInt8)
  | peerCloses
  /-- The kernel reports the socket, with bits of epoll. -/
  | event (events : UInt32) (k : IoResults)
  /-- The reconnect timer expires. -/
  | expire
  /-- The read timeout expires. -/
  | readTimeout
  | runDeferred (a : Answers)

/-- An attempt that is connected at once. -/
def Answers.connects : Answers := ⟨some [.inet], some 3, .established, true, true⟩

/-- The scheduler registers the socket. -/
def StreamInput.Registers : StreamInput → Prop
  | .schedule a _ | .runDeferred a => a.registerFd = true
  | _ => True

namespace World

/-- Does the task have a socket that is connected, or becomes it? -/
def Reachable (w : World) : Prop := ∃ t, w.tasks.task = some t ∧ t.Open

instance (w : World) : Decidable w.Reachable :=
  match h : w.tasks.task with
  | none => .isFalse fun ⟨_, ht, _⟩ => by simp [h] at ht
  | some t => decidable_of_iff t.Open ⟨fun ho => ⟨t, h, ho⟩, fun ⟨t', ht, ho⟩ => by
      rw [h] at ht
      cases ht
      exact ho⟩

/-- Does an event with these bits reach `error`? -/
def errs (events : UInt32) : Bool :=
  (epollToInterests events).meets (EventInterest.Error.or .Hangup)

/-- Does the scheduler report the socket?  It does once in a round, and what is deferred comes
before the next. -/
def Reports (w : World) : Prop :=
  (∃ t, w.tasks.task = some t ∧ t.mEvent.isSome = true) ∧ .disconnect ∉ w.tasks.deferred

instance (w : World) : Decidable w.Reports :=
  match h : w.tasks.task with
  | none => .isFalse fun ⟨⟨_, ht, _⟩, _⟩ => by simp [h] at ht
  | some t => decidable_of_iff (t.mEvent.isSome = true ∧ .disconnect ∉ w.tasks.deferred)
      ⟨fun ho => ⟨⟨t, h, ho.1⟩, ho.2⟩, fun ⟨⟨t', ht, ho⟩, hq⟩ => by
        rw [h] at ht
        cases ht
        exact ⟨ho, hq⟩⟩

/-- A task is not destroyed while one of its deferred callbacks waits: `schedule` and `cancel`
of the stream are not called then. -/
def step (w : World) : StreamInput → World × List Output
  | .schedule a mFd => if w.tasks.deferred = [] then w.schedule a mFd else (w, [])
  | .cancel => if w.tasks.deferred = [] then w.runTask noIo .destroy else (w, [])
  | .write data r => w.write data r
  | .peerSends data =>
      if w.Reachable ∧ !w.receiving.closed then
        ({ w with receiving := { w.receiving with unread := w.receiving.unread ++ data } },
          [.received data])
      else (w, [])
  | .peerCloses =>
      if w.Reachable then ({ w with receiving := { w.receiving with closed := true } }, [])
      else (w, [])
  | .event events k =>
      let r := w.runTask k (.event (epollToInterests events))
      if w.Reports ∧ errs events ∧ w.receiving.closed then (r.1, .endOfStream :: r.2) else r
  | .expire => w.runTask noIo .expire
  | .readTimeout => w.flushReadBuffer
  | .runDeferred a => w.runTask noIo (.runDeferred a)

end World

/-! ### The connection so far -/

/-- What happened since the last socket was opened. -/
structure Transcript where
  /-- The arguments of `write`, while the stream was connected. -/
  writes : List (List UInt8)
  sent : List UInt8
  received : List UInt8
  delivered : List UInt8
  ended : Bool
  disconnects : ℕ
  deriving DecidableEq

namespace Transcript

def empty : Transcript := ⟨[], [], [], [], false, 0⟩

def step (s : Transcript) : Output → Transcript
  | .opened => empty
  | .disconnected => { s with disconnects := s.disconnects + 1 }
  | .written data => { s with writes := s.writes ++ [data] }
  | .sent data => { s with sent := s.sent ++ data }
  | .received data => { s with received := s.received ++ data }
  | .endOfStream => { s with ended := true }
  | .delivered data => { s with delivered := s.delivered ++ data }
  | .connected | .onError | .onComplete => s

/-- Of all outputs so far. -/
def ofOutputs (out : List Output) : Transcript := out.foldl step empty

theorem ofOutputs_append (out more : List Output) :
    ofOutputs (out ++ more) = more.foldl step (ofOutputs out) := List.foldl_append

end Transcript

end SuplLpp.Socket
