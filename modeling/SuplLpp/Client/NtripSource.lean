import SuplLpp.Lib.Mealy
import SuplLpp.Lib.Search

/-!
# The NTRIP source

`NtripSource` keeps a connection to a caster with three timers: one connects, one polls the socket,
one reports the position.

* `RepeatableTimeoutTask`: a timer of the scheduler; once it has fired it stays registered, and
  `schedule` does nothing then;
* `connect`, `disconnect`, `poll`: the functions of the source, with what the system answers as a
  parameter; `step`: one timer fires;
* `delivered_iff`: when exactly the callback is given what follows the first blank line of the
  response;
* `trying_iff`: when exactly the source keeps trying; `stuck_run`: when it stopped, it stopped for
  good.
-/

namespace SuplLpp.Client

/-! ### Timers -/

/-- A timer that is armed once at a time. -/
structure RepeatableTimeoutTask where
  /-- Is `mEvent` valid? -/
  mEvent : Bool
  /-- Is the timer armed, or has it expired without being read? -/
  armed : Bool
  deriving DecidableEq

namespace RepeatableTimeoutTask

def create : RepeatableTimeoutTask := ⟨false, false⟩

/-- `registers`: the scheduler has room for the event. -/
def schedule (t : RepeatableTimeoutTask) (registers : Bool) : RepeatableTimeoutTask :=
  if t.mEvent then t else ⟨registers, true⟩

def cancel (_t : RepeatableTimeoutTask) : RepeatableTimeoutTask := ⟨false, false⟩

def restart (t : RepeatableTimeoutTask) (registers : Bool) : RepeatableTimeoutTask :=
  if t.mEvent then { t with armed := true } else t.schedule registers

/-- The callback will be called. -/
def Fires (t : RepeatableTimeoutTask) : Prop := t.mEvent = true ∧ t.armed = true

instance (t : RepeatableTimeoutTask) : Decidable t.Fires :=
  inferInstanceAs (Decidable (_ ∧ _))

/-- `on_event` reads the timer, which is not armed again. -/
def read (t : RepeatableTimeoutTask) : RepeatableTimeoutTask := { t with armed := false }

end RepeatableTimeoutTask

/-! ### The source -/

inductive PositionMode
  | None
  | Fixed
  | Internal
  deriving DecidableEq

/-- What of the configuration decides which timers run. -/
structure NtripConfig where
  positionMode : PositionMode
  positionIntervalS : ℤ

structure NtripSource where
  mConfig : NtripConfig
  /-- Is `mOnData` set? -/
  mOnData : Bool
  mSocket : ℤ
  mHeaderDone : Bool
  mPollTask : RepeatableTimeoutTask
  mReconnectTask : RepeatableTimeoutTask
  mPositionTask : RepeatableTimeoutTask

/-- What the system answers to an attempt. -/
structure Answers where
  /-- Does `getaddrinfo` give an address? -/
  resolves : Bool
  /-- What `::socket` returns. -/
  socket : ℤ
  /-- Does `::connect` return 0? -/
  connects : Bool
  /-- Does the scheduler register the timers? -/
  registers : Bool
  deriving DecidableEq

/-- How `::recv` returns. -/
inductive Recv
  /-- With -1 and `EAGAIN` or `EWOULDBLOCK`. -/
  | wouldBlock
  /-- With -1 and another error. -/
  | error
  /-- With the number of bytes read, which is 0 when the connection was closed. -/
  | bytes (buf : List UInt8)
  deriving DecidableEq

/-- CR LF CR LF. -/
def blankLine : List UInt8 := [13, 10, 13, 10]

namespace NtripSource

def create (config : NtripConfig) (onData : Bool) : NtripSource where
  mConfig := config
  mOnData := onData
  mSocket := -1
  mHeaderDone := false
  mPollTask := .create
  mReconnectTask := .create
  mPositionTask := .create

/-- `schedule(scheduler)`. -/
def schedule (s : NtripSource) (registers : Bool) : NtripSource :=
  { s with mReconnectTask := s.mReconnectTask.schedule registers }

def scheduleReconnect (s : NtripSource) (registers : Bool) : NtripSource :=
  { s with mReconnectTask := s.mReconnectTask.schedule registers }

def disconnect (s : NtripSource) : NtripSource :=
  { s with
    mPollTask := s.mPollTask.cancel
    mPositionTask := s.mPositionTask.cancel
    mSocket := if 0 ≤ s.mSocket then -1 else s.mSocket }

/-- The timers of a new connection. -/
def connected (s : NtripSource) (a : Answers) : NtripSource :=
  { s with
    mSocket := a.socket
    mHeaderDone := false
    mPollTask := s.mPollTask.schedule a.registers
    mPositionTask :=
      if s.mConfig.positionMode = .Internal ∧ 0 < s.mConfig.positionIntervalS then
        s.mPositionTask.schedule a.registers
      else s.mPositionTask }

def connect (s : NtripSource) (a : Answers) : NtripSource :=
  if !a.resolves then s.disconnect.scheduleReconnect a.registers
  else if a.socket < 0 then
    { s.disconnect with mSocket := a.socket }.scheduleReconnect a.registers
  else if !a.connects then { s.disconnect with mSocket := -1 }.scheduleReconnect a.registers
  else s.disconnect.connected a

/-- What `mOnData` is called with. -/
def deliver (s : NtripSource) (data : List UInt8) : List (List UInt8) :=
  if 0 < data.length ∧ s.mOnData then [data] else []

def poll (s : NtripSource) (r : Recv) (registers : Bool) : NtripSource × List (List UInt8) :=
  if s.mSocket < 0 then (s, [])
  else
    match r with
    | .wouldBlock => (s, [])
    | .error | .bytes [] => (s.disconnect.scheduleReconnect registers, [])
    | .bytes buf =>
        if s.mHeaderDone then (s, s.deliver buf)
        else
          match Search.findEnd blankLine buf with
          | none => (s, [])
          | some offset => ({ s with mHeaderDone := true }, s.deliver (buf.drop offset))

/-! ### The response of the caster -/

/-- The bytes that are read before the connection is lost, read by read. -/
def received : List Recv → List (List UInt8)
  | [] => []
  | .wouldBlock :: rs => received rs
  | .error :: _ | .bytes [] :: _ => []
  | .bytes buf :: rs => buf :: received rs

/-- The polls of a connection, one after the other. -/
def pollAll (s : NtripSource) (registers : Bool) (rs : List Recv) :
    NtripSource × List (List UInt8) :=
  Mealy.run (fun s r => s.poll r registers) s rs

/-- A connection on which nothing has been read. -/
structure Fresh (s : NtripSource) : Prop where
  socket : 0 ≤ s.mSocket
  header : s.mHeaderDone = false
  onData : s.mOnData = true

theorem fresh_connect (s : NtripSource) {a : Answers} (hresolves : a.resolves = true)
    (hsocket : 0 ≤ a.socket) (hconnects : a.connects = true) (honData : s.mOnData = true) :
    (s.connect a).Fresh := by
  have hconnect : s.connect a = s.disconnect.connected a := by
    simp [connect, hresolves, hconnects, Int.not_lt.2 hsocket]
  rw [hconnect]
  exact ⟨hsocket, rfl, honData⟩

theorem flatten_deliver {s : NtripSource} (h : s.mOnData = true) (data : List UInt8) :
    (s.deliver data).flatten = data := by
  unfold deliver
  cases data <;> simp [h]

/-- Without a socket nothing is delivered. -/
theorem pollAll_of_closed {s : NtripSource} (h : s.mSocket < 0) (registers : Bool)
    (rs : List Recv) : s.pollAll registers rs = (s, []) := by
  induction rs with
  | nil => rfl
  | cons r rs ih =>
    have hpoll : s.poll r registers = (s, []) := if_pos h
    rw [pollAll, Mealy.run_cons, hpoll, ← pollAll, ih]
    rfl

theorem mSocket_lost (s : NtripSource) (registers : Bool) (h : 0 ≤ s.mSocket) :
    (s.disconnect.scheduleReconnect registers).mSocket < 0 := by
  simp [scheduleReconnect, disconnect, h]

theorem received_bytes (b : UInt8) (buf : List UInt8) (rs : List Recv) :
    received (.bytes (b :: buf) :: rs) = (b :: buf) :: received rs := rfl

theorem poll_bytes {s : NtripSource} (h : 0 ≤ s.mSocket) (registers : Bool) (b : UInt8)
    (buf : List UInt8) :
    s.poll (.bytes (b :: buf)) registers =
      if s.mHeaderDone then (s, s.deliver (b :: buf))
      else
        match Search.findEnd blankLine (b :: buf) with
        | none => (s, [])
        | some offset =>
            ({ s with mHeaderDone := true }, s.deliver ((b :: buf).drop offset)) :=
  if_neg (Int.not_lt.2 h)

theorem pollAll_wouldBlock {s : NtripSource} (h : 0 ≤ s.mSocket) (registers : Bool)
    (rs : List Recv) :
    (s.pollAll registers (.wouldBlock :: rs)).2 = (s.pollAll registers rs).2 := by
  have hpoll : s.poll .wouldBlock registers = (s, []) := if_neg (Int.not_lt.2 h)
  rw [pollAll, Mealy.run_cons, hpoll, List.nil_append, pollAll]

theorem pollAll_lost {s : NtripSource} (h : 0 ≤ s.mSocket) (registers : Bool) (rs : List Recv)
    {r : Recv} (hr : r = .error ∨ r = .bytes []) : (s.pollAll registers (r :: rs)).2 = [] := by
  have hpoll : s.poll r registers = (s.disconnect.scheduleReconnect registers, []) := by
    rcases hr with rfl | rfl <;> exact if_neg (Int.not_lt.2 h)
  rw [pollAll, Mealy.run_cons, hpoll, ← pollAll, pollAll_of_closed (s.mSocket_lost registers h)]
  rfl

/-- Behind the header everything is handed on. -/
theorem pollAll_of_header {s : NtripSource} (hsocket : 0 ≤ s.mSocket)
    (hheader : s.mHeaderDone = true) (honData : s.mOnData = true) (registers : Bool)
    (rs : List Recv) : (s.pollAll registers rs).2.flatten = (received rs).flatten := by
  induction rs with
  | nil => rfl
  | cons r rs ih =>
    rcases r with _ | _ | _ | ⟨b, buf⟩
    · rw [pollAll_wouldBlock hsocket, ih, received]
    · rw [pollAll_lost hsocket registers rs (.inl rfl)]
      rfl
    · rw [pollAll_lost hsocket registers rs (.inr rfl)]
      rfl
    · have hpoll : s.poll (.bytes (b :: buf)) registers = (s, s.deliver (b :: buf)) := by
        rw [poll_bytes hsocket, if_pos hheader]
      rw [pollAll, Mealy.run_cons, ← pollAll, hpoll, List.flatten_append,
        flatten_deliver honData, ih]
      rfl

/-- Before it the header is looked for in each read. -/
theorem pollAll_of_fresh {s : NtripSource} (h : s.Fresh) (registers : Bool) (rs : List Recv) :
    (s.pollAll registers rs).2.flatten = Search.afterInPieces blankLine (received rs) := by
  induction rs with
  | nil => rfl
  | cons r rs ih =>
    rcases r with _ | _ | _ | ⟨b, buf⟩
    · rw [pollAll_wouldBlock h.socket, ih, received]
    · rw [pollAll_lost h.socket registers rs (.inl rfl)]
      rfl
    · rw [pollAll_lost h.socket registers rs (.inr rfl)]
      rfl
    · rw [pollAll, Mealy.run_cons, ← pollAll, received_bytes]
      cases hfind : Search.findEnd blankLine (b :: buf) with
      | none =>
        have hpoll : s.poll (.bytes (b :: buf)) registers = (s, []) := by
          simp [poll_bytes h.socket, h.header, hfind]
        rw [hpoll, Search.afterInPieces_cons_of_none hfind]
        exact ih
      | some offset =>
        have hpoll : s.poll (.bytes (b :: buf)) registers =
            ({ s with mHeaderDone := true }, s.deliver ((b :: buf).drop offset)) := by
          simp [poll_bytes h.socket, h.header, hfind]
        have hrest := pollAll_of_header (s := { s with mHeaderDone := true }) h.socket rfl h.onData
          registers rs
        rw [hpoll, Search.afterInPieces_cons_of_some hfind, List.flatten_append,
          flatten_deliver h.onData, hrest]

/-- **What the callback is given** on a connection is what follows the first blank line of the
response, if and only if that line lies in one read or nothing follows it. -/
theorem delivered_iff (s : NtripSource) (h : s.Fresh) (registers : Bool) (rs : List Recv) :
    (s.pollAll registers rs).2.flatten = Search.after blankLine (received rs).flatten ↔
      Search.InOnePiece blankLine (received rs) := by
  rw [pollAll_of_fresh h]
  exact Search.afterInPieces_eq_iff (by decide)

/-- An answer whose blank line is split between two reads. -/
def split : List Recv :=
  [.bytes [79, 75, 13, 10, 13], .bytes [10, 211, 0], .bytes [19]]

/-- A source whose connection is established. -/
def established : NtripSource :=
  (create ⟨.None, 10⟩ true).connect ⟨true, 3, true, true⟩

theorem delivered_established :
    (established.pollAll true [.bytes [79, 75, 13, 10, 13, 10], .bytes [211, 0]]).2.flatten =
      Search.after blankLine [79, 75, 13, 10, 13, 10, 211, 0] :=
  (delivered_iff established (fresh_connect _ rfl (by decide) rfl rfl) true _).2
    (fun e he _ => ⟨[], [79, 75, 13, 10, 13, 10], [[211, 0]], rfl, by
      obtain rfl : (6 : ℕ) = e := Option.some.inj ((by decide :
        Search.findEnd blankLine [79, 75, 13, 10, 13, 10, 211, 0] = some 6).symm.trans he)
      decide⟩)

/-- Nothing of it is handed on. -/
theorem not_delivered_split :
    (established.pollAll true split).2.flatten ≠
      Search.after blankLine (received split).flatten := by
  decide

/-! ### The timers -/

/-- What happens to a source: it is scheduled, or one of its timers fires. -/
inductive Input
  | schedule (registers : Bool)
  | reconnect (a : Answers)
  | poll (r : Recv) (registers : Bool)
  | position (registers : Bool)
  deriving DecidableEq

/-- The callback of `mPollTask`. -/
def onPoll (s : NtripSource) (r : Recv) (registers : Bool) : NtripSource × List (List UInt8) :=
  let (s, out) := s.poll r registers
  ({ s with mPollTask := s.mPollTask.restart registers }, out)

/-- One input; a timer that does not fire is not seen. -/
def step (s : NtripSource) : Input → NtripSource × List (List UInt8)
  | .schedule registers => (s.schedule registers, [])
  | .reconnect a =>
      if s.mReconnectTask.Fires then
        ({ s with mReconnectTask := s.mReconnectTask.read }.connect a, [])
      else (s, [])
  | .poll r registers =>
      if s.mPollTask.Fires then { s with mPollTask := s.mPollTask.read }.onPoll r registers
      else (s, [])
  | .position registers =>
      if s.mPositionTask.Fires then
        ({ s with mPositionTask := s.mPositionTask.read.restart registers }, [])
      else (s, [])

/-- **What keeps a source going**: without a socket the reconnect timer fires, with one the poll
timer does. -/
structure Trying (s : NtripSource) : Prop where
  reconnects : s.mSocket < 0 → s.mReconnectTask.Fires
  polls : 0 ≤ s.mSocket → s.mPollTask.Fires

/-- The attempt leads to a connection and its timer. -/
def Answers.Succeeds (a : Answers) : Prop :=
  a.resolves = true ∧ 0 ≤ a.socket ∧ a.connects = true ∧ a.registers = true

/-- The connection is there after the read. -/
def Recv.Keeps : Recv → Prop
  | .wouldBlock => True
  | .error => False
  | .bytes buf => buf ≠ []

/-- The step is not an attempt that fails, nor a read that finds the connection lost. -/
def Holds (s : NtripSource) (_out : List (List UInt8)) : Input → Prop
  | .reconnect a => s.mReconnectTask.Fires → Answers.Succeeds a
  | .poll r _ => s.mPollTask.Fires → Recv.Keeps r
  | _ => True

/-- What a scheduled source keeps: the reconnect timer fires at most once. -/
structure Waits (s : NtripSource) : Prop where
  reconnect : s.mReconnectTask = ⟨true, decide (s.mSocket < 0)⟩
  poll : s.mPollTask = ⟨decide (0 ≤ s.mSocket), decide (0 ≤ s.mSocket)⟩

theorem Waits.trying {s : NtripSource} (h : s.Waits) : s.Trying where
  reconnects hsocket := by
    rw [h.reconnect, decide_eq_true hsocket]
    exact ⟨rfl, rfl⟩
  polls hsocket := by
    rw [h.poll, decide_eq_true hsocket]
    exact ⟨rfl, rfl⟩

theorem waits_start (config : NtripConfig) (onData : Bool) :
    ((create config onData).schedule true).Waits := ⟨rfl, rfl⟩

/-- A `schedule` of the reconnect timer in or after its callback does nothing. -/
theorem scheduleReconnect_eq {s : NtripSource} (h : s.mReconnectTask.mEvent = true)
    (registers : Bool) : s.scheduleReconnect registers = s := by
  rw [scheduleReconnect, RepeatableTimeoutTask.schedule, if_pos h]

/-- Has the attempt led to a connection? -/
def Answers.Connects (a : Answers) : Prop :=
  a.resolves = true ∧ 0 ≤ a.socket ∧ a.connects = true

/-- The callback of the reconnect timer leaves a connection, or no timer. -/
theorem connect_cases (s : NtripSource) (a : Answers) (h : s.mReconnectTask.mEvent = true) :
    (Answers.Connects a ∧ s.connect a = s.disconnect.connected a) ∨
    (¬Answers.Connects a ∧
      ∃ socket, socket < 0 ∧ s.connect a = { s.disconnect with mSocket := socket }) := by
  have hkeep : ∀ socket, ({ s.disconnect with mSocket := socket } : NtripSource).scheduleReconnect
      a.registers = { s.disconnect with mSocket := socket } := fun socket =>
    scheduleReconnect_eq (s := { s.disconnect with mSocket := socket }) h _
  unfold connect Answers.Connects
  by_cases hresolves : a.resolves = true
  · by_cases hsocket : a.socket < 0
    · refine .inr ⟨fun hall => by omega, a.socket, hsocket, ?_⟩
      simp [hresolves, hsocket, hkeep]
    · by_cases hconnects : a.connects = true
      · exact .inl ⟨⟨hresolves, by omega, hconnects⟩, by simp [hresolves, hsocket, hconnects]⟩
      · refine .inr ⟨fun hall => hconnects hall.2.2, -1, by decide, ?_⟩
        simp [hresolves, hsocket, hconnects, hkeep]
  · refine .inr ⟨fun hall => hresolves hall.1, s.disconnect.mSocket, ?_, ?_⟩
    · simp only [disconnect]
      split <;> omega
    · simp only [hresolves, Bool.not_false, if_true]
      exact hkeep s.disconnect.mSocket

/-- A poll keeps the timers, or loses the connection. -/
theorem poll_cases {s : NtripSource} (hsocket : 0 ≤ s.mSocket)
    (h : s.mReconnectTask.mEvent = true) (r : Recv) (registers : Bool) :
    (Recv.Keeps r ∧ ∃ done, (s.poll r registers).1 = { s with mHeaderDone := done }) ∨
    (¬Recv.Keeps r ∧ (s.poll r registers).1 = s.disconnect) := by
  have hlost : s.disconnect.scheduleReconnect registers = s.disconnect :=
    scheduleReconnect_eq (s := s.disconnect) h registers
  have hopen : ¬s.mSocket < 0 := Int.not_lt.2 hsocket
  rcases r with _ | _ | _ | ⟨b, buf⟩
  · refine .inl ⟨trivial, s.mHeaderDone, ?_⟩
    rw [poll, if_neg hopen]
  · refine .inr ⟨not_false, ?_⟩
    rw [poll, if_neg hopen, hlost]
  · refine .inr ⟨fun hne => hne rfl, ?_⟩
    rw [poll, if_neg hopen, hlost]
  · refine .inl ⟨List.cons_ne_nil b buf, ?_⟩
    rw [poll_bytes hsocket]
    split
    · exact ⟨s.mHeaderDone, rfl⟩
    · split
      · exact ⟨s.mHeaderDone, rfl⟩
      · exact ⟨true, rfl⟩

/-- A timer that is not armed fires no more, and there is no socket. -/
structure Stuck (s : NtripSource) : Prop where
  socket : s.mSocket < 0
  reconnect : s.mReconnectTask = ⟨true, false⟩

theorem Stuck.not_trying {s : NtripSource} (h : s.Stuck) : ¬s.Trying := by
  intro htrying
  have harmed := (htrying.reconnects h.socket).2
  rw [h.reconnect] at harmed
  cases harmed

/-- One input to a source that waits: it goes on waiting, or is stuck. -/
theorem waits_step {s : NtripSource} (h : s.Waits) (out : List (List UInt8)) (i : Input) :
    (Holds s out i → (s.step i).1.Waits) ∧ (¬Holds s out i → ¬(s.step i).1.Trying) := by
  have hvalid : s.mReconnectTask.mEvent = true := by rw [h.reconnect]
  cases i with
  | schedule registers =>
    have hstep : s.schedule registers = s := s.scheduleReconnect_eq hvalid registers
    exact ⟨fun _ => by rwa [step, hstep], fun hnot => absurd trivial hnot⟩
  | position registers =>
    refine ⟨fun _ => ?_, fun hnot => absurd trivial hnot⟩
    rw [step]
    split
    · exact ⟨h.reconnect, h.poll⟩
    · exact h
  | reconnect a =>
    by_cases hfires : s.mReconnectTask.Fires
    · have hclosed : s.mSocket < 0 := by
        have harmed := hfires.2
        rwa [h.reconnect, decide_eq_true_iff] at harmed
      have hread : s.mReconnectTask.read = ⟨true, false⟩ := by rw [h.reconnect]; rfl
      rw [step, if_pos hfires]
      rcases connect_cases { s with mReconnectTask := s.mReconnectTask.read } a hvalid with
        ⟨hconnects, heq⟩ | ⟨hfails, socket, hsocket, heq⟩
      · rw [heq]
        have hsocket := hconnects.2.1
        constructor
        · intro hholds
          have hregisters := (hholds hfires).2.2.2
          refine ⟨?_, ?_⟩
          · simp [connected, disconnect, hread, Int.not_lt.2 hsocket]
          · simp [connected, disconnect, RepeatableTimeoutTask.cancel,
              RepeatableTimeoutTask.schedule, hsocket, hregisters]
        · intro hnot htrying
          have hregisters := (htrying.polls hsocket).1
          refine hnot fun _ => ⟨hconnects.1, hsocket, hconnects.2.2, ?_⟩
          simpa [connected, disconnect, RepeatableTimeoutTask.cancel,
            RepeatableTimeoutTask.schedule] using hregisters
      · rw [heq]
        refine ⟨fun hholds => ?_, fun _ => Stuck.not_trying ⟨hsocket, hread⟩⟩
        obtain ⟨h1, h2, h3, -⟩ := hholds hfires
        exact absurd ⟨h1, h2, h3⟩ hfails
    · refine ⟨fun _ => ?_, fun hnot => absurd (fun hf => absurd hf hfires) hnot⟩
      rwa [step, if_neg hfires]
  | poll r registers =>
    by_cases hfires : s.mPollTask.Fires
    · have hsocket : 0 ≤ s.mSocket := by
        have harmed := hfires.2
        rwa [h.poll, decide_eq_true_iff] at harmed
      have hreconnect : s.mReconnectTask = ⟨true, false⟩ := by
        rw [h.reconnect, decide_eq_false (Int.not_lt.2 hsocket)]
      rw [step, if_pos hfires]
      rcases poll_cases (s := { s with mPollTask := s.mPollTask.read }) hsocket hvalid r
        registers with ⟨hkeeps, done, heq⟩ | ⟨hlost, heq⟩
      · rw [onPoll]
        refine ⟨fun _ => ?_, fun hnot => absurd (fun _ => hkeeps) hnot⟩
        simp only [heq]
        refine ⟨h.reconnect, ?_⟩
        simp [RepeatableTimeoutTask.read, RepeatableTimeoutTask.restart, h.poll, hsocket]
      · rw [onPoll]
        refine ⟨fun hholds => absurd (hholds hfires) hlost, fun _ => Stuck.not_trying ?_⟩
        simp only [heq]
        exact ⟨by simp [disconnect, hsocket], hreconnect⟩
    · refine ⟨fun _ => ?_, fun hnot => absurd (fun hf => absurd hf hfires) hnot⟩
      rwa [step, if_neg hfires]

/-- The source after `schedule` and what happened since. -/
def runOf (config : NtripConfig) (onData registers : Bool) (is : List Input) : NtripSource :=
  (Mealy.run step ((create config onData).schedule registers) is).1

/-- **When the source never stops trying**: in every state of a run after `schedule` the timer it
waits for is armed, if and only if the scheduler took the first timer, the first attempt succeeds
and its connection is never lost. -/
theorem trying_iff (config : NtripConfig) (onData registers : Bool) (is : List Input) :
    (∀ js, js <+: is → (runOf config onData registers js).Trying) ↔
      registers = true ∧
        Mealy.Along Holds step ((create config onData).schedule registers) [] is := by
  cases registers with
  | false =>
    refine iff_of_false (fun hall => ?_) (fun h => by cases h.1)
    have hfires := ((hall [] (List.nil_prefix)).reconnects (Int.negSucc_lt_zero 0)).1
    cases hfires
  | true =>
    have hgood : ∀ (s : NtripSource) (_ : List (List UInt8)), s.Waits → s.Trying :=
      fun _ _ h => h.trying
    have hbad : ∀ (s : NtripSource) out i, s.Waits → True → ¬Holds s out i → ¬(s.step i).1.Trying :=
      fun _ out i hs _ => (waits_step hs out i).2
    have hstep : ∀ (s : NtripSource) out i, s.Waits → True → Holds s out i → (s.step i).1.Waits :=
      fun _ out i hs _ => (waits_step hs out i).1
    have hrule : (∀ js, js <+: is → (runOf config onData true js).Trying) ↔
        Mealy.Along Holds step ((create config onData).schedule true) [] is :=
      Mealy.states_good_iff_along (fun _ => True) hgood hbad hstep (waits_start config onData)
        (fun _ _ => trivial)
    simpa only [true_and] using hrule

/-- **Stuck for good**: whatever happens later, there is no further attempt. -/
theorem stuck_run {s : NtripSource} (h : s.Stuck) (is : List Input) :
    (Mealy.run step s is).1.Stuck := by
  induction is generalizing s with
  | nil => exact h
  | cons i is ih =>
    have hvalid : s.mReconnectTask.mEvent = true := by rw [h.reconnect]
    refine ih ?_
    cases i with
    | schedule registers =>
      have hstep : s.schedule registers = s := s.scheduleReconnect_eq hvalid registers
      rwa [step, hstep]
    | reconnect a =>
      have hnot : ¬s.mReconnectTask.Fires := by
        rw [h.reconnect]
        decide
      rwa [step, if_neg hnot]
    | poll r registers =>
      rw [step]
      split
      · have hpoll : ({ s with mPollTask := s.mPollTask.read } : NtripSource).poll r registers =
            ({ s with mPollTask := s.mPollTask.read }, []) := if_pos h.socket
        rw [onPoll, hpoll]
        exact ⟨h.socket, h.reconnect⟩
      · exact h
    | position registers =>
      rw [step]
      split
      · exact ⟨h.socket, h.reconnect⟩
      · exact h

/-- The first attempt is refused. -/
theorem not_trying_refused :
    ¬(runOf ⟨.None, 10⟩ true true [.reconnect ⟨true, 3, false, true⟩]).Trying := by
  intro h
  exact absurd (h.reconnects (by decide)) (by decide)

end NtripSource

end SuplLpp.Client
