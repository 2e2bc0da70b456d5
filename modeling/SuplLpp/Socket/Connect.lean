import SuplLpp.Lib.Mealy
import SuplLpp.Scheduler.Deferred
import SuplLpp.Scheduler.Slots

/-!
# The connect task

`TcpConnectTask` resolves an address, opens a socket and connects it.  When an attempt fails or
a connection is lost, a task with `should_reconnect` arms a timer, and the timer leads to the
next attempt.  What touches the task in its own events is deferred: three callbacks.

* `TcpConnectTask` and its functions, each with what it calls outside of itself (`Call`); what
  the system answers to an attempt is a parameter (`Answers`);
* `System`, `step`: a task, its deferred callbacks, and the calls of its user; a descriptor is
  reported once in a round of the scheduler, and what the round deferred is run before the next;
* `connect_cases`, `schedule_cases`, `event_cases`: what an attempt and an event can do;
* `Sound`: the socket is registered exactly while the task is connecting or connected.
-/

namespace SuplLpp.Socket

open Sched (EventInterest Fd)
open Deferred (ConnectState)

/-! ### The task -/

/-- The family of an address. -/
inductive Family
  | inet
  | inet6
  | other
  deriving DecidableEq

/-- How `::connect` returns. -/
inductive ConnectResult
  | established
  /-- With -1 and `EINPROGRESS`. -/
  | inProgress
  | failed
  deriving DecidableEq

/-- What the system answers to an attempt. -/
structure Answers where
  /-- `::getaddrinfo`. -/
  getaddrinfo : Option (List Family)
  /-- `::socket`; `none` is -1. -/
  socket : Option Fd
  connect : ConnectResult
  /-- Does `register_fd` return a valid event for the socket? -/
  registerFd : Bool
  /-- And does it for the timer? -/
  registerTimer : Bool

/-- What the task does outside of itself. -/
inductive Call
  /-- The deferred part of the callback of the timer begins. -/
  | reconnects
  | socket (result : Option Fd)
  | close (fd : ℤ)
  | onConnected
  | onDisconnected
  | onRead
  | onWrite
  deriving DecidableEq

/-- The callbacks that the task defers. -/
inductive Closure
  /-- `disconnect()`. -/
  | disconnect
  /-- `mReconnectTimeout.schedule()`. -/
  | scheduleReconnect
  /-- `mReconnectTimeout.cancel()` and `schedule(sched)`. -/
  | reconnect
  deriving DecidableEq

structure TcpConnectTask where
  mState : ConnectState
  /-- Is `mScheduler` set? -/
  mScheduler : Bool
  mIsScheduled : Bool
  /-- The interests of the registered event, when it is valid. -/
  mEvent : Option EventInterest
  mFd : ℤ
  mPath : String
  mHost : String
  mShouldReconnect : Bool
  /-- Is `mReconnectTimeout` scheduled? -/
  mReconnectTimeout : Bool
  /-- Is `on_read` set? -/
  onRead : Bool
  /-- Is `on_write` set? -/
  onWrite : Bool

/-- `sizeof(sun_path)`. -/
def sunPathSize : ℕ := 108

namespace TcpConnectTask

/-- The constructors; they do not initialize `mFd`. -/
def create (mHost mPath : String) (shouldReconnect onRead onWrite : Bool) (mFd : ℤ) :
    TcpConnectTask where
  mState := .unscheduled
  mScheduler := false
  mIsScheduled := false
  mEvent := none
  mFd := mFd
  mPath := mPath
  mHost := mHost
  mShouldReconnect := shouldReconnect
  mReconnectTimeout := false
  onRead := onRead
  onWrite := onWrite

/-- Does the first part of `connect` find an address? -/
def resolves (t : TcpConnectTask) (getaddrinfo : Option (List Family)) : Bool :=
  if 0 < t.mHost.utf8ByteSize then
    match getaddrinfo with
    | none => false
    | some addresses => addresses.any fun family => family = .inet || family = .inet6
  else if 0 < t.mPath.utf8ByteSize then t.mPath.utf8ByteSize + 1 < sunPathSize
  else false

def connect (t : TcpConnectTask) (a : Answers) : Bool × TcpConnectTask × List Call :=
  if t.mState ≠ .unscheduled ∧ t.mState ≠ .disconnected then (false, t, [])
  else if !t.resolves a.getaddrinfo then (false, { t with mState := .error }, [])
  else
    match a.socket with
    | none => (false, { t with mState := .error, mFd := -1 }, [.socket none])
    | some fd =>
        match a.connect with
        | .inProgress =>
            (true, { t with mState := .connecting, mFd := fd.val }, [.socket (some fd)])
        | .failed => (false, { t with mState := .error, mFd := fd.val }, [.socket (some fd)])
        | .established =>
            (true, { t with mState := .connected, mFd := fd.val },
              [.socket (some fd), .onConnected])

/-- `RepeatableTimeoutTask::schedule` of `mReconnectTimeout`. -/
def scheduleReconnect (t : TcpConnectTask) (a : Answers) : TcpConnectTask :=
  { t with mReconnectTimeout := t.mReconnectTimeout || a.registerTimer }

/-- The interests that `schedule` registers; for `on_write` it adds `Read`. -/
def interests (t : TcpConnectTask) : EventInterest :=
  let i := EventInterest.Error.or .Hangup
  let i := if t.onRead then i.or .Read else i
  let i := if t.onWrite then i.or .Read else i
  if t.mState = .connecting then i.or .Write else i

def schedule (t : TcpConnectTask) (a : Answers) : Bool × TcpConnectTask × List Call :=
  if t.mIsScheduled then (false, t, [])
  else
    let (connected, t, calls) := t.connect a
    if !connected then
      if t.mShouldReconnect then (true, t.scheduleReconnect a, calls) else (false, t, calls)
    else if t.mState ≠ .connecting ∧ t.mState ≠ .connected then
      (false, { t with mState := .error }, calls)
    else if t.mFd < 0 then (false, { t with mState := .error }, calls)
    else if a.registerFd then
      (true, { t with mEvent := some t.interests, mScheduler := true, mIsScheduled := true },
        calls)
    else (false, { t with mState := .error }, calls)

def cancel (t : TcpConnectTask) : TcpConnectTask :=
  if !t.mIsScheduled then t else { t with mIsScheduled := false, mEvent := none }

@[simp] theorem mState_cancel (t : TcpConnectTask) : (t.cancel).mState = t.mState := by
  unfold cancel
  split <;> rfl

@[simp] theorem mFd_cancel (t : TcpConnectTask) : (t.cancel).mFd = t.mFd := by
  unfold cancel
  split <;> rfl

@[simp] theorem mScheduler_cancel (t : TcpConnectTask) : (t.cancel).mScheduler = t.mScheduler := by
  unfold cancel
  split <;> rfl

@[simp] theorem mShouldReconnect_cancel (t : TcpConnectTask) :
    (t.cancel).mShouldReconnect = t.mShouldReconnect := by
  unfold cancel
  split <;> rfl

@[simp] theorem mReconnectTimeout_cancel (t : TcpConnectTask) :
    (t.cancel).mReconnectTimeout = t.mReconnectTimeout := by
  unfold cancel
  split <;> rfl

def updateInterests (t : TcpConnectTask) (interests : EventInterest) : TcpConnectTask :=
  if !t.mScheduler then t else { t with mEvent := t.mEvent.map fun _ => interests }

@[simp] theorem mState_updateInterests (t : TcpConnectTask) (i : EventInterest) :
    (t.updateInterests i).mState = t.mState := by
  unfold updateInterests
  split <;> rfl

@[simp] theorem mFd_updateInterests (t : TcpConnectTask) (i : EventInterest) :
    (t.updateInterests i).mFd = t.mFd := by
  unfold updateInterests
  split <;> rfl

@[simp] theorem mScheduler_updateInterests (t : TcpConnectTask) (i : EventInterest) :
    (t.updateInterests i).mScheduler = t.mScheduler := by
  unfold updateInterests
  split <;> rfl

@[simp] theorem mIsScheduled_updateInterests (t : TcpConnectTask) (i : EventInterest) :
    (t.updateInterests i).mIsScheduled = t.mIsScheduled := by
  unfold updateInterests
  split <;> rfl

@[simp] theorem mShouldReconnect_updateInterests (t : TcpConnectTask) (i : EventInterest) :
    (t.updateInterests i).mShouldReconnect = t.mShouldReconnect := by
  unfold updateInterests
  split <;> rfl

@[simp] theorem mReconnectTimeout_updateInterests (t : TcpConnectTask) (i : EventInterest) :
    (t.updateInterests i).mReconnectTimeout = t.mReconnectTimeout := by
  unfold updateInterests
  split <;> rfl

def disconnect (t : TcpConnectTask) : TcpConnectTask × List Call :=
  if t.mState ≠ .connecting ∧ t.mState ≠ .connected then (t, [])
  else
    ({ t.cancel with mFd := if 0 ≤ t.mFd then -1 else t.mFd, mState := .disconnected },
      (if 0 ≤ t.mFd then [.close t.mFd] else []) ++
        if t.mState = .connected then [.onDisconnected] else [])

/-- The destructor. -/
def destroy (t : TcpConnectTask) : List Call :=
  t.disconnect.2 ++ if 0 ≤ t.disconnect.1.mFd then [.close t.disconnect.1.mFd] else []

def read (t : TcpConnectTask) : List Call := if t.onRead then [.onRead] else []

def write (t : TcpConnectTask) : TcpConnectTask × List Call :=
  if t.mState = .connecting then
    let interests := EventInterest.Error.or .Hangup
    let interests := if t.onRead then interests.or .Read else interests
    (({ t with mState := .connected }).updateInterests interests, [.onConnected])
  else (t, if t.onWrite then [.onWrite] else [])

/-- `error`: in every state it defers the same. -/
def error (t : TcpConnectTask) : List Closure :=
  .disconnect ::
    if t.mShouldReconnect && t.mScheduler && !t.mReconnectTimeout then [.scheduleReconnect]
    else []

def event (t : TcpConnectTask) (triggered : EventInterest) :
    TcpConnectTask × List Closure × List Call :=
  if triggered.meets (EventInterest.Error.or .Hangup) then (t, t.error, [])
  else
    let read := if triggered.meets .Read then t.read else []
    if triggered.meets .Write then (t.write.1, [], read ++ t.write.2) else (t, [], read)

/-- The body of a deferred callback. -/
def run (t : TcpConnectTask) (a : Answers) : Closure → TcpConnectTask × List Call
  | .disconnect => t.disconnect
  | .scheduleReconnect => (t.scheduleReconnect a, [])
  | .reconnect =>
      let r := { t with mReconnectTimeout := false }.schedule a
      (r.2.1, .reconnects :: r.2.2)

/-- Does the task have a connection, or the prospect of one? -/
def Open (t : TcpConnectTask) : Prop := t.mState = .connecting ∨ t.mState = .connected

instance (t : TcpConnectTask) : Decidable t.Open := by unfold Open; infer_instance

end TcpConnectTask

/-! ### A task and its user -/

/-- A task, while it exists, and its deferred callbacks. -/
structure System where
  task : Option TcpConnectTask
  deferred : List Closure
  /-- Has the user scheduled the task, and not cancelled it since? -/
  wanted : Bool

inductive Input
  | schedule (a : Answers)
  | cancel
  /-- The scheduler reports the socket. -/
  | event (triggered : EventInterest)
  /-- The scheduler reports the timer. -/
  | expire
  /-- The next deferred callback runs. -/
  | runDeferred (a : Answers)
  | destroy

namespace System

def start (t : TcpConnectTask) : System := ⟨some t, [], false⟩

/-- One call of the user, one event, or one deferred callback.  A task is not destroyed while
one of its callbacks waits. -/
def step (s : System) (i : Input) : System × List Call :=
  match s.task, i with
  | none, _ => (s, [])
  | some t, .schedule a =>
      ({ s with task := some (t.schedule a).2.1, wanted := true }, (t.schedule a).2.2)
  | some t, .cancel => ({ s with task := some t.cancel, wanted := false }, [])
  | some t, .event triggered =>
      if t.mEvent.isSome ∧ .disconnect ∉ s.deferred then
        let r := t.event triggered
        ({ s with task := some r.1, deferred := s.deferred ++ r.2.1 }, r.2.2)
      else (s, [])
  | some t, .expire =>
      if t.mReconnectTimeout ∧ .reconnect ∉ s.deferred then
        ({ s with deferred := s.deferred ++ [.reconnect] }, [])
      else (s, [])
  | some t, .runDeferred a =>
      match s.deferred with
      | [] => (s, [])
      | c :: rest => ({ s with task := some (t.run a c).1, deferred := rest }, (t.run a c).2)
  | some t, .destroy =>
      if s.deferred = [] then ({ s with task := none }, t.destroy) else (s, [])

theorem step_of_none {s : System} (h : s.task = none) (i : Input) : s.step i = (s, []) := by
  unfold step
  rw [h]

theorem step_event {s : System} {t : TcpConnectTask} (h : s.task = some t)
    (triggered : EventInterest) :
    s.step (.event triggered) =
      if t.mEvent.isSome ∧ .disconnect ∉ s.deferred then
        ({ s with
          task := some (t.event triggered).1
          deferred := s.deferred ++ (t.event triggered).2.1 }, (t.event triggered).2.2)
      else (s, []) := by
  unfold step
  rw [h]

theorem step_runDeferred {s : System} {t : TcpConnectTask} (h : s.task = some t) {c : Closure}
    {rest : List Closure} (hdeferred : s.deferred = c :: rest) (a : Answers) :
    s.step (.runDeferred a) =
      ({ s with task := some (t.run a c).1, deferred := rest }, (t.run a c).2) := by
  unfold step
  rw [h, hdeferred]

theorem step_destroy {s : System} {t : TcpConnectTask} (h : s.task = some t)
    (hdeferred : s.deferred = []) :
    s.step .destroy = ({ s with task := none }, t.destroy) := by
  unfold step
  rw [h]
  exact if_pos hdeferred

end System

namespace TcpConnectTask

/-! ### What an attempt can do -/

/-- Can `connect` start from this state? -/
def Ready (t : TcpConnectTask) : Prop := t.mState = .unscheduled ∨ t.mState = .disconnected

instance (t : TcpConnectTask) : Decidable t.Ready := by unfold Ready; infer_instance

theorem not_open_of_ready {t : TcpConnectTask} (h : t.Ready) : ¬t.Open := by
  rcases h with h | h <;> simp [Open, h]

theorem disconnect_of_not_open {t : TcpConnectTask} (h : ¬t.Open) : t.disconnect = (t, []) := by
  rw [disconnect, if_pos (not_or.1 h)]

theorem disconnect_of_open {t : TcpConnectTask} (h : t.Open) :
    t.disconnect =
      ({ t.cancel with mFd := if 0 ≤ t.mFd then -1 else t.mFd, mState := .disconnected },
        (if 0 ≤ t.mFd then [.close t.mFd] else []) ++
          if t.mState = .connected then [.onDisconnected] else []) := by
  rw [disconnect, if_neg fun hnot => h.elim hnot.1 hnot.2]

/-- What an event leads to: `error`, or `read` and `write` or one of them. -/
theorem event_cases (t : TcpConnectTask) (triggered : EventInterest) :
    (triggered.meets (EventInterest.Error.or .Hangup) = true ∧
      t.event triggered = (t, t.error, [])) ∨
    ∃ reads, triggered.meets (EventInterest.Error.or .Hangup) = false ∧
      (reads = [] ∨ reads = t.read) ∧
      (t.event triggered = (t, [], reads) ∨
        triggered.meets .Write = true ∧
          t.event triggered = (t.write.1, [], reads ++ t.write.2)) := by
  cases herror : triggered.meets (EventInterest.Error.or .Hangup) with
  | true => exact .inl ⟨rfl, if_pos herror⟩
  | false =>
    refine .inr ⟨if triggered.meets .Read then t.read else [], rfl, ?_, ?_⟩
    · cases triggered.meets .Read <;> simp
    · cases hwrite : triggered.meets .Write <;> simp [event, herror, hwrite]

/-- The ends of `connect`, one after the other. -/
theorem connect_cases (t : TcpConnectTask) (a : Answers) :
    (¬t.Ready ∧ t.connect a = (false, t, [])) ∨
    (t.Ready ∧ t.resolves a.getaddrinfo = false ∧
      t.connect a = (false, { t with mState := .error }, [])) ∨
    (t.Ready ∧ t.resolves a.getaddrinfo = true ∧
      t.connect a = (false, { t with mState := .error, mFd := -1 }, [.socket none])) ∨
    ∃ fd : Fd, t.Ready ∧ t.resolves a.getaddrinfo = true ∧
      (t.connect a =
          (false, { t with mState := .error, mFd := fd.val }, [.socket (some fd)]) ∨
        t.connect a =
          (true, { t with mState := .connecting, mFd := fd.val }, [.socket (some fd)]) ∨
        a.connect = .established ∧ t.connect a =
          (true, { t with mState := .connected, mFd := fd.val },
            [.socket (some fd), .onConnected])) := by
  by_cases hready : t.Ready
  · have hstate : ¬(t.mState ≠ .unscheduled ∧ t.mState ≠ .disconnected) := by
      rintro ⟨h1, h2⟩
      exact hready.elim h1 h2
    cases hresolves : t.resolves a.getaddrinfo with
    | false => exact .inr (.inl ⟨hready, rfl, by simp [connect, hstate, hresolves]⟩)
    | true =>
      cases hsocket : a.socket with
      | none =>
        exact .inr (.inr (.inl ⟨hready, rfl, by simp [connect, hstate, hresolves, hsocket]⟩))
      | some fd =>
        refine .inr (.inr (.inr ⟨fd, hready, rfl, ?_⟩))
        cases hconnect : a.connect <;> simp [connect, hstate, hresolves, hsocket, hconnect]
  · have hstate : t.mState ≠ .unscheduled ∧ t.mState ≠ .disconnected := not_or.1 hready
    exact .inl ⟨hready, by simp [connect, hstate]⟩

/-- Is the timer armed when an attempt fails? -/
def rearmed (t : TcpConnectTask) (a : Answers) : Bool :=
  t.mReconnectTimeout || t.mShouldReconnect && a.registerTimer

/-- The ends of `schedule`, with a scheduler that registers the socket. -/
theorem schedule_cases (t : TcpConnectTask) {a : Answers} (hfd : a.registerFd) :
    (t.mIsScheduled = true ∧ (t.schedule a).2 = (t, [])) ∨
    (t.mIsScheduled = false ∧ ¬t.Ready ∧
      (t.schedule a).2 = ({ t with mReconnectTimeout := t.rearmed a }, [])) ∨
    (t.mIsScheduled = false ∧ t.Ready ∧ t.resolves a.getaddrinfo = false ∧
      (t.schedule a).2 = ({ t with mState := .error, mReconnectTimeout := t.rearmed a }, [])) ∨
    (t.mIsScheduled = false ∧ t.Ready ∧ t.resolves a.getaddrinfo = true ∧
      (t.schedule a).2 =
        ({ t with mState := .error, mFd := -1, mReconnectTimeout := t.rearmed a },
          [.socket none])) ∨
    ∃ fd : Fd, t.mIsScheduled = false ∧ t.Ready ∧ t.resolves a.getaddrinfo = true ∧
      ((t.schedule a).2 =
          ({ t with mState := .error, mFd := fd.val, mReconnectTimeout := t.rearmed a },
            [.socket (some fd)]) ∨
        ∃ i, (t.schedule a).2 =
            ({ t with mState := .connecting, mFd := fd.val, mEvent := some i, mScheduler := true
                      mIsScheduled := true }, [.socket (some fd)]) ∨
          a.connect = .established ∧ (t.schedule a).2 =
            ({ t with mState := .connected, mFd := fd.val, mEvent := some i, mScheduler := true
                      mIsScheduled := true }, [.socket (some fd), .onConnected])) := by
  rcases Bool.eq_false_or_eq_true t.mIsScheduled with hscheduled | hscheduled
  · exact .inl ⟨hscheduled, by simp [schedule, hscheduled]⟩
  · rcases connect_cases t a with ⟨hready, hc⟩ | ⟨hready, hres, hc⟩ | ⟨hready, hres, hc⟩ |
      ⟨fd, hready, hres, hc⟩
    · refine .inr (.inl ⟨hscheduled, hready, ?_⟩)
      rcases Bool.eq_false_or_eq_true t.mShouldReconnect with hreconnect | hreconnect
      · simp [schedule, hscheduled, hc, hreconnect, scheduleReconnect, rearmed]
      · have hsame : t.rearmed a = t.mReconnectTimeout := by simp [rearmed, hreconnect]
        have hnothing : (t.schedule a).2 = (t, []) := by
          simp [schedule, hscheduled, hc, hreconnect]
        rw [hsame, hnothing]
    · exact .inr (.inr (.inl ⟨hscheduled, hready, hres, by
        cases hreconnect : t.mShouldReconnect <;>
          simp [schedule, hscheduled, hc, hreconnect, scheduleReconnect, rearmed]⟩))
    · exact .inr (.inr (.inr (.inl ⟨hscheduled, hready, hres, by
        cases hreconnect : t.mShouldReconnect <;>
          simp [schedule, hscheduled, hc, hreconnect, scheduleReconnect, rearmed]⟩)))
    · refine .inr (.inr (.inr (.inr ⟨fd, hscheduled, hready, hres, ?_⟩)))
      -- the descriptor that `::socket` returns is not negative
      have hpos : ¬((fd.val : ℤ) < 0) := by omega
      rcases hc with hc | hc | ⟨hest, hc⟩
      · exact .inl (by cases hreconnect : t.mShouldReconnect <;>
          simp [schedule, hscheduled, hc, hreconnect, scheduleReconnect, rearmed])
      · exact .inr ⟨_, .inl (by simp [schedule, hscheduled, hc, hfd, hpos]; rfl)⟩
      · exact .inr ⟨_, .inr ⟨hest, by simp [schedule, hscheduled, hc, hfd, hpos]; rfl⟩⟩

/-! ### Registered while it is open -/

/-- A task has its socket registered exactly while it is connecting or connected.  It is so
until its user cancels it. -/
structure Sound (t : TcpConnectTask) : Prop where
  scheduled : t.Open → t.mIsScheduled = true ∧ t.mScheduler = true ∧ t.mEvent.isSome = true
  open_of_scheduled : t.mIsScheduled = true → t.Open
  open_of_event : t.mEvent.isSome = true → t.Open

namespace Sound

variable {t : TcpConnectTask}

theorem create (mHost mPath : String) (shouldReconnect onRead onWrite : Bool) (mFd : ℤ) :
    (TcpConnectTask.create mHost mPath shouldReconnect onRead onWrite mFd).Sound where
  scheduled := by simp [Open, TcpConnectTask.create]
  open_of_scheduled := by simp [TcpConnectTask.create]
  open_of_event := by simp [TcpConnectTask.create]

/-- A task that is neither scheduled nor open. -/
theorem of_not_open {t' : TcpConnectTask} (hopen : ¬t'.Open) (hscheduled : t'.mIsScheduled = false)
    (hevent : t'.mEvent.isSome = false) : t'.Sound where
  scheduled h := absurd h hopen
  open_of_scheduled h := by simp [hscheduled] at h
  open_of_event h := by simp [hevent] at h

theorem of_open {t' : TcpConnectTask} (hopen : t'.Open) (hscheduled : t'.mIsScheduled = true)
    (hscheduler : t'.mScheduler = true) (hevent : t'.mEvent.isSome = true) : t'.Sound where
  scheduled _ := ⟨hscheduled, hscheduler, hevent⟩
  open_of_scheduled _ := hopen
  open_of_event _ := hopen

theorem not_scheduled (h : t.Sound) (hopen : ¬t.Open) :
    t.mIsScheduled = false ∧ t.mEvent.isSome = false :=
  ⟨Bool.eq_false_iff.2 fun hs => hopen (h.open_of_scheduled hs),
    Bool.eq_false_iff.2 fun hs => hopen (h.open_of_event hs)⟩

/-- Other fields change. -/
theorem congr (h : t.Sound) {t' : TcpConnectTask} (hstate : t'.mState = t.mState)
    (hscheduled : t'.mIsScheduled = t.mIsScheduled) (hscheduler : t'.mScheduler = t.mScheduler)
    (hevent : t'.mEvent.isSome = t.mEvent.isSome) : t'.Sound where
  scheduled := by
    rw [Open, hstate, hscheduled, hscheduler, hevent]
    exact h.scheduled
  open_of_scheduled := by
    rw [Open, hstate, hscheduled]
    exact h.open_of_scheduled
  open_of_event := by
    rw [Open, hstate, hevent]
    exact h.open_of_event

theorem schedule (h : t.Sound) {a : Answers} (hfd : a.registerFd) : (t.schedule a).2.1.Sound := by
  rcases t.schedule_cases hfd with
    ⟨-, hs⟩ | ⟨-, -, hs⟩ | ⟨-, hready, -, hs⟩ | ⟨-, hready, -, hs⟩ |
    ⟨fd, -, hready, -, hs | ⟨i, hs | ⟨-, hs⟩⟩⟩
  · rw [hs]
    exact h
  · rw [hs]
    exact h.congr rfl rfl rfl rfl
  all_goals
    obtain ⟨hscheduled, hevent⟩ := h.not_scheduled (not_open_of_ready hready)
    rw [hs]
  · exact of_not_open (by simp [Open]) hscheduled hevent
  · exact of_not_open (by simp [Open]) hscheduled hevent
  · exact of_not_open (by simp [Open]) hscheduled hevent
  · exact of_open (.inl rfl) rfl rfl rfl
  · exact of_open (.inr rfl) rfl rfl rfl

theorem disconnect (h : t.Sound) : t.disconnect.1.Sound := by
  by_cases hopen : t.Open
  · obtain ⟨hscheduled, -, -⟩ := h.scheduled hopen
    rw [disconnect_of_open hopen]
    exact of_not_open (by simp [Open]) (by simp [cancel, hscheduled]) (by simp [cancel, hscheduled])
  · rw [disconnect_of_not_open hopen]
    exact h

theorem updateInterests (h : t.Sound) (i : EventInterest) : (t.updateInterests i).Sound := by
  refine h.congr (by simp) (by simp) (by simp) ?_
  unfold TcpConnectTask.updateInterests
  split <;> simp

theorem write (h : t.Sound) : t.write.1.Sound := by
  unfold TcpConnectTask.write
  split
  · next hstate =>
    obtain ⟨hscheduled, hscheduler, hevent⟩ := h.scheduled (.inl hstate)
    refine updateInterests ?_ _
    exact of_open (.inr rfl) hscheduled hscheduler hevent
  · exact h

end Sound

end TcpConnectTask

end SuplLpp.Socket
