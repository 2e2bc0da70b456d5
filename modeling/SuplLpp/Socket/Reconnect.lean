import SuplLpp.Socket.Connect

/-!
# Reconnecting

What a task with `should_reconnect` keeps in every run, whatever the system answers to its
attempts.

* `Ledger`: the descriptor and the connection that the calls leave open;
* `Progress`: the timer is armed while there is no connection, its callback reaches `::socket`,
  descriptors and connections are closed once; `Invariant`: why;
* `progress_iff`: a run keeps `Progress` exactly when the callback of the timer never finds a
  task that a failed attempt left in `StateError`, or one that is in use.
-/

namespace SuplLpp.Socket

open Sched (EventInterest Fd)
open Deferred (ConnectState)

/-! ### What the calls leave open -/

/-- The descriptor and the connection that are open. -/
structure Ledger where
  fd : Option ℤ
  connected : Bool
  deriving DecidableEq

namespace Ledger

/-- One call; `none` when it opens a second descriptor or closes one that is not open, and when
it reports a second connection or the end of none. -/
def step (l : Ledger) : Call → Option Ledger
  | .socket (some fd) => if l.fd = none then some { l with fd := some fd.val } else none
  | .close fd => if l.fd = some fd then some { l with fd := none } else none
  | .onConnected => if l.connected then none else some { l with connected := true }
  | .onDisconnected => if l.connected then some { l with connected := false } else none
  | .socket none | .reconnects | .onRead | .onWrite => some l

/-- From nothing open. -/
def ofCalls (calls : List Call) : Option Ledger := calls.foldlM step ⟨none, false⟩

theorem ofCalls_append {calls : List Call} {l : Ledger} (h : ofCalls calls = some l)
    (more : List Call) : ofCalls (calls ++ more) = more.foldlM step l := by
  rw [ofCalls, List.foldlM_append, ← ofCalls, h]
  rfl

/-- Only `::socket` gives a descriptor. -/
theorem fd_of_step {l l' : Ledger} {c : Call} (h : l.step c = some l') (hfd : l.fd = none) :
    l'.fd = none ∨ ∃ r, c = .socket r := by
  cases c with
  | socket r => exact .inr ⟨r, rfl⟩
  | close fd => simp [step, hfd] at h
  | onConnected | onDisconnected =>
    simp only [step] at h
    split at h
    all_goals cases h
    exact .inl hfd
  | reconnects | onRead | onWrite =>
    cases h
    exact .inl hfd

/-- Who has an open descriptor got it from `::socket`. -/
theorem socket_mem {calls : List Call} {l : Ledger} (h : ofCalls calls = some l)
    (hfd : l.fd ≠ none) : ∃ r, Call.socket r ∈ calls := by
  induction calls using List.reverseRecOn generalizing l with
  | nil =>
    cases h
    exact absurd rfl hfd
  | append_singleton calls c ih =>
    cases hl : ofCalls calls with
    | none =>
      rw [ofCalls, List.foldlM_append, ← ofCalls, hl] at h
      cases h
    | some l' =>
      rw [ofCalls_append hl, List.foldlM_cons] at h
      obtain ⟨l'', hstep, hnil⟩ := Option.bind_eq_some_iff.1 h
      cases hnil
      by_cases hopen : l'.fd = none
      · obtain hnone | ⟨r, rfl⟩ := fd_of_step hstep hopen
        · exact absurd hnone hfd
        · exact ⟨r, by simp⟩
      · obtain ⟨r, hr⟩ := ih hl hopen
        exact ⟨r, List.mem_append_left _ hr⟩

end Ledger

/-- Every time the callback of the timer begins, it goes on to `::socket`. -/
def Attempts (calls : List Call) : Prop :=
  ∀ before after, calls = before ++ .reconnects :: after →
    ∃ result rest, after = .socket result :: rest

theorem Attempts.append {calls more : List Call} (h : Attempts calls) (h' : Attempts more) :
    Attempts (calls ++ more) := by
  intro before after hsplit
  rcases List.append_eq_append_iff.1 hsplit with ⟨gap, rfl, hmore⟩ | ⟨gap, hcalls, hrest⟩
  · exact h' gap after hmore
  · cases gap with
    | nil => exact h' [] after (by simpa using hrest.symm)
    | cons c gap =>
      obtain ⟨rfl, rfl⟩ := List.cons.inj hrest
      obtain ⟨result, rest, rfl⟩ := h before gap hcalls
      exact ⟨result, rest ++ more, rfl⟩

theorem attempts_of_notMem {calls : List Call} (h : Call.reconnects ∉ calls) : Attempts calls := by
  rintro before after rfl
  exact absurd (by simp) h

/-! ### The books of a task -/

/-- The open descriptor is the one of the task; without one the task does not close what it
has in `mFd`, unless it never called `::socket`. -/
def Holds (t : TcpConnectTask) (l : Ledger) (calls : List Call) : Prop :=
  (l.fd = some t.mFd ∧ 0 ≤ t.mFd ∧ ¬t.Ready) ∨
    (l.fd = none ∧ ¬t.Open ∧ (t.mFd < 0 ∨ ∀ r, Call.socket r ∉ calls))

/-- What is open after the calls is what the task has. -/
structure Books (t : TcpConnectTask) (calls : List Call) (l : Ledger) : Prop where
  ofCalls : Ledger.ofCalls calls = some l
  connected : l.connected = decide (t.mState = .connected)
  holds : Holds t l calls

namespace Books

variable {t : TcpConnectTask} {calls : List Call} {l : Ledger}

/-- Calls that open and close nothing. -/
theorem neutral (h : Books t calls l) {t' : TcpConnectTask} (hstate : t'.mState = t.mState)
    (hfd : t'.mFd = t.mFd) {c : Call} (hc : c = .reconnects ∨ c = .onRead ∨ c = .onWrite) :
    Books t' (calls ++ [c]) l where
  ofCalls := by
    rw [Ledger.ofCalls_append h.ofCalls]
    rcases hc with rfl | rfl | rfl <;> rfl
  connected := by rw [h.connected, hstate]
  holds := by
    have hnot : ∀ r, c ≠ .socket r := by rcases hc with rfl | rfl | rfl <;> simp
    rcases h.holds with ⟨h1, h2, h3⟩ | ⟨h1, h2, h3⟩
    · exact .inl ⟨by rw [hfd, h1], by rwa [hfd], by rwa [TcpConnectTask.Ready, hstate]⟩
    · refine .inr ⟨h1, by rwa [TcpConnectTask.Open, hstate], h3.imp (fun h => by rwa [hfd]) ?_⟩
      intro hsocket r hr
      rcases List.mem_append.1 hr with hr | hr
      · exact hsocket r hr
      · exact hnot r (List.mem_singleton.1 hr).symm

/-- A change of other fields. -/
theorem congr (h : Books t calls l) {t' : TcpConnectTask} (hstate : t'.mState = t.mState)
    (hfd : t'.mFd = t.mFd) : Books t' calls l where
  ofCalls := h.ofCalls
  connected := by rw [h.connected, hstate]
  holds := by
    rcases h.holds with ⟨h1, h2, h3⟩ | ⟨h1, h2, h3⟩
    · exact .inl ⟨by rw [hfd, h1], by rwa [hfd], by rwa [TcpConnectTask.Ready, hstate]⟩
    · exact .inr ⟨h1, by rwa [TcpConnectTask.Open, hstate], by rwa [hfd]⟩

/-- A task that can start an attempt has nothing open. -/
theorem eq_of_ready (h : Books t calls l) (hready : t.Ready) : l = ⟨none, false⟩ := by
  have hconnected : l.connected = false := by
    rw [h.connected, decide_eq_false]
    exact fun hstate => TcpConnectTask.not_open_of_ready hready (.inr hstate)
  rcases h.holds with ⟨-, -, hnot⟩ | ⟨hfd, -, -⟩
  · exact absurd hready hnot
  · obtain ⟨fd, connected⟩ := l
    exact congrArg₂ Ledger.mk hfd hconnected

/-- An open connection has a descriptor. -/
theorem fd_of_open (h : Books t calls l) (hopen : t.Open) : l.fd = some t.mFd ∧ 0 ≤ t.mFd := by
  rcases h.holds with ⟨h1, h2, -⟩ | ⟨-, hnot, -⟩
  · exact ⟨h1, h2⟩
  · exact absurd hopen hnot

/-- `schedule` keeps the books. -/
theorem schedule (h : Books t calls l) {a : Answers} (hfd : a.registerFd) :
    ∃ l', Books (t.schedule a).2.1 (calls ++ (t.schedule a).2.2) l' := by
  rcases t.schedule_cases hfd with
    ⟨-, hs⟩ | ⟨-, -, hs⟩ | ⟨-, hready, -, hs⟩ | ⟨-, hready, -, hs⟩ | ⟨fd, -, hready, -, hs⟩
  · exact ⟨l, by rw [hs, List.append_nil]; exact h⟩
  · exact ⟨l, by rw [hs, List.append_nil]; exact h.congr rfl rfl⟩
  · obtain rfl := h.eq_of_ready hready
    refine ⟨⟨none, false⟩, ?_⟩
    rw [hs, List.append_nil]
    refine ⟨h.ofCalls, rfl, .inr ⟨rfl, by simp [TcpConnectTask.Open], ?_⟩⟩
    rcases h.holds with ⟨h1, -⟩ | ⟨-, -, h3⟩
    · cases h1
    · exact h3
  · obtain rfl := h.eq_of_ready hready
    refine ⟨⟨none, false⟩, ?_⟩
    rw [hs]
    exact ⟨by rw [Ledger.ofCalls_append h.ofCalls]; rfl, rfl,
      .inr ⟨rfl, by simp [TcpConnectTask.Open], .inl (by simp)⟩⟩
  · obtain rfl := h.eq_of_ready hready
    have hpos : (0 : ℤ) ≤ fd.val := Int.natCast_nonneg _
    rcases hs with hs | ⟨i, hs | ⟨-, hs⟩⟩
    · exact ⟨⟨some fd.val, false⟩, by
        rw [hs]
        exact ⟨by rw [Ledger.ofCalls_append h.ofCalls]; rfl, rfl,
          .inl ⟨rfl, hpos, by simp [TcpConnectTask.Ready]⟩⟩⟩
    · exact ⟨⟨some fd.val, false⟩, by
        rw [hs]
        exact ⟨by rw [Ledger.ofCalls_append h.ofCalls]; rfl, rfl,
          .inl ⟨rfl, hpos, by simp [TcpConnectTask.Ready]⟩⟩⟩
    · exact ⟨⟨some fd.val, true⟩, by
        rw [hs]
        exact ⟨by rw [Ledger.ofCalls_append h.ofCalls]; rfl, rfl,
          .inl ⟨rfl, hpos, by simp [TcpConnectTask.Ready]⟩⟩⟩

/-- `disconnect` keeps the books. -/
theorem disconnect (h : Books t calls l) :
    ∃ l', Books t.disconnect.1 (calls ++ t.disconnect.2) l' := by
  by_cases hopen : t.Open
  · obtain ⟨hfd, hpos⟩ := h.fd_of_open hopen
    have hconnected := h.connected
    rw [TcpConnectTask.disconnect_of_open hopen, if_pos hpos, if_pos hpos]
    refine ⟨⟨none, false⟩, ?_, by simp, .inr ⟨rfl, by simp [TcpConnectTask.Open], .inl (by simp)⟩⟩
    rw [Ledger.ofCalls_append h.ofCalls]
    by_cases hstate : t.mState = .connected
    · simp [hstate, Ledger.step, hfd, hconnected]
    · simp only [hstate, decide_false] at hconnected
      simp [hstate, Ledger.step, hfd, hconnected]
  · rw [TcpConnectTask.disconnect_of_not_open hopen, List.append_nil]
    exact ⟨l, h⟩

/-- An established connection is reported. -/
theorem write (h : Books t calls l) : ∃ l', Books t.write.1 (calls ++ t.write.2) l' := by
  unfold TcpConnectTask.write
  split
  · next hstate =>
    have hfd := h.fd_of_open (.inl hstate)
    have hconnected := h.connected
    simp only [hstate, reduceCtorEq, decide_false] at hconnected
    refine ⟨⟨some t.mFd, true⟩, ?_, by simp, .inl ⟨by simp, by simpa using hfd.2, ?_⟩⟩
    · rw [Ledger.ofCalls_append h.ofCalls]
      simp [Ledger.step, hconnected, hfd.1]
    · simp [TcpConnectTask.Ready]
  · split
    · exact ⟨l, h.neutral rfl rfl (.inr (.inr rfl))⟩
    · exact ⟨l, by simpa using h⟩

/-- An event keeps the books. -/
theorem event (h : Books t calls l) (triggered : EventInterest) :
    ∃ l', Books (t.event triggered).1 (calls ++ (t.event triggered).2.2) l' := by
  rcases t.event_cases triggered with ⟨-, hevent⟩ | ⟨reads, -, hreads, hevent⟩
  · rw [hevent, List.append_nil]
    exact ⟨l, h⟩
  have hread : Books t (calls ++ reads) l := by
    rcases hreads with rfl | rfl
    · rwa [List.append_nil]
    · unfold TcpConnectTask.read
      split
      · exact h.neutral rfl rfl (.inr (.inl rfl))
      · rwa [List.append_nil]
  rcases hevent with hevent | ⟨-, hevent⟩
  · rw [hevent]
    exact ⟨l, hread⟩
  · rw [hevent, ← List.append_assoc]
    exact hread.write

/-- The destructor leaves nothing open, if `mFd` was set or is negative. -/
theorem destroy (h : Books t calls l) (hset : 0 ≤ t.mFd → ∃ r, Call.socket r ∈ calls) :
    Ledger.ofCalls (calls ++ t.destroy) = some ⟨none, false⟩ := by
  have hnot : ¬t.disconnect.1.Open := by
    by_cases hopen : t.Open
    · rw [TcpConnectTask.disconnect_of_open hopen]
      simp [TcpConnectTask.Open]
    · rwa [TcpConnectTask.disconnect_of_not_open hopen]
  obtain ⟨l', hbooks⟩ := h.disconnect
  have hconnected : l'.connected = false := by
    rw [hbooks.connected, decide_eq_false]
    exact fun hstate => hnot (.inr hstate)
  rw [TcpConnectTask.destroy, ← List.append_assoc, Ledger.ofCalls_append hbooks.ofCalls]
  obtain ⟨fd, connected⟩ := l'
  cases hconnected
  rcases hbooks.holds with ⟨hfd, hpos, -⟩ | ⟨hfd, -, hneg⟩
  · cases hfd
    simp [hpos, Ledger.step]
  · cases hfd
    have hneg : ¬0 ≤ t.disconnect.1.mFd := by
      rcases hneg with hneg | hsocket
      · omega
      · intro hpos
        by_cases hopen : t.Open
        · have hfd := (h.fd_of_open hopen).2
          simp [TcpConnectTask.disconnect_of_open hopen, hfd] at hpos
        · rw [TcpConnectTask.disconnect_of_not_open hopen] at hpos hsocket
          obtain ⟨r, hr⟩ := hset hpos
          exact hsocket r (List.mem_append_left _ hr)
    simp [hneg]

end Books

/-! ### What reconnecting promises -/

/-- The promises, of a state and the calls up to it. -/
structure Progress (s : System) (calls : List Call) : Prop where
  /-- Without a connection the timer is armed, or the callback that arms it is in the queue. -/
  armed : ∀ t, s.task = some t → s.wanted = true → ¬t.Open →
    t.mReconnectTimeout = true ∨ .scheduleReconnect ∈ s.deferred
  attempts : Attempts calls
  /-- No second descriptor was open, none was closed twice, and each end of a connection was
  reported once: the connection that is open is the one that was not yet reported as ended. -/
  ledger : ∃ l, Ledger.ofCalls calls = some l ∧
    (l.connected = true ↔ ∃ t, s.task = some t ∧ t.mState = .connected)

/-- What a task keeps, with its deferred callbacks, besides the books. -/
structure Kept (t : TcpConnectTask) (deferred : List Closure) (wanted : Bool) : Prop where
  reconnects : t.mShouldReconnect = true
  scheduled : t.mIsScheduled = true → t.Open ∧ t.mScheduler = true
  registered : t.mEvent.isSome = true → t.mIsScheduled = true
  lost : .disconnect ∈ deferred →
    t.Open ∧ (t.mReconnectTimeout = true ∨ .scheduleReconnect ∈ deferred)
  armed : wanted = true → ¬t.Open → t.mReconnectTimeout = true ∨ .scheduleReconnect ∈ deferred

structure Invariant (s : System) (calls : List Call) : Prop where
  attempts : Attempts calls
  once : s.deferred.count .disconnect ≤ 1
  gone : s.task = none → Ledger.ofCalls calls = some ⟨none, false⟩
  books : ∀ t, s.task = some t → ∃ l, Books t calls l
  kept : ∀ t, s.task = some t → Kept t s.deferred s.wanted

theorem Invariant.progress {s : System} {calls : List Call} (h : Invariant s calls) :
    Progress s calls where
  armed t ht := (h.kept t ht).armed
  attempts := h.attempts
  ledger := by
    cases ht : s.task with
    | none => exact ⟨_, h.gone ht, by simp⟩
    | some t =>
      obtain ⟨l, hl⟩ := h.books t ht
      exact ⟨l, hl.ofCalls, by rw [hl.connected]; simp⟩

namespace Kept

variable {t : TcpConnectTask} {deferred : List Closure} {wanted : Bool}

/-- `schedule` by the user. -/
theorem schedule (h : Kept t deferred wanted) {a : Answers} (hfd : a.registerFd)
    (htimer : a.registerTimer) : Kept (t.schedule a).2.1 deferred true := by
  have hrearmed : t.rearmed a = true := by simp [TcpConnectTask.rearmed, h.reconnects, htimer]
  rcases t.schedule_cases hfd with
    ⟨hscheduled, hs⟩ | ⟨hnot, -, hs⟩ | ⟨hnot, hready, -, hs⟩ | ⟨hnot, hready, -, hs⟩ |
    ⟨fd, hnot, hready, -, hs⟩
  · rw [hs]
    exact { h with armed := fun _ hopen => absurd (h.scheduled hscheduled).1 hopen }
  · rw [hs]
    exact {
      reconnects := h.reconnects
      scheduled := h.scheduled
      registered := h.registered
      lost := fun hmem => ⟨(h.lost hmem).1, .inl hrearmed⟩
      armed := fun _ _ => .inl hrearmed }
  all_goals
    have hlost : .disconnect ∉ deferred := fun hmem =>
      TcpConnectTask.not_open_of_ready hready (h.lost hmem).1
  · rw [hs]
    exact {
      reconnects := h.reconnects
      scheduled := fun hscheduled => by simp [hnot] at hscheduled
      registered := h.registered
      lost := fun hmem => absurd hmem hlost
      armed := fun _ _ => .inl hrearmed }
  · rw [hs]
    exact {
      reconnects := h.reconnects
      scheduled := fun hscheduled => by simp [hnot] at hscheduled
      registered := h.registered
      lost := fun hmem => absurd hmem hlost
      armed := fun _ _ => .inl hrearmed }
  · rcases hs with hs | ⟨i, hs | ⟨-, hs⟩⟩
    · rw [hs]
      exact {
        reconnects := h.reconnects
        scheduled := fun hscheduled => by simp [hnot] at hscheduled
        registered := h.registered
        lost := fun hmem => absurd hmem hlost
        armed := fun _ _ => .inl hrearmed }
    · rw [hs]
      exact {
        reconnects := h.reconnects
        scheduled := fun _ => ⟨.inl rfl, rfl⟩
        registered := fun _ => rfl
        lost := fun hmem => absurd hmem hlost
        armed := fun _ hopen => absurd (.inl rfl) hopen }
    · rw [hs]
      exact {
        reconnects := h.reconnects
        scheduled := fun _ => ⟨.inr rfl, rfl⟩
        registered := fun _ => rfl
        lost := fun hmem => absurd hmem hlost
        armed := fun _ hopen => absurd (.inr rfl) hopen }

/-- `cancel` by the user. -/
theorem cancel (h : Kept t deferred wanted) : Kept t.cancel deferred false where
  reconnects := by rw [TcpConnectTask.mShouldReconnect_cancel, h.reconnects]
  scheduled := by
    unfold TcpConnectTask.cancel
    split
    · exact h.scheduled
    · simp
  registered := by
    unfold TcpConnectTask.cancel
    split
    · exact h.registered
    · simp
  lost := by simpa [TcpConnectTask.Open] using h.lost
  armed := by simp

/-- The socket is reported, with no loss of the connection in the queue. -/
theorem event (h : Kept t deferred wanted) (hevent : t.mEvent.isSome = true)
    (hqueue : .disconnect ∉ deferred) (triggered : EventInterest) :
    Kept (t.event triggered).1 (deferred ++ (t.event triggered).2.1) wanted := by
  obtain ⟨hopen, hscheduler⟩ := h.scheduled (h.registered hevent)
  rcases t.event_cases triggered with ⟨-, hcase⟩ | ⟨reads, -, -, hcase | ⟨-, hcase⟩⟩
  · rw [hcase]
    exact {
      reconnects := h.reconnects
      scheduled := h.scheduled
      registered := h.registered
      lost := fun _ => ⟨hopen, by
        cases htimer : t.mReconnectTimeout <;>
          simp [TcpConnectTask.error, htimer, h.reconnects, hscheduler]⟩
      armed := fun _ hnot => absurd hopen hnot }
  · rw [hcase, List.append_nil]
    exact h
  · rw [hcase, List.append_nil]
    unfold TcpConnectTask.write
    split
    · exact {
        reconnects := by simp [h.reconnects]
        scheduled := fun _ => by simp [TcpConnectTask.Open, hscheduler]
        registered := fun _ => by simp [h.registered hevent]
        lost := fun hmem => absurd hmem hqueue
        armed := fun _ hnot => absurd (by simp [TcpConnectTask.Open]) hnot }
    · exact h

/-- The timer is reported. -/
theorem expire (h : Kept t deferred wanted) : Kept t (deferred ++ [.reconnect]) wanted where
  reconnects := h.reconnects
  scheduled := h.scheduled
  registered := h.registered
  lost := by simpa using h.lost
  armed := by simpa using h.armed

/-- The deferred `disconnect` runs. -/
theorem disconnect (h : Kept t (.disconnect :: deferred) wanted)
    (hone : .disconnect ∉ deferred) : Kept t.disconnect.1 deferred wanted := by
  obtain ⟨hopen, htimer⟩ := h.lost List.mem_cons_self
  have htimer : t.mReconnectTimeout = true ∨ .scheduleReconnect ∈ deferred := by
    simpa using htimer
  have hcancel : t.cancel.mIsScheduled = false ∧ t.cancel.mEvent.isSome = false := by
    cases hscheduled : t.mIsScheduled with
    | true => simp [TcpConnectTask.cancel, hscheduled]
    | false =>
      have hevent : ¬t.mEvent.isSome = true := fun hsome => by
        simpa [hscheduled] using h.registered hsome
      simpa [TcpConnectTask.cancel, hscheduled] using hevent
  rw [TcpConnectTask.disconnect_of_open hopen]
  exact {
    reconnects := by simp [h.reconnects]
    scheduled := fun hscheduled => by simp [hcancel.1] at hscheduled
    registered := fun hevent => by simp [hcancel.2] at hevent
    lost := fun hmem => absurd hmem hone
    armed := fun _ _ => by simpa using htimer }

/-- The callback runs that arms the timer. -/
theorem scheduleReconnect (h : Kept t (.scheduleReconnect :: deferred) wanted) {a : Answers}
    (htimer : a.registerTimer) : Kept (t.scheduleReconnect a) deferred wanted where
  reconnects := h.reconnects
  scheduled := h.scheduled
  registered := h.registered
  lost hmem := ⟨(h.lost (List.mem_cons_of_mem _ hmem)).1,
    .inl (by simp [TcpConnectTask.scheduleReconnect, htimer])⟩
  armed _ _ := .inl (by simp [TcpConnectTask.scheduleReconnect, htimer])

/-- The callback of the timer runs, on a task that can start an attempt. -/
theorem reconnect (h : Kept t (.reconnect :: deferred) wanted) {a : Answers}
    (hfd : a.registerFd) (htimer : a.registerTimer) (hready : t.Ready) :
    Kept ({ t with mReconnectTimeout := false }.schedule a).2.1 deferred wanted := by
  have hlost : .disconnect ∉ deferred := fun hmem =>
    TcpConnectTask.not_open_of_ready hready (h.lost (List.mem_cons_of_mem _ hmem)).1
  -- with the timer not armed nobody waits for it, until `schedule` is through
  have hunwanted : Kept { t with mReconnectTimeout := false } deferred false :=
    { reconnects := h.reconnects
      scheduled := h.scheduled
      registered := h.registered
      lost := fun hmem => absurd hmem hlost
      armed := by simp }
  have hafter := hunwanted.schedule hfd htimer
  exact { hafter with armed := fun _ => hafter.armed rfl }

end Kept

/-! ### Runs -/

/-- The scheduler registers the socket and the timer. -/
def Input.Registers : Input → Prop
  | .schedule a | .runDeferred a => a.registerFd = true ∧ a.registerTimer = true
  | .cancel | .event _ | .expire | .destroy => True

instance (i : Input) : Decidable i.Registers := by
  cases i <;> unfold Input.Registers <;> infer_instance

/-- The timer finds a task that is unscheduled or disconnected, not one that an attempt left in
`StateError`, and the address is known; a task is not destroyed with a number in `mFd` that it
did not get from `::socket`. -/
def Unstuck (s : System) (calls : List Call) : Input → Prop
  | .runDeferred a => s.deferred.head? = some .reconnect → ∀ t, s.task = some t →
      t.Ready ∧ t.resolves a.getaddrinfo = true
  | .destroy => s.deferred = [] → ∀ t, s.task = some t → 0 ≤ t.mFd →
      ∃ r, Call.socket r ∈ calls
  | .schedule _ | .cancel | .event _ | .expire => True

namespace TcpConnectTask

theorem reconnects_notMem_schedule {t : TcpConnectTask} {a : Answers} (hfd : a.registerFd) :
    Call.reconnects ∉ (t.schedule a).2.2 := by
  rcases t.schedule_cases hfd with
    ⟨-, hs⟩ | ⟨-, -, hs⟩ | ⟨-, -, -, hs⟩ | ⟨-, -, -, hs⟩ | ⟨fd, -, -, -, hs | ⟨i, hs | ⟨-, hs⟩⟩⟩
  all_goals rw [hs]; simp

theorem reconnects_notMem_disconnect (t : TcpConnectTask) :
    Call.reconnects ∉ t.disconnect.2 := by
  by_cases hopen : t.Open
  · rw [disconnect_of_open hopen]
    split <;> split <;> simp
  · rw [disconnect_of_not_open hopen]
    simp

theorem reconnects_notMem_event (t : TcpConnectTask) (triggered : EventInterest) :
    Call.reconnects ∉ (t.event triggered).2.2 := by
  have hread : Call.reconnects ∉ t.read := by
    unfold read
    split <;> simp
  have hwrite : Call.reconnects ∉ t.write.2 := by
    unfold write
    split
    · simp
    · split <;> simp
  rcases t.event_cases triggered with
    ⟨-, hcase⟩ | ⟨reads, -, rfl | rfl, hcase | ⟨-, hcase⟩⟩ <;> rw [hcase]
  all_goals simp [hread, hwrite]

theorem reconnects_notMem_destroy (t : TcpConnectTask) : Call.reconnects ∉ t.destroy := by
  have hdisconnect := t.reconnects_notMem_disconnect
  unfold destroy
  split <;> simp [hdisconnect]

/-- On a task that can start an attempt and has an address, `schedule` reaches `::socket`
first. -/
theorem schedule_of_ready {t : TcpConnectTask} {a : Answers} (hfd : a.registerFd)
    (hnot : t.mIsScheduled = false) (hready : t.Ready)
    (hresolves : t.resolves a.getaddrinfo = true) :
    ∃ result rest, (t.schedule a).2.2 = .socket result :: rest := by
  rcases t.schedule_cases hfd with
    ⟨hscheduled, -⟩ | ⟨-, hbusy, -⟩ | ⟨-, -, hunknown, -⟩ | ⟨-, -, -, hs⟩ |
    ⟨fd, -, -, -, hs | ⟨i, hs | ⟨-, hs⟩⟩⟩
  · simp [hnot] at hscheduled
  · exact absurd hready hbusy
  · simp [hresolves] at hunknown
  all_goals exact ⟨_, _, by rw [hs]⟩

/-- Otherwise it does not. -/
theorem schedule_of_not_ready {t : TcpConnectTask} {a : Answers} (hfd : a.registerFd)
    (hnot : ¬(t.Ready ∧ t.resolves a.getaddrinfo = true)) : (t.schedule a).2.2 = [] := by
  rcases t.schedule_cases hfd with
    ⟨-, hs⟩ | ⟨-, -, hs⟩ | ⟨-, -, -, hs⟩ | ⟨-, hready, hres, -⟩ | ⟨fd, -, hready, hres, -⟩
  · rw [hs]
  · rw [hs]
  · rw [hs]
  · exact absurd ⟨hready, hres⟩ hnot
  · exact absurd ⟨hready, hres⟩ hnot

end TcpConnectTask

namespace System

variable {s : System} {calls : List Call}

/-- A step that keeps the task and makes its books. -/
theorem invariant_of_task {t : TcpConnectTask} {deferred : List Closure} {wanted : Bool}
    {more : List Call} (h : Invariant s calls) (hmore : Attempts more)
    (honce : deferred.count .disconnect ≤ 1) (hbooks : ∃ l, Books t (calls ++ more) l)
    (hkept : Kept t deferred wanted) :
    Invariant ⟨some t, deferred, wanted⟩ (calls ++ more) where
  attempts := h.attempts.append hmore
  once := honce
  gone := fun hnone => by cases hnone
  books := by
    rintro _ ⟨⟩
    exact hbooks
  kept := by
    rintro _ ⟨⟩
    exact hkept

/-- The next deferred callback keeps the invariant. -/
theorem invariant_run {t : TcpConnectTask} (h : Invariant s calls) (ht : s.task = some t)
    {c : Closure} {rest : List Closure} (hdeferred : s.deferred = c :: rest) {a : Answers}
    (hfd : a.registerFd) (htimer : a.registerTimer)
    (hok : c = .reconnect → t.Ready ∧ t.resolves a.getaddrinfo = true) :
    Invariant ⟨some (t.run a c).1, rest, s.wanted⟩ (calls ++ (t.run a c).2) := by
  obtain ⟨l, hbooks⟩ := h.books t ht
  have hkept := h.kept t ht
  have honce := h.once
  rw [hdeferred] at hkept honce
  rw [List.count_cons] at honce
  cases c with
  | disconnect =>
    have hone : .disconnect ∉ rest := by
      rw [beq_self_eq_true, if_pos rfl] at honce
      exact List.count_eq_zero.1 (by omega)
    exact invariant_of_task h (attempts_of_notMem t.reconnects_notMem_disconnect) (by omega)
      hbooks.disconnect (hkept.disconnect hone)
  | scheduleReconnect =>
    refine invariant_of_task h (attempts_of_notMem List.not_mem_nil) (by omega) ⟨l, ?_⟩
      (hkept.scheduleReconnect htimer)
    change Books _ (calls ++ []) l
    rw [List.append_nil]
    exact hbooks.congr rfl rfl
  | reconnect =>
    obtain ⟨hready, hresolves⟩ := hok rfl
    have hnot : t.mIsScheduled = false := by
      cases hscheduled : t.mIsScheduled with
      | false => rfl
      | true =>
        exact absurd (hkept.scheduled hscheduled).1 (TcpConnectTask.not_open_of_ready hready)
    have hbegun : Books { t with mReconnectTimeout := false } (calls ++ [.reconnects]) l := by
      refine hbooks.neutral ?_ ?_ (.inl rfl) <;> rfl
    have hattempt : Attempts (t.run a .reconnect).2 := by
      obtain ⟨result, rest, hsocket⟩ := TcpConnectTask.schedule_of_ready
        (t := { t with mReconnectTimeout := false }) hfd hnot hready hresolves
      have hnotMem := TcpConnectTask.reconnects_notMem_schedule
        (t := { t with mReconnectTimeout := false }) hfd
      intro before after hsplit
      cases before with
      | nil => exact ⟨result, rest, by rw [← hsocket]; exact (List.cons.inj hsplit).2.symm⟩
      | cons c before =>
        have htail := (List.cons.inj hsplit).2
        exact absurd (by rw [htail]; simp) hnotMem
    refine invariant_of_task h hattempt (by omega) ?_
      (hkept.reconnect hfd htimer hready)
    rw [TcpConnectTask.run, List.append_cons]
    exact hbegun.schedule hfd

theorem invariant_step (h : Invariant s calls) {i : Input} (hreg : i.Registers)
    (hok : Unstuck s calls i) : Invariant (s.step i).1 (calls ++ (s.step i).2) := by
  obtain ⟨task, deferred, wanted⟩ := s
  cases task with
  | none => simpa [step] using h
  | some t =>
    obtain ⟨l, hbooks⟩ := h.books t rfl
    have hkept := h.kept t rfl
    cases i with
    | schedule a =>
      exact invariant_of_task h
        (attempts_of_notMem
          (TcpConnectTask.reconnects_notMem_schedule hreg.1))
        h.once (hbooks.schedule hreg.1) (hkept.schedule hreg.1 hreg.2)
    | cancel =>
      refine invariant_of_task h (attempts_of_notMem List.not_mem_nil) h.once ⟨l, ?_⟩
        hkept.cancel
      change Books t.cancel (calls ++ []) l
      rw [List.append_nil]
      exact hbooks.congr (by simp) (by simp)
    | event triggered =>
      simp only [step]
      split
      · next hguard =>
        refine invariant_of_task h (attempts_of_notMem (t.reconnects_notMem_event triggered)) ?_
          (hbooks.event triggered) (hkept.event hguard.1 hguard.2 triggered)
        have hzero := List.count_eq_zero.2 hguard.2
        rw [List.count_append, hzero]
        rcases t.event_cases triggered with ⟨-, hcase⟩ | ⟨reads, -, -, hcase | ⟨-, hcase⟩⟩ <;>
          rw [hcase]
        · unfold TcpConnectTask.error
          split <;> simp
        · simp
        · simp
      · rwa [List.append_nil]
    | expire =>
      simp only [step]
      split
      · exact invariant_of_task h (attempts_of_notMem List.not_mem_nil) (by simpa using h.once)
          ⟨l, by rwa [List.append_nil]⟩ hkept.expire
      · rwa [List.append_nil]
    | runDeferred a =>
      cases deferred with
      | nil => simpa [step] using h
      | cons c rest =>
        exact invariant_run h rfl rfl hreg.1 hreg.2 fun hc => hok (by rw [hc]; rfl) t rfl
    | destroy =>
      simp only [step]
      split
      · next hempty =>
        exact {
          attempts := h.attempts.append (attempts_of_notMem t.reconnects_notMem_destroy)
          once := h.once
          gone := fun _ => hbooks.destroy fun hpos => hok hempty t rfl hpos
          books := fun _ hnone => by cases hnone
          kept := fun _ hnone => by cases hnone }
      · rwa [List.append_nil]

/-- A step that is not `Unstuck` breaks a promise. -/
theorem not_progress_step (h : Invariant s calls) {i : Input} (hreg : i.Registers)
    (hok : ¬Unstuck s calls i) : ¬Progress (s.step i).1 (calls ++ (s.step i).2) := by
  intro hprogress
  obtain ⟨task, deferred, wanted⟩ := s
  cases i with
  | schedule | cancel | event | expire => exact hok trivial
  | runDeferred a =>
    simp only [Unstuck, Classical.not_imp, not_forall] at hok
    obtain ⟨hhead, t, rfl, hnot⟩ := hok
    obtain ⟨rest, rfl⟩ : ∃ rest, deferred = .reconnect :: rest := by
      cases deferred with
      | nil => cases hhead
      | cons c rest =>
        cases hhead
        exact ⟨rest, rfl⟩
    have hcalls : (step ⟨some t, .reconnect :: rest, wanted⟩ (.runDeferred a)).2 =
        [.reconnects] := by
      exact congrArg (.reconnects :: ·) (TcpConnectTask.schedule_of_not_ready
        (t := { t with mReconnectTimeout := false }) hreg.1 hnot)
    rw [hcalls] at hprogress
    obtain ⟨result, later, hlater⟩ := hprogress.attempts calls [] rfl
    cases hlater
  | destroy =>
    simp only [Unstuck, Classical.not_imp, not_forall] at hok
    obtain ⟨rfl, t, rfl, hpos, hsocket⟩ := hok
    obtain ⟨l, hbooks⟩ := h.books t rfl
    have hfd : l.fd = none := by
      by_contra hfd
      exact hsocket (Ledger.socket_mem hbooks.ofCalls hfd)
    have hopen : ¬t.Open := fun hopen => by
      rw [(hbooks.fd_of_open hopen).1] at hfd
      cases hfd
    have hcalls : (step ⟨some t, [], wanted⟩ .destroy).2 = [.close t.mFd] := by
      simp [step, TcpConnectTask.destroy, TcpConnectTask.disconnect_of_not_open hopen, hpos]
    obtain ⟨l', hl', -⟩ := hprogress.ledger
    rw [hcalls, Ledger.ofCalls_append hbooks.ofCalls] at hl'
    simp [Ledger.step, hfd] at hl'

theorem invariant_start (mHost mPath : String) (onRead onWrite : Bool) (mFd : ℤ) :
    Invariant (start (.create mHost mPath true onRead onWrite mFd)) [] where
  attempts := attempts_of_notMem List.not_mem_nil
  once := by simp [start]
  gone := fun hnone => by cases hnone
  books := by
    rintro _ ⟨⟩
    exact ⟨⟨none, false⟩, rfl, rfl,
      .inr ⟨rfl, by simp [TcpConnectTask.Open, TcpConnectTask.create], .inr (by simp)⟩⟩
  kept := by
    rintro _ ⟨⟩
    exact {
      reconnects := rfl
      scheduled := fun h => by cases h
      registered := fun h => by cases h
      lost := fun h => by cases h
      armed := fun h => by cases h }

end System

/-- A task that shall reconnect, after a run. -/
def runOf (mHost mPath : String) (onRead onWrite : Bool) (mFd : ℤ) (is : List Input) :
    System × List Call :=
  Mealy.run System.step (.start (.create mHost mPath true onRead onWrite mFd)) is

/-- **Reconnecting.**  With a scheduler that registers what it is asked to, every state of a run
keeps the promises if and only if the timer never finds a task that a failed attempt left in
`StateError`, or one with a connection, and no task is destroyed with a number in `mFd` that is
not from `::socket`. -/
theorem progress_iff (mHost mPath : String) (onRead onWrite : Bool) (mFd : ℤ)
    {is : List Input} (his : ∀ i ∈ is, i.Registers) :
    (∀ js, js <+: is → Progress (runOf mHost mPath onRead onWrite mFd js).1
        (runOf mHost mPath onRead onWrite mFd js).2) ↔
      Mealy.Along Unstuck System.step
        (.start (.create mHost mPath true onRead onWrite mFd)) [] is := by
  have hgood : ∀ s out, Invariant s out → Progress s out := fun _ _ => Invariant.progress
  have hbad : ∀ s out i, Invariant s out → i.Registers → ¬Unstuck s out i →
      ¬Progress (s.step i).1 (out ++ (s.step i).2) := fun _ _ _ h => System.not_progress_step h
  have hstep : ∀ s out i, Invariant s out → i.Registers → Unstuck s out i →
      Invariant (s.step i).1 (out ++ (s.step i).2) := fun _ _ _ h => System.invariant_step h
  have hrule := Mealy.states_good_iff_along Input.Registers hgood hbad hstep
    (System.invariant_start mHost mPath onRead onWrite mFd) his
  simpa only [List.nil_append, runOf] using hrule

local instance fd_neZero : NeZero (2 ^ 31) := ⟨by decide⟩

/-- An attempt that ends like this; the address is known. -/
def Answers.ofConnect (connect : ConnectResult) : Answers :=
  ⟨some [.inet], some 3, connect, true, true⟩

/-- A connection that is lost and made again. -/
def lost : List Input :=
  [.schedule (.ofConnect .inProgress), .event .Write, .event .Hangup,
    .runDeferred (.ofConnect .failed), .runDeferred (.ofConnect .failed), .expire,
    .runDeferred (.ofConnect .established), .destroy]

theorem progress_lost :
    Progress (runOf "localhost" "" true true 0 lost).1 (runOf "localhost" "" true true 0 lost).2 :=
  (progress_iff "localhost" "" true true 0 (by decide)).2
    (by
      refine ⟨trivial, trivial, trivial, nofun, nofun, trivial, fun _ => ?_, fun _ => ?_, trivial⟩
      · rintro _ ⟨⟩
        exact ⟨.inr rfl, by decide⟩
      · rintro _ ⟨⟩ -
        exact ⟨some 3, by decide⟩)
    lost List.prefix_rfl

/-- The first attempt is refused: the timer is armed, but its callback does not reach
`::socket`. -/
theorem not_progress_refused :
    ¬Progress
      (runOf "localhost" "" true true 0 [.schedule (.ofConnect .failed), .expire,
        .runDeferred (.ofConnect .established)]).1
      (runOf "localhost" "" true true 0 [.schedule (.ofConnect .failed), .expire,
        .runDeferred (.ofConnect .established)]).2 := by
  intro h
  obtain ⟨result, rest, hrest⟩ := h.attempts [.socket (some 3)] [] (by decide)
  cases hrest

end SuplLpp.Socket
