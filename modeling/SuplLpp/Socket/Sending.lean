import SuplLpp.Socket.TcpClient

/-!
# What a stream sends

The write buffer and its flag stay with the stream when the connection is lost; the interests of
the next connection are set by the connect task, which knows neither.

* `Tails`: what is sent and what waits are, in order, tails of the writes on the connection;
* `Sends`: bytes that wait on a connection are registered for writing, and what is sent is of
  that form;
* `sends_run`: every run keeps it in which no connection begins with bytes that wait, and in
  which the write buffer does not discard a part of a write that is partly sent.
-/

namespace SuplLpp.Socket

open Sched (EventInterest epollToInterests)

/-! ### What is sent on a connection -/

/-- Each write gave a tail of its bytes, and `bytes` are these tails, in order. -/
def Tails (writes : List (List UInt8)) (bytes : List UInt8) : Prop :=
  ∃ tails, List.Forall₂ (· <:+ ·) tails writes ∧ bytes = tails.flatten

/-- The bytes sent so far end with a write, or what was left of it. -/
def Boundary (w : World) (s : Transcript) : Prop :=
  ∃ before after, s.writes = before ++ after ∧ Tails before s.sent ∧
    Tails after w.stream.mWriteBuffer.peek

/-- What a stream promises of its output. -/
structure Sends (w : World) (out : List Output) : Prop where
  registered : w.stream.mState = .connected → w.stream.mWriteBuffer.peek ≠ [] →
    w.RegisteredFor .Write
  /-- What is sent on the connection are tails of the writes on it, the last one not
  necessarily to its end; what is missing waits. -/
  tails : ∃ rest, Tails (Transcript.ofOutputs out).writes
      ((Transcript.ofOutputs out).sent ++ rest) ∧
    (w.stream.mState = .connected → rest = w.stream.mWriteBuffer.peek)

theorem tails_nil : Tails [] [] := ⟨[], .nil, rfl⟩

/-- One more write. -/
theorem Tails.snoc {writes : List (List UInt8)} {bytes tail data : List UInt8}
    (h : Tails writes bytes) (htail : tail <:+ data) :
    Tails (writes ++ [data]) (bytes ++ tail) := by
  obtain ⟨tails, hall, rfl⟩ := h
  exact ⟨tails ++ [tail], List.rel_append hall (.cons htail .nil), by simp⟩

theorem Tails.append {writes writes' : List (List UInt8)} {bytes bytes' : List UInt8}
    (h : Tails writes bytes) (h' : Tails writes' bytes') :
    Tails (writes ++ writes') (bytes ++ bytes') := by
  obtain ⟨tails, hall, rfl⟩ := h
  obtain ⟨tails', hall', rfl⟩ := h'
  exact ⟨tails ++ tails', List.rel_append hall hall', by simp⟩

/-- A tail of tails. -/
theorem Tails.drop {writes : List (List UInt8)} {bytes : List UInt8} (h : Tails writes bytes)
    (n : ℕ) : Tails writes (bytes.drop n) := by
  obtain ⟨tails, hall, rfl⟩ := h
  induction hall generalizing n with
  | nil => exact ⟨[], .nil, by simp⟩
  | @cons tail data tails writes htail _ ih =>
    obtain ⟨rest, hrest, heq⟩ := ih (n - tail.length)
    refine ⟨tail.drop n :: rest, .cons ((List.drop_suffix n tail).trans htail) hrest, ?_⟩
    rw [List.flatten_cons, List.flatten_cons, List.drop_append, heq]

/-! ### What does not touch the output -/

/-- The write buffer, its flag and the task stay, and the stream does not become connected. -/
structure Quiet (w w' : World) (s s' : Transcript) : Prop where
  buffer : w'.stream.mWriteBuffer = w.stream.mWriteBuffer
  flag : w'.stream.mWriteRegistered = w.stream.mWriteRegistered
  tasks : w'.tasks = w.tasks
  state : w'.stream.mState = .connected → w.stream.mState = .connected
  writes : s'.writes = s.writes
  sent : s'.sent = s.sent

namespace Quiet

variable {w w' w'' : World} {s s' s'' : Transcript}

theorem refl (w : World) (s : Transcript) : Quiet w w s s := ⟨rfl, rfl, rfl, id, rfl, rfl⟩

theorem trans (h : Quiet w w' s s') (h' : Quiet w' w'' s' s'') : Quiet w w'' s s'' :=
  ⟨h'.buffer.trans h.buffer, h'.flag.trans h.flag, h'.tasks.trans h.tasks,
    fun hs => h.state (h'.state hs), h'.writes.trans h.writes, h'.sent.trans h.sent⟩

theorem flushReadBuffer (w : World) (s : Transcript) :
    Quiet w w.flushReadBuffer.1 s (w.flushReadBuffer.2.foldl Transcript.step s) := by
  unfold World.flushReadBuffer
  split
  · exact refl w s
  · exact ⟨rfl, rfl, rfl, id, rfl, rfl⟩

theorem setError (w : World) (s : Transcript) :
    Quiet w w.setError.1 s (w.setError.2.foldl Transcript.step s) :=
  ⟨rfl, rfl, rfl, nofun, rfl, rfl⟩

theorem onDisconnected (w : World) (s : Transcript) :
    Quiet w w.onDisconnected.1 s (w.onDisconnected.2.foldl Transcript.step s) := by
  have hflush := flushReadBuffer w s
  unfold World.onDisconnected
  split
  · rw [List.foldl_append]
    exact hflush.trans ⟨rfl, rfl, rfl, nofun, rfl, rfl⟩
  · rw [List.foldl_append]
    exact hflush.trans ⟨rfl, rfl, rfl, nofun, rfl, rfl⟩

theorem onRawRead (w : World) (s : Transcript) (data : List UInt8) :
    Quiet w (w.onRawRead data).1 s ((w.onRawRead data).2.foldl Transcript.step s) := by
  have hbuffer : Quiet w (w.insertRead data) s s := ⟨rfl, rfl, rfl, id, rfl, rfl⟩
  unfold World.onRawRead
  split
  · exact hbuffer.trans (flushReadBuffer _ s)
  · exact hbuffer

theorem onRead (w : World) (s : Transcript) (r : ReadResult) :
    Quiet w (w.onRead r).1 s ((w.onRead r).2.foldl Transcript.step s) := by
  cases r with
  | failed => exact setError w s
  | upTo n =>
    have htaken : Quiet w (w.dropRead (World.readSize n)) s s := ⟨rfl, rfl, rfl, id, rfl, rfl⟩
    simp only [World.onRead]
    split
    · split
      · exact flushReadBuffer w s
      · exact refl w s
    · exact htaken.trans (onRawRead _ s _)

end Quiet

/-- The calls that neither open a connection nor write. -/
def Call.IsQuiet (c : Call) : Prop :=
  (∀ fd, c ≠ .socket (some fd)) ∧ c ≠ .onConnected ∧ c ≠ .onWrite

theorem quiet_call {c : Call} (hc : c.IsQuiet) (k : IoResults) (w : World) (s : Transcript) :
    Quiet w (w.call k c).1 s ((w.call k c).2.foldl Transcript.step s) := by
  cases c with
  | socket r =>
    cases r with
    | none => exact .refl w s
    | some fd => exact absurd rfl (hc.1 fd)
  | onConnected => exact absurd rfl hc.2.1
  | onWrite => exact absurd rfl hc.2.2
  | onDisconnected => exact .onDisconnected w s
  | onRead => exact .onRead w s k.read
  | close | reconnects => exact .refl w s

theorem quiet_calls {cs : List Call} (hcs : ∀ c ∈ cs, c.IsQuiet) (k : IoResults) (w : World)
    (s : Transcript) :
    Quiet w (w.calls k cs).1 s ((w.calls k cs).2.foldl Transcript.step s) := by
  induction cs generalizing w s with
  | nil => exact .refl w s
  | cons c cs ih =>
    obtain ⟨hc, hcs⟩ := List.forall_mem_cons.1 hcs
    rw [World.calls, Mealy.run_cons, List.foldl_append]
    exact (quiet_call hc k w s).trans (ih hcs _ _)

/-- After the end of the connection was reported, the stream is not connected. -/
theorem state_of_onDisconnected {cs : List Call} (hcs : ∀ c ∈ cs, c.IsQuiet) (k : IoResults)
    (w : World) (hmem : Call.onDisconnected ∈ cs) :
    (w.calls k cs).1.stream.mState ≠ .connected := by
  induction cs generalizing w with
  | nil => cases hmem
  | cons c cs ih =>
    obtain ⟨hc, htail⟩ := List.forall_mem_cons.1 hcs
    rw [World.calls, Mealy.run_cons]
    by_cases hrest : Call.onDisconnected ∈ cs
    · exact ih htail _ hrest
    · obtain rfl : Call.onDisconnected = c := by simpa [hrest] using hmem
      intro hstate
      have hafter := (quiet_calls htail k (w.call k .onDisconnected).1 .empty).state hstate
      simp only [World.call, World.onDisconnected] at hafter
      split at hafter <;> cases hafter

namespace TcpConnectTask

theorem isQuiet_disconnect (t : TcpConnectTask) : ∀ c ∈ t.disconnect.2, c.IsQuiet := by
  by_cases hopen : t.Open
  · rw [disconnect_of_open hopen]
    simp only [List.mem_append]
    rintro c (hc | hc)
    all_goals
      split at hc
      · rw [List.mem_singleton.1 hc]
        exact ⟨nofun, nofun, nofun⟩
      · cases hc
  · rw [disconnect_of_not_open hopen]
    exact nofun

theorem isQuiet_destroy (t : TcpConnectTask) : ∀ c ∈ t.destroy, c.IsQuiet := by
  intro c hc
  rcases List.mem_append.1 hc with hc | hc
  · exact t.isQuiet_disconnect c hc
  · split at hc
    · rw [List.mem_singleton.1 hc]
      exact ⟨nofun, nofun, nofun⟩
    · cases hc

theorem onDisconnected_mem_disconnect {t : TcpConnectTask} (h : t.mState = .connected) :
    Call.onDisconnected ∈ t.disconnect.2 := by
  rw [disconnect_of_open (.inr h), if_pos h]
  simp

end TcpConnectTask

/-! ### What a stream keeps -/

/-- What holds of the buffer, its flag and the task, whatever the state of the stream is. -/
structure SendCore (w : World) (s : Transcript) : Prop where
  fits : w.stream.mWriteBuffer.Fits
  bound : 0 < w.stream.mWriteBuffer.mMaxSize
  flag : w.stream.mWriteRegistered = true ↔ w.stream.mWriteBuffer.peek ≠ []
  sound : ∀ t, w.tasks.task = some t → t.Sound
  connecting : ∀ t, w.tasks.task = some t → t.mState = .connecting →
    s.writes = [] ∧ s.sent = []
  waiting : ∀ t, w.tasks.task = some t → t.mState = .connected →
    Tails s.writes (s.sent ++ w.stream.mWriteBuffer.peek) ∧
      (w.stream.mWriteBuffer.peek ≠ [] → ∃ i, t.mEvent = some i ∧ i.meets .Write = true)
  tails : ∃ rest, Tails s.writes (s.sent ++ rest)

/-- The invariant: besides, only a stream with a connected task is connected. -/
structure SendInvariant (w : World) (s : Transcript) : Prop extends SendCore w s where
  connected : w.stream.mState = .connected →
    ∃ t, w.tasks.task = some t ∧ t.mState = .connected

theorem SendInvariant.sends {w : World} {out : List Output}
    (h : SendInvariant w (.ofOutputs out)) : Sends w out where
  registered hstate hpeek := by
    obtain ⟨t, ht, hconnected⟩ := h.connected hstate
    obtain ⟨i, hi, hwrite⟩ := (h.waiting t ht hconnected).2 hpeek
    exact ⟨t, i, ht, hi, hwrite⟩
  tails := by
    by_cases hstate : w.stream.mState = .connected
    · obtain ⟨t, ht, hconnected⟩ := h.connected hstate
      exact ⟨_, (h.waiting t ht hconnected).1, fun _ => rfl⟩
    · obtain ⟨rest, hrest⟩ := h.tails
      exact ⟨rest, hrest, fun hc => absurd hc hstate⟩

namespace SendCore

variable {w w' : World} {s s' : Transcript}

theorem quiet (h : SendCore w s) (hq : Quiet w w' s s') : SendCore w' s' where
  fits := by rw [hq.buffer]; exact h.fits
  bound := by rw [hq.buffer]; exact h.bound
  flag := by rw [hq.buffer, hq.flag]; exact h.flag
  sound := by rw [hq.tasks]; exact h.sound
  connecting := by rw [hq.tasks, hq.writes, hq.sent]; exact h.connecting
  waiting := by rw [hq.tasks, hq.buffer, hq.writes, hq.sent]; exact h.waiting
  tails := by rw [hq.writes, hq.sent]; exact h.tails

/-- Another task, or none. -/
theorem withTasks (h : SendCore w s) {tasks : System}
    (hsound : ∀ t, tasks.task = some t → t.Sound)
    (hconnecting : ∀ t, tasks.task = some t → t.mState = .connecting →
      s.writes = [] ∧ s.sent = [])
    (hwaiting : ∀ t, tasks.task = some t → t.mState = .connected →
      Tails s.writes (s.sent ++ w.stream.mWriteBuffer.peek) ∧
        (w.stream.mWriteBuffer.peek ≠ [] → ∃ i, t.mEvent = some i ∧ i.meets .Write = true)) :
    SendCore { w with tasks } s where
  fits := h.fits
  bound := h.bound
  flag := h.flag
  sound := hsound
  connecting := hconnecting
  waiting := hwaiting
  tails := h.tails

/-- A task without a connection, or none. -/
theorem withoutConnection (h : SendCore w s) {tasks : System}
    (htask : ∀ t, tasks.task = some t → t.Sound ∧ ¬t.Open) : SendCore { w with tasks } s :=
  h.withTasks (fun t ht => (htask t ht).1)
    (fun t ht hstate => absurd (.inl hstate) (htask t ht).2)
    (fun t ht hstate => absurd (.inr hstate) (htask t ht).2)

/-- The same task, but for its timer. -/
theorem withSameTask (h : SendCore w s) {t t' : TcpConnectTask} (ht : w.tasks.task = some t)
    {tasks : System} (ht' : tasks.task = some t') (hsound : t'.Sound)
    (hstate : t'.mState = t.mState) (hevent : t'.mEvent = t.mEvent) :
    SendCore { w with tasks } s := by
  refine h.withTasks (fun u hu => ?_) (fun u hu => ?_) (fun u hu => ?_)
  all_goals
    rw [ht'] at hu
    cases hu
  · exact hsound
  · rw [hstate]
    exact h.connecting t ht
  · rw [hstate, hevent]
    exact h.waiting t ht

/-- A new socket; if it is connected at once, nothing may wait. -/
theorem opened (h : SendCore w s) {t : TcpConnectTask} {tasks : System}
    (htask : tasks.task = some t) (hsound : t.Sound)
    (hfresh : t.mState = .connected → w.stream.mWriteBuffer.peek = []) (receiving : Receiving) :
    SendCore { w with tasks, receiving } .empty where
  fits := h.fits
  bound := h.bound
  flag := h.flag
  sound := by
    rintro u hu
    rw [htask] at hu
    cases hu
    exact hsound
  connecting := fun _ _ _ => ⟨rfl, rfl⟩
  waiting := by
    intro u hu hconnected
    rw [htask] at hu
    cases hu
    have hpeek := hfresh hconnected
    exact ⟨by rw [hpeek]; exact tails_nil, fun hne => absurd hpeek hne⟩
  tails := ⟨[], tails_nil⟩

end SendCore

namespace SendInvariant

variable {w w' : World} {s s' : Transcript}

theorem quiet (h : SendInvariant w s) (hq : Quiet w w' s s') : SendInvariant w' s' where
  toSendCore := h.toSendCore.quiet hq
  connected hstate := by
    rw [hq.tasks]
    exact h.connected (hq.state hstate)

/-- Calls that neither open a connection nor write. -/
theorem quietCalls (h : SendInvariant w s) {cs : List Call} (hcs : ∀ c ∈ cs, c.IsQuiet)
    (k : IoResults) :
    SendInvariant (w.calls k cs).1 ((w.calls k cs).2.foldl Transcript.step s) :=
  h.quiet (quiet_calls hcs k w s)

/-- The same task, but for its timer and the queue. -/
theorem withSameTask (h : SendInvariant w s) {t t' : TcpConnectTask}
    (ht : w.tasks.task = some t) {tasks : System} (ht' : tasks.task = some t')
    (hsound : t'.Sound) (hstate : t'.mState = t.mState) (hevent : t'.mEvent = t.mEvent) :
    SendInvariant { w with tasks } s where
  toSendCore := h.toSendCore.withSameTask ht ht' hsound hstate hevent
  connected hconnected := by
    obtain ⟨u, hu, hustate⟩ := h.connected hconnected
    rw [ht] at hu
    cases hu
    exact ⟨t', ht', hstate.trans hustate⟩

/-- The connection of the task ends: `disconnect` or the destructor. -/
theorem disconnect (h : SendInvariant w s) {t : TcpConnectTask} (ht : w.tasks.task = some t)
    {tasks : System} (htasks : ∀ u, tasks.task = some u → u.Sound ∧ ¬u.Open)
    {cs : List Call} (hcs : ∀ c ∈ cs, c.IsQuiet)
    (hmem : t.mState = .connected → Call.onDisconnected ∈ cs) :
    SendInvariant (World.calls World.noIo { w with tasks } cs).1
      ((World.calls World.noIo { w with tasks } cs).2.foldl Transcript.step s) where
  toSendCore := (h.toSendCore.withoutConnection htasks).quiet (quiet_calls hcs _ _ s)
  connected hstate := by
    have hquiet := quiet_calls hcs World.noIo { w with tasks } s
    obtain ⟨u, hu, hconnected⟩ := h.connected (hquiet.state hstate)
    rw [ht] at hu
    cases hu
    exact absurd hstate (state_of_onDisconnected hcs _ _ (hmem hconnected))

/-- The stream is told of its connection. -/
theorem onConnected (h : SendInvariant w s) {t : TcpConnectTask} (ht : w.tasks.task = some t)
    (hconnected : t.mState = .connected) (k : IoResults) :
    SendInvariant (w.call k .onConnected).1
      ((w.call k .onConnected).2.foldl Transcript.step s) where
  fits := h.fits
  bound := h.bound
  flag := h.flag
  sound := h.sound
  connecting := h.connecting
  waiting := h.waiting
  tails := h.tails
  connected _ := ⟨t, ht, hconnected⟩

/-- An attempt, on a task that the stream has. -/
theorem schedule (h : SendInvariant w s) {t : TcpConnectTask} (ht : w.tasks.task = some t)
    {a : Answers} (hfd : a.registerFd)
    (hfresh : a.connect = .established → w.stream.mWriteBuffer.peek = []) {tasks : System}
    (htasks : tasks.task = some (t.schedule a).2.1) :
    SendInvariant (World.calls World.noIo { w with tasks } (t.schedule a).2.2).1
      ((World.calls World.noIo { w with tasks } (t.schedule a).2.2).2.foldl
        Transcript.step s) := by
  have hsound := (h.sound t ht).schedule hfd
  have hnone : ∀ u : TcpConnectTask, ¬u.Open → u.Sound → tasks.task = some u → t.Ready →
      SendInvariant { w with tasks } s := fun u hopen hu htask hready =>
    { toSendCore := h.toSendCore.withoutConnection fun v hv => by
        rw [htask] at hv
        cases hv
        exact ⟨hu, hopen⟩
      connected := fun hstate => by
        obtain ⟨v, hv, hconnected⟩ := h.connected hstate
        rw [ht] at hv
        cases hv
        exact absurd (.inr hconnected) (TcpConnectTask.not_open_of_ready hready) }
  rcases t.schedule_cases hfd with
    ⟨-, hs⟩ | ⟨-, -, hs⟩ | ⟨-, hready, -, hs⟩ | ⟨-, hready, -, hs⟩ |
    ⟨fd, -, hready, -, hs | ⟨i, hs | ⟨hest, hs⟩⟩⟩ <;> rw [hs] at htasks hsound ⊢
  · exact h.withSameTask ht htasks hsound rfl rfl
  · exact h.withSameTask ht htasks hsound rfl rfl
  · exact hnone _ (by simp [TcpConnectTask.Open]) hsound htasks hready
  · exact (hnone _ (by simp [TcpConnectTask.Open]) hsound htasks hready).quiet
      ⟨rfl, rfl, rfl, id, rfl, rfl⟩
  all_goals
    have hnot : w.stream.mState ≠ .connected := fun hstate => by
      obtain ⟨v, hv, hconnected⟩ := h.connected hstate
      rw [ht] at hv
      cases hv
      exact TcpConnectTask.not_open_of_ready hready (.inr hconnected)
  · exact { toSendCore := h.toSendCore.opened htasks hsound (fun hstate => by cases hstate) _
            connected := fun hstate => absurd hstate hnot }
  · exact { toSendCore := h.toSendCore.opened htasks hsound (fun hstate => by cases hstate) _
            connected := fun hstate => absurd hstate hnot }
  · have hopened := h.toSendCore.opened htasks hsound (fun _ => hfresh hest) ⟨[], false⟩
    exact { hopened with connected := fun _ => ⟨_, htasks, rfl⟩ }

end SendInvariant

/-! ### Writing -/

/-- What the loop of `on_write` does: it sends from the front of what waits, and is left by
`return` with bytes that wait. -/
theorem writeLoop_spec {b : WriteBuffer} (h : b.Fits) (rs : List WriteResult) (s : Transcript) :
    ∃ bytes, b.peek = bytes ++ (World.writeLoop b rs).1.peek ∧
      (World.writeLoop b rs).1.Fits ∧
      (World.writeLoop b rs).1.mMaxSize = b.mMaxSize ∧
      (World.writeLoop b rs).2.1.foldl Transcript.step s = { s with sent := s.sent ++ bytes } ∧
      ((World.writeLoop b rs).2.2 = true → (World.writeLoop b rs).1.peek ≠ []) := by
  induction rs generalizing b s with
  | nil => exact ⟨[], rfl, h, rfl, by simp [World.writeLoop], by simp [World.writeLoop]⟩
  | cons r rs ih =>
    by_cases hempty : b.empty = true
    · exact ⟨[], by simp [World.writeLoop, hempty], by simpa [World.writeLoop, hempty] using h,
        by simp [World.writeLoop, hempty], by simp [World.writeLoop, hempty],
        by simp [World.writeLoop, hempty]⟩
    · have hpeek : b.peek ≠ [] := fun hnil => hempty (b.empty_iff.2 hnil)
      cases r with
      | wouldBlock =>
        exact ⟨[], by simp [World.writeLoop, hempty], by simpa [World.writeLoop, hempty] using h,
          by simp [World.writeLoop, hempty], by simp [World.writeLoop, hempty],
          by simp [World.writeLoop, hempty]⟩
      | failed =>
        exact ⟨[], by simp [World.writeLoop, hempty], by simpa [World.writeLoop, hempty] using h,
          by simp [World.writeLoop, hempty], by simp [World.writeLoop, hempty],
          fun _ => by simpa [World.writeLoop, hempty] using hpeek⟩
      | accepts n =>
        obtain ⟨bytes, hbytes, hfits, hmax, hfold, hleft⟩ :=
          ih (h.consume (min n b.peek.length)) { s with sent := s.sent ++ b.peek.take n }
        have hcut : b.peek.drop (min n b.peek.length) = b.peek.drop n := by
          rcases le_total n b.peek.length with hle | hle
          · rw [min_eq_left hle]
          · rw [min_eq_right hle, List.drop_length, List.drop_eq_nil_of_le hle]
        rw [WriteBuffer.peek_consume, hcut] at hbytes
        refine ⟨b.peek.take n ++ bytes, ?_, ?_, ?_, ?_, ?_⟩
        all_goals simp only [World.writeLoop, hempty, Bool.false_eq_true, if_false]
        · rw [List.append_assoc, ← hbytes, List.take_append_drop]
        · exact hfits
        · exact hmax.trans (b.mMaxSize_consume _)
        · rw [List.foldl_cons, Transcript.step, hfold, List.append_assoc]
        · exact hleft

namespace SendInvariant

variable {w : World} {s : Transcript}

/-- The interests of the one task change. -/
theorem task_updateInterests {t : TcpConnectTask} (ht : w.tasks.task = some t)
    (i : EventInterest) : (w.updateInterests i).tasks.task = some (t.updateInterests i) := by
  rw [World.updateInterests, ht, Option.map_some]

/-- `on_write`, on a task that is connected. -/
theorem onWrite (h : SendInvariant w s) {t : TcpConnectTask} (ht : w.tasks.task = some t)
    (hconnected : t.mState = .connected) (rs : List WriteResult) :
    SendInvariant (w.onWrite rs).1 ((w.onWrite rs).2.foldl Transcript.step s) := by
  obtain ⟨bytes, hbytes, hfits, hmax, hfold, hleft⟩ := writeLoop_spec h.fits rs s
  obtain ⟨htails, hregistered⟩ := h.waiting t ht hconnected
  generalize hr : World.writeLoop w.stream.mWriteBuffer rs = r at hbytes hfits hmax hfold hleft
  have htails' : Tails s.writes (s.sent ++ bytes ++ r.1.peek) := by
    rwa [List.append_assoc, ← hbytes]
  -- the flag can be set only with bytes that waited, and stays set as long as some do
  by_cases hdone : (!r.2.2 && r.1.empty && w.stream.mWriteRegistered) = true
  · have hempty : r.1.peek = [] := r.1.empty_iff.1 (by
      simp only [Bool.and_eq_true] at hdone
      exact hdone.1.2)
    have hout : w.onWrite rs =
        ({ (({ w with stream := { w.stream with mWriteBuffer := r.1 } } : World).updateInterests
            World.readOnly) with
          stream := { w.stream with mWriteBuffer := r.1, mWriteRegistered := false } }, r.2.1) := by
      simp only [World.onWrite, hr, hdone, if_true]
      rfl
    rw [hout, hfold]
    have htask := task_updateInterests
      (w := { w with stream := { w.stream with mWriteBuffer := r.1 } }) ht World.readOnly
    exact {
      fits := hfits
      bound := by rw [hmax]; exact h.bound
      flag := by simp [hempty]
      sound := fun u hu => by
        rw [htask] at hu
        cases hu
        exact (h.sound t ht).updateInterests _
      connecting := fun u hu hstate => by
        rw [htask] at hu
        cases hu
        simp [hconnected] at hstate
      waiting := fun u hu _ => ⟨htails', fun hne => absurd hempty hne⟩
      tails := ⟨_, htails'⟩
      connected := fun _ => ⟨_, htask, by simp [hconnected]⟩ }
  · have hout : w.onWrite rs =
        ({ w with stream := { w.stream with mWriteBuffer := r.1 } }, r.2.1) := by
      simp only [World.onWrite, hr, hdone, if_false, Bool.false_eq_true]
    rw [hout, hfold]
    have hflag : w.stream.mWriteRegistered = true ↔ r.1.peek ≠ [] := by
      constructor
      · intro hset hempty
        have hreturn : r.2.2 = true := by
          by_contra hreturn
          exact hdone (by simp [hreturn, r.1.empty_iff.2 hempty, hset])
        exact hleft hreturn hempty
      · intro hne
        refine h.flag.2 ?_
        rw [hbytes]
        simp [hne]
    exact {
      fits := hfits
      bound := by rw [hmax]; exact h.bound
      flag := hflag
      sound := h.sound
      connecting := fun u hu hstate => by
        rw [ht] at hu
        cases hu
        simp [hconnected] at hstate
      waiting := fun u hu _ => by
        rw [ht] at hu
        cases hu
        refine ⟨htails', fun hne => hregistered ?_⟩
        rw [hbytes]
        simp only [ne_eq, List.append_eq_nil_iff, not_and]
        exact fun _ => hne
      tails := ⟨_, htails'⟩
      connected := fun _ => ⟨t, ht, hconnected⟩ }

/-- The end of `write`; what is kept of the new bytes, behind what was sent of them, is a tail
of the write. -/
theorem enqueue (h : SendInvariant w s) {t : TcpConnectTask} (ht : w.tasks.task = some t)
    (hconnected : t.mState = .connected) {data sent rest : List UInt8}
    (hrest : w.stream.mWriteBuffer.peek ++ rest ≠ [])
    (htails : Tails (s.writes ++ [data])
      (s.sent ++ sent ++ (w.stream.mWriteBuffer.peek ++ rest).rtake
        w.stream.mWriteBuffer.mMaxSize)) :
    SendInvariant (w.enqueue rest)
      { s with writes := s.writes ++ [data], sent := s.sent ++ sent } := by
  have hpeek := WriteBuffer.peek_enqueue h.fits rest
  have hwaits : (w.stream.mWriteBuffer.enqueue rest).peek ≠ [] := by
    rw [hpeek, ← List.length_pos_iff, List.rtake, List.length_drop]
    have hpos := List.length_pos_iff.2 hrest
    have hbound := h.bound
    omega
  rw [← hpeek] at htails
  obtain ⟨-, hscheduler, hevent⟩ := (h.sound t ht).scheduled (.inr hconnected)
  cases hflag : w.stream.mWriteRegistered with
  | true =>
    obtain ⟨-, hregistered⟩ := h.waiting t ht hconnected
    have hout : w.enqueue rest = { w with stream :=
        { w.stream with mWriteBuffer := w.stream.mWriteBuffer.enqueue rest } } := by
      simp only [World.enqueue, hflag, if_true]
    rw [hout]
    exact {
      fits := h.fits.enqueue rest
      bound := by rw [WriteBuffer.mMaxSize_enqueue]; exact h.bound
      flag := iff_of_true hflag hwaits
      sound := h.sound
      connecting := fun u hu hstate => by
        rw [ht] at hu
        cases hu
        simp [hconnected] at hstate
      waiting := fun u hu _ => by
        rw [ht] at hu
        cases hu
        exact ⟨htails, fun _ => hregistered (h.flag.1 hflag)⟩
      tails := ⟨_, htails⟩
      connected := fun _ => ⟨t, ht, hconnected⟩ }
  | false =>
    have hout : w.enqueue rest =
        { (w.updateInterests World.readWrite) with stream :=
          { w.stream with
            mWriteBuffer := w.stream.mWriteBuffer.enqueue rest, mWriteRegistered := true } } := by
      simp only [World.enqueue, hflag, Bool.false_eq_true, if_false]
      rfl
    have htask := task_updateInterests ht World.readWrite
    rw [hout]
    exact {
      fits := h.fits.enqueue rest
      bound := by rw [WriteBuffer.mMaxSize_enqueue]; exact h.bound
      flag := iff_of_true rfl hwaits
      sound := fun u hu => by
        rw [htask] at hu
        cases hu
        exact (h.sound t ht).updateInterests _
      connecting := fun u hu hstate => by
        rw [htask] at hu
        cases hu
        simp [hconnected] at hstate
      waiting := fun u hu _ => by
        rw [htask] at hu
        cases hu
        refine ⟨htails, fun _ => ⟨World.readWrite, ?_, by decide⟩⟩
        obtain ⟨i, hi⟩ := Option.isSome_iff_exists.1 hevent
        simp [TcpConnectTask.updateInterests, hscheduler, hi]
      tails := ⟨_, htails⟩
      connected := fun _ => ⟨_, htask, by simp [hconnected]⟩ }

/-- A write that leaves nothing behind: it was sent, or given up. -/
theorem written (h : SendInvariant w s) {t : TcpConnectTask} (ht : w.tasks.task = some t)
    (hconnected : t.mState = .connected) (hpeek : w.stream.mWriteBuffer.peek = [])
    {data sent : List UInt8} (hsent : sent <:+ data) :
    SendInvariant w { s with writes := s.writes ++ [data], sent := s.sent ++ sent } := by
  have htails : Tails (s.writes ++ [data]) (s.sent ++ sent ++ w.stream.mWriteBuffer.peek) := by
    have hall := (h.waiting t ht hconnected).1
    rw [hpeek, List.append_nil] at hall ⊢
    exact hall.snoc hsent
  exact { h with
    connecting := fun u hu hstate => by
      rw [ht] at hu
      cases hu
      simp [hconnected] at hstate
    waiting := fun u hu hu' => ⟨htails, (h.waiting u hu hu').2⟩
    tails := ⟨_, htails⟩ }

end SendInvariant

/-! ### Runs -/

/-- Does the step make a connection? -/
def Establishes (w : World) : StreamInput → Prop
  | .schedule a _ => a.connect = .established
  | .runDeferred a => a.connect = .established ∧ w.tasks.deferred.head? = some .reconnect
  | .event events _ => World.errs events = false ∧
      (epollToInterests events).meets .Write = true ∧
      ∃ t, w.tasks.task = some t ∧ t.mState = .connecting
  | _ => False

/-- A connection begins with nothing that waits.  When the write buffer is full, what it
discards does not belong to a write that is partly sent. -/
def Clean (w : World) (out : List Output) (i : StreamInput) : Prop :=
  (Establishes w i → w.stream.mWriteBuffer.peek = []) ∧
    ∀ data r, i = .write data r →
      w.stream.mWriteBuffer.mMaxSize < w.stream.mWriteBuffer.peek.length + data.length →
      Boundary w (.ofOutputs out) ∧
        ∀ n, r = .accepts n → w.stream.mWriteBuffer.peek = [] → 0 < n →
          data.length ≤ n + w.stream.mWriteBuffer.mMaxSize

namespace World

variable {w : World} {s : Transcript}

/-- `write` keeps the invariant. -/
theorem sendInvariant_write (h : SendInvariant w s) (data : List UInt8) (r : WriteResult)
    (hclean : w.stream.mWriteBuffer.mMaxSize <
        w.stream.mWriteBuffer.peek.length + data.length →
      Boundary w s ∧ ∀ n, r = .accepts n → w.stream.mWriteBuffer.peek = [] → 0 < n →
        data.length ≤ n + w.stream.mWriteBuffer.mMaxSize) :
    SendInvariant (w.write data r).1 ((w.write data r).2.foldl Transcript.step s) := by
  by_cases hguard : w.tasks.task.isNone ∨ w.stream.mState ≠ .connected
  · rw [write, if_pos hguard]
    exact h
  obtain ⟨t, ht, hconnected⟩ := h.connected (not_ne_iff.1 (not_or.1 hguard).2)
  have hall := (h.waiting t ht hconnected).1
  rw [write, if_neg hguard]
  by_cases hempty : w.stream.mWriteBuffer.empty = true
  · have hpeek : w.stream.mWriteBuffer.peek = [] := w.stream.mWriteBuffer.empty_iff.1 hempty
    rw [hpeek, List.append_nil] at hall
    rw [if_neg (by simp [hempty])]
    have hgone : SendInvariant w { s with writes := s.writes ++ [data] } := by
      simpa using h.written ht hconnected hpeek (List.nil_suffix (l := data))
    cases r with
    | failed => exact hgone
    | wouldBlock =>
      simp only [writeNow]
      split
      · exact hgone
      · next hdata =>
        have hqueued : SendInvariant (w.enqueue data)
            { s with writes := s.writes ++ [data], sent := s.sent ++ [] } := by
          refine h.enqueue ht hconnected (by simpa [hpeek] using hdata) ?_
          rw [List.append_nil, hpeek, List.nil_append]
          exact hall.snoc (List.drop_suffix _ _)
        rwa [List.append_nil] at hqueued
    | accepts n =>
      simp only [writeNow]
      split
      · exact h.written ht hconnected hpeek (List.suffix_refl data)
      · next hlong =>
        refine h.enqueue ht hconnected (by simpa [hpeek] using hlong) ?_
        rw [hpeek, List.nil_append]
        rcases Nat.eq_zero_or_pos n with rfl | hpos
        · rw [List.take_zero, List.append_nil, List.drop_zero]
          exact hall.snoc (List.drop_suffix _ _)
        · -- a part is sent, so that the rest must fit
          have hfits : (data.drop n).rtake w.stream.mWriteBuffer.mMaxSize = data.drop n := by
            have hlength : data.length - n - w.stream.mWriteBuffer.mMaxSize = 0 := by
              by_cases hover : w.stream.mWriteBuffer.mMaxSize <
                  w.stream.mWriteBuffer.peek.length + data.length
              · have := (hclean hover).2 n rfl hpeek hpos
                omega
              · rw [hpeek, List.length_nil] at hover
                omega
            rw [List.rtake, List.length_drop, hlength, List.drop_zero]
          rw [hfits, List.append_assoc, List.take_append_drop]
          exact hall.snoc (List.suffix_refl data)
  · have hpeek : w.stream.mWriteBuffer.peek ≠ [] := fun hnil =>
      hempty (w.stream.mWriteBuffer.empty_iff.2 hnil)
    rw [if_pos (by simp [hempty])]
    have hqueued : SendInvariant (w.enqueue data)
        { s with writes := s.writes ++ [data], sent := s.sent ++ [] } := by
      refine h.enqueue ht hconnected (by simp [hpeek]) ?_
      rw [List.append_nil]
      by_cases hover : w.stream.mWriteBuffer.mMaxSize <
          w.stream.mWriteBuffer.peek.length + data.length
      · -- the bytes that are discarded are of writes of which nothing is sent
        obtain ⟨before, after, hwrites, hbefore, hafter⟩ := (hclean hover).1
        rw [hwrites, List.append_assoc]
        exact hbefore.append ((hafter.snoc (List.suffix_refl data)).drop _)
      · have hfits : (w.stream.mWriteBuffer.peek ++ data).rtake w.stream.mWriteBuffer.mMaxSize =
            w.stream.mWriteBuffer.peek ++ data := by
          rw [List.rtake, List.length_append, Nat.sub_eq_zero_of_le (by omega), List.drop_zero]
        rw [hfits, ← List.append_assoc]
        exact hall.snoc (List.suffix_refl data)
    rwa [List.append_nil] at hqueued

/-- The destructor of the task keeps the invariant, and the stream is not connected then. -/
theorem sendInvariant_destroy (h : SendInvariant w s) (hdeferred : w.tasks.deferred = []) :
    SendInvariant (w.runTask noIo .destroy).1
      ((w.runTask noIo .destroy).2.foldl Transcript.step s) ∧
    (w.runTask noIo .destroy).1.tasks.task = none ∧
    (w.runTask noIo .destroy).1.stream.mWriteBuffer = w.stream.mWriteBuffer := by
  cases ht : w.tasks.task with
  | none =>
    rw [runTask, System.step_of_none ht]
    exact ⟨h, ht, rfl⟩
  | some t =>
    have hquiet := quiet_calls t.isQuiet_destroy noIo
      { w with tasks := { w.tasks with task := none } } s
    rw [runTask, System.step_destroy ht hdeferred]
    refine ⟨h.disconnect ht (fun u hu => by cases hu) t.isQuiet_destroy fun hconnected => ?_,
      by rw [hquiet.tasks], hquiet.buffer⟩
    exact List.mem_append_left _ (TcpConnectTask.onDisconnected_mem_disconnect hconnected)

/-- A new task takes the place of the old one. -/
theorem sendInvariant_resetTask (h : SendInvariant w s) (hdeferred : w.tasks.deferred = [])
    (mFd : ℤ) :
    SendInvariant (w.resetTask mFd).1 ((w.resetTask mFd).2.foldl Transcript.step s) := by
  obtain ⟨hold, hnone, -⟩ := sendInvariant_destroy h hdeferred
  exact {
    toSendCore := hold.toSendCore.withoutConnection fun u hu => by
      cases hu
      exact ⟨.create _ _ _ _ _ _, by simp [newTask, TcpConnectTask.create, TcpConnectTask.Open]⟩
    connected := fun hstate => by
      obtain ⟨u, hu, -⟩ := hold.connected hstate
      rw [hnone] at hu
      cases hu }

/-- `schedule` keeps the invariant. -/
theorem sendInvariant_schedule (h : SendInvariant w s) (hdeferred : w.tasks.deferred = [])
    {a : Answers} (hfd : a.registerFd)
    (hfresh : a.connect = .established → w.stream.mWriteBuffer.peek = []) (mFd : ℤ) :
    SendInvariant (w.schedule a mFd).1 ((w.schedule a mFd).2.foldl Transcript.step s) := by
  have hstart : SendInvariant w.connecting s := { h with connected := nofun }
  have hreset := sendInvariant_resetTask hstart hdeferred mFd
  have hbuffer : (w.connecting.resetTask mFd).1.stream.mWriteBuffer = w.stream.mWriteBuffer :=
    (sendInvariant_destroy hstart hdeferred).2.2
  have hnew : SendInvariant ((w.connecting.resetTask mFd).1.scheduleTask (w.newTask mFd) a).1
      (((w.connecting.resetTask mFd).1.scheduleTask (w.newTask mFd) a).2.foldl Transcript.step
        ((w.connecting.resetTask mFd).2.foldl Transcript.step s)) :=
    hreset.schedule rfl hfd (fun hest => by rw [hbuffer]; exact hfresh hest) rfl
  simp only [schedule]
  split
  · rw [List.foldl_append]
    exact hnew
  · rw [List.foldl_append, List.foldl_append]
    exact hnew.quiet (.setError _ _)

/-- `read` and `write` keep the invariant. -/
theorem sendInvariant_readWrite (h : SendInvariant w s) {t : TcpConnectTask}
    (ht : w.tasks.task = some t) (hopen : t.Open)
    (hfresh : (∃ t, w.tasks.task = some t ∧ t.mState = .connecting) →
      w.stream.mWriteBuffer.peek = [])
    {reads : List Call} (hquiet : ∀ c ∈ reads, c.IsQuiet) (k : IoResults)
    (deferred : List Closure) :
    SendInvariant
      (calls k { w with tasks := ⟨some t.write.1, deferred, w.tasks.wanted⟩ }
        (reads ++ t.write.2)).1
      ((calls k { w with tasks := ⟨some t.write.1, deferred, w.tasks.wanted⟩ }
        (reads ++ t.write.2)).2.foldl Transcript.step s) := by
  rw [calls_append, List.foldl_append]
  have htask := (quiet_calls hquiet k
    { w with tasks := ⟨some t.write.1, deferred, w.tasks.wanted⟩ } s).tasks
  rcases hopen with hstate | hstate
  · -- the connection is made: nothing waits, and nothing was written on it
    have hpeek := hfresh ⟨t, ht, hstate⟩
    obtain ⟨hwrites, hsent⟩ := h.connecting t ht hstate
    have hmade : t.write.1.mState = .connected := by simp [TcpConnectTask.write, hstate]
    have hcalls : t.write.2 = [.onConnected] := by simp [TcpConnectTask.write, hstate]
    have hbegun : SendInvariant
        { w with tasks := ⟨some t.write.1, deferred, w.tasks.wanted⟩ } s :=
      { toSendCore := h.toSendCore.withTasks
          (by rintro u ⟨⟩; exact (h.sound t ht).write)
          (by rintro u ⟨⟩ hu; rw [hmade] at hu; cases hu)
          (by
            rintro u ⟨⟩ -
            refine ⟨?_, fun hne => absurd hpeek hne⟩
            rw [hwrites, hsent, hpeek]
            exact tails_nil)
        connected := fun _ => ⟨_, rfl, hmade⟩ }
    rw [hcalls, calls_singleton]
    exact (hbegun.quietCalls hquiet k).onConnected (by rw [htask]) hmade k
  · have hwrite : t.write = (t, if t.onWrite then [.onWrite] else []) := by
      simp [TcpConnectTask.write, hstate]
    have hsame : SendInvariant
        { w with tasks := ⟨some t.write.1, deferred, w.tasks.wanted⟩ } s := by
      rw [hwrite]
      exact h.withSameTask ht rfl (h.sound t ht) rfl rfl
    have hread := hsame.quietCalls hquiet k
    cases honWrite : t.onWrite with
    | false =>
      have hcalls : t.write.2 = [] := by rw [hwrite, honWrite]; rfl
      rw [hcalls]
      exact hread
    | true =>
      have hcalls : t.write.2 = [.onWrite] := by rw [hwrite, honWrite]; rfl
      rw [hcalls, calls_singleton]
      exact hread.onWrite (by rw [htask, hwrite]) hstate k.writes

/-- An event keeps the invariant. -/
theorem sendInvariant_event (h : SendInvariant w s) (triggered : EventInterest) (k : IoResults)
    (hfresh : triggered.meets (EventInterest.Error.or .Hangup) = false →
      triggered.meets .Write = true → (∃ t, w.tasks.task = some t ∧ t.mState = .connecting) →
      w.stream.mWriteBuffer.peek = []) :
    SendInvariant (w.runTask k (.event triggered)).1
      ((w.runTask k (.event triggered)).2.foldl Transcript.step s) := by
  cases ht : w.tasks.task with
  | none =>
    rw [runTask, System.step_of_none ht]
    exact h
  | some t =>
    rw [runTask, System.step_event ht]
    by_cases hguard : t.mEvent.isSome = true ∧ .disconnect ∉ w.tasks.deferred
    · rw [if_pos hguard]
      have hopen := (h.sound t ht).open_of_event hguard.1
      have hread : ∀ c ∈ t.read, c.IsQuiet := by
        unfold TcpConnectTask.read
        split
        · simp [Call.IsQuiet]
        · exact nofun
      rcases t.event_cases triggered with ⟨-, hcase⟩ | ⟨reads, herror, hreads, hcase⟩
      · rw [hcase]
        exact h.withSameTask ht rfl (h.sound t ht) rfl rfl
      have hquiet : ∀ c ∈ reads, c.IsQuiet := by
        rcases hreads with rfl | rfl
        · exact nofun
        · exact hread
      rcases hcase with hcase | ⟨hwrite, hcase⟩
      · rw [hcase]
        exact (h.withSameTask ht rfl (h.sound t ht) rfl rfl).quietCalls hquiet k
      · rw [hcase]
        exact sendInvariant_readWrite h ht hopen (hfresh herror hwrite) hquiet k _
    · rw [if_neg hguard]
      exact h

/-- A deferred callback keeps the invariant. -/
theorem sendInvariant_runDeferred (h : SendInvariant w s) {a : Answers} (hfd : a.registerFd)
    (hfresh : a.connect = .established → w.tasks.deferred.head? = some .reconnect →
      w.stream.mWriteBuffer.peek = []) :
    SendInvariant (w.runTask noIo (.runDeferred a)).1
      ((w.runTask noIo (.runDeferred a)).2.foldl Transcript.step s) := by
  cases ht : w.tasks.task with
  | none =>
    rw [runTask, System.step_of_none ht]
    exact h
  | some t =>
    cases hdeferred : w.tasks.deferred with
    | nil =>
      have hstep : w.tasks.step (.runDeferred a) = (w.tasks, []) := by
        unfold System.step
        rw [ht, hdeferred]
      rw [runTask, hstep]
      exact h
    | cons c rest =>
      rw [runTask, System.step_runDeferred ht hdeferred]
      cases c with
      | disconnect =>
        by_cases hopen : t.Open
        · refine h.disconnect ht ?_ t.isQuiet_disconnect
            TcpConnectTask.onDisconnected_mem_disconnect
          rintro u ⟨⟩
          refine ⟨(h.sound t ht).disconnect, ?_⟩
          simp [TcpConnectTask.run, TcpConnectTask.disconnect_of_open hopen, TcpConnectTask.Open]
        · rw [TcpConnectTask.run, TcpConnectTask.disconnect_of_not_open hopen]
          exact h.withSameTask ht rfl (h.sound t ht) rfl rfl
      | scheduleReconnect =>
        exact h.withSameTask ht rfl ((h.sound t ht).congr rfl rfl rfl rfl) rfl rfl
      | reconnect =>
        have hsame : SendInvariant { w with tasks :=
            ⟨some { t with mReconnectTimeout := false }, rest, w.tasks.wanted⟩ } s :=
          h.withSameTask ht rfl ((h.sound t ht).congr rfl rfl rfl rfl) rfl rfl
        exact hsame.schedule rfl hfd (fun hest => hfresh hest (by rw [hdeferred]; rfl)) rfl

/-- A step keeps the invariant. -/
theorem sendInvariant_step {out : List Output} (h : SendInvariant w (.ofOutputs out))
    {i : StreamInput} (hreg : i.Registers) (hclean : Clean w out i) :
    SendInvariant (w.step i).1 (.ofOutputs (out ++ (w.step i).2)) := by
  rw [Transcript.ofOutputs_append]
  obtain ⟨hfresh, huncut⟩ := hclean
  cases i with
  | schedule a mFd =>
    simp only [step]
    split
    · next hdeferred => exact sendInvariant_schedule h hdeferred hreg hfresh mFd
    · exact h
  | cancel =>
    simp only [step]
    split
    · next hdeferred => exact (sendInvariant_destroy h hdeferred).1
    · exact h
  | write data r => exact sendInvariant_write h data r (huncut data r rfl)
  | peerSends data =>
    simp only [step]
    split
    · exact h.quiet ⟨rfl, rfl, rfl, id, rfl, rfl⟩
    · exact h
  | peerCloses =>
    simp only [step]
    split
    · exact h.quiet ⟨rfl, rfl, rfl, id, rfl, rfl⟩
    · exact h
  | event events k =>
    have hevent := sendInvariant_event h (epollToInterests events) k
      fun herror hwrite hconnecting => hfresh ⟨herror, hwrite, hconnecting⟩
    simp only [step]
    split
    · -- the report of the end is not about the output
      have hended : SendInvariant w ((Transcript.ofOutputs out).step .endOfStream) :=
        h.quiet ⟨rfl, rfl, rfl, id, rfl, rfl⟩
      exact sendInvariant_event hended (epollToInterests events) k
        fun herror hwrite hconnecting => hfresh ⟨herror, hwrite, hconnecting⟩
    · exact hevent
  | expire =>
    simp only [step]
    cases ht : w.tasks.task with
    | none =>
      rw [runTask, System.step_of_none ht]
      exact h
    | some t =>
      have hstep : (w.tasks.step .expire).1.task = some t ∧ (w.tasks.step .expire).2 = [] := by
        unfold System.step
        rw [ht]
        simp only
        split
        · exact ⟨rfl, rfl⟩
        · exact ⟨ht, rfl⟩
      rw [runTask, hstep.2]
      exact h.withSameTask ht hstep.1 (h.sound t ht) rfl rfl
  | readTimeout => exact h.quiet (.flushReadBuffer w _)
  | runDeferred a =>
    exact sendInvariant_runDeferred h hreg fun hest hhead => hfresh ⟨hest, hhead⟩

theorem sendInvariant_start (config : TcpClientConfig) :
    SendInvariant (start config) (.ofOutputs []) where
  fits := WriteBuffer.fits_create
  bound := by
    change 0 < 64 * 1024
    decide
  flag := by simp [start, TcpClientStream.create]
  sound := fun t ht => by cases ht
  connecting := fun t ht => by cases ht
  waiting := fun t ht => by cases ht
  tails := ⟨[], tails_nil⟩
  connected := nofun

end World

/-- **Output.**  With a scheduler that registers the socket, a run of the stream keeps the
promises if no connection begins with bytes that wait, and no overflow of the write buffer
discards a part of a write that is partly sent. -/
theorem sends_run (config : TcpClientConfig) {is : List StreamInput}
    (hreg : ∀ i ∈ is, i.Registers)
    (hclean : Mealy.Along Clean World.step (World.start config) [] is) :
    Sends (Mealy.run World.step (World.start config) is).1
      (Mealy.run World.step (World.start config) is).2 := by
  have hboth := hclean.and (Mealy.along_of_forall (fun _ _ i hi => hreg i hi) _ _)
  exact (Mealy.invariant_run (P := fun w out => SendInvariant w (.ofOutputs out))
    (fun w out i h hok => World.sendInvariant_step h hok.2 hok.1)
    (World.sendInvariant_start config) hboth).sends

/-- A write that the socket takes only in part: the rest waits. -/
theorem sends_partial :
    Sends
      (Mealy.run World.step (World.start ⟨"localhost", "", true, 1⟩)
        [.schedule .connects (-1), .write [1, 2, 3] (.accepts 1)]).1
      (Mealy.run World.step (World.start ⟨"localhost", "", true, 1⟩)
        [.schedule .connects (-1), .write [1, 2, 3] (.accepts 1)]).2 :=
  sends_run ⟨"localhost", "", true, 1⟩
    (fun i hi => by
      fin_cases hi
      · rfl
      · trivial)
    (by
      refine ⟨⟨fun _ => rfl, nofun⟩, ⟨nofun, ?_⟩, trivial⟩
      rintro _ _ ⟨⟩ hover
      exact absurd hover (by decide))

/-- A connection that is lost with bytes that wait, and the next one. -/
def stalled : List StreamInput :=
  [.schedule .connects (-1), .write [1, 2, 3] (.accepts 1), .event 0x2000 World.noIo,
    .runDeferred .connects, .runDeferred .connects, .expire, .runDeferred .connects]

/-- The stream is connected again and has bytes of the earlier write, but its socket is not
registered for writing. -/
theorem not_sends_stalled :
    ¬Sends (Mealy.run World.step (World.start ⟨"localhost", "", true, 1⟩) stalled).1
      (Mealy.run World.step (World.start ⟨"localhost", "", true, 1⟩) stalled).2 := by
  intro h
  obtain ⟨t, i, ht, hi, hwrite⟩ := h.registered (by decide) (by decide)
  cases ht
  cases hi
  exact absurd hwrite (by decide)

end SuplLpp.Socket
