import SuplLpp.Socket.TcpClient

/-!
# The end of a connection

A peer sends bytes and closes the connection.  The kernel reports what there is to read and the
end of the stream in one event or in several; an event that has the end makes the task close
its socket without another read.

* `Hears`: at the end of a stream everything that the peer sent was delivered, and the end is
  reported once;
* `Drained`: when the end is reported, the task is connected and nothing is left to read;
* `hears_run`: every run whose steps are `Drained` keeps `Hears`.
-/

namespace SuplLpp.Socket

open Sched (EventInterest epollToInterests)

/-! ### What is promised at the end of a stream -/

/-- Whenever the end of a connection is reported to the stream, and the peer had made it, the
bytes of the peer are delivered. -/
def Heard (out : List Output) : Prop :=
  ∀ before after, out = before ++ .disconnected :: after →
    (Transcript.ofOutputs before).ended = true →
    (Transcript.ofOutputs before).received <:+ (Transcript.ofOutputs before).delivered

/-- What a stream promises of its input. -/
structure Hears (w : World) (out : List Output) : Prop where
  heard : Heard out
  /-- The end is reported at most once. -/
  once : (Transcript.ofOutputs out).disconnects ≤ 1
  /-- The end that the peer made is reported, as soon as the deferred callbacks are run. -/
  ended : (Transcript.ofOutputs out).ended = true → w.tasks.deferred = [] →
    (Transcript.ofOutputs out).disconnects = 1

theorem heard_nil : Heard [] := by
  rintro before after hsplit
  simp at hsplit

theorem Heard.snoc {out : List Output} (h : Heard out) {o : Output}
    (ho : o = .disconnected → (Transcript.ofOutputs out).ended = true →
      (Transcript.ofOutputs out).received <:+ (Transcript.ofOutputs out).delivered) :
    Heard (out ++ [o]) := by
  rintro before after hsplit
  rcases List.append_eq_append_iff.1 hsplit with ⟨gap, rfl, hgap⟩ | ⟨gap, rfl, hgap⟩
  · cases gap with
    | nil =>
      cases hgap
      rw [List.append_nil]
      exact ho rfl
    | cons c gap => simp at hgap
  · cases gap with
    | nil =>
      cases hgap
      simpa using ho rfl
    | cons c gap =>
      obtain ⟨rfl, -⟩ := List.cons.inj hgap
      exact h before gap rfl

theorem Heard.append {out : List Output} (h : Heard out) {more : List Output}
    (hmore : .disconnected ∉ more) : Heard (out ++ more) := by
  induction more generalizing out with
  | nil => rwa [List.append_nil]
  | cons o more ih =>
    rw [List.mem_cons, not_or] at hmore
    rw [List.append_cons]
    exact ih (h.snoc fun ho => absurd ho.symm hmore.1) hmore.2

/-! ### What does not touch the connection -/

/-- An output of this kind is not about the life of the connection or the bytes of the peer. -/
def Output.IsPlain (o : Output) : Prop :=
  o ≠ .opened ∧ o ≠ .disconnected ∧ o ≠ .endOfStream ∧ ∀ data, o ≠ .received data

/-- Bytes go from the socket to the read buffer, and from there to the read callbacks; the
task keeps its state. -/
structure Undisturbed (w w' : World) (more : List Output) : Prop where
  plain : ∀ o ∈ more, o.IsPlain
  deferred : w'.tasks.deferred = w.tasks.deferred
  task : ∀ t, w'.tasks.task = some t →
    ∃ u, w.tasks.task = some u ∧ t.mState = u.mState ∧ (u.Sound → t.Sound)
  task' : ∀ u, w.tasks.task = some u → ∃ t, w'.tasks.task = some t ∧ t.mState = u.mState
  closed : w'.receiving.closed = w.receiving.closed
  unread : w.receiving.unread = [] → w'.receiving.unread = []
  bytes : ∀ s : Transcript, (more.foldl Transcript.step s).delivered ++
      w'.stream.mReadBuffer ++ w'.receiving.unread =
    s.delivered ++ w.stream.mReadBuffer ++ w.receiving.unread

namespace Transcript

theorem received_step {s : Transcript} {o : Output} (ho : o.IsPlain) :
    (s.step o).received = s.received ∧ (s.step o).ended = s.ended ∧
      (s.step o).disconnects = s.disconnects := by
  cases o with
  | opened => exact absurd rfl ho.1
  | disconnected => exact absurd rfl ho.2.1
  | endOfStream => exact absurd rfl ho.2.2.1
  | received data => exact absurd rfl (ho.2.2.2 data)
  | _ => exact ⟨rfl, rfl, rfl⟩

theorem received_foldl {s : Transcript} {more : List Output} (hmore : ∀ o ∈ more, o.IsPlain) :
    (more.foldl step s).received = s.received ∧ (more.foldl step s).ended = s.ended ∧
      (more.foldl step s).disconnects = s.disconnects := by
  induction more generalizing s with
  | nil => exact ⟨rfl, rfl, rfl⟩
  | cons o more ih =>
    obtain ⟨ho, hmore⟩ := List.forall_mem_cons.1 hmore
    obtain ⟨h1, h2, h3⟩ := received_step (s := s) ho
    obtain ⟨h1', h2', h3'⟩ := ih (s := s.step o) hmore
    exact ⟨h1'.trans h1, h2'.trans h2, h3'.trans h3⟩

end Transcript

namespace Undisturbed

variable {w w' w'' : World} {more more' : List Output}

theorem refl (w : World) : Undisturbed w w [] where
  plain := nofun
  deferred := rfl
  task t ht := ⟨t, ht, rfl, id⟩
  task' u hu := ⟨u, hu, rfl⟩
  closed := rfl
  unread := id
  bytes _ := rfl

theorem trans (h : Undisturbed w w' more) (h' : Undisturbed w' w'' more') :
    Undisturbed w w'' (more ++ more') where
  plain o ho := by
    rcases List.mem_append.1 ho with ho | ho
    · exact h.plain o ho
    · exact h'.plain o ho
  deferred := h'.deferred.trans h.deferred
  task t ht := by
    obtain ⟨u, hu, hstate, hsound⟩ := h'.task t ht
    obtain ⟨v, hv, hstate', hsound'⟩ := h.task u hu
    exact ⟨v, hv, hstate.trans hstate', fun hs => hsound (hsound' hs)⟩
  task' v hv := by
    obtain ⟨u, hu, hstate⟩ := h.task' v hv
    obtain ⟨t, ht, hstate'⟩ := h'.task' u hu
    exact ⟨t, ht, hstate'.trans hstate⟩
  closed := h'.closed.trans h.closed
  unread hu := h'.unread (h.unread hu)
  bytes s := by
    rw [List.foldl_append, h'.bytes, h.bytes]

/-- Only the stream changes, and not its read buffer. -/
theorem of_stream {stream : TcpClientStream}
    (hbuffer : stream.mReadBuffer = w.stream.mReadBuffer)
    (hplain : ∀ o ∈ more, o.IsPlain ∧ ∀ data, o ≠ .delivered data) :
    Undisturbed w { w with stream } more where
  plain o ho := (hplain o ho).1
  deferred := rfl
  task t ht := ⟨t, ht, rfl, id⟩
  task' u hu := ⟨u, hu, rfl⟩
  closed := rfl
  unread := id
  bytes s := by
    have hdelivered : (more.foldl Transcript.step s).delivered = s.delivered := by
      induction more generalizing s with
      | nil => rfl
      | cons o more ih =>
        obtain ⟨ho, hmore⟩ := List.forall_mem_cons.1 hplain
        rw [List.foldl_cons, ih hmore]
        cases o with
        | opened => exact absurd rfl ho.1.1
        | delivered data => exact absurd rfl (ho.2 data)
        | _ => rfl
    rw [hdelivered, hbuffer]

theorem flushReadBuffer (w : World) :
    Undisturbed w w.flushReadBuffer.1 w.flushReadBuffer.2 := by
  unfold World.flushReadBuffer
  split
  · exact refl w
  · exact {
      plain := by simp [Output.IsPlain]
      deferred := rfl
      task := fun t ht => ⟨t, ht, rfl, id⟩
      task' := fun u hu => ⟨u, hu, rfl⟩
      closed := rfl
      unread := id
      bytes := fun s => by simp [Transcript.step] }

theorem setError (w : World) : Undisturbed w w.setError.1 w.setError.2 :=
  of_stream rfl (by simp [World.setError, Output.IsPlain])

theorem onRead (w : World) (r : ReadResult) : Undisturbed w (w.onRead r).1 (w.onRead r).2 := by
  cases r with
  | failed => exact setError w
  | upTo n =>
    simp only [World.onRead]
    split
    · split
      · exact flushReadBuffer w
      · exact refl w
    · -- the bytes that are read are the first that were unread
      have hread : Undisturbed w ((w.dropRead (World.readSize n)).insertRead
          (w.receiving.unread.take (World.readSize n))) [] :=
        { plain := nofun
          deferred := rfl
          task := fun t ht => ⟨t, ht, rfl, id⟩
          task' := fun u hu => ⟨u, hu, rfl⟩
          closed := rfl
          unread := fun hu => by simp [World.insertRead, World.dropRead, hu]
          bytes := fun s => by simp [World.insertRead, World.dropRead] }
      unfold World.onRawRead
      split
      · exact hread.trans (flushReadBuffer _)
      · exact hread

theorem updateInterests (w : World) (i : EventInterest) :
    Undisturbed w (w.updateInterests i) [] where
  plain := nofun
  deferred := rfl
  task t ht := by
    obtain ⟨u, hu, rfl⟩ := Option.map_eq_some_iff.1 ht
    exact ⟨u, hu, by simp, fun hs => hs.updateInterests i⟩
  task' u hu := ⟨u.updateInterests i, by rw [World.updateInterests, hu]; rfl, by simp⟩
  closed := rfl
  unread := id
  bytes _ := rfl

/-- `mWriteRegistered` is set or cleared. -/
theorem setFlag (w : World) (flag : Bool) :
    Undisturbed w { w with stream := { w.stream with mWriteRegistered := flag } } [] :=
  of_stream rfl (by simp)

theorem onConnected (k : IoResults) (w : World) :
    Undisturbed w (w.call k .onConnected).1 (w.call k .onConnected).2 :=
  of_stream rfl (by simp [World.call, Output.IsPlain])

theorem plain_writeLoop (b : WriteBuffer) (rs : List WriteResult) :
    ∀ o ∈ (World.writeLoop b rs).2.1, o.IsPlain ∧ ∀ data, o ≠ .delivered data := by
  induction rs generalizing b with
  | nil => simp [World.writeLoop]
  | cons r rs ih =>
    unfold World.writeLoop
    split
    · simp
    · cases r with
      | wouldBlock | failed => simp
      | accepts n =>
        rintro o ho
        rcases List.mem_cons.1 ho with rfl | ho
        · simp [Output.IsPlain]
        · exact ih _ o ho

theorem onWrite (w : World) (rs : List WriteResult) :
    Undisturbed w (w.onWrite rs).1 (w.onWrite rs).2 := by
  have hloop : Undisturbed w { w with stream := { w.stream with
      mWriteBuffer := (World.writeLoop w.stream.mWriteBuffer rs).1 } }
      (World.writeLoop w.stream.mWriteBuffer rs).2.1 :=
    of_stream rfl (plain_writeLoop _ rs)
  unfold World.onWrite
  simp only
  split
  · have hdone : Undisturbed w ({ w with stream := { w.stream with
        mWriteBuffer := (World.writeLoop w.stream.mWriteBuffer rs).1 } }.updateInterests
        World.readOnly) (World.writeLoop w.stream.mWriteBuffer rs).2.1 := by
      simpa using hloop.trans (updateInterests _ World.readOnly)
    simpa using hdone.trans (setFlag _ false)
  · exact hloop

theorem enqueue (w : World) (data : List UInt8) : Undisturbed w (w.enqueue data) [] := by
  have hqueued : Undisturbed w { w with stream := { w.stream with
      mWriteBuffer := w.stream.mWriteBuffer.enqueue data } } [] := of_stream rfl (by simp)
  unfold World.enqueue
  simp only
  split
  · exact hqueued
  · exact (hqueued.trans (updateInterests _ World.readWrite)).trans (setFlag _ true)

end Undisturbed

/-! ### What a stream keeps -/

structure HearInvariant (w : World) (out : List Output) : Prop where
  heard : Heard out
  sound : ∀ t, w.tasks.task = some t → t.Sound
  /-- What the peer sent is delivered, in the read buffer or in the socket, behind bytes that
  were left in the read buffer when the socket was opened. -/
  bytes : ∃ stale, (Transcript.ofOutputs out).delivered ++ w.stream.mReadBuffer ++
    w.receiving.unread = stale ++ (Transcript.ofOutputs out).received
  fresh : ∀ t, w.tasks.task = some t → t.Open → (Transcript.ofOutputs out).disconnects = 0
  once : (Transcript.ofOutputs out).disconnects ≤ 1
  /-- Once the kernel has reported the end, the task waits for `disconnect` with nothing to
  read, or has disconnected. -/
  ended : (Transcript.ofOutputs out).ended = true →
    (w.receiving.closed = true ∧ w.receiving.unread = [] ∧ .disconnect ∈ w.tasks.deferred ∧
      ∃ t, w.tasks.task = some t ∧ t.mState = .connected) ∨
    ((Transcript.ofOutputs out).disconnects = 1 ∧ ∀ t, w.tasks.task = some t → ¬t.Open)

theorem HearInvariant.hears {w : World} {out : List Output} (h : HearInvariant w out) :
    Hears w out where
  heard := h.heard
  once := h.once
  ended hended hdeferred := by
    rcases h.ended hended with ⟨-, -, hmem, -⟩ | ⟨hone, -⟩
    · rw [hdeferred] at hmem
      cases hmem
    · exact hone

namespace HearInvariant

variable {w w' : World} {out : List Output}

theorem undisturbed (h : HearInvariant w out) {more : List Output}
    (hu : Undisturbed w w' more) : HearInvariant w' (out ++ more) := by
  obtain ⟨hreceived, hended, hdisconnects⟩ :=
    Transcript.received_foldl (s := .ofOutputs out) hu.plain
  rw [← Transcript.ofOutputs_append] at hreceived hended hdisconnects
  exact {
    heard := h.heard.append fun hmem => (hu.plain _ hmem).2.1 rfl
    sound := fun t ht => by
      obtain ⟨u, hu', -, hsound⟩ := hu.task t ht
      exact hsound (h.sound u hu')
    bytes := by
      obtain ⟨stale, hbytes⟩ := h.bytes
      refine ⟨stale, ?_⟩
      rw [hreceived, ← hbytes, Transcript.ofOutputs_append, hu.bytes]
    fresh := fun t ht hopen => by
      obtain ⟨u, hu', hstate, -⟩ := hu.task t ht
      rw [hdisconnects]
      exact h.fresh u hu' (by rwa [TcpConnectTask.Open, ← hstate])
    once := by
      rw [hdisconnects]
      exact h.once
    ended := fun hend => by
      rw [hended] at hend
      rw [hdisconnects, hu.closed, hu.deferred]
      refine (h.ended hend).imp ?_ ?_
      · rintro ⟨hclosed, hunread, hmem, u, hu', hstate⟩
        obtain ⟨t, ht, hsame⟩ := hu.task' u hu'
        exact ⟨hclosed, hu.unread hunread, hmem, t, ht, hsame.trans hstate⟩
      · rintro ⟨hone, hnone⟩
        refine ⟨hone, fun t ht hopen => ?_⟩
        obtain ⟨u, hu', hstate, -⟩ := hu.task t ht
        exact hnone u hu' (by rwa [TcpConnectTask.Open, ← hstate]) }

/-- Another task, with nothing said of the connection. -/
theorem withTasks (h : HearInvariant w out) {tasks : System}
    (hsound : ∀ t, tasks.task = some t → t.Sound)
    (hfresh : ∀ t, tasks.task = some t → t.Open →
      (Transcript.ofOutputs out).disconnects = 0)
    (hended : (Transcript.ofOutputs out).ended = true →
      (w.receiving.closed = true ∧ w.receiving.unread = [] ∧ .disconnect ∈ tasks.deferred ∧
        ∃ t, tasks.task = some t ∧ t.mState = .connected) ∨
      ((Transcript.ofOutputs out).disconnects = 1 ∧ ∀ t, tasks.task = some t → ¬t.Open)) :
    HearInvariant { w with tasks } out where
  heard := h.heard
  sound := hsound
  bytes := h.bytes
  fresh := hfresh
  once := h.once
  ended := hended

/-- The same task, but for its timer, and a queue that keeps a `disconnect`. -/
theorem withSameTask (h : HearInvariant w out) {t t' : TcpConnectTask}
    (ht : w.tasks.task = some t) {tasks : System} (ht' : tasks.task = some t')
    (hsound : t'.Sound) (hstate : t'.mState = t.mState)
    (hqueue : .disconnect ∈ w.tasks.deferred → .disconnect ∈ tasks.deferred) :
    HearInvariant { w with tasks } out := by
  refine h.withTasks (fun u hu => ?_) (fun u hu hopen => ?_) fun hend => ?_
  · rw [ht'] at hu
    cases hu
    exact hsound
  · rw [ht'] at hu
    cases hu
    exact h.fresh t ht (by rwa [TcpConnectTask.Open, ← hstate])
  · refine (h.ended hend).imp ?_ ?_
    · rintro ⟨hclosed, hunread, hmem, u, hu, hconnected⟩
      rw [ht] at hu
      cases hu
      exact ⟨hclosed, hunread, hqueue hmem, t', ht', hstate.trans hconnected⟩
    · rintro ⟨hone, hnone⟩
      refine ⟨hone, fun u hu hopen => ?_⟩
      rw [ht'] at hu
      cases hu
      exact hnone t ht (by rwa [TcpConnectTask.Open, ← hstate])

/-- The end of a connection is reported to the stream; its task is not open any more. -/
theorem onDisconnected (h : HearInvariant w out) {tasks : System}
    (htasks : ∀ t, tasks.task = some t → t.Sound ∧ ¬t.Open)
    (hzero : (Transcript.ofOutputs out).disconnects = 0)
    (hunread : (Transcript.ofOutputs out).ended = true → w.receiving.unread = []) :
    HearInvariant (World.onDisconnected { w with tasks }).1
      (out ++ (World.onDisconnected { w with tasks }).2) := by
  -- first the read buffer is delivered
  have hflush := Undisturbed.flushReadBuffer { w with tasks }
  obtain ⟨hreceived, hended, hdisconnects⟩ :=
    Transcript.received_foldl (s := .ofOutputs out) hflush.plain
  rw [← Transcript.ofOutputs_append] at hreceived hended hdisconnects
  have hempty : (World.flushReadBuffer { w with tasks }).1.stream.mReadBuffer = [] := by
    unfold World.flushReadBuffer
    split
    · assumption
    · rfl
  have hsame : (World.flushReadBuffer { w with tasks }).1.tasks = tasks ∧
      (World.flushReadBuffer { w with tasks }).1.receiving = w.receiving := by
    unfold World.flushReadBuffer
    split <;> exact ⟨rfl, rfl⟩
  obtain ⟨stale, hbytes⟩ := h.bytes
  have hflushed := hflush.bytes (.ofOutputs out)
  rw [← Transcript.ofOutputs_append, hempty, List.append_nil, hsame.2] at hflushed
  replace hbytes := hflushed.trans hbytes
  have hheard : Heard (out ++ (World.flushReadBuffer { w with tasks }).2 ++ [.disconnected]) := by
    refine (h.heard.append fun hmem => (hflush.plain _ hmem).2.1 rfl).snoc fun _ hend => ?_
    rw [hended] at hend
    rw [hunread hend, List.append_nil] at hbytes
    rw [hreceived, hbytes]
    exact List.suffix_append _ _
  have hdone : ∀ stream : TcpClientStream, stream.mReadBuffer = [] →
      HearInvariant { w with stream, tasks }
        (out ++ (World.flushReadBuffer { w with tasks }).2 ++ [.disconnected]) :=
    fun stream hbuffer => {
      heard := hheard
      sound := fun t ht => (htasks t ht).1
      bytes := ⟨stale, by
        rw [Transcript.ofOutputs_append]
        simp only [List.foldl_cons, List.foldl_nil, Transcript.step]
        rw [hbuffer, List.append_nil, hbytes, hreceived]⟩
      fresh := fun t ht hopen => absurd hopen (htasks t ht).2
      once := by
        rw [Transcript.ofOutputs_append]
        simp only [List.foldl_cons, List.foldl_nil, Transcript.step]
        rw [hdisconnects, hzero]
      ended := fun _ => .inr ⟨by
        rw [Transcript.ofOutputs_append]
        simp only [List.foldl_cons, List.foldl_nil, Transcript.step]
        rw [hdisconnects, hzero], fun t ht => (htasks t ht).2⟩ }
  have hshape : (World.flushReadBuffer { w with tasks }).1 =
      { w with tasks, stream := (World.flushReadBuffer { w with tasks }).1.stream } := by
    unfold World.flushReadBuffer
    split <;> rfl
  unfold World.onDisconnected
  simp only
  rw [hshape]
  split
  · rw [← List.append_assoc]
    exact hdone _ hempty
  · have hcomplete : out ++ ((World.flushReadBuffer { w with tasks }).2 ++
        [.disconnected, .onComplete]) =
        out ++ (World.flushReadBuffer { w with tasks }).2 ++ [.disconnected] ++ [.onComplete] := by
      simp
    rw [hcomplete]
    refine (hdone _ hempty).undisturbed (Undisturbed.of_stream rfl ?_)
    simp [Output.IsPlain]

/-- The connection of the task ends, by `disconnect` or the destructor. -/
theorem disconnect (h : HearInvariant w out) {t : TcpConnectTask} (ht : w.tasks.task = some t)
    {tasks : System} (htasks : ∀ u, tasks.task = some u → u.Sound ∧ ¬u.Open)
    {r : World × List Output}
    (hr : r = if t.mState = .connected then World.onDisconnected { w with tasks }
      else ({ w with tasks }, [])) :
    HearInvariant r.1 (out ++ r.2) := by
  rw [hr]
  split
  · next hstate =>
    have hzero := h.fresh t ht (.inr hstate)
    refine h.onDisconnected htasks hzero fun hend => ?_
    rcases h.ended hend with ⟨-, hunread, -, -⟩ | ⟨hone, -⟩
    · exact hunread
    · omega
  · next hstate =>
    rw [List.append_nil]
    refine h.withTasks (fun u hu => (htasks u hu).1)
      (fun u hu hopen => absurd hopen (htasks u hu).2) fun hend => .inr ?_
    rcases h.ended hend with ⟨-, -, -, u, hu, hconnected⟩ | ⟨hone, -⟩
    · rw [ht] at hu
      cases hu
      exact absurd hconnected hstate
    · exact ⟨hone, fun u hu => (htasks u hu).2⟩

/-- A new socket. -/
theorem opened (h : HearInvariant w out) {tasks : System}
    (hsound : ∀ t, tasks.task = some t → t.Sound) :
    HearInvariant { w with tasks, receiving := ⟨[], false⟩ } (out ++ [.opened]) where
  heard := h.heard.append (by simp)
  sound := hsound
  bytes := ⟨w.stream.mReadBuffer, by simp [Transcript.ofOutputs_append, Transcript.step,
    Transcript.empty]⟩
  fresh _ _ _ := by simp [Transcript.ofOutputs_append, Transcript.step, Transcript.empty]
  once := by simp [Transcript.ofOutputs_append, Transcript.step, Transcript.empty]
  ended hend := by simp [Transcript.ofOutputs_append, Transcript.step, Transcript.empty] at hend

/-- An attempt. -/
theorem schedule (h : HearInvariant w out) {t : TcpConnectTask} (ht : w.tasks.task = some t)
    {a : Answers} (hfd : a.registerFd) {tasks : System}
    (htasks : tasks.task = some (t.schedule a).2.1)
    (hqueue : .disconnect ∈ w.tasks.deferred → .disconnect ∈ tasks.deferred) :
    HearInvariant (World.calls World.noIo { w with tasks } (t.schedule a).2.2).1
      (out ++ (World.calls World.noIo { w with tasks } (t.schedule a).2.2).2) := by
  have hsound := (h.sound t ht).schedule hfd
  have hsounds : ∀ u, tasks.task = some u → u.Sound := fun u hu => by
    rw [htasks] at hu
    cases hu
    exact hsound
  -- an attempt that fails: an end that was reported stays with the old connection
  have hfailed : ∀ u : TcpConnectTask, ¬u.Open → tasks.task = some u → t.Ready →
      HearInvariant { w with tasks } out := fun u hopen hu hready => by
    refine h.withTasks hsounds (fun v hv ho => ?_) fun hend => .inr ?_
    · rw [hu] at hv
      cases hv
      exact absurd ho hopen
    · rcases h.ended hend with ⟨-, -, -, v, hv, hconnected⟩ | ⟨hone, -⟩
      · rw [ht] at hv
        cases hv
        exact absurd (.inr hconnected) (TcpConnectTask.not_open_of_ready hready)
      · refine ⟨hone, fun v hv => ?_⟩
        rw [hu] at hv
        cases hv
        exact hopen
  rcases t.schedule_cases hfd with
    ⟨-, hs⟩ | ⟨-, -, hs⟩ | ⟨-, hready, -, hs⟩ | ⟨-, hready, -, hs⟩ |
    ⟨fd, -, hready, -, hs | ⟨i, hs | ⟨-, hs⟩⟩⟩ <;> rw [hs] at htasks hsound ⊢
  · rw [World.calls_nil, List.append_nil]
    exact h.withSameTask ht htasks hsound rfl hqueue
  · rw [World.calls_nil, List.append_nil]
    exact h.withSameTask ht htasks hsound rfl hqueue
  · rw [World.calls_nil, List.append_nil]
    exact hfailed _ (by simp [TcpConnectTask.Open]) htasks hready
  · rw [World.calls_singleton, World.call, List.append_nil]
    exact hfailed _ (by simp [TcpConnectTask.Open]) htasks hready
  · rw [World.calls_singleton]
    exact h.opened hsounds
  · rw [World.calls_singleton]
    exact h.opened hsounds
  · have hboth : World.calls World.noIo { w with tasks } [.socket (some fd), .onConnected] =
        (({ w with tasks, receiving := ⟨[], false⟩ } : World).call World.noIo .onConnected).map id
          (fun more => [.opened] ++ more) := rfl
    rw [hboth, Prod.map_fst, Prod.map_snd, ← List.append_assoc]
    exact (h.opened hsounds).undisturbed (Undisturbed.onConnected _ _)

end HearInvariant

/-! ### Runs -/

/-- When the kernel reports the end of the stream, nothing is left to read and the task knows
of its connection. -/
def Drained (w : World) (i : StreamInput) : Prop :=
  ∀ events k, i = .event events k → w.Reports → World.errs events = true →
    w.receiving.closed = true → w.receiving.unread = [] ∧
      ∃ t, w.tasks.task = some t ∧ t.mState = .connected

namespace World

variable {w : World} {out : List Output}

/-- To close the descriptor is nothing to the stream. -/
theorem calls_close (k : IoResults) (w : World) (fd : ℤ) :
    w.calls k (if 0 ≤ fd then [.close fd] else []) = (w, []) := by
  split
  · rw [calls_singleton, call]
  · rw [calls_nil]

/-- Of the calls of `disconnect` only the report matters to the stream. -/
theorem calls_disconnect (k : IoResults) (w : World) (t : TcpConnectTask) :
    w.calls k t.disconnect.2 = if t.mState = .connected then w.onDisconnected else (w, []) := by
  by_cases hopen : t.Open
  · rw [TcpConnectTask.disconnect_of_open hopen, calls_append, calls_close]
    split <;> simp [call]
  · rw [TcpConnectTask.disconnect_of_not_open hopen, calls_nil, if_neg fun hs => hopen (.inr hs)]

theorem calls_destroy (k : IoResults) (w : World) (t : TcpConnectTask) :
    w.calls k t.destroy = if t.mState = .connected then w.onDisconnected else (w, []) := by
  rw [TcpConnectTask.destroy, calls_append, calls_close, calls_disconnect, List.append_nil]

/-- The destructor of the task keeps the invariant. -/
theorem hearInvariant_destroy (h : HearInvariant w out) (hdeferred : w.tasks.deferred = []) :
    HearInvariant (w.runTask noIo .destroy).1 (out ++ (w.runTask noIo .destroy).2) := by
  cases ht : w.tasks.task with
  | none =>
    rw [runTask, System.step_of_none ht, calls_nil, List.append_nil]
    exact h
  | some t =>
    have hnone : ∀ u, ({ w.tasks with task := none } : System).task = some u →
        u.Sound ∧ ¬u.Open := fun u hu => by cases hu
    refine h.disconnect ht hnone ?_
    rw [runTask, System.step_destroy ht hdeferred, calls_destroy]

theorem deferred_destroy (w : World) (hdeferred : w.tasks.deferred = []) :
    (w.runTask noIo .destroy).1.tasks.deferred = [] := by
  cases ht : w.tasks.task with
  | none => rw [runTask, System.step_of_none ht, calls_nil, hdeferred]
  | some t =>
    rw [runTask, System.step_destroy ht hdeferred, calls_destroy]
    split
    · simp only [onDisconnected, flushReadBuffer]
      split <;> split <;> exact hdeferred
    · exact hdeferred

/-- A new task takes the place of the old one, whose end was reported. -/
theorem hearInvariant_resetTask (h : HearInvariant w out) (hdeferred : w.tasks.deferred = [])
    (mFd : ℤ) : HearInvariant (w.resetTask mFd).1 (out ++ (w.resetTask mFd).2) := by
  have hclosed : ¬(w.newTask mFd).Open := by
    simp [newTask, TcpConnectTask.create, TcpConnectTask.Open]
  refine (hearInvariant_destroy h hdeferred).withTasks ?_ ?_ fun hend => .inr ⟨?_, ?_⟩
  · rintro u ⟨⟩
    exact .create ..
  · rintro u ⟨⟩ hopen
    exact absurd hopen hclosed
  · exact (hearInvariant_destroy h hdeferred).hears.ended hend (w.deferred_destroy hdeferred)
  · rintro u ⟨⟩
    exact hclosed

/-- `schedule` keeps the invariant. -/
theorem hearInvariant_schedule (h : HearInvariant w out) (hdeferred : w.tasks.deferred = [])
    {a : Answers} (hfd : a.registerFd) (mFd : ℤ) :
    HearInvariant (w.schedule a mFd).1 (out ++ (w.schedule a mFd).2) := by
  have hstart : HearInvariant w.connecting out := by
    have hconnecting : Undisturbed w w.connecting [] := .of_stream rfl (by simp)
    simpa using h.undisturbed hconnecting
  have hreset := hearInvariant_resetTask hstart hdeferred mFd
  have hnew : HearInvariant ((w.connecting.resetTask mFd).1.scheduleTask (w.newTask mFd) a).1
      (out ++ (w.connecting.resetTask mFd).2 ++
        ((w.connecting.resetTask mFd).1.scheduleTask (w.newTask mFd) a).2) :=
    hreset.schedule rfl hfd rfl id
  simp only [schedule]
  split
  · rw [← List.append_assoc]
    exact hnew
  · rw [← List.append_assoc, ← List.append_assoc]
    exact hnew.undisturbed (.setError _)

/-- `read` touches nothing else. -/
theorem undisturbed_read (k : IoResults) (w : World) (t : TcpConnectTask) :
    Undisturbed w (w.calls k t.read).1 (w.calls k t.read).2 := by
  unfold TcpConnectTask.read
  split
  · rw [calls_singleton]
    exact .onRead w k.read
  · exact .refl w

theorem undisturbed_write (k : IoResults) (w : World) (t : TcpConnectTask) :
    Undisturbed w (w.calls k t.write.2).1 (w.calls k t.write.2).2 := by
  unfold TcpConnectTask.write
  split
  · rw [calls_singleton]
    exact .onConnected k w
  · split
    · rw [calls_singleton]
      exact .onWrite w k.writes
    · exact .refl w

/-- A task that begins to be connected is still open. -/
theorem hearInvariant_write (h : HearInvariant w out) {t : TcpConnectTask}
    (ht : w.tasks.task = some t) {tasks : System} (htasks : tasks.task = some t.write.1)
    (hdeferred : tasks.deferred = w.tasks.deferred) :
    HearInvariant { w with tasks } out := by
  by_cases hstate : t.mState = .connecting
  · refine h.withTasks ?_ (fun u _ _ => h.fresh t ht (.inl hstate)) fun hend => ?_
    · rw [htasks]
      rintro u ⟨⟩
      exact (h.sound t ht).write
    · rcases h.ended hend with ⟨-, -, -, u, hu, hconnected⟩ | ⟨-, hnone⟩
      · rw [ht] at hu
        cases hu
        simp [hstate] at hconnected
      · exact absurd (.inl hstate) (hnone t ht)
  · have hsame : t.write.1 = t := by simp [TcpConnectTask.write, hstate]
    rw [hsame] at htasks
    exact h.withSameTask ht htasks (h.sound t ht) rfl fun hmem => by rwa [hdeferred]

/-- An event keeps the invariant. -/
theorem hearInvariant_event (h : HearInvariant w out) (triggered : EventInterest)
    (k : IoResults) :
    HearInvariant (w.runTask k (.event triggered)).1
      (out ++ (w.runTask k (.event triggered)).2) := by
  cases ht : w.tasks.task with
  | none =>
    rw [runTask, System.step_of_none ht, calls_nil, List.append_nil]
    exact h
  | some t =>
    rw [runTask, System.step_event ht]
    by_cases hguard : t.mEvent.isSome = true ∧ .disconnect ∉ w.tasks.deferred
    · rw [if_pos hguard]
      rcases t.event_cases triggered with ⟨-, hcase⟩ | ⟨reads, -, hreads, hcase⟩
      · rw [hcase, calls_nil, List.append_nil]
        exact h.withSameTask ht rfl (h.sound t ht) rfl fun hmem => absurd hmem hguard.2
      have hread : ∀ w' : World, Undisturbed w' (w'.calls k reads).1 (w'.calls k reads).2 := by
        intro w'
        rcases hreads with rfl | rfl
        · exact .refl w'
        · exact undisturbed_read k w' t
      rcases hcase with hcase | ⟨-, hcase⟩
      · rw [hcase]
        refine HearInvariant.undisturbed ?_ (hread _)
        exact h.withSameTask ht rfl (h.sound t ht) rfl (List.mem_append_left _)
      · rw [hcase, calls_append]
        refine HearInvariant.undisturbed ?_ ((hread _).trans (undisturbed_write k _ t))
        exact hearInvariant_write h ht rfl (List.append_nil _)
    · rw [if_neg hguard, calls_nil, List.append_nil]
      exact h

/-- The kernel reports the end of the stream, with nothing left to read. -/
theorem hearInvariant_endOfStream (h : HearInvariant w out) {events : UInt32} (k : IoResults)
    (hreports : w.Reports) (herrs : errs events = true) (hclosed : w.receiving.closed = true)
    (hunread : w.receiving.unread = [])
    (hconnected : ∃ t, w.tasks.task = some t ∧ t.mState = .connected) :
    HearInvariant (w.runTask k (.event (epollToInterests events))).1
      (out ++ .endOfStream :: (w.runTask k (.event (epollToInterests events))).2) := by
  obtain ⟨t, ht, hstate⟩ := hconnected
  obtain ⟨⟨u, hu, hevent⟩, hqueue⟩ := hreports
  rw [ht] at hu
  cases hu
  have hcase : t.event (epollToInterests events) = (t, t.error, []) := if_pos herrs
  rw [runTask, System.step_event ht, if_pos ⟨hevent, hqueue⟩, hcase, calls_nil]
  exact {
    heard := h.heard.append (by simp)
    sound := fun u hu => by
      cases hu
      exact h.sound t ht
    bytes := by
      obtain ⟨stale, hbytes⟩ := h.bytes
      exact ⟨stale, by rw [Transcript.ofOutputs_append]; exact hbytes⟩
    fresh := fun u hu hopen => by
      rw [Transcript.ofOutputs_append]
      exact h.fresh t ht (.inr hstate)
    once := by
      rw [Transcript.ofOutputs_append]
      exact h.once
    ended := fun _ => .inl ⟨hclosed, hunread, by simp [TcpConnectTask.error], t, rfl, hstate⟩ }

/-- A deferred callback keeps the invariant. -/
theorem hearInvariant_runDeferred (h : HearInvariant w out) {a : Answers} (hfd : a.registerFd) :
    HearInvariant (w.runTask noIo (.runDeferred a)).1
      (out ++ (w.runTask noIo (.runDeferred a)).2) := by
  cases ht : w.tasks.task with
  | none =>
    rw [runTask, System.step_of_none ht, calls_nil, List.append_nil]
    exact h
  | some t =>
    cases hdeferred : w.tasks.deferred with
    | nil =>
      have hstep : w.tasks.step (.runDeferred a) = (w.tasks, []) := by
        unfold System.step
        rw [ht, hdeferred]
      rw [runTask, hstep, calls_nil, List.append_nil]
      exact h
    | cons c rest =>
      rw [runTask, System.step_runDeferred ht hdeferred]
      -- what runs is not the `disconnect` that waits
      have hrest : c ≠ .disconnect → .disconnect ∈ w.tasks.deferred → .disconnect ∈ rest := by
        intro hc hmem
        rw [hdeferred, List.mem_cons] at hmem
        exact hmem.resolve_left (Ne.symm hc)
      cases c with
      | disconnect =>
        refine h.disconnect ht ?_ (calls_disconnect noIo _ t)
        rintro u ⟨⟩
        refine ⟨(h.sound t ht).disconnect, ?_⟩
        by_cases hopen : t.Open
        · simp [TcpConnectTask.run, TcpConnectTask.disconnect_of_open hopen,
            TcpConnectTask.Open]
        · rwa [TcpConnectTask.run, TcpConnectTask.disconnect_of_not_open hopen]
      | scheduleReconnect =>
        rw [TcpConnectTask.run, calls_nil, List.append_nil]
        exact h.withSameTask ht rfl ((h.sound t ht).congr rfl rfl rfl rfl) rfl
          (hrest fun hsame => by cases hsame)
      | reconnect =>
        have hsame : HearInvariant { w with tasks :=
            ⟨some { t with mReconnectTimeout := false }, rest, w.tasks.wanted⟩ } out :=
          h.withSameTask ht rfl ((h.sound t ht).congr rfl rfl rfl rfl) rfl
            (hrest fun hsame => by cases hsame)
        exact hsame.schedule rfl hfd rfl id

/-- `write` keeps the invariant. -/
theorem undisturbed_writeCall (w : World) (data : List UInt8) (r : WriteResult) :
    Undisturbed w (w.write data r).1 (w.write data r).2 := by
  have hsay : ∀ more : List Output, (∀ o ∈ more, o.IsPlain ∧ ∀ data, o ≠ .delivered data) →
      Undisturbed w w more := fun more hmore => .of_stream rfl hmore
  have hwritten : Undisturbed w w [.written data] := hsay _ (by simp [Output.IsPlain])
  unfold write
  split
  · exact .refl w
  · split
    · exact hwritten.trans (.enqueue w data)
    · cases r with
      | failed => exact hwritten
      | wouldBlock =>
        simp only [writeNow]
        split
        · exact hwritten
        · exact hwritten.trans (.enqueue w data)
      | accepts n =>
        simp only [writeNow]
        split
        · exact hsay _ (by simp [Output.IsPlain])
        · exact (hsay [.written data, .sent (data.take n)] (by simp [Output.IsPlain])).trans
            (.enqueue w (data.drop n))

/-- The peer sends bytes on a connection that it has not closed. -/
theorem hearInvariant_peerSends (h : HearInvariant w out) (hreach : w.Reachable)
    (hclosed : w.receiving.closed = false) (data : List UInt8) :
    HearInvariant
      { w with receiving := { w.receiving with unread := w.receiving.unread ++ data } }
      (out ++ [.received data]) where
  heard := h.heard.append (by simp)
  sound := h.sound
  bytes := by
    obtain ⟨stale, hbytes⟩ := h.bytes
    refine ⟨stale, ?_⟩
    simp only [Transcript.ofOutputs_append, List.foldl_cons, List.foldl_nil, Transcript.step]
    rw [← List.append_assoc, hbytes, List.append_assoc]
  fresh t ht hopen := by
    rw [Transcript.ofOutputs_append]
    exact h.fresh t ht hopen
  once := by
    rw [Transcript.ofOutputs_append]
    exact h.once
  ended hend := by
    rw [Transcript.ofOutputs_append] at hend
    obtain ⟨t, ht, hopen⟩ := hreach
    rcases h.ended hend with ⟨hyes, -⟩ | ⟨-, hnone⟩
    · simp [hclosed] at hyes
    · exact absurd hopen (hnone t ht)

/-- A step keeps the invariant. -/
theorem hearInvariant_step (h : HearInvariant w out) {i : StreamInput} (hreg : i.Registers)
    (hdrained : Drained w i) :
    HearInvariant (w.step i).1 (out ++ (w.step i).2) := by
  have hstay : HearInvariant w (out ++ []) := by rwa [List.append_nil]
  cases i with
  | schedule a mFd =>
    simp only [step]
    split
    · next hdeferred => exact hearInvariant_schedule h hdeferred hreg mFd
    · exact hstay
  | cancel =>
    simp only [step]
    split
    · next hdeferred => exact hearInvariant_destroy h hdeferred
    · exact hstay
  | write data r => exact h.undisturbed (undisturbed_writeCall w data r)
  | peerSends data =>
    simp only [step]
    split
    · next hguard => exact hearInvariant_peerSends h hguard.1 (by simpa using hguard.2) data
    · exact hstay
  | peerCloses =>
    simp only [step]
    split
    · rw [List.append_nil]
      exact { h with
        ended := fun hend => (h.ended hend).imp
          (fun ⟨_, hunread, hmem, ht⟩ => ⟨rfl, hunread, hmem, ht⟩) id }
    · exact hstay
  | event events k =>
    simp only [step]
    split
    · next hguard =>
      obtain ⟨hreports, herrs, hclosed⟩ := hguard
      obtain ⟨hunread, hconnected⟩ := hdrained events k rfl hreports herrs hclosed
      exact hearInvariant_endOfStream h k hreports herrs hclosed hunread hconnected
    · exact hearInvariant_event h _ k
  | expire =>
    simp only [step]
    cases ht : w.tasks.task with
    | none =>
      rw [runTask, System.step_of_none ht]
      exact hstay
    | some t =>
      have hstep : (w.tasks.step .expire).1.task = some t ∧ (w.tasks.step .expire).2 = [] ∧
          (.disconnect ∈ w.tasks.deferred →
            .disconnect ∈ (w.tasks.step .expire).1.deferred) := by
        unfold System.step
        rw [ht]
        simp only
        split
        · exact ⟨rfl, rfl, List.mem_append_left _⟩
        · exact ⟨ht, rfl, id⟩
      rw [runTask, hstep.2.1, calls_nil, List.append_nil]
      exact h.withSameTask ht hstep.1 (h.sound t ht) rfl hstep.2.2
  | readTimeout => exact h.undisturbed (.flushReadBuffer w)
  | runDeferred a => exact hearInvariant_runDeferred h hreg

theorem hearInvariant_start (config : TcpClientConfig) : HearInvariant (start config) [] where
  heard := heard_nil
  sound := fun t ht => by cases ht
  bytes := ⟨[], rfl⟩
  fresh := fun t ht => by cases ht
  once := Nat.zero_le 1
  ended := nofun

end World

/-- **Input.**  With a scheduler that registers the socket, a run of the stream delivers what
its peer sent before each end, and reports each end once, if nothing is left to read when the
kernel reports the end. -/
theorem hears_run (config : TcpClientConfig) {is : List StreamInput}
    (hreg : ∀ i ∈ is, i.Registers)
    (hdrained : Mealy.Along (fun w _ i => Drained w i) World.step (World.start config) [] is) :
    Hears (Mealy.run World.step (World.start config) is).1
      (Mealy.run World.step (World.start config) is).2 := by
  have hboth := hdrained.and (Mealy.along_of_forall (fun _ _ i hi => hreg i hi) _ _)
  exact (Mealy.invariant_run (P := fun w out => HearInvariant w out)
    (fun w out i h hok => World.hearInvariant_step h hok.2 hok.1)
    (World.hearInvariant_start config) hboth).hears

/-- The peer sends, the bytes are read, the peer closes. -/
theorem hears_separate :
    Hears
      (Mealy.run World.step (World.start ⟨"localhost", "", false, 1⟩)
        [.schedule .connects (-1), .peerSends [1, 2, 3], .event 0x0001 ⟨.upTo 8192, []⟩,
          .peerCloses, .event 0x2000 World.noIo, .runDeferred .connects]).1
      (Mealy.run World.step (World.start ⟨"localhost", "", false, 1⟩)
        [.schedule .connects (-1), .peerSends [1, 2, 3], .event 0x0001 ⟨.upTo 8192, []⟩,
          .peerCloses, .event 0x2000 World.noIo, .runDeferred .connects]).2 :=
  hears_run ⟨"localhost", "", false, 1⟩
    (fun i hi => by fin_cases hi <;> first | rfl | trivial)
    (by
      refine ⟨nofun, nofun, ?_, nofun, ?_, nofun, trivial⟩
      · rintro _ _ ⟨⟩ - herrs -
        exact absurd herrs (by decide)
      · rintro _ _ ⟨⟩ - - -
        exact ⟨rfl, _, rfl, rfl⟩)

/-- The peer sends and closes, and the kernel reports both in one event. -/
def together : List StreamInput :=
  [.schedule .connects (-1), .peerSends [1, 2, 3], .peerCloses, .event 0x2001 ⟨.upTo 8192, []⟩,
    .runDeferred .connects]

/-- The bytes are not read any more. -/
theorem not_hears_together :
    ¬Hears (Mealy.run World.step (World.start ⟨"localhost", "", false, 1⟩) together).1
      (Mealy.run World.step (World.start ⟨"localhost", "", false, 1⟩) together).2 := by
  intro h
  have hlost := h.heard [.opened, .connected, .received [1, 2, 3], .endOfStream] [.onComplete]
    (by decide) (by decide)
  exact absurd hlost (by decide)

end SuplLpp.Socket
