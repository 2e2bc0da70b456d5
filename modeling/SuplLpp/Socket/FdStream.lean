import SuplLpp.Lib.Mealy
import Mathlib.Data.List.Count
import Mathlib.Data.List.Infix

/-!
# The end of a stream

`FdStream` and `SerialStream` read a descriptor and hand on what they read when there are
`min_bytes` of it, or when a timer fires.

* `Stream` and its functions, which the two share; `FdStream.schedule`, `SerialStream.schedule`;
* `step`: what the scheduler reports to a scheduled stream; a descriptor at its end stays readable,
  and the stream stays registered;
* `Completes`: what the callbacks of a stream may rely on;
* `completes_iff`: when exactly they may.
-/

namespace SuplLpp.Io

inductive State
  | initial
  | connected
  | disconnected
  | error
  deriving DecidableEq

/-- `ReadBufferConfig`; the timeout is in milliseconds. -/
structure ReadBufferConfig where
  minBytes : ℕ
  timeout : ℤ

/-- What a stream does. -/
inductive Output
  | read (bytes : List UInt8)
  /-- The read callbacks are called. -/
  | deliver (bytes : List UInt8)
  /-- The end of the file, an error of the descriptor, or a device that does not open. -/
  | ended
  | onError
  | onComplete
  deriving DecidableEq

structure Stream where
  mState : State
  mReadConfig : ReadBufferConfig
  mReadBuffer : List UInt8
  /-- Is `mSocketTask` scheduled? -/
  mSocketTask : Bool
  /-- Is `mReadTimeoutTask` scheduled? -/
  mReadTimeoutTask : Bool

/-- How `::read` returns. -/
inductive ReadResult
  /-- No bytes are the end of the file. -/
  | bytes (data : List UInt8)
  | wouldBlock
  | error
  deriving DecidableEq

namespace Stream

def create (config : ReadBufferConfig) : Stream := ⟨.initial, config, [], false, false⟩

def flushReadBuffer (s : Stream) : Stream × List Output :=
  if s.mReadBuffer = [] then (s, []) else ({ s with mReadBuffer := [] }, [.deliver s.mReadBuffer])

def onRawRead (s : Stream) (data : List UInt8) : Stream × List Output :=
  if s.mReadConfig.minBytes ≤ (s.mReadBuffer ++ data).length then
    { s with mReadBuffer := s.mReadBuffer ++ data }.flushReadBuffer
  else ({ s with mReadBuffer := s.mReadBuffer ++ data }, [])

def setError (s : Stream) : Stream × List Output :=
  ({ s with mState := .error }, [.ended, .onError, .onComplete])

def setDisconnected (s : Stream) : Stream × List Output :=
  ({ s with mState := .disconnected }, [.ended, .onComplete])

/-- `schedule_read_timeout`; `registers`: the scheduler takes the timer. -/
def scheduleReadTimeout (s : Stream) (registers : Bool) : Stream × Bool :=
  if s.mReadConfig.timeout ≤ 0 then (s, true)
  else ({ s with mReadTimeoutTask := registers }, registers)

/-- `cancel` of both streams. -/
def cancel (s : Stream) : Stream := { s with mSocketTask := false, mReadTimeoutTask := false }

/-- `on_read` of `mSocketTask`, the same in both streams. -/
def onRead (s : Stream) : ReadResult → Stream × List Output
  | .bytes [] => s.setDisconnected
  | .bytes data =>
      let t := s.onRawRead data
      (t.1, .read data :: t.2)
  | .wouldBlock => (s, [])
  | .error => s.setError

end Stream

/-- What the system answers to `schedule`. -/
structure Answers where
  /-- Does the device open? -/
  opens : Bool
  /-- Do `tcgetattr` and `tcsetattr` succeed? -/
  configures : Bool
  registerFd : Bool
  registerTimer : Bool

/-- The end of `schedule`, when the task is scheduled. -/
def Stream.connect (s : Stream) (a : Answers) : Stream :=
  let t := { s with mSocketTask := true }.scheduleReadTimeout a.registerTimer
  if t.2 then { t.1 with mState := .connected } else { t.1 with mSocketTask := false }

def FdStream.schedule (s : Stream) (a : Answers) : Stream × List Output :=
  if !a.registerFd then (s, []) else (s.connect a, [])

def SerialStream.schedule (raw : Bool) (s : Stream) (a : Answers) : Stream × List Output :=
  if !a.opens then s.setError
  else if !raw && !a.configures then s.setError
  else if !a.registerFd then (s, [])
  else (s.connect a, [])

/-- The two streams. -/
inductive Kind
  | fd
  | serial (raw : Bool)
  deriving DecidableEq

/-- A new stream, scheduled. -/
def Kind.start (k : Kind) (config : ReadBufferConfig) (a : Answers) : Stream × List Output :=
  match k with
  | .fd => FdStream.schedule (.create config) a
  | .serial raw => SerialStream.schedule raw (.create config) a

/-- What happens to a scheduled stream; an event can be a `read` and an `error` after it. -/
inductive Input
  | read (r : ReadResult)
  /-- An error or a hangup of the descriptor. -/
  | error
  | timeout
  | cancel
  deriving DecidableEq

namespace Stream

/-- One input; what is not scheduled is not called. -/
def step (s : Stream) : Input → Stream × List Output
  | .read r => if s.mSocketTask then s.onRead r else (s, [])
  | .error => if s.mSocketTask then s.setError else (s, [])
  | .timeout => if s.mReadTimeoutTask then s.flushReadBuffer else (s, [])
  | .cancel => (s.cancel, [])

end Stream

/-! ### What the callbacks see -/

def bytesRead (es : List Output) : List UInt8 :=
  es.flatMap fun
    | .read bytes => bytes
    | _ => []

def delivered (es : List Output) : List UInt8 :=
  es.flatMap fun
    | .deliver bytes => bytes
    | _ => []

@[simp] theorem bytesRead_append (es es' : List Output) :
    bytesRead (es ++ es') = bytesRead es ++ bytesRead es' := List.flatMap_append

@[simp] theorem delivered_append (es es' : List Output) :
    delivered (es ++ es') = delivered es ++ delivered es' := List.flatMap_append

/-- **What a stream promises**, in every state. -/
structure Completes (es : List Output) : Prop where
  inOrder : delivered es <+: bytesRead es
  /-- On completion everything is delivered, a short tail included. -/
  whole : .onComplete ∈ es → delivered es = bytesRead es
  silent : ∀ before after, es = before ++ .onComplete :: after → delivered after = []
  once : es.count .onComplete = if .ended ∈ es then 1 else 0

/-- Does the input end a stream that is scheduled? -/
def Input.Ends : Input → Prop
  | .read (.bytes []) | .read .error | .error => True
  | _ => False

/-- Does the input bring bytes? -/
def Input.Brings : Input → Prop
  | .read (.bytes (_ :: _)) => True
  | _ => False

/-- The end comes once, when nothing waits in the buffer, and nothing is read behind it. -/
def Clean (s : Stream) (es : List Output) (i : Input) : Prop :=
  s.mSocketTask = true →
    (i.Ends → s.mReadBuffer = [] ∧ .onComplete ∉ es) ∧ (i.Brings → .onComplete ∉ es)

/-- What a stream keeps. -/
structure Kept (s : Stream) (es : List Output) : Prop where
  bytes : bytesRead es = delivered es ++ s.mReadBuffer
  empty : .onComplete ∈ es → s.mReadBuffer = []
  silent : ∀ before after, es = before ++ .onComplete :: after → delivered after = []
  once : es.count .onComplete = if .ended ∈ es then 1 else 0

variable {s : Stream} {es es' : List Output}

theorem Kept.completes (h : Kept s es) : Completes es where
  inOrder := by
    rw [h.bytes]
    exact List.prefix_append _ _
  whole hcomplete := by rw [h.bytes, h.empty hcomplete, List.append_nil]
  silent := h.silent
  once := h.once

/-- Where the first completion stands behind what was before. -/
theorem delivered_of_notMem (hnot : .onComplete ∉ es) {before after : List Output}
    (hsplit : es ++ es' = before ++ .onComplete :: after) :
    ∃ between, es' = between ++ .onComplete :: after := by
  rcases List.append_eq_append_iff.1 hsplit with ⟨gap, -, hes'⟩ | ⟨gap, hes, hrest⟩
  · exact ⟨gap, hes'⟩
  · cases gap with
    | nil => exact ⟨[], hrest.symm⟩
    | cons o gap =>
      obtain ⟨rfl, -⟩ := List.cons.inj hrest
      exact absurd (by rw [hes]; simp) hnot

/-- Bytes that are delivered, or wait. -/
theorem Kept.snoc (h : Kept s es) (hnot : .onComplete ∉ es) (hnot' : .onComplete ∉ es')
    (hended : .ended ∉ es') {t : Stream}
    (hbytes : s.mReadBuffer ++ bytesRead es' = delivered es' ++ t.mReadBuffer) :
    Kept t (es ++ es') where
  bytes := by rw [bytesRead_append, delivered_append, h.bytes, List.append_assoc, hbytes,
    List.append_assoc]
  empty hmem := by
    rcases List.mem_append.1 hmem with hmem | hmem
    · exact absurd hmem hnot
    · exact absurd hmem hnot'
  silent before after hsplit := by
    obtain ⟨between, hes'⟩ := delivered_of_notMem hnot hsplit
    exact absurd (by rw [hes']; simp) hnot'
  once := by
    rw [List.count_append, h.once, List.count_eq_zero.2 hnot', Nat.add_zero]
    simp [hended]

/-- The end of a stream whose buffer is empty. -/
theorem Kept.ends (h : Kept s es) (hnot : .onComplete ∉ es) (hempty : s.mReadBuffer = [])
    (calls : List Output) (hcalls : calls = [.ended] ∨ calls = [.ended, .onError]) {t : Stream}
    (ht : t.mReadBuffer = []) : Kept t (es ++ (calls ++ [.onComplete])) where
  bytes := by
    have hread : bytesRead (calls ++ [.onComplete]) = [] := by rcases hcalls with rfl | rfl <;> rfl
    have hdelivered : delivered (calls ++ [.onComplete]) = [] := by
      rcases hcalls with rfl | rfl <;> rfl
    rw [bytesRead_append, delivered_append, hread, hdelivered, h.bytes, hempty, ht]
  empty _ := ht
  silent before after hsplit := by
    obtain ⟨between, hes'⟩ := delivered_of_notMem hnot hsplit
    -- nothing stands behind the last call
    rcases List.eq_nil_or_concat after with rfl | ⟨after, o, rfl⟩
    · rfl
    · have hinit : calls ++ [.onComplete] = (between ++ .onComplete :: after) ++ [o] := by
        simpa using hes'
      have hmem : .onComplete ∈ calls := by
        rw [(List.append_inj' hinit rfl).1]
        simp
      rcases hcalls with rfl | rfl <;> simp at hmem
  once := by
    have hbefore : .ended ∉ es := by
      intro hmem
      have hcount := h.once
      rw [if_pos hmem, List.count_eq_zero.2 hnot] at hcount
      cases hcount
    rw [List.count_append, List.count_eq_zero.2 hnot]
    rcases hcalls with rfl | rfl <;> simp [hbefore]

/-- The two ways to end. -/
theorem onRead_ends (s : Stream) {r : ReadResult} (h : Input.Ends (.read r)) :
    ∃ calls, (calls = [.ended] ∨ calls = [.ended, .onError]) ∧
      (s.onRead r).2 = calls ++ [.onComplete] ∧
      (s.onRead r).1.mReadBuffer = s.mReadBuffer := by
  rcases r with ⟨_ | _⟩ | _ | _
  · exact ⟨[.ended], .inl rfl, rfl, rfl⟩
  · exact absurd h not_false
  · exact absurd h not_false
  · exact ⟨[.ended, .onError], .inr rfl, rfl, rfl⟩

/-- Bytes are delivered, or wait. -/
theorem onRawRead_cases (s : Stream) (data : List UInt8) :
    (s.mReadBuffer ++ data = delivered (s.onRawRead data).2 ++ (s.onRawRead data).1.mReadBuffer) ∧
      (∀ o ∈ (s.onRawRead data).2, ∃ bytes, o = .deliver bytes) := by
  unfold Stream.onRawRead
  split
  · unfold Stream.flushReadBuffer
    split
    · exact ⟨rfl, fun o ho => by cases ho⟩
    · refine ⟨by simp [delivered], fun o ho => ⟨_, List.mem_singleton.1 ho⟩⟩
  · exact ⟨rfl, fun o ho => by cases ho⟩

theorem bytesRead_of_deliver (h : ∀ o ∈ es, ∃ bytes, o = .deliver bytes) : bytesRead es = [] := by
  refine List.flatMap_eq_nil_iff.2 fun o ho => ?_
  obtain ⟨bytes, rfl⟩ := h o ho
  rfl

/-- What a stream is told after its completion. -/
theorem Completes.notMem_of_brings {data : List UInt8} (hne : data ≠ [])
    (h : Completes (es ++ .read data :: es')) (hkept : Kept s es)
    (hes' : ∀ o ∈ es', ∃ bytes, o = .deliver bytes) : .onComplete ∉ es := by
  intro hmem
  obtain ⟨before, after, rfl⟩ := List.append_of_mem hmem
  have hread : bytesRead es' = [] := bytesRead_of_deliver hes'
  have hsilent := h.silent before (after ++ .read data :: es') (by simp)
  have hwhole := h.whole (by simp)
  rw [delivered_append] at hsilent
  have hlate := (List.append_eq_nil_iff.1 hsilent).2
  rw [delivered_append, hlate, List.append_nil, bytesRead_append, hkept.bytes,
    hkept.empty hmem, List.append_nil] at hwhole
  have hnil := List.self_eq_append_right.1 hwhole
  have hdata : bytesRead (.read data :: es') = data ++ bytesRead es' := rfl
  rw [hdata, hread, List.append_nil] at hnil
  exact hne hnil

/-- An end is the first one, and nothing waits. -/
theorem Completes.clean_of_ends (calls : List Output)
    (hcalls : calls = [.ended] ∨ calls = [.ended, .onError])
    (h : Completes (es ++ (calls ++ [.onComplete]))) (hkept : Kept s es) :
    s.mReadBuffer = [] ∧ .onComplete ∉ es := by
  have hread : bytesRead (calls ++ [.onComplete]) = [] := by rcases hcalls with rfl | rfl <;> rfl
  have hdelivered : delivered (calls ++ [.onComplete]) = [] := by
    rcases hcalls with rfl | rfl <;> rfl
  constructor
  · have hwhole := h.whole (by simp)
    rw [delivered_append, bytesRead_append, hread, hdelivered, hkept.bytes] at hwhole
    simpa using hwhole
  · intro hmem
    have hcount := h.once
    have hpos : 0 < es.count .onComplete := List.count_pos_iff.2 hmem
    rw [List.count_append] at hcount
    rcases hcalls with rfl | rfl <;> simp at hcount <;> omega

/-- **One input**: a clean one keeps the promise, and every other breaks it. -/
theorem kept_step (h : Kept s es) (i : Input) :
    (Clean s es i → Kept (s.step i).1 (es ++ (s.step i).2)) ∧
      (¬Clean s es i → ¬Completes (es ++ (s.step i).2)) := by
  have hsame : ∀ t : Stream, t.mReadBuffer = s.mReadBuffer → Kept t (es ++ []) := by
    intro t ht
    rw [List.append_nil]
    exact ⟨by rw [ht, h.bytes], fun hmem => by rw [ht, h.empty hmem], h.silent, h.once⟩
  cases i with
  | cancel =>
    refine ⟨fun _ => hsame _ rfl, fun hnot => absurd (fun _ => ⟨?_, ?_⟩) hnot⟩
    · exact fun hends => absurd hends not_false
    · exact fun hbrings => absurd hbrings not_false
  | timeout =>
    refine ⟨fun _ => ?_, fun hnot => absurd (fun _ => ⟨?_, ?_⟩) hnot⟩
    · rw [Stream.step]
      split
      · rw [Stream.flushReadBuffer]
        split
        · exact hsame s rfl
        · next hne =>
          have hnot : .onComplete ∉ es := fun hmem => hne (h.empty hmem)
          exact h.snoc hnot (by simp) (by simp) (by simp [bytesRead, delivered])
      · exact hsame s rfl
    · exact fun hends => absurd hends not_false
    · exact fun hbrings => absurd hbrings not_false
  | error =>
    cases htask : s.mSocketTask with
    | false =>
      simp only [Stream.step, htask]
      exact ⟨fun _ => hsame s rfl, fun hnot => absurd (fun ht => by simp [htask] at ht) hnot⟩
    | true =>
      simp only [Stream.step, htask, if_true]
      constructor
      · intro hclean
        obtain ⟨hempty, hnot⟩ := (hclean htask).1 trivial
        exact h.ends hnot hempty [.ended, .onError] (.inr rfl) hempty
      · intro hnot hcompletes
        refine hnot fun _ => ⟨fun _ => ?_, fun hbrings => absurd hbrings not_false⟩
        exact hcompletes.clean_of_ends [.ended, .onError] (.inr rfl) h
  | read r =>
    cases htask : s.mSocketTask with
    | false =>
      simp only [Stream.step, htask]
      exact ⟨fun _ => hsame s rfl, fun hnot => absurd (fun ht => by simp [htask] at ht) hnot⟩
    | true =>
      simp only [Stream.step, htask, if_true]
      by_cases hends : Input.Ends (.read r)
      · obtain ⟨calls, hcalls, hout, hbuffer⟩ := onRead_ends s hends
        rw [hout]
        constructor
        · intro hclean
          obtain ⟨hempty, hnot⟩ := (hclean htask).1 hends
          exact h.ends hnot hempty _ hcalls (hbuffer.trans hempty)
        · intro hnot hcompletes
          refine hnot fun _ => ⟨fun _ => hcompletes.clean_of_ends _ hcalls h, fun hbrings => ?_⟩
          rcases r with ⟨_ | _⟩ | _ | _
          · exact absurd hbrings not_false
          · exact absurd hends not_false
          · exact absurd hbrings not_false
          · exact absurd hbrings not_false
      · rcases r with ⟨_ | ⟨b, data⟩⟩ | _ | _
        · exact absurd trivial hends
        · obtain ⟨hbytes, hdeliver⟩ := onRawRead_cases s (b :: data)
          have hout : (s.onRead (.bytes (b :: data))).2 =
              .read (b :: data) :: (s.onRawRead (b :: data)).2 := rfl
          rw [hout]
          constructor
          · intro hclean
            have hnot := (hclean htask).2 trivial
            have hnone : ∀ o, (∀ bytes, o ≠ .deliver bytes) →
                o ∉ (s.onRawRead (b :: data)).2 := by
              intro o ho hmem
              obtain ⟨bytes, rfl⟩ := hdeliver o hmem
              exact ho bytes rfl
            have hread : bytesRead (.read (b :: data) :: (s.onRawRead (b :: data)).2) =
                b :: data := by
              have hnil := bytesRead_of_deliver hdeliver
              simp only [bytesRead, List.flatMap_cons] at hnil ⊢
              rw [hnil, List.append_nil]
            refine h.snoc hnot ?_ ?_ (by rw [hread]; exact hbytes)
            · simp [hnone]
            · simp [hnone]
          · intro hnot hcompletes
            refine hnot fun _ => ⟨fun he => absurd he hends, fun _ => ?_⟩
            exact hcompletes.notMem_of_brings (List.cons_ne_nil b data) h hdeliver
        · refine ⟨fun _ => hsame s rfl, fun hnot => absurd (fun _ => ⟨?_, ?_⟩) hnot⟩
          · exact fun he => absurd he not_false
          · exact fun hb => absurd hb not_false
        · exact absurd trivial hends

/-- The state and the calls after `schedule` and some inputs. -/
def runOf (k : Kind) (config : ReadBufferConfig) (a : Answers) (is : List Input) : List Output :=
  (k.start config a).2 ++ (Mealy.run Stream.step (k.start config a).1 is).2

theorem kept_start (k : Kind) (config : ReadBufferConfig) (a : Answers) :
    Kept (k.start config a).1 (k.start config a).2 := by
  have hnew : ∀ t : Stream, t.mReadBuffer = [] → Kept t [] := by
    intro t ht
    refine ⟨?_, fun _ => ht, fun before after hsplit => ?_, rfl⟩
    · rw [ht]
      rfl
    · simp at hsplit
  have hconnect : ((Stream.create config).connect a).mReadBuffer = [] := by
    unfold Stream.connect Stream.scheduleReadTimeout
    dsimp only
    split_ifs <;> rfl
  have hfails : Kept (Stream.create config).setError.1 (Stream.create config).setError.2 :=
    (hnew (.create config) rfl).ends (by simp) rfl [.ended, .onError] (.inr rfl) rfl
  cases k with
  | fd =>
    rw [Kind.start, FdStream.schedule]
    split
    · exact hnew _ rfl
    · exact hnew _ hconnect
  | serial raw =>
    rw [Kind.start, SerialStream.schedule]
    split_ifs
    · exact hfails
    · exact hfails
    · exact hnew _ rfl
    · exact hnew _ hconnect

/-- **When a stream completes as it should**: in every state of a run, if and only if its end is
reported once, when nothing waits in the buffer, and nothing is read behind it. -/
theorem completes_iff (k : Kind) (config : ReadBufferConfig) (a : Answers) (is : List Input) :
    (∀ js, js <+: is → Completes (runOf k config a js)) ↔
      Mealy.Along Clean Stream.step (k.start config a).1 (k.start config a).2 is := by
  have hgood : ∀ (s : Stream) es, Kept s es → Completes es := fun _ _ h => h.completes
  have hbad : ∀ (s : Stream) es i, Kept s es → True → ¬Clean s es i →
      ¬Completes (es ++ (s.step i).2) := fun _ _ i h _ => (kept_step h i).2
  have hstep : ∀ (s : Stream) es i, Kept s es → True → Clean s es i →
      Kept (s.step i).1 (es ++ (s.step i).2) := fun _ _ i h _ => (kept_step h i).1
  exact Mealy.states_good_iff_along (fun _ => True) hgood hbad hstep (kept_start k config a)
    (fun _ _ => trivial)

/-- A file of two bytes, of which the configuration wants four at a time. -/
def shortTail : List Input := [.read (.bytes [1, 2]), .read (.bytes [])]

/-- It completes without its tail. -/
theorem not_completes_shortTail :
    ¬Completes (runOf .fd ⟨4, 0⟩ ⟨true, true, true, true⟩ shortTail) := by
  intro h
  exact absurd (h.whole (by decide)) (by decide)

/-- The end of a file is reported again: a descriptor at its end stays readable. -/
theorem not_completes_again :
    ¬Completes (runOf .fd ⟨1, 0⟩ ⟨true, true, true, true⟩
      [.read (.bytes [1, 2]), .read (.bytes []), .read (.bytes [])]) := by
  intro h
  exact absurd h.once (by decide)

end SuplLpp.Io
