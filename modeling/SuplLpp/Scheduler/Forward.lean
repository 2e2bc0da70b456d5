import SuplLpp.Lib.Mealy
import Mathlib.Data.List.Infix

/-!
# Forwarding a stream

`ForwardStreamTask` moves what it reads from one descriptor to another, once in a round.  A block
that the destination does not take whole stays in `mBuffer`, and `mLeftOverCount` bytes of it, at
the end of the buffer, are written in the next round.

* `forward`, `loop`: a round, with what `::read` and `::write` return as a parameter;
* `Exact`: what forwarding promises; `Stored`: what was read and not written lies at the end of the
  buffer; `stored_forward` keeps it;
* `forward_exact_iff`: when exactly a run keeps the promise.
-/

namespace SuplLpp.Sched

/-! ### The task -/

/-- `BUFFER_SIZE`. -/
def bufferSize : ℕ := 16 * 1024

/-- What the task does to the two descriptors, and `on_complete`. -/
inductive ForwardEvent
  | read (bytes : List UInt8)
  | written (bytes : List UInt8)
  | complete
  deriving DecidableEq

/-- What `::read` and the `::write` after it return. -/
structure Answer where
  /-- `none` is -1, and no bytes are the end of the stream. -/
  read : Option (List UInt8)
  /-- `none` is -1; no call writes more than it is given. -/
  write : Option ℕ

/-- What the calls of a round return: the `::write` of what is left over, and those of the loop,
where a `::read` without an answer fails. -/
structure Round where
  retry : Option ℕ
  answers : List Answer

structure ForwardStreamTask where
  /-- Is the periodic task scheduled? -/
  scheduled : Bool
  mBuffer : List UInt8
  mLeftOverCount : ℕ

namespace ForwardStreamTask

/-- The bytes `mBuffer + (sizeof(mBuffer) - mLeftOverCount)`. -/
def leftOver (s : ForwardStreamTask) : List UInt8 :=
  s.mBuffer.drop (bufferSize - s.mLeftOverCount)

/-- `::read` into the buffer. -/
def fill (s : ForwardStreamTask) (data : List UInt8) : ForwardStreamTask :=
  { s with mBuffer := data ++ s.mBuffer.drop data.length }

/-- How much a `::write` of `count` bytes takes. -/
def taken (write : Option ℕ) (count : ℕ) : ℕ :=
  match write with
  | none => 0
  | some n => min n count

/-- The loop of `forward`, after `total` bytes of the block. -/
def loop (blockSize : ℕ) (s : ForwardStreamTask) (total : ℕ) :
    List Answer → ForwardStreamTask × List ForwardEvent
  | [] => (s, [])
  | a :: answers =>
      if blockSize ≤ total then (s, [])
      else
        match a.read with
        | none => (s, [])
        | some bytes =>
            let data := bytes.take (min (blockSize - total) bufferSize)
            if data = [] then ({ s with scheduled := false }, [.complete])
            else
              let written := taken a.write data.length
              if written ≠ data.length then
                ({ s.fill data with mLeftOverCount := data.length - written },
                  [.read data, .written (data.take written)])
              else
                let t := loop blockSize (s.fill data) (total + written) answers
                (t.1, .read data :: .written data :: t.2)

def forward (blockSize : ℕ) (s : ForwardStreamTask) (r : Round) :
    ForwardStreamTask × List ForwardEvent :=
  if s.scheduled = false then (s, [])
  else if 0 < s.mLeftOverCount then
    match r.retry with
    | none => (s, [])
    | some n =>
        let written := min n s.mLeftOverCount
        if written ≠ bufferSize - s.mLeftOverCount then
          ({ s with mLeftOverCount := s.mLeftOverCount - written },
            [.written (s.leftOver.take written)])
        else
          let t := loop blockSize { s with mLeftOverCount := 0 } 0 r.answers
          (t.1, .written (s.leftOver.take written) :: t.2)
  else loop blockSize s 0 r.answers

/-- A scheduled task; the constructor does not initialize `mBuffer`. -/
def create (mBuffer : List UInt8) : ForwardStreamTask := ⟨true, mBuffer, 0⟩

end ForwardStreamTask

/-! ### What is read and written -/

def bytesRead (es : List ForwardEvent) : List UInt8 :=
  es.flatMap fun
    | .read bytes => bytes
    | _ => []

def bytesWritten (es : List ForwardEvent) : List UInt8 :=
  es.flatMap fun
    | .written bytes => bytes
    | _ => []

@[simp] theorem bytesRead_append (es es' : List ForwardEvent) :
    bytesRead (es ++ es') = bytesRead es ++ bytesRead es' := List.flatMap_append

@[simp] theorem bytesWritten_append (es es' : List ForwardEvent) :
    bytesWritten (es ++ es') = bytesWritten es ++ bytesWritten es' := List.flatMap_append

@[simp] theorem bytesRead_nil : bytesRead [] = [] := rfl

@[simp] theorem bytesWritten_nil : bytesWritten [] = [] := rfl

@[simp] theorem bytesRead_read (bytes : List UInt8) (es : List ForwardEvent) :
    bytesRead (.read bytes :: es) = bytes ++ bytesRead es := rfl

@[simp] theorem bytesRead_written (bytes : List UInt8) (es : List ForwardEvent) :
    bytesRead (.written bytes :: es) = bytesRead es := rfl

@[simp] theorem bytesRead_complete (es : List ForwardEvent) :
    bytesRead (.complete :: es) = bytesRead es := rfl

@[simp] theorem bytesWritten_read (bytes : List UInt8) (es : List ForwardEvent) :
    bytesWritten (.read bytes :: es) = bytesWritten es := rfl

@[simp] theorem bytesWritten_written (bytes : List UInt8) (es : List ForwardEvent) :
    bytesWritten (.written bytes :: es) = bytes ++ bytesWritten es := rfl

@[simp] theorem bytesWritten_complete (es : List ForwardEvent) :
    bytesWritten (.complete :: es) = bytesWritten es := rfl

/-- At every moment what was written is the beginning of what was read, and all of it when
`on_complete` is called. -/
structure InOrder (es : List ForwardEvent) : Prop where
  written : ∀ js, js <+: es → bytesWritten js <+: bytesRead js
  complete : ∀ js, js ++ [.complete] <+: es → bytesWritten js = bytesRead js

/-- The destination takes all that it is given. -/
structure Accepts (r : Round) : Prop where
  retry : ∃ n, r.retry = some n ∧ bufferSize ≤ n
  answers : ∀ a ∈ r.answers, ∃ n, a.write = some n ∧ bufferSize ≤ n

/-- **What forwarding promises** in a state, after `es`: also that a round in which the destination
takes all it is given leaves nothing that was read unwritten. -/
structure Exact (blockSize : ℕ) (s : ForwardStreamTask) (es : List ForwardEvent) : Prop where
  inOrder : InOrder es
  eventually : ∀ r, Accepts r →
    bytesWritten (es ++ (s.forward blockSize r).2) = bytesRead (es ++ (s.forward blockSize r).2)

section InOrder

variable {es es' : List ForwardEvent}

theorem inOrder_nil : InOrder [] where
  written js hjs := by
    rw [List.prefix_nil.1 hjs]
    exact List.prefix_rfl
  complete js hjs := by
    have hnil := List.prefix_nil.1 hjs
    simp at hnil

/-- Behind events that wrote all that was read. -/
theorem InOrder.append (h : InOrder es) (hall : bytesWritten es = bytesRead es)
    (h' : InOrder es') : InOrder (es ++ es') where
  written js hjs := by
    rcases List.prefix_or_prefix_of_prefix hjs (List.prefix_append es es') with hle | ⟨ks, rfl⟩
    · exact h.written js hle
    · rw [bytesWritten_append, bytesRead_append, hall, List.prefix_append_right_inj]
      exact h'.written ks ((List.prefix_append_right_inj es).1 hjs)
  complete js hjs := by
    rcases List.prefix_or_prefix_of_prefix hjs (List.prefix_append es es') with hle | ⟨ks, hks⟩
    · exact h.complete js hle
    · rcases List.eq_nil_or_concat ks with rfl | ⟨ks, e, rfl⟩
      · rw [List.append_nil] at hks
        exact h.complete js (by rw [hks])
      · rw [List.concat_eq_append, ← List.append_assoc] at hks
        obtain ⟨rfl, he⟩ := List.append_inj' hks rfl
        rw [← hks, List.append_assoc, List.prefix_append_right_inj] at hjs
        rw [bytesWritten_append, bytesRead_append, hall]
        obtain rfl := List.singleton_inj.1 he
        rw [h'.complete ks hjs]

/-- One more write of what was read. -/
theorem InOrder.snoc_written (h : InOrder es) {bytes : List UInt8}
    (hbytes : bytesWritten es ++ bytes <+: bytesRead es) :
    InOrder (es ++ [.written bytes]) where
  written js hjs := by
    rcases List.prefix_concat_iff.1 hjs with rfl | hle
    · simpa using hbytes
    · exact h.written js hle
  complete js hjs := by
    rcases List.prefix_concat_iff.1 hjs with heq | hle
    · have hlast := (List.append_inj' heq rfl).2
      cases hlast
    · exact h.complete js hle

theorem inOrder_read (data : List UInt8) : InOrder [.read data] where
  written js hjs := by
    rcases (@List.prefix_concat_iff _ js [] _).1 hjs with rfl | hle
    · exact List.nil_prefix
    · rw [List.prefix_nil.1 hle]
      exact List.prefix_rfl
  complete js hjs := by
    rcases (@List.prefix_concat_iff _ _ [] _).1 hjs with heq | hle
    · cases (List.append_inj' heq rfl).2
    · simp at hle

/-- A block and what was taken of it. -/
theorem inOrder_block (data : List UInt8) (n : ℕ) :
    InOrder [.read data, .written (data.take n)] :=
  (inOrder_read data).snoc_written (by simpa using List.take_prefix n data)

theorem inOrder_complete : InOrder [.complete] where
  written js hjs := by
    rcases (@List.prefix_concat_iff _ _ [] _).1 hjs with rfl | hle
    · exact List.prefix_rfl
    · rw [List.prefix_nil.1 hle]
      exact List.prefix_rfl
  complete js hjs := by
    rcases (@List.prefix_concat_iff _ _ [] _).1 hjs with heq | hle
    · obtain ⟨rfl, -⟩ := List.append_inj' heq rfl
      rfl
    · simp at hle

end InOrder

/-! ### What is stored -/

/-- What was read and not written lies where the next round looks for it. -/
structure Stored (s : ForwardStreamTask) (es : List ForwardEvent) : Prop where
  length_buffer : s.mBuffer.length = bufferSize
  leftOver_le : s.mLeftOverCount ≤ bufferSize
  bytes : bytesRead es = bytesWritten es ++ s.leftOver
  ended : s.scheduled = false → s.mLeftOverCount = 0

namespace ForwardStreamTask

variable {blockSize : ℕ} {s : ForwardStreamTask}

theorem length_leftOver (hlength : s.mBuffer.length = bufferSize)
    (hle : s.mLeftOverCount ≤ bufferSize) : s.leftOver.length = s.mLeftOverCount := by
  rw [leftOver, List.length_drop, hlength]
  omega

theorem leftOver_of_zero (hlength : s.mBuffer.length = bufferSize) (hzero : s.mLeftOverCount = 0) :
    s.leftOver = [] := by
  rw [← List.length_eq_zero_iff, length_leftOver hlength (by omega), hzero]

theorem length_fill (hlength : s.mBuffer.length = bufferSize) {data : List UInt8}
    (hdata : data.length ≤ bufferSize) : (s.fill data).mBuffer.length = bufferSize := by
  rw [fill, List.length_append, List.length_drop, hlength]
  omega

theorem taken_le (write : Option ℕ) (count : ℕ) : taken write count ≤ count := by
  cases write with
  | none => exact Nat.zero_le _
  | some n => exact Nat.min_le_right _ _

/-- The block of a round, as far as it goes. -/
theorem length_block_le (blockSize total : ℕ) (bytes : List UInt8) :
    (bytes.take (min (blockSize - total) bufferSize)).length ≤ bufferSize := by
  rw [List.length_take]
  omega

/-- A block that is cut short has its rest at the end of the buffer. -/
def Placed (s : ForwardStreamTask) (data : List UInt8) (written : ℕ) : Prop :=
  (s.fill data).mBuffer.drop (bufferSize - (data.length - written)) = data.drop written

/-- In the loop, the block that is cut short is in place. -/
def LoopKeeps (blockSize : ℕ) (s : ForwardStreamTask) (total : ℕ) : List Answer → Prop
  | [] => True
  | a :: answers =>
      total < blockSize → ∀ bytes, a.read = some bytes →
        let data := bytes.take (min (blockSize - total) bufferSize)
        data ≠ [] →
          let written := taken a.write data.length
          if written ≠ data.length then s.Placed data written
          else LoopKeeps blockSize (s.fill data) (total + written) answers

/-- What decides whether a round keeps the promise: a block that is cut short is in place, and the
retry does not write `sizeof(mBuffer) - mLeftOverCount` bytes, unless these are all. -/
def Keeps (blockSize : ℕ) (s : ForwardStreamTask) (_es : List ForwardEvent) (r : Round) : Prop :=
  s.scheduled = true →
    (s.mLeftOverCount = 0 → LoopKeeps blockSize s 0 r.answers) ∧
    (0 < s.mLeftOverCount → ∀ n, r.retry = some n →
      min n s.mLeftOverCount = bufferSize - s.mLeftOverCount →
        min n s.mLeftOverCount = s.mLeftOverCount ∧
          LoopKeeps blockSize { s with mLeftOverCount := 0 } 0 r.answers)

section Answer

variable {total : ℕ} {a : Answer} {bytes data : List UInt8} {answers : List Answer}

theorem loop_block (hlt : total < blockSize) (hread : a.read = some bytes)
    (hdata : bytes.take (min (blockSize - total) bufferSize) = data) (hne : data ≠ []) :
    loop blockSize s total (a :: answers) =
      if taken a.write data.length ≠ data.length then
        ({ s.fill data with mLeftOverCount := data.length - taken a.write data.length },
          [.read data, .written (data.take (taken a.write data.length))])
      else
        ((loop blockSize (s.fill data) (total + taken a.write data.length) answers).1,
          .read data :: .written data ::
            (loop blockSize (s.fill data) (total + taken a.write data.length) answers).2) := by
  subst hdata
  simp only [loop, if_neg (Nat.not_le.2 hlt), hread, if_neg hne]

theorem loopKeeps_block (hlt : total < blockSize) (hread : a.read = some bytes)
    (hdata : bytes.take (min (blockSize - total) bufferSize) = data) (hne : data ≠ []) :
    LoopKeeps blockSize s total (a :: answers) ↔
      if taken a.write data.length ≠ data.length then s.Placed data (taken a.write data.length)
      else LoopKeeps blockSize (s.fill data) (total + taken a.write data.length) answers := by
  subst hdata
  constructor
  · intro h
    exact h hlt bytes hread hne
  · intro h _ bytes' hbytes'
    obtain rfl := Option.some.inj (hread.symm.trans hbytes')
    exact fun _ => h

/-- How one answer goes on: the loop ends, or with it the stream, or a block is cut short, or it is
written whole. -/
theorem loop_cases (blockSize : ℕ) (s : ForwardStreamTask) (total : ℕ) (a : Answer)
    (answers : List Answer) :
    (loop blockSize s total (a :: answers) = (s, []) ∧
      LoopKeeps blockSize s total (a :: answers)) ∨
    (loop blockSize s total (a :: answers) = ({ s with scheduled := false }, [.complete]) ∧
      LoopKeeps blockSize s total (a :: answers)) ∨
    ∃ data : List UInt8, data.length ≤ bufferSize ∧
      ((∃ written, written < data.length ∧
        loop blockSize s total (a :: answers) =
          ({ s.fill data with mLeftOverCount := data.length - written },
            [.read data, .written (data.take written)]) ∧
        (LoopKeeps blockSize s total (a :: answers) ↔ s.Placed data written)) ∨
      (taken a.write data.length = data.length ∧
        loop blockSize s total (a :: answers) =
          ((loop blockSize (s.fill data) (total + data.length) answers).1,
            .read data :: .written data ::
              (loop blockSize (s.fill data) (total + data.length) answers).2) ∧
        (LoopKeeps blockSize s total (a :: answers) ↔
          LoopKeeps blockSize (s.fill data) (total + data.length) answers))) := by
  rcases Nat.lt_or_ge total blockSize with hlt | hdone
  · cases hread : a.read with
    | none =>
      refine .inl ⟨by simp [loop, Nat.not_le.2 hlt, hread], fun _ bytes hbytes => ?_⟩
      cases hread.symm.trans hbytes
    | some bytes =>
      have hle := length_block_le blockSize total bytes
      by_cases hnil : bytes.take (min (blockSize - total) bufferSize) = []
      · refine .inr (.inl ⟨?_, fun _ bytes' hbytes' hne => ?_⟩)
        · simp only [loop, if_neg (Nat.not_le.2 hlt), hread, if_pos hnil]
        · obtain rfl := Option.some.inj (hread.symm.trans hbytes')
          exact absurd hnil hne
      · refine .inr (.inr ⟨_, hle, ?_⟩)
        rw [loop_block hlt hread rfl hnil, loopKeeps_block hlt hread rfl hnil]
        by_cases hwhole : taken a.write
            (bytes.take (min (blockSize - total) bufferSize)).length =
              (bytes.take (min (blockSize - total) bufferSize)).length
        · refine .inr ⟨hwhole, ?_, ?_⟩
          · rw [if_neg (not_not.2 hwhole), hwhole]
          · rw [if_neg (not_not.2 hwhole), hwhole]
        · refine .inl ⟨_, lt_of_le_of_ne (taken_le _ _) hwhole, ?_, ?_⟩
          · rw [if_pos hwhole]
          · rw [if_pos hwhole]
  · refine .inl ⟨by simp [loop, hdone], fun hlt => by omega⟩

end Answer

/-! ### The loop -/

/-- The loop writes in order, whatever it leaves behind. -/
theorem inOrder_loop (blockSize : ℕ) (s : ForwardStreamTask) (total : ℕ) (answers : List Answer) :
    InOrder (loop blockSize s total answers).2 := by
  induction answers generalizing s total with
  | nil => exact inOrder_nil
  | cons a answers ih =>
    rcases loop_cases blockSize s total a answers with ⟨h, -⟩ | ⟨h, -⟩ |
      ⟨data, -, ⟨written, -, h, -⟩ | ⟨-, h, -⟩⟩
    · rw [h]
      exact inOrder_nil
    · rw [h]
      exact inOrder_complete
    · rw [h]
      exact inOrder_block data written
    · rw [h]
      have hblock := inOrder_block data data.length
      rw [List.take_length] at hblock
      exact hblock.append (by simp) (ih (s.fill data) _)

/-- The loop leaves what it has not written, by number. -/
theorem loop_balance (blockSize : ℕ) (hzero : s.mLeftOverCount = 0) (total : ℕ)
    (answers : List Answer) :
    (bytesRead (loop blockSize s total answers).2).length =
      (bytesWritten (loop blockSize s total answers).2).length +
        (loop blockSize s total answers).1.mLeftOverCount := by
  induction answers generalizing s total with
  | nil => simp [loop, hzero]
  | cons a answers ih =>
    rcases loop_cases blockSize s total a answers with ⟨h, -⟩ | ⟨h, -⟩ |
      ⟨data, -, ⟨written, hlt, h, -⟩ | ⟨-, h, -⟩⟩
    · simp [h, hzero]
    · simp [h, hzero]
    · rw [h]
      simp
      omega
    · have hrest := ih (s := s.fill data) hzero (total + data.length)
      rw [h]
      simp only [bytesRead_read, bytesRead_written, bytesWritten_read, bytesWritten_written,
        List.length_append]
      omega

/-- The loop keeps the promise exactly when what it leaves is in place. -/
theorem loop_stored (blockSize : ℕ) (hscheduled : s.scheduled = true)
    (hlength : s.mBuffer.length = bufferSize) (hzero : s.mLeftOverCount = 0) (total : ℕ)
    (answers : List Answer) :
    (LoopKeeps blockSize s total answers →
      Stored (loop blockSize s total answers).1 (loop blockSize s total answers).2) ∧
    (¬LoopKeeps blockSize s total answers →
      (loop blockSize s total answers).1.scheduled = true ∧
        bytesRead (loop blockSize s total answers).2 ≠
          bytesWritten (loop blockSize s total answers).2 ++
            (loop blockSize s total answers).1.leftOver) := by
  induction answers generalizing s total with
  | nil =>
    refine ⟨fun _ => ⟨hlength, by rw [loop, hzero]; exact Nat.zero_le _, ?_, fun _ => hzero⟩,
      fun hnot => absurd trivial hnot⟩
    rw [loop, leftOver_of_zero hlength hzero]
    rfl
  | cons a answers ih =>
    rcases loop_cases blockSize s total a answers with ⟨h, hkeeps⟩ | ⟨h, hkeeps⟩ |
      ⟨data, hle, ⟨written, hlt, h, hiff⟩ | ⟨-, h, hiff⟩⟩
    · refine ⟨fun _ => ?_, fun hnot => absurd hkeeps hnot⟩
      rw [h]
      refine ⟨hlength, hzero.trans_le (Nat.zero_le _), ?_, fun _ => hzero⟩
      rw [leftOver_of_zero hlength hzero]
      rfl
    · refine ⟨fun _ => ?_, fun hnot => absurd hkeeps hnot⟩
      rw [h]
      refine ⟨hlength, hzero.trans_le (Nat.zero_le _), ?_, fun _ => hzero⟩
      rw [leftOver_of_zero (s := { s with scheduled := false }) hlength hzero]
      rfl
    · rw [h, hiff]
      have hread : bytesRead [.read data, .written (data.take written)] =
          data.take written ++ data.drop written := by
        simp
      have hwritten : bytesWritten [.read data, .written (data.take written)] =
          data.take written := by
        simp
      constructor
      · intro hplaced
        refine ⟨length_fill hlength hle, (Nat.sub_le _ _).trans hle, ?_, fun hf => ?_⟩
        · rw [hread, hwritten]
          exact congrArg _ hplaced.symm
        · exact absurd hscheduled (Bool.eq_false_iff.1 hf)
      · intro hnot
        refine ⟨hscheduled, fun heq => hnot ?_⟩
        rw [hread, hwritten] at heq
        exact (List.append_cancel_left heq).symm
    · have hblock := ih (s := s.fill data) hscheduled (length_fill hlength hle) hzero
        (total + data.length)
      rw [h, hiff]
      constructor
      · intro hkeeps
        have hstored := hblock.1 hkeeps
        exact ⟨hstored.length_buffer, hstored.leftOver_le, by simp [hstored.bytes], hstored.ended⟩
      · intro hnot
        obtain ⟨hstill, hne⟩ := hblock.2 hnot
        exact ⟨hstill, fun heq => hne (by simpa using heq)⟩

/-- The loop keeps the shape of the buffer. -/
theorem loop_shape (blockSize : ℕ) (hlength : s.mBuffer.length = bufferSize)
    (hzero : s.mLeftOverCount = 0) (total : ℕ) (answers : List Answer) :
    (loop blockSize s total answers).1.mBuffer.length = bufferSize ∧
      (loop blockSize s total answers).1.mLeftOverCount ≤ bufferSize := by
  induction answers generalizing s total with
  | nil => exact ⟨hlength, hzero.trans_le (Nat.zero_le _)⟩
  | cons a answers ih =>
    rcases loop_cases blockSize s total a answers with ⟨h, -⟩ | ⟨h, -⟩ |
      ⟨data, hle, ⟨written, -, h, -⟩ | ⟨-, h, -⟩⟩
    · rw [h]
      exact ⟨hlength, hzero.trans_le (Nat.zero_le _)⟩
    · rw [h]
      exact ⟨hlength, hzero.trans_le (Nat.zero_le _)⟩
    · rw [h]
      exact ⟨length_fill hlength hle, (Nat.sub_le _ _).trans hle⟩
    · rw [h]
      exact ih (length_fill hlength hle) hzero _

/-! ### A round -/

/-- With a destination that takes all it is given, the loop writes all it reads. -/
theorem loop_accepts (blockSize : ℕ) (s : ForwardStreamTask) (total : ℕ) {answers : List Answer}
    (haccepts : ∀ a ∈ answers, ∃ n, a.write = some n ∧ bufferSize ≤ n) :
    bytesRead (loop blockSize s total answers).2 =
      bytesWritten (loop blockSize s total answers).2 := by
  induction answers generalizing s total with
  | nil => rfl
  | cons a answers ih =>
    obtain ⟨ha, hrest⟩ := List.forall_mem_cons.1 haccepts
    rcases Nat.lt_or_ge total blockSize with hlt | hdone
    · cases hread : a.read with
      | none => simp [loop, Nat.not_le.2 hlt, hread]
      | some bytes =>
        have hle := length_block_le blockSize total bytes
        by_cases hnil : bytes.take (min (blockSize - total) bufferSize) = []
        · simp only [loop, if_neg (Nat.not_le.2 hlt), hread, if_pos hnil]
          rfl
        · obtain ⟨n, hn, hsize⟩ := ha
          rw [loop_block hlt hread rfl hnil, hn, taken, Nat.min_eq_right (hle.trans hsize),
            if_neg (not_not.2 rfl)]
          simp only [bytesRead_read, bytesRead_written, bytesWritten_read, bytesWritten_written]
          rw [ih _ _ hrest]
    · simp [loop, hdone]

/-- The round in which the destination takes what is left over, and nothing is read. -/
def drain : Round := ⟨some bufferSize, []⟩

theorem accepts_drain : Accepts drain := ⟨⟨bufferSize, rfl, le_refl _⟩, fun _ ha => by cases ha⟩

/-- A round in which the destination takes all it is given. -/
theorem forward_accepts (blockSize : ℕ) (hlength : s.mBuffer.length = bufferSize)
    (hle : s.mLeftOverCount ≤ bufferSize) (hscheduled : s.scheduled = true) {r : Round}
    (hr : Accepts r) : ∃ bytes, bytesRead (s.forward blockSize r).2 = bytes ∧
      bytesWritten (s.forward blockSize r).2 = s.leftOver ++ bytes := by
  have hleft := length_leftOver hlength hle
  rw [forward, if_neg (by simp [hscheduled])]
  by_cases hpos : 0 < s.mLeftOverCount
  · obtain ⟨n, hretry, hn⟩ := hr.retry
    have hall : min n s.mLeftOverCount = s.mLeftOverCount := Nat.min_eq_right (hle.trans hn)
    have htake : s.leftOver.take s.mLeftOverCount = s.leftOver :=
      List.take_of_length_le hleft.le
    rw [if_pos hpos, hretry]
    simp only [hall, htake]
    split
    · exact ⟨[], by simp, by simp⟩
    · have hloop := loop_accepts blockSize { s with mLeftOverCount := 0 } 0 hr.answers
      exact ⟨_, rfl, by rw [bytesWritten_written, bytesRead_written, hloop]⟩
  · have hloop := loop_accepts blockSize s 0 hr.answers
    rw [if_neg hpos, leftOver_of_zero hlength (by omega)]
    exact ⟨_, rfl, by rw [hloop, List.nil_append]⟩

theorem forward_of_ended (blockSize : ℕ) (h : s.scheduled = false) (r : Round) :
    s.forward blockSize r = (s, []) := by
  rw [forward, if_pos h]

end ForwardStreamTask

open ForwardStreamTask

section Round

variable {blockSize : ℕ} {s : ForwardStreamTask} {es : List ForwardEvent}

theorem Stored.exact (h : Stored s es) (horder : InOrder es) : Exact blockSize s es where
  inOrder := horder
  eventually r hr := by
    cases hscheduled : s.scheduled with
    | false =>
      rw [forward_of_ended blockSize hscheduled, List.append_nil, h.bytes,
        leftOver_of_zero h.length_buffer (h.ended hscheduled), List.append_nil]
    | true =>
      obtain ⟨bytes, hread, hwritten⟩ :=
        forward_accepts blockSize h.length_buffer h.leftOver_le hscheduled hr
      rw [bytesWritten_append, bytesRead_append, hread, hwritten, h.bytes, List.append_assoc]

/-- A promise that is kept leaves what is not written in place. -/
theorem Exact.bytes (h : Exact blockSize s es) (hlength : s.mBuffer.length = bufferSize)
    (hle : s.mLeftOverCount ≤ bufferSize) (hscheduled : s.scheduled = true) :
    bytesRead es = bytesWritten es ++ s.leftOver := by
  obtain ⟨bytes, hread, hwritten⟩ :=
    forward_accepts blockSize hlength hle hscheduled accepts_drain
  have heq := h.eventually drain accepts_drain
  rw [bytesWritten_append, bytesRead_append, hread, hwritten, ← List.append_assoc] at heq
  exact (List.append_cancel_right heq).symm

/-- What a promise that is kept says of the number of bytes. -/
theorem Exact.length_le (h : Exact blockSize s es) (hlength : s.mBuffer.length = bufferSize)
    (hle : s.mLeftOverCount ≤ bufferSize) :
    (bytesRead es).length ≤ (bytesWritten es).length + s.mLeftOverCount := by
  cases hscheduled : s.scheduled with
  | false =>
    have heq := h.eventually drain accepts_drain
    rw [forward_of_ended blockSize hscheduled, List.append_nil] at heq
    rw [heq]
    exact Nat.le_add_right _ _
  | true =>
    rw [h.bytes hlength hle hscheduled, List.length_append, length_leftOver hlength hle]

/-- Behind events that wrote all that was read, the loop adds what it stores. -/
theorem Stored.append {t : ForwardStreamTask × List ForwardEvent}
    (hall : bytesWritten es = bytesRead es) (ht : Stored t.1 t.2) : Stored t.1 (es ++ t.2) where
  length_buffer := ht.length_buffer
  leftOver_le := ht.leftOver_le
  bytes := by rw [bytesRead_append, bytesWritten_append, hall, ht.bytes, List.append_assoc]
  ended := ht.ended

/-- What is left over is written. -/
theorem Stored.snoc_written (h : Stored s es) {written : ℕ} (hscheduled : s.scheduled = true)
    (hle : written ≤ s.mLeftOverCount) :
    Stored { s with mLeftOverCount := s.mLeftOverCount - written }
      (es ++ [.written (s.leftOver.take written)]) where
  length_buffer := h.length_buffer
  leftOver_le := (Nat.sub_le _ _).trans h.leftOver_le
  bytes := by
    have hlater : bufferSize - (s.mLeftOverCount - written) =
        bufferSize - s.mLeftOverCount + written := by
      have := h.leftOver_le
      omega
    have hrest : ({ s with mLeftOverCount := s.mLeftOverCount - written } :
        ForwardStreamTask).leftOver = s.leftOver.drop written := by
      rw [leftOver, leftOver, List.drop_drop, hlater]
    simp [hrest, h.bytes]
  ended hf := absurd hscheduled (Bool.eq_false_iff.1 hf)

/-- The calls of `forward`, told apart. -/
theorem forward_cases (blockSize : ℕ) (hscheduled : s.scheduled = true) (r : Round) :
    (s.mLeftOverCount = 0 ∧ s.forward blockSize r = loop blockSize s 0 r.answers) ∨
    (0 < s.mLeftOverCount ∧ r.retry = none ∧ s.forward blockSize r = (s, [])) ∨
    (0 < s.mLeftOverCount ∧ ∃ n, r.retry = some n ∧
      ((min n s.mLeftOverCount ≠ bufferSize - s.mLeftOverCount ∧
        s.forward blockSize r =
          ({ s with mLeftOverCount := s.mLeftOverCount - min n s.mLeftOverCount },
            [.written (s.leftOver.take (min n s.mLeftOverCount))])) ∨
      (min n s.mLeftOverCount = bufferSize - s.mLeftOverCount ∧
        s.forward blockSize r =
          ((loop blockSize { s with mLeftOverCount := 0 } 0 r.answers).1,
            .written (s.leftOver.take (min n s.mLeftOverCount)) ::
              (loop blockSize { s with mLeftOverCount := 0 } 0 r.answers).2)))) := by
  rw [forward, if_neg (by simp [hscheduled])]
  by_cases hpos : 0 < s.mLeftOverCount
  · rw [if_pos hpos]
    cases hretry : r.retry with
    | none => exact .inr (.inl ⟨hpos, rfl, rfl⟩)
    | some n =>
      refine .inr (.inr ⟨hpos, n, rfl, ?_⟩)
      by_cases hequal : min n s.mLeftOverCount = bufferSize - s.mLeftOverCount
      · exact .inr ⟨hequal, by simp only [ne_eq, hequal, not_true_eq_false, if_false]⟩
      · exact .inl ⟨hequal, by simp only [ne_eq, hequal, not_false_eq_true, if_true]⟩
  · exact .inl ⟨by omega, by rw [if_neg hpos]⟩

/-- **A round**, in a state that stores what is not written: it goes on storing it, or breaks the
promise. -/
theorem stored_forward (h : Stored s es) (horder : InOrder es) (r : Round) :
    (s.Keeps blockSize es r → Stored (s.forward blockSize r).1 (es ++ (s.forward blockSize r).2) ∧
      InOrder (es ++ (s.forward blockSize r).2)) ∧
    (¬s.Keeps blockSize es r →
      ¬Exact blockSize (s.forward blockSize r).1 (es ++ (s.forward blockSize r).2)) := by
  cases hscheduled : s.scheduled with
  | false =>
    refine ⟨fun _ => ?_, fun hnot => absurd (fun ht => absurd ht (by simp [hscheduled])) hnot⟩
    rw [forward_of_ended blockSize hscheduled, List.append_nil]
    exact ⟨h, horder⟩
  | true =>
    have hleft := length_leftOver h.length_buffer h.leftOver_le
    rcases forward_cases blockSize hscheduled r with ⟨hzero, heq⟩ |
      ⟨hpos, hretry, heq⟩ | ⟨hpos, n, hretry, ⟨hdiffer, heq⟩ | ⟨hequal, heq⟩⟩
    · -- nothing is left over
      have hall : bytesWritten es = bytesRead es := by
        rw [h.bytes, leftOver_of_zero h.length_buffer hzero, List.append_nil]
      have hloop := loop_stored blockSize hscheduled h.length_buffer hzero 0 r.answers
      have hshape := loop_shape blockSize h.length_buffer hzero 0 r.answers
      rw [heq]
      constructor
      · intro hkeeps
        exact ⟨(hloop.1 ((hkeeps hscheduled).1 hzero)).append hall,
          horder.append hall (inOrder_loop blockSize s 0 r.answers)⟩
      · intro hnot hexact
        obtain ⟨hstill, hne⟩ := hloop.2 fun hkeeps =>
          hnot fun _ => ⟨fun _ => hkeeps, fun hpos => by omega⟩
        have hbytes := hexact.bytes hshape.1 hshape.2 hstill
        rw [bytesRead_append, bytesWritten_append, hall, List.append_assoc] at hbytes
        exact hne (List.append_cancel_left hbytes)
    · -- the destination takes nothing
      rw [heq, List.append_nil]
      refine ⟨fun _ => ⟨h, horder⟩, fun hnot => absurd (fun _ => ⟨fun hzero => by omega, ?_⟩) hnot⟩
      intro _ n hn
      rw [hretry] at hn
      cases hn
    · -- a part of what is left over, or all of it
      rw [heq]
      refine ⟨fun _ => ⟨?_, ?_⟩, fun hnot => absurd (fun _ => ⟨fun hzero => by omega, ?_⟩) hnot⟩
      · exact h.snoc_written hscheduled (Nat.min_le_right _ _)
      · refine horder.snoc_written ?_
        rw [h.bytes, List.prefix_append_right_inj]
        exact List.take_prefix _ _
      · intro _ n' hn' hequal
        obtain rfl := Option.some.inj (hretry.symm.trans hn')
        exact absurd hequal hdiffer
    · -- the retry counts as complete
      have hzero : ({ s with mLeftOverCount := 0 } : ForwardStreamTask).mLeftOverCount = 0 := rfl
      have hloop := loop_stored blockSize (s := { s with mLeftOverCount := 0 }) hscheduled
        h.length_buffer hzero 0 r.answers
      have hshape := loop_shape blockSize (s := { s with mLeftOverCount := 0 }) h.length_buffer
        hzero 0 r.answers
      have hbalance := loop_balance blockSize hzero 0 r.answers
      rw [heq, List.append_cons]
      by_cases hwhole : min n s.mLeftOverCount = s.mLeftOverCount
      · have htake : s.leftOver.take (min n s.mLeftOverCount) = s.leftOver := by
          rw [hwhole]
          exact List.take_of_length_le hleft.le
        have hall : bytesWritten (es ++ [.written s.leftOver]) =
            bytesRead (es ++ [.written s.leftOver]) := by simp [h.bytes]
        have horder' : InOrder (es ++ [.written s.leftOver]) :=
          horder.snoc_written (by rw [h.bytes])
        rw [htake]
        constructor
        · intro hkeeps
          exact ⟨(hloop.1 ((hkeeps hscheduled).2 hpos n hretry hequal).2).append hall,
            horder'.append hall (inOrder_loop blockSize _ 0 r.answers)⟩
        · intro hnot hexact
          obtain ⟨hstill, hne⟩ := hloop.2 fun hkeeps => hnot fun _ =>
            ⟨fun hzero => by omega, fun _ n' hn' _ => by
              obtain rfl := Option.some.inj (hretry.symm.trans hn')
              exact ⟨hwhole, hkeeps⟩⟩
          have hbytes := hexact.bytes hshape.1 hshape.2 hstill
          rw [bytesRead_append, bytesWritten_append, hall, List.append_assoc] at hbytes
          exact hne (List.append_cancel_left hbytes)
      · -- the rest of what is left over is lost
        refine ⟨fun hkeeps => absurd ((hkeeps hscheduled).2 hpos n hretry hequal).1 hwhole,
          fun _ hexact => hwhole ?_⟩
        have hle := hexact.length_le hshape.1 hshape.2
        have htaken : (s.leftOver.take (min n s.mLeftOverCount)).length =
            min n s.mLeftOverCount := by
          rw [List.length_take, hleft]
          omega
        simp only [bytesRead_append, bytesWritten_append, List.length_append, bytesRead_written,
          bytesWritten_written, bytesRead_nil, bytesWritten_nil, List.length_nil, htaken, h.bytes,
          hleft] at hle
        omega

end Round

/-! ### Runs -/

/-- A task with some buffer, after some rounds. -/
def forwardRun (blockSize : ℕ) (mBuffer : List UInt8) (rs : List Round) :
    ForwardStreamTask × List ForwardEvent :=
  Mealy.run (forward blockSize) (create mBuffer) rs

/-- **Forwarding is exact** in every state of a run if and only if every block that is cut short is
in place at the end of the buffer, and no retry writes `sizeof(mBuffer) - mLeftOverCount` bytes that
are not all. -/
theorem forward_exact_iff (blockSize : ℕ) (mBuffer : List UInt8)
    (hlength : mBuffer.length = bufferSize) (rs : List Round) :
    (∀ js, js <+: rs → Exact blockSize (forwardRun blockSize mBuffer js).1
        (forwardRun blockSize mBuffer js).2) ↔
      Mealy.Along (Keeps blockSize) (forward blockSize) (create mBuffer) [] rs := by
  have hstart : Stored (create mBuffer) [] ∧ InOrder [] := by
    refine ⟨⟨hlength, Nat.zero_le _, ?_, fun _ => rfl⟩, inOrder_nil⟩
    rw [leftOver_of_zero hlength rfl]
    rfl
  have hgood : ∀ s es, Stored s es ∧ InOrder es → Exact blockSize s es :=
    fun _ _ h => h.1.exact h.2
  have hbad : ∀ (s : ForwardStreamTask) es r, Stored s es ∧ InOrder es → True →
      ¬s.Keeps blockSize es r →
        ¬Exact blockSize (s.forward blockSize r).1 (es ++ (s.forward blockSize r).2) :=
    fun _ _ r h _ => (stored_forward h.1 h.2 r).2
  have hstep : ∀ (s : ForwardStreamTask) es r, Stored s es ∧ InOrder es → True →
      s.Keeps blockSize es r →
        Stored (s.forward blockSize r).1 (es ++ (s.forward blockSize r).2) ∧
          InOrder (es ++ (s.forward blockSize r).2) :=
    fun _ _ r h _ => (stored_forward h.1 h.2 r).1
  have hrule := Mealy.states_good_iff_along (fun _ => True) hgood hbad hstep hstart
    (fun r (_ : r ∈ rs) => trivial)
  simpa only [List.nil_append, forwardRun] using hrule

/-- A block of three bytes that the destination takes, and the end of the stream. -/
def wholeBlock : List Round := [⟨none, [⟨some [1, 2, 3], some 3⟩, ⟨some [], none⟩]⟩]

theorem exact_wholeBlock :
    Exact 4096 (forwardRun 4096 (List.replicate bufferSize 0) wholeBlock).1
      (forwardRun 4096 (List.replicate bufferSize 0) wholeBlock).2 :=
  (forward_exact_iff 4096 (List.replicate bufferSize 0) List.length_replicate wholeBlock).2
    ⟨fun _ => ⟨fun _ => by
      refine (loopKeeps_block (by decide) rfl rfl (by decide)).2 ?_
      rintro - bytes hbytes
      obtain rfl := Option.some.inj hbytes
      exact fun hne => absurd List.take_nil hne, fun hpos => absurd hpos (by decide)⟩, trivial⟩
    wholeBlock List.prefix_rfl

/-- A block of three bytes that the destination does not take. -/
def blocked : List Round := [⟨none, [⟨some [1, 2, 3], none⟩]⟩]

/-- The bytes at the end of the buffer are written in their place. -/
theorem not_exact_blocked :
    ¬Exact 4096 (forwardRun 4096 (List.replicate bufferSize 0) blocked).1
      (forwardRun 4096 (List.replicate bufferSize 0) blocked).2 := by
  intro h
  have heq := h.eventually drain accepts_drain
  revert heq
  decide +kernel

end SuplLpp.Sched
