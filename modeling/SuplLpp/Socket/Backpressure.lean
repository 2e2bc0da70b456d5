import SuplLpp.Lib.BoundedQueue
import SuplLpp.Socket.WriteBuffer

/-!
# The write buffer under back-pressure

Every operation of a `WriteBuffer` moves its read position, and only a buffer that was read to
its end is compacted.

* `step`: one operation, with `consume` on `size_t`, which wraps;
* `Holds`: the buffer holds what a bounded queue holds, in as many bytes as the queue has taken in
  since it was last empty; `holds_step` keeps it as long as no `consume` wraps;
* `refines_iff`: when exactly a run gives the contents of the queue in at most `c * M` bytes;
* `not_refines`: a run that never drains the buffer needs any number of bytes.
-/

namespace SuplLpp.Socket

namespace WriteBuffer

/-- `WriteBuffer(max_size)`. -/
def ofMaxSize (maxSize : ℕ) : WriteBuffer := ⟨[], 0, maxSize⟩

/-- `consume` on `size_t`: `mReadPos += bytes` wraps. -/
def consumeSizeT (b : WriteBuffer) (bytes : UInt64) : WriteBuffer :=
  let readPos := (b.mReadPos + bytes.toNat) % 2 ^ 64
  if b.mBuffer.length ≤ readPos then b.clear else { b with mReadPos := readPos }

/-- The operations that change a buffer; `peek` reads the state they leave. -/
inductive Op where
  | enqueue (data : List UInt8)
  | consume (bytes : UInt64)
  | clear

/-- One operation.  The subtraction in `makeRoom` is that of the code as long as the buffer is
within its bound, and it is until a `consume` wraps. -/
def step (b : WriteBuffer) : Op → WriteBuffer
  | .enqueue data => b.enqueue data
  | .consume bytes => b.consumeSizeT bytes
  | .clear => b.clear

/-- The buffer of bound `maxSize` after `ops`. -/
def run (maxSize : ℕ) (ops : List Op) : WriteBuffer := ops.foldl step (ofMaxSize maxSize)

theorem run_snoc (maxSize : ℕ) (ops : List Op) (op : Op) :
    run maxSize (ops ++ [op]) = (run maxSize ops).step op := by
  rw [run, List.foldl_concat, run]

theorem consumeSizeT_of_lt {b : WriteBuffer} {bytes : UInt64}
    (h : b.mReadPos + bytes.toNat < 2 ^ 64) : b.consumeSizeT bytes = b.consume bytes.toNat := by
  rw [consumeSizeT, Nat.mod_eq_of_lt h, consume]

/-! ### What the buffer is for -/

/-- One operation on the bounded queue. -/
def stepQueue {M : ℕ} (q : BoundedQueue UInt8 M) : Op → BoundedQueue UInt8 M
  | .enqueue data => q.push data
  | .consume bytes => q.pop bytes.toNat
  | .clear => q.clear

/-- The queue of bound `M` after `ops`. -/
def queue (M : ℕ) (ops : List Op) : BoundedQueue UInt8 M := ops.foldl stepQueue .nil

theorem queue_snoc (M : ℕ) (ops : List Op) (op : Op) :
    queue M (ops ++ [op]) = stepQueue (queue M ops) op := by
  rw [queue, List.foldl_concat, queue]

/-- The operation does not move the read position beyond `size_t`. -/
def InRange {M : ℕ} (q : BoundedQueue UInt8 M) : Op → Prop
  | .consume bytes => q.passed + bytes.toNat < 2 ^ 64
  | _ => True

/-- The buffer holds the contents of the queue behind what has passed through it. -/
structure Holds {M : ℕ} (b : WriteBuffer) (q : BoundedQueue UInt8 M) : Prop where
  maxSize : b.mMaxSize = M
  contents : b.peek = q.items
  storage : b.mBuffer.length = q.taken
  readPos_le : b.mReadPos ≤ b.mBuffer.length

section Holds

variable {M : ℕ} {b : WriteBuffer} {q : BoundedQueue UInt8 M}

theorem Holds.size_eq (h : Holds b q) : b.size = q.items.length := by
  rw [← h.contents, length_peek]

theorem Holds.fits (h : Holds b q) : b.Fits := by
  refine ⟨?_, h.readPos_le⟩
  rw [h.size_eq, h.maxSize]
  exact q.items_le

theorem Holds.readPos_eq (h : Holds b q) : b.mReadPos = q.passed := by
  have hsize := h.size_eq
  have hle := h.readPos_le
  rw [BoundedQueue.passed, ← h.storage, ← hsize, size]
  omega

/-- A buffer without contents is compacted. -/
theorem Holds.buffer_nil (h : Holds b q) (hempty : b.size = 0) : b.mBuffer = [] := by
  have hitems : q.items = [] := List.length_eq_zero_iff.1 (h.size_eq ▸ hempty)
  exact List.length_eq_zero_iff.1 (h.storage.trans (q.taken_of_empty hitems))

theorem Holds.compact (h : Holds b q) : b.compact = b := by
  unfold WriteBuffer.compact
  split
  · next hend =>
    have hnil := h.buffer_nil (by rw [size]; omega)
    rw [hnil, List.length_nil] at hend
    omega
  · rfl

theorem holds_ofMaxSize : Holds (ofMaxSize M) (.nil : BoundedQueue UInt8 M) :=
  ⟨rfl, rfl, rfl, le_refl _⟩

theorem Holds.clear (h : Holds b q) : Holds b.clear q.clear :=
  ⟨h.maxSize, rfl, rfl, le_refl _⟩

theorem Holds.consume (h : Holds b q) (bytes : ℕ) : Holds (b.consume bytes) (q.pop bytes) where
  maxSize := by rw [mMaxSize_consume, h.maxSize]
  contents := by rw [peek_consume, h.contents, BoundedQueue.items_pop]
  storage := by
    have hsize := h.size_eq
    have hle := h.readPos_le
    unfold size at hsize
    rw [WriteBuffer.consume, BoundedQueue.taken_pop]
    split
    · next hend => rw [if_pos (by omega)]; rfl
    · next hend => rw [if_neg (by omega)]; exact h.storage
  readPos_le := (h.fits.consume bytes).readPos_le

/-- The bytes in the buffer after `enqueue`: a write that fills the buffer starts it anew, every
other one is appended to what lies there. -/
theorem Holds.length_enqueue (h : Holds b q) (data : List UInt8) :
    (b.enqueue data).mBuffer.length = (q.push data).taken := by
  have hsize := h.size_eq
  have hroom := q.items_le
  have hle := h.readPos_le
  have hM := h.maxSize
  rw [enqueue, h.compact, BoundedQueue.taken_push, hM]
  split
  · next hlong =>
    have hclear : b.clear.makeRoom M = b.clear := by
      unfold makeRoom
      rw [if_neg]
      simp only [WriteBuffer.clear, size, hM, List.length_nil]
      omega
    rw [hclear, if_pos (by omega), insert, List.length_append, List.length_drop]
    simp only [WriteBuffer.clear, List.length_nil]
    omega
  · next hlong =>
    rw [insert, List.length_append, makeRoom, hM]
    by_cases hfull : data.length = M
    · -- all that waits is discarded
      have hpush : (if M ≤ data.length then M else q.taken + data.length) = M := if_pos hfull.ge
      rw [hpush]
      split
      · have hend : b.mBuffer.length ≤ b.mReadPos + (data.length - (M - b.size)) := by
          unfold size at hsize ⊢
          omega
        rw [WriteBuffer.consume, if_pos hend]
        simp [WriteBuffer.clear, hfull]
      · next hpos => rw [h.buffer_nil (by omega), List.length_nil, Nat.zero_add, hfull]
    · have hpush : (if M ≤ data.length then M else q.taken + data.length) =
          q.taken + data.length := if_neg (by omega)
      rw [hpush, ← h.storage]
      split
      · next hpos =>
        have hnot : ¬b.mBuffer.length ≤ b.mReadPos + (data.length - (M - b.size)) := by
          unfold size at hsize hpos ⊢
          omega
        rw [WriteBuffer.consume, if_neg hnot]
      · rfl

theorem Holds.enqueue (h : Holds b q) (data : List UInt8) :
    Holds (b.enqueue data) (q.push data) where
  maxSize := by rw [mMaxSize_enqueue, h.maxSize]
  contents := by
    rw [peek_enqueue h.fits, h.contents, h.maxSize]
    rfl
  storage := h.length_enqueue data
  readPos_le := (h.fits.enqueue data).readPos_le

/-- **One operation** that does not wrap keeps `Holds`. -/
theorem holds_step (h : Holds b q) {op : Op} (hop : InRange q op) :
    Holds (b.step op) (stepQueue q op) := by
  cases op with
  | enqueue data => exact h.enqueue data
  | consume bytes =>
    rw [step, consumeSizeT_of_lt (by rw [h.readPos_eq]; exact hop)]
    exact h.consume _
  | clear => exact h.clear

/-- A `consume` that wraps brings consumed bytes back. -/
theorem Holds.size_lt_of_wraps (h : Holds b q) {op : Op} (hop : ¬InRange q op) :
    (stepQueue q op).items.length < (b.step op).size := by
  cases op with
  | enqueue data => exact absurd trivial hop
  | clear => exact absurd trivial hop
  | consume bytes =>
    have hwraps : 2 ^ 64 ≤ b.mReadPos + bytes.toNat := by
      rw [h.readPos_eq]
      exact Nat.le_of_not_lt hop
    have hbytes := bytes.toNat_lt
    have hle := h.readPos_le
    have hsize := h.size_eq
    have hback : (b.mReadPos + bytes.toNat) % 2 ^ 64 < b.mReadPos := by omega
    have hpop : (stepQueue q (.consume bytes)).items.length ≤ q.items.length := by
      simp [stepQueue]
    have hnot : ¬b.mBuffer.length ≤ (b.mReadPos + bytes.toNat) % 2 ^ 64 := by omega
    rw [step, consumeSizeT, if_neg hnot]
    simp only [size] at hsize ⊢
    omega

end Holds

/-! ### Runs -/

/-- What the buffer promises: the contents of the queue, in at most `storage` bytes. -/
structure Refines {M : ℕ} (storage : ℕ) (b : WriteBuffer) (q : BoundedQueue UInt8 M) : Prop where
  peek_eq : b.peek = q.items
  storage_le : b.mBuffer.length ≤ storage

/-- Every `consume` of the run is in range. -/
def AllInRange (M : ℕ) (ops : List Op) : Prop :=
  ∀ before op, before ++ [op] <+: ops → InRange (queue M before) op

theorem allInRange_snoc (M : ℕ) (ops : List Op) (op : Op) :
    AllInRange M (ops ++ [op]) ↔ AllInRange M ops ∧ InRange (queue M ops) op := by
  simp only [AllInRange, List.prefix_concat_iff]
  constructor
  · intro h
    exact ⟨fun before op' hbefore => h before op' (.inr hbefore), h ops op (.inl rfl)⟩
  · rintro ⟨hops, hop⟩ before op' (heq | hbefore)
    · obtain ⟨rfl, rfl⟩ := List.append_inj' heq rfl |>.imp_right List.singleton_inj.1
      exact hop
    · exact hops before op' hbefore

/-- **A run** whose reads are in range keeps `Holds`. -/
theorem holds_run (M : ℕ) (ops : List Op) (h : AllInRange M ops) :
    Holds (run M ops) (queue M ops) := by
  induction ops using List.reverseRecOn with
  | nil => exact holds_ofMaxSize
  | append_singleton ops op ih =>
    obtain ⟨hops, hop⟩ := (allInRange_snoc M ops op).1 h
    rw [run_snoc, queue_snoc]
    exact holds_step (ih hops) hop

/-- The reads of a run that keeps the contents are in range. -/
theorem allInRange_of_peek (M : ℕ) (ops : List Op)
    (h : ∀ js, js <+: ops → (run M js).peek = (queue M js).items) : AllInRange M ops := by
  induction ops using List.reverseRecOn with
  | nil =>
    intro before op hbefore
    simp at hbefore
  | append_singleton ops op ih =>
    have hops := ih fun js hjs => h js (hjs.trans (List.prefix_append ops [op]))
    refine (allInRange_snoc M ops op).2 ⟨hops, ?_⟩
    by_contra hop
    have hlt := (holds_run M ops hops).size_lt_of_wraps hop
    have hlast := congrArg List.length (h (ops ++ [op]) (List.prefix_refl _))
    rw [run_snoc, queue_snoc, length_peek] at hlast
    omega

/-- **When the buffer refines the bounded queue**: in every state of a run it has the contents of
the queue in at most `c * M` bytes, if and only if no `consume` wraps and the queue never takes in
more than `c * M` bytes without being empty in between. -/
theorem refines_iff (M c : ℕ) (ops : List Op) :
    (∀ js, js <+: ops → Refines (c * M) (run M js) (queue M js)) ↔
      AllInRange M ops ∧ ∀ js, js <+: ops → (queue M js).taken ≤ c * M := by
  constructor
  · intro h
    have hrange := allInRange_of_peek M ops fun js hjs => (h js hjs).peek_eq
    refine ⟨hrange, fun js hjs => ?_⟩
    have hjs' : AllInRange M js := fun before op hbefore => hrange before op (hbefore.trans hjs)
    rw [← (holds_run M js hjs').storage]
    exact (h js hjs).storage_le
  · rintro ⟨hrange, htaken⟩ js hjs
    have hheld := holds_run M js fun before op hbefore => hrange before op (hbefore.trans hjs)
    exact ⟨hheld.contents, hheld.storage.le.trans (htaken js hjs)⟩

/-- A connection that takes a byte whenever one is written, and is always one byte behind. -/
def behind : ℕ → List Op
  | 0 => [.enqueue [0]]
  | n + 1 => behind n ++ [.enqueue [0], .consume 1]

/-- It takes in a byte for every byte it gives away, and is never empty. -/
theorem queue_behind (n : ℕ) :
    (queue 2 (behind n)).items = [0] ∧ (queue 2 (behind n)).taken = n + 1 := by
  induction n with
  | zero => exact ⟨rfl, rfl⟩
  | succ n ih =>
    obtain ⟨hitems, htaken⟩ := ih
    have hstep : queue 2 (behind (n + 1)) = ((queue 2 (behind n)).push [0]).pop 1 := by
      rw [behind, queue, List.foldl_append]
      rfl
    rw [hstep]
    simp [hitems, htaken, Ring.keepNewest]

/-- No multiple of the bound suffices. -/
theorem not_refines :
    ¬∃ c, ∀ M ops js, js <+: ops → Refines (c * M) (run M js) (queue M js) := by
  rintro ⟨c, h⟩
  have hall := h 2 (behind (2 * c))
  have hrange := allInRange_of_peek 2 _ fun js hjs => (hall js hjs).peek_eq
  have hstorage := (hall _ (List.prefix_refl _)).storage_le
  rw [(holds_run 2 _ hrange).storage, (queue_behind _).2] at hstorage
  omega

end WriteBuffer

end SuplLpp.Socket
