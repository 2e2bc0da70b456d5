import Mathlib.Data.List.DropRight

/-!
# The write buffer of the streams

`WriteBuffer` keeps what a socket did not take.  It holds at most `mMaxSize` bytes: what comes
in drives out the oldest.

* `enqueue`, `peek`, `consume`, `size`, `empty` and `clear`, as the class has them;
* `Fits`: the buffer is within its bound, and the read position within the buffer; every
  operation keeps it;
* `peek_enqueue`: what waits after `enqueue` is the tail of what waited and what came in.
-/

namespace SuplLpp.Socket

structure WriteBuffer where
  mBuffer : List UInt8
  mReadPos : ℕ
  mMaxSize : ℕ

namespace WriteBuffer

/-- The buffer of a stream. -/
def create : WriteBuffer := ⟨[], 0, 64 * 1024⟩

def size (b : WriteBuffer) : ℕ := b.mBuffer.length - b.mReadPos

def empty (b : WriteBuffer) : Bool := b.mBuffer.length ≤ b.mReadPos

/-- The bytes that wait. -/
def peek (b : WriteBuffer) : List UInt8 := b.mBuffer.drop b.mReadPos

def clear (b : WriteBuffer) : WriteBuffer := { b with mBuffer := [], mReadPos := 0 }

/-- `consume`: the read position goes on, and at the end of the buffer back to its start. -/
def consume (b : WriteBuffer) (bytes : ℕ) : WriteBuffer :=
  if b.mBuffer.length ≤ b.mReadPos + bytes then b.clear
  else { b with mReadPos := b.mReadPos + bytes }

/-- "Compact buffer if read position is at the end", the first part of `enqueue`. -/
def compact (b : WriteBuffer) : WriteBuffer :=
  if 0 < b.mReadPos ∧ b.mReadPos = b.mBuffer.length then b.clear else b

/-- "Discard old data if needed to make room", for `length` bytes. -/
def makeRoom (b : WriteBuffer) (length : ℕ) : WriteBuffer :=
  if b.mMaxSize - b.size < length then b.consume (length - (b.mMaxSize - b.size)) else b

/-- The insertion at the end of `enqueue`. -/
def insert (b : WriteBuffer) (data : List UInt8) : WriteBuffer :=
  { b with mBuffer := b.mBuffer ++ data }

def enqueue (b : WriteBuffer) (data : List UInt8) : WriteBuffer :=
  -- "If data is larger than max size, only keep the tail"
  if b.mMaxSize < data.length then
    (b.compact.clear.makeRoom b.mMaxSize).insert (data.drop (data.length - b.mMaxSize))
  else (b.compact.makeRoom data.length).insert data

theorem empty_iff (b : WriteBuffer) : b.empty = true ↔ b.peek = [] := by
  rw [empty, decide_eq_true_iff, peek, List.drop_eq_nil_iff]

theorem length_peek (b : WriteBuffer) : b.peek.length = b.size := List.length_drop

@[simp] theorem peek_create : create.peek = [] := rfl

@[simp] theorem peek_clear (b : WriteBuffer) : b.clear.peek = [] := rfl

@[simp] theorem peek_consume (b : WriteBuffer) (bytes : ℕ) :
    (b.consume bytes).peek = b.peek.drop bytes := by
  unfold consume
  split
  · next hend => rw [peek_clear, peek, List.drop_drop, List.drop_eq_nil_of_le hend]
  · exact List.drop_drop.symm

@[simp] theorem peek_compact (b : WriteBuffer) : b.compact.peek = b.peek := by
  unfold compact
  split
  · next hend => exact (List.drop_eq_nil_iff.2 hend.2.ge).symm
  · rfl

/-! ### Within the bound -/

/-- The size is at most the bound, and the read position within the buffer. -/
structure Fits (b : WriteBuffer) : Prop where
  size_le : b.size ≤ b.mMaxSize
  readPos_le : b.mReadPos ≤ b.mBuffer.length

theorem fits_create : create.Fits := ⟨Nat.zero_le _, le_refl _⟩

theorem Fits.clear {b : WriteBuffer} : b.clear.Fits := ⟨Nat.zero_le _, le_refl _⟩

theorem Fits.consume {b : WriteBuffer} (h : b.Fits) (bytes : ℕ) : (b.consume bytes).Fits := by
  have hsize := h.size_le
  unfold size at hsize
  unfold WriteBuffer.consume
  split
  · exact .clear
  · exact ⟨by simp only [size]; omega, by simp only; omega⟩

theorem Fits.compact {b : WriteBuffer} (h : b.Fits) : b.compact.Fits := by
  unfold WriteBuffer.compact
  split
  · exact .clear
  · exact h

theorem Fits.makeRoom {b : WriteBuffer} (h : b.Fits) (length : ℕ) :
    (b.makeRoom length).Fits := by
  unfold WriteBuffer.makeRoom
  split
  · exact h.consume _
  · exact h

@[simp] theorem mMaxSize_consume (b : WriteBuffer) (bytes : ℕ) :
    (b.consume bytes).mMaxSize = b.mMaxSize := by
  unfold consume
  split <;> rfl

@[simp] theorem mMaxSize_compact (b : WriteBuffer) : b.compact.mMaxSize = b.mMaxSize := by
  unfold compact
  split <;> rfl

@[simp] theorem mMaxSize_makeRoom (b : WriteBuffer) (length : ℕ) :
    (b.makeRoom length).mMaxSize = b.mMaxSize := by
  unfold makeRoom
  split
  · exact b.mMaxSize_consume _
  · rfl

@[simp] theorem mMaxSize_enqueue (b : WriteBuffer) (data : List UInt8) :
    (b.enqueue data).mMaxSize = b.mMaxSize := by
  unfold enqueue
  split
  · exact (mMaxSize_makeRoom b.compact.clear _).trans b.mMaxSize_compact
  · exact (mMaxSize_makeRoom b.compact _).trans b.mMaxSize_compact

/-! ### What `enqueue` keeps -/

/-- The room is made at the cost of the oldest bytes. -/
theorem peek_makeRoom {b : WriteBuffer} (h : b.Fits) {length : ℕ} (hlength : length ≤ b.mMaxSize) :
    (b.makeRoom length).peek = b.peek.rtake (b.mMaxSize - length) := by
  have hsize := h.size_le
  rw [List.rtake, b.length_peek]
  unfold makeRoom
  split
  · rw [peek_consume]
    congr 1
    omega
  · rw [Nat.sub_eq_zero_of_le (by omega), List.drop_zero]

theorem peek_insert {b : WriteBuffer} (h : b.Fits) (data : List UInt8) :
    (b.insert data).peek = b.peek ++ data :=
  List.drop_append_of_le_length h.readPos_le

/-- **What waits after `enqueue`**: the tail of what waited and what came in. -/
theorem peek_enqueue {b : WriteBuffer} (h : b.Fits) (data : List UInt8) :
    (b.enqueue data).peek = (b.peek ++ data).rtake b.mMaxSize := by
  unfold enqueue
  by_cases hlong : b.mMaxSize < data.length
  · -- nothing that waited is kept
    have hroom : (b.compact.clear.makeRoom b.mMaxSize).peek = [] := by
      rw [peek_makeRoom .clear b.mMaxSize_compact.ge, peek_clear, List.rtake_nil]
    have hgone : b.peek.drop (b.peek.length + data.length - b.mMaxSize) = [] :=
      List.drop_eq_nil_of_le (by omega)
    rw [if_pos hlong, peek_insert (Fits.clear.makeRoom _), hroom, List.nil_append, List.rtake,
      List.length_append, List.drop_append, hgone, List.nil_append]
    congr 1
    omega
  · have hdata : data.length ≤ b.mMaxSize := Nat.le_of_not_lt hlong
    rw [if_neg hlong, peek_insert (h.compact.makeRoom _),
      peek_makeRoom h.compact (by simpa using hdata), peek_compact, mMaxSize_compact, List.rtake,
      List.rtake, List.length_append, List.drop_append_of_le_length (by omega)]
    congr 2
    omega

theorem Fits.enqueue {b : WriteBuffer} (h : b.Fits) (data : List UInt8) :
    (b.enqueue data).Fits where
  size_le := by
    rw [← length_peek, peek_enqueue h, mMaxSize_enqueue, List.rtake, List.length_drop]
    omega
  readPos_le := by
    unfold WriteBuffer.enqueue
    split
    · exact (Fits.clear.makeRoom _).readPos_le.trans (by simp [insert])
    · exact (h.compact.makeRoom _).readPos_le.trans (by simp [insert])

end WriteBuffer

end SuplLpp.Socket
