import SuplLpp.Lib.Mealy
import SuplLpp.Lib.Ring
import Mathlib.Data.List.GetD
import Mathlib.Tactic.NormNum

/-!
# `format::helper::Parser`: the byte buffer shared by the format parsers

The buffer is a circular array with a read and a write position; one cell always stays
free.  `append` overwrites the oldest bytes when the array is full, and refuses a block
that is longer than the array.

* `Parser` and its operations, in `uint32_t` arithmetic (`u32`);
* `Queue.step`, what the component is for: a FIFO queue of at most `capacity - 1` bytes
  that keeps the newest;
* `Repr p q`: `p` holds the queue `q`.  Every operation keeps it and answers as the queue
  does (`Repr.step`), so `run_refines_queue` follows for every sequence of operations.

The array is a function on cell numbers; `Repr` shows that only cells below the capacity
are used.
-/

namespace SuplLpp.Helper

/-- The value of a `uint32_t` expression. -/
def u32 (n : ℕ) : ℕ := n % 2 ^ 32

theorem u32_of_lt {n : ℕ} (h : n < 2 ^ 32) : u32 n = n := Nat.mod_eq_of_lt h

/-- `PARSER_BUFFER_SIZE`. -/
def parserBufferSize : ℕ := 32 * 4096

structure Parser where
  mBuffer : ℕ → UInt8
  mBufferCapacity : ℕ
  mBufferRead : ℕ
  mBufferWrite : ℕ

namespace Parser

/-- The constructor: `memory` is whatever the freshly allocated array holds. -/
def new (memory : ℕ → UInt8) (capacity : ℕ) : Parser := ⟨memory, capacity, 0, 0⟩

/-- One round of the loop of `append`. -/
def push (p : Parser) (byte : UInt8) : Parser :=
  let write := u32 (p.mBufferWrite + 1) % p.mBufferCapacity
  { p with
    mBuffer := Function.update p.mBuffer p.mBufferWrite byte
    mBufferWrite := write
    mBufferRead :=
      -- buffer overflow: the oldest byte goes
      if write = p.mBufferRead then u32 (p.mBufferRead + 1) % p.mBufferCapacity
      else p.mBufferRead }

/-- `length32` is the length cut to 32 bits, so the loop reads only that many bytes. -/
def append (p : Parser) (data : List UInt8) : Parser × Bool :=
  let length32 := u32 data.length
  if length32 > p.mBufferCapacity then (p, false)
  else ((data.take length32).foldl push p, true)

def clear (p : Parser) : Parser := { p with mBufferRead := 0, mBufferWrite := 0 }

def bufferLength (p : Parser) : ℕ :=
  if p.mBufferWrite ≥ p.mBufferRead then p.mBufferWrite - p.mBufferRead
  else u32 (p.mBufferCapacity - p.mBufferRead + p.mBufferWrite)

def availableSpace (p : Parser) : ℕ := p.mBufferCapacity - p.bufferLength - 1

def peek (p : Parser) (index : UInt32) : UInt8 :=
  if index.toNat ≥ p.bufferLength then 0
  else p.mBuffer (u32 (p.mBufferRead + index.toNat) % p.mBufferCapacity)

def skip (p : Parser) (length : UInt32) : Parser :=
  let length := min length.toNat p.bufferLength
  { p with mBufferRead := u32 (p.mBufferRead + length) % p.mBufferCapacity }

/-- The caller's array after the copy; bytes past the available ones keep their value. -/
def copyToBuffer (p : Parser) (data : List UInt8) : List UInt8 :=
  let length32 := min (u32 data.length) p.bufferLength
  (List.range length32).map
      (fun i => p.mBuffer (u32 (p.mBufferRead + i) % p.mBufferCapacity)) ++
    data.drop length32

end Parser

/-! ### Operations and what they let an observer see -/

inductive Op
  | append (data : List UInt8)
  | skip (length : UInt32)
  | peek (index : UInt32)
  | copyToBuffer (data : List UInt8)
  | clear
  | bufferLength
  | availableSpace

inductive Obs
  | accepted (ok : Bool)
  | byte (b : UInt8)
  | bytes (l : List UInt8)
  | length (n : ℕ)
  deriving DecidableEq

/-- One operation on the buffer. -/
def Parser.step (p : Parser) : Op → Parser × List Obs
  | .append data => ((p.append data).1, [.accepted (p.append data).2])
  | .skip n => (p.skip n, [])
  | .peek i => (p, [.byte (p.peek i)])
  | .copyToBuffer data => (p, [.bytes (p.copyToBuffer data)])
  | .clear => (p.clear, [])
  | .bufferLength => (p, [.length p.bufferLength])
  | .availableSpace => (p, [.length p.availableSpace])

namespace Queue

/-- A queue of at most `capacity - 1` bytes that keeps the newest ones.  A block longer
than `capacity` is refused as a whole. -/
def append (capacity : ℕ) (q data : List UInt8) : List UInt8 × Bool :=
  if data.length > capacity then (q, false)
  else (Ring.keepNewest (capacity - 1) (q ++ data), true)

/-- One operation on the queue. -/
def step (capacity : ℕ) (q : List UInt8) : Op → List UInt8 × List Obs
  | .append data => ((append capacity q data).1, [.accepted (append capacity q data).2])
  | .skip n => (q.drop n.toNat, [])
  | .peek i => (q, [.byte (q.getD i.toNat 0)])
  | .copyToBuffer data => (q, [.bytes (q.take data.length ++ data.drop q.length)])
  | .clear => ([], [])
  | .bufferLength => (q, [.length q.length])
  | .availableSpace => (q, [.length (capacity - 1 - q.length)])

end Queue

/-! ### The buffer holds a queue -/

/-- `p` holds the queue `q`, oldest byte first. -/
structure Repr (p : Parser) (q : List UInt8) : Prop where
  capacity_le : p.mBufferCapacity ≤ 2 ^ 31
  read_lt : p.mBufferRead < p.mBufferCapacity
  length_lt : q.length < p.mBufferCapacity
  write_eq : p.mBufferWrite = (p.mBufferRead + q.length) % p.mBufferCapacity
  contents : Ring.window p.mBuffer p.mBufferCapacity p.mBufferRead q.length = q

theorem repr_new (memory : ℕ → UInt8) {capacity : ℕ} (hpos : 0 < capacity)
    (hle : capacity ≤ 2 ^ 31) : Repr (Parser.new memory capacity) [] where
  capacity_le := hle
  read_lt := hpos
  length_lt := hpos
  write_eq := by simp [Parser.new]
  contents := rfl

namespace Repr

variable {p : Parser} {q : List UInt8}

theorem capacity_pos (h : Repr p q) : 0 < p.mBufferCapacity := Nat.zero_lt_of_lt h.read_lt

theorem write_lt (h : Repr p q) : p.mBufferWrite < p.mBufferCapacity := by
  rw [h.write_eq]
  exact Nat.mod_lt _ h.capacity_pos

theorem bufferLength (h : Repr p q) : p.bufferLength = q.length := by
  have hle := h.capacity_le
  have hread := h.read_lt
  have hlen := h.length_lt
  have hwrite := h.write_eq
  unfold Parser.bufferLength
  rcases Nat.lt_or_ge (p.mBufferRead + q.length) p.mBufferCapacity with hlt | hge
  · rw [Nat.mod_eq_of_lt hlt] at hwrite
    rw [if_pos (by omega), hwrite, Nat.add_sub_cancel_left]
  · have hwrap : p.mBufferWrite = p.mBufferRead + q.length - p.mBufferCapacity := by
      rw [hwrite, Nat.mod_eq_sub_mod hge, Nat.mod_eq_of_lt (by omega)]
    rw [if_neg (by omega), u32_of_lt (by omega)]
    omega

/-- The cell an in-range offset lands in: the 32-bit sum does not wrap. -/
theorem u32_offset (h : Repr p q) {i : ℕ} (hi : i ≤ q.length) :
    u32 (p.mBufferRead + i) = p.mBufferRead + i := by
  have hle := h.capacity_le
  have hread := h.read_lt
  have hlen := h.length_lt
  exact u32_of_lt (by omega)

theorem cell (h : Repr p q) {i : ℕ} (hi : i < q.length) :
    p.mBuffer ((p.mBufferRead + i) % p.mBufferCapacity) = q[i] := by
  have hw := Ring.getElem?_window p.mBuffer p.mBufferCapacity p.mBufferRead q.length i
  rw [h.contents, if_pos hi, List.getElem?_eq_getElem hi] at hw
  exact (Option.some.inj hw).symm

theorem peek (h : Repr p q) (i : UInt32) : p.peek i = q.getD i.toNat 0 := by
  unfold Parser.peek
  rw [h.bufferLength]
  split_ifs with hi
  · rw [List.getD_eq_default _ _ hi]
  · rw [h.u32_offset (by omega), h.cell (by omega), List.getD_eq_getElem _ _ (by omega)]

theorem clear (h : Repr p q) : Repr p.clear [] where
  capacity_le := h.capacity_le
  read_lt := h.capacity_pos
  length_lt := h.capacity_pos
  write_eq := by simp [Parser.clear]
  contents := rfl

/-- Reading on by `k` bytes that are there. -/
theorem advance (h : Repr p q) {k : ℕ} (hk : k ≤ q.length) :
    Repr { p with mBufferRead := (p.mBufferRead + k) % p.mBufferCapacity } (q.drop k) where
  capacity_le := h.capacity_le
  read_lt := Nat.mod_lt _ h.capacity_pos
  length_lt := by have := h.length_lt; simp only [List.length_drop]; omega
  write_eq := by
    rw [List.length_drop, Nat.mod_add_mod, h.write_eq]
    congr 1
    omega
  contents := by
    rw [List.length_drop]
    conv_rhs => rw [← h.contents]
    exact (Ring.window_drop _ _ _ _ _).symm

theorem skip (h : Repr p q) (n : UInt32) : Repr (p.skip n) (q.drop n.toNat) := by
  have hdrop : q.drop n.toNat = q.drop (min n.toNat q.length) := by
    rcases Nat.le_total n.toNat q.length with hle | hle
    · rw [Nat.min_eq_left hle]
    · rw [Nat.min_eq_right hle, List.drop_of_length_le hle, List.drop_length]
  rw [hdrop]
  simp only [Parser.skip, h.bufferLength, h.u32_offset (Nat.min_le_right n.toNat q.length)]
  exact h.advance (Nat.min_le_right _ _)

theorem copyToBuffer (h : Repr p q) {data : List UInt8} (hdata : data.length < 2 ^ 32) :
    p.copyToBuffer data = q.take data.length ++ data.drop q.length := by
  simp only [Parser.copyToBuffer, h.bufferLength, u32_of_lt hdata]
  have htake : (List.range (min data.length q.length)).map
      (fun i => p.mBuffer (u32 (p.mBufferRead + i) % p.mBufferCapacity)) =
      q.take data.length := by
    apply List.ext_getElem
    · simp
    · intro i hi hi'
      simp only [List.length_map, List.length_range] at hi
      rw [List.getElem_map, List.getElem_range, List.getElem_take,
        h.u32_offset (by omega), h.cell (by omega)]
  have hdrop : data.drop (min data.length q.length) = data.drop q.length := by
    rcases Nat.le_total data.length q.length with hle | hle
    · rw [Nat.min_eq_left hle, List.drop_length, List.drop_of_length_le hle]
    · rw [Nat.min_eq_right hle]
  rw [htake, hdrop]

/-- One round of the loop of `append`: the byte is written behind the newest one, and the
oldest goes when the free cell would be lost. -/
theorem push (h : Repr p q) (b : UInt8) :
    Repr (p.push b) (Ring.keepNewest (p.mBufferCapacity - 1) (q ++ [b])) := by
  have hcap := h.capacity_le
  have hread := h.read_lt
  have hlen := h.length_lt
  have hread1 : u32 (p.mBufferRead + 1) = p.mBufferRead + 1 := u32_of_lt (by omega)
  have hwrite : u32 (p.mBufferWrite + 1) % p.mBufferCapacity =
      (p.mBufferRead + (q.length + 1)) % p.mBufferCapacity := by
    rw [u32_of_lt (by have := h.write_lt; omega), h.write_eq, Nat.mod_add_mod, Nat.add_assoc]
  -- with the byte written, the buffer shows a window of `q.length + 1` cells
  have hwin : Ring.window (Function.update p.mBuffer p.mBufferWrite b) p.mBufferCapacity
      p.mBufferRead (q.length + 1) = q ++ [b] := by
    rw [h.write_eq, Ring.window_snoc _ hlen, h.contents]
  rw [Ring.keepNewest_snoc (by omega)]
  rcases Nat.lt_or_ge (q.length + 1) p.mBufferCapacity with hroom | hfull
  · have hne : (p.mBufferRead + (q.length + 1)) % p.mBufferCapacity ≠ p.mBufferRead := by
      have hne0 : (p.mBufferRead + 0) % p.mBufferCapacity ≠
          (p.mBufferRead + (q.length + 1)) % p.mBufferCapacity :=
        Ring.offset_ne (by omega) hroom
      rwa [Nat.add_zero, Nat.mod_eq_of_lt hread, ne_comm] at hne0
    rw [if_pos (by omega), Parser.push]
    simp only [hwrite, if_neg hne]
    exact ⟨hcap, hread, by simpa using hroom, by simp, by simpa using hwin⟩
  · -- the write position meets the read position
    have heq : (p.mBufferRead + (q.length + 1)) % p.mBufferCapacity = p.mBufferRead := by
      rw [show q.length + 1 = p.mBufferCapacity by omega, Nat.add_mod_right,
        Nat.mod_eq_of_lt hread]
    rw [if_neg (by omega), Parser.push]
    simp only [hwrite, if_pos heq, hread1]
    refine ⟨hcap, Nat.mod_lt _ h.capacity_pos, by simpa using hlen, ?_, ?_⟩
    · have hsum : (p.mBufferRead + 1) + ((q ++ [b]).drop 1).length =
          p.mBufferRead + (q.length + 1) := by simp; omega
      rw [Nat.mod_add_mod, hsum]
    · have hlen1 : ((q ++ [b]).drop 1).length = q.length + 1 - 1 := by simp
      rw [hlen1, ← Ring.window_drop, hwin]

@[simp] theorem push_capacity (p : Parser) (b : UInt8) :
    (p.push b).mBufferCapacity = p.mBufferCapacity := rfl

theorem foldl_push (data : List UInt8) {p : Parser} {q : List UInt8} (h : Repr p q) :
    (data.foldl Parser.push p).mBufferCapacity = p.mBufferCapacity ∧
      Repr (data.foldl Parser.push p) (Ring.keepNewest (p.mBufferCapacity - 1) (q ++ data)) := by
  induction data generalizing p q with
  | nil =>
    have hlen := h.length_lt
    rw [List.append_nil, Ring.keepNewest_of_le (by omega)]
    exact ⟨rfl, h⟩
  | cons b data ih =>
    obtain ⟨hcap, hrepr⟩ := ih (h.push b)
    rw [push_capacity] at hcap hrepr
    refine ⟨hcap, ?_⟩
    rw [Ring.keepNewest_append] at hrepr
    simpa using hrepr

theorem append (h : Repr p q) {data : List UInt8} (hdata : data.length < 2 ^ 32) :
    (p.append data).2 = (Queue.append p.mBufferCapacity q data).2 ∧
      (p.append data).1.mBufferCapacity = p.mBufferCapacity ∧
      Repr (p.append data).1 (Queue.append p.mBufferCapacity q data).1 := by
  simp only [Parser.append, Queue.append, u32_of_lt hdata, List.take_length]
  split_ifs with hlong
  · exact ⟨rfl, rfl, h⟩
  · obtain ⟨hcap, hrepr⟩ := foldl_push data h
    exact ⟨rfl, hcap, hrepr⟩

/-- A block for which there is room stands behind what is there. -/
theorem append_fits (h : Repr p q) {data : List UInt8}
    (hfit : q.length + data.length < p.mBufferCapacity) :
    (p.append data).1.mBufferCapacity = p.mBufferCapacity ∧
      Repr (p.append data).1 (q ++ data) := by
  have hcap := h.capacity_le
  obtain ⟨-, hsame, hrepr⟩ := h.append (show data.length < 2 ^ 32 by omega)
  refine ⟨hsame, ?_⟩
  rwa [Queue.append, if_neg (by omega), Ring.keepNewest_of_le] at hrepr
  rw [List.length_append]
  omega

end Repr

/-- The blocks an operation is handed are shorter than `2 ^ 32` bytes. -/
def Op.Short : Op → Prop
  | .append data => data.length < 2 ^ 32
  | .copyToBuffer data => data.length < 2 ^ 32
  | _ => True

/-- **Every operation keeps the representation and answers as the queue does.** -/
theorem Repr.step {p : Parser} {q : List UInt8} (h : Repr p q) {op : Op} (hop : op.Short) :
    (p.step op).1.mBufferCapacity = p.mBufferCapacity ∧
      Repr (p.step op).1 (Queue.step p.mBufferCapacity q op).1 ∧
      (p.step op).2 = (Queue.step p.mBufferCapacity q op).2 := by
  cases op with
  | append data =>
    obtain ⟨hflag, hcap, hrepr⟩ := h.append hop
    exact ⟨hcap, hrepr, by simp only [Parser.step, Queue.step, hflag]⟩
  | skip n => exact ⟨rfl, h.skip n, rfl⟩
  | peek i => exact ⟨rfl, h, by simp only [Parser.step, Queue.step, h.peek]⟩
  | copyToBuffer data =>
    exact ⟨rfl, h, by simp only [Parser.step, Queue.step, h.copyToBuffer hop]⟩
  | clear => exact ⟨rfl, h.clear, rfl⟩
  | bufferLength => exact ⟨rfl, h, by simp only [Parser.step, Queue.step, h.bufferLength]⟩
  | availableSpace =>
    refine ⟨rfl, h, ?_⟩
    simp only [Parser.step, Queue.step, Parser.availableSpace, h.bufferLength]
    rw [Nat.sub_sub, Nat.sub_sub, Nat.add_comm]

/-- Whole runs: the buffer of a fresh parser represents the queue throughout. -/
theorem run_repr (memory : ℕ → UInt8) {capacity : ℕ} (hpos : 0 < capacity)
    (hle : capacity ≤ 2 ^ 31) {ops : List Op} (hops : ∀ op ∈ ops, op.Short) :
    Repr (Mealy.run Parser.step (Parser.new memory capacity) ops).1
        (Mealy.run (Queue.step capacity) [] ops).1 ∧
      (Mealy.run Parser.step (Parser.new memory capacity) ops).1.mBufferCapacity = capacity ∧
      (Mealy.run Parser.step (Parser.new memory capacity) ops).2 =
        (Mealy.run (Queue.step capacity) [] ops).2 := by
  have h := Mealy.run_simulates (f := Parser.step) (g := Queue.step capacity)
    (R := fun p q => Repr p q ∧ p.mBufferCapacity = capacity) Op.Short
    (fun p q op hpq hop => by
      obtain ⟨hcap, hrepr, hout⟩ := hpq.1.step hop
      rw [hpq.2] at hcap hrepr hout
      exact ⟨⟨hrepr, hcap⟩, hout⟩)
    ⟨repr_new memory hpos hle, rfl⟩ hops
  exact ⟨h.1.1, h.1.2, h.2⟩

/-! ### The buffer is the queue -/

/-- The queue that would also keep the newest bytes of an oversized block. -/
def Queue.keepingStep (capacity : ℕ) (q : List UInt8) : Op → List UInt8 × List Obs
  | .append data =>
      (Ring.keepNewest (capacity - 1) (q ++ data), [.accepted (Queue.append capacity q data).2])
  | op => Queue.step capacity q op

/-- **Refinement.**  For every capacity and every sequence of operations, the buffer shows
what a FIFO queue of at most `capacity - 1` bytes shows that keeps the newest bytes and
refuses blocks longer than `capacity`; its length and `peek` are those of the queue, and
both positions stay below the capacity. -/
theorem run_refines_queue (memory : ℕ → UInt8) (capacity : ℕ) (hpos : 0 < capacity)
    (hle : capacity ≤ 2 ^ 31) (ops : List Op) (hops : ∀ op ∈ ops, op.Short) :
    let p := (Mealy.run Parser.step (Parser.new memory capacity) ops).1
    let q := (Mealy.run (Queue.step capacity) [] ops).1
    (Mealy.run Parser.step (Parser.new memory capacity) ops).2 =
        (Mealy.run (Queue.step capacity) [] ops).2 ∧
      p.bufferLength = q.length ∧ q.length ≤ capacity - 1 ∧
      (∀ i : UInt32, i.toNat < p.bufferLength → q[i.toNat]? = some (p.peek i)) ∧
      p.mBufferRead < capacity ∧ p.mBufferWrite < capacity := by
  intro p q
  obtain ⟨hrepr, hcap, hout⟩ := run_repr memory hpos hle hops
  have hlen := hrepr.length_lt
  have hread := hrepr.read_lt
  have hwrite := hrepr.write_lt
  rw [hcap] at hlen hread hwrite
  refine ⟨hout, hrepr.bufferLength, Nat.le_sub_one_of_lt hlen, fun i hi => ?_, hread, hwrite⟩
  rw [hrepr.bufferLength] at hi
  rw [hrepr.peek, List.getD_eq_getElem _ _ hi, List.getElem?_eq_getElem hi]

/-- Four cells, a block and a look at the result. -/
theorem run_refines_queue_four :
    (∀ op ∈ [Op.append [1, 2, 3, 4], .peek 0], op.Short) ∧
      (Mealy.run Parser.step (Parser.new (fun _ => 0) 4) [.append [1, 2, 3, 4], .peek 0]).2 =
        (Mealy.run (Queue.step 4) [] [.append [1, 2, 3, 4], .peek 0]).2 :=
  have hops : ∀ op ∈ [Op.append [1, 2, 3, 4], .peek 0], op.Short := by
    simp [Op.Short]
  ⟨hops, (run_refines_queue (fun _ => 0) 4 (by decide) (by decide) _ hops).1⟩

/-- A block of five bytes is refused by a buffer of four cells, and of a block of
`2 ^ 32 + 1` bytes one byte is kept: in neither case the newest three bytes. -/
theorem append_oversized_not_newest :
    (Mealy.run Parser.step (Parser.new (fun _ => 0) 4)
        [.append [1, 2, 3, 4, 5], .bufferLength]).2 ≠
      (Mealy.run (Queue.keepingStep 4) [] [.append [1, 2, 3, 4, 5], .bufferLength]).2 ∧
    ((Parser.new (fun _ => 0) 4).append (List.replicate (2 ^ 32 + 1) 7)).1.bufferLength ≠
      (Ring.keepNewest 3 (List.replicate (2 ^ 32 + 1) (7 : UInt8))).length := by
  constructor
  · decide
  · have hcut : u32 (2 ^ 32 + 1) = 1 := rfl
    rw [Ring.length_keepNewest]
    simp only [Parser.append, List.length_replicate, hcut, List.take_replicate]
    decide

end SuplLpp.Helper
