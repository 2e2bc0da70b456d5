import SuplLpp.Format.Helper
import SuplLpp.Ubx.Messages

/-!
# `format::ubx::Parser`

The parser looks for the two bytes that start a frame, copies the frame into an array of its
own, tests the checksum and hands the payload to the parser of its message.

* `tryParse`, on the shared byte buffer, and `Queue.tryParse`, on the bytes it holds;
  `tryParse_repr` connects them;
* `step`, the parser with appends and tries in any order;
* `isolation_iff`: on which runs a frame stays in the array and a message depends on its own
  frame only.

The array has room for 8192 bytes; what stands behind it in the memory is part of the model, and
so is what an earlier try has left.
-/

namespace SuplLpp.Ubx

open Helper LittleEndian

/-! ### The checksum -/

/-- One round of `checksum`: the two sums. -/
def checksumRound (ck : UInt8 × UInt8) (byte : UInt8) : UInt8 × UInt8 :=
  (ck.1 + byte, ck.2 + (ck.1 + byte))

def checksum (payload : List UInt8) : UInt16 :=
  let ck := payload.foldl checksumRound (0, 0)
  ck.2.toUInt16 <<< 8 ||| ck.1.toUInt16

/-- Without the start and the checksum itself. -/
def checksumMessage (message : List UInt8) : UInt16 :=
  checksum ((message.drop 2).take (message.length - 4))

/-- The checksum that a frame carries. -/
def expectedChecksum (message : List UInt8) : UInt16 :=
  (message.getD (message.length - 1) 0).toUInt16 <<< 8 |||
    (message.getD (message.length - 2) 0).toUInt16

/-! ### Messages and what a try lets an observer see -/

structure Message where
  mClass : UInt8
  mId : UInt8
  mData : List UInt8
  content : Content

inductive Event
  /-- So many bytes are written to the array. -/
  | copied (length : ℕ)
  /-- A frame is taken out of the buffer and gives a result. -/
  | parsed (frame : List UInt8) (result : Result Message)

/-- The size of the array. -/
def bufferSize : ℕ := 8192

/-- The memory from the array on. -/
structure Memory where
  cells : List UInt8
  long : bufferSize + 8 ≤ cells.length

/-- `copy_to_buffer`, to the start of the memory. -/
def copyTo (p : Parser) (cells : List UInt8) (length : ℕ) : List UInt8 :=
  p.copyToBuffer (cells.take length) ++ cells.drop length

def contents (p : Parser) : List UInt8 :=
  Ring.window p.mBuffer p.mBufferCapacity p.mBufferRead p.bufferLength

/-! ### The parser -/

def isFrameBoundary (p : Parser) : Bool :=
  if p.bufferLength < 2 then false
  else if p.peek 0 ≠ 0xB5 then false
  else if p.peek 1 ≠ 0x62 then false
  else true

/-- The loop that looks for a boundary; each round but the last one drops a byte. -/
def search : ℕ → Parser → Parser
  | 0, p => p
  | rounds + 1, p =>
    if p.bufferLength < 8 then p
    else if isFrameBoundary p then p
    else search rounds (p.skip 1)

structure Header where
  messageClass : UInt8
  messageId : UInt8
  length : UInt16

def header : StateM Decoder Header := do
  Decoder.skip 2
  let messageClass ← Decoder.u1
  let messageId ← Decoder.u1
  let length ← Decoder.u2
  pure ⟨messageClass, messageId, length⟩

def Header.type (h : Header) : UInt16 := h.messageClass.toUInt16 <<< 8 ||| h.messageId.toUInt16

def tryParse (memory : Memory) (p : Parser) : Parser × List Event :=
  let p := search p.bufferLength p
  if p.bufferLength < 8 then (p, [])
  else
    let buffer := copyTo p memory.cells 6
    let h := (header.run (.create buffer 6)).1
    let length := h.length.toNat
    if length > 8192 then (p.skip 2, [.copied 6])
    else if p.bufferLength < length + 8 then (p, [.copied 6])
    else
      let buffer := copyTo p buffer (length + 8)
      let data := buffer.take (length + 8)
      if checksumMessage data ≠ expectedChecksum data then
        (p.skip 2, [.copied 6, .copied (length + 8)])
      else
        let content := ((parseContent h.type).run (.create (buffer.drop 6) length)).1
        (p.skip (length + 8).toUInt32, [.copied 6, .copied (length + 8),
          .parsed ((contents p).take (length + 8))
            (content.map fun c => ⟨h.messageClass, h.messageId, data, c⟩)])

inductive Input
  | append (data : List UInt8)
  | tryParse (memory : Memory)

def step (p : Parser) : Input → Parser × List Event
  | .append data => ((p.append data).1, [])
  | .tryParse memory => tryParse memory p

/-! ### Frames -/

/-- The bytes of the length field. -/
def lengthOf (frame : List UInt8) : ℕ := ofBytes [frame.getD 4 0, frame.getD 5 0]

def typeOf (frame : List UInt8) : UInt16 :=
  (frame.getD 2 0).toUInt16 <<< 8 ||| (frame.getD 3 0).toUInt16

def payloadOf (frame : List UInt8) : List UInt8 := (frame.drop 6).take (frame.length - 8)

/-- The result that a frame gives, with `beyond` behind its payload in the memory. -/
def messageOf (frame beyond : List UInt8) : Result Message :=
  (decode (typeOf frame) (payloadOf frame) beyond).map fun c =>
    ⟨frame.getD 2 0, frame.getD 3 0, frame, c⟩

structure IsFrame (frame : List UInt8) : Prop where
  long : 8 ≤ frame.length
  start : frame.take 2 = [0xB5, 0x62]
  length : frame.length = lengthOf frame + 8
  checksum : checksumMessage frame = expectedChecksum frame

/-- Nothing is written past the array, and the message is made from the frame alone. -/
def Event.Isolated : Event → Prop
  | .copied length => length ≤ bufferSize
  | .parsed frame result => IsFrame frame ∧ ∀ beyond, result = messageOf frame beyond

/-! ### The parser on the bytes that the buffer holds -/

namespace Queue

def search : List UInt8 → List UInt8
  | [] => []
  | b :: q =>
    if (b :: q).length < 8 then b :: q
    else if b = 0xB5 ∧ q.getD 0 0 = 0x62 then b :: q
    else search q

def tryParse (memory : Memory) (q : List UInt8) : List UInt8 × List Event :=
  let q := search q
  let length := lengthOf q
  if q.length < 8 then (q, [])
  else if length > 8192 then (q.drop 2, [.copied 6])
  else if q.length < length + 8 then (q, [.copied 6])
  else
    let frame := q.take (length + 8)
    if checksumMessage frame ≠ expectedChecksum frame then
      (q.drop 2, [.copied 6, .copied (length + 8)])
    else
      let beyond := frame.drop (length + 6) ++ memory.cells.drop (length + 8)
      (q.drop (length + 8), [.copied 6, .copied (length + 8),
        .parsed frame (messageOf frame beyond)])

end Queue

theorem contents_repr {p : Parser} {q : List UInt8} (h : Repr p q) : contents p = q := by
  rw [contents, h.bufferLength]
  exact h.contents

theorem isFrameBoundary_repr {p : Parser} {b : UInt8} {q : List UInt8} (h : Repr p (b :: q))
    (hlong : ¬(b :: q).length < 8) :
    isFrameBoundary p = true ↔ b = 0xB5 ∧ q.getD 0 0 = 0x62 := by
  have hfirst := h.peek 0
  have hsecond := h.peek 1
  rw [show (0 : UInt32).toNat = 0 from rfl, List.getD_cons_zero] at hfirst
  rw [show (1 : UInt32).toNat = 0 + 1 from rfl, List.getD_cons_succ] at hsecond
  rw [isFrameBoundary, h.bufferLength, if_neg (by omega), hfirst, hsecond]
  by_cases hb : b = 0xB5
  · simp [hb]
  · simp [hb]

theorem search_repr {p : Parser} {q : List UInt8} (h : Repr p q) :
    Repr (search q.length p) (Queue.search q) := by
  induction q generalizing p with
  | nil => exact h
  | cons b q ih =>
    have hlen := h.bufferLength
    rw [List.length_cons, search, Queue.search, hlen]
    by_cases hshort : (b :: q).length < 8
    · rw [if_pos hshort, if_pos hshort]
      exact h
    rw [if_neg hshort, if_neg hshort]
    by_cases hboundary : isFrameBoundary p = true
    · rw [if_pos hboundary, if_pos ((isFrameBoundary_repr h hshort).1 hboundary)]
      exact h
    · rw [if_neg hboundary, if_neg fun hb => hboundary ((isFrameBoundary_repr h hshort).2 hb)]
      exact ih (h.skip 1)

/-- Where the search arrives with enough bytes, a boundary stands. -/
theorem search_boundary (q : List UInt8) (h : 8 ≤ (Queue.search q).length) :
    (Queue.search q).take 2 = [0xB5, 0x62] := by
  induction q with
  | nil => cases h
  | cons b q ih =>
    rw [Queue.search] at h ⊢
    by_cases hshort : (b :: q).length < 8
    · rw [if_pos hshort] at h
      omega
    rw [if_neg hshort] at h ⊢
    by_cases hboundary : b = 0xB5 ∧ q.getD 0 0 = 0x62
    · rw [if_pos hboundary]
      cases q with
      | nil => exact absurd hboundary.2 (by decide)
      | cons c q =>
        rw [List.getD_cons_zero] at hboundary
        rw [hboundary.1, hboundary.2]
        rfl
    · rw [if_neg hboundary] at h ⊢
      exact ih h

theorem copyTo_repr {p : Parser} {q cells : List UInt8} {n : ℕ} (h : Repr p q)
    (hq : n ≤ q.length) (hcells : n ≤ cells.length) :
    copyTo p cells n = q.take n ++ cells.drop n := by
  have hlength : (cells.take n).length = n := List.length_take_of_le hcells
  have hcap := h.capacity_le
  have hlt := h.length_lt
  rw [copyTo, h.copyToBuffer (by omega), hlength, List.drop_of_length_le (by omega),
    List.append_nil]

theorem lengthOf_lt (frame : List UInt8) : lengthOf frame < 2 ^ 16 :=
  lt_of_lt_of_eq (ofBytes_lt _) (by simp)

/-- What the header decoder makes of a frame. -/
theorem run_header {q : List UInt8} (h : 8 ≤ q.length) (rest : List UInt8) :
    ∃ hd : Header, (header.run (.create (q.take 6 ++ rest) 6)).1 = hd ∧
      hd.messageClass = q.getD 2 0 ∧ hd.messageId = q.getD 3 0 ∧ hd.length.toNat = lengthOf q := by
  match q, h with
  | b0 :: b1 :: b2 :: b3 :: b4 :: b5 :: b6 :: b7 :: q, _ =>
    refine ⟨_, rfl, rfl, rfl, ?_⟩
    have hlength : Decoder.x2.run ⟨[b4, b5] ++ rest, 2, false⟩ =
        ((ofBytes [b4, b5]).toUInt16, ⟨rest, 0, false⟩) :=
      Decoder.run_x2 rfl rest (Nat.le_refl 2) false
    change (Decoder.x2.run ⟨[b4, b5] ++ rest, 2, false⟩).1.toNat = _
    rw [hlength, Nat.toUInt16_eq, UInt16.toNat_ofNat',
      Nat.mod_eq_of_lt (lt_of_lt_of_eq (ofBytes_lt _) (by simp))]
    rfl

theorem getD_take {q : List UInt8} {n i : ℕ} (h : i < n) : (q.take n).getD i 0 = q.getD i 0 := by
  rw [List.getD_eq_getElem?_getD, List.getD_eq_getElem?_getD, List.getElem?_take_of_lt h]

/-- A frame and the memory behind it, from the payload on. -/
theorem drop_frame {frame rest : List UInt8} (h : 8 ≤ frame.length) :
    (frame ++ rest).drop 6 =
      payloadOf frame ++ (frame.drop (frame.length - 2) ++ rest) := by
  have hsplit : payloadOf frame ++ frame.drop (frame.length - 2) = frame.drop 6 := by
    have htail : frame.drop (frame.length - 2) = (frame.drop 6).drop (frame.length - 8) := by
      rw [List.drop_drop]
      congr 1
      omega
    rw [payloadOf, htail, List.take_append_drop]
  rw [List.drop_append_of_le_length (by omega), ← List.append_assoc, hsplit]

theorem length_payloadOf {frame : List UInt8} (h : 8 ≤ frame.length) :
    (payloadOf frame).length = frame.length - 8 := by
  rw [payloadOf, List.length_take, List.length_drop]
  omega

/-- The parser does to its buffer what `Queue.tryParse` does to the bytes. -/
theorem tryParse_repr {p : Parser} {q : List UInt8} (h : Repr p q) (memory : Memory) :
    Repr (tryParse memory p).1 (Queue.tryParse memory q).1 ∧
      (tryParse memory p).2 = (Queue.tryParse memory q).2 := by
  have hs := search_repr h
  rw [← h.bufferLength] at hs
  unfold tryParse Queue.tryParse
  generalize search p.bufferLength p = p at hs
  generalize Queue.search q = q at hs
  have hlong := memory.long
  have hlt := lengthOf_lt q
  simp only [bufferSize] at hlong
  simp only [hs.bufferLength]
  by_cases hshort : q.length < 8
  · rw [if_pos hshort, if_pos hshort]
    exact ⟨hs, rfl⟩
  rw [if_neg hshort, if_neg hshort, copyTo_repr hs (by omega) (by omega)]
  obtain ⟨hd, hheader, hclass, hid, hlength⟩ :=
    run_header (Nat.not_lt.1 hshort) (memory.cells.drop 6)
  rw [hheader, hlength]
  by_cases htoolong : lengthOf q > 8192
  · rw [if_pos htoolong, if_pos htoolong]
    exact ⟨hs.skip 2, rfl⟩
  rw [if_neg htoolong, if_neg htoolong]
  by_cases hpartial : q.length < lengthOf q + 8
  · rw [if_pos hpartial, if_pos hpartial]
    exact ⟨hs, rfl⟩
  rw [if_neg hpartial, if_neg hpartial]
  -- the second copy covers the first one
  have hframe : (q.take (lengthOf q + 8)).length = lengthOf q + 8 :=
    List.length_take_of_le (Nat.not_lt.1 hpartial)
  have hcopy : copyTo p (q.take 6 ++ memory.cells.drop 6) (lengthOf q + 8) =
      q.take (lengthOf q + 8) ++ memory.cells.drop (lengthOf q + 8) := by
    have hfirst : (q.take 6).length = 6 := List.length_take_of_le (by omega)
    rw [copyTo_repr hs (Nat.not_lt.1 hpartial) (by simp; omega), List.drop_append, hfirst,
      List.drop_of_length_le (by omega), List.nil_append, List.drop_drop]
    congr 2
    omega
  have hdata : (q.take (lengthOf q + 8) ++ memory.cells.drop (lengthOf q + 8)).take
      (lengthOf q + 8) = q.take (lengthOf q + 8) := by
    rw [List.take_append_of_le_length (by omega), List.take_of_length_le (by omega)]
  rw [hcopy, hdata]
  by_cases hchecksum : checksumMessage (q.take (lengthOf q + 8)) ≠
      expectedChecksum (q.take (lengthOf q + 8))
  · rw [if_pos hchecksum, if_pos hchecksum]
    exact ⟨hs.skip 2, rfl⟩
  rw [if_neg hchecksum, if_neg hchecksum]
  have hskip := hs.skip (lengthOf q + 8).toUInt32
  rw [Nat.toUInt32_eq, UInt32.toNat_ofNat', Nat.mod_eq_of_lt (by omega)] at hskip
  refine ⟨hskip, ?_⟩
  have htype : typeOf (q.take (lengthOf q + 8)) = hd.type := by
    rw [typeOf, getD_take (by omega), getD_take (by omega), Header.type, hclass, hid]
  have hpayload : (payloadOf (q.take (lengthOf q + 8))).length = lengthOf q := by
    rw [length_payloadOf (by omega), hframe, Nat.add_sub_cancel]
  have hmessage : messageOf (q.take (lengthOf q + 8))
      ((q.take (lengthOf q + 8)).drop (lengthOf q + 6) ++
        memory.cells.drop (lengthOf q + 8)) =
      (((parseContent hd.type).run (.create
        ((q.take (lengthOf q + 8) ++ memory.cells.drop (lengthOf q + 8)).drop 6)
        (lengthOf q))).1.map fun c =>
          ⟨hd.messageClass, hd.messageId, q.take (lengthOf q + 8), c⟩) := by
    rw [messageOf, htype, decode, hpayload, drop_frame (by omega), hframe,
      getD_take (by omega), getD_take (by omega), hclass, hid]
    rfl
  rw [hmessage, contents_repr hs]

/-! ### Runs -/

/-- The frame that the search arrives at, when it is complete and of a length that the parser
accepts. -/
def front (q : List UInt8) : Option (List UInt8) :=
  let q := Queue.search q
  let length := lengthOf q
  if 8 ≤ q.length ∧ length ≤ 8192 ∧ length + 8 ≤ q.length then some (q.take (length + 8)) else none

/-- The last string of the frame, if it has strings, ends in its payload. -/
def StringsEnd (frame : List UInt8) : Prop :=
  checksumMessage frame = expectedChecksum frame → typeOf frame = 0x0A04 →
    40 ≤ (payloadOf frame).length → MonVer.Terminated (payloadOf frame)

instance (frame : List UInt8) : Decidable (StringsEnd frame) :=
  inferInstanceAs (Decidable (_ → _))

/-- The step meets no frame that does not fit in the array and no string without an end. -/
def Safe (p : Parser) : Input → Prop
  | .append _ => True
  | .tryParse _ => ∀ frame, front (contents p) = some frame →
      frame.length ≤ bufferSize ∧ StringsEnd frame

/-- An append, of whatever length, leaves some queue. -/
theorem append_repr {p : Parser} {q : List UInt8} (h : Repr p q) (data : List UInt8) :
    ∃ q', Repr (p.append data).1 q' := by
  have hcut : (p.append data).1 = (p.append (data.take (u32 data.length))).1 := by
    have hle : u32 data.length ≤ data.length := Nat.mod_le _ _
    have hlt : u32 data.length < 2 ^ 32 := Nat.mod_lt _ (by decide)
    simp only [Parser.append, List.length_take_of_le hle, u32_of_lt hlt, List.take_take,
      Nat.min_self]
  have hshort : (data.take (u32 data.length)).length < 2 ^ 32 :=
    lt_of_le_of_lt (List.length_take_le _ _) (Nat.mod_lt _ (by decide))
  rw [hcut]
  exact ⟨_, (h.append hshort).2.2⟩

/-- An append to a buffer with room for it. -/
theorem append_room {p : Parser} {q data : List UInt8} (h : Repr p q)
    (hroom : q.length + data.length < p.mBufferCapacity) : Repr (p.append data).1 (q ++ data) := by
  have hcap := h.capacity_le
  have hshort : data.length < 2 ^ 32 := by omega
  have happend := (h.append hshort).2.2
  rw [Queue.append, if_neg (by omega), Ring.keepNewest_of_le (by simp; omega)] at happend
  exact happend

theorem isFrame_of_search {q : List UInt8} (hlong : 8 ≤ (Queue.search q).length)
    (hcomplete : lengthOf (Queue.search q) + 8 ≤ (Queue.search q).length)
    (hchecksum : checksumMessage ((Queue.search q).take (lengthOf (Queue.search q) + 8)) =
      expectedChecksum ((Queue.search q).take (lengthOf (Queue.search q) + 8))) :
    IsFrame ((Queue.search q).take (lengthOf (Queue.search q) + 8)) := by
  have hframe := List.length_take_of_le hcomplete
  refine ⟨by omega, ?_, ?_, hchecksum⟩
  · rw [List.take_take, Nat.min_eq_left (by omega)]
    exact search_boundary q hlong
  · have hfield : lengthOf ((Queue.search q).take (lengthOf (Queue.search q) + 8)) =
        lengthOf (Queue.search q) := by
      rw [lengthOf, getD_take (by omega), getD_take (by omega), ← lengthOf]
    rw [hframe, hfield]

/-- The message of a frame with a correct checksum is made from the frame alone exactly when its
strings end. -/
theorem messageOf_iff {frame : List UInt8} (h : checksumMessage frame = expectedChecksum frame)
    (behind : List UInt8) :
    (∀ beyond, messageOf frame behind = messageOf frame beyond) ↔ StringsEnd frame := by
  have hinjective : Function.Injective (Result.map fun c : Content =>
      (⟨frame.getD 2 0, frame.getD 3 0, frame, c⟩ : Message)) :=
    Result.map_injective fun c c' hc => (Message.mk.inj hc).2.2.2
  simp only [messageOf, hinjective.eq_iff, decode_payload_only_iff]
  exact ⟨fun hends _ => hends, fun hends => hends h⟩

theorem events_isolated_iff (memory : Memory) (q : List UInt8) :
    (∀ e ∈ (Queue.tryParse memory q).2, e.Isolated) ↔
      ∀ frame, front q = some frame → frame.length ≤ bufferSize ∧ StringsEnd frame := by
  have hsix : (Event.copied 6).Isolated := show 6 ≤ bufferSize by decide
  unfold Queue.tryParse front
  by_cases hshort : (Queue.search q).length < 8
  · have hnot : ¬8 ≤ (Queue.search q).length := by omega
    simp [hshort, hnot]
  by_cases htoolong : lengthOf (Queue.search q) > 8192
  · have hnot : ¬lengthOf (Queue.search q) ≤ 8192 := by omega
    simp [hshort, htoolong, hnot, hsix]
  by_cases hpartial : (Queue.search q).length < lengthOf (Queue.search q) + 8
  · have hnot : ¬lengthOf (Queue.search q) + 8 ≤ (Queue.search q).length := by omega
    simp [hshort, htoolong, hpartial, hnot, hsix]
  have hcomplete := Nat.not_lt.1 hpartial
  have hall : 8 ≤ (Queue.search q).length ∧ lengthOf (Queue.search q) ≤ 8192 ∧
      lengthOf (Queue.search q) + 8 ≤ (Queue.search q).length := by omega
  have hframe := List.length_take_of_le hcomplete
  simp only [if_neg hshort, if_neg htoolong, if_neg hpartial, if_pos hall, Option.some.injEq,
    forall_eq', hframe]
  by_cases hchecksum : checksumMessage ((Queue.search q).take (lengthOf (Queue.search q) + 8)) =
      expectedChecksum ((Queue.search q).take (lengthOf (Queue.search q) + 8))
  · have hvalid := isFrame_of_search hall.1 hcomplete hchecksum
    rw [if_neg (not_not.2 hchecksum), ← messageOf_iff hchecksum]
    simp only [List.forall_mem_cons, List.not_mem_nil, false_imp_iff, implies_true, and_true,
      hsix, true_and]
    exact and_congr_right fun _ => and_iff_right hvalid
  · rw [if_pos hchecksum]
    simp only [List.forall_mem_cons, List.not_mem_nil, false_imp_iff, implies_true, and_true,
      hsix, true_and]
    exact (and_iff_left fun h => absurd h hchecksum).symm

/-- **Isolation.**  In a run of the parser from the start, with any appends and any memory
behind the array, every frame stays in the array and every message is made from its own frame
alone exactly when no try meets a frame that does not fit, or a UBX-MON-VER frame whose last
string has no end in the payload. -/
theorem isolation_iff (fresh : ℕ → UInt8) (inputs : List Input) :
    (∀ e ∈ (Mealy.run step (Parser.new fresh parserBufferSize) inputs).2, e.Isolated) ↔
      Mealy.Along (fun p _ input => Safe p input) step (Parser.new fresh parserBufferSize) []
        inputs := by
  refine Mealy.outputs_iff_along (P := fun p => ∃ q, Repr p q) ?_ ?_
    ⟨[], repr_new fresh (by decide) (by decide)⟩ [] inputs
  · rintro p input ⟨q, hq⟩
    cases input with
    | append data => exact append_repr hq data
    | tryParse memory => exact ⟨_, (tryParse_repr hq memory).1⟩
  · rintro p input ⟨q, hq⟩
    cases input with
    | append data => simp [step, Safe]
    | tryParse memory =>
      rw [step, (tryParse_repr hq memory).2, events_isolated_iff, Safe, contents_repr hq]

/-- A frame with 8192 bytes of payload: the array has no room for its eight other bytes. -/
def longFrame : List UInt8 := [0xB5, 0x62, 0x00, 0x00, 0x00, 0x20] ++ List.replicate 8194 0

/-- A UBX-MON-VER frame whose strings are full. -/
def fullStrings : List UInt8 :=
  [0xB5, 0x62, 0x0A, 0x04, 0x28, 0x00] ++ List.replicate 40 0x41 ++ [0x5E, 0x28]

def zeros : Memory :=
  ⟨List.replicate 8200 0, by
    rw [List.length_replicate]
    decide⟩

/-- One frame, from the start. -/
theorem isolated_frame_iff {frame : List UInt8} (h : frame.length < parserBufferSize)
    (hfront : front frame = some frame) :
    (∀ e ∈ (Mealy.run step (Parser.new (fun _ => 0) parserBufferSize)
      [.append frame, .tryParse zeros]).2, e.Isolated) ↔
      frame.length ≤ bufferSize ∧ StringsEnd frame := by
  have hrepr : Repr ((Parser.new (fun _ => 0) parserBufferSize).append frame).1 ([] ++ frame) := by
    refine append_room (repr_new (fun _ => 0) (by decide) (by decide)) ?_
    rw [List.length_nil, Nat.zero_add]
    exact h
  rw [List.nil_append] at hrepr
  simp only [Mealy.run_cons, Mealy.run_nil, step, List.nil_append, List.append_nil]
  rw [(tryParse_repr hrepr zeros).2, events_isolated_iff, hfront]
  simp only [Option.some.injEq, forall_eq']

theorem front_longFrame : front longFrame = some longFrame := by
  have hlength : longFrame.length = 8200 := by
    rw [longFrame, List.length_append, List.length_replicate]
    rfl
  have hsearch : Queue.search longFrame = longFrame := by
    rw [longFrame, List.cons_append, Queue.search, ← List.cons_append, ← longFrame, hlength]
    rfl
  have hfield : lengthOf longFrame = 8192 := by
    rw [lengthOf, longFrame, List.getD_append _ _ _ _ (by decide),
      List.getD_append _ _ _ _ (by decide)]
    rfl
  simp only [front, hsearch, hfield, hlength]
  rw [if_pos (by decide), List.take_of_length_le (by omega)]

/-- The long frame is written past the end of the array, and the full strings run on into the
memory behind them. -/
theorem not_isolation_long :
    (¬∀ e ∈ (Mealy.run step (Parser.new (fun _ => 0) parserBufferSize)
      [.append longFrame, .tryParse zeros]).2, e.Isolated) ∧
    ¬∀ e ∈ (Mealy.run step (Parser.new (fun _ => 0) parserBufferSize)
      [.append fullStrings, .tryParse zeros]).2, e.Isolated := by
  constructor
  · have hlength : longFrame.length = 8200 := by
      rw [longFrame, List.length_append, List.length_replicate]
      rfl
    rw [isolated_frame_iff (by rw [hlength]; decide) front_longFrame, hlength]
    exact fun h => absurd h.1 (by decide)
  · rw [isolated_frame_iff (by decide) (by decide +kernel)]
    exact fun h => absurd h.2 (by decide +kernel)

end SuplLpp.Ubx
