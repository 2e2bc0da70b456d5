import SuplLpp.Format.Rtcm

/-!
# Frames, as they are written and as they are parsed

* `IsFrame payload frame`: preamble, six zero bits, the length of the payload in ten bits, the
  payload and the CRC-24Q of all that;
* `frame_isFrame`: `frame` writes one when the payload has at most 1023 bytes;
* `IsFrame.tryParse`: the parser takes it and leaves nothing;
* `WellFormed`, what is asked of a message: `wellFormed_frame_iff` says when it holds.
-/

namespace SuplLpp.Rtcm

open Bits Helper

/-- The frame around a payload. -/
def IsFrame (payload frame : List UInt8) : Prop :=
  payload.length ≤ 1023 ∧ ∃ before checksum, frame = before ++ checksum ∧
    bytesBits before =
      ofNat 8 0xD3 ++ ofNat 6 0 ++ ofNat 10 payload.length ++ bytesBits payload ∧
    bytesBits checksum = ofNat 24 (Crc.hash crc24qPoly before).toNat

/-- The message number: the first twelve bits of the payload. -/
def number (payload : List UInt8) : ℕ := toNat ((bytesBits payload).take 12)

/-- Fed to a new parser, the bytes come out as one message, and nothing is left. -/
def ParsedAlone (message : Message) : Prop :=
  ∀ memory : ℕ → UInt8,
    let p := ((Parser.new memory parserBufferSize).append message.data).1
    let (p, parsed) := Format.Rtcm.tryParse p
    p.bufferLength = 0 ∧
      ∃ m, parsed = some m ∧ m.data = message.data ∧ m.type.toNat = message.id.toNat

/-- A message is well formed: one frame that holds its own number and that the parser takes. -/
def WellFormed (message : Message) : Prop :=
  (∃ payload, IsFrame payload message.data ∧ 12 ≤ 8 * payload.length ∧
    number payload = message.id.toNat) ∧ ParsedAlone message

/-! ### The bytes of a frame -/

theorem crc24qHash_toNat (data : List UInt8) :
    (crc24qHash data).toNat = (Crc.hash crc24qPoly data).toNat := by
  have h := congrArg BitVec.toNat (crc24qHash_eq data)
  rw [UInt32.toNat_toBitVec, BitVec.toNat_setWidth, Nat.mod_eq_of_lt] at h
  · exact h
  · have := (Crc.hash crc24qPoly data).isLt
    omega

/-- The bytes that spell 16 bits. -/
theorem bytes_of_bits16 (n : ℕ) :
    bytesBits [UInt8.ofNat (n / 256), UInt8.ofNat n] = ofNat 16 n := by
  have h := ofNat_add 8 8 n
  rw [h, bytesBits_cons, bytesBits_cons, bytesBits_nil, List.append_nil, byteBits, byteBits,
    UInt8.toNat_ofNat', UInt8.toNat_ofNat', Nat.shiftRight_eq_div_pow]
  congr 1
  · rw [ofNat_eq_ofNat]
    omega
  · rw [ofNat_eq_ofNat]
    omega

/-- The bytes that spell 24 bits. -/
theorem bytes_of_bits24 (n : ℕ) :
    bytesBits [UInt8.ofNat (n / 65536), UInt8.ofNat (n / 256), UInt8.ofNat n] = ofNat 24 n := by
  have h := ofNat_add 8 16 n
  rw [h, bytesBits_cons, bytes_of_bits16, byteBits, UInt8.toNat_ofNat',
    Nat.shiftRight_eq_div_pow]
  congr 1
  rw [ofNat_eq_ofNat]
  omega

/-- A frame, byte by byte. -/
theorem IsFrame.bytes {payload frame : List UInt8} (h : IsFrame payload frame) :
    ∃ c, c < 2 ^ 24 ∧
      frame = [0xD3, UInt8.ofNat (payload.length / 256), UInt8.ofNat payload.length] ++ payload ++
        [UInt8.ofNat (c / 65536), UInt8.ofNat (c / 256), UInt8.ofNat c] ∧
      c = (crc24qHash ([0xD3, UInt8.ofNat (payload.length / 256),
        UInt8.ofNat payload.length] ++ payload)).toNat := by
  obtain ⟨hle, before, checksum, rfl, hbefore, hchecksum⟩ := h
  have hb : before =
      [0xD3, UInt8.ofNat (payload.length / 256), UInt8.ofNat payload.length] ++ payload := by
    apply bytesBits_injective
    have hlen : ofNat 6 0 ++ ofNat 10 payload.length = ofNat 16 payload.length := by
      rw [ofNat_add 6 10, Nat.shiftRight_eq_div_pow, Nat.div_eq_of_lt (by omega)]
    rw [hbefore, List.cons_append, bytesBits_cons, bytesBits_append, bytes_of_bits16,
      List.append_assoc, List.append_assoc, ← List.append_assoc (ofNat 6 0), hlen]
    rfl
  have hc : checksum = _ := bytesBits_injective (hchecksum.trans
    (bytes_of_bits24 (Crc.hash crc24qPoly before).toNat).symm)
  refine ⟨(Crc.hash crc24qPoly before).toNat, (Crc.hash crc24qPoly before).isLt, ?_, ?_⟩
  · rw [hc, hb]
  · rw [← hb, crc24qHash_toNat]

/-! ### The parser takes a frame -/

/-- Three bytes, put together as the parser does. -/
theorem expected_toNat {c : ℕ} (hc : c < 2 ^ 24) :
    (((UInt8.ofNat (c / 65536)).toUInt32 <<< 16) ||| ((UInt8.ofNat (c / 256)).toUInt32 <<< 8) |||
      ((UInt8.ofNat c).toUInt32 <<< 0)).toNat = c := by
  rw [UInt32.toNat_or, UInt32.toNat_or, UInt32.toNat_shiftLeft, UInt32.toNat_shiftLeft,
    UInt32.toNat_shiftLeft, UInt8.toNat_toUInt32, UInt8.toNat_toUInt32, UInt8.toNat_toUInt32,
    UInt8.toNat_ofNat', UInt8.toNat_ofNat', UInt8.toNat_ofNat']
  have h16 : (UInt32.toNat 16) % 32 = 16 := rfl
  have h8 : (UInt32.toNat 8) % 32 = 8 := rfl
  have h0 : (UInt32.toNat 0) % 32 = 0 := rfl
  have hhigh : c / 65536 % 2 ^ 8 = c / 65536 := Nat.mod_eq_of_lt (by omega)
  rw [h16, h8, h0, hhigh, Nat.shiftLeft_zero, Nat.mod_eq_of_lt (a := (c / 65536) <<< 16),
    Nat.mod_eq_of_lt (a := (c / 256 % 2 ^ 8) <<< 8), Nat.mod_eq_of_lt (a := c % 2 ^ 8)]
  · have hmid : (c / 256 % 2 ^ 8) <<< 8 ||| c % 2 ^ 8 = c % 2 ^ 16 := by
      rw [← Nat.shiftLeft_add_eq_or_of_lt (by omega), Nat.shiftLeft_eq]
      omega
    rw [Nat.or_assoc, hmid, ← Nat.shiftLeft_add_eq_or_of_lt (by omega), Nat.shiftLeft_eq]
    omega
  · omega
  · rw [Nat.shiftLeft_eq]
    omega
  · rw [Nat.shiftLeft_eq]
    omega

section Parse

variable {payload frame : List UInt8}

theorem IsFrame.length (h : IsFrame payload frame) : frame.length = payload.length + 6 := by
  obtain ⟨c, -, rfl, -⟩ := h.bytes
  simp

theorem IsFrame.crc (h : IsFrame payload frame) : Format.Rtcm.crc frame = .ok := by
  have hlen := h.length
  obtain ⟨c, hc, hframe, hhash⟩ := h.bytes
  have hindex : frame.length - 3 = ([0xD3, UInt8.ofNat (payload.length / 256),
      UInt8.ofNat payload.length] ++ payload).length := by
    simp
    omega
  have htake : frame.take (frame.length - 3) = [0xD3, UInt8.ofNat (payload.length / 256),
      UInt8.ofNat payload.length] ++ payload := by
    rw [hindex, hframe, List.take_left]
  have hget : ∀ i, frame.getD (frame.length - 3 + i) 0 =
      [UInt8.ofNat (c / 65536), UInt8.ofNat (c / 256), UInt8.ofNat c].getD i 0 := by
    intro i
    rw [hindex, hframe, List.getD_append_right _ _ _ _ (by omega), Nat.add_sub_cancel_left]
  have hcomputed : Format.Rtcm.crc24qHash (frame.take (frame.length - 3)) =
      ((frame.getD (frame.length - 3) 0).toUInt32 <<< 16) |||
        ((frame.getD (frame.length - 3 + 1) 0).toUInt32 <<< 8) |||
        ((frame.getD (frame.length - 3 + 2) 0).toUInt32 <<< 0) := by
    apply UInt32.toNat_inj.mp
    have hget0 := hget 0
    rw [Nat.add_zero] at hget0
    rw [hget0, hget 1, hget 2]
    exact (congrArg (fun l => (crc24qHash l).toNat) htake).trans
      (hhash.symm.trans (expected_toNat hc).symm)
  rw [Format.Rtcm.crc, if_neg (by omega)]
  exact if_neg (not_not.mpr hcomputed)

/-- The parser takes the frame as it is. -/
theorem IsFrame.tryParse (h : IsFrame payload frame) : Format.Rtcm.Queue.tryParse frame =
    ([], some (Format.Rtcm.dispatch (Format.Rtcm.messageNumber frame) frame)) := by
  have hlen := h.length
  have hle := h.1
  have hcrc := h.crc
  obtain ⟨c, -, hframe, -⟩ := h.bytes
  have hdrop : frame.dropWhile (· != 0xD3) = frame := by
    rw [hframe]
    rfl
  have h1 : frame.getD 1 0 = UInt8.ofNat (payload.length / 256) := by
    rw [hframe]
    rfl
  have h2 : frame.getD 2 0 = UInt8.ofNat payload.length := by
    rw [hframe]
    rfl
  have hquot : payload.length / 256 ≤ 3 := by omega
  have hsmall : ∀ k : Fin 4, UInt8.ofNat k &&& 0xFC = 0 ∧ (UInt8.ofNat k &&& 0x03).toNat = k := by
    decide
  obtain ⟨hpad, hhigh⟩ := hsmall ⟨payload.length / 256, by omega⟩
  simp only at hpad hhigh
  have hlength : ((UInt8.ofNat (payload.length / 256) &&& 0x03).toNat <<< 8) |||
      (UInt8.ofNat payload.length).toNat = payload.length := by
    rw [hhigh, UInt8.toNat_ofNat', ← Nat.shiftLeft_add_eq_or_of_lt (by omega), Nat.shiftLeft_eq]
    omega
  have hall : 1 + 2 + payload.length + 3 = frame.length := by omega
  unfold Format.Rtcm.Queue.tryParse
  simp only [hdrop, h1, h2, hlength, hall, List.take_length, List.drop_length, hcrc]
  rw [if_neg (by omega), if_neg (not_not.mpr hpad), if_neg (lt_irrefl _),
    if_neg (not_not.mpr rfl)]

/-- The number that the parser reads is that of the payload. -/
theorem IsFrame.messageNumber (h : IsFrame payload frame) (hlong : 12 ≤ 8 * payload.length) :
    (Format.Rtcm.messageNumber frame).toNat = number payload := by
  obtain ⟨c, -, hframe, -⟩ := h.bytes
  obtain ⟨a, b, rest, rfl⟩ : ∃ a b rest, payload = a :: b :: rest := by
    match payload with
    | [] => simp at hlong
    | [_] => simp at hlong
    | a :: b :: rest => exact ⟨a, b, rest, rfl⟩
  have h3 : frame.getD 3 0 = a := by
    rw [hframe]
    rfl
  have h4 : frame.getD 4 0 = b := by
    rw [hframe]
    rfl
  have hbits : (bytesBits (a :: b :: rest)).take 12 = byteBits a ++ ofNat 4 (b.toNat >>> 4) := by
    rw [bytesBits_cons, bytesBits_cons, List.take_append, length_byteBits,
      List.take_of_length_le (by simp), List.take_append, length_byteBits]
    have hb : byteBits b = ofNat 4 (b.toNat >>> 4) ++ ofNat 4 b.toNat := ofNat_add 4 4 b.toNat
    rw [hb, List.take_append, length_ofNat]
    simp
  have ha := a.toNat_lt
  have hb := b.toNat_lt
  have hs4 : (UInt16.toNat 4) % 16 = 4 := rfl
  rw [number, hbits, toNat_append, byteBits, toNat_ofNat, toNat_ofNat, length_ofNat,
    Format.Rtcm.messageNumber, h3, h4, UInt16.toNat_or, UInt16.toNat_shiftLeft,
    UInt16.toNat_shiftRight, UInt8.toNat_toUInt16, UInt8.toNat_toUInt16, hs4,
    Nat.shiftRight_eq_div_pow, Nat.shiftLeft_eq, Nat.mod_eq_of_lt (by omega),
    ← Nat.shiftLeft_eq, ← Nat.shiftLeft_add_eq_or_of_lt (by omega), Nat.shiftLeft_eq]
  omega

theorem dispatch_data (type : UInt16) (message : List UInt8) :
    (Format.Rtcm.dispatch type message).data = message ∧
      (Format.Rtcm.dispatch type message).type = type := by
  have hfixed : ∀ (t : UInt16) (n : ℕ), (Format.Rtcm.parseFixed t n message).data = message ∧
      (Format.Rtcm.parseFixed t n message).type = t := by
    intro t n
    unfold Format.Rtcm.parseFixed
    split
    · exact ⟨rfl, rfl⟩
    · split <;> exact ⟨rfl, rfl⟩
  unfold Format.Rtcm.dispatch
  split
  case isTrue h =>
    rw [h]
    exact hfixed 1019 488
  split
  case isTrue h =>
    rw [h]
    exact hfixed 1042 512
  split
  case isTrue h =>
    rw [h]
    exact hfixed 1046 504
  exact ⟨rfl, rfl⟩

end Parse

/-! ### The frame that is written -/

theorem frame_bytes (encoder : Encoder) : ∃ before,
    bytesBits before = ofNat 8 0xD3 ++ ofNat 6 0 ++ ofNat 10 encoder.byteCount ++
      bytesBits encoder.mBuffer ∧
    frame encoder = before ++ [UInt8.ofNat ((crc24qHash before).toNat / 65536),
      UInt8.ofNat ((crc24qHash before).toNat / 256), UInt8.ofNat (crc24qHash before).toNat] := by
  have hlength : ofNat 10 encoder.byteCount.toUInt16.toNat = ofNat 10 encoder.byteCount := by
    rw [ofNat_eq_ofNat, Nat.toUInt16_eq, UInt16.toNat_ofNat']
    omega
  have hheader : Encoder.Holds
      (((Encoder.new.u8 8 0xD3).u8 6 0).u16 10 encoder.byteCount.toUInt16)
      (ofNat 8 0xD3 ++ ofNat 6 0 ++ ofNat 10 encoder.byteCount) := by
    rw [← hlength]
    apply Encoder.emits_u16 (by omega)
    apply Encoder.emits_u8 (by omega)
    exact (Encoder.emits_u8 (by omega) _).new
  have hcopy := hheader.copy (by simp) encoder.mBuffer
  set filled := (((Encoder.new.u8 8 0xD3).u8 6 0).u16 10 encoder.byteCount.toUInt16).copy
    encoder.mBuffer with hfilled
  have hchecksum := Encoder.emits_u32 (show 24 ≤ 32 by omega) (crc24qHash filled.mBuffer) _ _ hcopy
  have hbits := hcopy.bytes
  have hframe := hchecksum.bytes
  have haligned : (8 - (ofNat 8 0xD3 ++ ofNat 6 0 ++ ofNat 10 encoder.byteCount ++
      bytesBits encoder.mBuffer).length % 8) % 8 = 0 := by
    simp
    omega
  have haligned' : (8 - (ofNat 8 0xD3 ++ ofNat 6 0 ++ ofNat 10 encoder.byteCount ++
      bytesBits encoder.mBuffer ++ ofNat 24 (crc24qHash filled.mBuffer).toNat).length % 8) % 8 =
      0 := by
    simp
    omega
  rw [haligned, List.replicate_zero, List.append_nil] at hbits
  rw [haligned', List.replicate_zero, List.append_nil] at hframe
  refine ⟨filled.mBuffer, hbits, ?_⟩
  apply bytesBits_injective
  rw [bytesBits_append, bytes_of_bits24, hbits]
  exact hframe

theorem length_frame (encoder : Encoder) : (frame encoder).length = encoder.byteCount + 6 := by
  obtain ⟨before, hbits, hframe⟩ := frame_bytes encoder
  have hlen := congrArg List.length hbits
  simp only [length_bytesBits, List.length_append, length_ofNat] at hlen
  rw [hframe, List.length_append, Encoder.byteCount]
  simp only [List.length_cons, List.length_nil]
  omega

theorem frame_isFrame {encoder : Encoder} (hle : encoder.byteCount ≤ 1023) :
    IsFrame encoder.mBuffer (frame encoder) := by
  obtain ⟨before, hbits, hframe⟩ := frame_bytes encoder
  refine ⟨hle, before, _, hframe, hbits, ?_⟩
  rw [bytes_of_bits24, crc24qHash_toNat]

/-- A frame that fits the buffer of a new parser is parsed alone. -/
theorem IsFrame.parsedAlone {payload : List UInt8} (message : Message)
    (h : IsFrame payload message.data) (hlong : 12 ≤ 8 * payload.length)
    (hnumber : number payload = message.id.toNat) : ParsedAlone message := by
  intro memory
  have hlen := h.length
  have hle := h.1
  have hbuffer : parserBufferSize = 131072 := rfl
  have hnew := repr_new memory (show 0 < parserBufferSize by omega)
    (show parserBufferSize ≤ 2 ^ 31 by omega)
  obtain ⟨-, -, hrepr⟩ := hnew.append (show message.data.length < 2 ^ 32 by omega)
  have hqueue : (Queue.append parserBufferSize [] message.data).1 = message.data := by
    rw [Queue.append, if_neg (by omega), List.nil_append, Ring.keepNewest_of_le]
    omega
  have hcap : (Parser.new memory parserBufferSize).mBufferCapacity = parserBufferSize := rfl
  rw [hcap, hqueue] at hrepr
  obtain ⟨hleft, hparsed⟩ := Format.Rtcm.tryParse_repr hrepr
  rw [h.tryParse] at hleft hparsed
  obtain ⟨hdata, htype⟩ := dispatch_data (Format.Rtcm.messageNumber message.data) message.data
  refine ⟨hleft.bufferLength, _, hparsed, hdata, ?_⟩
  rw [htype, h.messageNumber hlong, hnumber]

/-- **When a written frame is well formed**: its payload fits the length field and begins with
the number of the message. -/
theorem wellFormed_frame_iff {encoder : Encoder} {bs : List Bool} (hholds : encoder.Holds bs)
    (hlong : 12 ≤ bs.length) (id : UInt32) : WellFormed ⟨id, frame encoder⟩ ↔
      encoder.byteCount ≤ 1023 ∧ toNat (bs.take 12) = id.toNat := by
  have hcount := hholds.byteCount_eq
  have hnumber : number encoder.mBuffer = toNat (bs.take 12) := by
    rw [number, hholds.bytes, List.take_append_of_le_length hlong]
  constructor
  · rintro ⟨⟨payload, hframe, -, hid⟩, -⟩
    dsimp only at hframe hid
    have hlen := hframe.length
    have hle := hframe.1
    rw [length_frame] at hlen
    have hfits : encoder.byteCount ≤ 1023 := by omega
    refine ⟨hfits, ?_⟩
    -- both payloads are what stands in the frame behind its three first bytes
    have hpayload : payload = encoder.mBuffer := by
      obtain ⟨c, -, hbytes, -⟩ := hframe.bytes
      obtain ⟨c', -, hbytes', -⟩ := (frame_isFrame hfits).bytes
      have heq := hbytes.symm.trans hbytes'
      have htail := congrArg (fun l => (l.drop 3).take payload.length) heq
      have hlengths : payload.length = encoder.mBuffer.length := by
        rw [Encoder.byteCount] at hlen
        omega
      simpa [hlengths] using htail
    rw [← hnumber, ← hpayload]
    exact hid
  · rintro ⟨hfits, hid⟩
    have hframe := frame_isFrame hfits
    have hlong' : 12 ≤ 8 * encoder.mBuffer.length := by
      rw [Encoder.byteCount] at hcount
      omega
    rw [← hnumber] at hid
    generalize frame encoder = data at hframe
    exact ⟨⟨_, hframe, hlong', hid⟩, IsFrame.parsedAlone ⟨id, data⟩ hframe hlong' hid⟩

end SuplLpp.Rtcm
