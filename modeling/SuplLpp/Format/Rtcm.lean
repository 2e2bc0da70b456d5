import SuplLpp.Format.Helper
import SuplLpp.Rtcm.Encoder

/-!
# `format::rtcm::Parser`

The parser looks for the preamble, reads the length, checks the padding bits and the checksum
and hands out the frame as a message of its type.

* `tryParse`, on the shared byte buffer, and `Queue.tryParse`, on the bytes it holds;
  `tryParse_repr` connects them.
-/

namespace SuplLpp.Format.Rtcm

open Helper Bits

/-- A parsed message: a decoded one, one that could not be decoded and one of another type.
The decoded fields are not part of it. -/
inductive Message
  | decoded (type : UInt16) (data : List UInt8)
  | error (type : UInt16) (data : List UInt8)
  | unsupported (type : UInt16) (data : List UInt8)
  deriving DecidableEq

def Message.type : Message → UInt16
  | .decoded type _ => type
  | .error type _ => type
  | .unsupported type _ => type

def Message.data : Message → List UInt8
  | .decoded _ data => data
  | .error _ data => data
  | .unsupported _ data => data

/-- The message number of a frame. -/
def messageNumber (message : List UInt8) : UInt16 :=
  (message.getD 3 0).toUInt16 <<< 4 ||| (message.getD 4 0).toUInt16 >>> 4

/-- The test that starts each of the decoders: is there enough data for `contentBits` bits? -/
def parseFixed (type : UInt16) (contentBits : ℕ) (data : List UInt8) : Message :=
  if data.length * 8 < 8 + 16 + contentBits + 24 then .error type data
  else if messageNumber data ≠ type then .error type data
  else .decoded type data

def rtcm1019 (data : List UInt8) : Message := parseFixed 1019 488 data

def rtcm1042 (data : List UInt8) : Message := parseFixed 1042 512 data

def rtcm1046 (data : List UInt8) : Message := parseFixed 1046 504 data

/-- The `switch` over the type. -/
def dispatch (type : UInt16) (message : List UInt8) : Message :=
  if type = 1019 then rtcm1019 message
  else if type = 1042 then rtcm1042 message
  else if type = 1046 then rtcm1046 message
  else .unsupported type message

/-! ### The checksum -/

def gCrc24Q : Array UInt32 := #[
    0x00000000, 0x01864CFB, 0x028AD50D, 0x030C99F6, 0x0493E6E1, 0x0515AA1A, 0x061933EC, 0x079F7F17,
    0x08A18139, 0x0927CDC2, 0x0A2B5434, 0x0BAD18CF, 0x0C3267D8, 0x0DB42B23, 0x0EB8B2D5, 0x0F3EFE2E,
    0x10C54E89, 0x11430272, 0x124F9B84, 0x13C9D77F, 0x1456A868, 0x15D0E493, 0x16DC7D65, 0x175A319E,
    0x1864CFB0, 0x19E2834B, 0x1AEE1ABD, 0x1B685646, 0x1CF72951, 0x1D7165AA, 0x1E7DFC5C, 0x1FFBB0A7,
    0x200CD1E9, 0x218A9D12, 0x228604E4, 0x2300481F, 0x249F3708, 0x25197BF3, 0x2615E205, 0x2793AEFE,
    0x28AD50D0, 0x292B1C2B, 0x2A2785DD, 0x2BA1C926, 0x2C3EB631, 0x2DB8FACA, 0x2EB4633C, 0x2F322FC7,
    0x30C99F60, 0x314FD39B, 0x32434A6D, 0x33C50696, 0x345A7981, 0x35DC357A, 0x36D0AC8C, 0x3756E077,
    0x38681E59, 0x39EE52A2, 0x3AE2CB54, 0x3B6487AF, 0x3CFBF8B8, 0x3D7DB443, 0x3E712DB5, 0x3FF7614E,
    0x4019A3D2, 0x419FEF29, 0x429376DF, 0x43153A24, 0x448A4533, 0x450C09C8, 0x4600903E, 0x4786DCC5,
    0x48B822EB, 0x493E6E10, 0x4A32F7E6, 0x4BB4BB1D, 0x4C2BC40A, 0x4DAD88F1, 0x4EA11107, 0x4F275DFC,
    0x50DCED5B, 0x515AA1A0, 0x52563856, 0x53D074AD, 0x544F0BBA, 0x55C94741, 0x56C5DEB7, 0x5743924C,
    0x587D6C62, 0x59FB2099, 0x5AF7B96F, 0x5B71F594, 0x5CEE8A83, 0x5D68C678, 0x5E645F8E, 0x5FE21375,
    0x6015723B, 0x61933EC0, 0x629FA736, 0x6319EBCD, 0x648694DA, 0x6500D821, 0x660C41D7, 0x678A0D2C,
    0x68B4F302, 0x6932BFF9, 0x6A3E260F, 0x6BB86AF4, 0x6C2715E3, 0x6DA15918, 0x6EADC0EE, 0x6F2B8C15,
    0x70D03CB2, 0x71567049, 0x725AE9BF, 0x73DCA544, 0x7443DA53, 0x75C596A8, 0x76C90F5E, 0x774F43A5,
    0x7871BD8B, 0x79F7F170, 0x7AFB6886, 0x7B7D247D, 0x7CE25B6A, 0x7D641791, 0x7E688E67, 0x7FEEC29C,
    0x803347A4, 0x81B50B5F, 0x82B992A9, 0x833FDE52, 0x84A0A145, 0x8526EDBE, 0x862A7448, 0x87AC38B3,
    0x8892C69D, 0x89148A66, 0x8A181390, 0x8B9E5F6B, 0x8C01207C, 0x8D876C87, 0x8E8BF571, 0x8F0DB98A,
    0x90F6092D, 0x917045D6, 0x927CDC20, 0x93FA90DB, 0x9465EFCC, 0x95E3A337, 0x96EF3AC1, 0x9769763A,
    0x98578814, 0x99D1C4EF, 0x9ADD5D19, 0x9B5B11E2, 0x9CC46EF5, 0x9D42220E, 0x9E4EBBF8, 0x9FC8F703,
    0xA03F964D, 0xA1B9DAB6, 0xA2B54340, 0xA3330FBB, 0xA4AC70AC, 0xA52A3C57, 0xA626A5A1, 0xA7A0E95A,
    0xA89E1774, 0xA9185B8F, 0xAA14C279, 0xAB928E82, 0xAC0DF195, 0xAD8BBD6E, 0xAE872498, 0xAF016863,
    0xB0FAD8C4, 0xB17C943F, 0xB2700DC9, 0xB3F64132, 0xB4693E25, 0xB5EF72DE, 0xB6E3EB28, 0xB765A7D3,
    0xB85B59FD, 0xB9DD1506, 0xBAD18CF0, 0xBB57C00B, 0xBCC8BF1C, 0xBD4EF3E7, 0xBE426A11, 0xBFC426EA,
    0xC02AE476, 0xC1ACA88D, 0xC2A0317B, 0xC3267D80, 0xC4B90297, 0xC53F4E6C, 0xC633D79A, 0xC7B59B61,
    0xC88B654F, 0xC90D29B4, 0xCA01B042, 0xCB87FCB9, 0xCC1883AE, 0xCD9ECF55, 0xCE9256A3, 0xCF141A58,
    0xD0EFAAFF, 0xD169E604, 0xD2657FF2, 0xD3E33309, 0xD47C4C1E, 0xD5FA00E5, 0xD6F69913, 0xD770D5E8,
    0xD84E2BC6, 0xD9C8673D, 0xDAC4FECB, 0xDB42B230, 0xDCDDCD27, 0xDD5B81DC, 0xDE57182A, 0xDFD154D1,
    0xE026359F, 0xE1A07964, 0xE2ACE092, 0xE32AAC69, 0xE4B5D37E, 0xE5339F85, 0xE63F0673, 0xE7B94A88,
    0xE887B4A6, 0xE901F85D, 0xEA0D61AB, 0xEB8B2D50, 0xEC145247, 0xED921EBC, 0xEE9E874A, 0xEF18CBB1,
    0xF0E37B16, 0xF16537ED, 0xF269AE1B, 0xF3EFE2E0, 0xF4709DF7, 0xF5F6D10C, 0xF6FA48FA, 0xF77C0401,
    0xF842FA2F, 0xF9C4B6D4, 0xFAC82F22, 0xFB4E63D9, 0xFCD11CCE, 0xFD575035, 0xFE5BC9C3, 0xFFDD8538]

def crc24qRound (crc : UInt32) (byte : UInt8) : UInt32 :=
  (crc <<< 8) ^^^ gCrc24Q.getD (byte ^^^ (crc >>> 16).toUInt8).toNat 0

def crc24qHash (data : List UInt8) : UInt32 :=
  let crc := data.foldl crc24qRound 0
  crc &&& 0x00ffffff

inductive CRCResult
  | ok | invalidValue
  deriving DecidableEq

def crc (buffer : List UInt8) : CRCResult :=
  if buffer.length < 3 then .invalidValue
  else
    let checksumIndex := buffer.length - 3
    let expected := ((buffer.getD checksumIndex 0).toUInt32 <<< 16) |||
      ((buffer.getD (checksumIndex + 1) 0).toUInt32 <<< 8) |||
      ((buffer.getD (checksumIndex + 2) 0).toUInt32 <<< 0)
    let computed := crc24qHash (buffer.take checksumIndex)
    if computed ≠ expected then .invalidValue else .ok

/-! ### The parser -/

/-- The loop that looks for the preamble; each round but the last one drops a byte. -/
def search : ℕ → Parser → Parser
  | 0, p => p
  | rounds + 1, p =>
    if p.bufferLength < 1 then p
    else if p.peek 0 = 0xD3 then p
    else search rounds (p.skip 1)

def tryParse (p : Parser) : Parser × Option Message :=
  let p := search p.bufferLength p
  if p.bufferLength < 1 then (p, none)
  else if p.bufferLength < 3 then (p, none)
  else if p.peek 1 &&& 0xFC ≠ 0 then (p.skip 1, none)
  else
    let payloadLength := ((p.peek 1 &&& 0x03).toNat <<< 8) ||| (p.peek 2).toNat
    let messageLength := 1 + 2 + payloadLength + 3
    if p.bufferLength < messageLength then (p, none)
    else
      let message := p.copyToBuffer (List.replicate messageLength 0)
      if crc message ≠ .ok then (p.skip 1, none)
      else (p.skip messageLength.toUInt32, some (dispatch (messageNumber message) message))

/-- The parser on the bytes that the buffer holds. -/
def Queue.tryParse (q : List UInt8) : List UInt8 × Option Message :=
  let q := q.dropWhile (· != 0xD3)
  if q.length < 3 then (q, none)
  else if q.getD 1 0 &&& 0xFC ≠ 0 then (q.drop 1, none)
  else
    let payloadLength := ((q.getD 1 0 &&& 0x03).toNat <<< 8) ||| (q.getD 2 0).toNat
    let messageLength := 1 + 2 + payloadLength + 3
    if q.length < messageLength then (q, none)
    else
      let message := q.take messageLength
      if crc message ≠ .ok then (q.drop 1, none)
      else (q.drop messageLength, some (dispatch (messageNumber message) message))

theorem search_repr {p : Parser} {q : List UInt8} (h : Repr p q) :
    Repr (search q.length p) (q.dropWhile (· != 0xD3)) := by
  induction q generalizing p with
  | nil => exact h
  | cons b q ih =>
    have hlen := h.bufferLength
    have hpeek := h.peek 0
    have hskip := h.skip 1
    simp only [UInt32.toNat_zero, List.getD_cons_zero] at hpeek
    rw [List.length_cons] at hlen ⊢
    rw [search, hlen, if_neg (by omega), hpeek]
    by_cases hb : b = 0xD3
    · rw [if_pos hb, List.dropWhile_cons_of_neg (by simp [hb])]
      exact h
    · rw [if_neg hb, List.dropWhile_cons_of_pos (by simpa using hb)]
      exact ih hskip

theorem payloadLength_lt (a b : UInt8) : ((a &&& 0x03).toNat <<< 8) ||| b.toNat < 1024 := by
  have ha : (a &&& 0x03).toNat ≤ 3 := by
    rw [UInt8.toNat_and]
    exact Nat.and_le_right
  have hb := b.toNat_lt
  rw [← Nat.shiftLeft_add_eq_or_of_lt (by omega), Nat.shiftLeft_eq]
  omega

/-- The parser does to its buffer what `Queue.tryParse` does to the bytes. -/
theorem tryParse_repr {p : Parser} {q : List UInt8} (h : Repr p q) :
    Repr (tryParse p).1 (Queue.tryParse q).1 ∧ (tryParse p).2 = (Queue.tryParse q).2 := by
  have hs := search_repr h
  rw [← h.bufferLength] at hs
  unfold tryParse Queue.tryParse
  generalize search p.bufferLength p = p at hs
  generalize q.dropWhile (· != 0xD3) = q at hs
  have hlen := hs.bufferLength
  have hpeek1 : p.peek 1 = q.getD 1 0 := hs.peek 1
  have hpeek2 : p.peek 2 = q.getD 2 0 := hs.peek 2
  have hlt := payloadLength_lt (q.getD 1 0) (q.getD 2 0)
  simp only [hlen, hpeek1, hpeek2]
  generalize ((q.getD 1 0 &&& 0x03).toNat <<< 8) ||| (q.getD 2 0).toNat = payloadLength at hlt
  by_cases h1 : q.length < 1
  · rw [if_pos h1, if_pos (by omega)]
    exact ⟨hs, rfl⟩
  rw [if_neg h1]
  by_cases h3 : q.length < 3
  · rw [if_pos h3, if_pos h3]
    exact ⟨hs, rfl⟩
  rw [if_neg h3, if_neg h3]
  by_cases hpad : q.getD 1 0 &&& 0xFC ≠ 0
  · rw [if_pos hpad, if_pos hpad]
    exact ⟨hs.skip 1, rfl⟩
  rw [if_neg hpad, if_neg hpad]
  by_cases hshort : q.length < 1 + 2 + payloadLength + 3
  · rw [if_pos hshort, if_pos hshort]
    exact ⟨hs, rfl⟩
  rw [if_neg hshort, if_neg hshort]
  have hcopy : p.copyToBuffer (List.replicate (1 + 2 + payloadLength + 3) 0) =
      q.take (1 + 2 + payloadLength + 3) := by
    rw [hs.copyToBuffer (by rw [List.length_replicate]; omega), List.length_replicate,
      List.drop_of_length_le (by rw [List.length_replicate]; omega), List.append_nil]
  rw [hcopy]
  by_cases hcrc : crc (q.take (1 + 2 + payloadLength + 3)) ≠ .ok
  · rw [if_pos hcrc, if_pos hcrc]
    exact ⟨hs.skip 1, rfl⟩
  rw [if_neg hcrc, if_neg hcrc]
  refine ⟨?_, rfl⟩
  have hskip := hs.skip (1 + 2 + payloadLength + 3).toUInt32
  have hnat : (1 + 2 + payloadLength + 3).toUInt32.toNat = 1 + 2 + payloadLength + 3 := by
    rw [Nat.toUInt32_eq, UInt32.toNat_ofNat']
    omega
  rwa [hnat] at hskip

end SuplLpp.Format.Rtcm
