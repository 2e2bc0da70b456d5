import SuplLpp.Lib.Bits
import SuplLpp.Lib.Crc

/-!
# `generator::rtcm::Encoder`

The encoder appends bits to a byte buffer, most significant first.

* `Encoder` and its operations; `gCrc24Q` and `crc24qHash`, the checksum;
* `Holds e bs`: the buffer holds exactly the bits `bs`, padded with zeros to whole bytes;
* `Emits f bs`: the operation `f` appends exactly `bs`.  There is one lemma for each
  operation, and `Emits.comp` and `Emits.foldl` for their sequences.
-/

namespace SuplLpp.Rtcm

open Bits

/-! ### The checksum -/

/-- The table of CRC-24Q. -/
def gCrc24Q : Array UInt32 :=
  #[
    0x00000000, 0x01864CFB, 0x028AD50D, 0x030C99F6, 0x0493E6E1, 0x0515AA1A, 0x061933EC, 0x079F7F17,
    0x08A18139, 0x0927CDC2, 0x0A2B5434, 0x0BAD18CF, 0x0C3267D8, 0x0DB42B23, 0x0EB8B2D5, 0x0F3EFE2E,
    0x10C54E89, 0x11430272, 0x124F9B84, 0x13C9D77F, 0x1456A868, 0x15D0E493, 0x16DC7D65, 0x175A319E,
    0x1864CFB0, 0x19E2834B, 0x1AEE1ABD, 0x1B685646, 0x1CF72951, 0x1D7165AA, 0x1E7DFC5C, 0x1FFBB0A7,
    0x200CD1E9, 0x218A9D12, 0x228604E4, 0x2300481F, 0x249F3708, 0x25197BF3, 0x2615E205, 0x2793AEFE,
    0x28AD50D0, 0x292B1C2B, 0x2A2785DD, 0x2BA1C926, 0x2C3EB631, 0x2DB8FACA, 0x2EB4633C, 0x2F322FC7,
    0x30C99F60, 0x314FD39B, 0x32434A6D, 0x33C50696, 0x345A7981, 0x35DC357A, 0x36D0AC8C, 0x3756E077,
    0x38681E59, 0x39EE52A2, 0x3AE2CB54, 0x3B6487AF, 0x3CFBF8B8, 0x3D7DB443, 0x3E712DB5, 0x3FF7614E,
    0x4019A3D2, 0x419FEF29, 0x429376DF, 0x43153A24, 0x448A4533, 0x450C09C8, 0x4600903E, 0x4786DCC5,
    0x48B822EB, 0x493E6E10, 0x4A32F7E6, 0x4BB4BB1D, 0x4C2BC40A, 0x4DAD88F1, 0x4EA11107, 0x4F275DFC,
    0x50DCED5B, 0x515AA1A0, 0x52563856, 0x53D074AD, 0x544F0BBA, 0x55C94741, 0x56C5DEB7, 0x5743924C,
    0x587D6C62, 0x59FB2099, 0x5AF7B96F, 0x5B71F594, 0x5CEE8A83, 0x5D68C678, 0x5E645F8E, 0x5FE21375,
    0x6015723B, 0x61933EC0, 0x629FA736, 0x6319EBCD, 0x648694DA, 0x6500D821, 0x660C41D7, 0x678A0D2C,
    0x68B4F302, 0x6932BFF9, 0x6A3E260F, 0x6BB86AF4, 0x6C2715E3, 0x6DA15918, 0x6EADC0EE, 0x6F2B8C15,
    0x70D03CB2, 0x71567049, 0x725AE9BF, 0x73DCA544, 0x7443DA53, 0x75C596A8, 0x76C90F5E, 0x774F43A5,
    0x7871BD8B, 0x79F7F170, 0x7AFB6886, 0x7B7D247D, 0x7CE25B6A, 0x7D641791, 0x7E688E67, 0x7FEEC29C,
    0x803347A4, 0x81B50B5F, 0x82B992A9, 0x833FDE52, 0x84A0A145, 0x8526EDBE, 0x862A7448, 0x87AC38B3,
    0x8892C69D, 0x89148A66, 0x8A181390, 0x8B9E5F6B, 0x8C01207C, 0x8D876C87, 0x8E8BF571, 0x8F0DB98A,
    0x90F6092D, 0x917045D6, 0x927CDC20, 0x93FA90DB, 0x9465EFCC, 0x95E3A337, 0x96EF3AC1, 0x9769763A,
    0x98578814, 0x99D1C4EF, 0x9ADD5D19, 0x9B5B11E2, 0x9CC46EF5, 0x9D42220E, 0x9E4EBBF8, 0x9FC8F703,
    0xA03F964D, 0xA1B9DAB6, 0xA2B54340, 0xA3330FBB, 0xA4AC70AC, 0xA52A3C57, 0xA626A5A1, 0xA7A0E95A,
    0xA89E1774, 0xA9185B8F, 0xAA14C279, 0xAB928E82, 0xAC0DF195, 0xAD8BBD6E, 0xAE872498, 0xAF016863,
    0xB0FAD8C4, 0xB17C943F, 0xB2700DC9, 0xB3F64132, 0xB4693E25, 0xB5EF72DE, 0xB6E3EB28, 0xB765A7D3,
    0xB85B59FD, 0xB9DD1506, 0xBAD18CF0, 0xBB57C00B, 0xBCC8BF1C, 0xBD4EF3E7, 0xBE426A11, 0xBFC426EA,
    0xC02AE476, 0xC1ACA88D, 0xC2A0317B, 0xC3267D80, 0xC4B90297, 0xC53F4E6C, 0xC633D79A, 0xC7B59B61,
    0xC88B654F, 0xC90D29B4, 0xCA01B042, 0xCB87FCB9, 0xCC1883AE, 0xCD9ECF55, 0xCE9256A3, 0xCF141A58,
    0xD0EFAAFF, 0xD169E604, 0xD2657FF2, 0xD3E33309, 0xD47C4C1E, 0xD5FA00E5, 0xD6F69913, 0xD770D5E8,
    0xD84E2BC6, 0xD9C8673D, 0xDAC4FECB, 0xDB42B230, 0xDCDDCD27, 0xDD5B81DC, 0xDE57182A, 0xDFD154D1,
    0xE026359F, 0xE1A07964, 0xE2ACE092, 0xE32AAC69, 0xE4B5D37E, 0xE5339F85, 0xE63F0673, 0xE7B94A88,
    0xE887B4A6, 0xE901F85D, 0xEA0D61AB, 0xEB8B2D50, 0xEC145247, 0xED921EBC, 0xEE9E874A, 0xEF18CBB1,
    0xF0E37B16, 0xF16537ED, 0xF269AE1B, 0xF3EFE2E0, 0xF4709DF7, 0xF5F6D10C, 0xF6FA48FA, 0xF77C0401,
    0xF842FA2F, 0xF9C4B6D4, 0xFAC82F22, 0xFB4E63D9, 0xFCD11CCE, 0xFD575035, 0xFE5BC9C3, 0xFFDD8538
  ]

/-- One round of the loop of `crc24q_hash`. -/
def crc24qRound (crc : UInt32) (byte : UInt8) : UInt32 :=
  (crc <<< 8) ^^^ gCrc24Q.getD (byte ^^^ (crc >>> 16).toUInt8).toNat 0

def crc24qHash (data : List UInt8) : UInt32 :=
  let crc := data.foldl crc24qRound 0
  crc &&& 0x00ffffff

/-- The polynomial of CRC-24Q, without its leading term. -/
def crc24qPoly : BitVec 24 := 0x864CFB

theorem gCrc24Q_table (b : UInt8) :
    (gCrc24Q.getD b.toNat 0).toBitVec.setWidth 24 = Crc.table crc24qPoly b := by
  have h : gCrc24Q.toList.map (fun entry => (entry.toBitVec.setWidth 24 : BitVec 24)) =
      (List.range 256).map fun n => Crc.table crc24qPoly (UInt8.ofNat n) := by
    decide +kernel
  simpa using Crc.getD_of_map_eq h b.toNat_lt 0

theorem crc24qRound_eq (crc : UInt32) (byte : UInt8) :
    (crc24qRound crc byte).toBitVec.setWidth 24 =
      Crc.byteStep crc24qPoly (crc.toBitVec.setWidth 24) byte := by
  have hindex : (crc >>> 16).toUInt8 =
      ⟨((crc.toBitVec.setWidth 24 : BitVec 24) >>> (24 - 8)).setWidth 8⟩ := by
    apply UInt8.toBitVec_inj.mp
    apply BitVec.eq_of_getLsbD_eq
    intro i hi
    simp [show 16 + i < 24 from by omega, hi]
  have hshift : (crc <<< 8).toBitVec.setWidth 24 = (crc.toBitVec.setWidth 24) <<< 8 := by
    apply BitVec.eq_of_getLsbD_eq
    intro i hi
    simp [hi]
  rw [Crc.byteStep_eq_table _ (by omega), crc24qRound, UInt32.toBitVec_xor, BitVec.setWidth_xor,
    gCrc24Q_table, hindex, hshift]

/-- The table-driven checksum is the remainder modulo the polynomial of CRC-24Q. -/
theorem crc24qHash_eq (data : List UInt8) :
    (crc24qHash data).toBitVec = (Crc.hash crc24qPoly data).setWidth 32 := by
  have hloop : ∀ (data : List UInt8) (crc : UInt32),
      (data.foldl crc24qRound crc).toBitVec.setWidth 24 =
        data.foldl (Crc.byteStep crc24qPoly) (crc.toBitVec.setWidth 24) := by
    intro data
    induction data with
    | nil => intro crc; rfl
    | cons byte data ih =>
      intro crc
      rw [List.foldl_cons, List.foldl_cons, ih, crc24qRound_eq]
  have h := hloop data 0
  have hzero : ((0 : UInt32).toBitVec.setWidth 24 : BitVec 24) = 0 := rfl
  rw [hzero] at h
  have hmask : (0x00ffffff : UInt32).toNat = 2 ^ 24 - 1 := rfl
  rw [Crc.hash, ← h, crc24qHash]
  apply BitVec.eq_of_toNat_eq
  rw [UInt32.toNat_toBitVec, UInt32.toNat_and, hmask, Nat.and_two_pow_sub_one_eq_mod,
    BitVec.toNat_setWidth, BitVec.toNat_setWidth, UInt32.toNat_toBitVec]
  omega

/-! ### The encoder -/

structure Encoder where
  mBuffer : List UInt8
  mBitIndex : ℕ

namespace Encoder

/-- The constructor. -/
def new : Encoder := ⟨[], 0⟩

def appendBit (encoder : Encoder) (bit : UInt8) : Encoder :=
  let mBuffer := if encoder.mBitIndex = 0 then encoder.mBuffer ++ [0] else encoder.mBuffer
  let index := mBuffer.length - 1
  { mBuffer := mBuffer.modify index (· ||| (bit <<< (7 - encoder.mBitIndex).toUInt8))
    mBitIndex := (encoder.mBitIndex + 1) % 8 }

def u64 (encoder : Encoder) (bits : ℕ) (value : UInt64) : Encoder :=
  (List.range bits).foldl
    (fun encoder i =>
      let bit := (value >>> (bits - i - 1).toUInt64) &&& 1
      encoder.appendBit bit.toUInt8) encoder

def u8 (encoder : Encoder) (bits : ℕ) (value : UInt8) : Encoder :=
  encoder.u64 bits value.toUInt64

def u16 (encoder : Encoder) (bits : ℕ) (value : UInt16) : Encoder :=
  encoder.u64 bits value.toUInt64

def u32 (encoder : Encoder) (bits : ℕ) (value : UInt32) : Encoder :=
  encoder.u64 bits value.toUInt64

def i64 (encoder : Encoder) (bits : ℕ) (value : Int64) : Encoder :=
  let unsignedValue := value.toUInt64
  let sign := (1 : UInt64) <<< (bits - 1).toUInt64
  encoder.u64 bits (if value < 0 then unsignedValue ||| sign else unsignedValue &&& ~~~sign)

def i16 (encoder : Encoder) (bits : ℕ) (value : Int16) : Encoder :=
  encoder.i64 bits value.toInt64

def i32 (encoder : Encoder) (bits : ℕ) (value : Int32) : Encoder :=
  encoder.i64 bits value.toInt64

def b (encoder : Encoder) (value : Bool) : Encoder := encoder.u8 1 (if value then 1 else 0)

def reserve (encoder : Encoder) (bits : ℕ) : Encoder := encoder.u64 bits 0

def copy (encoder : Encoder) (buffer : List UInt8) : Encoder :=
  ⟨encoder.mBuffer ++ buffer, 0⟩

def checksum (encoder : Encoder) : Encoder := encoder.u32 24 (crc24qHash encoder.mBuffer)

def byteCount (encoder : Encoder) : ℕ := encoder.mBuffer.length

/-! ### What the buffer holds -/

/-- The buffer holds exactly the bits `bs`, padded with zeros to whole bytes. -/
structure Holds (encoder : Encoder) (bs : List Bool) : Prop where
  index_eq : encoder.mBitIndex = bs.length % 8
  bits_eq : ∃ pad < 8, bytesBits encoder.mBuffer = bs ++ List.replicate pad false

theorem holds_new : Holds new [] := ⟨rfl, 0, by omega, rfl⟩

/-- The padding completes the last byte. -/
theorem Holds.bytes {encoder : Encoder} {bs : List Bool} (h : Holds encoder bs) :
    bytesBits encoder.mBuffer = bs ++ List.replicate ((8 - bs.length % 8) % 8) false := by
  obtain ⟨pad, hpad, hbits⟩ := h.bits_eq
  have hl := congrArg List.length hbits
  rw [length_bytesBits, List.length_append, List.length_replicate] at hl
  rw [hbits, show (8 - bs.length % 8) % 8 = pad from by omega]

/-- The bytes of an encoder are told by the bits it holds. -/
theorem Holds.byteCount_eq {encoder : Encoder} {bs : List Bool} (h : Holds encoder bs) :
    encoder.byteCount = (bs.length + 7) / 8 := by
  obtain ⟨pad, hpad, hbits⟩ := h.bits_eq
  have hl := congrArg List.length hbits
  rw [length_bytesBits, List.length_append, List.length_replicate] at hl
  unfold byteCount
  omega

theorem modify_append_singleton (l : List UInt8) (x : UInt8) (f : UInt8 → UInt8) :
    (l ++ [x]).modify l.length f = l ++ [f x] := by
  rw [List.modify_eq_take_cons_drop (by simp)]
  simp

theorem Holds.appendBit {encoder : Encoder} {bs : List Bool} {bit : UInt8} {b : Bool}
    (h : Holds encoder bs) (hbit : bit.toNat = b.toNat) :
    Holds (encoder.appendBit bit) (bs ++ [b]) := by
  have hb := h.bytes
  have hindex := h.index_eq
  refine ⟨?_, (8 - (bs ++ [b]).length % 8) % 8, by omega, ?_⟩
  · simp only [Encoder.appendBit, hindex, List.length_append, List.length_singleton]
    omega
  · -- the byte that takes the bit: a fresh one, or the last one of the buffer
    obtain ⟨l, x, pre, n, hbuf, hpre, hx, hn⟩ : ∃ l x pre n,
        (if encoder.mBitIndex = 0 then encoder.mBuffer ++ [0] else encoder.mBuffer) = l ++ [x] ∧
        bytesBits l ++ pre = bs ∧ byteBits x = pre ++ List.replicate (n + 1) false ∧
        n = 7 - encoder.mBitIndex := by
      by_cases h0 : encoder.mBitIndex = 0
      · refine ⟨encoder.mBuffer, 0, [], 7, by rw [if_pos h0], ?_, rfl, by omega⟩
        rw [hindex] at h0
        rw [hb, h0]
        simp
      · rw [if_neg h0]
        rcases List.eq_nil_or_concat encoder.mBuffer with hnil | ⟨l, x, hlx⟩
        · rw [hnil] at hb
          have hl := congrArg List.length hb
          simp only [bytesBits_nil, List.length_nil, List.length_append,
            List.length_replicate] at hl
          omega
        · rw [List.concat_eq_append] at hlx
          rw [hlx, bytesBits_append, bytesBits_cons, bytesBits_nil, List.append_nil] at hb
          rcases List.append_eq_append_iff.mp hb with ⟨pre, hpre, hx⟩ | ⟨post, hpost, hrep⟩
          · refine ⟨l, x, pre, 7 - encoder.mBitIndex, hlx, hpre.symm, ?_, rfl⟩
            rw [hx, show (8 - bs.length % 8) % 8 = 7 - encoder.mBitIndex + 1 from by omega]
          · have hl := congrArg List.length hrep
            rw [List.length_replicate, List.length_append, length_byteBits] at hl
            omega
    have hpad : (8 - (bs ++ [b]).length % 8) % 8 = n := by
      rw [List.length_append, List.length_singleton]
      omega
    simp only [Encoder.appendBit, hbuf, ← hn]
    rw [List.length_append, List.length_singleton, Nat.add_sub_cancel, modify_append_singleton,
      bytesBits_append, bytesBits_cons, bytesBits_nil, byteBits_or hx hbit, hpad, ← hpre]
    simp

/-! ### What an operation appends -/

/-- The operation appends exactly the bits `bs`. -/
def Emits (f : Encoder → Encoder) (bs : List Bool) : Prop :=
  ∀ encoder cs, Holds encoder cs → Holds (f encoder) (cs ++ bs)

namespace Emits

theorem id : Emits (fun encoder => encoder) [] := by
  intro encoder cs h
  rwa [List.append_nil]

theorem comp {f g : Encoder → Encoder} {bs cs : List Bool} (hf : Emits f bs) (hg : Emits g cs) :
    Emits (fun encoder => g (f encoder)) (bs ++ cs) := by
  intro encoder ds h
  rw [← List.append_assoc]
  exact hg _ _ (hf _ _ h)

/-- A loop appends what its rounds append, in order. -/
theorem foldl {α : Type} {f : Encoder → α → Encoder} {enc : α → List Bool} {l : List α}
    (h : ∀ a ∈ l, Emits (fun encoder => f encoder a) (enc a)) :
    Emits (fun encoder => l.foldl f encoder) (l.flatMap enc) := by
  induction l with
  | nil => exact id
  | cons a l ih =>
    have hrest := ih (fun a' ha' => h a' (List.mem_cons_of_mem _ ha'))
    exact comp (h a (List.mem_cons_self ..)) hrest

theorem new {f : Encoder → Encoder} {bs : List Bool} (hf : Emits f bs) :
    Holds (f Encoder.new) bs := hf _ _ holds_new

end Emits

theorem emits_u64 {bits : ℕ} (hbits : bits ≤ 64) (value : UInt64) :
    Emits (fun encoder => encoder.u64 bits value) (ofNat bits value.toNat) := by
  have hround : ∀ i ∈ List.range bits, Emits (fun encoder => encoder.appendBit
      ((value >>> (bits - i - 1).toUInt64) &&& 1).toUInt8)
      [value.toNat.testBit (bits - i - 1)] := by
    intro i hi encoder cs h
    apply h.appendBit
    rw [List.mem_range] at hi
    exact toNat_wordBit value (by omega)
  have h := Emits.foldl hround
  rwa [← List.map_eq_flatMap, map_testBit_range] at h

theorem emits_u8 {bits : ℕ} (hbits : bits ≤ 8) (value : UInt8) :
    Emits (fun encoder => encoder.u8 bits value) (ofNat bits value.toNat) := by
  have h := emits_u64 (show bits ≤ 64 by omega) value.toUInt64
  rwa [UInt8.toNat_toUInt64] at h

theorem emits_u16 {bits : ℕ} (hbits : bits ≤ 16) (value : UInt16) :
    Emits (fun encoder => encoder.u16 bits value) (ofNat bits value.toNat) := by
  have h := emits_u64 (show bits ≤ 64 by omega) value.toUInt64
  rwa [UInt16.toNat_toUInt64] at h

theorem emits_u32 {bits : ℕ} (hbits : bits ≤ 32) (value : UInt32) :
    Emits (fun encoder => encoder.u32 bits value) (ofNat bits value.toNat) := by
  have h := emits_u64 (show bits ≤ 64 by omega) value.toUInt64
  rwa [UInt32.toNat_toUInt64] at h

theorem emits_b (value : Bool) : Emits (fun encoder => encoder.b value) [value] := by
  have h := emits_u8 (show 1 ≤ 8 by omega) (if value then 1 else 0)
  cases value <;> exact h

theorem emits_reserve {bits : ℕ} (hbits : bits ≤ 64) :
    Emits (fun encoder => encoder.reserve bits) (List.replicate bits false) := by
  have h := emits_u64 hbits 0
  rwa [UInt64.toNat_zero, ofNat_zero_right] at h

/-- Whole bytes are copied behind whole bytes. -/
theorem Holds.copy {encoder : Encoder} {bs : List Bool} (h : Holds encoder bs)
    (halign : bs.length % 8 = 0) (buffer : List UInt8) :
    Holds (encoder.copy buffer) (bs ++ bytesBits buffer) := by
  refine ⟨?_, 0, by omega, ?_⟩
  · simp only [Encoder.copy, List.length_append, length_bytesBits]
    omega
  · have hb := h.bytes
    rw [halign] at hb
    simpa [Encoder.copy] using hb

/-! ### Signed fields -/

/-- The number that `i64` writes: the sign bit is forced, the other bits are cut. -/
def signField (bits : ℕ) (value : ℤ) : ℕ :=
  (if value < 0 then 2 ^ (bits - 1) else 0) + (value % 2 ^ (bits - 1)).toNat

/-- Forcing bit `k` of a word leaves the bits below it. -/
theorem force_bit {k : ℕ} (hk : k < 64) (u t : UInt64) (sign : Bool)
    (h : t = if sign then u ||| (1 <<< k.toUInt64) else u &&& ~~~(1 <<< k.toUInt64)) :
    t.toNat % 2 ^ (k + 1) = (if sign then 2 ^ k else 0) + u.toNat % 2 ^ k := by
  have hk64 : k.toUInt64.toNat % 64 = k := by
    rw [Nat.toUInt64_eq, UInt64.toNat_ofNat']
    omega
  have hone : ∀ i < 64, ((1 : UInt64) <<< k.toUInt64).toBitVec.getLsbD i = decide (i = k) := by
    intro i hi
    have hpow : ((1 : UInt64) <<< k.toUInt64).toNat = 2 ^ k := by
      rw [UInt64.toNat_shiftLeft, hk64, UInt64.toNat_one, Nat.one_shiftLeft,
        Nat.mod_eq_of_lt (Nat.pow_lt_pow_right (by omega) hk)]
    rw [BitVec.getLsbD, UInt64.toNat_toBitVec, hpow, Nat.testBit_two_pow]
    simp [eq_comm]
  have hbit : ∀ i < 64, t.toNat.testBit i = if i = k then sign else u.toNat.testBit i := by
    intro i hi
    have ht : t.toNat.testBit i = t.toBitVec.getLsbD i := rfl
    have hu : u.toNat.testBit i = u.toBitVec.getLsbD i := rfl
    rw [ht, hu, h]
    cases sign
    · rw [if_neg (by simp), UInt64.toBitVec_and, UInt64.toBitVec_not, BitVec.getLsbD_and,
        BitVec.getLsbD_not, hone i hi]
      by_cases hik : i = k <;> simp [hik, hi]
    · rw [if_pos rfl, UInt64.toBitVec_or, BitVec.getLsbD_or, hone i hi]
      by_cases hik : i = k <;> simp [hik]
  have hlow : t.toNat % 2 ^ k = u.toNat % 2 ^ k := by
    apply Nat.eq_of_testBit_eq
    intro i
    rw [Nat.testBit_mod_two_pow, Nat.testBit_mod_two_pow]
    by_cases hi : i < k
    · rw [hbit i (by omega), if_neg (by omega)]
    · simp [hi]
  rw [mod_two_pow_succ, hbit k hk, if_pos rfl, hlow]
  cases sign <;> simp

theorem emits_i64 {bits : ℕ} (hpos : 0 < bits) (hbits : bits ≤ 64) (value : Int64) :
    Emits (fun encoder => encoder.i64 bits value) (ofNat bits (signField bits value.toInt)) := by
  obtain ⟨k, rfl⟩ : ∃ k, bits = k + 1 := ⟨bits - 1, by omega⟩
  have hneg : value < 0 ↔ value.toInt < 0 := by
    rw [Int64.lt_iff_toInt_lt]
    rfl
  have hdvd : (2 : ℤ) ^ k ∣ ((2 ^ 64 : ℕ) : ℤ) := by
    have h := pow_dvd_pow (2 : ℤ) (show k ≤ 64 by omega)
    exact_mod_cast h
  have hu : value.toUInt64.toNat % 2 ^ k = (value.toInt % 2 ^ k).toNat := by
    have hint : value.toInt = Int.bmod value.toUInt64.toNat (2 ^ 64) :=
      BitVec.toInt_eq_toNat_bmod _
    rw [hint, ← Int.emod_emod_of_dvd _ hdvd, Int.bmod_emod, Int.emod_emod_of_dvd _ hdvd]
    norm_cast
  have hforce := force_bit (k := k) (by omega) value.toUInt64 _ (decide (value < 0)) rfl
  have h := emits_u64 hbits (if value < 0 then value.toUInt64 ||| ((1 : UInt64) <<< k.toUInt64)
      else value.toUInt64 &&& ~~~((1 : UInt64) <<< k.toUInt64))
  have heq : ofNat (k + 1) (if value < 0 then value.toUInt64 ||| ((1 : UInt64) <<< k.toUInt64)
      else value.toUInt64 &&& ~~~((1 : UInt64) <<< k.toUInt64)).toNat =
      ofNat (k + 1) (signField (k + 1) value.toInt) := by
    have hlt : (value.toInt % 2 ^ k).toNat < 2 ^ k := by
      rw [← hu]
      exact Nat.mod_lt _ (by positivity)
    have hfield : signField (k + 1) value.toInt < 2 ^ (k + 1) := by
      rw [signField, Nat.add_sub_cancel, pow_succ]
      split <;> omega
    simp only [decide_eq_true_eq] at hforce
    rw [ofNat_eq_ofNat, hforce, Nat.mod_eq_of_lt hfield, signField, Nat.add_sub_cancel, hu]
    simp only [hneg]
  rw [heq] at h
  exact h

theorem emits_i16 {bits : ℕ} (hpos : 0 < bits) (hbits : bits ≤ 16) (value : Int16) :
    Emits (fun encoder => encoder.i16 bits value) (ofNat bits (signField bits value.toInt)) := by
  have h := emits_i64 hpos (by omega) value.toInt64
  rwa [Int16.toInt_toInt64] at h

theorem emits_i32 {bits : ℕ} (hpos : 0 < bits) (hbits : bits ≤ 32) (value : Int32) :
    Emits (fun encoder => encoder.i32 bits value) (ofNat bits (signField bits value.toInt)) := by
  have h := emits_i64 hpos (by omega) value.toInt64
  rwa [Int32.toInt_toInt64] at h

/-- A number that fits is read back, the sign included. -/
theorem toInt_signField {k : ℕ} {value : ℤ} (hlo : -2 ^ k ≤ value) (hhi : value < 2 ^ k) :
    toInt (ofNat (k + 1) (signField (k + 1) value)) = value := by
  apply toInt_ofNat hlo hhi
  have hpow : (2 : ℤ) ^ (k + 1) = 2 * 2 ^ k := by ring
  have hnn : 0 ≤ value % 2 ^ k := Int.emod_nonneg _ (by positivity)
  rw [signField, Nat.add_sub_cancel]
  push_cast
  rw [Int.toNat_of_nonneg hnn]
  by_cases hv : value < 0
  · rw [if_pos hv]
    by_cases hmin : value = -2 ^ k
    · rw [hmin, Int.neg_emod_self, add_zero, ← Int.add_emod_right (-2 ^ k)]
      congr 1
      omega
    · have hlow : value % 2 ^ k = value + 2 ^ k := by
        rw [← Int.add_emod_right value (2 ^ k), Int.emod_eq_of_lt (by omega) (by omega)]
      rw [hlow, ← Int.add_emod_right value (2 ^ (k + 1))]
      congr 1
      omega
  · rw [if_neg hv, Int.emod_eq_of_lt (by omega) hhi, zero_add]

end Encoder

/-! ### Messages and frames -/

/-- `generator::rtcm::Message`. -/
structure Message where
  id : UInt32
  data : List UInt8
  deriving DecidableEq

/-- The frame that every message function builds around its payload. -/
def frame (encoder : Encoder) : List UInt8 :=
  let length := encoder.byteCount.toUInt16
  let frameEncoder := Encoder.new
  let frameEncoder := frameEncoder.u8 8 0xD3
  let frameEncoder := frameEncoder.u8 6 0
  let frameEncoder := frameEncoder.u16 10 length
  let frameEncoder := frameEncoder.copy encoder.mBuffer
  let frameEncoder := frameEncoder.checksum
  frameEncoder.mBuffer

end SuplLpp.Rtcm
