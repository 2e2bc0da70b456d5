import SuplLpp.Lib.Crc
import SuplLpp.Spartn.Message

/-!
# Transport frames

`Message::build` wraps the payload of a message in a SPARTN frame.

* `crc4Round`, `crc8`, `crc16Ccitt`, `crc24q`, as the source computes the checksums, and
  `crc4_eq`, `crc8_eq`, `crc16Ccitt_eq`, `crc24q_eq`: they are polynomial remainders;
* `Message.build`, and `build_bits`, the bits of a frame;
* `Frame`, `parse`: a receiver that goes by the frame layout;
* `roundTrips_iff`: it gets the message back exactly when type and subtype fit their fields.
-/

namespace SuplLpp.Spartn

open Bits

/-! ### Checksums of the source -/

def crc4Lookup : Array UInt8 :=
  #[
    0x00, 0x0B, 0x05, 0x0E, 0x0A, 0x01, 0x0F, 0x04, 0x07, 0x0C, 0x02, 0x09, 0x0D, 0x06, 0x08, 0x03,
    0x0E, 0x05, 0x0B, 0x00, 0x04, 0x0F, 0x01, 0x0A, 0x09, 0x02, 0x0C, 0x07, 0x03, 0x08, 0x06, 0x0D,
    0x0F, 0x04, 0x0A, 0x01, 0x05, 0x0E, 0x00, 0x0B, 0x08, 0x03, 0x0D, 0x06, 0x02, 0x09, 0x07, 0x0C,
    0x01, 0x0A, 0x04, 0x0F, 0x0B, 0x00, 0x0E, 0x05, 0x06, 0x0D, 0x03, 0x08, 0x0C, 0x07, 0x09, 0x02,
    0x0D, 0x06, 0x08, 0x03, 0x07, 0x0C, 0x02, 0x09, 0x0A, 0x01, 0x0F, 0x04, 0x00, 0x0B, 0x05, 0x0E,
    0x03, 0x08, 0x06, 0x0D, 0x09, 0x02, 0x0C, 0x07, 0x04, 0x0F, 0x01, 0x0A, 0x0E, 0x05, 0x0B, 0x00,
    0x02, 0x09, 0x07, 0x0C, 0x08, 0x03, 0x0D, 0x06, 0x05, 0x0E, 0x00, 0x0B, 0x0F, 0x04, 0x0A, 0x01,
    0x0C, 0x07, 0x09, 0x02, 0x06, 0x0D, 0x03, 0x08, 0x0B, 0x00, 0x0E, 0x05, 0x01, 0x0A, 0x04, 0x0F,
    0x09, 0x02, 0x0C, 0x07, 0x03, 0x08, 0x06, 0x0D, 0x0E, 0x05, 0x0B, 0x00, 0x04, 0x0F, 0x01, 0x0A,
    0x07, 0x0C, 0x02, 0x09, 0x0D, 0x06, 0x08, 0x03, 0x00, 0x0B, 0x05, 0x0E, 0x0A, 0x01, 0x0F, 0x04,
    0x06, 0x0D, 0x03, 0x08, 0x0C, 0x07, 0x09, 0x02, 0x01, 0x0A, 0x04, 0x0F, 0x0B, 0x00, 0x0E, 0x05,
    0x08, 0x03, 0x0D, 0x06, 0x02, 0x09, 0x07, 0x0C, 0x0F, 0x04, 0x0A, 0x01, 0x05, 0x0E, 0x00, 0x0B,
    0x04, 0x0F, 0x01, 0x0A, 0x0E, 0x05, 0x0B, 0x00, 0x03, 0x08, 0x06, 0x0D, 0x09, 0x02, 0x0C, 0x07,
    0x0A, 0x01, 0x0F, 0x04, 0x00, 0x0B, 0x05, 0x0E, 0x0D, 0x06, 0x08, 0x03, 0x07, 0x0C, 0x02, 0x09,
    0x0B, 0x00, 0x0E, 0x05, 0x01, 0x0A, 0x04, 0x0F, 0x0C, 0x07, 0x09, 0x02, 0x06, 0x0D, 0x03, 0x08,
    0x05, 0x0E, 0x00, 0x0B, 0x0F, 0x04, 0x0A, 0x01, 0x02, 0x09, 0x07, 0x0C, 0x08, 0x03, 0x0D, 0x06
  ]

/-- One round of the loop of `tf006`. -/
def crc4Round (crc : UInt8) (byte : UInt8) : UInt8 :=
  crc4Lookup.getD (byte ^^^ crc).toNat 0 &&& 0xF

def crc4 (bytes : List UInt8) : UInt8 := bytes.foldl crc4Round 0

def crc8Lookup : Array UInt8 :=
  #[
    0x00, 0x07, 0x0E, 0x09, 0x1C, 0x1B, 0x12, 0x15, 0x38, 0x3F, 0x36, 0x31, 0x24, 0x23, 0x2A, 0x2D,
    0x70, 0x77, 0x7E, 0x79, 0x6C, 0x6B, 0x62, 0x65, 0x48, 0x4F, 0x46, 0x41, 0x54, 0x53, 0x5A, 0x5D,
    0xE0, 0xE7, 0xEE, 0xE9, 0xFC, 0xFB, 0xF2, 0xF5, 0xD8, 0xDF, 0xD6, 0xD1, 0xC4, 0xC3, 0xCA, 0xCD,
    0x90, 0x97, 0x9E, 0x99, 0x8C, 0x8B, 0x82, 0x85, 0xA8, 0xAF, 0xA6, 0xA1, 0xB4, 0xB3, 0xBA, 0xBD,
    0xC7, 0xC0, 0xC9, 0xCE, 0xDB, 0xDC, 0xD5, 0xD2, 0xFF, 0xF8, 0xF1, 0xF6, 0xE3, 0xE4, 0xED, 0xEA,
    0xB7, 0xB0, 0xB9, 0xBE, 0xAB, 0xAC, 0xA5, 0xA2, 0x8F, 0x88, 0x81, 0x86, 0x93, 0x94, 0x9D, 0x9A,
    0x27, 0x20, 0x29, 0x2E, 0x3B, 0x3C, 0x35, 0x32, 0x1F, 0x18, 0x11, 0x16, 0x03, 0x04, 0x0D, 0x0A,
    0x57, 0x50, 0x59, 0x5E, 0x4B, 0x4C, 0x45, 0x42, 0x6F, 0x68, 0x61, 0x66, 0x73, 0x74, 0x7D, 0x7A,
    0x89, 0x8E, 0x87, 0x80, 0x95, 0x92, 0x9B, 0x9C, 0xB1, 0xB6, 0xBF, 0xB8, 0xAD, 0xAA, 0xA3, 0xA4,
    0xF9, 0xFE, 0xF7, 0xF0, 0xE5, 0xE2, 0xEB, 0xEC, 0xC1, 0xC6, 0xCF, 0xC8, 0xDD, 0xDA, 0xD3, 0xD4,
    0x69, 0x6E, 0x67, 0x60, 0x75, 0x72, 0x7B, 0x7C, 0x51, 0x56, 0x5F, 0x58, 0x4D, 0x4A, 0x43, 0x44,
    0x19, 0x1E, 0x17, 0x10, 0x05, 0x02, 0x0B, 0x0C, 0x21, 0x26, 0x2F, 0x28, 0x3D, 0x3A, 0x33, 0x34,
    0x4E, 0x49, 0x40, 0x47, 0x52, 0x55, 0x5C, 0x5B, 0x76, 0x71, 0x78, 0x7F, 0x6A, 0x6D, 0x64, 0x63,
    0x3E, 0x39, 0x30, 0x37, 0x22, 0x25, 0x2C, 0x2B, 0x06, 0x01, 0x08, 0x0F, 0x1A, 0x1D, 0x14, 0x13,
    0xAE, 0xA9, 0xA0, 0xA7, 0xB2, 0xB5, 0xBC, 0xBB, 0x96, 0x91, 0x98, 0x9F, 0x8A, 0x8D, 0x84, 0x83,
    0xDE, 0xD9, 0xD0, 0xD7, 0xC2, 0xC5, 0xCC, 0xCB, 0xE6, 0xE1, 0xE8, 0xEF, 0xFA, 0xFD, 0xF4, 0xF3
  ]

def crc8 (data : List UInt8) : UInt8 :=
  data.foldl (fun crc byte => crc8Lookup.getD (crc ^^^ byte).toNat 0) 0

def crc16Lookup : Array UInt16 :=
  #[
    0x0000, 0x1021, 0x2042, 0x3063, 0x4084, 0x50A5, 0x60C6, 0x70E7, 0x8108, 0x9129, 0xA14A,
    0xB16B, 0xC18C, 0xD1AD, 0xE1CE, 0xF1EF, 0x1231, 0x0210, 0x3273, 0x2252, 0x52B5, 0x4294,
    0x72F7, 0x62D6, 0x9339, 0x8318, 0xB37B, 0xA35A, 0xD3BD, 0xC39C, 0xF3FF, 0xE3DE, 0x2462,
    0x3443, 0x0420, 0x1401, 0x64E6, 0x74C7, 0x44A4, 0x5485, 0xA56A, 0xB54B, 0x8528, 0x9509,
    0xE5EE, 0xF5CF, 0xC5AC, 0xD58D, 0x3653, 0x2672, 0x1611, 0x0630, 0x76D7, 0x66F6, 0x5695,
    0x46B4, 0xB75B, 0xA77A, 0x9719, 0x8738, 0xF7DF, 0xE7FE, 0xD79D, 0xC7BC, 0x48C4, 0x58E5,
    0x6886, 0x78A7, 0x0840, 0x1861, 0x2802, 0x3823, 0xC9CC, 0xD9ED, 0xE98E, 0xF9AF, 0x8948,
    0x9969, 0xA90A, 0xB92B, 0x5AF5, 0x4AD4, 0x7AB7, 0x6A96, 0x1A71, 0x0A50, 0x3A33, 0x2A12,
    0xDBFD, 0xCBDC, 0xFBBF, 0xEB9E, 0x9B79, 0x8B58, 0xBB3B, 0xAB1A, 0x6CA6, 0x7C87, 0x4CE4,
    0x5CC5, 0x2C22, 0x3C03, 0x0C60, 0x1C41, 0xEDAE, 0xFD8F, 0xCDEC, 0xDDCD, 0xAD2A, 0xBD0B,
    0x8D68, 0x9D49, 0x7E97, 0x6EB6, 0x5ED5, 0x4EF4, 0x3E13, 0x2E32, 0x1E51, 0x0E70, 0xFF9F,
    0xEFBE, 0xDFDD, 0xCFFC, 0xBF1B, 0xAF3A, 0x9F59, 0x8F78, 0x9188, 0x81A9, 0xB1CA, 0xA1EB,
    0xD10C, 0xC12D, 0xF14E, 0xE16F, 0x1080, 0x00A1, 0x30C2, 0x20E3, 0x5004, 0x4025, 0x7046,
    0x6067, 0x83B9, 0x9398, 0xA3FB, 0xB3DA, 0xC33D, 0xD31C, 0xE37F, 0xF35E, 0x02B1, 0x1290,
    0x22F3, 0x32D2, 0x4235, 0x5214, 0x6277, 0x7256, 0xB5EA, 0xA5CB, 0x95A8, 0x8589, 0xF56E,
    0xE54F, 0xD52C, 0xC50D, 0x34E2, 0x24C3, 0x14A0, 0x0481, 0x7466, 0x6447, 0x5424, 0x4405,
    0xA7DB, 0xB7FA, 0x8799, 0x97B8, 0xE75F, 0xF77E, 0xC71D, 0xD73C, 0x26D3, 0x36F2, 0x0691,
    0x16B0, 0x6657, 0x7676, 0x4615, 0x5634, 0xD94C, 0xC96D, 0xF90E, 0xE92F, 0x99C8, 0x89E9,
    0xB98A, 0xA9AB, 0x5844, 0x4865, 0x7806, 0x6827, 0x18C0, 0x08E1, 0x3882, 0x28A3, 0xCB7D,
    0xDB5C, 0xEB3F, 0xFB1E, 0x8BF9, 0x9BD8, 0xABBB, 0xBB9A, 0x4A75, 0x5A54, 0x6A37, 0x7A16,
    0x0AF1, 0x1AD0, 0x2AB3, 0x3A92, 0xFD2E, 0xED0F, 0xDD6C, 0xCD4D, 0xBDAA, 0xAD8B, 0x9DE8,
    0x8DC9, 0x7C26, 0x6C07, 0x5C64, 0x4C45, 0x3CA2, 0x2C83, 0x1CE0, 0x0CC1, 0xEF1F, 0xFF3E,
    0xCF5D, 0xDF7C, 0xAF9B, 0xBFBA, 0x8FD9, 0x9FF8, 0x6E17, 0x7E36, 0x4E55, 0x5E74, 0x2E93,
    0x3EB2, 0x0ED1, 0x1EF0
  ]

def crc16Round (crc : UInt16) (value : UInt8) : UInt16 :=
  crc16Lookup.getD (value.toUInt16 ^^^ (crc >>> 8)).toNat 0 ^^^ (crc <<< 8)

def crc16Ccitt (data : List UInt8) : UInt16 := data.foldl crc16Round 0

/-- One round of the inner loop of `crc24q`. -/
def crc24qShift (crc : UInt32) : UInt32 :=
  let crc := crc <<< 1
  if crc &&& 0x1000000 ≠ 0 then crc ^^^ 0x1864CFB else crc

def crc24qRound (crc : UInt32) (byte : UInt8) : UInt32 :=
  crc24qShift^[8] (crc ^^^ (byte.toUInt32 <<< 16))

def crc24q (data : List UInt8) : UInt32 := data.foldl crc24qRound 0 &&& 0xFFFFFF

/-! ### Checksums as remainders -/

def crc4Poly : BitVec 4 := 0x9
def crc8Poly : BitVec 8 := 0x07
def crc16Poly : BitVec 16 := 0x1021
def crc24qPoly : BitVec 24 := 0x864CFB

/-- Four bits, the lowest first, fed into the register. -/
def feedNibble (c : BitVec 4) (nibble : ℕ) : BitVec 4 :=
  (ofNat 4 nibble).reverse.foldl (Crc.feed crc4Poly) c

/-- What is in the register meets the four bits that come in. -/
theorem feedNibble_eq (c : BitVec 4) {nibble : ℕ} (h : nibble < 16) :
    feedNibble c nibble = feedNibble 0 (nibble ^^^ c.reverse.toNat) := by
  have hall : ∀ (n : Fin 16) (m : Fin 16), feedNibble (BitVec.ofNat 4 n) m =
      feedNibble 0 (m.1 ^^^ (BitVec.ofNat 4 n).reverse.toNat) := by
    decide +kernel
  simpa using hall ⟨c.toNat, c.isLt⟩ ⟨nibble, h⟩

theorem crc4Lookup_table (b : UInt8) : (crc4Lookup.getD b.toNat 0 &&& 0xF).toBitVec =
    (feedNibble (feedNibble 0 (b.toNat % 16)) (b.toNat / 16)).reverse.setWidth 8 := by
  have h : crc4Lookup.toList.map (fun entry => (entry &&& 0xF).toBitVec) =
      (List.range 256).map fun n =>
        (feedNibble (feedNibble 0 (n % 16)) (n / 16)).reverse.setWidth 8 := by
    decide +kernel
  exact Crc.getD_of_map_eq h b.toNat_lt 0

theorem feedNibble_feedNibble (c : BitVec 4) (byte : UInt8) :
    (byteBits byte).reverse.foldl (Crc.feed crc4Poly) c =
      feedNibble (feedNibble c (byte.toNat % 16)) (byte.toNat / 16) := by
  have hbits : byteBits byte = ofNat 4 (byte.toNat / 16) ++ ofNat 4 (byte.toNat % 16) := by
    have hlow : ofNat 4 (byte.toNat % 16) = ofNat 4 byte.toNat := by
      rw [ofNat_eq_ofNat]
      omega
    rw [byteBits, ofNat_add 4 4, Nat.shiftRight_eq_div_pow, hlow]
  rw [hbits, List.reverse_append, List.foldl_append]
  rfl

/-- The register of the source is the mirror image of one that takes the bits of each byte from
the lowest. -/
theorem crc4Round_eq (c : BitVec 4) (byte : UInt8) :
    (crc4Round ⟨c.reverse.setWidth 8⟩ byte).toBitVec =
      ((byteBits byte).reverse.foldl (Crc.feed crc4Poly) c).reverse.setWidth 8 := by
  have hlt := c.reverse.isLt
  have hindex : (byte ^^^ (⟨c.reverse.setWidth 8⟩ : UInt8)).toNat =
      byte.toNat ^^^ c.reverse.toNat := by
    rw [UInt8.toNat_xor]
    rfl
  have hlow : (byte.toNat ^^^ c.reverse.toNat) % 16 = byte.toNat % 16 ^^^ c.reverse.toNat := by
    have h := Nat.xor_mod_two_pow (a := byte.toNat) (b := c.reverse.toNat) (n := 4)
    rwa [Nat.mod_eq_of_lt (a := c.reverse.toNat) (by omega)] at h
  have hhigh : (byte.toNat ^^^ c.reverse.toNat) / 16 = byte.toNat / 16 := by
    have h := Nat.xor_div_two_pow (a := byte.toNat) (b := c.reverse.toNat) (n := 4)
    rwa [Nat.div_eq_of_lt (a := c.reverse.toNat) (by omega), Nat.xor_zero] at h
  rw [crc4Round, crc4Lookup_table, hindex, hlow, hhigh, feedNibble_feedNibble,
    feedNibble_eq c (Nat.mod_lt _ (by omega))]

theorem crc4_eq (bytes : List UInt8) :
    (crc4 bytes).toBitVec =
      (Crc.bitHash crc4Poly (bytes.flatMap fun b => (byteBits b).reverse)).reverse.setWidth 8 := by
  have hloop : ∀ (bytes : List UInt8) (c : BitVec 4),
      (bytes.foldl crc4Round ⟨c.reverse.setWidth 8⟩).toBitVec =
        ((bytes.flatMap fun b => (byteBits b).reverse).foldl (Crc.feed crc4Poly)
          c).reverse.setWidth 8 := by
    intro bytes
    induction bytes with
    | nil => intro c; rfl
    | cons b bytes ih =>
      intro c
      have hround : crc4Round ⟨c.reverse.setWidth 8⟩ b = ⟨((byteBits b).reverse.foldl
          (Crc.feed crc4Poly) c).reverse.setWidth 8⟩ := UInt8.toBitVec_inj.mp (crc4Round_eq c b)
      rw [List.foldl_cons, hround, ih, List.flatMap_cons, List.foldl_append]
  exact hloop bytes 0

theorem crc8Lookup_table (b : UInt8) :
    (crc8Lookup.getD b.toNat 0).toBitVec = Crc.table crc8Poly b := by
  have h : crc8Lookup.toList.map (·.toBitVec) =
      (List.range 256).map fun n => Crc.table crc8Poly (UInt8.ofNat n) := by
    decide +kernel
  simpa using Crc.getD_of_map_eq h b.toNat_lt 0

theorem crc8_eq (data : List UInt8) : (crc8 data).toBitVec = Crc.hash crc8Poly data := by
  have hloop : ∀ (data : List UInt8) (crc : UInt8),
      (data.foldl (fun crc byte => crc8Lookup.getD (crc ^^^ byte).toNat 0) crc).toBitVec =
        data.foldl (Crc.byteStep crc8Poly) crc.toBitVec := by
    intro data
    induction data with
    | nil => intro crc; rfl
    | cons byte data ih =>
      intro crc
      have hstep : Crc.byteStep crc8Poly crc.toBitVec byte =
          (crc8Lookup.getD (crc ^^^ byte).toNat 0).toBitVec := by
        have hshift : crc.toBitVec <<< 8 = 0 := by
          apply BitVec.eq_of_getLsbD_eq
          intro i hi
          simp [hi]
        have hindex : byte ^^^ (⟨(crc.toBitVec >>> (8 - 8)).setWidth 8⟩ : UInt8) =
            crc ^^^ byte := by
          rw [UInt8.xor_comm]
          simp
        rw [Crc.byteStep_eq_table _ (by omega), hshift, hindex, crc8Lookup_table]
        simp
      rw [List.foldl_cons, List.foldl_cons, ih, hstep]
  exact hloop data 0

theorem crc16Lookup_table (b : UInt8) :
    (crc16Lookup.getD b.toNat 0).toBitVec = Crc.table crc16Poly b := by
  have h : crc16Lookup.toList.map (·.toBitVec) =
      (List.range 256).map fun n => Crc.table crc16Poly (UInt8.ofNat n) := by
    decide +kernel
  simpa using Crc.getD_of_map_eq h b.toNat_lt 0

theorem crc16Round_eq (crc : UInt16) (byte : UInt8) :
    (crc16Round crc byte).toBitVec = Crc.byteStep crc16Poly crc.toBitVec byte := by
  have hindex : (byte.toUInt16 ^^^ (crc >>> 8)).toNat =
      (byte ^^^ (⟨(crc.toBitVec >>> (16 - 8)).setWidth 8⟩ : UInt8)).toNat := by
    have hlow : crc.toNat >>> 8 < 2 ^ 8 := by
      have := crc.toNat_lt
      rw [Nat.shiftRight_eq_div_pow]
      omega
    have hshift : (crc >>> 8).toNat = crc.toNat >>> 8 := UInt16.toNat_shiftRight ..
    have htop : (⟨(crc.toBitVec >>> (16 - 8)).setWidth 8⟩ : UInt8).toNat = crc.toNat >>> 8 :=
      (BitVec.toNat_setWidth ..).trans (Nat.mod_eq_of_lt hlow)
    rw [UInt16.toNat_xor, UInt8.toNat_xor, hshift, htop, UInt8.toNat_toUInt16]
  rw [Crc.byteStep_eq_table _ (by omega), crc16Round, UInt16.toBitVec_xor, hindex,
    crc16Lookup_table, BitVec.xor_comm]
  rfl

theorem crc16Ccitt_eq (data : List UInt8) :
    (crc16Ccitt data).toBitVec = Crc.hash crc16Poly data := by
  have hloop : ∀ (data : List UInt8) (crc : UInt16),
      (data.foldl crc16Round crc).toBitVec =
        data.foldl (Crc.byteStep crc16Poly) crc.toBitVec := by
    intro data
    induction data with
    | nil => intro crc; rfl
    | cons byte data ih =>
      intro crc
      rw [List.foldl_cons, List.foldl_cons, ih, crc16Round_eq]
  exact hloop data 0

/-- The bits above the register are never looked at. -/
theorem crc24qShift_eq (crc : UInt32) :
    (crc24qShift crc).toBitVec.setWidth 24 =
      Crc.shift crc24qPoly (crc.toBitVec.setWidth 24 : BitVec 24) := by
  have hshift :
      (crc <<< 1).toBitVec.setWidth 24 = (crc.toBitVec.setWidth 24 : BitVec 24) <<< 1 := by
    apply BitVec.eq_of_getLsbD_eq
    intro i hi
    simp [hi]
  have hmsb : (crc.toBitVec.setWidth 24 : BitVec 24).msb = crc.toBitVec.getLsbD 23 := by
    simp [BitVec.msb_eq_getLsbD_last]
  have hcond : ((crc <<< 1) &&& 0x1000000 ≠ 0) ↔ crc.toBitVec.getLsbD 23 = true := by
    have hmask : (0x1000000 : UInt32).toNat = 2 ^ 24 := rfl
    have hbit : ((crc <<< 1) &&& 0x1000000).toNat =
        ((crc <<< 1).toNat.testBit 24).toNat * 2 ^ 24 := by
      rw [UInt32.toNat_and, hmask, Nat.and_two_pow]
    have htest : (crc <<< 1).toNat.testBit 24 = crc.toBitVec.getLsbD 23 := by
      rw [UInt32.toNat_shiftLeft]
      have h1 : UInt32.toNat 1 % 32 = 1 := rfl
      rw [h1, Nat.testBit_mod_two_pow, Nat.testBit_shiftLeft]
      simp [BitVec.getLsbD]
    rw [ne_eq, ← UInt32.toNat_inj, hbit, htest]
    cases crc.toBitVec.getLsbD 23 <;> simp
  unfold crc24qShift Crc.shift
  rw [hmsb]
  by_cases h : crc.toBitVec.getLsbD 23 = true
  · rw [if_pos (hcond.2 h), if_pos h, UInt32.toBitVec_xor, BitVec.setWidth_xor, hshift]
    rfl
  · rw [if_neg (fun h' => h (hcond.1 h')), if_neg h, hshift]

theorem crc24qRound_eq (crc : UInt32) (byte : UInt8) :
    (crc24qRound crc byte).toBitVec.setWidth 24 =
      Crc.byteStep crc24qPoly (crc.toBitVec.setWidth 24) byte := by
  have hiterate : ∀ (n : ℕ) (crc : UInt32), (crc24qShift^[n] crc).toBitVec.setWidth 24 =
      (Crc.shift crc24qPoly)^[n] (crc.toBitVec.setWidth 24) := by
    intro n
    induction n with
    | zero => intro crc; rfl
    | succ n ih =>
      intro crc
      rw [Function.iterate_succ_apply, Function.iterate_succ_apply, ih, crc24qShift_eq]
  have htop : (byte.toUInt32 <<< 16).toBitVec.setWidth 24 = Crc.top 24 byte := by
    apply BitVec.eq_of_getLsbD_eq
    intro i hi
    rw [Crc.getLsbD_top _ _ hi]
    by_cases h : 16 ≤ i
    · simp [hi, h]
    · simp [hi, h]
  rw [crc24qRound, hiterate, UInt32.toBitVec_xor, BitVec.setWidth_xor, htop]
  rfl

theorem crc24q_eq (data : List UInt8) :
    (crc24q data).toNat = (Crc.hash crc24qPoly data).toNat := by
  have hloop : ∀ (data : List UInt8) (crc : UInt32),
      (data.foldl crc24qRound crc).toBitVec.setWidth 24 =
        data.foldl (Crc.byteStep crc24qPoly) (crc.toBitVec.setWidth 24) := by
    intro data
    induction data with
    | nil => intro crc; rfl
    | cons byte data ih =>
      intro crc
      rw [List.foldl_cons, List.foldl_cons, ih, crc24qRound_eq]
  have hmask : (0xFFFFFF : UInt32).toNat = 2 ^ 24 - 1 := rfl
  have h := congrArg BitVec.toNat (hloop data 0)
  rw [BitVec.toNat_setWidth] at h
  rw [crc24q, UInt32.toNat_and, hmask, Nat.and_two_pow_sub_one_eq_mod]
  exact h

/-! ### The frame -/

def CrcType.code : CrcType → ℕ
  | .crc8 => 0
  | .crc16 => 1
  | .crc24q => 2

/-- The bytes of a message CRC. -/
def CrcType.size : CrcType → ℕ
  | .crc8 => 1
  | .crc16 => 2
  | .crc24q => 3

/-- `tf006`: the last three bytes that were written. -/
def tf006 (builder : Builder) : Builder :=
  let length := builder.data.length
  builder.bits (crc4 (builder.data.drop (length - 3))).toUInt64 4

/-- `tf018_8bit` and the others. -/
def tf018 (builder : Builder) (crcType : CrcType) (data : List UInt8) : Builder :=
  match crcType with
  | .crc8 => builder.bits (crc8 data).toUInt64 8
  | .crc16 => builder.bits (crc16Ccitt data).toUInt64 16
  | .crc24q => builder.bits (crc24q data).toUInt64 24

/-- What is written before the message CRC. -/
def Message.frameBuilder (message : Message) : Builder :=
  let builder := Builder.new 1228
  let builder := builder.bits 0x73 8
  let builder := builder.bits message.mMessageType.toUInt64 7
  let builder := builder.bits message.mPayload.length.toUInt64 10
  let builder := builder.b false
  let builder := builder.bits message.mCrcType.code.toUInt64 2
  let builder := tf006 builder
  let builder := builder.bits message.mMessageSubtype.toUInt64 4
  let builder := builder.b true
  let builder := builder.bits message.mMessageTime.toUInt64 32
  let builder := builder.bits message.mSolutionId.toUInt64 7
  let builder := builder.bits message.mSolutionProcessorId.toUInt64 4
  message.mPayload.foldl (fun builder byte => builder.bits byte.toUInt64 8) builder

/-- `range`. -/
def Builder.range (builder : Builder) (beginBit bits : ℕ) : List UInt8 :=
  (builder.mData.drop (beginBit / 8)).take (bits / 8)

/-- `Message::build`. -/
def Message.build (message : Message) : List UInt8 :=
  if message.mPayload.length > 1023 then []
  else
    let builder := message.frameBuilder
    (tf018 builder message.mCrcType (builder.range 8 (builder.mBitOffset - 8))).data

/-! ### The bits of a frame -/

/-- Type, length, flag and CRC type: what the frame CRC is for. -/
def Message.header (message : Message) : List Bool :=
  ofNat 7 message.mMessageType.toNat ++ ofNat 10 message.mPayload.length ++ [false] ++
    ofNat 2 message.mCrcType.code

/-- The fields between the frame CRC and the payload. -/
def Message.description (message : Message) : List Bool :=
  ofNat 4 message.mMessageSubtype.toNat ++ [true] ++ ofNat 32 message.mMessageTime.toNat ++
    ofNat 7 message.mSolutionId.toNat ++ ofNat 4 message.mSolutionProcessorId.toNat

theorem Message.length_header (message : Message) : message.header.length = 20 := by
  simp [Message.header]

theorem Message.length_description (message : Message) : message.description.length = 48 := by
  simp [Message.description]

/-- The bits of each byte from the lowest; the last byte is filled with zeros. -/
def reflected (header : List Bool) : List Bool :=
  let padded := header ++ List.replicate 4 false
  (padded.take 8).reverse ++ ((padded.drop 8).take 8).reverse ++ (padded.drop 16).reverse

/-- The frame CRC of the 20 bits of a header: the remainder modulo the polynomial, from the bits
of each byte from the lowest, read backwards. -/
def frameCrc (header : List Bool) : ℕ :=
  (Crc.bitHash crc4Poly (reflected header)).reverse.toNat

/-- The message CRC of bytes. -/
def messageCrc (crcType : CrcType) (data : List UInt8) : ℕ :=
  match crcType with
  | .crc8 => (Crc.hash crc8Poly data).toNat
  | .crc16 => (Crc.hash crc16Poly data).toNat
  | .crc24q => (Crc.hash crc24qPoly data).toNat

theorem Builder.Holds.tf006 {builder : Builder} {before header : List Bool}
    (h : builder.Holds (before ++ header)) (hbefore : before.length = 8)
    (hheader : header.length = 20) :
    (tf006 builder).Holds (before ++ header ++ ofNat 4 (frameCrc header)) := by
  have hdata := h.data
  rw [List.length_append, hbefore, hheader] at hdata
  have hlength : builder.data.length = 4 := by
    have := congrArg List.length hdata
    rw [length_bytesBits, List.length_append, List.length_append, List.length_replicate] at this
    omega
  obtain ⟨b0, b1, b2, b3, hbytes⟩ : ∃ b0 b1 b2 b3, builder.data = [b0, b1, b2, b3] := by
    match builder.data, hlength with
    | [b0, b1, b2, b3], _ => exact ⟨b0, b1, b2, b3, rfl⟩
  have hbits : byteBits b1 ++ byteBits b2 ++ byteBits b3 = header ++ List.replicate 4 false := by
    rw [hbytes] at hdata
    simp only [bytesBits_cons, bytesBits_nil, List.append_nil, List.append_assoc] at hdata
    have htail := (List.append_inj hdata (by rw [length_byteBits, hbefore])).2
    rw [List.append_assoc, htail]
  have hreflected : reflected header =
      [b1, b2, b3].flatMap fun b => (byteBits b).reverse := by
    have h1 : (byteBits b1).length = 8 := length_byteBits b1
    have h2 : (byteBits b2).length = 8 := length_byteBits b2
    rw [reflected, ← hbits]
    simp [List.drop_append, h1, h2]
  have hcrc : (crc4 (builder.data.drop (builder.data.length - 3))).toUInt64.toNat =
      frameCrc header := by
    have h4 := congrArg BitVec.toNat (crc4_eq [b1, b2, b3])
    have hlt := (Crc.bitHash crc4Poly
      ([b1, b2, b3].flatMap fun b => (byteBits b).reverse)).reverse.isLt
    rw [BitVec.toNat_setWidth, Nat.mod_eq_of_lt (by omega)] at h4
    rw [frameCrc, hreflected, ← h4, hbytes]
    rfl
  have hwrite := h.bits (crc4 (builder.data.drop (builder.data.length - 3))).toUInt64
    (show 4 ≤ 64 by omega)
  rwa [hcrc] at hwrite

theorem Builder.Holds.bytes {builder : Builder} {bs : List Bool} (h : builder.Holds bs)
    (payload : List UInt8) :
    (payload.foldl (fun builder byte => builder.bits byte.toUInt64 8) builder).Holds
      (bs ++ bytesBits payload) := by
  induction payload generalizing builder bs with
  | nil => simpa using h
  | cons byte payload ih =>
    have hone := h.bits byte.toUInt64 (show 8 ≤ 64 by omega)
    rw [UInt8.toNat_toUInt64] at hone
    have hrest := ih hone
    rw [List.append_assoc] at hrest
    rwa [bytesBits_cons]

/-- Everything between the preamble and the message CRC. -/
def Message.body (message : Message) : List Bool :=
  message.header ++ ofNat 4 (frameCrc message.header) ++ message.description ++
    bytesBits message.mPayload

theorem Message.frameBuilder_holds (message : Message) (h : message.mPayload.length ≤ 1023) :
    message.frameBuilder.Holds (ofNat 8 0x73 ++ message.body) := by
  have h1 := (Builder.holds_new 1228).bits 0x73 (show 8 ≤ 64 by omega)
  have h2 := h1.bits message.mMessageType.toUInt64 (show 7 ≤ 64 by omega)
  have h3 := h2.bits message.mPayload.length.toUInt64 (show 10 ≤ 64 by omega)
  have h4 := (h3.b false).bits message.mCrcType.code.toUInt64 (show 2 ≤ 64 by omega)
  have hlength : message.mPayload.length.toUInt64.toNat = message.mPayload.length := by
    rw [Nat.toUInt64_eq, UInt64.toNat_ofNat']
    omega
  have hcode : message.mCrcType.code.toUInt64.toNat = message.mCrcType.code := by
    cases message.mCrcType <;> rfl
  have hpreamble : (0x73 : UInt64).toNat = 0x73 := rfl
  rw [hlength, hcode, UInt8.toNat_toUInt64, hpreamble] at h4
  have hheader : [] ++ ofNat 8 0x73 ++ ofNat 7 message.mMessageType.toNat ++
      ofNat 10 message.mPayload.length ++ [false] ++ ofNat 2 message.mCrcType.code =
        ofNat 8 0x73 ++ message.header := by
    simp [Message.header]
  rw [hheader] at h4
  have h5 := h4.tf006 (length_ofNat ..) message.length_header
  have h6 := ((h5.bits message.mMessageSubtype.toUInt64 (show 4 ≤ 64 by omega)).b true).bits
    message.mMessageTime.toUInt64 (show 32 ≤ 64 by omega)
  have h7 := (h6.bits message.mSolutionId.toUInt64 (show 7 ≤ 64 by omega)).bits
    message.mSolutionProcessorId.toUInt64 (show 4 ≤ 64 by omega)
  have h8 := h7.bytes message.mPayload
  simp only [UInt8.toNat_toUInt64, UInt32.toNat_toUInt64] at h8
  have hbody : ofNat 8 0x73 ++ message.header ++ ofNat 4 (frameCrc message.header) ++
      ofNat 4 message.mMessageSubtype.toNat ++ [true] ++ ofNat 32 message.mMessageTime.toNat ++
      ofNat 7 message.mSolutionId.toNat ++ ofNat 4 message.mSolutionProcessorId.toNat ++
      bytesBits message.mPayload = ofNat 8 0x73 ++ message.body := by
    simp [Message.body, Message.description]
  rw [hbody] at h8
  exact h8

theorem Message.length_body (message : Message) :
    message.body.length = 72 + 8 * message.mPayload.length := by
  simp only [Message.body, List.length_append, Message.length_header, Message.length_description,
    length_ofNat, length_bytesBits]

/-- The range of the message CRC is everything that was written behind the preamble. -/
theorem Message.range_bits (message : Message) (h : message.mPayload.length ≤ 1023) :
    bytesBits (message.frameBuilder.range 8 (message.frameBuilder.mBitOffset - 8)) =
      message.body := by
  obtain ⟨hoffset, pad, hbits⟩ := message.frameBuilder_holds h
  have hbody := message.length_body
  have hsplit : bytesBits (message.frameBuilder.mData.take 1) ++
      bytesBits (message.frameBuilder.mData.drop 1) = bytesBits message.frameBuilder.mData := by
    rw [← bytesBits_append, List.take_append_drop]
  have hlong := congrArg List.length hbits
  rw [length_bytesBits, List.length_append, List.length_append, length_ofNat,
    List.length_replicate] at hlong
  rw [hbits, List.append_assoc] at hsplit
  have hdrop := (List.append_inj hsplit (by
    rw [length_bytesBits, List.length_take, length_ofNat]
    omega)).2
  rw [List.length_append, length_ofNat] at hoffset
  have htake : 8 * ((message.frameBuilder.mBitOffset - 8) / 8) = message.body.length := by omega
  rw [Builder.range, bytesBits_take, htake, hdrop, List.take_left]

/-- The bits of a frame. -/
theorem Message.build_bits (message : Message) (h : message.mPayload.length ≤ 1023) :
    ∃ covered, bytesBits covered = message.body ∧
      bytesBits message.build = ofNat 8 0x73 ++ (message.body ++
        ofNat (8 * message.mCrcType.size) (messageCrc message.mCrcType covered)) := by
  have hrange := message.range_bits h
  have hbuilder := message.frameBuilder_holds h
  have hbody := message.length_body
  obtain ⟨covered, hcovered⟩ : ∃ covered, covered =
    message.frameBuilder.range 8 (message.frameBuilder.mBitOffset - 8) := ⟨_, rfl⟩
  rw [← hcovered] at hrange
  have hwritten : (tf018 message.frameBuilder message.mCrcType covered).Holds
      (ofNat 8 0x73 ++ message.body ++
        ofNat (8 * message.mCrcType.size) (messageCrc message.mCrcType covered)) := by
    unfold tf018 messageCrc
    cases message.mCrcType with
    | crc8 =>
      have hcrc : (crc8 covered).toUInt64.toNat = (Crc.hash crc8Poly covered).toNat :=
        (UInt8.toNat_toUInt64 _).trans (congrArg BitVec.toNat (crc8_eq covered))
      have hwrite := hbuilder.bits (crc8 covered).toUInt64 (show 8 ≤ 64 by omega)
      rwa [hcrc] at hwrite
    | crc16 =>
      have hcrc : (crc16Ccitt covered).toUInt64.toNat = (Crc.hash crc16Poly covered).toNat :=
        (UInt16.toNat_toUInt64 _).trans (congrArg BitVec.toNat (crc16Ccitt_eq covered))
      have hwrite := hbuilder.bits (crc16Ccitt covered).toUInt64 (show 16 ≤ 64 by omega)
      rwa [hcrc] at hwrite
    | crc24q =>
      have hcrc : (crc24q covered).toUInt64.toNat = (Crc.hash crc24qPoly covered).toNat :=
        (UInt32.toNat_toUInt64 _).trans (crc24q_eq covered)
      have hwrite := hbuilder.bits (crc24q covered).toUInt64 (show 24 ≤ 64 by omega)
      rwa [hcrc] at hwrite
  refine ⟨covered, hrange, ?_⟩
  have hdata := hwritten.data
  have hpad : (8 - (ofNat 8 0x73 ++ message.body ++ ofNat (8 * message.mCrcType.size)
      (messageCrc message.mCrcType covered)).length % 8) % 8 = 0 := by
    rw [List.length_append, List.length_append, length_ofNat, length_ofNat]
    omega
  rw [hpad, List.replicate_zero, List.append_nil, List.append_assoc] at hdata
  rw [Message.build, if_neg (by omega)]
  dsimp only
  rw [← hcovered, hdata]

/-! ### A receiver -/

/-- What a receiver reads of a frame. -/
structure Frame where
  messageType : ℕ
  payloadLength : ℕ
  crcType : ℕ
  frameCrc : ℕ
  subtype : ℕ
  timeTag : ℕ
  solutionId : ℕ
  solutionProcessorId : ℕ
  payload : List UInt8
  messageCrc : ℕ

/-- The payload and the message CRC; a CRC has 8, 16, 24 or 32 bits. -/
def readPayload (payloadLength crcType : ℕ) : Reader (List UInt8 × ℕ) := do
  let payload ← Reader.forEach (fun _ => Reader.nat 8) (List.replicate payloadLength ())
  let messageCrc ← Reader.nat (8 * (crcType + 1))
  return (payload.map (·.toUInt8), messageCrc)

/-- The fields of an unencrypted frame, in their order. -/
def readFrame : Reader Frame := do
  let preamble ← Reader.nat 8
  let messageType ← Reader.nat 7
  let payloadLength ← Reader.nat 10
  let encrypted ← Reader.nat 1
  let crcType ← Reader.nat 2
  let frameCrc ← Reader.nat 4
  let subtype ← Reader.nat 4
  let fullTime ← Reader.nat 1
  let timeTag ← Reader.nat (if fullTime = 1 then 32 else 16)
  let solutionId ← Reader.nat 7
  let solutionProcessorId ← Reader.nat 4
  if preamble = 0x73 ∧ encrypted = 0 then do
    let rest ← readPayload payloadLength crcType
    return ⟨messageType, payloadLength, crcType, frameCrc, subtype, timeTag, solutionId,
      solutionProcessorId, rest.1, rest.2⟩
  else failure

/-- The bytes are one frame. -/
def parse (bytes : List UInt8) : Option Frame :=
  match readFrame (bytesBits bytes) with
  | some (frame, []) => some frame
  | some (_, _ :: _) | none => none

/-- The header and the bytes that the message CRC is for, in the bytes of a frame. -/
def headerOf (bytes : List UInt8) : List Bool := ((bytesBits bytes).drop 8).take 20

def coveredOf (bytes : List UInt8) (crcType : CrcType) : List UInt8 :=
  (bytes.drop 1).take (bytes.length - 1 - crcType.size)

theorem reads_payload (payload : List UInt8) (crcType : CrcType) (messageCrc : ℕ) :
    Reads (readPayload payload.length crcType.code)
      (bytesBits payload ++ ofNat (8 * crcType.size) messageCrc)
      (payload, messageCrc % 2 ^ (8 * crcType.size)) := by
  have hsize : crcType.size = crcType.code + 1 := by cases crcType <;> rfl
  have hbytes : Reads (Reader.forEach (fun _ => Reader.nat 8) (payload.map fun _ => ()))
      (payload.flatMap byteBits) (payload.map fun b => b.toNat % 2 ^ 8) :=
    Reads.forEach _ fun b _ => Reads.nat 8 b.toNat
  rw [List.map_const'] at hbytes
  have hall := hbytes.bind (k := fun payload => Reader.nat (8 * crcType.size) >>=
    fun messageCrc => pure (payload.map (·.toUInt8), messageCrc))
    ((Reads.nat (8 * crcType.size) messageCrc).bind (Reads.pure _))
  have hpayload : (payload.map fun b : UInt8 => b.toNat % 2 ^ 8).map (·.toUInt8) = payload := by
    rw [List.map_map]
    refine (List.map_congr_left fun b _ => ?_).trans (List.map_id payload)
    simp
  rw [hpayload, List.append_nil] at hall
  rw [readPayload, ← hsize]
  exact hall

/-- What a receiver makes of the bits of a frame. -/
theorem reads_frame (message : Message) (h : message.mPayload.length ≤ 1023) (messageCrc : ℕ) :
    Reads readFrame
      (ofNat 8 0x73 ++ (message.body ++ ofNat (8 * message.mCrcType.size) messageCrc))
      { messageType := message.mMessageType.toNat % 2 ^ 7
        payloadLength := message.mPayload.length
        crcType := message.mCrcType.code
        frameCrc := frameCrc message.header
        subtype := message.mMessageSubtype.toNat % 2 ^ 4
        timeTag := message.mMessageTime.toNat
        solutionId := message.mSolutionId.toNat % 2 ^ 7
        solutionProcessorId := message.mSolutionProcessorId.toNat % 2 ^ 4
        payload := message.mPayload
        messageCrc := messageCrc % 2 ^ (8 * message.mCrcType.size) } := by
  have hlength : message.mPayload.length % 2 ^ 10 = message.mPayload.length :=
    Nat.mod_eq_of_lt (by omega)
  have hcode : message.mCrcType.code % 2 ^ 2 = message.mCrcType.code := by
    cases message.mCrcType <;> rfl
  have hcrc : frameCrc message.header % 2 ^ 4 = frameCrc message.header :=
    Nat.mod_eq_of_lt (Crc.bitHash crc4Poly (reflected message.header)).reverse.isLt
  have htime : message.mMessageTime.toNat % 2 ^ 32 = message.mMessageTime.toNat :=
    Nat.mod_eq_of_lt message.mMessageTime.toNat_lt
  have hpayload := reads_payload message.mPayload message.mCrcType messageCrc
  simp only [Message.body, Message.header, Message.description, List.append_assoc] at hcrc ⊢
  refine (Reads.nat 8 0x73).bind ((Reads.nat 7 _).bind ((Reads.nat 10 _).bind
    ((Reads.nat 1 0).bind ((Reads.nat 2 _).bind ((Reads.nat 4 _).bind ((Reads.nat 4 _).bind
    ((Reads.nat 1 1).bind ((Reads.nat 32 _).bind ((Reads.nat 7 _).bind
    ((Reads.nat 4 _).bind ?_))))))))))
  rw [if_pos ⟨rfl, rfl⟩, hlength, hcode, hcrc, htime]
  rw [← List.append_nil (bytesBits message.mPayload ++ _)]
  exact hpayload.bind (Reads.pure _)

/-! ### The round trip -/

/-- A receiver gets the message back, and both checksums are right; a payload that is too long
never yields a frame. -/
def RoundTrips (message : Message) : Prop :=
  if message.mPayload.length ≤ 1023 then
    ∃ frame, parse message.build = some frame ∧
      frame.messageType = message.mMessageType.toNat ∧
      frame.payloadLength = message.mPayload.length ∧
      frame.crcType = message.mCrcType.code ∧
      frame.subtype = message.mMessageSubtype.toNat ∧
      frame.timeTag = message.mMessageTime.toNat ∧
      frame.payload = message.mPayload ∧
      frame.frameCrc = frameCrc (headerOf message.build) ∧
      frame.messageCrc = messageCrc message.mCrcType (coveredOf message.build message.mCrcType)
  else message.build = []

theorem messageCrc_lt (crcType : CrcType) (data : List UInt8) :
    messageCrc crcType data < 2 ^ (8 * crcType.size) := by
  cases crcType with
  | crc8 => exact (Crc.hash crc8Poly data).isLt
  | crc16 => exact (Crc.hash crc16Poly data).isLt
  | crc24q => exact (Crc.hash crc24qPoly data).isLt

/-- A frame is parsed, whatever its type and subtype: these are cut to their fields. -/
theorem parse_build (message : Message) (h : message.mPayload.length ≤ 1023) :
    parse message.build = some
      { messageType := message.mMessageType.toNat % 2 ^ 7
        payloadLength := message.mPayload.length
        crcType := message.mCrcType.code
        frameCrc := frameCrc (headerOf message.build)
        subtype := message.mMessageSubtype.toNat % 2 ^ 4
        timeTag := message.mMessageTime.toNat
        solutionId := message.mSolutionId.toNat % 2 ^ 7
        solutionProcessorId := message.mSolutionProcessorId.toNat % 2 ^ 4
        payload := message.mPayload
        messageCrc := messageCrc message.mCrcType
          (coveredOf message.build message.mCrcType) } := by
  obtain ⟨covered, hcovered, hbuild⟩ := message.build_bits h
  have hheader : headerOf message.build = message.header := by
    rw [headerOf, hbuild, List.drop_left' (length_ofNat ..), Message.body, List.append_assoc,
      List.append_assoc, List.append_assoc, List.take_left' message.length_header]
  have hlength := congrArg List.length hbuild
  have hcoveredLength := congrArg List.length hcovered
  rw [length_bytesBits, List.length_append, List.length_append, length_ofNat, length_ofNat]
    at hlength
  rw [length_bytesBits] at hcoveredLength
  have hcover : coveredOf message.build message.mCrcType = covered := by
    have hsplit : bytesBits (message.build.take 1) ++ bytesBits (message.build.drop 1) =
        bytesBits message.build := by
      rw [← bytesBits_append, List.take_append_drop]
    rw [hbuild] at hsplit
    have hdrop := (List.append_inj hsplit (by
      rw [length_bytesBits, List.length_take, length_ofNat]
      omega)).2
    have hcount : 8 * (message.build.length - 1 - message.mCrcType.size) =
        message.body.length := by omega
    apply bytesBits_injective
    rw [coveredOf, bytesBits_take, hcount, hdrop, List.take_left, hcovered]
  have hread := reads_frame message h (messageCrc message.mCrcType covered) []
  rw [List.append_nil, ← hbuild] at hread
  rw [parse, hread, hheader, hcover, Nat.mod_eq_of_lt (messageCrc_lt ..)]

/-- **The transport frame round trip.**  It fails only for a type that is not below 128 or a
subtype that is not below 16, which do not fit their fields. -/
theorem roundTrips_iff (message : Message) : RoundTrips message ↔
    1023 < message.mPayload.length ∨
      (message.mMessageType.toNat < 128 ∧ message.mMessageSubtype.toNat < 16) := by
  have htype := message.mMessageType.toNat_lt
  have hsubtype := message.mMessageSubtype.toNat_lt
  unfold RoundTrips
  split_ifs with h
  · have hparse := parse_build message h
    constructor
    · rintro ⟨frame, hframe, hmessageType, -, -, hsub, -⟩
      rw [hparse, Option.some.injEq] at hframe
      subst hframe
      dsimp only at hmessageType hsub
      right
      omega
    · intro hfits
      exact ⟨_, hparse, Nat.mod_eq_of_lt (by omega), rfl, rfl, Nat.mod_eq_of_lt (by omega), rfl,
        rfl, rfl, rfl⟩
  · refine iff_of_true ?_ (Or.inl (by omega))
    rw [Message.build, if_pos (by omega)]

/-- A type of 128 comes back as 0. -/
theorem type_128_does_not_round_trip :
    ¬ RoundTrips ⟨128, 0, 0, [], .crc16, 0, 0⟩ := by
  rintro ⟨frame, hframe, htype, -⟩
  rw [parse_build _ (by decide), Option.some.injEq] at hframe
  subst hframe
  exact absurd htype (by decide)

end SuplLpp.Spartn
