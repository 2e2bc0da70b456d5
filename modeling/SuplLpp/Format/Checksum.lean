import SuplLpp.Lib.Remainder
import SuplLpp.Rtcm.Frame
import SuplLpp.Spartn.Transport

/-!
# The three implementations of CRC-24Q

The parser and the generator of RTCM frames each have a table, the builder of SPARTN messages goes
through the bits.  All compute the remainder modulo `0x1864CFB`.
-/

namespace SuplLpp.Format

open Polynomial

theorem parser_crc24qHash_eq (data : List UInt8) :
    Rtcm.crc24qHash data = SuplLpp.Rtcm.crc24qHash data := rfl

theorem spartn_crc24q_eq (data : List UInt8) :
    Spartn.crc24q data = SuplLpp.Rtcm.crc24qHash data := by
  apply UInt32.toNat_inj.mp
  rw [Spartn.crc24q_eq, SuplLpp.Rtcm.crc24qHash_toNat]
  rfl

/-- With its leading term the polynomial is the one of the source. -/
theorem generator_crc24qPoly :
    Crc.generator SuplLpp.Rtcm.crc24qPoly = Crc.ofBits (0x1864CFB : BitVec 25) := by
  rw [Crc.generator_eq_cons]
  rfl

/-- **CRC-24Q.**  The three checksums agree, and are the remainder of the message. -/
theorem crc24q_agree (data : List UInt8) :
    Rtcm.crc24qHash data = SuplLpp.Rtcm.crc24qHash data ∧
      Spartn.crc24q data = SuplLpp.Rtcm.crc24qHash data ∧
      Crc.ofBits (SuplLpp.Rtcm.crc24qHash data).toBitVec =
        (X ^ 24 * Crc.message data) %ₘ Crc.ofBits (0x1864CFB : BitVec 25) := by
  refine ⟨parser_crc24qHash_eq data, spartn_crc24q_eq data, ?_⟩
  rw [SuplLpp.Rtcm.crc24qHash_eq, Crc.ofBits_setWidth (by omega), Crc.ofBits_hash _ (by omega),
    generator_crc24qPoly]

end SuplLpp.Format
