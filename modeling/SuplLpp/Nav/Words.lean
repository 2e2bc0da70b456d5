import Mathlib.Data.Rat.Floor
import SuplLpp.Lib.Bits

/-!
# Navigation words

The bits of a navigation message, and the numbers that are read from them.

* `Words`, with `u8`, `u16` and `u32`: the number at an index;
* `signedTransform`, two's complement; `signedScale` and `unsignedScale`, by a power of two.

Numbers are exact; half a circle in radians is a parameter of what is decoded.
-/

namespace SuplLpp.Nav

/-- `Words`: `bit_count` bits. -/
abbrev Words := List Bool

namespace Words

variable (words : Words)

/-- Reading stops at the end. -/
def u64 (index length : ℕ) : ℕ := Bits.toNat ((words.drop index).take length)

def u32 (index length : ℕ) : ℕ := words.u64 index length % 2 ^ 32

def u16 (index length : ℕ) : ℕ := words.u64 index length % 2 ^ 16

def u8 (index length : ℕ) : ℕ := words.u64 index length % 2 ^ 8

def b1 (index : ℕ) : Bool := words.getD index false

end Words

/-! ### Scaling -/

/-- `signed_transform`: the sign bit is extended to 64 bits. -/
def signedTransform (bitLength value : ℕ) : ℤ :=
  if value.testBit (bitLength - 1) then
    (BitVec.ofNat 64 value ||| BitVec.allOnes 64 <<< bitLength).toInt
  else value

def signedScale (bitLength value : ℕ) (power : ℤ) : ℚ := signedTransform bitLength value * 2 ^ power

def unsignedScale (value : ℕ) (power : ℤ) : ℚ := value * 2 ^ power

/-- `static_cast<uint32_t>` of a number that is not negative. -/
def toUInt32 (x : ℚ) : ℕ := x.floor.toNat

end SuplLpp.Nav
