import SuplLpp.Lib.Cursor

/-!
# `msgpack::Packer` and `msgpack::Unpacker`

The packer appends the shortest form of a value to its buffer; each function below gives the
bytes it appends.  The unpacker is a cursor over the bytes.  A `float` and a `double` stand for
their bit patterns, which is what both sides copy.

* `packInt`, `packUint`, `packStr`, `packBin`, `packArrayHeader`, `packMapHeader` and their
  counterparts, as the code has them;
* `reads_int`, `reads_uint`, …: each unpacker reads every form that its packer may choose.
-/

namespace SuplLpp.Msgpack

open Reader

/-- A reader over bytes. -/
abbrev Unpacker (α : Type) := Reader UInt8 α

/-! ### Numbers of several bytes -/

def writeUint16 (value : UInt16) : List UInt8 := [(value >>> 8).toUInt8, value.toUInt8]

def writeUint32 (value : UInt32) : List UInt8 :=
  [(value >>> 24).toUInt8, (value >>> 16).toUInt8, (value >>> 8).toUInt8, value.toUInt8]

def writeUint64 (value : UInt64) : List UInt8 :=
  writeUint32 (value >>> 32).toUInt32 ++ writeUint32 (value &&& 0xFFFFFFFF).toUInt32

def readByte : Unpacker UInt8 := one

def readBytes (length : ℕ) : Unpacker (List UInt8) := take length

/-- The number with the bytes as digits, the highest first. -/
def bigEndian (bytes : List UInt8) : ℕ := bytes.foldl (fun n byte => n * 256 + byte.toNat) 0

def readUint16 : Unpacker UInt16 := (readBytes 2).map fun data => UInt16.ofNat (bigEndian data)

def readUint32 : Unpacker UInt32 := (readBytes 4).map fun data => UInt32.ofNat (bigEndian data)

def readUint64 : Unpacker UInt64 :=
  readUint32.bind fun high =>
    readUint32.map fun low => high.toUInt64 <<< 32 ||| low.toUInt64

theorem bigEndian_writeUint16 (value : UInt16) :
    UInt16.ofNat (bigEndian (writeUint16 value)) = value := by
  have hlt := value.toNat_lt
  have hnat : bigEndian (writeUint16 value) = value.toNat := by
    simp only [bigEndian, writeUint16, List.foldl_cons, List.foldl_nil, UInt16.toNat_toUInt8,
      UInt16.toNat_shiftRight, UInt16.reduceToNat, Nat.reduceMod, Nat.shiftRight_eq_div_pow]
    omega
  rw [hnat, UInt16.ofNat_toNat]

theorem bigEndian_writeUint32 (value : UInt32) :
    UInt32.ofNat (bigEndian (writeUint32 value)) = value := by
  have hlt := value.toNat_lt
  have hnat : bigEndian (writeUint32 value) = value.toNat := by
    simp only [bigEndian, writeUint32, List.foldl_cons, List.foldl_nil, UInt32.toNat_toUInt8,
      UInt32.toNat_shiftRight, UInt32.reduceToNat, Nat.reduceMod, Nat.shiftRight_eq_div_pow]
    omega
  rw [hnat, UInt32.ofNat_toNat]

theorem reads_uint16 (value : UInt16) : Reads readUint16 (writeUint16 value) value := by
  have h := (reads_take (writeUint16 value)).map fun data => UInt16.ofNat (bigEndian data)
  rwa [bigEndian_writeUint16] at h

theorem reads_uint32 (value : UInt32) : Reads readUint32 (writeUint32 value) value := by
  have h := (reads_take (writeUint32 value)).map fun data => UInt32.ofNat (bigEndian data)
  rwa [bigEndian_writeUint32] at h

theorem high_or_low (value : UInt64) :
    (value >>> 32).toUInt32.toUInt64 <<< 32 ||| (value &&& 0xFFFFFFFF).toUInt32.toUInt64 =
      value := by
  have hlt := value.toNat_lt
  have h32 : UInt64.toNat 32 % 64 = 32 := rfl
  have hmask : UInt64.toNat 0xFFFFFFFF = 2 ^ 32 - 1 := rfl
  have hor := Nat.two_pow_add_eq_or_of_lt (i := 32) (b := value.toNat % 2 ^ 32)
    (Nat.mod_lt _ (by norm_num)) (value.toNat / 2 ^ 32)
  apply UInt64.toNat_inj.1
  rw [UInt64.toNat_or, UInt64.toNat_shiftLeft, UInt32.toNat_toUInt64, UInt32.toNat_toUInt64,
    UInt64.toNat_toUInt32, UInt64.toNat_toUInt32, UInt64.toNat_shiftRight, UInt64.toNat_and,
    h32, hmask, Nat.and_two_pow_sub_one_eq_mod, Nat.shiftLeft_eq, Nat.shiftRight_eq_div_pow,
    Nat.mod_mod, Nat.mod_eq_of_lt (show value.toNat / 2 ^ 32 < 2 ^ 32 by omega),
    Nat.mod_eq_of_lt (show value.toNat / 2 ^ 32 * 2 ^ 32 < 2 ^ 64 by omega), Nat.mul_comm, ← hor]
  omega

theorem reads_uint64 (value : UInt64) : Reads readUint64 (writeUint64 value) value := by
  have hlow := (reads_uint32 (value &&& 0xFFFFFFFF).toUInt32).map fun low =>
    (value >>> 32).toUInt32.toUInt64 <<< 32 ||| low.toUInt64
  rw [high_or_low] at hlow
  exact (reads_uint32 (value >>> 32).toUInt32).bind hlow

/-! ### Packer -/

def packNil : List UInt8 := [0xc0]

def packBool (value : Bool) : List UInt8 := [if value then 0xc3 else 0xc2]

def packUint (value : UInt64) : List UInt8 :=
  if value ≤ 0x7f then [value.toUInt8]
  else if value ≤ 0xFF then [0xcc, value.toUInt8]
  else if value ≤ 0xFFFF then 0xcd :: writeUint16 value.toUInt16
  else if value ≤ 0xFFFFFFFF then 0xce :: writeUint32 value.toUInt32
  else 0xcf :: writeUint64 value

def packInt (value : Int64) : List UInt8 :=
  if value ≥ 0 then packUint value.toUInt64
  else if value ≥ -32 then [value.toUInt64.toUInt8]
  else if value ≥ -128 then [0xd0, value.toUInt64.toUInt8]
  else if value ≥ -32768 then 0xd1 :: writeUint16 value.toUInt64.toUInt16
  else if value ≥ -2147483648 then 0xd2 :: writeUint32 value.toUInt64.toUInt32
  else 0xd3 :: writeUint64 value.toUInt64

/-- `pack_float`, of the bits of the value. -/
def packFloat (bits : UInt32) : List UInt8 := 0xca :: writeUint32 bits

/-- `pack_double`, of the bits of the value. -/
def packDouble (bits : UInt64) : List UInt8 := 0xcb :: writeUint64 bits

/-- The header of a string. -/
def strHeader (length : UInt32) : List UInt8 :=
  if length ≤ 31 then [0xa0 ||| length.toUInt8]
  else if length ≤ 0xFF then [0xd9, length.toUInt8]
  else if length ≤ 0xFFFF then 0xda :: writeUint16 length.toUInt16
  else 0xdb :: writeUint32 length

/-- The header of a byte string. -/
def binHeader (length : UInt32) : List UInt8 :=
  if length ≤ 0xFF then [0xc4, length.toUInt8]
  else if length ≤ 0xFFFF then 0xc5 :: writeUint16 length.toUInt16
  else 0xc6 :: writeUint32 length

/-- `pack_str` of `length` bytes at `data`. -/
def packStr (data : List UInt8) (length : UInt32) : List UInt8 :=
  strHeader length ++ data.take length.toNat

/-- `pack_bin` of `length` bytes at `data`. -/
def packBin (data : List UInt8) (length : UInt32) : List UInt8 :=
  binHeader length ++ data.take length.toNat

def packArrayHeader (size : UInt32) : List UInt8 :=
  if size ≤ 15 then [0x90 ||| size.toUInt8]
  else if size ≤ 0xFFFF then 0xdc :: writeUint16 size.toUInt16
  else 0xdd :: writeUint32 size

def packMapHeader (size : UInt32) : List UInt8 :=
  if size ≤ 15 then [0x80 ||| size.toUInt8]
  else if size ≤ 0xFFFF then 0xde :: writeUint16 size.toUInt16
  else 0xdf :: writeUint32 size

/-! ### Unpacker -/

def unpackNil : Unpacker Unit :=
  readByte.bind fun byte => if byte = 0xc0 then pure () else fail

def unpackBool : Unpacker Bool :=
  readByte.bind fun byte =>
    if byte = 0xc2 then pure false
    else if byte = 0xc3 then pure true
    else fail

def unpackInt : Unpacker Int64 :=
  readByte.bind fun byte =>
    if byte &&& 0x80 = 0 then pure byte.toUInt64.toInt64
    else if byte &&& 0xe0 = 0xe0 then pure byte.toInt8.toInt64
    else if byte = 0xcc then readByte.map fun tmp => tmp.toUInt64.toInt64
    else if byte = 0xcd then readUint16.map fun tmp => tmp.toUInt64.toInt64
    else if byte = 0xce then readUint32.map fun tmp => tmp.toUInt64.toInt64
    else if byte = 0xcf then readUint64.map fun tmp => tmp.toInt64
    else if byte = 0xd0 then readByte.map fun tmp => tmp.toInt8.toInt64
    else if byte = 0xd1 then readUint16.map fun tmp => tmp.toInt16.toInt64
    else if byte = 0xd2 then readUint32.map fun tmp => tmp.toInt32.toInt64
    else if byte = 0xd3 then readUint64.map fun tmp => tmp.toInt64
    else fail

def unpackUint : Unpacker UInt64 :=
  readByte.bind fun byte =>
    if byte &&& 0x80 = 0 then pure byte.toUInt64
    else if byte = 0xcc then readByte.map fun tmp => tmp.toUInt64
    else if byte = 0xcd then readUint16.map fun tmp => tmp.toUInt64
    else if byte = 0xce then readUint32.map fun tmp => tmp.toUInt64
    else if byte = 0xcf then readUint64
    else fail

def unpackFloat : Unpacker UInt32 :=
  readByte.bind fun byte => if byte ≠ 0xca then fail else readUint32

def unpackDouble : Unpacker UInt64 :=
  readByte.bind fun byte => if byte ≠ 0xcb then fail else readUint64

/-- The part of `unpack_str` that finds the length. -/
def strLength : Unpacker UInt32 :=
  readByte.bind fun byte =>
    if byte &&& 0xe0 = 0xa0 then pure (byte &&& 0x1f).toUInt32
    else if byte = 0xd9 then readByte.map fun len => len.toUInt32
    else if byte = 0xda then readUint16.map fun len => len.toUInt32
    else if byte = 0xdb then readUint32
    else fail

def unpackStr : Unpacker (List UInt8) :=
  strLength.bind fun length => readBytes length.toNat

/-- The part of `unpack_bin` that finds the length. -/
def binLength : Unpacker UInt32 :=
  readByte.bind fun byte =>
    if byte = 0xc4 then readByte.map fun len => len.toUInt32
    else if byte = 0xc5 then readUint16.map fun len => len.toUInt32
    else if byte = 0xc6 then readUint32
    else fail

def unpackBin : Unpacker (List UInt8) :=
  binLength.bind fun length => readBytes length.toNat

def unpackArrayHeader : Unpacker UInt32 :=
  readByte.bind fun byte =>
    if byte &&& 0xf0 = 0x90 then pure (byte &&& 0x0f).toUInt32
    else if byte = 0xdc then readUint16.map fun tmp => tmp.toUInt32
    else if byte = 0xdd then readUint32
    else fail

def unpackMapHeader : Unpacker UInt32 :=
  readByte.bind fun byte =>
    if byte &&& 0xf0 = 0x80 then pure (byte &&& 0x0f).toUInt32
    else if byte = 0xde then readUint16.map fun tmp => tmp.toUInt32
    else if byte = 0xdf then readUint32
    else fail

/-! ### What the unpacker reads -/

/-- A reader that looks at one byte first. -/
theorem reads_byte_bind {α : Type} {f : UInt8 → Unpacker α} {byte : UInt8} {bytes : List UInt8}
    {a : α} (h : Reads (f byte) bytes a) : Reads (readByte.bind f) (byte :: bytes) a :=
  (reads_one byte).bind h

theorem reads_nil : Reads unpackNil packNil () :=
  reads_byte_bind (reads_pure ())

theorem reads_bool (value : Bool) : Reads unpackBool (packBool value) value := by
  cases value with
  | true => exact reads_byte_bind (reads_pure true)
  | false => exact reads_byte_bind (reads_pure false)

/-- The bytes of a positive fixint. -/
theorem fixint_byte (byte : UInt8) (h : byte.toNat < 128) : byte &&& 0x80 = 0 := by
  have hall : ∀ n : Fin 128, UInt8.ofNat n.val &&& 0x80 = 0 := by decide
  simpa using hall ⟨byte.toNat, h⟩

/-- The bytes of a negative fixint. -/
theorem negative_fixint_byte (byte : UInt8) (h : 224 ≤ byte.toNat) :
    byte &&& 0x80 ≠ 0 ∧ byte &&& 0xe0 = 0xe0 := by
  have hall : ∀ n : Fin 32, UInt8.ofNat (n.val + 224) &&& 0x80 ≠ 0 ∧
      UInt8.ofNat (n.val + 224) &&& 0xe0 = 0xe0 := by decide
  have hlt := byte.toNat_lt
  have hn := hall ⟨byte.toNat - 224, by omega⟩
  simp only [Nat.sub_add_cancel h, UInt8.ofNat_toNat] at hn
  exact hn

section Narrow

variable {value : UInt64}

theorem toUInt64_toUInt8_of_le (h : value ≤ 0xFF) : value.toUInt8.toUInt64 = value := by
  simp only [UInt64.le_iff_toNat_le, UInt64.reduceToNat] at h
  apply UInt64.toNat_inj.1
  rw [UInt8.toNat_toUInt64, UInt64.toNat_toUInt8]
  omega

theorem toUInt64_toUInt16_of_le (h : value ≤ 0xFFFF) : value.toUInt16.toUInt64 = value := by
  simp only [UInt64.le_iff_toNat_le, UInt64.reduceToNat] at h
  apply UInt64.toNat_inj.1
  rw [UInt16.toNat_toUInt64, UInt64.toNat_toUInt16]
  omega

theorem toUInt64_toUInt32_of_le (h : value ≤ 0xFFFFFFFF) : value.toUInt32.toUInt64 = value := by
  simp only [UInt64.le_iff_toNat_le, UInt64.reduceToNat] at h
  apply UInt64.toNat_inj.1
  rw [UInt32.toNat_toUInt64, UInt64.toNat_toUInt32]
  omega

theorem fixint_toUInt8 (h : value ≤ 0x7f) : value.toUInt8 &&& 0x80 = 0 := by
  simp only [UInt64.le_iff_toNat_le, UInt64.reduceToNat] at h
  apply fixint_byte
  rw [UInt64.toNat_toUInt8]
  omega

end Narrow

theorem le_FF_of_le_7f {value : UInt64} (h : value ≤ 0x7f) : value ≤ 0xFF :=
  UInt64.le_trans h (by decide)

theorem reads_uint (value : UInt64) : Reads unpackUint (packUint value) value := by
  unfold packUint
  split_ifs with h7f hff hffff hffffffff
  · refine reads_byte_bind ?_
    rw [if_pos (fixint_toUInt8 h7f), toUInt64_toUInt8_of_le (le_FF_of_le_7f h7f)]
    exact reads_pure value
  · exact reads_byte_bind ((reads_one value.toUInt8).map_eq (toUInt64_toUInt8_of_le hff))
  · exact reads_byte_bind ((reads_uint16 value.toUInt16).map_eq (toUInt64_toUInt16_of_le hffff))
  · exact reads_byte_bind ((reads_uint32 value.toUInt32).map_eq (toUInt64_toUInt32_of_le hffffffff))
  · exact reads_byte_bind (reads_uint64 value)

/-- A signed number may have been written by `pack_uint`. -/
theorem reads_int_of_uint (value : UInt64) :
    Reads unpackInt (packUint value) value.toInt64 := by
  unfold packUint
  split_ifs with h7f hff hffff hffffffff
  · refine reads_byte_bind ?_
    rw [if_pos (fixint_toUInt8 h7f), toUInt64_toUInt8_of_le (le_FF_of_le_7f h7f)]
    exact reads_pure value.toInt64
  · exact reads_byte_bind
      ((reads_one value.toUInt8).map_eq (congrArg UInt64.toInt64 (toUInt64_toUInt8_of_le hff)))
  · exact reads_byte_bind
      ((reads_uint16 value.toUInt16).map_eq
        (congrArg UInt64.toInt64 (toUInt64_toUInt16_of_le hffff)))
  · exact reads_byte_bind
      ((reads_uint32 value.toUInt32).map_eq
        (congrArg UInt64.toInt64 (toUInt64_toUInt32_of_le hffffffff)))
  · exact reads_byte_bind ((reads_uint64 value).map UInt64.toInt64)

/-! ### Signed numbers -/

theorem toNat_toUInt64_of_neg {value : Int64} (h : value.toInt < 0) :
    (value.toUInt64.toNat : ℤ) = value.toInt + 2 ^ 64 := by
  have hcond := BitVec.toInt_eq_toNat_cond value.toBitVec
  have hint : value.toBitVec.toInt = value.toInt := rfl
  have hnat : value.toBitVec.toNat = value.toUInt64.toNat := rfl
  rw [hint, hnat] at hcond
  split_ifs at hcond <;> omega

theorem toInt_toInt8 (byte : UInt8) :
    byte.toInt8.toInt =
      if 2 * byte.toNat < 2 ^ 8 then (byte.toNat : ℤ) else byte.toNat - 2 ^ 8 := by
  exact_mod_cast BitVec.toInt_eq_toNat_cond byte.toInt8.toBitVec

theorem toInt_toInt16 (word : UInt16) :
    word.toInt16.toInt =
      if 2 * word.toNat < 2 ^ 16 then (word.toNat : ℤ) else word.toNat - 2 ^ 16 := by
  exact_mod_cast BitVec.toInt_eq_toNat_cond word.toInt16.toBitVec

theorem toInt_toInt32 (word : UInt32) :
    word.toInt32.toInt =
      if 2 * word.toNat < 2 ^ 32 then (word.toNat : ℤ) else word.toNat - 2 ^ 32 := by
  exact_mod_cast BitVec.toInt_eq_toNat_cond word.toInt32.toBitVec

section Signed

variable {value : Int64}

theorem toInt8_narrow (hneg : value.toInt < 0) (h : -128 ≤ value.toInt) :
    value.toUInt64.toUInt8.toInt8.toInt64 = value := by
  have hnat := toNat_toUInt64_of_neg hneg
  apply Int64.toInt_inj.1
  rw [Int8.toInt_toInt64, toInt_toInt8, UInt64.toNat_toUInt8]
  split_ifs <;> omega

theorem toInt16_narrow (hneg : value.toInt < 0) (h : -32768 ≤ value.toInt) :
    value.toUInt64.toUInt16.toInt16.toInt64 = value := by
  have hnat := toNat_toUInt64_of_neg hneg
  apply Int64.toInt_inj.1
  rw [Int16.toInt_toInt64, toInt_toInt16, UInt64.toNat_toUInt16]
  split_ifs <;> omega

theorem toInt32_narrow (hneg : value.toInt < 0) (h : -2147483648 ≤ value.toInt) :
    value.toUInt64.toUInt32.toInt32.toInt64 = value := by
  have hnat := toNat_toUInt64_of_neg hneg
  apply Int64.toInt_inj.1
  rw [Int32.toInt_toInt64, toInt_toInt32, UInt64.toNat_toUInt32]
  split_ifs <;> omega

end Signed

theorem reads_int (value : Int64) : Reads unpackInt (packInt value) value := by
  have hneg : ¬value ≥ 0 → value.toInt < 0 := by
    intro h
    have := Int64.le_iff_toInt_le.not.1 h
    rw [Int64.toInt_zero] at this
    omega
  unfold packInt
  split_ifs with h0 h32 h128 h32768 h2147483648
  · have h := reads_int_of_uint value.toUInt64
    rwa [Int64.toInt64_toUInt64] at h
  · have hge : -32 ≤ value.toInt := Int64.le_iff_toInt_le.1 h32
    have hlt := hneg h0
    have hnat := toNat_toUInt64_of_neg hlt
    obtain ⟨h80, he0⟩ := negative_fixint_byte value.toUInt64.toUInt8 (by
      rw [UInt64.toNat_toUInt8]
      omega)
    refine reads_byte_bind ?_
    rw [if_neg h80, if_pos he0, toInt8_narrow (hneg h0) (by omega)]
    exact reads_pure value
  · have hge : -128 ≤ value.toInt := Int64.le_iff_toInt_le.1 h128
    exact reads_byte_bind
      ((reads_one value.toUInt64.toUInt8).map_eq (toInt8_narrow (hneg h0) hge))
  · have hge : -32768 ≤ value.toInt := Int64.le_iff_toInt_le.1 h32768
    exact reads_byte_bind
      ((reads_uint16 value.toUInt64.toUInt16).map_eq (toInt16_narrow (hneg h0) hge))
  · have hge : -2147483648 ≤ value.toInt := Int64.le_iff_toInt_le.1 h2147483648
    exact reads_byte_bind
      ((reads_uint32 value.toUInt64.toUInt32).map_eq (toInt32_narrow (hneg h0) hge))
  · exact reads_byte_bind ((reads_uint64 value.toUInt64).map_eq (Int64.toInt64_toUInt64 value))

theorem reads_float (bits : UInt32) : Reads unpackFloat (packFloat bits) bits :=
  reads_byte_bind (reads_uint32 bits)

theorem reads_double (bits : UInt64) : Reads unpackDouble (packDouble bits) bits :=
  reads_byte_bind (reads_uint64 bits)

/-! ### Lengths -/

section Lengths

variable {length : UInt32}

theorem toUInt32_toUInt8_of_le (h : length ≤ 0xFF) : length.toUInt8.toUInt32 = length := by
  simp only [UInt32.le_iff_toNat_le, UInt32.reduceToNat] at h
  apply UInt32.toNat_inj.1
  rw [UInt8.toNat_toUInt32, UInt32.toNat_toUInt8]
  omega

theorem toUInt32_toUInt16_of_le (h : length ≤ 0xFFFF) : length.toUInt16.toUInt32 = length := by
  simp only [UInt32.le_iff_toNat_le, UInt32.reduceToNat] at h
  apply UInt32.toNat_inj.1
  rw [UInt16.toNat_toUInt32, UInt32.toNat_toUInt16]
  omega

/-- A length of at most five bits survives in the first byte of a string. -/
theorem fixstr_byte (h : length ≤ 31) :
    (0xa0 ||| length.toUInt8) &&& 0xe0 = 0xa0 ∧
      ((0xa0 ||| length.toUInt8) &&& 0x1f).toUInt32 = length := by
  have hall : ∀ n : Fin 32, (0xa0 ||| UInt8.ofNat n.val) &&& 0xe0 = 0xa0 ∧
      ((0xa0 ||| UInt8.ofNat n.val) &&& 0x1f) = UInt8.ofNat n.val := by decide
  simp only [UInt32.le_iff_toNat_le, UInt32.reduceToNat] at h
  have hbyte : UInt8.ofNat length.toNat = length.toUInt8 := by
    apply UInt8.toNat_inj.1
    simp
  obtain ⟨hmark, hlow⟩ := hall ⟨length.toNat, by omega⟩
  rw [hbyte] at hmark hlow
  refine ⟨hmark, ?_⟩
  rw [hlow]
  exact toUInt32_toUInt8_of_le (UInt32.le_iff_toNat_le.2 (by simp only [UInt32.reduceToNat]; omega))

/-- A size of at most four bits survives in the first byte of an array or a map. -/
theorem fix_byte {mark : UInt8} (hmark : mark = 0x90 ∨ mark = 0x80) (h : length ≤ 15) :
    (mark ||| length.toUInt8) &&& 0xf0 = mark ∧
      ((mark ||| length.toUInt8) &&& 0x0f).toUInt32 = length := by
  have hall : ∀ n : Fin 16, ((0x90 ||| UInt8.ofNat n.val) &&& 0xf0 = 0x90 ∧
      (0x90 ||| UInt8.ofNat n.val) &&& 0x0f = UInt8.ofNat n.val) ∧
      ((0x80 ||| UInt8.ofNat n.val) &&& 0xf0 = 0x80 ∧
      (0x80 ||| UInt8.ofNat n.val) &&& 0x0f = UInt8.ofNat n.val) := by decide
  simp only [UInt32.le_iff_toNat_le, UInt32.reduceToNat] at h
  have hbyte : UInt8.ofNat length.toNat = length.toUInt8 := by
    apply UInt8.toNat_inj.1
    simp
  have hback : length.toUInt8.toUInt32 = length :=
    toUInt32_toUInt8_of_le (UInt32.le_iff_toNat_le.2 (by simp only [UInt32.reduceToNat]; omega))
  obtain ⟨⟨h90, h90low⟩, h80, h80low⟩ := hall ⟨length.toNat, by omega⟩
  rw [hbyte] at h90 h90low h80 h80low
  rcases hmark with rfl | rfl
  · exact ⟨h90, by rw [h90low, hback]⟩
  · exact ⟨h80, by rw [h80low, hback]⟩

end Lengths

theorem reads_strLength (length : UInt32) : Reads strLength (strHeader length) length := by
  unfold strHeader
  split_ifs with h31 hff hffff
  · obtain ⟨hmark, hlow⟩ := fixstr_byte h31
    refine reads_byte_bind ?_
    rw [if_pos hmark, hlow]
    exact reads_pure length
  · exact reads_byte_bind ((reads_one length.toUInt8).map_eq (toUInt32_toUInt8_of_le hff))
  · exact reads_byte_bind ((reads_uint16 length.toUInt16).map_eq (toUInt32_toUInt16_of_le hffff))
  · exact reads_byte_bind (reads_uint32 length)

theorem reads_binLength (length : UInt32) : Reads binLength (binHeader length) length := by
  unfold binHeader
  split_ifs with hff hffff
  · exact reads_byte_bind ((reads_one length.toUInt8).map_eq (toUInt32_toUInt8_of_le hff))
  · exact reads_byte_bind ((reads_uint16 length.toUInt16).map_eq (toUInt32_toUInt16_of_le hffff))
  · exact reads_byte_bind (reads_uint32 length)

theorem reads_arrayHeader (size : UInt32) :
    Reads unpackArrayHeader (packArrayHeader size) size := by
  unfold packArrayHeader
  split_ifs with h15 hffff
  · obtain ⟨hmark, hlow⟩ := fix_byte (Or.inl rfl) h15
    refine reads_byte_bind ?_
    rw [if_pos hmark, hlow]
    exact reads_pure size
  · exact reads_byte_bind ((reads_uint16 size.toUInt16).map_eq (toUInt32_toUInt16_of_le hffff))
  · exact reads_byte_bind (reads_uint32 size)

theorem reads_mapHeader (size : UInt32) : Reads unpackMapHeader (packMapHeader size) size := by
  unfold packMapHeader
  split_ifs with h15 hffff
  · obtain ⟨hmark, hlow⟩ := fix_byte (Or.inr rfl) h15
    refine reads_byte_bind ?_
    rw [if_pos hmark, hlow]
    exact reads_pure size
  · exact reads_byte_bind ((reads_uint16 size.toUInt16).map_eq (toUInt32_toUInt16_of_le hffff))
  · exact reads_byte_bind (reads_uint32 size)

/-- As many of the bytes as the length says. -/
theorem reads_str {data : List UInt8} {length : UInt32} (h : length.toNat ≤ data.length) :
    Reads unpackStr (packStr data length) (data.take length.toNat) := by
  have htake := reads_take (data.take length.toNat)
  rw [List.length_take, Nat.min_eq_left h] at htake
  exact (reads_strLength length).bind htake

theorem reads_bin {data : List UInt8} {length : UInt32} (h : length.toNat ≤ data.length) :
    Reads unpackBin (packBin data length) (data.take length.toNat) := by
  have htake := reads_take (data.take length.toNat)
  rw [List.length_take, Nat.min_eq_left h] at htake
  exact (reads_binLength length).bind htake

end SuplLpp.Msgpack
