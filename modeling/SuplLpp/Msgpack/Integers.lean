import SuplLpp.Msgpack.Types

/-!
# Integers of msgpack

An integer stands in the bytes in one of ten forms.  The unpacker reads all of them into a number
of 64 bits and narrows this to the type that is asked for.

* `encodedInt`, the integer that bytes begin with, by the format;
* `IntTy`, the integer types, their ranges and the forms that their unpackers take;
* `unpack_eq`: what is read is the encoded integer, reduced to the type;
* `exact_iff`: it is the integer itself, or the unpacker fails, exactly if the type has it.
-/

namespace SuplLpp.Msgpack

open Reader

/-! ### The format -/

/-- An unsigned number of `n` bytes. -/
def unsigned (n : ℕ) (bytes : List UInt8) : Option ℕ :=
  if bytes.length < n then none else some (bigEndian (bytes.take n))

/-- The two's complement of `n` bytes. -/
def twosComplement (n v : ℕ) : ℤ := if 2 * v < 256 ^ n then v else v - 256 ^ n

/-- The integer at the start of the bytes. -/
def encodedInt : List UInt8 → Option ℤ
  | [] => none
  | byte :: bytes =>
    if byte.toNat < 128 then some byte.toNat
    else if 224 ≤ byte.toNat then some (byte.toNat - 256)
    else if byte = 0xcc then (unsigned 1 bytes).map (↑)
    else if byte = 0xcd then (unsigned 2 bytes).map (↑)
    else if byte = 0xce then (unsigned 4 bytes).map (↑)
    else if byte = 0xcf then (unsigned 8 bytes).map (↑)
    else if byte = 0xd0 then (unsigned 1 bytes).map (twosComplement 1)
    else if byte = 0xd1 then (unsigned 2 bytes).map (twosComplement 2)
    else if byte = 0xd2 then (unsigned 4 bytes).map (twosComplement 4)
    else if byte = 0xd3 then (unsigned 8 bytes).map (twosComplement 8)
    else none

/-! ### Bytes -/

theorem bigEndian_append (bytes : List UInt8) (byte : UInt8) :
    bigEndian (bytes ++ [byte]) = bigEndian bytes * 256 + byte.toNat := by
  unfold bigEndian
  rw [List.foldl_append, List.foldl_cons, List.foldl_nil]

theorem bigEndian_lt (bytes : List UInt8) : bigEndian bytes < 256 ^ bytes.length := by
  induction bytes using List.reverseRecOn with
  | nil => decide
  | append_singleton bytes byte ih =>
    have hbyte := byte.toNat_lt
    rw [bigEndian_append, List.length_append, List.length_singleton, pow_succ]
    omega

theorem bigEndian_append_append (high low : List UInt8) :
    bigEndian (high ++ low) = bigEndian high * 256 ^ low.length + bigEndian low := by
  induction low using List.reverseRecOn with
  | nil => simp [bigEndian]
  | append_singleton low byte ih =>
    rw [← List.append_assoc, bigEndian_append, bigEndian_append, ih, List.length_append,
      List.length_singleton, pow_succ]
    ring

theorem unsigned_lt {n v : ℕ} {bytes : List UInt8} (h : unsigned n bytes = some v) :
    v < 256 ^ n := by
  unfold unsigned at h
  split at h
  · cases h
  case isFalse hlength =>
    cases h
    have hlt := bigEndian_lt (bytes.take n)
    rwa [List.length_take, min_eq_left (by omega)] at hlt

/-! ### What is read from a cursor -/

section Reads

variable (c : Cursor UInt8)

theorem readByte_eq : (readByte c).1 = (unsigned 1 c.rest).map UInt8.ofNat := by
  unfold readByte one unsigned
  cases c.rest with
  | nil => rfl
  | cons byte bytes => simp [bigEndian]

theorem readByte_bind {α : Type} (f : UInt8 → Unpacker α) :
    (readByte.bind f c).1 = (c.rest.head?).bind fun byte => (f byte (c.advance 1)).1 := by
  unfold readByte one Reader.bind
  dsimp only
  cases c.rest <;> rfl

theorem map_fst {α β : Type} (f : α → β) (r : Unpacker α) : (r.map f c).1 = (r c).1.map f := by
  unfold Reader.map Reader.bind
  rcases r c with ⟨_ | a, c'⟩ <;> rfl

variable {c} (h : c.offset ≤ c.data.length)
include h

theorem readBytes_eq (n : ℕ) : readBytes n c =
    if c.rest.length < n then (none, c) else (some (c.rest.take n), c.advance n) := by
  unfold readBytes take
  have hlength : c.rest.length = c.data.length - c.offset := List.length_drop
  by_cases hshort : c.rest.length < n
  · rw [if_pos hshort, if_pos (by omega)]
  · rw [if_neg hshort, if_neg (by omega)]

theorem readUint16_eq : (readUint16 c).1 = (unsigned 2 c.rest).map UInt16.ofNat := by
  unfold readUint16 unsigned
  rw [map_fst, readBytes_eq h]
  split <;> rfl

theorem readUint32_eq : (readUint32 c).1 = (unsigned 4 c.rest).map UInt32.ofNat := by
  unfold readUint32 unsigned
  rw [map_fst, readBytes_eq h]
  split <;> rfl

end Reads

/-- A cursor in front of a byte can be moved behind it. -/
theorem offset_advance_le {c : Cursor UInt8} {byte : UInt8} {bytes : List UInt8}
    (h : c.rest = byte :: bytes) : (c.advance 1).offset ≤ (c.advance 1).data.length := by
  have hlength : c.rest.length = c.data.length - c.offset := List.length_drop
  rw [h, List.length_cons] at hlength
  show c.offset + 1 ≤ c.data.length
  omega

/-- The two halves of a word. -/
theorem word_of_halves {high low : ℕ} (hhigh : high < 2 ^ 32) (hlow : low < 2 ^ 32) :
    (UInt32.ofNat high).toUInt64 <<< 32 ||| (UInt32.ofNat low).toUInt64 =
      UInt64.ofNat (high * 2 ^ 32 + low) := by
  have h32 : UInt64.toNat 32 % 64 = 32 := rfl
  have hmask : UInt64.toNat 0xFFFFFFFF = 2 ^ 32 - 1 := rfl
  have hnat : (UInt64.ofNat (high * 2 ^ 32 + low)).toNat = high * 2 ^ 32 + low := by
    rw [UInt64.toNat_ofNat']
    omega
  have hupper : (UInt64.ofNat (high * 2 ^ 32 + low) >>> 32).toUInt32 = UInt32.ofNat high := by
    apply UInt32.toNat_inj.1
    rw [UInt64.toNat_toUInt32, UInt64.toNat_shiftRight, hnat, h32, Nat.shiftRight_eq_div_pow,
      UInt32.toNat_ofNat']
    omega
  have hlower : (UInt64.ofNat (high * 2 ^ 32 + low) &&& 0xFFFFFFFF).toUInt32 =
      UInt32.ofNat low := by
    apply UInt32.toNat_inj.1
    rw [UInt64.toNat_toUInt32, UInt64.toNat_and, hnat, hmask, Nat.and_two_pow_sub_one_eq_mod,
      UInt32.toNat_ofNat']
    omega
  rw [← hupper, ← hlower, high_or_low]

theorem readUint64_eq {c : Cursor UInt8} (h : c.offset ≤ c.data.length) :
    (readUint64 c).1 = (unsigned 8 c.rest).map UInt64.ofNat := by
  unfold readUint64 readUint32 Reader.map Reader.bind
  rw [readBytes_eq h]
  have hlength : c.rest.length = c.data.length - c.offset := List.length_drop
  by_cases hhigh : c.rest.length < 4
  · rw [if_pos hhigh, unsigned, if_pos (by omega)]
    rfl
  · rw [if_neg hhigh]
    have hadvance : (c.advance 4).offset ≤ (c.advance 4).data.length := by
      show c.offset + 4 ≤ c.data.length
      omega
    simp only [Reader.pure]
    rw [readBytes_eq hadvance, Cursor.rest_advance]
    by_cases hlow : (c.rest.drop 4).length < 4
    · rw [if_pos hlow, unsigned, if_pos (by rw [List.length_drop] at hlow; omega)]
      rfl
    · rw [if_neg hlow, unsigned, if_neg (by rw [List.length_drop] at hlow; omega)]
      have hsplit : c.rest.take 8 = c.rest.take 4 ++ (c.rest.drop 4).take 4 := by
        rw [← List.take_add]
      have hbound : ∀ bytes : List UInt8, bigEndian (bytes.take 4) < 2 ^ 32 := by
        intro bytes
        refine lt_of_lt_of_le (bigEndian_lt _) ?_
        exact (Nat.pow_le_pow_right (by omega) (List.length_take_le 4 bytes)).trans (by norm_num)
      have hfour : ((c.rest.drop 4).take 4).length = 4 := by
        rw [List.length_take]
        omega
      rw [hsplit, bigEndian_append_append, hfour]
      exact congrArg some (word_of_halves (hbound _) (hbound _))

/-! ### The readers of integers -/

theorem and_0x80_eq_zero_iff (byte : UInt8) : byte &&& 0x80 = 0 ↔ byte.toNat < 128 := by
  have hall : ∀ n : Fin 256, UInt8.ofNat n.val &&& 0x80 = 0 ↔ n.val < 128 := by
    decide +kernel
  simpa using hall ⟨byte.toNat, byte.toNat_lt⟩

theorem and_0xe0_eq_iff (byte : UInt8) : byte &&& 0xe0 = 0xe0 ↔ 224 ≤ byte.toNat := by
  have hall : ∀ n : Fin 256, UInt8.ofNat n.val &&& 0xe0 = 0xe0 ↔ 224 ≤ n.val := by
    decide +kernel
  simpa using hall ⟨byte.toNat, byte.toNat_lt⟩

theorem toInt64_eq (value : UInt64) : value.toInt64 = Int64.ofInt value.toNat := by
  apply Int64.toBitVec_inj.1
  simp

/-- A number that is read by `r` and converted by `f`, as the integer `g` of its bytes. -/
theorem map_unsigned {α β : Type} {r : Unpacker α} {c : Cursor UInt8} {n : ℕ}
    {make : ℕ → α} (hr : (r c).1 = (unsigned n c.rest).map make) {f : α → β} {ofInt : ℤ → β}
    {g : ℕ → ℤ} (hf : ∀ v < 256 ^ n, f (make v) = ofInt (g v)) :
    (r.map f c).1 = ((unsigned n c.rest).map g).map ofInt := by
  rw [map_fst, hr, Option.map_map, Option.map_map]
  cases hv : unsigned n c.rest with
  | none => rfl
  | some v => exact congrArg some (hf v (unsigned_lt hv))

section Forms

variable {v : ℕ}

theorem int_of_uint8 (h : v < 256 ^ 1) : (UInt8.ofNat v).toUInt64.toInt64 = Int64.ofInt v := by
  rw [toInt64_eq, UInt8.toNat_toUInt64, UInt8.toNat_ofNat', Nat.mod_eq_of_lt (by omega)]

theorem int_of_uint16 (h : v < 256 ^ 2) : (UInt16.ofNat v).toUInt64.toInt64 = Int64.ofInt v := by
  rw [toInt64_eq, UInt16.toNat_toUInt64, UInt16.toNat_ofNat', Nat.mod_eq_of_lt (by omega)]

theorem int_of_uint32 (h : v < 256 ^ 4) : (UInt32.ofNat v).toUInt64.toInt64 = Int64.ofInt v := by
  rw [toInt64_eq, UInt32.toNat_toUInt64, UInt32.toNat_ofNat', Nat.mod_eq_of_lt (by omega)]

theorem int_of_uint64 (h : v < 256 ^ 8) : (UInt64.ofNat v).toInt64 = Int64.ofInt v := by
  rw [toInt64_eq, UInt64.toNat_ofNat', Nat.mod_eq_of_lt (by omega)]

theorem int_of_int8 (h : v < 256 ^ 1) :
    (UInt8.ofNat v).toInt8.toInt64 = Int64.ofInt (twosComplement 1 v) := by
  rw [← Int64.ofInt_toInt (UInt8.ofNat v).toInt8.toInt64, Int8.toInt_toInt64, toInt_toInt8,
    UInt8.toNat_ofNat', Nat.mod_eq_of_lt (by omega)]
  rfl

theorem int_of_int16 (h : v < 256 ^ 2) :
    (UInt16.ofNat v).toInt16.toInt64 = Int64.ofInt (twosComplement 2 v) := by
  rw [← Int64.ofInt_toInt (UInt16.ofNat v).toInt16.toInt64, Int16.toInt_toInt64, toInt_toInt16,
    UInt16.toNat_ofNat', Nat.mod_eq_of_lt (by omega)]
  rfl

theorem int_of_int32 (h : v < 256 ^ 4) :
    (UInt32.ofNat v).toInt32.toInt64 = Int64.ofInt (twosComplement 4 v) := by
  rw [← Int64.ofInt_toInt (UInt32.ofNat v).toInt32.toInt64, Int32.toInt_toInt64, toInt_toInt32,
    UInt32.toNat_ofNat', Nat.mod_eq_of_lt (by omega)]
  rfl

theorem int_of_int64 (h : v < 256 ^ 8) :
    (UInt64.ofNat v).toInt64 = Int64.ofInt (twosComplement 8 v) := by
  have hcond := BitVec.toInt_eq_toNat_cond (UInt64.ofNat v).toInt64.toBitVec
  have hint : (UInt64.ofNat v).toInt64.toInt = (UInt64.ofNat v).toInt64.toBitVec.toInt := rfl
  have hnat : (UInt64.ofNat v).toInt64.toBitVec.toNat = v := Nat.mod_eq_of_lt (by omega)
  rw [← Int64.ofInt_toInt (UInt64.ofNat v).toInt64, hint, hcond, hnat]
  rfl

theorem uint_of_uint8 (h : v < 256 ^ 1) :
    (UInt8.ofNat v).toUInt64 = UInt64.ofNat (v : ℤ).toNat := by
  apply UInt64.toNat_inj.1
  rw [UInt8.toNat_toUInt64, UInt8.toNat_ofNat', UInt64.toNat_ofNat', Int.toNat_natCast]
  omega

theorem uint_of_uint16 (h : v < 256 ^ 2) :
    (UInt16.ofNat v).toUInt64 = UInt64.ofNat (v : ℤ).toNat := by
  apply UInt64.toNat_inj.1
  rw [UInt16.toNat_toUInt64, UInt16.toNat_ofNat', UInt64.toNat_ofNat', Int.toNat_natCast]
  omega

theorem uint_of_uint32 (h : v < 256 ^ 4) :
    (UInt32.ofNat v).toUInt64 = UInt64.ofNat (v : ℤ).toNat := by
  apply UInt64.toNat_inj.1
  rw [UInt32.toNat_toUInt64, UInt32.toNat_ofNat', UInt64.toNat_ofNat', Int.toNat_natCast]
  omega

end Forms

/-- `unpack_int` reads every form, and a number that an `int64_t` does not have wraps. -/
theorem unpackInt_eq (c : Cursor UInt8) :
    (unpackInt c).1 = (encodedInt c.rest).map Int64.ofInt := by
  unfold unpackInt
  rw [readByte_bind]
  cases hrest : c.rest with
  | nil => rfl
  | cons byte bytes =>
    have hadvance := offset_advance_le hrest
    have hbytes : (c.advance 1).rest = bytes := by
      rw [Cursor.rest_advance, hrest]
      rfl
    rw [List.head?_cons, Option.bind_some, encodedInt, ← hbytes]
    generalize c.advance 1 = c at hadvance
    by_cases hfix : byte.toNat < 128
    · rw [if_pos ((and_0x80_eq_zero_iff byte).2 hfix), if_pos hfix]
      refine congrArg some ?_
      rw [toInt64_eq, UInt8.toNat_toUInt64]
    rw [if_neg (mt (and_0x80_eq_zero_iff byte).1 hfix), if_neg hfix]
    by_cases hnegative : 224 ≤ byte.toNat
    · rw [if_pos ((and_0xe0_eq_iff byte).2 hnegative), if_pos hnegative]
      refine congrArg some ?_
      rw [← Int64.ofInt_toInt byte.toInt8.toInt64, Int8.toInt_toInt64, toInt_toInt8,
        if_neg (by omega)]
      rfl
    rw [if_neg (mt (and_0xe0_eq_iff byte).1 hnegative), if_neg hnegative]
    by_cases hcc : byte = 0xcc
    · rw [if_pos hcc, if_pos hcc]
      exact map_unsigned (readByte_eq c) fun _ => int_of_uint8
    rw [if_neg hcc, if_neg hcc]
    by_cases hcd : byte = 0xcd
    · rw [if_pos hcd, if_pos hcd]
      exact map_unsigned (readUint16_eq hadvance) fun _ => int_of_uint16
    rw [if_neg hcd, if_neg hcd]
    by_cases hce : byte = 0xce
    · rw [if_pos hce, if_pos hce]
      exact map_unsigned (readUint32_eq hadvance) fun _ => int_of_uint32
    rw [if_neg hce, if_neg hce]
    by_cases hcf : byte = 0xcf
    · rw [if_pos hcf, if_pos hcf]
      exact map_unsigned (readUint64_eq hadvance) fun _ => int_of_uint64
    rw [if_neg hcf, if_neg hcf]
    by_cases hd0 : byte = 0xd0
    · rw [if_pos hd0, if_pos hd0]
      exact map_unsigned (readByte_eq c) fun _ => int_of_int8
    rw [if_neg hd0, if_neg hd0]
    by_cases hd1 : byte = 0xd1
    · rw [if_pos hd1, if_pos hd1]
      exact map_unsigned (readUint16_eq hadvance) fun _ => int_of_int16
    rw [if_neg hd1, if_neg hd1]
    by_cases hd2 : byte = 0xd2
    · rw [if_pos hd2, if_pos hd2]
      exact map_unsigned (readUint32_eq hadvance) fun _ => int_of_int32
    rw [if_neg hd2, if_neg hd2]
    by_cases hd3 : byte = 0xd3
    · rw [if_pos hd3, if_pos hd3]
      exact map_unsigned (readUint64_eq hadvance) fun _ => int_of_int64
    rw [if_neg hd3, if_neg hd3]
    rfl

/-- The first byte of a form without a sign. -/
def unsignedForm (byte : UInt8) : Bool :=
  byte.toNat < 128 || byte == 0xcc || byte == 0xcd || byte == 0xce || byte == 0xcf

/-- `unpack_uint` reads the forms without a sign and fails on all others. -/
theorem unpackUint_eq (c : Cursor UInt8) :
    (unpackUint c).1 =
      if c.rest.head?.any unsignedForm then
        (encodedInt c.rest).map fun z => UInt64.ofNat z.toNat
      else none := by
  unfold unpackUint
  rw [readByte_bind]
  cases hrest : c.rest with
  | nil => rfl
  | cons byte bytes =>
    have hadvance := offset_advance_le hrest
    have hbytes : (c.advance 1).rest = bytes := by
      rw [Cursor.rest_advance, hrest]
      rfl
    rw [List.head?_cons, Option.bind_some, Option.any_some, encodedInt, ← hbytes]
    generalize c.advance 1 = c at hadvance
    by_cases hfix : byte.toNat < 128
    · rw [if_pos ((and_0x80_eq_zero_iff byte).2 hfix), if_pos hfix,
        if_pos (by simp [unsignedForm, hfix])]
      refine congrArg some (UInt64.toNat_inj.1 ?_)
      rw [UInt8.toNat_toUInt64, UInt64.toNat_ofNat', Int.toNat_natCast,
        Nat.mod_eq_of_lt (by omega)]
    rw [if_neg (mt (and_0x80_eq_zero_iff byte).1 hfix), if_neg hfix]
    -- the fixed negative numbers are no unsigned form, and the reader has no case for them
    by_cases hnegative : 224 ≤ byte.toNat
    · have hne : ∀ n : ℕ, n < 224 → byte ≠ UInt8.ofNat n := by
        rintro n hn rfl
        rw [UInt8.toNat_ofNat', Nat.mod_eq_of_lt (by omega)] at hnegative
        omega
      have hcc : byte ≠ 0xcc := hne 0xcc (by omega)
      have hcd : byte ≠ 0xcd := hne 0xcd (by omega)
      have hce : byte ≠ 0xce := hne 0xce (by omega)
      have hcf : byte ≠ 0xcf := hne 0xcf (by omega)
      rw [if_neg hcc, if_neg hcd, if_neg hce, if_neg hcf,
        if_neg (by simp [unsignedForm, hfix, hcc, hcd, hce, hcf])]
      rfl
    rw [if_neg hnegative]
    by_cases hcc : byte = 0xcc
    · rw [if_pos hcc, if_pos hcc, if_pos (by simp [unsignedForm, hcc])]
      exact map_unsigned (readByte_eq c) fun _ => uint_of_uint8
    rw [if_neg hcc, if_neg hcc]
    by_cases hcd : byte = 0xcd
    · rw [if_pos hcd, if_pos hcd, if_pos (by simp [unsignedForm, hcd])]
      exact map_unsigned (readUint16_eq hadvance) fun _ => uint_of_uint16
    rw [if_neg hcd, if_neg hcd]
    by_cases hce : byte = 0xce
    · rw [if_pos hce, if_pos hce, if_pos (by simp [unsignedForm, hce])]
      exact map_unsigned (readUint32_eq hadvance) fun _ => uint_of_uint32
    rw [if_neg hce, if_neg hce]
    by_cases hcf : byte = 0xcf
    · rw [if_pos hcf, if_pos hcf, if_pos (by simp [unsignedForm, hcf]), readUint64_eq hadvance,
        Option.map_map]
      rfl
    rw [if_neg hcf, if_neg (by simp [unsignedForm, hfix, hcc, hcd, hce, hcf])]
    rfl

/-- A type that narrows what `unpack_int` reads. -/
theorem unpackInt_map {α : Type} (c : Cursor UInt8) {f : Int64 → α} {g : ℤ → α}
    (h : ∀ z, f (Int64.ofInt z) = g z) :
    (unpackInt.map f c).1 = (encodedInt c.rest).map g := by
  rw [map_fst, unpackInt_eq, Option.map_map]
  exact congrArg (Option.map · _) (funext h)

/-- A type that narrows what `unpack_uint` reads. -/
theorem unpackUint_map {α : Type} (c : Cursor UInt8) {f : UInt64 → α} {g : ℤ → α}
    (h : ∀ z : ℤ, f (UInt64.ofNat z.toNat) = g z) :
    (unpackUint.map f c).1 =
      if c.rest.head?.any unsignedForm then (encodedInt c.rest).map g else none := by
  rw [map_fst, unpackUint_eq]
  split
  · rw [Option.map_map]
    exact congrArg (Option.map · _) (funext h)
  · rfl

/-! ### The types -/

/-- The types of integers that can be asked for. -/
inductive IntTy
  | int8
  | int16
  | int32
  | int64
  | uint8
  | uint16
  | uint32
  | uint64
  deriving DecidableEq

namespace IntTy

def ty : IntTy → Ty
  | .int8 => .int8
  | .int16 => .int16
  | .int32 => .int32
  | .int64 => .int64
  | .uint8 => .uint8
  | .uint16 => .uint16
  | .uint32 => .uint32
  | .uint64 => .uint64

def width : IntTy → ℕ
  | .int8 | .uint8 => 8
  | .int16 | .uint16 => 16
  | .int32 | .uint32 => 32
  | .int64 | .uint64 => 64

def isSigned : IntTy → Bool
  | .int8 | .int16 | .int32 | .int64 => true
  | .uint8 | .uint16 | .uint32 | .uint64 => false

/-- The integer that a value stands for. -/
def value : (t : IntTy) → t.ty.Val → ℤ
  | .int8, v => Int8.toInt v
  | .int16, v => Int16.toInt v
  | .int32, v => Int32.toInt v
  | .int64, v => Int64.toInt v
  | .uint8, v => UInt8.toNat v
  | .uint16, v => UInt16.toNat v
  | .uint32, v => UInt32.toNat v
  | .uint64, v => UInt64.toNat v

/-- The type can hold the integer. -/
def Holds (t : IntTy) (z : ℤ) : Prop :=
  if t.isSigned then -2 ^ (t.width - 1) ≤ z ∧ z < 2 ^ (t.width - 1) else 0 ≤ z ∧ z < 2 ^ t.width

instance (t : IntTy) (z : ℤ) : Decidable (t.Holds z) :=
  inferInstanceAs (Decidable (if (_ : Prop) then (_ : Prop) else (_ : Prop)))

/-- The integer, reduced to the type. -/
def reduce : (t : IntTy) → ℤ → t.ty.Val
  | .int8, z => Int8.ofInt z
  | .int16, z => Int16.ofInt z
  | .int32, z => Int32.ofInt z
  | .int64, z => Int64.ofInt z
  | .uint8, z => UInt8.ofNat z.toNat
  | .uint16, z => UInt16.ofNat z.toNat
  | .uint32, z => UInt32.ofNat z.toNat
  | .uint64, z => UInt64.ofNat z.toNat

/-- The bytes begin with a form that the unpacker of the type has a case for: a signed type
takes every form of an integer, an unsigned one those without a sign. -/
def takes (t : IntTy) (bytes : List UInt8) : Bool := t.isSigned || bytes.head?.any unsignedForm

theorem value_reduce {t : IntTy} {z : ℤ} (h : t.Holds z) : t.value (t.reduce z) = z := by
  cases t with
  | int8 => exact Int8.toInt_ofInt_of_le h.1 h.2
  | int16 => exact Int16.toInt_ofInt_of_le h.1 h.2
  | int32 => exact Int32.toInt_ofInt_of_le h.1 h.2
  | int64 => exact Int64.toInt_ofInt_of_le h.1 h.2
  | uint8 | uint16 | uint32 | uint64 =>
    obtain ⟨hlow, hhigh⟩ := h
    simp only [width] at hhigh
    simp only [value, reduce, UInt8.toNat_ofNat', UInt16.toNat_ofNat', UInt32.toNat_ofNat',
      UInt64.toNat_ofNat']
    omega

/-- What is read is the encoded integer, reduced to the type. -/
theorem unpack_eq (t : IntTy) (c : Cursor UInt8) :
    (unpack t.ty c).1 = if t.takes c.rest then (encodedInt c.rest).map t.reduce else none := by
  cases t with
  | int8 => exact unpackInt_map c fun _ => Int64.toInt8_ofInt
  | int16 => exact unpackInt_map c fun _ => Int64.toInt16_ofInt
  | int32 => exact unpackInt_map c fun _ => Int64.toInt32_ofInt
  | int64 => exact unpackInt_eq c
  | uint8 => exact unpackUint_map c fun z => UInt64.toUInt8_ofNat' z.toNat
  | uint16 => exact unpackUint_map c fun z => UInt64.toUInt16_ofNat' z.toNat
  | uint32 => exact unpackUint_map c fun z => UInt64.toUInt32_ofNat' z.toNat
  | uint64 => exact unpackUint_eq c

/-- As the library is meant to work: what is read is the integer that the bytes encode, and an
integer that the type cannot hold is not read. -/
def Exact (t : IntTy) (c : Cursor UInt8) : Prop :=
  (∀ v, (unpack t.ty c).1 = some v → encodedInt c.rest = some (t.value v)) ∧
    ∀ z, encodedInt c.rest = some z → ¬t.Holds z → (unpack t.ty c).1 = none

/-- **Integers are exact** if and only if the type holds the integer in front of the cursor, or
its unpacker has no case for the form of the integer. -/
theorem exact_iff (t : IntTy) (c : Cursor UInt8) :
    t.Exact c ↔ ∀ z, encodedInt c.rest = some z → t.takes c.rest → t.Holds z := by
  constructor
  · rintro ⟨-, hfails⟩ z hz htakes
    by_contra hholds
    have hnone := hfails z hz hholds
    rw [unpack_eq, if_pos htakes, hz] at hnone
    cases hnone
  · intro hall
    constructor
    · intro v hv
      rw [unpack_eq] at hv
      split at hv
      case isTrue htakes =>
        obtain ⟨z, hz, rfl⟩ := Option.map_eq_some_iff.1 hv
        rw [value_reduce (hall z hz htakes), hz]
      case isFalse => cases hv
    · intro z hz hholds
      rw [unpack_eq]
      exact if_neg fun htakes => hholds (hall z hz htakes)

/-- The number 256 is read as a `uint8_t` zero. -/
theorem not_exact_uint8 : ¬IntTy.uint8.Exact ⟨[0xcd, 0x01, 0x00], 0⟩ := by
  rintro ⟨-, hfails⟩
  have hnone := hfails 256 (by decide) (by decide)
  cases hnone

end IntTy

end SuplLpp.Msgpack
