import SuplLpp.Msgpack.Format

/-!
# `msgpack::pack` and `msgpack::unpack`

The overloads of `pack` and `unpack` by type: numbers, strings, vectors of a packed type, and
structs that name their members with `MSGPACK_DEFINE`, nested as one likes.

* `Ty`, `Ty.Val`: the types and their values; a struct is a family of members;
* `pack`, `unpack`: the overload that a type selects;
* `Fits`: no string, vector or struct inside has more entries than a length field counts;
* `unpack_pack_iff`: the round trip, for every type and value.
-/

namespace SuplLpp.Msgpack

open Reader

/-! ### Strings, vectors and structs -/

section Parts

variable {α : Type}

/-- `pack` of a string; the size is cut to 32 bits. -/
def packString (value : List UInt8) : List UInt8 := packStr value (UInt32.ofNat value.length)

/-- `pack_bin` of all bytes of a string; the size is cut to 32 bits. -/
def packBytes (value : List UInt8) : List UInt8 := packBin value (UInt32.ofNat value.length)

/-- `pack` of a vector; the size is cut to 32 bits, and all items are packed. -/
def packVector (pack : α → List UInt8) (value : List α) : List UInt8 :=
  packArrayHeader (UInt32.ofNat value.length) ++ value.flatMap pack

def unpackVector (unpack : Unpacker α) : Unpacker (List α) :=
  unpackArrayHeader.bind fun size => times size.toNat unpack

/-- `msgpack_pack_impl`, of members that pack themselves. -/
def packMembers (size : ℕ) (pack : Fin size → List UInt8) : List UInt8 :=
  packArrayHeader (UInt32.ofNat size) ++ writeEach size pack

/-- `msgpack_unpack_impl`. -/
def unpackMembers (size : ℕ) {A : Fin size → Type} (unpack : (i : Fin size) → Unpacker (A i)) :
    Unpacker ((i : Fin size) → A i) :=
  unpackArrayHeader.bind fun count =>
    if count.toNat ≠ size then fail
    else each size unpack

theorem toNat_ofNat_of_lt {n : ℕ} (h : n < 2 ^ 32) : (UInt32.ofNat n).toNat = n := by
  rw [UInt32.toNat_ofNat']
  exact Nat.mod_eq_of_lt h

theorem toNat_ofNat_le (n : ℕ) : (UInt32.ofNat n).toNat ≤ n := by
  rw [UInt32.toNat_ofNat']
  exact Nat.mod_le _ _

/-- A prefix that is the whole string is as long as 32 bits can say. -/
theorem length_lt_of_take {value : List UInt8} {length : UInt32}
    (h : value = value.take length.toNat) : value.length < 2 ^ 32 := by
  have hlt := length.toNat_lt
  have hlength := congrArg List.length h
  rw [List.length_take] at hlength
  omega

theorem reads_string {value : List UInt8} (h : value.length < 2 ^ 32) :
    Reads unpackStr (packString value) value := by
  have hread := reads_str (toNat_ofNat_le value.length)
  rwa [toNat_ofNat_of_lt h, List.take_length] at hread

theorem length_lt_of_decodes_string {value : List UInt8}
    (h : Decodes unpackStr (packString value) value) : value.length < 2 ^ 32 :=
  length_lt_of_take ((reads_str (toNat_ofNat_le value.length)).eq_of_decodes h)

theorem reads_bytes {value : List UInt8} (h : value.length < 2 ^ 32) :
    Reads unpackBin (packBytes value) value := by
  have hread := reads_bin (toNat_ofNat_le value.length)
  rwa [toNat_ofNat_of_lt h, List.take_length] at hread

theorem length_lt_of_decodes_bytes {value : List UInt8}
    (h : Decodes unpackBin (packBytes value) value) : value.length < 2 ^ 32 :=
  length_lt_of_take ((reads_bin (toNat_ofNat_le value.length)).eq_of_decodes h)

theorem reads_vector {pack : α → List UInt8} {unpack : Unpacker α} {value : List α}
    (hsize : value.length < 2 ^ 32) (h : ∀ x ∈ value, Reads unpack (pack x) x) :
    Reads (unpackVector unpack) (packVector pack value) value := by
  refine (reads_arrayHeader _).bind ?_
  rw [toNat_ofNat_of_lt hsize]
  exact reads_times pack h

/-- A vector that comes back has a size that was not cut, and its items come back. -/
theorem decodes_vector {pack : α → List UInt8} {unpack : Unpacker α} {value : List α}
    (hall : ∀ x ∈ value, Decodes unpack (pack x) x → Reads unpack (pack x) x)
    (h : Decodes (unpackVector unpack) (packVector pack value) value) :
    value.length < 2 ^ 32 ∧ ∀ x ∈ value, Decodes unpack (pack x) x := by
  have hitems := Decodes.bind (reads_arrayHeader _) h
  have hlength : value.length = (UInt32.ofNat value.length).toNat := by
    obtain ⟨c, c', -, hrun⟩ := hitems
    exact length_times hrun
  rw [← hlength] at hitems
  exact ⟨hlength ▸ UInt32.toNat_lt _, Decodes.times hall hitems⟩

section Members

variable {size : ℕ} {A : Fin size → Type} {pack : Fin size → List UInt8}
  {unpack : (i : Fin size) → Unpacker (A i)} {value : (i : Fin size) → A i}

theorem reads_members (hsize : size < 2 ^ 32) (h : ∀ i, Reads (unpack i) (pack i) (value i)) :
    Reads (unpackMembers size unpack) (packMembers size pack) value := by
  refine (reads_arrayHeader _).bind ?_
  rw [toNat_ofNat_of_lt hsize, if_neg (not_not.2 rfl)]
  exact reads_each h

/-- A struct that comes back has a count of members that was not cut, and its members come
back. -/
theorem decodes_members
    (hall : ∀ i, Decodes (unpack i) (pack i) (value i) → Reads (unpack i) (pack i) (value i))
    (h : Decodes (unpackMembers size unpack) (packMembers size pack) value) :
    size < 2 ^ 32 ∧ ∀ i, Decodes (unpack i) (pack i) (value i) := by
  have hmembers := Decodes.bind (reads_arrayHeader _) h
  by_cases hcount : (UInt32.ofNat size).toNat = size
  · rw [if_neg (not_not.2 hcount)] at hmembers
    exact ⟨hcount ▸ UInt32.toNat_lt _, Decodes.each hall hmembers⟩
  · rw [if_pos hcount] at hmembers
    exact (not_decodes_fail _ _ hmembers).elim

end Members

end Parts

/-! ### The types -/

/-- The types that can be packed. -/
inductive Ty
  | nil
  | bool
  | int8
  | int16
  | int32
  | int64
  | uint8
  | uint16
  | uint32
  | uint64
  | float
  | double
  | string
  /-- Bytes, by `pack_bin` and `unpack_bin`. -/
  | bin
  | vector (item : Ty)
  /-- `MSGPACK_DEFINE` with `size` members. -/
  | struct (size : ℕ) (member : Fin size → Ty)

/-- The values of a type; a floating point number is its bits. -/
def Ty.Val : Ty → Type
  | .nil => Unit
  | .bool => Bool
  | .int8 => Int8
  | .int16 => Int16
  | .int32 => Int32
  | .int64 => Int64
  | .uint8 => UInt8
  | .uint16 => UInt16
  | .uint32 => UInt32
  | .uint64 => UInt64
  | .float => UInt32
  | .double => UInt64
  | .string => List UInt8
  | .bin => List UInt8
  | .vector item => List item.Val
  | .struct size member => (i : Fin size) → (member i).Val

/-- `pack`. -/
def pack : (t : Ty) → t.Val → List UInt8
  | .nil, _ => packNil
  | .bool, value => packBool value
  | .int8, value => packInt (Int8.toInt64 value)
  | .int16, value => packInt (Int16.toInt64 value)
  | .int32, value => packInt (Int32.toInt64 value)
  | .int64, value => packInt value
  | .uint8, value => packUint (UInt8.toUInt64 value)
  | .uint16, value => packUint (UInt16.toUInt64 value)
  | .uint32, value => packUint (UInt32.toUInt64 value)
  | .uint64, value => packUint value
  | .float, bits => packFloat bits
  | .double, bits => packDouble bits
  | .string, value => packString value
  | .bin, value => packBytes value
  | .vector item, value => packVector (pack item) value
  | .struct size member, value => packMembers size fun i => pack (member i) (value i)

/-- `unpack`. -/
def unpack : (t : Ty) → Unpacker t.Val
  | .nil => unpackNil
  | .bool => unpackBool
  | .int8 => unpackInt.map Int64.toInt8
  | .int16 => unpackInt.map Int64.toInt16
  | .int32 => unpackInt.map Int64.toInt32
  | .int64 => unpackInt
  | .uint8 => unpackUint.map UInt64.toUInt8
  | .uint16 => unpackUint.map UInt64.toUInt16
  | .uint32 => unpackUint.map UInt64.toUInt32
  | .uint64 => unpackUint
  | .float => unpackFloat
  | .double => unpackDouble
  | .string => unpackStr
  | .bin => unpackBin
  | .vector item => unpackVector (unpack item)
  | .struct size member => unpackMembers size fun i => unpack (member i)

/-- All items of a list. -/
def AllItems {α : Type} (p : α → Prop) (l : List α) : Prop := ∀ x ∈ l, p x

/-- No string, vector or struct in the value has 2^32 or more entries. -/
def Fits : (t : Ty) → t.Val → Prop
  | .string, value => (value : List UInt8).length < 2 ^ 32
  | .bin, value => (value : List UInt8).length < 2 ^ 32
  | .vector item, value => (value : List item.Val).length < 2 ^ 32 ∧ AllItems (Fits item) value
  | .struct size member, value => size < 2 ^ 32 ∧ ∀ i, Fits (member i) (value i)
  | _, _ => True

/-! ### The round trip -/

/-- What fits its length fields is read back. -/
theorem reads_of_fits (t : Ty) (value : t.Val) (h : Fits t value) :
    Reads (unpack t) (pack t value) value := by
  induction t with
  | nil => exact reads_nil
  | bool => exact reads_bool value
  | int8 => exact (reads_int (Int8.toInt64 value)).map_eq (Int8.toInt8_toInt64 value)
  | int16 => exact (reads_int (Int16.toInt64 value)).map_eq (Int16.toInt16_toInt64 value)
  | int32 => exact (reads_int (Int32.toInt64 value)).map_eq (Int32.toInt32_toInt64 value)
  | int64 => exact reads_int value
  | uint8 => exact (reads_uint (UInt8.toUInt64 value)).map_eq (UInt8.toUInt8_toUInt64 value)
  | uint16 => exact (reads_uint (UInt16.toUInt64 value)).map_eq (UInt16.toUInt16_toUInt64 value)
  | uint32 => exact (reads_uint (UInt32.toUInt64 value)).map_eq (UInt32.toUInt32_toUInt64 value)
  | uint64 => exact reads_uint value
  | float => exact reads_float value
  | double => exact reads_double value
  | string => exact reads_string h
  | bin => exact reads_bytes h
  | vector item ih => exact reads_vector h.1 fun x hx => ih x (h.2 x hx)
  | struct size member ih => exact reads_members h.1 fun i => ih i (value i) (h.2 i)

/-- What is read back fits its length fields. -/
theorem fits_of_decodes (t : Ty) (value : t.Val)
    (h : Decodes (unpack t) (pack t value) value) : Fits t value := by
  induction t with
  | nil | bool | int8 | int16 | int32 | int64 | uint8 | uint16 | uint32 | uint64 | float
  | double => trivial
  | string => exact length_lt_of_decodes_string h
  | bin => exact length_lt_of_decodes_bytes h
  | vector item ih =>
    obtain ⟨hsize, hitems⟩ := decodes_vector (fun x _ hx => reads_of_fits item x (ih x hx)) h
    exact ⟨hsize, fun x hx => ih x (hitems x hx)⟩
  | struct size member ih =>
    obtain ⟨hsize, hmembers⟩ := decodes_members
      (fun i hi => reads_of_fits (member i) (value i) (ih i (value i) hi)) h
    exact ⟨hsize, fun i => ih i (value i) (hmembers i)⟩

/-- As the library is meant to work: wherever the unpacker stands in front of the packed bytes
of the value, it answers the value and moves right behind them. -/
def RoundTrips (t : Ty) (value : t.Val) : Prop :=
  ∀ (before after : List UInt8), unpack t ⟨before ++ pack t value ++ after, before.length⟩ =
    (some value, ⟨before ++ pack t value ++ after, (before ++ pack t value).length⟩)

theorem roundTrips_of_reads {t : Ty} {value : t.Val}
    (h : Reads (unpack t) (pack t value) value) : RoundTrips t value := by
  intro before after
  have hat : (⟨before ++ pack t value ++ after, before.length⟩ : Cursor UInt8).At
      (pack t value) := by
    refine ⟨by simp, ?_⟩
    rw [Cursor.rest, List.append_assoc, List.drop_left]
    exact List.prefix_append _ _
  rw [h _ hat, Cursor.advance, List.length_append]

theorem decodes_of_roundTrips {t : Ty} {value : t.Val} (h : RoundTrips t value) :
    Decodes (unpack t) (pack t value) value := by
  have hrun := h [] []
  rw [List.nil_append, List.append_nil] at hrun
  exact ⟨_, _, Cursor.at_start _, hrun⟩

/-- **Round trip.**  A value comes back from its packed bytes, exactly these are consumed and
what follows is left alone, if and only if it fits its length fields. -/
theorem unpack_pack_iff (t : Ty) (value : t.Val) : RoundTrips t value ↔ Fits t value :=
  ⟨fun h => fits_of_decodes t value (decodes_of_roundTrips h),
    fun h => roundTrips_of_reads (reads_of_fits t value h)⟩

/-- A string of 2^32 bytes is packed with the length zero. -/
theorem not_roundTrips_long_string :
    ¬RoundTrips .string (List.replicate (2 ^ 32) (0x61 : UInt8)) := by
  intro h
  have hfits : (List.replicate (2 ^ 32) (0x61 : UInt8)).length < 2 ^ 32 :=
    fits_of_decodes .string _ (decodes_of_roundTrips h)
  rw [List.length_replicate] at hfits
  omega

end SuplLpp.Msgpack
