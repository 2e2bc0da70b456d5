import SuplLpp.Lib.Agree
import SuplLpp.Lib.LittleEndian

/-!
# `format::ubx::Decoder` and `format::ubx::Encoder`

The decoder is a pointer into the memory of its caller and the number of bytes that it may
read; what stands behind them belongs to others.

* `Decoder` and its operations, as programs over its state;
* `SameWindow`, `agree_word`, `agree_skip`: all operations but `ch` read what they may read
  only;
* `Encoder`; `run_word`: what it writes is what the decoder reads.

A floating-point number is left in the bits of its encoding.
-/

namespace SuplLpp.Ubx

/-! ### The decoder -/

structure Decoder where
  /-- The memory, from the pointer on. -/
  mPayload : List UInt8
  mPayloadLength : ℕ
  mError : Bool

namespace Decoder

def create (payload : List UInt8) (payloadLength : ℕ) : Decoder := ⟨payload, payloadLength, false⟩

/-- Move the pointer. -/
def advance (d : Decoder) (length : ℕ) : Decoder :=
  { d with mPayload := d.mPayload.drop length, mPayloadLength := d.mPayloadLength - length }

/-- `mError` is set, and the pointer stays. -/
def failed (d : Decoder) : Decoder := { d with mError := true }

/-- The common form of `x1` to `x8`. -/
def word {α : Type} (size : ℕ) (zero : α) (value : List UInt8 → α) : StateM Decoder α := fun d =>
  if d.mPayloadLength < size then (zero, d.failed) else (value d.mPayload, d.advance size)

/-- `mPayload[i]`. -/
def byteAt (p : List UInt8) (i : ℕ) : UInt8 := p.getD i 0

def value1 (p : List UInt8) : UInt8 := byteAt p 0

def value2 (p : List UInt8) : UInt16 := (byteAt p 1).toUInt16 <<< 8 ||| (byteAt p 0).toUInt16

def value4 (p : List UInt8) : UInt32 :=
  (byteAt p 3).toUInt32 <<< 24 ||| (byteAt p 2).toUInt32 <<< 16 |||
    (byteAt p 1).toUInt32 <<< 8 ||| (byteAt p 0).toUInt32

def value8 (p : List UInt8) : UInt64 :=
  (byteAt p 7).toUInt64 <<< 56 ||| (byteAt p 6).toUInt64 <<< 48 |||
    (byteAt p 5).toUInt64 <<< 40 ||| (byteAt p 4).toUInt64 <<< 32 |||
    (byteAt p 3).toUInt64 <<< 24 ||| (byteAt p 2).toUInt64 <<< 16 |||
    (byteAt p 1).toUInt64 <<< 8 ||| (byteAt p 0).toUInt64

def x1 : StateM Decoder UInt8 := word 1 0 value1

def x2 : StateM Decoder UInt16 := word 2 0 value2

def x4 : StateM Decoder UInt32 := word 4 0 value4

def x8 : StateM Decoder UInt64 := word 8 0 value8

def u1 : StateM Decoder UInt8 := x1

def u2 : StateM Decoder UInt16 := x2

def u4 : StateM Decoder UInt32 := x4

def u8 : StateM Decoder UInt64 := x8

def i1 : StateM Decoder Int8 := UInt8.toInt8 <$> x1

def i2 : StateM Decoder Int16 := UInt16.toInt16 <$> x2

def i4 : StateM Decoder Int32 := UInt32.toInt32 <$> x4

/-- The bits of a `float`. -/
def r4 : StateM Decoder UInt32 := x4

/-- The bits of a `double`. -/
def r8 : StateM Decoder UInt64 := x8

def logical : StateM Decoder Bool := (· != 0) <$> x1

/-- The string is made from the pointer, so that it ends at the first zero behind it, wherever
that is. -/
def ch (length : ℕ) : StateM Decoder (List UInt8) := fun d =>
  if d.mPayloadLength < length then ([], d.failed)
  else (d.mPayload.takeWhile (· != 0), d.advance length)

def skip (length : ℕ) : StateM Decoder Unit := fun d =>
  if d.mPayloadLength < length then ((), d.advance d.mPayloadLength) else ((), d.advance length)

def remaining : StateM Decoder ℕ := fun d => (d.mPayloadLength, d)

def error : StateM Decoder Bool := fun d => (d.mError, d)

@[simp] theorem run_remaining (d : Decoder) : remaining.run d = (d.mPayloadLength, d) := rfl

@[simp] theorem run_error (d : Decoder) : error.run d = (d.mError, d) := rfl

end Decoder

/-! ### What the decoder may read -/

/-- Two decoders may read the same; what stands behind may differ. -/
structure SameWindow (d d' : Decoder) : Prop where
  length : d.mPayloadLength = d'.mPayloadLength
  error : d.mError = d'.mError
  bytes : d.mPayload.take d.mPayloadLength = d'.mPayload.take d.mPayloadLength

namespace SameWindow

variable {d d' : Decoder}

/-- The same payload in two memories. -/
theorem create (payload beyond beyond' : List UInt8) :
    SameWindow (.create (payload ++ beyond) payload.length)
      (.create (payload ++ beyond') payload.length) :=
  ⟨rfl, rfl, by simp [Decoder.create]⟩

theorem advance (h : SameWindow d d') (n : ℕ) : SameWindow (d.advance n) (d'.advance n) where
  length := by rw [Decoder.advance, Decoder.advance, h.length]
  error := h.error
  bytes := by
    simp only [Decoder.advance]
    rw [← List.drop_take, ← List.drop_take, h.bytes]

theorem failed (h : SameWindow d d') : SameWindow d.failed d'.failed := ⟨h.length, rfl, h.bytes⟩

theorem take (h : SameWindow d d') {n : ℕ} (hn : n ≤ d.mPayloadLength) :
    d.mPayload.take n = d'.mPayload.take n := by
  rw [← Nat.min_eq_left hn, ← List.take_take, h.bytes, List.take_take]

end SameWindow

namespace Decoder

theorem byteAt_take {p q : List UInt8} {n i : ℕ} (h : p.take n = q.take n) (hi : i < n) :
    byteAt p i = byteAt q i := by
  have hget := congrArg (fun l : List UInt8 => l[i]?) h
  simp only [List.getElem?_take_of_lt hi] at hget
  rw [byteAt, byteAt, List.getD_eq_getElem?_getD, List.getD_eq_getElem?_getD, hget]

theorem agree_word {α : Type} {size : ℕ} {zero : α} {value : List UInt8 → α}
    (hvalue : ∀ p q : List UInt8, p.take size = q.take size → value p = value q) :
    Agree SameWindow (word size zero value) := by
  intro d d' h
  by_cases hshort : d.mPayloadLength < size
  · have hshort' : d'.mPayloadLength < size := by rwa [← h.length]
    simp only [StateT.run, word, if_pos hshort, if_pos hshort', true_and]
    exact h.failed
  · have hshort' : ¬d'.mPayloadLength < size := by rwa [← h.length]
    simp only [StateT.run, word, if_neg hshort, if_neg hshort']
    exact ⟨hvalue _ _ (h.take (by omega)), h.advance size⟩

theorem agree_x1 : Agree SameWindow x1 :=
  agree_word fun p q h => by rw [value1, value1, byteAt_take h (by decide)]

theorem agree_x2 : Agree SameWindow x2 :=
  agree_word fun p q h => by
    have hbyte : ∀ i < 2, byteAt p i = byteAt q i := fun i => byteAt_take h
    rw [value2, value2, hbyte 0 (by decide), hbyte 1 (by decide)]

theorem agree_x4 : Agree SameWindow x4 :=
  agree_word fun p q h => by
    have hbyte : ∀ i < 4, byteAt p i = byteAt q i := fun i => byteAt_take h
    rw [value4, value4, hbyte 0 (by decide), hbyte 1 (by decide), hbyte 2 (by decide),
      hbyte 3 (by decide)]

theorem agree_x8 : Agree SameWindow x8 :=
  agree_word fun p q h => by
    have hbyte : ∀ i < 8, byteAt p i = byteAt q i := fun i => byteAt_take h
    rw [value8, value8, hbyte 0 (by decide), hbyte 1 (by decide), hbyte 2 (by decide),
      hbyte 3 (by decide), hbyte 4 (by decide), hbyte 5 (by decide), hbyte 6 (by decide),
      hbyte 7 (by decide)]

theorem agree_i1 : Agree SameWindow i1 := agree_x1.map _

theorem agree_i2 : Agree SameWindow i2 := agree_x2.map _

theorem agree_i4 : Agree SameWindow i4 := agree_x4.map _

theorem agree_logical : Agree SameWindow logical := agree_x1.map _

theorem agree_skip (length : ℕ) : Agree SameWindow (skip length) := by
  intro d d' h
  by_cases hshort : d.mPayloadLength < length
  · have hshort' : d'.mPayloadLength < length := by rwa [← h.length]
    simp only [StateT.run, skip, if_pos hshort, ← h.length]
    exact ⟨trivial, h.advance _⟩
  · have hshort' : ¬d'.mPayloadLength < length := by rwa [← h.length]
    simp only [StateT.run, skip, if_neg hshort, if_neg hshort']
    exact ⟨trivial, h.advance length⟩

theorem agree_remaining : Agree SameWindow remaining := fun _ _ h => ⟨h.length, h⟩

theorem agree_error : Agree SameWindow error := fun _ _ h => ⟨h.error, h⟩

/-! ### The numbers that are read -/

open LittleEndian

theorem toNat_value1 (p : List UInt8) : (value1 p).toNat = ofBytes [byteAt p 0] := by
  simp [value1, ofBytes]

theorem toNat_value2 (p : List UInt8) : (value2 p).toNat = ofBytes [byteAt p 0, byteAt p 1] := by
  have hbyte : ∀ i, (byteAt p i).toNat < 256 := fun i => (byteAt p i).toNat_lt
  have hlow := shift_or (hbyte 0) (byteAt p 1).toNat 0
  simp only [value2, UInt16.toNat_or, UInt16.toNat_shiftLeft, UInt8.toNat_toUInt16,
    UInt16.reduceToNat, Nat.reduceMod]
  rw [shift_mod (hbyte 1) (by decide)]
  simpa [ofBytes] using hlow

theorem toNat_value4 (p : List UInt8) :
    (value4 p).toNat = ofBytes [byteAt p 0, byteAt p 1, byteAt p 2, byteAt p 3] := by
  have hbyte : ∀ i, (byteAt p i).toNat < 256 := fun i => (byteAt p i).toNat_lt
  have hlow := fun hi => shift_or (hbyte 0) hi 0
  simp only [value4, UInt32.toNat_or, UInt32.toNat_shiftLeft, UInt8.toNat_toUInt32,
    UInt32.reduceToNat, Nat.reduceMod]
  rw [shift_mod (hbyte 3) (by decide), shift_mod (hbyte 2) (by decide),
    shift_mod (hbyte 1) (by decide), shift_or (hbyte 2) _ 16, shift_or (hbyte 1) _ 8]
  simpa only [ofBytes, mul_zero, add_zero, zero_add, Nat.shiftLeft_zero] using hlow _

theorem toNat_value8 (p : List UInt8) :
    (value8 p).toNat = ofBytes [byteAt p 0, byteAt p 1, byteAt p 2, byteAt p 3, byteAt p 4,
      byteAt p 5, byteAt p 6, byteAt p 7] := by
  have hbyte : ∀ i, (byteAt p i).toNat < 256 := fun i => (byteAt p i).toNat_lt
  have hlow := fun hi => shift_or (hbyte 0) hi 0
  simp only [value8, UInt64.toNat_or, UInt64.toNat_shiftLeft, UInt8.toNat_toUInt64,
    UInt64.reduceToNat, Nat.reduceMod]
  rw [shift_mod (hbyte 7) (by decide), shift_mod (hbyte 6) (by decide),
    shift_mod (hbyte 5) (by decide), shift_mod (hbyte 4) (by decide),
    shift_mod (hbyte 3) (by decide), shift_mod (hbyte 2) (by decide),
    shift_mod (hbyte 1) (by decide), shift_or (hbyte 6) _ 48, shift_or (hbyte 5) _ 40,
    shift_or (hbyte 4) _ 32, shift_or (hbyte 3) _ 24, shift_or (hbyte 2) _ 16,
    shift_or (hbyte 1) _ 8]
  simpa only [ofBytes, mul_zero, add_zero, zero_add, Nat.shiftLeft_zero] using hlow _

end Decoder

/-! ### The encoder -/

structure Encoder where
  /-- What stands before the pointer. -/
  written : List UInt8
  mPayloadLength : ℕ
  mError : Bool

namespace Encoder

def create (payloadLength : ℕ) : Encoder := ⟨[], payloadLength, false⟩

/-- The common form of `x1` to `x8`. -/
def put (e : Encoder) (bytes : List UInt8) : Encoder :=
  if e.mPayloadLength < bytes.length then { e with mError := true }
  else { e with written := e.written ++ bytes, mPayloadLength := e.mPayloadLength - bytes.length }

def x1 (e : Encoder) (value : UInt8) : Encoder := e.put [value]

def x2 (e : Encoder) (value : UInt16) : Encoder :=
  e.put [(value &&& 0xFF).toUInt8, ((value &&& 0xFF00) >>> 8).toUInt8]

def x4 (e : Encoder) (value : UInt32) : Encoder :=
  e.put [(value &&& 0xFF).toUInt8, ((value >>> 8) &&& 0xFF).toUInt8,
    ((value >>> 16) &&& 0xFF).toUInt8, ((value >>> 24) &&& 0xFF).toUInt8]

def x8 (e : Encoder) (value : UInt64) : Encoder :=
  e.put [(value &&& 0xFF).toUInt8, ((value >>> 8) &&& 0xFF).toUInt8,
    ((value >>> 16) &&& 0xFF).toUInt8, ((value >>> 24) &&& 0xFF).toUInt8,
    ((value >>> 32) &&& 0xFF).toUInt8, ((value >>> 40) &&& 0xFF).toUInt8,
    ((value >>> 48) &&& 0xFF).toUInt8, ((value >>> 56) &&& 0xFF).toUInt8]

def u1 (e : Encoder) (value : UInt8) : Encoder := e.x1 value

def u2 (e : Encoder) (value : UInt16) : Encoder := e.x2 value

def u4 (e : Encoder) (value : UInt32) : Encoder := e.x4 value

def u8 (e : Encoder) (value : UInt64) : Encoder := e.x8 value

def logical (e : Encoder) (value : Bool) : Encoder := e.x1 (if value then 1 else 0)

open LittleEndian

theorem x2_eq (e : Encoder) (value : UInt16) : e.x2 value = e.put (toBytes 2 value.toNat) := by
  have hv := value.toNat_lt
  have hlow : (value &&& 0xFF).toUInt8 = value.toNat.toUInt8 := by
    rw [← UInt8.toNat_inj, UInt16.toNat_toUInt8, UInt16.toNat_and, Nat.toUInt8_eq,
      UInt8.toNat_ofNat']
    have hmask := and_shift value.toNat 0
    simp only [UInt16.reduceToNat, Nat.shiftRight_zero, pow_zero, Nat.div_one] at hmask ⊢
    omega
  have hhigh : ((value &&& 0xFF00) >>> 8).toUInt8 = (value.toNat / 256).toUInt8 := by
    rw [← UInt8.toNat_inj, UInt16.toNat_toUInt8, UInt16.toNat_shiftRight, UInt16.toNat_and,
      Nat.toUInt8_eq, UInt8.toNat_ofNat', Nat.shiftRight_and_distrib]
    have hmask := and_shift value.toNat 8
    simp only [UInt16.reduceToNat, Nat.reduceMod, Nat.reduceShiftRight] at hmask ⊢
    omega
  rw [x2, hlow, hhigh]
  rfl

theorem byte4 (value : UInt32) {k : UInt32} (hk : k.toNat < 32) :
    ((value >>> k) &&& 0xFF).toUInt8 = (value.toNat / 2 ^ k.toNat).toUInt8 := by
  have hmask := and_shift value.toNat k.toNat
  rw [← UInt8.toNat_inj, UInt32.toNat_toUInt8, UInt32.toNat_and, UInt32.toNat_shiftRight,
    Nat.mod_eq_of_lt hk, Nat.toUInt8_eq, UInt8.toNat_ofNat']
  simp only [UInt32.reduceToNat] at hmask ⊢
  omega

theorem x4_eq (e : Encoder) (value : UInt32) : e.x4 value = e.put (toBytes 4 value.toNat) := by
  have hlow : (value &&& 0xFF).toUInt8 = (value.toNat / 2 ^ 0).toUInt8 := by
    have hzero := byte4 value (k := 0) (by decide)
    rwa [UInt32.shiftRight_zero] at hzero
  rw [x4, hlow, byte4 value (by decide), byte4 value (by decide), byte4 value (by decide)]
  simp only [UInt32.reduceToNat, toBytes, pow_zero, Nat.div_one, Nat.div_div_eq_div_mul]
  rfl

theorem byte8 (value : UInt64) {k : UInt64} (hk : k.toNat < 64) :
    ((value >>> k) &&& 0xFF).toUInt8 = (value.toNat / 2 ^ k.toNat).toUInt8 := by
  have hmask := and_shift value.toNat k.toNat
  rw [← UInt8.toNat_inj, UInt64.toNat_toUInt8, UInt64.toNat_and, UInt64.toNat_shiftRight,
    Nat.mod_eq_of_lt hk, Nat.toUInt8_eq, UInt8.toNat_ofNat']
  simp only [UInt64.reduceToNat] at hmask ⊢
  omega

theorem x8_eq (e : Encoder) (value : UInt64) : e.x8 value = e.put (toBytes 8 value.toNat) := by
  have hlow : (value &&& 0xFF).toUInt8 = (value.toNat / 2 ^ 0).toUInt8 := by
    have hzero := byte8 value (k := 0) (by decide)
    rwa [UInt64.shiftRight_zero] at hzero
  rw [x8, hlow, byte8 value (by decide), byte8 value (by decide), byte8 value (by decide),
    byte8 value (by decide), byte8 value (by decide), byte8 value (by decide),
    byte8 value (by decide)]
  simp only [UInt64.reduceToNat, toBytes, pow_zero, Nat.div_one, Nat.div_div_eq_div_mul]
  rfl

theorem put_of_le {e : Encoder} {bytes : List UInt8} (h : bytes.length ≤ e.mPayloadLength) :
    e.put bytes = { e with
      written := e.written ++ bytes, mPayloadLength := e.mPayloadLength - bytes.length } :=
  if_neg (by omega)

end Encoder

/-! ### Reading what was written -/

namespace Decoder

open LittleEndian

theorem run_word {α : Type} {size : ℕ} {zero a : α} {value : List UInt8 → α}
    {bs rest : List UInt8} (hbs : bs.length = size) {n : ℕ} (hn : size ≤ n) (e : Bool)
    (hvalue : value (bs ++ rest) = a) :
    (word size zero value).run ⟨bs ++ rest, n, e⟩ = (a, ⟨rest, n - size, e⟩) := by
  subst hbs
  simp only [StateT.run, word, advance, List.drop_left, hvalue]
  rw [if_neg (by omega)]

theorem run_x1 {bs : List UInt8} (hbs : bs.length = 1) (rest : List UInt8) {n : ℕ} (hn : 1 ≤ n)
    (e : Bool) : x1.run ⟨bs ++ rest, n, e⟩ = ((ofBytes bs).toUInt8, ⟨rest, n - 1, e⟩) := by
  match bs, hbs with
  | [b0], _ =>
    refine run_word rfl hn e ?_
    rw [← UInt8.toNat_inj, toNat_value1, Nat.toUInt8_eq, UInt8.toNat_ofNat']
    have hlt : ofBytes [b0] < 2 ^ 8 := lt_of_lt_of_eq (ofBytes_lt _) (by simp)
    rw [Nat.mod_eq_of_lt hlt]
    rfl

theorem run_x2 {bs : List UInt8} (hbs : bs.length = 2) (rest : List UInt8) {n : ℕ} (hn : 2 ≤ n)
    (e : Bool) : x2.run ⟨bs ++ rest, n, e⟩ = ((ofBytes bs).toUInt16, ⟨rest, n - 2, e⟩) := by
  match bs, hbs with
  | [b0, b1], _ =>
    refine run_word rfl hn e ?_
    rw [← UInt16.toNat_inj, toNat_value2, Nat.toUInt16_eq, UInt16.toNat_ofNat']
    have hlt : ofBytes [b0, b1] < 2 ^ 16 := lt_of_lt_of_eq (ofBytes_lt _) (by simp)
    rw [Nat.mod_eq_of_lt hlt]
    rfl

theorem run_x4 {bs : List UInt8} (hbs : bs.length = 4) (rest : List UInt8) {n : ℕ} (hn : 4 ≤ n)
    (e : Bool) : x4.run ⟨bs ++ rest, n, e⟩ = ((ofBytes bs).toUInt32, ⟨rest, n - 4, e⟩) := by
  match bs, hbs with
  | [b0, b1, b2, b3], _ =>
    refine run_word rfl hn e ?_
    rw [← UInt32.toNat_inj, toNat_value4, Nat.toUInt32_eq, UInt32.toNat_ofNat']
    have hlt : ofBytes [b0, b1, b2, b3] < 2 ^ 32 := lt_of_lt_of_eq (ofBytes_lt _) (by simp)
    rw [Nat.mod_eq_of_lt hlt]
    rfl

theorem run_x8 {bs : List UInt8} (hbs : bs.length = 8) (rest : List UInt8) {n : ℕ} (hn : 8 ≤ n)
    (e : Bool) : x8.run ⟨bs ++ rest, n, e⟩ = ((ofBytes bs).toUInt64, ⟨rest, n - 8, e⟩) := by
  match bs, hbs with
  | [b0, b1, b2, b3, b4, b5, b6, b7], _ =>
    refine run_word rfl hn e ?_
    rw [← UInt64.toNat_inj, toNat_value8, Nat.toUInt64_eq, UInt64.toNat_ofNat']
    have hlt : ofBytes [b0, b1, b2, b3, b4, b5, b6, b7] < 2 ^ 64 :=
      lt_of_lt_of_eq (ofBytes_lt _) (by simp)
    rw [Nat.mod_eq_of_lt hlt]
    rfl

/-- A field that does not fit sets the error. -/
theorem run_word_short {α : Type} {size : ℕ} {zero : α} {value : List UInt8 → α} {d : Decoder}
    (h : d.mPayloadLength < size) : (word size zero value).run d = (zero, d.failed) :=
  if_pos h

end Decoder

end SuplLpp.Ubx
