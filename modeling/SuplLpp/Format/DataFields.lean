import Mathlib.Data.UInt
import SuplLpp.Rtcm.Encoder

/-!
# The data fields of `format::rtcm`

A message is decoded from a bit set that holds its bytes, the first bit of the message on top.

* `fillBits`, `getsubbits` and `asSigned`, as the source has them;
* `getsubbits_fillBits`: a field is read as the number that its bits spell;
* `Op`, `Op.run`: what can be done with the encoder of the generator, field by field;
* `fields_agree`: what the encoder writes is what `getsubbits` reads.
-/

namespace SuplLpp.Format.Rtcm

open Bits SuplLpp.Rtcm

/-! ### The bit set of a message -/

section BitSet

variable {n : ℕ}

/-- `bits[position] = value`. -/
def setBit (bits : BitVec n) (position : ℕ) (value : Bool) : BitVec n :=
  if value then bits ||| BitVec.twoPow n position else bits &&& ~~~BitVec.twoPow n position

/-- The bit of the message that the inner loop looks at. -/
def bitOf (data : List UInt8) (i j : ℕ) : Bool :=
  ((data.getD i 0 >>> (7 - j).toUInt8) &&& 1) != 0

/-- The inner loop, up to some bit of a byte. -/
def fillByte (data : List UInt8) (i : ℕ) (bits : BitVec n) (rounds : ℕ) : BitVec n :=
  (List.range rounds).foldl (fun bits j => setBit bits (n - 1 - (i * 8 + j)) (bitOf data i j)) bits

/-- The two loops at the start of each `parse`. -/
def fillBits (n : ℕ) (data : List UInt8) : BitVec n :=
  (List.range (n / 8)).foldl (fun bits i => fillByte data i bits 8) 0

def getsubbits (data : BitVec n) (i l : ℕ) : UInt64 :=
  ((data >>> (n - i - l)) &&& BitVec.ofNat n ((1 <<< l.toUInt64 : UInt64) - 1).toNat).toNat.toUInt64

/-- `as_signed`, of a field of `len` bits. -/
def asSigned (len : ℕ) (b : UInt64) : Int64 :=
  if b &&& (1 <<< (len - 1).toUInt64) ≠ 0 then (b ||| (~~~0 <<< len.toUInt64)).toInt64
  else b.toInt64

/-! ### What the loops fill in -/

theorem getMsbD_setBit (bits : BitVec n) {p q : ℕ} (hp : p < n) (hq : q < n) (value : Bool) :
    (setBit bits (n - 1 - q) value).getMsbD p = if p = q then value else bits.getMsbD p := by
  have hplace : n - 1 - q = n - 1 - p ↔ p = q := by omega
  have hpow : (BitVec.twoPow n (n - 1 - q)).getLsbD (n - 1 - p) = decide (p = q) := by
    rw [BitVec.getLsbD_twoPow]
    simp only [hplace, show n - 1 - q < n by omega, decide_true, Bool.true_and]
  simp only [BitVec.getMsbD, hp, decide_true, Bool.true_and, setBit]
  cases value with
  | true =>
    rw [if_pos rfl, BitVec.getLsbD_or, hpow]
    by_cases h : p = q <;> simp [h]
  | false =>
    rw [if_neg Bool.false_ne_true, BitVec.getLsbD_and, BitVec.getLsbD_not, hpow]
    by_cases h : p = q
    · simp [h]
    · simp [h, show n - 1 - p < n by omega]

theorem getMsbD_fillByte (data : List UInt8) {i : ℕ} (hi : i * 8 + 8 ≤ n) (bits : BitVec n)
    {rounds : ℕ} (hrounds : rounds ≤ 8) {p : ℕ} (hp : p < n) :
    (fillByte data i bits rounds).getMsbD p =
      if i * 8 ≤ p ∧ p < i * 8 + rounds then bitOf data (p / 8) (p % 8) else bits.getMsbD p := by
  induction rounds with
  | zero =>
    rw [if_neg (by omega)]
    rfl
  | succ rounds ih =>
    have hlast : fillByte data i bits (rounds + 1) =
        setBit (fillByte data i bits rounds) (n - 1 - (i * 8 + rounds)) (bitOf data i rounds) := by
      rw [fillByte, List.range_succ, List.foldl_append]
      rfl
    rw [hlast, getMsbD_setBit _ hp (by omega), ih (by omega)]
    by_cases heq : p = i * 8 + rounds
    · have hdiv : p / 8 = i := by omega
      have hmod : p % 8 = rounds := by omega
      rw [if_pos heq, if_pos (by omega), hdiv, hmod]
    · rw [if_neg heq]
      by_cases hin : i * 8 ≤ p ∧ p < i * 8 + rounds
      · rw [if_pos hin, if_pos (by omega)]
      · rw [if_neg hin, if_neg (by omega)]

theorem getMsbD_fillBits (data : List UInt8) (hn : n % 8 = 0) {p : ℕ} (hp : p < n) :
    (fillBits n data).getMsbD p = bitOf data (p / 8) (p % 8) := by
  have hloop : ∀ rounds ≤ n / 8,
      ((List.range rounds).foldl (fun bits i => fillByte data i bits 8) (0 : BitVec n)).getMsbD p =
        if p < 8 * rounds then bitOf data (p / 8) (p % 8) else false := by
    intro rounds hrounds
    induction rounds with
    | zero => simp
    | succ rounds ih =>
      rw [List.range_succ, List.foldl_append, List.foldl_cons, List.foldl_nil,
        getMsbD_fillByte data (by omega) _ (Nat.le_refl 8) hp, ih (by omega)]
      by_cases hin : rounds * 8 ≤ p ∧ p < rounds * 8 + 8
      · rw [if_pos hin, if_pos (by omega)]
      · rw [if_neg hin]
        by_cases hbelow : p < 8 * rounds
        · rw [if_pos hbelow, if_pos (by omega)]
        · rw [if_neg hbelow, if_neg (by omega)]
  rw [fillBits, hloop _ (Nat.le_refl _), if_pos (by omega)]

end BitSet

theorem bitOf_eq (data : List UInt8) (i : ℕ) {j : ℕ} (hj : j < 8) :
    bitOf data i j = (data.getD i 0).toNat.testBit (7 - j) := by
  rw [bitOf]
  generalize data.getD i 0 = byte
  have hshift : (7 - j).toUInt8.toNat % 8 = 7 - j := by
    rw [Nat.toUInt8_eq, UInt8.toNat_ofNat']
    omega
  have hbit : ((byte >>> (7 - j).toUInt8) &&& 1).toNat = (byte.toNat.testBit (7 - j)).toNat := by
    rw [UInt8.toNat_and, UInt8.toNat_shiftRight, hshift, UInt8.toNat_one, Nat.and_one_is_mod,
      Nat.shiftRight_eq_div_pow, Nat.testBit_eq_decide_div_mod_eq]
    rcases Nat.mod_two_eq_zero_or_one (byte.toNat / 2 ^ (7 - j)) with h0 | h1
    · simp [h0]
    · simp [h1]
  cases htest : byte.toNat.testBit (7 - j) with
  | false =>
    rw [htest, Bool.toNat_false] at hbit
    rw [bne_eq_false_iff_eq, ← UInt8.toNat_inj, hbit]
    rfl
  | true =>
    rw [htest, Bool.toNat_true] at hbit
    rw [bne_iff_ne, ne_eq, ← UInt8.toNat_inj, hbit]
    decide

/-- The bits of bytes, one by one. -/
theorem getD_bytesBits (data : List UInt8) (p : ℕ) :
    (bytesBits data).getD p false = (data.getD (p / 8) 0).toNat.testBit (7 - p % 8) := by
  induction data generalizing p with
  | nil => simp
  | cons b data ih =>
    rw [bytesBits_cons]
    by_cases hp : p < 8
    · have hin : p < (byteBits b).length := by rw [length_byteBits]; exact hp
      rw [List.getD_append _ _ _ _ hin, List.getD_eq_getElem _ _ hin, Nat.div_eq_of_lt hp,
        List.getD_cons_zero, Nat.mod_eq_of_lt hp]
      exact getElem_ofNat hin
    · have hdiv : p / 8 = (p - 8) / 8 + 1 := by omega
      have hmod : p % 8 = (p - 8) % 8 := by omega
      rw [List.getD_append_right _ _ _ _ (by rw [length_byteBits]; omega), length_byteBits, ih,
        hdiv, List.getD_cons_succ, hmod]

theorem bytesBits_drop (data : List UInt8) (k : ℕ) :
    (bytesBits data).drop (8 * k) = bytesBits (data.drop k) := by
  induction k generalizing data with
  | zero => rfl
  | succ k ih =>
    cases data with
    | nil => simp
    | cons b data =>
      rw [bytesBits_cons, List.drop_succ_cons, ← ih, List.drop_append, length_byteBits,
        List.drop_of_length_le (by rw [length_byteBits]; omega), List.nil_append,
        show 8 * (k + 1) - 8 = 8 * k by omega]

/-- The bits of the number that a bit string spells. -/
theorem testBit_toNat (bs : List Bool) {k : ℕ} (hk : k < bs.length) :
    (toNat bs).testBit k = bs.getD (bs.length - 1 - k) false := by
  have hplace : bs.length - 1 - k < (ofNat bs.length (toNat bs)).length := by
    rw [length_ofNat]
    omega
  have hget := getElem_ofNat hplace
  rw [show bs.length - 1 - (bs.length - 1 - k) = k by omega] at hget
  rw [← hget, List.getD_eq_getElem _ _ (by omega)]
  simp only [ofNat_toNat]

/-- The bit set is the number that the first bits of the message spell. -/
theorem toNat_fillBits {n : ℕ} {data : List UInt8} (hn : n % 8 = 0) (hdata : n ≤ 8 * data.length) :
    (fillBits n data).toNat = toNat ((bytesBits data).take n) := by
  have hlength : ((bytesBits data).take n).length = n := by
    rw [List.length_take, length_bytesBits]
    omega
  refine Nat.eq_of_testBit_eq fun k => ?_
  by_cases hk : k < n
  · have hmsb := getMsbD_fillBits data hn (show n - 1 - k < n by omega)
    rw [BitVec.getMsbD, show n - 1 - (n - 1 - k) = k by omega, BitVec.getLsbD,
      decide_eq_true (show n - 1 - k < n by omega), Bool.true_and] at hmsb
    have htake : ((bytesBits data).take n).getD (n - 1 - k) false =
        (bytesBits data).getD (n - 1 - k) false := by
      rw [List.getD_eq_getElem?_getD, List.getElem?_take_of_lt (by omega),
        ← List.getD_eq_getElem?_getD]
    rw [hmsb, bitOf_eq _ _ (by omega), testBit_toNat _ (by omega), hlength, htake, getD_bytesBits]
  · have hbelow : 2 ^ n ≤ 2 ^ k := Nat.pow_le_pow_right (by decide) (Nat.not_lt.1 hk)
    have hnumber := toNat_lt ((bytesBits data).take n)
    rw [hlength] at hnumber
    rw [Nat.testBit_lt_two_pow (lt_of_lt_of_le (BitVec.isLt _) hbelow),
      Nat.testBit_lt_two_pow (lt_of_lt_of_le hnumber hbelow)]

/-- A field of a number, by division. -/
theorem toNat_slice {bs : List Bool} {i l : ℕ} (h : i + l ≤ bs.length) :
    toNat bs / 2 ^ (bs.length - i - l) % 2 ^ l = toNat ((bs.drop i).take l) := by
  have hsplit : bs = bs.take i ++ ((bs.drop i).take l ++ (bs.drop i).drop l) := by
    rw [List.take_append_drop, List.take_append_drop]
  have hfield : ((bs.drop i).take l).length = l := by
    rw [List.length_take, List.length_drop]
    omega
  have hrest : ((bs.drop i).drop l).length = bs.length - i - l := by
    rw [List.length_drop, List.length_drop]
  have hfieldlt := toNat_lt ((bs.drop i).take l)
  have hrestlt := toNat_lt ((bs.drop i).drop l)
  rw [hfield] at hfieldlt
  rw [hrest] at hrestlt
  have hvalue : toNat bs = 2 ^ (bs.length - i - l) *
      (2 ^ l * toNat (bs.take i) + toNat ((bs.drop i).take l)) + toNat ((bs.drop i).drop l) := by
    conv_lhs => rw [hsplit]
    rw [toNat_append, toNat_append, List.length_append, hfield, hrest, pow_add]
    ring
  rw [hvalue, Nat.mul_add_div (Nat.two_pow_pos _), Nat.div_eq_of_lt hrestlt, Nat.add_zero,
    Nat.mul_add_mod, Nat.mod_eq_of_lt hfieldlt]

theorem toNat_one_shift {l : ℕ} (hl : l < 64) : (1 <<< l.toUInt64 : UInt64).toNat = 2 ^ l := by
  have hshift : l.toUInt64.toNat % 64 = l := by
    rw [Nat.toUInt64_eq, UInt64.toNat_ofNat']
    omega
  rw [UInt64.toNat_shiftLeft, hshift, UInt64.toNat_one, Nat.one_shiftLeft,
    Nat.mod_eq_of_lt (Nat.pow_lt_pow_right (by omega) hl)]

theorem toNat_mask {l : ℕ} (hl : l < 64) :
    ((1 <<< l.toUInt64 : UInt64) - 1).toNat = 2 ^ l - 1 := by
  have hone : (1 : UInt64) ≤ 1 <<< l.toUInt64 := by
    rw [UInt64.le_iff_toNat_le, toNat_one_shift hl]
    exact Nat.two_pow_pos l
  rw [UInt64.toNat_sub_of_le _ _ hone, toNat_one_shift hl]
  rfl

/-- A field is read as the number that its bits spell. -/
theorem getsubbits_fillBits {n : ℕ} {data : List UInt8} (hn : n % 8 = 0)
    (hdata : n ≤ 8 * data.length) {i l : ℕ} (hl : l < 64) (hend : i + l ≤ n) :
    getsubbits (fillBits n data) i l = (toNat (((bytesBits data).drop i).take l)).toUInt64 := by
  have hlength : ((bytesBits data).take n).length = n := by
    rw [List.length_take, length_bytesBits]
    omega
  have hpow : 2 ^ l ≤ 2 ^ n := Nat.pow_le_pow_right (by decide) (by omega)
  have hpos := Nat.two_pow_pos l
  have hslice := toNat_slice (show i + l ≤ ((bytesBits data).take n).length by omega)
  have hcut : (((bytesBits data).take n).drop i).take l = ((bytesBits data).drop i).take l := by
    rw [List.drop_take, List.take_take, Nat.min_eq_left (by omega)]
  rw [hlength, hcut] at hslice
  rw [getsubbits, BitVec.toNat_and, BitVec.toNat_ushiftRight, BitVec.toNat_ofNat, toNat_mask hl,
    Nat.mod_eq_of_lt (by omega), Nat.and_two_pow_sub_one_eq_mod, Nat.shiftRight_eq_div_pow,
    toNat_fillBits hn hdata, hslice]

/-! ### Signs -/

theorem toInt_toInt64 (b : UInt64) :
    b.toInt64.toInt = if 2 * b.toNat < 2 ^ 64 then (b.toNat : ℤ) else b.toNat - 2 ^ 64 :=
  BitVec.toInt_eq_toNat_cond b.toBitVec

theorem high_mod (a b : ℕ) :
    ((b + 1) * (a + 1) - 1) * (a + 1) % ((b + 1) * (a + 1)) = b * (a + 1) := by
  have hproduct : (b + 1) * (a + 1) = b * a + b + a + 1 := by ring
  have hsplit : (b * a + b + a) * (a + 1) = b * (a + 1) + (b * a + b + a + 1) * a := by ring
  have hlt : b * (a + 1) < b * a + b + a + 1 := by
    rw [Nat.mul_succ]
    omega
  rw [hproduct, Nat.add_sub_cancel, hsplit, Nat.add_mul_mod_self_left, Nat.mod_eq_of_lt hlt]

/-- All bits from some place on. -/
theorem toNat_high {l : ℕ} (hl : l < 64) :
    (~~~0 <<< l.toUInt64 : UInt64).toNat = (2 ^ (64 - l) - 1) <<< l := by
  have hshift : l.toUInt64.toNat % 64 = l := by
    rw [Nat.toUInt64_eq, UInt64.toNat_ofNat']
    omega
  have hsplit : 2 ^ (64 - l) * 2 ^ l = 2 ^ 64 := by
    rw [← pow_add, Nat.sub_add_cancel hl.le]
  have hmod : (2 ^ 64 - 1) * 2 ^ l % 2 ^ 64 = (2 ^ (64 - l) - 1) * 2 ^ l := by
    have hall := high_mod (2 ^ l - 1) (2 ^ (64 - l) - 1)
    rwa [Nat.sub_add_cancel Nat.one_le_two_pow, Nat.sub_add_cancel Nat.one_le_two_pow, hsplit]
      at hall
  rw [UInt64.toNat_shiftLeft, hshift, Nat.shiftLeft_eq, Nat.shiftLeft_eq, ← hmod]
  rfl

theorem asSigned_toNat {bs : List Bool} (hpos : 0 < bs.length) (hlength : bs.length < 64) :
    (asSigned bs.length (toNat bs).toUInt64).toInt = toInt bs := by
  match bs, hpos with
  | b :: tail, _ =>
    have htail := toNat_lt tail
    rw [List.length_cons] at hlength
    have hpow : 2 ^ (tail.length + 1) ≤ 2 ^ 63 := Nat.pow_le_pow_right (by decide) (by omega)
    have hvalue := toNat_lt (b :: tail)
    rw [List.length_cons] at hvalue
    have hnat : (toNat (b :: tail)).toUInt64.toNat = toNat (b :: tail) := by
      rw [Nat.toUInt64_eq, UInt64.toNat_ofNat', Nat.mod_eq_of_lt (by omega)]
    have hbit : (toNat (b :: tail)).testBit tail.length = b := by
      rw [testBit_toNat _ (by simp)]
      simp
    have hmasked : ((toNat (b :: tail)).toUInt64 &&& (1 <<< tail.length.toUInt64)).toNat =
        b.toNat * 2 ^ tail.length := by
      rw [UInt64.toNat_and, hnat, toNat_one_shift (by omega), Nat.and_two_pow, hbit]
    rw [asSigned, List.length_cons, Nat.add_sub_cancel]
    cases b with
    | false =>
      rw [if_neg (by rw [not_not, ← UInt64.toNat_inj, hmasked]; simp), toInt_toInt64, hnat,
        if_pos (by omega), toInt]
      simp
    | true =>
      have hset : (toNat (true :: tail)).toUInt64 &&& (1 <<< tail.length.toUInt64) ≠ 0 := by
        rw [ne_eq, ← UInt64.toNat_inj, hmasked]
        have := Nat.two_pow_pos tail.length
        simp
      have hor : ((toNat (true :: tail)).toUInt64 |||
          (~~~0 <<< (tail.length + 1).toUInt64)).toNat =
          (2 ^ (64 - (tail.length + 1)) - 1) * 2 ^ (tail.length + 1) + toNat (true :: tail) := by
        rw [UInt64.toNat_or, hnat, toNat_high (by omega), Nat.or_comm,
          ← Nat.shiftLeft_add_eq_or_of_lt hvalue, Nat.shiftLeft_eq]
      have hsplit : 2 ^ (64 - (tail.length + 1)) * 2 ^ (tail.length + 1) = 2 ^ 64 := by
        rw [← pow_add, Nat.sub_add_cancel hlength.le]
      have hdouble : 2 ^ (tail.length + 1) = 2 * 2 ^ tail.length := by ring
      rw [if_pos hset, toInt_toInt64, hor, Nat.sub_mul, hsplit, toInt, toNat_cons, hdouble]
      rw [hdouble] at hpow
      rw [if_neg (by omega)]
      have hcast : ((2 ^ tail.length : ℕ) : ℤ) = 2 ^ tail.length := by push_cast; rfl
      rw [Bool.toNat_true, ← hcast]
      omega

/-! ### Writing fields -/

/-- What can be written: an unsigned or signed field of some bits, and whole bytes.  The other
operations of the encoder are one of the first two, with a wider value. -/
inductive Op
  | u64 (bits : ℕ) (value : UInt64)
  | i64 (bits : ℕ) (value : Int64)
  | copy (buffer : List UInt8)

namespace Op

def run (encoder : Encoder) : Op → Encoder
  | .u64 bits value => encoder.u64 bits value
  | .i64 bits value => encoder.i64 bits value
  | .copy buffer => encoder.copy buffer

/-- The value is in the range of the field. -/
def InRange : Op → Prop
  | .u64 bits value => 1 ≤ bits ∧ bits ≤ 63 ∧ value.toNat < 2 ^ bits
  | .i64 bits value =>
      1 ≤ bits ∧ bits ≤ 63 ∧ -2 ^ (bits - 1) ≤ value.toInt ∧ value.toInt < 2 ^ (bits - 1)
  | .copy _ => True

/-- Where the operation begins, behind so many bits: bytes are copied behind whole bytes. -/
def start (offset : ℕ) : Op → ℕ
  | .u64 _ _ => offset
  | .i64 _ _ => offset
  | .copy _ => 8 * ((offset + 7) / 8)

def size : Op → ℕ
  | .u64 bits _ => bits
  | .i64 bits _ => bits
  | .copy buffer => 8 * buffer.length

/-- The offset behind the operations. -/
def offset (ops : List Op) : ℕ := ops.foldl (fun offset op => op.start offset + op.size) 0

/-- The value is read from the bit set of the first `n` bits, at the place where it was written. -/
def ReadBack (n : ℕ) (data : List UInt8) (start : ℕ) : Op → Prop
  | .u64 bits value => getsubbits (fillBits n data) start bits = value
  | .i64 bits value => asSigned bits (getsubbits (fillBits n data) start bits) = value
  | .copy buffer => ∀ k < buffer.length,
      getsubbits (fillBits n data) (start + 8 * k) 8 = (buffer.getD k 0).toUInt64

/-- The bits that the operation adds. -/
def fieldBits : Op → List Bool
  | .u64 bits value => ofNat bits value.toNat
  | .i64 bits value => ofNat bits (Encoder.signField bits value.toInt)
  | .copy buffer => bytesBits buffer

theorem length_fieldBits (op : Op) : op.fieldBits.length = op.size := by
  cases op <;> simp [fieldBits, size]

theorem le_start (offset : ℕ) (op : Op) : offset ≤ op.start offset := by
  cases op with
  | u64 => exact Nat.le_refl offset
  | i64 => exact Nat.le_refl offset
  | copy =>
    rw [start]
    omega

/-- One operation: padding up to its start, and its bits. -/
theorem holds_run {encoder : Encoder} {cs : List Bool} (h : encoder.Holds cs) {op : Op}
    (hop : op.InRange) :
    (op.run encoder).Holds
      (cs ++ List.replicate (op.start cs.length - cs.length) false ++ op.fieldBits) := by
  cases op with
  | u64 bits value =>
    simp only [start, Nat.sub_self, List.replicate_zero, List.append_nil]
    exact Encoder.emits_u64 (by have := hop.2.1; omega) value _ _ h
  | i64 bits value =>
    simp only [start, Nat.sub_self, List.replicate_zero, List.append_nil]
    exact Encoder.emits_i64 hop.1 (by have := hop.2.1; omega) value _ _ h
  | copy buffer =>
    have hpad : 8 * ((cs.length + 7) / 8) - cs.length = (8 - cs.length % 8) % 8 := by omega
    have hbytes := h.bytes
    refine ⟨?_, 0, by decide, ?_⟩
    · simp only [run, Encoder.copy, start, fieldBits, List.length_append, List.length_replicate,
        length_bytesBits]
      omega
    · simp only [run, Encoder.copy, start, fieldBits, bytesBits_append, hbytes, hpad,
        List.replicate_zero, List.append_nil]

/-- A field is read back from bits that hold it. -/
theorem readBack_of_bits {data : List UInt8} {n start : ℕ} {op : Op} (hop : op.InRange)
    (hn : n % 8 = 0) (hdata : n ≤ 8 * data.length) (hend : start + op.size ≤ n)
    (hbits : ((bytesBits data).drop start).take op.size = op.fieldBits) :
    op.ReadBack n data start := by
  cases op with
  | u64 bits value =>
    obtain ⟨hpos, hle, hrange⟩ := hop
    rw [size] at hend hbits
    rw [ReadBack, getsubbits_fillBits hn hdata (by omega) hend, hbits, fieldBits, toNat_ofNat,
      Nat.mod_eq_of_lt hrange]
    simp
  | i64 bits value =>
    obtain ⟨hpos, hle, hlo, hhi⟩ := hop
    rw [size] at hend hbits
    have hlength : (ofNat bits (Encoder.signField bits value.toInt)).length = bits :=
      length_ofNat _ _
    have hwide : 0 < (ofNat bits (Encoder.signField bits value.toInt)).length := by omega
    have hsigned := asSigned_toNat hwide (by omega)
    obtain ⟨k, rfl⟩ : ∃ k, bits = k + 1 := ⟨bits - 1, by omega⟩
    rw [Nat.add_sub_cancel] at hlo hhi
    rw [hlength, Encoder.toInt_signField hlo hhi] at hsigned
    rw [ReadBack, getsubbits_fillBits hn hdata (by omega) hend, hbits, fieldBits]
    exact Int64.toInt_inj.1 hsigned
  | copy buffer =>
    intro k hk
    rw [size] at hend hbits
    have hinside : ((bytesBits data).drop (start + 8 * k)).take 8 = byteBits (buffer.getD k 0) := by
      have hcut : ((bytesBits data).drop (start + 8 * k)).take 8 =
          ((((bytesBits data).drop start).take (8 * buffer.length)).drop (8 * k)).take 8 := by
        rw [List.drop_take, List.drop_drop, List.take_take, Nat.min_eq_left (by omega)]
      rw [hcut, hbits, fieldBits, bytesBits_drop, List.drop_eq_getElem_cons hk, bytesBits_cons,
        List.getD_eq_getElem _ _ hk]
      exact List.take_left' (length_byteBits _)
    have hbyte : toNat (byteBits (buffer.getD k 0)) = (buffer.getD k 0).toNat := by
      rw [byteBits, toNat_ofNat, Nat.mod_eq_of_lt (UInt8.toNat_lt _)]
    rw [getsubbits_fillBits hn hdata (by decide) (by omega), hinside, hbyte, ← UInt64.toNat_inj]
    simp

/-- The bits of all operations, behind so many bits. -/
def allBits (offset : ℕ) : List Op → List Bool
  | [] => []
  | op :: ops =>
    List.replicate (op.start offset - offset) false ++ op.fieldBits ++
      allBits (op.start offset + op.size) ops

theorem length_allBits (ops : List Op) (offset : ℕ) :
    offset + (allBits offset ops).length =
      ops.foldl (fun offset op => op.start offset + op.size) offset := by
  induction ops generalizing offset with
  | nil => rfl
  | cons op ops ih =>
    have hle := op.le_start offset
    rw [allBits, List.foldl_cons, ← ih, List.length_append, List.length_append,
      List.length_replicate, length_fieldBits]
    omega

theorem allBits_append (before after : List Op) (offset : ℕ) :
    allBits offset (before ++ after) = allBits offset before ++
      allBits (before.foldl (fun offset op => op.start offset + op.size) offset) after := by
  induction before generalizing offset with
  | nil => rfl
  | cons op before ih =>
    rw [List.cons_append, allBits, ih, allBits, List.foldl_cons, List.append_assoc,
      List.append_assoc, List.append_assoc]

theorem holds_foldl {ops : List Op} (hops : ∀ op ∈ ops, op.InRange) {encoder : Encoder}
    {cs : List Bool} (h : encoder.Holds cs) :
    (ops.foldl run encoder).Holds (cs ++ allBits cs.length ops) := by
  induction ops generalizing encoder cs with
  | nil =>
    rw [allBits, List.append_nil]
    exact h
  | cons op ops ih =>
    have hhere := holds_run h (hops op List.mem_cons_self)
    have hrest := ih (fun op hop => hops op (List.mem_cons_of_mem _ hop)) hhere
    have hlength : (cs ++ List.replicate (op.start cs.length - cs.length) false ++
        op.fieldBits).length = op.start cs.length + op.size := by
      have hle := op.le_start cs.length
      rw [List.length_append, List.length_append, List.length_replicate, length_fieldBits]
      omega
    rw [hlength] at hrest
    rw [List.foldl_cons, allBits]
    simpa only [List.append_assoc] using hrest

end Op

/-- **The encoder and the decoder agree.**  Whatever fields are written, in whatever order and
from whatever alignment, the buffer has as many bytes as the bits need, and in the bit set of the
message every field is read as it was written, at the place where it was written. -/
theorem fields_agree {ops : List Op} (hops : ∀ op ∈ ops, op.InRange) :
    let encoder := ops.foldl Op.run Encoder.new
    encoder.byteCount = (Op.offset ops + 7) / 8 ∧
      ∀ (before after : List Op) (op : Op), ops = before ++ op :: after →
        ∀ n, n % 8 = 0 → n ≤ 8 * encoder.byteCount →
          op.start (Op.offset before) + op.size ≤ n →
          op.ReadBack n encoder.mBuffer (op.start (Op.offset before)) := by
  intro encoder
  have hholds := Op.holds_foldl hops Encoder.holds_new
  rw [List.nil_append, List.length_nil] at hholds
  have hoffset : ∀ ops : List Op, (Op.allBits 0 ops).length = Op.offset ops := fun ops => by
    rw [Op.offset, ← Op.length_allBits, Nat.zero_add]
  refine ⟨by rw [hholds.byteCount_eq, hoffset], ?_⟩
  rintro before after op rfl n hn hdata hend
  refine Op.readBack_of_bits (hops op (by simp)) hn hdata hend ?_
  have hbytes := hholds.bytes
  have hlength := hoffset before
  have hle := op.le_start (Op.offset before)
  have hstart : (Op.allBits 0 before ++ List.replicate
      (op.start (Op.offset before) - Op.offset before) false).length =
      op.start (Op.offset before) := by
    rw [List.length_append, List.length_replicate, hlength]
    omega
  rw [Op.allBits_append, Op.allBits, ← Op.offset] at hbytes
  rw [hbytes]
  simp only [← List.append_assoc]
  rw [List.append_assoc, List.append_assoc, List.drop_left' hstart]
  exact List.take_left' op.length_fieldBits

/-- Three bits, the least number of 13 bits, a byte behind the padding and 63 bits. -/
def mixed : List Op := [.u64 3 5, .i64 13 (-4096), .copy [0xAB], .u64 63 (2 ^ 63 - 1)]

theorem fields_agree_mixed :
    (mixed.foldl Op.run Encoder.new).byteCount = 11 ∧
      Op.ReadBack 88 (mixed.foldl Op.run Encoder.new).mBuffer 3 (.i64 13 (-4096)) := by
  have hrange : ∀ op ∈ mixed, op.InRange := by
    simp only [mixed, List.forall_mem_cons, Op.InRange, List.not_mem_nil, false_imp_iff,
      implies_true, true_and, and_true]
    decide +kernel
  obtain ⟨hcount, hread⟩ := fields_agree hrange
  have heleven : (mixed.foldl Op.run Encoder.new).byteCount = 11 := hcount
  refine ⟨heleven, hread [.u64 3 5] [.copy [0xAB], .u64 63 (2 ^ 63 - 1)] _ rfl 88 rfl ?_ ?_⟩
  · rw [heleven]
  · decide

end SuplLpp.Format.Rtcm
