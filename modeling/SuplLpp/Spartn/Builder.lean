import SuplLpp.Lib.Bits
import Mathlib.Data.Rat.Floor

/-!
# `Builder`

The builder of SPARTN payloads writes bits into a buffer of zeros, most significant first.

* `Builder` and its operations; `Holds`: the buffer starts with exactly the bits that were
  written and is zero behind them;
* `Holds.data`: what `data` answers is these bits, padded with zeros to whole bytes.
-/

namespace SuplLpp.Spartn

open Bits

structure Builder where
  mData : List UInt8
  mBitOffset : ℕ

namespace Builder

/-- The constructor. -/
def new (capacity : ℕ) : Builder := ⟨List.replicate capacity 0, 0⟩

def reserve (builder : Builder) (bits : ℕ) : Builder :=
  let newSize := (builder.mBitOffset + bits + 7) / 8
  { builder with
    mData := builder.mData ++ List.replicate (newSize - builder.mData.length) 0 }

/-- One round of the loop of `bits`. -/
def bit (builder : Builder) (valueBit : UInt8) : Builder :=
  let byteOffset := builder.mBitOffset / 8
  let bitOffset := 7 - builder.mBitOffset % 8
  { mData := builder.mData.modify byteOffset (· ||| (valueBit <<< bitOffset.toUInt8))
    mBitOffset := builder.mBitOffset + 1 }

def bits (builder : Builder) (value : UInt64) (bits : ℕ) : Builder :=
  (List.range bits).foldl
    (fun builder i =>
      let valueBitOffset := bits - i - 1
      builder.bit ((value >>> valueBitOffset.toUInt64) &&& 1).toUInt8) (builder.reserve bits)

def b (builder : Builder) (value : Bool) : Builder := builder.bits (if value then 1 else 0) 1

def data (builder : Builder) : List UInt8 :=
  let size := (builder.mBitOffset + 7) / 8
  builder.mData.take size ++ List.replicate (size - builder.mData.length) 0

/-! ### What the buffer holds -/

/-- The buffer starts with the bits `bs` and is zero behind them. -/
structure Holds (builder : Builder) (bs : List Bool) : Prop where
  offset_eq : builder.mBitOffset = bs.length
  bits_eq : ∃ pad, bytesBits builder.mData = bs ++ List.replicate pad false

theorem bytesBits_replicate_zero (n : ℕ) :
    bytesBits (List.replicate n 0) = List.replicate (8 * n) false := by
  induction n with
  | zero => rfl
  | succ n ih =>
    have hzero : byteBits 0 = List.replicate 8 false := rfl
    rw [List.replicate_succ, bytesBits_cons, ih, hzero, List.replicate_append_replicate]
    congr 1
    omega

theorem holds_new (capacity : ℕ) : Holds (new capacity) [] :=
  ⟨rfl, 8 * capacity, bytesBits_replicate_zero capacity⟩

theorem Holds.reserve {builder : Builder} {bs : List Bool} (h : Holds builder bs) (n : ℕ) :
    Holds (builder.reserve n) bs ∧ bs.length + n ≤ 8 * (builder.reserve n).mData.length := by
  obtain ⟨hoffset, pad, hbits⟩ := h
  refine ⟨⟨hoffset, pad + 8 * ((builder.mBitOffset + n + 7) / 8 - builder.mData.length), ?_⟩, ?_⟩
  · simp only [Builder.reserve, bytesBits_append, hbits, bytesBits_replicate_zero,
      List.append_assoc, List.replicate_append_replicate]
  · simp only [Builder.reserve, List.length_append, List.length_replicate, hoffset]
    omega

/-- A bit goes into the first zero behind the bits that are there. -/
theorem Holds.bit {builder : Builder} {bs : List Bool} {valueBit : UInt8} {b : Bool}
    (h : Holds builder bs) (hroom : bs.length < 8 * builder.mData.length)
    (hbit : valueBit.toNat = b.toNat) : Holds (builder.bit valueBit) (bs ++ [b]) := by
  obtain ⟨hoffset, pad, hbits⟩ := h
  -- the byte that takes the bit, and the bytes around it
  obtain ⟨l, x, r, hdata, hl⟩ : ∃ l x r, builder.mData = l ++ x :: r ∧
      l.length = builder.mBitOffset / 8 := by
    have hlt : builder.mBitOffset / 8 < builder.mData.length := by omega
    refine ⟨builder.mData.take (builder.mBitOffset / 8), builder.mData[builder.mBitOffset / 8],
      builder.mData.drop (builder.mBitOffset / 8 + 1), ?_, ?_⟩
    · rw [← List.drop_eq_getElem_cons hlt, List.take_append_drop]
    · rw [List.length_take]
      omega
  have hk := congrArg List.length hbits
  rw [hdata, bytesBits_append, bytesBits_cons] at hbits hk
  simp only [List.length_append, length_bytesBits, length_byteBits, List.length_replicate] at hk
  obtain ⟨n, hn⟩ : ∃ n, n = 7 - builder.mBitOffset % 8 := ⟨_, rfl⟩
  obtain ⟨rest, hrest⟩ : ∃ rest, pad = n + 1 + rest := ⟨pad - (n + 1), by omega⟩
  have hsplit : bs ++ List.replicate pad false = bs.take (8 * l.length) ++
      ((bs.drop (8 * l.length) ++ List.replicate (n + 1) false) ++ List.replicate rest false) := by
    rw [hrest, ← List.replicate_append_replicate, ← List.append_assoc, ← List.append_assoc,
      ← List.append_assoc, List.take_append_drop]
  rw [hsplit] at hbits
  obtain ⟨hleft, hright⟩ := List.append_inj hbits (by
    rw [length_bytesBits, List.length_take]
    omega)
  obtain ⟨hx, hr⟩ := List.append_inj hright (by
    rw [length_byteBits, List.length_append, List.length_drop, List.length_replicate]
    omega)
  refine ⟨by simp [Builder.bit, hoffset], n + rest, ?_⟩
  have hmodify : builder.mData.modify (builder.mBitOffset / 8)
      (· ||| (valueBit <<< (7 - builder.mBitOffset % 8).toUInt8)) =
        l ++ (x ||| (valueBit <<< n.toUInt8)) :: r := by
    rw [hdata, ← hl, List.modify_eq_take_cons_drop (by simp), hn]
    simp
  simp only [Builder.bit, hmodify, bytesBits_append, bytesBits_cons]
  rw [byteBits_or hx hbit, hleft, hr, ← List.replicate_append_replicate]
  calc List.take (8 * l.length) bs ++
        (List.drop (8 * l.length) bs ++ b :: List.replicate n false ++ List.replicate rest false)
      = (List.take (8 * l.length) bs ++ List.drop (8 * l.length) bs) ++
          (b :: List.replicate n false ++ List.replicate rest false) := by
        simp only [List.append_assoc]
    _ = bs ++ [b] ++ (List.replicate n false ++ List.replicate rest false) := by
        rw [List.take_append_drop]
        simp

theorem length_bit (builder : Builder) (valueBit : UInt8) :
    (builder.bit valueBit).mData.length = builder.mData.length := by
  simp [Builder.bit]

/-- Rounds of the loop, as long as there is room for them. -/
theorem Holds.rounds {builder : Builder} {bs : List Bool} {f : ℕ → UInt8} {g : ℕ → Bool}
    {is : List ℕ} (h : Holds builder bs)
    (hroom : bs.length + is.length ≤ 8 * builder.mData.length)
    (hbit : ∀ i ∈ is, (f i).toNat = (g i).toNat) :
    Holds (is.foldl (fun builder i => builder.bit (f i)) builder) (bs ++ is.map g) := by
  induction is generalizing builder bs with
  | nil => simpa using h
  | cons i is ih =>
    rw [List.length_cons] at hroom
    have hone := h.bit (by omega) (hbit i (List.mem_cons_self ..))
    have hrest := ih hone (by
      rw [length_bit, List.length_append, List.length_singleton]
      omega) (fun j hj => hbit j (List.mem_cons_of_mem _ hj))
    rwa [List.append_assoc, List.singleton_append] at hrest

theorem Holds.bits {builder : Builder} {bs : List Bool} (h : Holds builder bs) (value : UInt64)
    {n : ℕ} (hn : n ≤ 64) : Holds (builder.bits value n) (bs ++ ofNat n value.toNat) := by
  obtain ⟨hreserve, hroom⟩ := h.reserve n
  rw [← map_testBit_range]
  apply hreserve.rounds
  · rwa [List.length_range]
  · intro i hi
    rw [List.mem_range] at hi
    exact toNat_wordBit value (by omega)

theorem Holds.b {builder : Builder} {bs : List Bool} (h : Holds builder bs) (value : Bool) :
    Holds (builder.b value) (bs ++ [value]) := by
  have hone := h.bits (if value then 1 else 0) (show 1 ≤ 64 by omega)
  cases value <;> exact hone

/-- Writing bits one after the other. -/
def write (builder : Builder) (bs : List Bool) : Builder := bs.foldl Builder.b builder

theorem Holds.write {builder : Builder} {cs : List Bool} (h : Holds builder cs) (bs : List Bool) :
    Holds (builder.write bs) (cs ++ bs) := by
  induction bs generalizing builder cs with
  | nil => simpa [Builder.write] using h
  | cons b bs ih =>
    have hrest := ih (h.b b)
    rwa [List.append_assoc, List.singleton_append] at hrest

/-- The answer of `data`: the bits, and zeros up to a whole byte. -/
theorem Holds.data {builder : Builder} {bs : List Bool} (h : Holds builder bs) :
    bytesBits builder.data = bs ++ List.replicate ((8 - bs.length % 8) % 8) false := by
  obtain ⟨hoffset, pad, hbits⟩ := h
  have hlen := congrArg List.length hbits
  rw [length_bytesBits, List.length_append, List.length_replicate] at hlen
  -- the buffer is never shorter than what was written
  have hroom : (builder.mBitOffset + 7) / 8 - builder.mData.length = 0 := by omega
  simp only [Builder.data, hroom, List.replicate_zero, List.append_nil]
  rw [bytesBits_take, hbits, List.take_append, List.take_of_length_le (by omega),
    List.take_replicate]
  congr 2
  omega

end Builder

end SuplLpp.Spartn
