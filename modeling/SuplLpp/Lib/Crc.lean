import Mathlib.Data.BitVec
import Mathlib.Logic.Function.Iterate

/-!
# Cyclic redundancy checks

The remainder of a message modulo a polynomial, computed in a register of `w` bits.

* `shift poly c`, one zero bit is fed in; `byteStep`, one byte is; `hash`, a message is;
* `feed`, `bitHash`: the same for a message of single bits, in a register of any size;
* `byteStep_eq_table`: a byte is worth one look-up in the table of the 256 remainders of
  single bytes, because shifting is linear (`shift_xor`) and plain while no set bit leaves
  the register (`iterate_shift_low`);
* `getD_of_map_eq`: a table of a program, compared with the remainders as a list.
-/

namespace Crc

variable {w : ℕ} (poly : BitVec w)

/-- Feed in a zero bit: the bit that leaves the register is reduced by the polynomial. -/
def shift (c : BitVec w) : BitVec w := if c.msb then (c <<< 1) ^^^ poly else c <<< 1

/-- A byte at the top of the register. -/
def top (w : ℕ) (b : UInt8) : BitVec w := (b.toBitVec.setWidth w) <<< (w - 8)

def byteStep (c : BitVec w) (b : UInt8) : BitVec w := (shift poly)^[8] (c ^^^ top w b)

/-- The remainder of a message. -/
def hash (bs : List UInt8) : BitVec w := bs.foldl (byteStep poly) 0

/-- Feed in one bit of the message. -/
def feed (c : BitVec w) (b : Bool) : BitVec w :=
  if c.msb != b then (c <<< 1) ^^^ poly else c <<< 1

/-- The remainder of a message of single bits. -/
def bitHash (bs : List Bool) : BitVec w := bs.foldl (feed poly) 0

/-- The remainder of a single byte. -/
def table (b : UInt8) : BitVec w := (shift poly)^[8] (top w b)

theorem shift_xor (a b : BitVec w) : shift poly (a ^^^ b) = shift poly a ^^^ shift poly b := by
  unfold shift
  rw [BitVec.msb_xor, BitVec.shiftLeft_xor_distrib]
  cases a.msb <;> cases b.msb
  · simp
  · simp [BitVec.xor_assoc]
  · simp only [Bool.bne_false, if_true, Bool.false_eq_true, if_false]
    rw [BitVec.xor_assoc, BitVec.xor_comm (b <<< 1) poly, ← BitVec.xor_assoc]
  · simp only [bne_self_eq_false, if_true, Bool.false_eq_true, if_false]
    rw [BitVec.xor_assoc, BitVec.xor_comm poly, BitVec.xor_assoc, BitVec.xor_self,
      BitVec.xor_zero]

theorem iterate_shift_xor (n : ℕ) (a b : BitVec w) :
    (shift poly)^[n] (a ^^^ b) = (shift poly)^[n] a ^^^ (shift poly)^[n] b := by
  induction n generalizing a b with
  | zero => rfl
  | succ n ih => rw [Function.iterate_succ_apply, shift_xor, ih]; rfl

/-- While no set bit leaves the register, shifting is plain. -/
theorem iterate_shift_low (n : ℕ) (c : BitVec w)
    (h : ∀ i, i < n → c.getMsbD i = false) : (shift poly)^[n] c = c <<< n := by
  induction n generalizing c with
  | zero => simp
  | succ n ih =>
    have hmsb : c.msb = false := by
      rw [BitVec.msb_eq_getMsbD_zero]
      exact h 0 (by omega)
    rw [Function.iterate_succ_apply, shift, hmsb, if_neg (by simp), ih]
    · rw [Nat.add_comm n 1, BitVec.shiftLeft_add]
    · intro i hi
      rw [BitVec.getMsbD_shiftLeft]
      exact h (i + 1) (by omega)

theorem getLsbD_top (b : UInt8) (i : ℕ) (hi : i < w) :
    (top w b).getLsbD i = (decide (w - 8 ≤ i) && b.toBitVec.getLsbD (i - (w - 8))) := by
  rw [top, BitVec.getLsbD_shiftLeft, BitVec.getLsbD_setWidth]
  by_cases h : w - 8 ≤ i
  · simp [h, hi, show i - (w - 8) < w from by omega]
  · simp [h, show i < w - 8 from by omega]

/-- **The table-driven step**: one look-up for a byte. -/
theorem byteStep_eq_table (hw : 8 ≤ w) (c : BitVec w) (b : UInt8) :
    byteStep poly c b =
      (c <<< 8) ^^^ table poly (b ^^^ ⟨(c >>> (w - 8)).setWidth 8⟩) := by
  -- the top byte of the register meets the byte that comes in, the rest is only shifted
  have hsplit : c ^^^ top w b = (c &&& (BitVec.allOnes w >>> 8)) ^^^
      top w (b ^^^ ⟨(c >>> (w - 8)).setWidth 8⟩) := by
    apply BitVec.eq_of_getLsbD_eq
    intro i hi
    rw [BitVec.getLsbD_xor, BitVec.getLsbD_xor, getLsbD_top _ _ hi, getLsbD_top _ _ hi,
      BitVec.getLsbD_and, BitVec.getLsbD_ushiftRight, BitVec.getLsbD_allOnes]
    by_cases htop : w - 8 ≤ i
    · simp [htop, show ¬ 8 + i < w from by omega, show i - (w - 8) < 8 from by omega,
        Bool.xor_comm]
    · simp [htop, show 8 + i < w from by omega]
  have hlow : (shift poly)^[8] (c &&& (BitVec.allOnes w >>> 8)) = c <<< 8 := by
    rw [iterate_shift_low]
    · apply BitVec.eq_of_getLsbD_eq
      intro i hi
      simp only [BitVec.getLsbD_shiftLeft, BitVec.getLsbD_and, BitVec.getLsbD_ushiftRight,
        BitVec.getLsbD_allOnes]
      by_cases h8 : i < 8
      · simp [h8]
      · simp [h8, show 8 + (i - 8) < w from by omega]
    · intro i hi
      simp [BitVec.getMsbD, show ¬ 8 + (w - 1 - i) < w from by omega]
  rw [byteStep, hsplit, iterate_shift_xor, hlow, table]

/-! ### Tables of a program -/

/-- A table that was compared as a list holds what it was compared with. -/
theorem getD_of_map_eq {α β : Type} {entries : Array α} {f : α → β} {g : ℕ → β} {size : ℕ}
    (h : entries.toList.map f = (List.range size).map g) {n : ℕ} (hn : n < size) (d : α) :
    f (entries.getD n d) = g n := by
  have hentry := congrArg (·[n]?) h
  simp only [List.getElem?_map, List.getElem?_range hn, Option.map_some, Array.getElem?_toList,
    Option.map_eq_some_iff] at hentry
  obtain ⟨a, ha, hfa⟩ := hentry
  rw [Array.getD_eq_getD_getElem?, ha, Option.getD_some, hfa]

end Crc
