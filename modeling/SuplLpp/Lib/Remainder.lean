import SuplLpp.Lib.Crc
import Mathlib.Algebra.Polynomial.Div
import Mathlib.Algebra.Field.ZMod
import Mathlib.Tactic.LinearCombination

/-!
# Cyclic redundancy checks as remainders of polynomials

The bits of a register, and those of a message, are the coefficients of a polynomial over the field
of two elements.

* `ofBits`, the polynomial of a register; `ofBits_xor`, it turns exclusive or into addition;
* `generator`, a register's polynomial with its leading term; `message`, that of a list of bytes;
* `dvd_sub_shift`, `dvd_sub_byteStep`: what feeding in a bit and a byte does, up to a multiple of
  the generator;
* `ofBits_hash`: the register of a message is the remainder of the message, moved up by the width
  of the register, modulo the generator.
-/

namespace Crc

open Polynomial

variable {w : ℕ}

/-- A bit of a register as a coefficient. -/
def bit (b : Bool) : ZMod 2 := if b then 1 else 0

@[simp] theorem bit_false : bit false = 0 := rfl

@[simp] theorem bit_true : bit true = 1 := rfl

theorem bit_xor (a b : Bool) : bit (a ^^ b) = bit a + bit b := by
  cases a <;> cases b <;> decide

/-- The polynomial whose coefficient of `X ^ i` is the bit `i`. -/
noncomputable def ofBits (c : BitVec w) : (ZMod 2)[X] :=
  ∑ i ∈ Finset.range w, monomial i (bit (c.getLsbD i))

@[simp] theorem coeff_ofBits (c : BitVec w) (i : ℕ) : (ofBits c).coeff i = bit (c.getLsbD i) := by
  simp only [ofBits, finsetSum_coeff, coeff_monomial, Finset.sum_ite_eq', Finset.mem_range]
  split_ifs with hi
  · rfl
  · rw [BitVec.getLsbD_of_ge c i (by omega), bit_false]

theorem ofBits_zero : ofBits (0 : BitVec w) = 0 := by
  ext i
  simp

theorem ofBits_xor (a b : BitVec w) : ofBits (a ^^^ b) = ofBits a + ofBits b := by
  ext i
  rw [coeff_add, coeff_ofBits, coeff_ofBits, coeff_ofBits, BitVec.getLsbD_xor, bit_xor]

theorem degree_ofBits_lt (c : BitVec w) : (ofBits c).degree < w := by
  rw [degree_lt_iff_coeff_zero]
  intro i hi
  rw [coeff_ofBits, BitVec.getLsbD_of_ge c i hi, bit_false]

/-- A wider register has the same polynomial. -/
theorem ofBits_setWidth {v : ℕ} (hv : w ≤ v) (c : BitVec w) :
    ofBits (c.setWidth v) = ofBits c := by
  ext i
  rw [coeff_ofBits, coeff_ofBits, BitVec.getLsbD_setWidth]
  by_cases hi : i < v
  · rw [decide_eq_true hi, Bool.true_and]
  · rw [BitVec.getLsbD_of_ge c i (by omega), Bool.and_false]

/-! ### The generator -/

/-- The polynomial of a check, with the leading term that the register has no room for. -/
noncomputable def generator (poly : BitVec w) : (ZMod 2)[X] := X ^ w + ofBits poly

theorem monic_generator (poly : BitVec w) : (generator poly).Monic :=
  monic_X_pow_add (degree_ofBits_lt poly)

theorem degree_generator (poly : BitVec w) : (generator poly).degree = w := by
  rw [generator, degree_add_eq_left_of_degree_lt]
  · exact degree_X_pow w
  · rw [degree_X_pow]
    exact degree_ofBits_lt poly

/-- The generator is the polynomial of a register that is wider by a bit. -/
theorem generator_eq_cons (poly : BitVec w) : generator poly = ofBits (BitVec.cons true poly) := by
  ext i
  rw [generator, coeff_add, coeff_X_pow, coeff_ofBits, coeff_ofBits, BitVec.getLsbD_cons]
  split_ifs with hi
  · rw [BitVec.getLsbD_of_ge poly i (by omega), bit_false, bit_true, add_zero]
  · rw [zero_add]

variable (poly : BitVec w)

/-- Moving a register up loses the bit at its top. -/
theorem X_mul_ofBits (c : BitVec w) :
    X * ofBits c = ofBits (c <<< 1) + C (bit c.msb) * X ^ w := by
  ext i
  rw [coeff_add, coeff_ofBits, BitVec.getLsbD_shiftLeft, coeff_C_mul_X_pow]
  cases i with
  | zero =>
    rcases w with - | w
    · rw [Subsingleton.elim c 0]
      simp
    · simp
  | succ i =>
    rw [coeff_X_mul, coeff_ofBits, Nat.add_sub_cancel]
    rcases lt_trichotomy (i + 1) w with hi | hi | hi
    · simp [hi, show i + 1 ≠ w from by omega]
    · have hmsb : c.msb = c.getLsbD i := by
        rw [BitVec.msb_eq_getLsbD_last]
        congr 1
        omega
      simp [hi, hmsb]
    · simp [show ¬i + 1 < w from by omega, show i + 1 ≠ w from by omega,
        BitVec.getLsbD_of_ge c i (by omega)]

theorem dvd_sub_shift (c : BitVec w) :
    generator poly ∣ X * ofBits c - ofBits (shift poly c) := by
  rw [X_mul_ofBits, shift]
  cases c.msb with
  | false => simp
  | true =>
    refine ⟨1, ?_⟩
    rw [if_pos rfl, ofBits_xor, bit_true, map_one, generator]
    -- over two elements the polynomial is its own negative
    have htwo : ofBits poly + ofBits poly = 0 := CharTwo.add_self_eq_zero _
    linear_combination -htwo

theorem dvd_sub_iterate_shift (n : ℕ) (c : BitVec w) :
    generator poly ∣ X ^ n * ofBits c - ofBits ((shift poly)^[n] c) := by
  induction n generalizing c with
  | zero => simp
  | succ n ih =>
    have hfirst := (dvd_sub_shift poly c).mul_left (X ^ n)
    have hsum := dvd_add hfirst (ih (shift poly c))
    rw [Function.iterate_succ_apply]
    convert hsum using 1
    ring

theorem ofBits_top (hw : 8 ≤ w) (b : UInt8) :
    ofBits (top w b) = X ^ (w - 8) * ofBits b.toBitVec := by
  ext i
  rw [coeff_ofBits, coeff_X_pow_mul', coeff_ofBits]
  by_cases hi : i < w
  · rw [getLsbD_top b i hi]
    split_ifs with hle
    · simp [hle]
    · simp [hle]
  · rw [BitVec.getLsbD_of_ge _ i (by omega), if_pos (by omega),
      BitVec.getLsbD_of_ge b.toBitVec (i - (w - 8)) (by omega)]

/-- A byte that is fed in. -/
theorem dvd_sub_byteStep (hw : 8 ≤ w) (c : BitVec w) (b : UInt8) :
    generator poly ∣
      X ^ 8 * ofBits c + X ^ w * ofBits b.toBitVec - ofBits (byteStep poly c b) := by
  have hstep := dvd_sub_iterate_shift poly 8 (c ^^^ top w b)
  rw [ofBits_xor, ofBits_top hw] at hstep
  have hpow : (X : (ZMod 2)[X]) ^ w = X ^ 8 * X ^ (w - 8) := by
    rw [← pow_add, Nat.add_sub_cancel' hw]
  convert hstep using 1
  rw [hpow]
  ring_nf
  rfl

/-! ### Messages -/

/-- The polynomial of a message, its first bit at the top. -/
noncomputable def message (bs : List UInt8) : (ZMod 2)[X] :=
  bs.foldl (fun p b => X ^ 8 * p + ofBits b.toBitVec) 0

theorem message_concat (bs : List UInt8) (b : UInt8) :
    message (bs ++ [b]) = X ^ 8 * message bs + ofBits b.toBitVec := by
  simp [message]

theorem dvd_sub_hash (hw : 8 ≤ w) (bs : List UInt8) :
    generator poly ∣ X ^ w * message bs - ofBits (hash poly bs) := by
  induction bs using List.reverseRecOn with
  | nil =>
    have hhash : hash poly [] = 0 := rfl
    rw [hhash, ofBits_zero]
    simp [message]
  | append_singleton bs b ih =>
    have hbyte := dvd_sub_byteStep poly hw (hash poly bs) b
    have hsum := dvd_add (ih.mul_left (X ^ 8)) hbyte
    have hhash : hash poly (bs ++ [b]) = byteStep poly (hash poly bs) b := by
      simp [hash]
    rw [message_concat, hhash]
    convert hsum using 1
    ring

/-- **The check is a remainder.** -/
theorem ofBits_hash (hw : 8 ≤ w) (bs : List UInt8) :
    ofBits (hash poly bs) = (X ^ w * message bs) %ₘ generator poly := by
  have hmonic := monic_generator poly
  have hsmall : ofBits (hash poly bs) %ₘ generator poly = ofBits (hash poly bs) := by
    rw [modByMonic_eq_self_iff hmonic, degree_generator]
    exact degree_ofBits_lt _
  rw [← hsmall]
  exact (modByMonic_eq_of_dvd_sub hmonic (dvd_sub_hash poly hw bs)).symm

end Crc
