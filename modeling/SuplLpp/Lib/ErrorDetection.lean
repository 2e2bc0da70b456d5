import Mathlib.Algebra.Polynomial.Eval.Degree
import Mathlib.RingTheory.Coprime.Lemmas
import SuplLpp.Lib.Bits
import SuplLpp.Lib.Remainder

/-!
# What a cyclic redundancy check detects

A word of a code is a bit string whose polynomial the generator divides.  Adding an error to a word
gives another word exactly when the generator divides the error.

* `ofList`, the polynomial of a bit string, first bit at the top; `ofList_xor`, `ofList_append`;
* `message_eq_ofList`: that of some bytes is that of their bits;
* `not_dvd_burst`, `not_dvd_odd`, `not_dvd_pair`: the generator divides no error within as many
  bits as the register has, no error in an odd number of bits if it has an even number of terms,
  and no error in two bits at a distance at which the register has not come round again.
-/

namespace Crc

open Polynomial Bits

/-! ### Bit strings as polynomials -/

/-- The polynomial of a bit string, its first bit at the top. -/
noncomputable def ofList : List Bool → (ZMod 2)[X]
  | [] => 0
  | b :: l => C (bit b) * X ^ l.length + ofList l

theorem ofList_append (l m : List Bool) :
    ofList (l ++ m) = X ^ m.length * ofList l + ofList m := by
  induction l with
  | nil => simp [ofList]
  | cons b l ih =>
    rw [List.cons_append, ofList, ih, ofList, List.length_append, pow_add]
    ring

theorem ofList_replicate_false (n : ℕ) : ofList (List.replicate n false) = 0 := by
  induction n with
  | zero => rfl
  | succ n ih => rw [List.replicate_succ, ofList, ih, bit_false, map_zero, zero_mul, add_zero]

theorem ofList_xor {l m : List Bool} (h : l.length = m.length) :
    ofList (List.zipWith xor l m) = ofList l + ofList m := by
  induction l generalizing m with
  | nil =>
    obtain rfl : m = [] := List.length_eq_zero_iff.1 h.symm
    simp [ofList]
  | cons b l ih =>
    obtain _ | ⟨c, m⟩ := m
    · simp at h
    · have hlen : l.length = m.length := Nat.succ.inj h
      rw [List.zipWith_cons_cons, ofList, ih hlen, ofList, ofList, bit_xor, map_add,
        List.length_zipWith, hlen, Nat.min_self]
      ring

theorem degree_ofList_lt (l : List Bool) : (ofList l).degree < l.length := by
  induction l with
  | nil => simp [ofList]
  | cons b l ih =>
    rw [ofList, List.length_cons]
    refine (degree_add_le _ _).trans_lt (max_lt ?_ (ih.trans ?_))
    · refine (degree_C_mul_X_pow_le _ _).trans_lt ?_
      exact_mod_cast Nat.lt_succ_self l.length
    · exact_mod_cast Nat.lt_succ_self l.length

theorem ofList_ne_zero {l : List Bool} (h : true ∈ l) : ofList l ≠ 0 := by
  induction l with
  | nil => cases h
  | cons b l ih =>
    cases b with
    | false =>
      rw [ofList, bit_false, map_zero, zero_mul, zero_add]
      exact ih (by simpa using h)
    | true =>
      -- The first bit stands alone at the top.
      intro hzero
      have htop : (ofList (true :: l)).degree = l.length := by
        rw [ofList, bit_true, map_one, one_mul, degree_add_eq_left_of_degree_lt]
        · exact degree_X_pow _
        · rw [degree_X_pow]
          exact degree_ofList_lt l
      rw [hzero, degree_zero] at htop
      exact absurd htop (by simp)

theorem eval_one_ofList (l : List Bool) : (ofList l).eval 1 = (l.count true : ZMod 2) := by
  induction l with
  | nil => simp [ofList]
  | cons b l ih =>
    rw [ofList, eval_add, ih]
    cases b with
    | false => simp
    | true =>
      simp
      ring

theorem ofBits_byte (b : UInt8) : ofBits b.toBitVec = ofList (byteBits b) := by
  have hbit : ∀ i, b.toNat.testBit i = b.toBitVec.getLsbD i := fun i => rfl
  simp only [ofBits, byteBits, ofNat, ofList, Finset.sum_range_succ, Finset.sum_range_zero, hbit,
    List.length_cons, List.length_nil, ← C_mul_X_pow_eq_monomial]
  ring

/-- The polynomial of some bytes. -/
theorem message_eq_ofList (bs : List UInt8) : message bs = ofList (bytesBits bs) := by
  induction bs using List.reverseRecOn with
  | nil => rfl
  | append_singleton bs b ih =>
    have hlen : (byteBits b).length = 8 := length_ofNat 8 _
    rw [message_concat, ih, bytesBits_append, ofList_append, ofBits_byte]
    simp [hlen]

theorem message_append (as bs : List UInt8) :
    message (as ++ bs) = X ^ (bytesBits bs).length * message as + message bs := by
  rw [message_eq_ofList, message_eq_ofList, message_eq_ofList, bytesBits_append, ofList_append]

theorem ofBits_append {v w : ℕ} (c : BitVec v) (d : BitVec w) :
    ofBits (c ++ d) = X ^ w * ofBits c + ofBits d := by
  ext i
  rw [coeff_add, coeff_ofBits, coeff_X_pow_mul', coeff_ofBits, coeff_ofBits,
    BitVec.getLsbD_append]
  by_cases hi : i < w
  · rw [if_pos hi, if_neg (by omega), zero_add]
  · rw [if_neg hi, if_pos (by omega), BitVec.getLsbD_of_ge d i (by omega), bit_false, add_zero]

/-! ### Errors -/

section Errors

variable {w : ℕ} {poly : BitVec w}

/-- A generator with a constant term has no factor in common with a power of `X`. -/
theorem isCoprime_generator (hpoly : poly.getLsbD 0 = true) (n : ℕ) :
    IsCoprime (generator poly) (X ^ n) := by
  refine IsCoprime.pow_right ?_
  have hw : 0 < w := by
    by_contra hw
    rw [BitVec.getLsbD_of_ge poly 0 (by omega)] at hpoly
    cases hpoly
  have hcoeff : (generator poly).coeff 0 = 1 := by
    rw [generator, coeff_add, coeff_X_pow, if_neg (by omega), coeff_ofBits, hpoly, bit_true,
      zero_add]
  refine ⟨1, -divX (generator poly), ?_⟩
  have hsplit := divX_mul_X_add (generator poly)
  rw [hcoeff, map_one] at hsplit
  linear_combination -hsplit

/-- An error within as many bits as the register has. -/
theorem not_dvd_burst (hpoly : poly.getLsbD 0 = true) {burst : List Bool}
    (hburst : burst.length ≤ w) (htrue : true ∈ burst) (i j : ℕ) :
    ¬ generator poly ∣
      ofList (List.replicate i false ++ burst ++ List.replicate j false) := by
  rw [ofList_append, ofList_append, ofList_replicate_false, ofList_replicate_false, mul_zero,
    zero_add, add_zero, List.length_replicate]
  intro hdvd
  have hburst' := (isCoprime_generator hpoly j).dvd_of_dvd_mul_left hdvd
  have hdeg : (ofList burst).degree < (generator poly).degree := by
    rw [degree_generator]
    exact (degree_ofList_lt burst).trans_le (by exact_mod_cast hburst)
  exact ofList_ne_zero htrue (eq_zero_of_dvd_of_degree_lt hburst' hdeg)

/-- An error in an odd number of bits. -/
theorem not_dvd_odd (heven : (generator poly).eval 1 = 0) {e : List Bool}
    (hodd : Odd (e.count true)) : ¬ generator poly ∣ ofList e := by
  rintro ⟨q, hq⟩
  have heval := congrArg (eval 1) hq
  rw [eval_one_ofList, eval_mul, heven, zero_mul, ZMod.natCast_eq_zero_iff_even] at heval
  exact Nat.not_even_iff_odd.2 hodd heval

theorem ofBits_injective {c d : BitVec w} (h : ofBits c = ofBits d) : c = d := by
  refine BitVec.eq_of_getLsbD_eq fun i _ => ?_
  have hcoeff := congrArg (fun p => coeff p i) h
  simp only [coeff_ofBits] at hcoeff
  cases hc : c.getLsbD i <;> cases hd : d.getLsbD i <;> simp_all [bit]

theorem ofBits_one (hw : 0 < w) : ofBits 1#w = 1 := by
  ext i
  rw [coeff_ofBits, coeff_one, BitVec.getLsbD_one]
  cases i with
  | zero => simp [hw]
  | succ i => simp

/-- An error in two bits, between which there are `k` others. -/
theorem not_dvd_pair (hpoly : poly.getLsbD 0 = true) {k : ℕ}
    (hk : (shift poly)^[k + 1] 1#w ≠ 1#w) (i j : ℕ) :
    ¬ generator poly ∣ ofList (List.replicate i false ++
      (true :: (List.replicate k false ++ [true])) ++ List.replicate j false) := by
  have hw : 0 < w := by
    by_contra hw
    rw [BitVec.getLsbD_of_ge poly 0 (by omega)] at hpoly
    cases hpoly
  have hpair : ofList (true :: (List.replicate k false ++ [true])) = X ^ (k + 1) + 1 := by
    rw [ofList, ofList_append, ofList_replicate_false]
    simp [ofList]
  rw [ofList_append, ofList_append, ofList_replicate_false, ofList_replicate_false, mul_zero,
    zero_add, add_zero, List.length_replicate, hpair]
  intro hdvd
  have hpow := (isCoprime_generator hpoly j).dvd_of_dvd_mul_left hdvd
  have hshift := dvd_sub_iterate_shift poly (k + 1) 1#w
  rw [ofBits_one hw, mul_one] at hshift
  -- The register after `k + 1` shifts is congruent to one, and both are small.
  have hsum : generator poly ∣ ofBits ((shift poly)^[k + 1] 1#w) + 1 := by
    have hsub := dvd_sub hpow hshift
    convert hsub using 1
    ring
  rw [← ofBits_one hw, ← ofBits_xor] at hsum
  have hzero := eq_zero_of_dvd_of_degree_lt hsum
    ((degree_ofBits_lt _).trans_eq (degree_generator poly).symm)
  have hxor := ofBits_injective (hzero.trans ofBits_zero.symm)
  exact hk (BitVec.xor_eq_zero_iff.1 hxor)

end Errors

end Crc
