import Mathlib.Data.List.Basic
import Mathlib.Data.Nat.Bitwise

/-!
# Numbers in bytes, the low byte first

* `ofBytes`, `toBytes`: the number that bytes stand for, and the bytes of a number;
* `ofBytes_toBytes`: a number comes back from its bytes;
* `shift_or`, `shift_mod`, `and_shift`: the bit operations with which programs put bytes together
  and take them apart.
-/

namespace LittleEndian

/-- The number that bytes stand for. -/
def ofBytes : List UInt8 → ℕ
  | [] => 0
  | b :: bs => b.toNat + 256 * ofBytes bs

/-- The `k` low bytes of a number. -/
def toBytes : ℕ → ℕ → List UInt8
  | 0, _ => []
  | k + 1, n => n.toUInt8 :: toBytes k (n / 256)

@[simp] theorem length_toBytes (k n : ℕ) : (toBytes k n).length = k := by
  induction k generalizing n with
  | zero => rfl
  | succ k ih => rw [toBytes, List.length_cons, ih]

theorem ofBytes_lt (bs : List UInt8) : ofBytes bs < 256 ^ bs.length := by
  induction bs with
  | nil => simp [ofBytes]
  | cons b bs ih =>
    have hb := b.toNat_lt
    rw [ofBytes, List.length_cons, pow_succ]
    omega

theorem ofBytes_toBytes {k n : ℕ} (h : n < 256 ^ k) : ofBytes (toBytes k n) = n := by
  induction k generalizing n with
  | zero => simpa [toBytes, ofBytes, eq_comm] using h
  | succ k ih =>
    have hdiv : n / 256 < 256 ^ k := by
      rw [pow_succ] at h
      exact Nat.div_lt_of_lt_mul (by omega)
    rw [toBytes, ofBytes, ih hdiv, Nat.toUInt8_eq, UInt8.toNat_ofNat']
    omega

/-! ### Bit operations -/

/-- A byte joins the bytes above it. -/
theorem shift_or {b : ℕ} (hb : b < 256) (hi k : ℕ) :
    hi <<< (k + 8) ||| b <<< k = (b + 256 * hi) <<< k := by
  have hjoin : hi <<< 8 ||| b = b + 256 * hi := by
    rw [← Nat.shiftLeft_add_eq_or_of_lt (by omega), Nat.shiftLeft_eq]
    omega
  rw [Nat.add_comm k 8, Nat.shiftLeft_add, ← Nat.shiftLeft_or_distrib, hjoin]

/-- A byte that is shifted inside a word of `w` bits loses nothing. -/
theorem shift_mod {b : ℕ} (hb : b < 256) {k w : ℕ} (hk : k + 8 ≤ w) :
    b <<< k % 2 ^ w = b <<< k := by
  refine Nat.mod_eq_of_lt ?_
  calc b <<< k = b * 2 ^ k := Nat.shiftLeft_eq b k
    _ < 256 * 2 ^ k := Nat.mul_lt_mul_of_pos_right hb (Nat.two_pow_pos k)
    _ = 2 ^ (k + 8) := by rw [pow_add, Nat.mul_comm]; rfl
    _ ≤ 2 ^ w := Nat.pow_le_pow_right (by decide) hk

/-- The byte that a mask takes out. -/
theorem and_shift (n k : ℕ) : (n >>> k) &&& 0xFF = n / 2 ^ k % 256 := by
  rw [Nat.shiftRight_eq_div_pow, ← Nat.and_two_pow_sub_one_eq_mod _ 8]

end LittleEndian
