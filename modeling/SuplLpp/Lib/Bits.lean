import Mathlib.Data.Nat.Bitwise
import Mathlib.Data.Int.ModEq
import Mathlib.Data.List.Basic
import Mathlib.Tactic.Ring
import Mathlib.Tactic.Positivity
import Mathlib.Tactic.Zify

/-!
# Bit strings, most significant bit first

Fields of a binary message are numbers written with a fixed number of bits, the most
significant first, and packed into bytes.

* `ofNat w v`, the `w` low bits of `v`; `toNat` and `toInt` read a bit string as an
  unsigned and as a two's complement number;
* `byteBits`, `bytesBits`: the bits of bytes.  Equal bits come from equal bytes;
* `Reader`, a reader of bit strings, and `Reads r bs x`: whatever follows `bs`, the reader
  takes exactly `bs` and answers `x`.  `Reads.bind` and `Reads.forEach` compose them.
-/

namespace Bits

/-- The `w` low bits of `v`, most significant first. -/
def ofNat : ℕ → ℕ → List Bool
  | 0, _ => []
  | w + 1, v => v.testBit w :: ofNat w v

/-- The number that `bs` spells. -/
def toNat (bs : List Bool) : ℕ := bs.foldl (fun n b => 2 * n + b.toNat) 0

/-- The two's complement number that `bs` spells. -/
def toInt : List Bool → ℤ
  | [] => 0
  | b :: bs => toNat bs - b.toNat * 2 ^ bs.length

@[simp] theorem length_ofNat (w v : ℕ) : (ofNat w v).length = w := by
  induction w with
  | zero => rfl
  | succ w ih => simp [ofNat, ih]

@[simp] theorem toNat_nil : toNat [] = 0 := rfl

theorem foldl_toNat (bs : List Bool) (n : ℕ) :
    bs.foldl (fun n b => 2 * n + b.toNat) n = n * 2 ^ bs.length + toNat bs := by
  induction bs generalizing n with
  | nil => simp
  | cons b bs ih =>
    have hb : toNat (b :: bs) = _ := ih (2 * 0 + b.toNat)
    rw [List.foldl_cons, ih, hb, List.length_cons]
    ring

@[simp] theorem toNat_cons (b : Bool) (bs : List Bool) :
    toNat (b :: bs) = b.toNat * 2 ^ bs.length + toNat bs := by
  have h := foldl_toNat bs b.toNat
  simpa [toNat] using h

theorem toNat_append (as bs : List Bool) :
    toNat (as ++ bs) = toNat as * 2 ^ bs.length + toNat bs := by
  rw [toNat, List.foldl_append, foldl_toNat]
  rfl

@[simp] theorem toNat_replicate_false (n : ℕ) : toNat (List.replicate n false) = 0 := by
  induction n with
  | zero => rfl
  | succ n ih => simp [List.replicate_succ, ih]

theorem toNat_lt (bs : List Bool) : toNat bs < 2 ^ bs.length := by
  induction bs with
  | nil => simp
  | cons b bs ih =>
    rw [toNat_cons, List.length_cons, pow_succ]
    cases b <;> simp only [Bool.toNat_false, Bool.toNat_true] <;> omega

theorem mod_two_pow_succ (w v : ℕ) :
    v % 2 ^ (w + 1) = 2 ^ w * (v.testBit w).toNat + v % 2 ^ w := by
  rw [Nat.mod_pow_succ, Nat.testBit_eq_decide_div_mod_eq, Nat.add_comm]
  rcases Nat.mod_two_eq_zero_or_one (v / 2 ^ w) with h | h <;> simp [h]

/-- Writing and reading back keeps the `w` low bits. -/
@[simp] theorem toNat_ofNat (w v : ℕ) : toNat (ofNat w v) = v % 2 ^ w := by
  induction w with
  | zero => simp [ofNat, Nat.mod_one]
  | succ w ih =>
    rw [ofNat, toNat_cons, ih, length_ofNat, mod_two_pow_succ]
    ring

theorem ofNat_toNat (bs : List Bool) : ofNat bs.length (toNat bs) = bs := by
  induction bs with
  | nil => rfl
  | cons b bs ih =>
    have hlt := toNat_lt bs
    have hlow : ∀ w ≤ bs.length,
        ofNat w (b.toNat * 2 ^ bs.length + toNat bs) = ofNat w (toNat bs) := by
      intro w
      induction w with
      | zero => intro _; rfl
      | succ w ihw =>
        intro hw
        rw [ofNat, ofNat, ihw (by omega), Nat.mul_comm, Nat.testBit_two_pow_mul_add _ hlt,
          if_pos (by omega)]
    rw [List.length_cons, ofNat, toNat_cons, hlow _ le_rfl, ih, Nat.mul_comm,
      Nat.testBit_two_pow_mul_add _ hlt, if_neg (by omega), Nat.sub_self]
    cases b <;> rfl

/-- Bit strings of one length are told apart by their numbers. -/
theorem toNat_inj {as bs : List Bool} (hl : as.length = bs.length)
    (h : toNat as = toNat bs) : as = bs := by
  rw [← ofNat_toNat as, ← ofNat_toNat bs, hl, h]

theorem ofNat_eq_ofNat {w v v' : ℕ} : ofNat w v = ofNat w v' ↔ v % 2 ^ w = v' % 2 ^ w := by
  constructor
  · intro h
    simpa using congrArg toNat h
  · intro h
    apply toNat_inj (by simp)
    simpa using h

theorem ofNat_add (m k v : ℕ) : ofNat (m + k) v = ofNat m (v >>> k) ++ ofNat k v := by
  induction m with
  | zero => simp [ofNat]
  | succ m ih =>
    rw [Nat.succ_add, ofNat, ih, ofNat, List.cons_append, Nat.testBit_shiftRight,
      Nat.add_comm k m]

theorem ofNat_zero_right (w : ℕ) : ofNat w 0 = List.replicate w false := by
  induction w with
  | zero => rfl
  | succ w ih => simp [ofNat, ih, List.replicate_succ]

/-- A number written with enough bits is read back, the sign included. -/
theorem toInt_ofNat {w : ℕ} {v : ℤ} (hlo : -2 ^ w ≤ v) (hhi : v < 2 ^ w) {u : ℕ}
    (hu : (u : ℤ) % 2 ^ (w + 1) = v % 2 ^ (w + 1)) : toInt (ofNat (w + 1) u) = v := by
  have hpow : (2 : ℤ) ^ (w + 1) = 2 * 2 ^ w := by ring
  have hpos : (0 : ℤ) < 2 ^ w := by positivity
  have hsplit : (u % 2 ^ (w + 1) : ℕ) = 2 ^ w * (u.testBit w).toNat + u % 2 ^ w :=
    mod_two_pow_succ w u
  have hlt : (u % 2 ^ w : ℕ) < 2 ^ w := Nat.mod_lt _ (by positivity)
  have hmod : ((u % 2 ^ (w + 1) : ℕ) : ℤ) = v % 2 ^ (w + 1) := by
    push_cast
    exact hu
  rw [hsplit] at hmod
  zify at hlt
  push_cast at hmod
  have hval : toInt (ofNat (w + 1) u) = u % 2 ^ w - (u.testBit w).toNat * 2 ^ w := by
    simp [ofNat, toInt]
  rw [hval]
  have hnn : (0 : ℤ) ≤ u % 2 ^ w := Int.emod_nonneg _ (by positivity)
  by_cases hv : 0 ≤ v
  · rw [Int.emod_eq_of_lt hv (by omega)] at hmod
    cases hb : u.testBit w <;> rw [hb] at hmod <;>
      simp only [Bool.toNat_false, Bool.toNat_true, Nat.cast_zero, Nat.cast_one] at hmod ⊢ <;>
      omega
  · have hshift : v % 2 ^ (w + 1) = v + 2 ^ (w + 1) := by
      rw [← Int.add_emod_right, Int.emod_eq_of_lt (by omega) (by omega)]
    rw [hshift] at hmod
    cases hb : u.testBit w <;> rw [hb] at hmod <;>
      simp only [Bool.toNat_false, Bool.toNat_true, Nat.cast_zero, Nat.cast_one] at hmod ⊢ <;>
      omega

/-! ### Bytes -/

def byteBits (b : UInt8) : List Bool := ofNat 8 b.toNat

def bytesBits (l : List UInt8) : List Bool := l.flatMap byteBits

@[simp] theorem length_byteBits (b : UInt8) : (byteBits b).length = 8 := length_ofNat ..

@[simp] theorem bytesBits_nil : bytesBits [] = [] := rfl

@[simp] theorem bytesBits_cons (b : UInt8) (l : List UInt8) :
    bytesBits (b :: l) = byteBits b ++ bytesBits l := rfl

@[simp] theorem bytesBits_append (l m : List UInt8) :
    bytesBits (l ++ m) = bytesBits l ++ bytesBits m := by
  simp [bytesBits]

@[simp] theorem length_bytesBits (l : List UInt8) :
    (bytesBits l).length = 8 * l.length := by
  induction l with
  | nil => rfl
  | cons b l ih => simp [ih]; omega

theorem bytesBits_take (l : List UInt8) (n : ℕ) :
    bytesBits (l.take n) = (bytesBits l).take (8 * n) := by
  induction l generalizing n with
  | nil => simp
  | cons b l ih =>
    cases n with
    | zero => simp
    | succ n =>
      have hbyte : (byteBits b).take (8 * (n + 1)) = byteBits b := by
        apply List.take_of_length_le
        rw [length_byteBits]
        omega
      rw [List.take_succ_cons, bytesBits_cons, bytesBits_cons, ih, List.take_append,
        length_byteBits, hbyte, show 8 * (n + 1) - 8 = 8 * n from by omega]

theorem byteBits_injective : Function.Injective byteBits := by
  intro a b h
  have hn := congrArg toNat h
  simp only [byteBits, toNat_ofNat] at hn
  apply UInt8.toNat_inj.mp
  rwa [Nat.mod_eq_of_lt a.toNat_lt, Nat.mod_eq_of_lt b.toNat_lt] at hn

/-- Bytes are told apart by their bits. -/
theorem bytesBits_injective : Function.Injective bytesBits := by
  intro l m h
  induction l generalizing m with
  | nil =>
    cases m with
    | nil => rfl
    | cons b m =>
      have hl := congrArg List.length h
      simp at hl
      omega
  | cons a l ih =>
    cases m with
    | nil =>
      have hl := congrArg List.length h
      simp at hl
    | cons b m =>
      obtain ⟨hab, hlm⟩ := List.append_inj h (by simp)
      rw [byteBits_injective hab, ih hlm]

/-- One bit more in a byte whose low bits are still zero. -/
theorem byteBits_or {x bit : UInt8} {b : Bool} {bs : List Bool} {n : ℕ}
    (hx : byteBits x = bs ++ List.replicate (n + 1) false) (hbit : bit.toNat = b.toNat) :
    byteBits (x ||| (bit <<< n.toUInt8)) = bs ++ b :: List.replicate n false := by
  have hl : bs.length + (n + 1) = 8 := by
    have := congrArg List.length hx
    simpa using this.symm
  have hxn : x.toNat = toNat bs <<< (n + 1) := by
    have := congrArg toNat hx
    rw [byteBits, toNat_ofNat, Nat.mod_eq_of_lt x.toNat_lt, toNat_append, toNat_replicate_false,
      List.length_replicate] at this
    rw [this, Nat.shiftLeft_eq, Nat.add_zero]
  have hn : (n.toUInt8).toNat % 8 = n := by
    rw [Nat.toUInt8_eq, UInt8.toNat_ofNat']
    omega
  have hshift : (bit <<< n.toUInt8).toNat = b.toNat * 2 ^ n := by
    have hpow : 2 ^ n ≤ 2 ^ 7 := Nat.pow_le_pow_right (by omega) (by omega)
    rw [UInt8.toNat_shiftLeft, hn, hbit, Nat.shiftLeft_eq]
    cases b
    · simp
    · rw [Bool.toNat_true, Nat.one_mul, Nat.mod_eq_of_lt (by omega)]
  apply toNat_inj
  · simp only [length_byteBits, List.length_append, List.length_cons, List.length_replicate]
    omega
  · have hlt : b.toNat * 2 ^ n < 2 ^ (n + 1) := by
      have := Nat.two_pow_pos n
      rw [pow_succ]
      cases b <;> simp only [Bool.toNat_false, Bool.toNat_true] <;> omega
    rw [byteBits, toNat_ofNat, Nat.mod_eq_of_lt (UInt8.toNat_lt _), UInt8.toNat_or, hshift, hxn,
      ← Nat.shiftLeft_add_eq_or_of_lt hlt, toNat_append, toNat_cons, toNat_replicate_false,
      List.length_cons, List.length_replicate, Nat.shiftLeft_eq, Nat.add_zero]
    rfl

/-- A shift and a mask take one bit out of a word. -/
theorem toNat_wordBit (value : UInt64) {k : ℕ} (hk : k < 64) :
    ((value >>> k.toUInt64) &&& 1).toUInt8.toNat = (value.toNat.testBit k).toNat := by
  have hshift : k.toUInt64.toNat % 64 = k := by
    rw [Nat.toUInt64_eq, UInt64.toNat_ofNat']
    omega
  rw [UInt64.toNat_toUInt8, UInt64.toNat_and, UInt64.toNat_shiftRight, hshift, UInt64.toNat_one,
    Nat.and_one_is_mod, Nat.shiftRight_eq_div_pow, Nat.testBit_eq_decide_div_mod_eq]
  rcases Nat.mod_two_eq_zero_or_one (value.toNat / 2 ^ k) with h0 | h1
  · simp [h0]
  · simp [h1]

/-- A loop over the bits of a number from the top. -/
theorem map_testBit_range (n v : ℕ) :
    (List.range n).map (fun i => v.testBit (n - i - 1)) = ofNat n v := by
  induction n with
  | zero => rfl
  | succ n ih =>
    rw [List.range_succ_eq_map, List.map_cons, List.map_map, ofNat, ← ih]
    simp [Function.comp_def]

/-! ### Masks -/

/-- The positions of the ones, in ascending order. -/
def ones (bs : List Bool) : List ℕ := (List.range bs.length).filter (fun i => bs.getD i false)

/-- The elements of `l` whose bit is set. -/
def select {α : Type} (l : List α) (bs : List Bool) : List α :=
  ((l.zip bs).filter (·.2)).map (·.1)

theorem select_map {α : Type} (l : List α) (p : α → Bool) : select l (l.map p) = l.filter p := by
  induction l with
  | nil => rfl
  | cons x l ih =>
    simp only [select, List.map_cons, List.zip_cons_cons, List.filter_cons] at ih ⊢
    cases p x <;> simp [ih]

theorem ones_map_range (n : ℕ) (p : ℕ → Bool) :
    ones ((List.range n).map p) = (List.range n).filter p := by
  rw [ones, List.length_map, List.length_range]
  apply List.filter_congr
  intro i hi
  rw [List.mem_range] at hi
  simp [List.getD, hi]

theorem count_true_map {α : Type} (l : List α) (p : α → Bool) :
    (l.map p).count true = (l.filter p).length := by
  rw [List.count, List.countP_map, List.countP_eq_length_filter]
  congr 1
  apply List.filter_congr
  intro x _
  simp

theorem getElem_ofNat {w v i : ℕ} (h : i < (ofNat w v).length) :
    (ofNat w v)[i] = v.testBit (w - 1 - i) := by
  induction w generalizing i with
  | zero => simp [ofNat] at h
  | succ w ih =>
    cases i with
    | zero => simp [ofNat]
    | succ i =>
      simp only [ofNat, List.getElem_cons_succ]
      rw [ih, show w + 1 - 1 - (i + 1) = w - 1 - i by omega]

theorem testBit_foldl_or {α : Type} (f : α → ℕ) (l : List α) (acc j : ℕ) :
    (l.foldl (fun ids a => ids ||| f a) acc).testBit j =
      (acc.testBit j || l.any fun a => (f a).testBit j) := by
  induction l generalizing acc with
  | nil => simp
  | cons a l ih => rw [List.foldl_cons, ih, Nat.testBit_or, List.any_cons, Bool.or_assoc]

theorem filter_range_sorted (n : ℕ) (p : ℕ → Bool) :
    ((List.range n).filter p).Pairwise (· < ·) :=
  List.pairwise_lt_range.filter p

/-- A position that is set comes after the set positions below it. -/
theorem getElem?_filter_range {n i : ℕ} {p : ℕ → Bool} (hi : i < n) (hp : p i = true) :
    ((List.range n).filter p)[((List.range i).filter p).length]? = some i := by
  obtain ⟨k, rfl⟩ : ∃ k, n = i + (k + 1) := ⟨n - i - 1, by omega⟩
  rw [List.range_add, List.range_succ_eq_map, List.map_cons, List.filter_append,
    List.filter_cons_of_pos (by simpa using hp), List.getElem?_append_right le_rfl]
  simp

/-- Two lists in strict order that have the same elements are the same. -/
theorem eq_of_strict_order {α : Type} {r : α → α → Prop} (hr : ∀ a b, r a b → ¬ r b a)
    {l m : List α} (hl : l.Pairwise r) (hm : m.Pairwise r) (h : ∀ x, x ∈ l ↔ x ∈ m) : l = m := by
  have hne : ∀ {a b}, r a b → a ≠ b := by
    rintro a b hab rfl
    exact hr a a hab hab
  have hperm : l.Perm m := by
    rw [List.perm_ext_iff_of_nodup (hl.imp hne) (hm.imp hne)]
    exact h
  exact hperm.eq_of_pairwise (fun a b _ _ hab hba => absurd hba (hr a b hab)) hl hm

/-! ### Readers -/

/-- A reader of a bit string: what it read and what is left, or a failure. -/
abbrev Reader (α : Type) := StateT (List Bool) Option α

namespace Reader

/-- Take `w` bits. -/
def bits (w : ℕ) : Reader (List Bool) := fun bs =>
  if w ≤ bs.length then some (bs.take w, bs.drop w) else none

/-- Read an unsigned number of `w` bits. -/
def nat (w : ℕ) : Reader ℕ := do
  let bs ← bits w
  return toNat bs

/-- Read one entry for each key, in order. -/
def forEach {ι α : Type} (r : ι → Reader α) : List ι → Reader (List α)
  | [] => pure []
  | i :: is => do
    let x ← r i
    let xs ← forEach r is
    return x :: xs

end Reader

/-- The reader takes exactly `bs`, whatever follows, and answers `x`. -/
def Reads {α : Type} (r : Reader α) (bs : List Bool) (x : α) : Prop :=
  ∀ rest, r (bs ++ rest) = some (x, rest)

namespace Reads

variable {α β ι : Type}

theorem pure (x : α) : Reads (pure x : Reader α) [] x := fun _ => rfl

theorem bind {r : Reader α} {k : α → Reader β} {bs cs : List Bool} {x : α} {y : β}
    (hr : Reads r bs x) (hk : Reads (k x) cs y) : Reads (r >>= k) (bs ++ cs) y := by
  intro rest
  have h : (r >>= k) (bs ++ cs ++ rest) =
      (r (bs ++ (cs ++ rest))).bind (fun p => k p.1 p.2) := by
    rw [List.append_assoc]
    rfl
  rw [h, hr, Option.bind_some, hk]

theorem bits (bs : List Bool) : Reads (Reader.bits bs.length) bs bs := by
  intro rest
  simp [Reader.bits]

theorem nat (w v : ℕ) : Reads (Reader.nat w) (ofNat w v) (v % 2 ^ w) := by
  intro rest
  have h := bits (ofNat w v) rest
  rw [length_ofNat] at h
  have hb : Reader.nat w (ofNat w v ++ rest) =
      (Reader.bits w (ofNat w v ++ rest)).bind (fun p => some (toNat p.1, p.2)) := rfl
  rw [hb, h, Option.bind_some, toNat_ofNat]

/-- Entries written one after the other are read one after the other, each under its key. -/
theorem forEach {κ : Type} (key : κ → ι) {r : ι → Reader α} {enc : κ → List Bool} {val : κ → α}
    {ks : List κ} (h : ∀ k ∈ ks, Reads (r (key k)) (enc k) (val k)) :
    Reads (Reader.forEach r (ks.map key)) (ks.flatMap enc) (ks.map val) := by
  induction ks with
  | nil => exact Reads.pure []
  | cons k ks ih =>
    have hrest := ih (fun j hj => h j (List.mem_cons_of_mem _ hj))
    have hcons : Reads (Reader.forEach r (ks.map key) >>= fun xs => Pure.pure (val k :: xs))
        (ks.flatMap enc ++ []) (val k :: ks.map val) :=
      hrest.bind (Reads.pure _)
    rw [List.append_nil] at hcons
    exact (h k (List.mem_cons_self ..)).bind hcons

end Reads

end Bits
