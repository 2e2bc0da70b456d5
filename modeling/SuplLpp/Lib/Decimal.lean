import Mathlib.Tactic.FieldSimp
import Mathlib.Tactic.NormNum
import SuplLpp.Lib.Binary64

/-!
# Decimal numbers in columns

A number is written with a fixed count of decimals and aligned to the right of a field.

* `Signed`: a sign and a magnitude, so that there is a zero of either sign;
* `Signed.text`: the sign, the digits, a point and the decimals, the last one rounded to even;
* `read`: the number in a field, with blanks in front;
* `read_setw_text`: what is written is read back, rounded;
* `length_text_le_iff`: how long the text is;
* `ne_of_wider`: a wider field does not begin as the narrower one.
-/

namespace Decimal

structure Signed where
  negative : Bool
  magnitude : ℚ
  nonneg : 0 ≤ magnitude

namespace Signed

def sign (v : Signed) : ℚ := if v.negative then -1 else 1

/-- The number of units of the last decimal. -/
def units (d : ℕ) (v : Signed) : ℕ := (Binary64.roundEven (v.magnitude * 10 ^ d)).toNat

/-- The number, rounded to its decimals. -/
def rounded (d : ℕ) (v : Signed) : ℚ := v.sign * (v.units d / 10 ^ d)

def signText (v : Signed) : List Char := if v.negative then ['-'] else []

/-- The digits in front of the point. -/
def wholeText (d : ℕ) (v : Signed) : List Char := Nat.toDigits 10 (v.units d / 10 ^ d)

/-- The digits behind it. -/
def decimals (d : ℕ) (v : Signed) : List Char :=
  (Nat.toDigits 10 (v.units d % 10 ^ d)).leftpad d '0'

/-- `std::fixed` with `std::setprecision(d)`, for a positive `d`. -/
def text (d : ℕ) (v : Signed) : List Char :=
  v.signText ++ (v.wholeText d ++ '.' :: v.decimals d)

end Signed

/-- `std::setw(w)` with `std::right`. -/
def setw (w : ℕ) (text : List Char) : List Char := text.leftpad w ' '

/-- The number in a field: blanks, a sign, digits, a point and as many decimals. -/
def read (d : ℕ) (field : List Char) : Option ℚ :=
  let number := field.dropWhile (· == ' ')
  let negative := number.head? == some '-'
  let digits := if negative then number.tail else number
  let whole := digits.takeWhile Char.isDigit
  match digits.dropWhile Char.isDigit with
  | '.' :: decimals =>
    if whole = [] ∨ decimals.length ≠ d ∨ ¬decimals.all Char.isDigit then none
    else some ((if negative then -1 else 1) * (Nat.ofDigitChars 10 (whole ++ decimals) 0 / 10 ^ d))
  | _ => none

/-! ### The parts of a text -/

section Parts

variable (d : ℕ) (v : Signed)

theorem isDigit_wholeText : ∀ c ∈ v.wholeText d, c.isDigit = true :=
  fun _ hc => Nat.isDigit_of_mem_toDigits (by decide) (by decide) hc

theorem isDigit_decimals : ∀ c ∈ v.decimals d, c.isDigit = true := by
  intro c hc
  rw [Signed.decimals, List.leftpad, List.mem_append] at hc
  rcases hc with hc | hc
  · rw [List.eq_of_mem_replicate hc]
    decide
  · exact Nat.isDigit_of_mem_toDigits (by decide) (by decide) hc

theorem length_decimals (hd : 0 < d) : (v.decimals d).length = d := by
  have hlt : v.units d % 10 ^ d < 10 ^ d := Nat.mod_lt _ (by positivity)
  have hle := (Nat.length_toDigits_le_iff (by decide) hd).2 hlt
  rw [Signed.decimals, List.length_leftpad]
  exact Nat.max_eq_left hle

theorem wholeText_ne_nil : v.wholeText d ≠ [] := Nat.toDigits_ne_nil

theorem point_notMem_digits {l : List Char} (h : ∀ c ∈ l, c.isDigit = true) : '.' ∉ l :=
  fun hmem => absurd (h '.' hmem) (by decide)

/-- Nothing in front of the point is one. -/
theorem point_notMem_front (w : ℕ) :
    '.' ∉ List.replicate w ' ' ++ (v.signText ++ v.wholeText d) := by
  rw [List.mem_append, List.mem_append]
  rintro (hmem | hmem | hmem)
  · exact absurd (List.eq_of_mem_replicate hmem) (by decide)
  · rw [Signed.signText] at hmem
    split at hmem
    · exact absurd (List.mem_singleton.1 hmem) (by decide)
    · cases hmem
  · exact point_notMem_digits (isDigit_wholeText d v) hmem

theorem setw_text (w : ℕ) : setw w (v.text d) =
    (List.replicate (w - (v.text d).length) ' ' ++ (v.signText ++ v.wholeText d)) ++
      '.' :: v.decimals d := by
  rw [setw, List.leftpad, Signed.text, List.append_assoc, List.append_assoc]

/-- The digits of the number are those of the units. -/
theorem ofDigitChars_digits (hd : 0 < d) :
    Nat.ofDigitChars 10 (v.wholeText d ++ v.decimals d) 0 = v.units d := by
  have hdecimals : Nat.ofDigitChars 10 (v.decimals d) 0 = v.units d % 10 ^ d := by
    rw [Signed.decimals, List.leftpad, Nat.ofDigitChars_append, Nat.ofDigitChars_replicate_zero,
      Nat.mul_zero, Nat.ofDigitChars_ten_toDigits]
  rw [Nat.ofDigitChars_append, Nat.ofDigitChars_eq_ofDigitChars_zero, hdecimals,
    length_decimals d v hd, Signed.wholeText, Nat.ofDigitChars_ten_toDigits]
  exact Nat.div_add_mod _ _

end Parts

/-! ### Reading back -/

theorem dropWhile_blanks (n : ℕ) {l : List Char} (h : l.head? ≠ some ' ') :
    (List.replicate n ' ' ++ l).dropWhile (· == ' ') = l := by
  induction n with
  | zero =>
    cases l with
    | nil => rfl
    | cons c l =>
      refine List.dropWhile_cons_of_neg fun hc => h ?_
      exact congrArg some (beq_iff_eq.1 hc)
  | succ n ih => rw [List.replicate_succ, List.cons_append, List.dropWhile_cons_of_pos rfl, ih]

theorem span_digits {l rest : List Char} (h : ∀ c ∈ l, c.isDigit = true)
    (hrest : ∀ c ∈ rest.head?, c.isDigit = false) :
    (l ++ rest).takeWhile Char.isDigit = l ∧ (l ++ rest).dropWhile Char.isDigit = rest := by
  induction l with
  | nil =>
    cases rest with
    | nil => exact ⟨rfl, rfl⟩
    | cons c rest =>
      have hc : ¬c.isDigit = true := by
        rw [hrest c rfl]
        exact Bool.false_ne_true
      exact ⟨List.takeWhile_cons_of_neg hc, List.dropWhile_cons_of_neg hc⟩
  | cons c l ih =>
    obtain ⟨htake, hdrop⟩ := ih fun c' hc' => h c' (List.mem_cons_of_mem _ hc')
    have hc := h c List.mem_cons_self
    exact ⟨by rw [List.cons_append, List.takeWhile_cons_of_pos hc, htake],
      by rw [List.cons_append, List.dropWhile_cons_of_pos hc, hdrop]⟩

/-- **What is written is read back**, rounded to its decimals. -/
theorem read_setw_text {d : ℕ} (hd : 0 < d) (v : Signed) (w : ℕ) :
    read d (setw w (v.text d)) = some (v.rounded d) := by
  obtain ⟨c, whole, hwhole⟩ := List.exists_cons_of_ne_nil (wholeText_ne_nil d v)
  have hc : c.isDigit = true := isDigit_wholeText d v c (by rw [hwhole]; exact List.mem_cons_self)
  obtain ⟨htake, hdrop⟩ :
      (v.wholeText d ++ '.' :: v.decimals d).takeWhile Char.isDigit = v.wholeText d ∧
      (v.wholeText d ++ '.' :: v.decimals d).dropWhile Char.isDigit = '.' :: v.decimals d :=
    span_digits (isDigit_wholeText d v) fun c hc => by rw [← Option.some.inj hc]; decide
  have hnumber : (setw w (v.text d)).dropWhile (· == ' ') = v.text d := by
    refine dropWhile_blanks _ fun hblank => ?_
    rw [Signed.text, Signed.signText, hwhole] at hblank
    cases hneg : v.negative with
    | true =>
      rw [hneg] at hblank
      exact absurd (Option.some.inj hblank) (by decide)
    | false =>
      rw [hneg] at hblank
      rw [Option.some.inj hblank] at hc
      exact absurd hc (by decide)
  have hminus : ((v.text d).head? == some '-') = v.negative := by
    rw [Signed.text, Signed.signText, hwhole]
    cases v.negative with
    | true => rfl
    | false =>
      refine beq_eq_false_iff_ne.2 fun hminus => ?_
      rw [Option.some.inj hminus] at hc
      exact absurd hc (by decide)
  have hdigits : (if v.negative then (v.text d).tail else v.text d) =
      v.wholeText d ++ '.' :: v.decimals d := by
    rw [Signed.text, Signed.signText]
    cases v.negative <;> rfl
  have hall : (v.decimals d).all Char.isDigit = true :=
    List.all_eq_true.2 (isDigit_decimals d v)
  simp only [read, hnumber, hminus, hdigits, htake, hdrop]
  rw [if_neg, ofDigitChars_digits d v hd]
  · rfl
  · rintro (hnil | hlength | hdigit)
    · exact wholeText_ne_nil d v hnil
    · exact hlength (length_decimals d v hd)
    · exact hdigit hall

/-! ### How long it is -/

theorem roundEven_lt_iff {q : ℚ} {n : ℤ} (heven : n % 2 = 0) :
    Binary64.roundEven q < n ↔ q < n - 1 / 2 := by
  have hle := Int.floor_le q
  have hlt := Int.lt_floor_add_one q
  have hsucc : ∀ m : ℤ, m < n ↔ (m : ℚ) ≤ n - 1 := fun m => by
    rw [← Int.le_sub_one_iff]
    exact_mod_cast Iff.rfl
  unfold Binary64.roundEven
  split_ifs with hlow hhigh hfloor
  · rw [hsucc]
    refine ⟨fun h => by linarith, fun h => (hsucc _).1 ?_⟩
    exact_mod_cast (by linarith : (⌊q⌋ : ℚ) < n)
  · rw [hsucc]
    push_cast
    refine ⟨fun h => by linarith, fun h => ?_⟩
    have hlt' : ⌊q⌋ + 1 < n := by exact_mod_cast (by linarith : (⌊q⌋ : ℚ) + 1 < n)
    have hcast := (hsucc _).1 hlt'
    push_cast at hcast
    exact hcast
  · have hhalf : q = ⌊q⌋ + 1 / 2 := by linarith
    constructor
    · intro h
      have hlt' : ((⌊q⌋ + 1 : ℤ) : ℚ) < n := by exact_mod_cast (by omega : ⌊q⌋ + 1 < n)
      push_cast at hlt'
      linarith
    · intro h
      exact_mod_cast (by linarith : (⌊q⌋ : ℚ) < n)
  · have hhalf : q = ⌊q⌋ + 1 / 2 := by linarith
    constructor
    · intro h
      have hlt' : ((⌊q⌋ + 1 : ℤ) : ℚ) < n := by exact_mod_cast h
      push_cast at hlt'
      linarith
    · intro h
      exact_mod_cast (by linarith : (⌊q⌋ : ℚ) + 1 < n)

/-- The units stay below an even number as long as the number is below its half step. -/
theorem units_lt_iff {d : ℕ} {v : Signed} {n : ℕ} (hpos : 0 < n) (heven : n % 2 = 0) :
    v.units d < n ↔ v.magnitude * 10 ^ d < n - 1 / 2 := by
  rw [Signed.units, Int.toNat_lt_of_ne_zero (by omega), roundEven_lt_iff (by omega)]
  exact Iff.rfl

/-- A number of fewer digits is shorter. -/
theorem length_text_le_iff {d : ℕ} (hd : 0 < d) (v : Signed) {k : ℕ} (hk : 0 < k) :
    (v.text d).length ≤ v.signText.length + k + 1 + d ↔ v.units d < 10 ^ (k + d) := by
  rw [Signed.text, List.length_append, List.length_append, List.length_cons,
    length_decimals d v hd]
  have hwhole := Nat.length_toDigits_le_iff (b := 10) (n := v.units d / 10 ^ d) (by decide) hk
  rw [Nat.div_lt_iff_lt_mul (by positivity), ← Nat.pow_add] at hwhole
  rw [← hwhole, Signed.wholeText]
  omega

theorem takeWhile_point {front rest : List Char} (h : '.' ∉ front) :
    (front ++ '.' :: rest).takeWhile (· != '.') = front := by
  have hfront : ∀ c ∈ front, (c != '.') = true := fun c hc =>
    bne_iff_ne.2 fun heq => h (by rwa [heq] at hc)
  rw [List.takeWhile_append_of_pos hfront, List.takeWhile_cons_of_neg (by decide),
    List.append_nil]

/-- **A wider field** has the point in another column. -/
theorem ne_of_wider {d : ℕ} (v : Signed) {w w' : ℕ} (hw : w < w') (hfits : (v.text d).length ≤ w)
    (rest rest' : List Char) : setw w (v.text d) ++ rest ≠ setw w' (v.text d) ++ rest' := by
  intro heq
  rw [setw_text, setw_text, List.append_assoc _ _ rest, List.append_assoc _ _ rest',
    List.cons_append, List.cons_append] at heq
  have hfront := congrArg (List.takeWhile (· != '.')) heq
  rw [takeWhile_point (point_notMem_front d v _), takeWhile_point (point_notMem_front d v _)]
    at hfront
  have hlength := congrArg List.length hfront
  simp only [List.length_append, List.length_replicate] at hlength
  omega

end Decimal
