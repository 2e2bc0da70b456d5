import SuplLpp.Lib.Comparison
import SuplLpp.Lib.While
import SuplLpp.Time.Conversion
import Mathlib.Algebra.Order.Group.Abs
import Mathlib.Order.Lattice

/-!
# Arithmetic and order of timestamps

* `Normalizes`, the two loops of `Timestamp::normalize`; `normalizes_iff`, they end at
  `Parts.normalize`;
* `Update`, what changes a timestamp or builds one of others; `Update.ends_iff` and
  `Update.value_run`: each ends, and the number changes by the amount;
* `less`, `equals` and the comparisons made of them: the equality has a tolerance, and the strict
  comparison has none;
* `keys_iff`: they are the comparisons of an order exactly on a set of timestamps no two of which
  are within the tolerance of each other.
-/

namespace SuplLpp.Ts

namespace Parts

theorem zero_le_fraction : (0 : ℚ) ≤ 0 := le_refl 0

theorem fraction_lt_one : (0 : ℚ) < 1 := zero_lt_one

/-- The timestamp of whole seconds. -/
def ofSeconds (seconds : ℤ) : Parts := ⟨seconds, 0, zero_le_fraction, fraction_lt_one⟩

@[simp] theorem value_ofSeconds (seconds : ℤ) : (ofSeconds seconds).value = seconds := add_zero _

/-- The members of a timestamp. -/
def members (t : Parts) : ℤ × ℚ := (t.mSeconds, t.mFraction)

/-! ### The loops -/

/-- The guards of the two loops. -/
abbrev Underflows (t : ℤ × ℚ) : Prop := t.2 < 0

abbrev Overflows (t : ℤ × ℚ) : Prop := 1 ≤ t.2

/-- The body of the first loop; the cast cuts the fraction. -/
def underflowRound (t : ℤ × ℚ) : ℤ × ℚ :=
  (t.1 - (⌊-t.2⌋ + 1), t.2 + (⌊-t.2⌋ + 1 : ℤ))

/-- The body of the second loop. -/
def overflowRound (t : ℤ × ℚ) : ℤ × ℚ := (t.1 + ⌊t.2⌋, t.2 - ⌊t.2⌋)

/-- `normalize`, called with the first members, leaves the second. -/
def Normalizes (before after : ℤ × ℚ) : Prop :=
  ∃ between, While.Ends Underflows underflowRound before between ∧
    While.Ends Overflows overflowRound between after

theorem underflow_eq (t : ℤ × ℚ) :
    (if Underflows t then underflowRound t else t) = underflow t.1 t.2 := rfl

theorem overflow_eq (t : ℤ × ℚ) :
    (if Overflows t then overflowRound t else t) = overflow t.1 t.2 := rfl

/-- The first loop has at most one round. -/
theorem not_underflows_underflowRound {t : ℤ × ℚ} (h : Underflows t) :
    ¬ Underflows (underflowRound t) := by
  have hround := underflow_nonneg t.1 t.2
  rw [← underflow_eq, if_pos h] at hround
  exact not_lt.2 hround

/-- So has the second. -/
theorem not_overflows_overflowRound {t : ℤ × ℚ} (h : Overflows t) :
    ¬ Overflows (overflowRound t) := by
  have hround : 0 ≤ (overflow t.1 t.2).2 ∧ (overflow t.1 t.2).2 < 1 :=
    overflow_range (zero_le_one.trans h)
  rw [← overflow_eq, if_pos h] at hround
  exact not_le.2 hround.2

theorem ends_underflows_iff (before after : ℤ × ℚ) :
    While.Ends Underflows underflowRound before after ↔ after = underflow before.1 before.2 := by
  rw [While.ends_iff_round not_underflows_underflowRound, underflow_eq]

theorem ends_overflows_iff (before after : ℤ × ℚ) :
    While.Ends Overflows overflowRound before after ↔ after = overflow before.1 before.2 := by
  rw [While.ends_iff_round not_overflows_overflowRound, overflow_eq]

/-- `normalize` ends, at the timestamp of `Parts.normalize`. -/
theorem normalizes_iff (before after : ℤ × ℚ) :
    Normalizes before after ↔ after = (normalize before.1 before.2).members := by
  simp only [Normalizes, ends_underflows_iff, ends_overflows_iff, exists_eq_left]
  rfl

/-! ### What is added and subtracted -/

/-- The cast to `int64_t` cuts towards zero. -/
def truncate (sec : ℚ) : ℤ := if 0 ≤ sec then ⌊sec⌋ else ⌈sec⌉

/-- What builds a timestamp, and what changes one: the constructors, `add` and `subtract`, and the
operators, which leave the new members whether they assign them or build a timestamp of them. -/
inductive Update
  | fromSeconds (seconds : ℤ)
  | fromDouble (seconds : ℚ)
  | fromBoth (seconds : ℤ) (fraction : ℚ)
  | addSeconds (sec : ℤ)
  | subtractSeconds (sec : ℤ)
  | addDouble (sec : ℚ)
  | subtractDouble (sec : ℚ)
  | plus (other : Parts)
  | minus (other : Parts)
  | plusDouble (sec : ℚ)
  | minusDouble (sec : ℚ)

namespace Update

/-- `operator+` of a number splits it first. -/
def EndsPlusDouble (t : Parts) (sec : ℚ) (after : ℤ × ℚ) : Prop :=
  Normalizes (t.mSeconds + truncate sec, t.mFraction + (sec - truncate sec)) after

/-- The update of a timestamp leaves the members. -/
def Ends (t : Parts) (after : ℤ × ℚ) : Update → Prop
  | fromSeconds seconds => after = (seconds, 0)
  | fromDouble seconds => Normalizes (0, 0 + seconds) after
  | fromBoth seconds fraction => Normalizes (seconds, fraction) after
  | addSeconds sec => after = (t.mSeconds + sec, t.mFraction)
  | subtractSeconds sec => after = (t.mSeconds - sec, t.mFraction)
  | addDouble sec => Normalizes (t.mSeconds, t.mFraction + sec) after
  | subtractDouble sec => Normalizes (t.mSeconds, t.mFraction - sec) after
  | plus other => Normalizes (t.mSeconds + other.mSeconds, t.mFraction + other.mFraction) after
  | minus other => Normalizes (t.mSeconds - other.mSeconds, t.mFraction - other.mFraction) after
  | plusDouble sec => EndsPlusDouble t sec after
  | minusDouble sec => EndsPlusDouble t (-sec) after

/-- The timestamp left. -/
def run (t : Parts) : Update → Parts
  | fromSeconds seconds => ofSeconds seconds
  | fromDouble seconds => normalize 0 (0 + seconds)
  | fromBoth seconds fraction => normalize seconds fraction
  | addSeconds sec => t.add sec
  | subtractSeconds sec => t.subtract sec
  | addDouble sec => normalize t.mSeconds (t.mFraction + sec)
  | subtractDouble sec => normalize t.mSeconds (t.mFraction - sec)
  | plus other => t.plus other
  | minus other => t.minus other
  | plusDouble sec => normalize (t.mSeconds + truncate sec) (t.mFraction + (sec - truncate sec))
  | minusDouble sec =>
    normalize (t.mSeconds + truncate (-sec)) (t.mFraction + (-sec - truncate (-sec)))

/-- The number it stands for, from the one before. -/
def number (before : ℚ) : Update → ℚ
  | fromSeconds seconds => seconds
  | fromDouble seconds => seconds
  | fromBoth seconds fraction => seconds + fraction
  | addSeconds sec => before + sec
  | subtractSeconds sec => before - sec
  | addDouble sec => before + sec
  | subtractDouble sec => before - sec
  | plus other => before + other.value
  | minus other => before - other.value
  | plusDouble sec => before + sec
  | minusDouble sec => before - sec

theorem ends_iff (t : Parts) (update : Update) (after : ℤ × ℚ) :
    update.Ends t after ↔ after = (update.run t).members := by
  cases update with
  | fromSeconds _ | addSeconds _ | subtractSeconds _ => exact Iff.rfl
  | fromDouble _ | fromBoth _ _ | addDouble _ | subtractDouble _ | plus _ | minus _
  | plusDouble _ | minusDouble _ => exact normalizes_iff _ _

theorem value_run (t : Parts) (update : Update) :
    (update.run t).value = update.number t.value := by
  cases update with
  | fromSeconds _ => exact value_ofSeconds _
  | addSeconds _ => exact value_add _ _
  | subtractSeconds _ => exact value_subtract _ _
  | plus _ => exact value_plus _ _
  | minus _ => exact value_minus _ _
  | fromBoth _ _ => exact value_normalize _ _
  | fromDouble seconds =>
    rw [run, number, value_normalize]
    push_cast
    ring
  | addDouble _ | subtractDouble _ | plusDouble _ | minusDouble _ =>
    simp only [run, number, value_normalize]
    simp only [value]
    push_cast
    ring

end Update

/-! ### The comparisons -/

/-- `1e-9`. -/
def tolerance : ℚ := 1 / 1000000000

/-- `operator==`. -/
def equals (a b : Parts) : Bool :=
  a.mSeconds == b.mSeconds && |a.mFraction - b.mFraction| < tolerance

/-- `operator<`. -/
def less (a b : Parts) : Bool :=
  a.mSeconds < b.mSeconds || (a.mSeconds == b.mSeconds && a.mFraction < b.mFraction)

/-- `operator<=`. -/
def lessEqual (a b : Parts) : Bool := a.less b || a.equals b

/-- `operator>`. -/
def greater (a b : Parts) : Bool := !a.lessEqual b

/-- Timestamps are ordered as their numbers. -/
instance : LinearOrder Parts := LinearOrder.lift' value value_injective

theorem equals_iff (a b : Parts) : a.equals b ↔
    a.mSeconds = b.mSeconds ∧ |a.mFraction - b.mFraction| < tolerance := by
  simp [equals]

/-- `operator<` is exact. -/
theorem less_iff (a b : Parts) : a.less b ↔ a < b := by
  have ha := a.seconds_value
  have hb := b.seconds_value
  simp only [less, Bool.or_eq_true, Bool.and_eq_true, decide_eq_true_eq, beq_iff_eq]
  change _ ↔ a.value < b.value
  constructor
  · rintro (hseconds | ⟨hseconds, hfraction⟩)
    · rw [← ha, ← hb] at hseconds
      exact lt_of_not_ge fun hle => absurd (Int.floor_mono hle) (not_le.2 hseconds)
    · rw [value, value, hseconds]
      linarith
  · intro hvalue
    have hle : a.mSeconds ≤ b.mSeconds := by
      rw [← ha, ← hb]
      exact Int.floor_mono hvalue.le
    rcases hle.lt_or_eq with hlt | heq
    · exact Or.inl hlt
    · rw [value, value, heq] at hvalue
      exact Or.inr ⟨heq, lt_of_add_lt_add_left hvalue⟩

theorem equals_refl (a : Parts) : a.equals a := by
  rw [equals_iff, sub_self, abs_zero]
  exact ⟨rfl, by norm_num [tolerance]⟩

theorem equals_symm (a b : Parts) (h : a.equals b) : b.equals a := by
  rw [equals_iff] at h ⊢
  rw [abs_sub_comm]
  exact ⟨h.1.symm, h.2⟩

theorem lessEqual_iff (a b : Parts) :
    a.lessEqual b ↔ Comparison.lessEqual (fun a b : Parts => a.equals b) a b := by
  rw [lessEqual, Bool.or_eq_true, less_iff, Comparison.lessEqual]

theorem greater_iff (a b : Parts) :
    a.greater b ↔ Comparison.greater (fun a b : Parts => a.equals b) a b := by
  rw [greater, Bool.not_eq_true', ← Bool.not_eq_true, lessEqual_iff, Comparison.greater]

/-- The timestamps of the set can be used as keys. -/
structure Keys (S : Set Parts) : Prop where
  exactlyOne : ∀ a ∈ S, ∀ b ∈ S, Comparison.ExactlyOne (a.less b) (a.equals b) (a.greater b)
  equals_trans : ∀ a ∈ S, ∀ b ∈ S, ∀ c ∈ S, a.equals b → b.equals c → a.equals c
  lessEqual_trans : ∀ a ∈ S, ∀ b ∈ S, ∀ c ∈ S, a.lessEqual b → b.lessEqual c → a.lessEqual c

/-- No two timestamps of one second in the set are different and closer than the tolerance. -/
def Separated (S : Set Parts) : Prop :=
  ∀ a ∈ S, ∀ b ∈ S, a.mSeconds = b.mSeconds → |a.mFraction - b.mFraction| < tolerance →
    a.mFraction = b.mFraction

theorem separated_iff (S : Set Parts) :
    Separated S ↔ ∀ a ∈ S, ∀ b ∈ S, a.equals b → a = b := by
  constructor
  · intro h a ha b hb hequals
    rw [equals_iff] at hequals
    exact Parts.ext hequals.1 (h a ha b hb hequals.1 hequals.2)
  · intro h a ha b hb hseconds hfraction
    rw [h a ha b hb ((equals_iff a b).2 ⟨hseconds, hfraction⟩)]

theorem keys_iff_laws (S : Set Parts) :
    Keys S ↔ Comparison.Laws (fun a b : Parts => a.equals b) S := by
  constructor
  · intro h
    refine ⟨?_, h.equals_trans, ?_⟩
    · simpa only [less_iff, greater_iff] using h.exactlyOne
    · simpa only [lessEqual_iff] using h.lessEqual_trans
  · intro h
    refine ⟨?_, h.same_trans, ?_⟩
    · simpa only [less_iff, greater_iff] using h.exactlyOne
    · simpa only [lessEqual_iff] using h.lessEqual_trans

theorem keys_iff (S : Set Parts) : Keys S ↔ Separated S := by
  rw [keys_iff_laws, separated_iff, Comparison.laws_iff equals_refl equals_symm]

/-- A timestamp is both less than another and equal to it just before that one. -/
theorem exactlyOne_iff (a b : Parts) :
    Comparison.ExactlyOne (a.less b) (a.equals b) (a.greater b) ↔
      ¬ (a.mSeconds = b.mSeconds ∧ a.mFraction < b.mFraction ∧
        b.mFraction < a.mFraction + tolerance) := by
  have hone := @Comparison.exactlyOne_iff _ _ (fun a b : Parts => a.equals b) a b
  rw [greater_iff, less_iff, hone, ← less_iff, equals_iff, not_iff_not]
  constructor
  · rintro ⟨hless, hseconds, hfraction⟩
    have hlt : a.mFraction < b.mFraction := by
      simpa [less, hseconds] using hless
    rw [abs_sub_comm, abs_of_pos (sub_pos.2 hlt)] at hfraction
    exact ⟨hseconds, hlt, by linarith⟩
  · rintro ⟨hseconds, hlt, hclose⟩
    refine ⟨by simp [less, hseconds, hlt], hseconds, ?_⟩
    rw [abs_sub_comm, abs_of_pos (sub_pos.2 hlt)]
    linarith

/-- **Arithmetic and order of timestamps.**  `normalize` ends in one place, a timestamp of the same
sum, whatever the members; so does every update, and the number is the exact one.  Exactly one of
the comparisons holds but of a timestamp and one just after it, and they are those of an order
exactly where no two timestamps are within the tolerance. -/
theorem timestamps_ordered_iff (S : Set Parts) :
    (∀ before : ℤ × ℚ, ∃ t : Parts, (∀ after, Normalizes before after ↔ after = t.members) ∧
      t.value = before.1 + before.2) ∧
    (∀ (t : Parts) (update : Update), ∃ t' : Parts,
      (∀ after, update.Ends t after ↔ after = t'.members) ∧
        t'.value = update.number t.value) ∧
    (∀ a b : Parts, Comparison.ExactlyOne (a.less b) (a.equals b) (a.greater b) ↔
      ¬ (a.mSeconds = b.mSeconds ∧ a.mFraction < b.mFraction ∧
        b.mFraction < a.mFraction + tolerance)) ∧
    (Keys S ↔ Separated S) := by
  refine ⟨fun before => ?_, fun t update => ?_, exactlyOne_iff, keys_iff S⟩
  · exact ⟨normalize before.1 before.2, normalizes_iff before, value_normalize _ _⟩
  · exact ⟨update.run t, update.ends_iff t, update.value_run t⟩

/-- Half a nanosecond after the epoch. -/
def halfNano : Parts := normalize 0 (1 / 2000000000)

/-- The epoch is less than a time half a nanosecond later and equal to it. -/
theorem not_keys_halfNano : (normalize 0 0).less halfNano ∧ (normalize 0 0).equals halfNano ∧
    ¬ Keys Set.univ := by
  have hless : (normalize 0 0).less halfNano := by decide +kernel
  have hequals : (normalize 0 0).equals halfNano := by decide +kernel
  refine ⟨hless, hequals, fun h => ?_⟩
  have hone := h.exactlyOne (normalize 0 0) trivial halfNano trivial
  simp only [Comparison.ExactlyOne, hless, hequals] at hone
  tauto

end Parts

end SuplLpp.Ts
