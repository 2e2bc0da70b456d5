import SuplLpp.Lib.While
import SuplLpp.Time.Order

/-!
# Days, weeks and the rollover

What `days`, `time_of_day`, `week`, `time_of_week` and `mod_timestamp` make of a timestamp.  The
bodies are the same in all the systems that have them.

* `count` and `rest`, the division of the source, which cuts towards zero; `rest_inRange_iff`: the
  rest is one of a division but before the epoch;
* `modTimestamp`, the loop of `Gps::mod_timestamp`; `mod_inRange_iff`: the loop stops one round
  early at the rollover itself, and takes times before the epoch for good ones;
* `splits_iff`: all of it, of the timestamps that a conversion yields.
-/

namespace SuplLpp.Ts

namespace Parts

theorem le_value_iff (t : Parts) (n : ℤ) : n ≤ t.value ↔ n ≤ t.mSeconds := by
  rw [← t.seconds_value, Timestamp.seconds, Int.le_floor]

theorem value_lt_iff (t : Parts) (n : ℤ) : t.value < n ↔ t.mSeconds < n := by
  rw [← t.seconds_value, Timestamp.seconds, Int.floor_lt]

theorem mSeconds_minus_ofSeconds (t : Parts) (n : ℤ) :
    (t.minus (ofSeconds n)).mSeconds = t.mSeconds - n := by
  rw [← seconds_value, value_minus, value_ofSeconds, Timestamp.seconds, Int.floor_sub_intCast,
    ← Timestamp.seconds, seconds_value]

theorem mSeconds_ofSeconds_plus (n : ℤ) (t : Parts) :
    ((ofSeconds n).plus t).mSeconds = n + t.mSeconds := by
  rw [← seconds_value, value_plus, value_ofSeconds, Timestamp.seconds, Int.floor_intCast_add,
    ← Timestamp.seconds, seconds_value]

/-! ### Days and weeks -/

/-- The whole units of a timestamp. -/
def count (unit : ℤ) (t : Parts) : ℤ := t.mSeconds.tdiv unit

/-- What they leave. -/
def rest (unit : ℤ) (t : Parts) : Parts := t.minus (ofSeconds (t.count unit * unit))

def days (t : Parts) : ℤ := t.count dayInSeconds

def timeOfDay (t : Parts) : Parts := t.rest dayInSeconds

def week (t : Parts) : ℤ := t.count weekInSeconds

def timeOfWeek (t : Parts) : Parts := t.rest weekInSeconds

theorem count_plus_rest (unit : ℤ) (t : Parts) :
    (ofSeconds (t.count unit * unit)).plus (t.rest unit) = t := by
  apply value_injective
  rw [value_plus, rest, value_minus]
  ring

/-- The remainder of a division towards zero is negative below zero. -/
theorem tmod_nonneg_iff (unit s : ℤ) : 0 ≤ s.tmod unit ↔ 0 ≤ s ∨ unit ∣ s := by
  rw [Int.dvd_iff_tmod_eq_zero]
  constructor
  · intro h
    by_contra! hs
    have hneg := Int.tmod_nonneg (a := -s) unit (by omega)
    rw [Int.neg_tmod] at hneg
    omega
  · rintro (hs | hs)
    · exact Int.tmod_nonneg unit hs
    · exact hs.ge

theorem mSeconds_rest (unit : ℤ) (t : Parts) :
    (t.rest unit).mSeconds = t.mSeconds.tmod unit := by
  rw [rest, mSeconds_minus_ofSeconds, count, Int.tmod_def, mul_comm]

theorem rest_inRange_iff {unit : ℤ} (hunit : 0 < unit) (t : Parts) :
    0 ≤ (t.rest unit).value ∧ (t.rest unit).value < unit ↔
      0 ≤ t.mSeconds ∨ unit ∣ t.mSeconds := by
  have hlt := Int.tmod_lt_of_pos t.mSeconds hunit
  have hzero := (t.rest unit).le_value_iff 0
  rw [value_lt_iff, mSeconds_rest]
  rw [Int.cast_zero, mSeconds_rest] at hzero
  rw [hzero, tmod_nonneg_iff]
  exact and_iff_left hlt

/-! ### The rollover -/

/-- The GPS weeks of a navigation message start again after 1024. -/
def rolloverInSeconds : ℤ := weekInSeconds * 1024

/-- The guard of the loop of `mod_timestamp`. -/
def PastRollover (t : Parts) : Prop := rolloverInSeconds < t.mSeconds

instance : DecidablePred PastRollover := fun t =>
  inferInstanceAs (Decidable (rolloverInSeconds < t.mSeconds))

def modRound (t : Parts) : Parts := t.subtract rolloverInSeconds

theorem modRound_lt (t : Parts) (h : PastRollover t) :
    (modRound t).mSeconds.toNat < t.mSeconds.toNat := by
  have hpos : 0 < rolloverInSeconds := by decide
  simp only [modRound, subtract, PastRollover] at h ⊢
  omega

/-- `Gps::mod_timestamp`. -/
def modTimestamp (t : Parts) : Parts := While.run (fun t => t.mSeconds.toNat) modRound_lt t

theorem modTimestamp_ends (t : Parts) : While.Ends PastRollover modRound t t.modTimestamp :=
  While.ends_run _ modRound_lt t

/-- After some rounds: whole rollovers are taken off, and a round leaves more than nothing. -/
def ModInvariant (t r : Parts) : Prop :=
  ∃ rounds : ℕ, (ofSeconds (rounds * rolloverInSeconds)).plus r = t ∧
    (rounds = 0 ∨ 0 < r.mSeconds)

theorem modInvariant_refl (t : Parts) : ModInvariant t t := by
  refine ⟨0, value_injective ?_, Or.inl rfl⟩
  simp

theorem modInvariant_modRound (t r : Parts) (hr : PastRollover r) (h : ModInvariant t r) :
    ModInvariant t (modRound r) := by
  obtain ⟨rounds, rfl, _⟩ := h
  refine ⟨rounds + 1, value_injective ?_, Or.inr (sub_pos.2 hr)⟩
  simp only [modRound, value_plus, value_ofSeconds, value_subtract]
  push_cast
  ring

/-- What `mod_timestamp` leaves. -/
theorem modTimestamp_spec (t : Parts) : ModInvariant t t.modTimestamp ∧
    t.modTimestamp.mSeconds ≤ rolloverInSeconds :=
  ⟨t.modTimestamp_ends.invariant (modInvariant_modRound t) (modInvariant_refl t),
    not_lt.1 t.modTimestamp_ends.exit⟩

theorem mod_inRange_iff (t : Parts) :
    0 ≤ t.modTimestamp.value ∧ t.modTimestamp.value < rolloverInSeconds ↔
      0 ≤ t.mSeconds ∧ (t.mSeconds = 0 ∨ ¬ rolloverInSeconds ∣ t.mSeconds) := by
  obtain ⟨⟨rounds, hplus, hrounds⟩, hle⟩ := t.modTimestamp_spec
  have hzero := t.modTimestamp.le_value_iff 0
  rw [Int.cast_zero] at hzero
  rw [value_lt_iff, hzero]
  generalize t.modTimestamp = r at *
  subst hplus
  rw [mSeconds_ofSeconds_plus]
  have hunit : rolloverInSeconds = 619315200 := rfl
  rw [hunit] at hle ⊢
  omega

/-! ### All of it -/

/-- What splits a timestamp. -/
inductive Split
  | day | week | rollover
  deriving DecidableEq, Repr

namespace Split

/-- The seconds of a unit. -/
def unit : Split → ℤ
  | day => dayInSeconds
  | week => weekInSeconds
  | rollover => rolloverInSeconds

/-- What is left of a timestamp. -/
def left (t : Parts) : Split → Parts
  | day => t.timeOfDay
  | week => t.timeOfWeek
  | rollover => t.modTimestamp

/-- Whole units and what is left make the timestamp: as many units as are counted, and as many as
the loop, which ends, takes off. -/
def Recombines (t : Parts) : Split → Prop
  | day => (ofSeconds (t.days * dayInSeconds)).plus t.timeOfDay = t
  | week => (ofSeconds (t.week * weekInSeconds)).plus t.timeOfWeek = t
  | rollover => While.Ends PastRollover modRound t t.modTimestamp ∧
      ∃ rounds : ℕ, (ofSeconds (rounds * rolloverInSeconds)).plus t.modTimestamp = t

/-- What is left is less than a unit. -/
def InRange (split : Split) (t : Parts) : Prop :=
  0 ≤ (split.left t).value ∧ (split.left t).value < split.unit

/-- The seconds of which it is. -/
def InRangeWhen (s : ℤ) : Split → Prop
  | day => 0 ≤ s ∨ dayInSeconds ∣ s
  | week => 0 ≤ s ∨ weekInSeconds ∣ s
  | rollover => 0 ≤ s ∧ (s = 0 ∨ ¬ rolloverInSeconds ∣ s)

theorem recombines (split : Split) (t : Parts) : split.Recombines t := by
  cases split with
  | day => exact t.count_plus_rest dayInSeconds
  | week => exact t.count_plus_rest weekInSeconds
  | rollover =>
    obtain ⟨rounds, hplus, _⟩ := t.modTimestamp_spec.1
    exact ⟨t.modTimestamp_ends, rounds, hplus⟩

theorem inRange_iff (split : Split) (t : Parts) :
    split.InRange t ↔ split.InRangeWhen t.mSeconds := by
  cases split with
  | day => exact t.rest_inRange_iff (by decide)
  | week => exact t.rest_inRange_iff (by decide)
  | rollover => exact t.mod_inRange_iff

end Split

/-- The whole seconds of a converted time. -/
theorem mSeconds_convert (source system : TimeSystem) (t : Parts) :
    (TimeSystem.convert source system t).mSeconds =
      t.mSeconds + (system.offset - source.offset) := by
  rw [← seconds_value, TimeSystem.value_convert, Timestamp.seconds, ← Int.cast_sub,
    Int.floor_add_intCast, ← Timestamp.seconds, seconds_value]

/-- **Day and week splits.**  Of every time that a conversion yields, the parts recombine; what is
left of the units is in its range exactly from the epoch on, or a whole number of units before it,
and for `mod_timestamp` exactly from the epoch on but at the rollovers. -/
theorem splits_iff (source system : TimeSystem) (t : Parts) (split : Split) :
    split.Recombines (TimeSystem.convert source system t) ∧
      (split.InRange (TimeSystem.convert source system t) ↔
        split.InRangeWhen (t.mSeconds + (system.offset - source.offset))) := by
  rw [← mSeconds_convert]
  exact ⟨split.recombines _, split.inRange_iff _⟩

/-- The Unix epoch as GLONASS time, and the first rollover of GPS time. -/
theorem not_inRange_epoch :
    ¬ Split.day.InRange (TimeSystem.convert .utc .glo (ofSeconds 0)) ∧
      ¬ Split.rollover.InRange (TimeSystem.convert .gps .gps (ofSeconds rolloverInSeconds)) := by
  rw [Split.inRange_iff, Split.inRange_iff, mSeconds_convert, mSeconds_convert]
  simp only [Split.InRangeWhen, ofSeconds]
  decide

end Parts

end SuplLpp.Ts
