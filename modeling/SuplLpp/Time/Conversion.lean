import SuplLpp.Time.Timestamp
import Mathlib.Tactic.Ring
import Mathlib.Tactic.FieldSimp

/-!
# Conversions between the time systems

* `Parts`, whole seconds and a fraction as `Timestamp` keeps them, with `normalize`; `value_add`
  and the others: its arithmetic is that of the number;
* `TimeSystem`, `TimeSystem.convert`: the constructors of the six systems, by the system they take;
* `value_convert`: a conversion adds the difference of two offsets, so that conversions compose;
* `weeksApart_iff`: where GPS and Galileo weeks are 1024 apart;
* `conversions_agree`: all of it.
-/

namespace SuplLpp.Ts

/-! ### Seconds and fraction -/

/-- `Timestamp`: whole seconds and a fraction below one. -/
@[ext]
structure Parts where
  mSeconds : ℤ
  mFraction : ℚ
  nonneg : 0 ≤ mFraction
  lt_one : mFraction < 1

namespace Parts

/-- One round of the first loop of `normalize`, where the fraction is negative. -/
def underflow (seconds : ℤ) (fraction : ℚ) : ℤ × ℚ :=
  if fraction < 0 then (seconds - (⌊-fraction⌋ + 1), fraction + (⌊-fraction⌋ + 1 : ℤ))
  else (seconds, fraction)

/-- One round of the second loop of `normalize`, where the fraction is not below one. -/
def overflow (seconds : ℤ) (fraction : ℚ) : ℤ × ℚ :=
  if 1 ≤ fraction then (seconds + ⌊fraction⌋, fraction - ⌊fraction⌋) else (seconds, fraction)

/-- No loop has a second round. -/
theorem underflow_nonneg (seconds : ℤ) (fraction : ℚ) : 0 ≤ (underflow seconds fraction).2 := by
  unfold underflow
  split_ifs with h
  · have := Int.lt_floor_add_one (-fraction)
    push_cast
    linarith
  · exact not_lt.1 h

theorem overflow_range {seconds : ℤ} {fraction : ℚ} (h : 0 ≤ fraction) :
    0 ≤ (overflow seconds fraction).2 ∧ (overflow seconds fraction).2 < 1 := by
  unfold overflow
  split_ifs with h1
  · have h2 := Int.floor_le fraction
    have h3 := Int.lt_floor_add_one fraction
    constructor
    · dsimp only
      linarith
    · dsimp only
      linarith
  · exact ⟨h, not_le.1 h1⟩

def normalize (seconds : ℤ) (fraction : ℚ) : Parts :=
  let parts := underflow seconds fraction
  let parts' := overflow parts.1 parts.2
  ⟨parts'.1, parts'.2, (overflow_range (underflow_nonneg seconds fraction)).1,
    (overflow_range (underflow_nonneg seconds fraction)).2⟩

/-- The number that seconds and fraction stand for. -/
def value (parts : Parts) : Timestamp := parts.mSeconds + parts.mFraction

theorem value_normalize (seconds : ℤ) (fraction : ℚ) :
    (normalize seconds fraction).value = seconds + fraction := by
  simp only [value, normalize, overflow, underflow]
  split_ifs <;> push_cast <;> ring

theorem seconds_value (parts : Parts) : parts.value.seconds = parts.mSeconds := by
  rw [Timestamp.seconds, value, Int.floor_intCast_add,
    Int.floor_eq_zero_iff.2 ⟨parts.nonneg, parts.lt_one⟩, add_zero]

/-- Seconds and fraction are told by the number. -/
theorem value_injective : Function.Injective value := by
  intro a b h
  have hseconds : a.mSeconds = b.mSeconds := by
    rw [← seconds_value, h, seconds_value]
  apply Parts.ext hseconds
  rw [value, value, hseconds] at h
  exact add_left_cancel h

/-- `add` and `subtract` of whole seconds. -/
def add (parts : Parts) (sec : ℤ) : Parts := { parts with mSeconds := parts.mSeconds + sec }

def subtract (parts : Parts) (sec : ℤ) : Parts := { parts with mSeconds := parts.mSeconds - sec }

/-- `operator+` and `operator-`. -/
def plus (a b : Parts) : Parts := normalize (a.mSeconds + b.mSeconds) (a.mFraction + b.mFraction)

def minus (a b : Parts) : Parts := normalize (a.mSeconds - b.mSeconds) (a.mFraction - b.mFraction)

@[simp] theorem value_add (parts : Parts) (sec : ℤ) :
    (parts.add sec).value = parts.value + sec := by
  simp only [value, add]
  push_cast
  ring

@[simp] theorem value_subtract (parts : Parts) (sec : ℤ) :
    (parts.subtract sec).value = parts.value - sec := by
  simp only [value, subtract]
  push_cast
  ring

@[simp] theorem value_plus (a b : Parts) : (a.plus b).value = a.value + b.value := by
  rw [plus, value_normalize, value, value]
  push_cast
  ring

@[simp] theorem value_minus (a b : Parts) : (a.minus b).value = a.value - b.value := by
  rw [minus, value_normalize, value, value]
  push_cast
  ring

end Parts

/-! ### The six systems -/

inductive TimeSystem
  | utc | gps | gst | glo | bdt | tai
  deriving DecidableEq, Repr

namespace TimeSystem

/-- What the functions from UTC add, one after the other. -/
def steps : TimeSystem → List ℤ
  | utc => []
  | gps => [18, -(5 * dayInSeconds), -(2 * dayInSeconds), -(10 * yearInSeconds)]
  | gst => [13 + (leapSecondsCount - 32), -(233 * dayInSeconds), -(7 * dayInSeconds),
      -(29 * yearInSeconds)]
  | glo => [3 * hourInSeconds, -(6 * dayInSeconds), -(26 * yearInSeconds)]
  | bdt => [leapSecondsCount - 33, -(9 * dayInSeconds), -(36 * yearInSeconds)]
  | tai => [-leapSecondsCount]

/-- `utc_2_gps` and the others. -/
def fromUtc (system : TimeSystem) (t : Parts) : Parts := system.steps.foldl Parts.add t

/-- `utc_timestamp`: the way back adds what the way there took off; TAI has a way of its own. -/
def utcTimestamp (system : TimeSystem) (t : Parts) : Parts :=
  match system with
  | utc => t
  | tai => t.add leapSecondsCount
  | gps | gst | glo | bdt => t.plus (t.minus (system.fromUtc t))

/-- The constructor of `target` from a time of `source`: the same system is copied, everything
else goes over UTC. -/
def convert (source target : TimeSystem) (t : Parts) : Parts :=
  if source = target then t
  else
    match source, target with
    | utc, target => target.fromUtc t
    | source, utc => source.utcTimestamp t
    | source, target => target.fromUtc (source.utcTimestamp t)

/-- A time of the system minus UTC. -/
def offset (system : TimeSystem) : ℤ := system.steps.sum

theorem value_fromUtc (system : TimeSystem) (t : Parts) :
    (system.fromUtc t).value = t.value + system.offset := by
  have hloop : ∀ (steps : List ℤ) (t : Parts),
      (steps.foldl Parts.add t).value = t.value + steps.sum := by
    intro steps
    induction steps with
    | nil =>
      intro t
      simp
    | cons step steps ih =>
      intro t
      rw [List.foldl_cons, ih, Parts.value_add, List.sum_cons]
      push_cast
      ring
  exact hloop system.steps t

theorem value_utcTimestamp (system : TimeSystem) (t : Parts) :
    (system.utcTimestamp t).value = t.value - system.offset := by
  cases system with
  | utc => simp [utcTimestamp, offset, steps]
  | tai => simp [utcTimestamp, offset, steps]
  | gps | gst | glo | bdt =>
    simp only [utcTimestamp, Parts.value_plus, Parts.value_minus, value_fromUtc]
    ring

/-- What the assertions on the way back say: only whole seconds are taken off. -/
theorem fraction_minus_fromUtc (system : TimeSystem) (t : Parts) :
    (t.minus (system.fromUtc t)).mFraction = 0 := by
  have hloop : ∀ (steps : List ℤ) (t : Parts),
      (steps.foldl Parts.add t).mFraction = t.mFraction := by
    intro steps
    induction steps with
    | nil => exact fun _ => rfl
    | cons step steps ih => exact fun t => ih (t.add step)
  have hfraction : (system.fromUtc t).mFraction = t.mFraction := hloop system.steps t
  simp [Parts.minus, hfraction, Parts.normalize, Parts.underflow, Parts.overflow]

/-- A conversion adds the difference of the offsets. -/
theorem value_convert (source target : TimeSystem) (t : Parts) :
    (convert source target t).value = t.value + (target.offset - source.offset) := by
  unfold convert
  split_ifs with h
  · rw [h]
    ring
  · have hutc : (utc.offset : ℚ) = 0 := by simp [offset, steps]
    split
    · rw [value_fromUtc, hutc]
      ring
    · rw [value_utcTimestamp, hutc]
      ring
    · rw [value_fromUtc, value_utcTimestamp]
      ring

/-- Conversions compose. -/
theorem convert_convert (a b c : TimeSystem) (t : Parts) :
    convert b c (convert a b t) = convert a c t := by
  apply Parts.value_injective
  rw [value_convert, value_convert, value_convert]
  ring

/-- There and back again. -/
theorem convert_back (a b : TimeSystem) (t : Parts) : convert b a (convert a b t) = t := by
  apply Parts.value_injective
  rw [value_convert, value_convert]
  ring

end TimeSystem

/-- The conversions of numbers are these. -/
theorem ofTai_value (t : Parts) :
    (Gps.ofTai ⟨t.value⟩).mTm = (TimeSystem.convert .tai .gps t).value ∧
      (Gst.ofTai ⟨t.value⟩).mTm = (TimeSystem.convert .tai .gst t).value ∧
      (Glo.ofTai ⟨t.value⟩).mTm = (TimeSystem.convert .tai .glo t).value ∧
      (Bdt.ofTai ⟨t.value⟩).mTm = (TimeSystem.convert .tai .bdt t).value := by
  simp only [TimeSystem.value_convert, TimeSystem.offset, TimeSystem.steps, List.sum_cons,
    List.sum_nil, Gps.ofTai, Gst.ofTai, Glo.ofTai, Bdt.ofTai, Utc.ofTai, tai2utc, utc2gps, utc2gst,
    utc2glo, utc2bdt]
  refine ⟨?_, ?_, ?_, ?_⟩ <;> push_cast <;> ring

/-! ### Weeks -/

open TimeSystem

theorem gst_sub_gps : gst.offset - gps.offset = -(1024 * weekInSeconds) := by decide

theorem bdt_sub_gps : bdt.offset - gps.offset = -(14 + 1356 * weekInSeconds) := by decide

/-- Division towards zero is not shifted with its argument across zero. -/
theorem tdiv_sub_iff (s : ℤ) : (s - 1024 * 604800).tdiv 604800 = s.tdiv 604800 - 1024 ↔
    s ≤ 0 ∨ 1024 * 604800 ≤ s ∨ 604800 ∣ s := by
  have hsign : Int.sign 604800 = 1 := rfl
  rw [Int.tdiv_eq_ediv, Int.tdiv_eq_ediv, hsign]
  split_ifs <;> omega

/-- GPS and Galileo weeks are 1024 apart. -/
def WeeksApart (t : Parts) : Prop :=
  week (convert gps gst t).value = week t.value - 1024 ∧
    timeOfWeek (convert gps gst t).value = timeOfWeek t.value

/-- They are exactly outside of the weeks between the two epochs, where the source cuts one
number down and the other up. -/
theorem weeksApart_iff (t : Parts) : WeeksApart t ↔
    t.mSeconds ≤ 0 ∨ 1024 * weekInSeconds ≤ t.mSeconds ∨ weekInSeconds ∣ t.mSeconds := by
  have hvalue : (convert gps gst t).value = t.value - (1024 * weekInSeconds : ℤ) := by
    have h := congrArg (fun n : ℤ => (n : ℚ)) gst_sub_gps
    push_cast at h
    rw [value_convert, h]
    push_cast
    ring
  have hseconds : (convert gps gst t).value.seconds = t.mSeconds - 1024 * weekInSeconds := by
    rw [hvalue, Timestamp.seconds, Int.floor_sub_intCast, ← Timestamp.seconds, t.seconds_value]
  have hweek : weekInSeconds = 604800 := rfl
  have hiff := tdiv_sub_iff t.mSeconds
  rw [WeeksApart, timeOfWeek, timeOfWeek, week, week, hseconds, t.seconds_value, hvalue, hweek]
  rw [← hiff]
  constructor
  · exact fun h => h.1
  · intro h
    refine ⟨h, ?_⟩
    rw [h]
    push_cast
    ring

/-! ### All of it -/

/-- **The conversions agree.**  There and back, over any third system, GPS and Galileo weeks from
the epoch of the latter on, and BeiDou time 14 seconds behind GPS time. -/
theorem conversions_agree :
    (∀ a b t, convert b a (convert a b t) = t) ∧
      (∀ a b c t, convert b c (convert a b t) = convert a c t) ∧
      (∀ t, WeeksApart t ↔ t.mSeconds ≤ 0 ∨ 1024 * weekInSeconds ≤ t.mSeconds ∨
        weekInSeconds ∣ t.mSeconds) ∧
      ∀ t, (convert gps bdt t).value = t.value - 14 - (1356 * weekInSeconds : ℤ) := by
  refine ⟨convert_back, convert_convert, weeksApart_iff, fun t => ?_⟩
  have h := congrArg (fun n : ℤ => (n : ℚ)) bdt_sub_gps
  push_cast at h
  rw [value_convert, h]
  push_cast
  ring

/-- In the first week of GPS time, the Galileo week is cut up. -/
theorem not_weeksApart_100 : ¬ ∀ t, WeeksApart t := by
  intro h
  have h100 := (weeksApart_iff ⟨100, 0, le_refl 0, zero_lt_one⟩).1 (h _)
  have hweek : weekInSeconds = 604800 := rfl
  rw [hweek] at h100
  dsimp only at h100
  omega

end SuplLpp.Ts
