import Mathlib.Algebra.Order.Ring.Abs
import Mathlib.Data.List.TakeWhile
import Mathlib.Data.Nat.Digits.Defs
import Mathlib.RingTheory.Coprime.Lemmas
import Mathlib.Tactic.FieldSimp
import Mathlib.Tactic.IntervalCases
import Mathlib.Tactic.Positivity
import SuplLpp.Time.Timestamp

/-!
# The time of a GGA sentence

The sentence has a time of day and no date, which `parse_utc` takes from the clock.

* `split`, `stoi` and `parseUtc`, as the source has them;
* `TimeField`: a time field with any number of decimals, `TimeField.timeOfDay` what it says;
* `Places`: the instant has that time of day, and none with it is nearer to the clock;
* `parses_iff`: for which fields and which times `parse_utc` finds that instant.
-/

namespace SuplLpp.Format.Gga

open Ts (Utc Tai fromDayTod)

/-! ### The functions of the source -/

/-- The rest of `split`, behind the beginning of a token. -/
def splitFrom (delim : Char) (token : List Char) : List Char → List (List Char)
  | [] => if token.isEmpty then [] else [token]
  | c :: rest =>
    if c = delim then token :: splitFrom delim [] rest else splitFrom delim (token ++ [c]) rest

/-- `split`: at the end of the string there is no empty token. -/
def split (str : List Char) (delim : Char) : List (List Char) := splitFrom delim [] str

/-- `std::isspace`. -/
def isSpace (c : Char) : Bool := c.toNat = 32 ∨ 9 ≤ c.toNat ∧ c.toNat ≤ 13

def digitsValue (digits : List Char) : ℕ := digits.foldl (fun n c => 10 * n + (c.toNat - 48)) 0

/-- `std::stoi`; no value where it throws. -/
def stoi (str : List Char) : Option ℤ :=
  let str := str.dropWhile isSpace
  let signed : Bool × List Char :=
    match str with
    | '-' :: rest => (true, rest)
    | '+' :: rest => (false, rest)
    | _ => (false, str)
  let digits := signed.2.takeWhile Char.isDigit
  if digits.isEmpty then none
  else
    let value : ℤ := if signed.1 then -digitsValue digits else digitsValue digits
    if value < -2147483648 ∨ 2147483647 < value then none else some value

/-- `std::string::substr`. -/
def substr (str : List Char) (pos count : ℕ) : Option (List Char) :=
  if str.length < pos then none else some ((str.drop pos).take count)

/-- `parse_utc`, with what `Utc::now` returns. -/
def parseUtc (now : Utc) (utc : List Char) : Option Tai :=
  match split utc '.' with
  | [whole, fraction] => do
    let hours ← (substr whole 0 2).bind stoi
    let minutes ← (substr whole 2 2).bind stoi
    let seconds ← (substr whole 4 2).bind stoi
    let milliseconds ← stoi fraction
    let tod : ℚ := (hours * (60 * 60) + minutes * 60 + seconds : ℤ) + milliseconds * (1 / 1000)
    some (Tai.ofUtc ⟨fromDayTod (Ts.days now.mTm) tod⟩)
  | _ => none

/-! ### Time fields -/

/-- `hhmmss`, and a point with decimals behind it. -/
structure TimeField where
  hours : Fin 24
  minutes : Fin 60
  seconds : Fin 60
  fraction : Option (List (Fin 10))

/-- A number of two digits. -/
def twoDigits (n : ℕ) : List Char := [Nat.digitChar (n / 10), Nat.digitChar (n % 10)]

def digitText (ds : List (Fin 10)) : List Char := ds.map fun d => Nat.digitChar d.val

/-- The number that the digits spell. -/
def number (ds : List (Fin 10)) : ℕ := ds.foldl (fun n d => 10 * n + d.val) 0

/-- The digits as decimals. -/
def decimals : List (Fin 10) → ℚ
  | [] => 0
  | d :: ds => (d + decimals ds) / 10

namespace TimeField

def whole (f : TimeField) : List Char :=
  twoDigits f.hours ++ twoDigits f.minutes ++ twoDigits f.seconds

def text (f : TimeField) : List Char :=
  match f.fraction with
  | none => f.whole
  | some ds => f.whole ++ '.' :: digitText ds

/-- The whole seconds. -/
def hms (f : TimeField) : ℤ := f.hours * (60 * 60) + f.minutes * 60 + f.seconds

/-- The time of day that the field says. -/
def timeOfDay (f : TimeField) : ℚ := f.hms + (f.fraction.map decimals).getD 0

end TimeField

/-- The instant has the time of day of the field, and is the nearest to the clock that has. -/
def Places (now : Utc) (f : TimeField) (t : Tai) : Prop :=
  ∃ day, (Utc.ofTai t).mTm = fromDayTod day f.timeOfDay ∧
    ∀ day', |fromDayTod day f.timeOfDay - now.mTm| ≤ |fromDayTod day' f.timeOfDay - now.mTm|

/-! ### Digits -/

theorem digitChar_digit : ∀ d : Fin 10, (Nat.digitChar d.val).isDigit = true ∧
    isSpace (Nat.digitChar d.val) = false ∧ Nat.digitChar d.val ≠ '-' ∧ Nat.digitChar d.val ≠ '+' ∧
      Nat.digitChar d.val ≠ '.' ∧ (Nat.digitChar d.val).toNat - 48 = d := by decide

theorem point_notMem_digitText (ds : List (Fin 10)) : '.' ∉ digitText ds := by
  intro hmem
  obtain ⟨d, -, hd⟩ := List.mem_map.1 hmem
  exact (digitChar_digit d).2.2.2.2.1 hd

theorem digitsValue_digitText (ds : List (Fin 10)) : digitsValue (digitText ds) = number ds := by
  unfold digitsValue digitText number
  rw [List.foldl_map]
  simp only [fun d : Fin 10 => (digitChar_digit d).2.2.2.2.2]

/-- What `std::stoi` makes of digits. -/
theorem stoi_digitText {ds : List (Fin 10)} (hds : ds ≠ []) :
    stoi (digitText ds) = if number ds ≤ 2147483647 then some (number ds : ℤ) else none := by
  obtain ⟨d, ds, rfl⟩ := List.exists_cons_of_ne_nil hds
  obtain ⟨hdigit, hspace, hminus, hplus, -, -⟩ := digitChar_digit d
  have hdrop : (digitText (d :: ds)).dropWhile isSpace = digitText (d :: ds) := by
    rw [digitText, List.map_cons, List.dropWhile_cons_of_neg (by simp [hspace])]
  have htake : (digitText (d :: ds)).takeWhile Char.isDigit = digitText (d :: ds) := by
    rw [List.takeWhile_eq_self_iff]
    intro c hc
    obtain ⟨d', -, rfl⟩ := List.mem_map.1 hc
    exact (digitChar_digit d').1
  have hsign : (match digitText (d :: ds) with
      | '-' :: rest => (true, rest)
      | '+' :: rest => (false, rest)
      | _ => (false, digitText (d :: ds)) : Bool × List Char) = (false, digitText (d :: ds)) := by
    rw [digitText, List.map_cons]
    split
    case h_1 heq => exact absurd (List.cons.inj heq).1 hminus
    case h_2 heq => exact absurd (List.cons.inj heq).1 hplus
    case h_3 => rfl
  have hne : (digitText (d :: ds)).isEmpty = false := rfl
  simp only [stoi, hdrop, hsign, htake, hne, Bool.false_eq_true, if_false, digitsValue_digitText]
  by_cases hle : number (d :: ds) ≤ 2147483647
  · rw [if_neg (by omega), if_pos hle]
  · rw [if_pos (by omega), if_neg hle]

theorem stoi_twoDigits : ∀ n : Fin 60, stoi (twoDigits n) = some (n : ℤ) := by decide +kernel

theorem point_notMem_twoDigits : ∀ n : Fin 60, '.' ∉ twoDigits n := by decide

/-! ### Tokens -/

theorem splitFrom_of_notMem {delim : Char} {str : List Char} (h : delim ∉ str)
    (token : List Char) :
    splitFrom delim token str = if (token ++ str).isEmpty then [] else [token ++ str] := by
  induction str generalizing token with
  | nil => simp [splitFrom]
  | cons c str ih =>
    obtain ⟨hc, hstr⟩ := not_or.1 (mt List.mem_cons.2 h)
    rw [splitFrom, if_neg (Ne.symm hc), ih hstr, List.append_assoc, List.singleton_append]

theorem splitFrom_append {delim : Char} {str : List Char} (h : delim ∉ str)
    (token rest : List Char) :
    splitFrom delim token (str ++ delim :: rest) = (token ++ str) :: splitFrom delim [] rest := by
  induction str generalizing token with
  | nil => simp [splitFrom]
  | cons c str ih =>
    obtain ⟨hc, hstr⟩ := not_or.1 (mt List.mem_cons.2 h)
    rw [List.cons_append, splitFrom, if_neg (Ne.symm hc), ih hstr, List.append_assoc,
      List.singleton_append]

namespace TimeField

variable (f : TimeField)

theorem point_notMem_whole : '.' ∉ f.whole := by
  have hhours : '.' ∉ twoDigits f.hours :=
    point_notMem_twoDigits (f.hours.castLE (by omega))
  simp [whole, hhours, point_notMem_twoDigits]

/-- The fields of the whole seconds are read as they are written. -/
theorem stoi_whole :
    (substr f.whole 0 2).bind stoi = some (f.hours : ℤ) ∧
      (substr f.whole 2 2).bind stoi = some (f.minutes : ℤ) ∧
      (substr f.whole 4 2).bind stoi = some (f.seconds : ℤ) :=
  ⟨stoi_twoDigits (f.hours.castLE (by omega)), stoi_twoDigits f.minutes, stoi_twoDigits f.seconds⟩

end TimeField

/-- **What `parse_utc` reads**: the decimals count as milliseconds. -/
theorem parseUtc_text (now : Utc) (f : TimeField) :
    parseUtc now f.text = f.fraction.bind fun ds =>
      if ds ≠ [] ∧ number ds ≤ 2147483647 then
        some (Tai.ofUtc ⟨fromDayTod (Ts.days now.mTm) (f.hms + number ds * (1 / 1000))⟩)
      else none := by
  obtain ⟨hhours, hminutes, hseconds⟩ := f.stoi_whole
  cases hfraction : f.fraction with
  | none =>
    have hsplit : split f.text '.' = [f.whole] := by
      rw [TimeField.text, hfraction, split, splitFrom_of_notMem f.point_notMem_whole]
      rfl
    rw [parseUtc, hsplit]
    rfl
  | some ds =>
    have hsplit : split f.text '.' =
        f.whole :: if (digitText ds).isEmpty then [] else [digitText ds] := by
      rw [TimeField.text, hfraction, split, splitFrom_append f.point_notMem_whole,
        splitFrom_of_notMem (point_notMem_digitText ds)]
      rfl
    rw [parseUtc, hsplit, Option.bind_some]
    by_cases hds : ds = []
    · rw [hds]
      rfl
    · have hne : (digitText ds).isEmpty = false := by simp [digitText, hds]
      rw [hne]
      simp only [Bool.false_eq_true, if_false, hhours, hminutes, hseconds, stoi_digitText hds,
        ne_eq, hds, not_false_eq_true, true_and]
      by_cases hle : number ds ≤ 2147483647
      · rw [if_pos hle, if_pos hle]
        rfl
      · rw [if_neg hle, if_neg hle]
        rfl

/-! ### Decimals -/

theorem number_concat (ds : List (Fin 10)) (d : Fin 10) :
    number (ds ++ [d]) = 10 * number ds + d := by
  simp [number]

theorem decimals_concat (ds : List (Fin 10)) (d : Fin 10) :
    decimals (ds ++ [d]) = decimals ds + d / 10 ^ (ds.length + 1) := by
  induction ds with
  | nil => simp [decimals]
  | cons d' ds ih =>
    rw [List.cons_append, decimals, ih, decimals, List.length_cons]
    ring

/-- Decimals are the number that they spell, moved behind the point. -/
theorem decimals_eq (ds : List (Fin 10)) : decimals ds = number ds / 10 ^ ds.length := by
  induction ds using List.reverseRecOn with
  | nil => simp [decimals, number]
  | append_singleton ds d ih =>
    rw [decimals_concat, ih, number_concat, List.length_append, List.length_singleton]
    push_cast
    field_simp
    ring

theorem number_lt (ds : List (Fin 10)) : number ds < 10 ^ ds.length := by
  induction ds using List.reverseRecOn with
  | nil => simp [number]
  | append_singleton ds d ih =>
    rw [number_concat, List.length_append, List.length_singleton, pow_succ]
    omega

theorem number_eq_zero_iff (ds : List (Fin 10)) : number ds = 0 ↔ ∀ d ∈ ds, d = 0 := by
  induction ds using List.reverseRecOn with
  | nil => simp [number]
  | append_singleton ds d ih =>
    rw [number_concat, List.forall_mem_append, ← ih, List.forall_mem_singleton, Fin.ext_iff]
    simp only [Fin.val_zero]
    omega

/-- A number of milliseconds is that of the decimals, up to whole days, only if it has three
digits or is zero. -/
theorem decimals_days {ds : List (Fin 10)} {k : ℤ}
    (h : (number ds : ℚ) * (1 / 1000) = decimals ds + 86400 * k) :
    k = 0 ∧ (ds.length = 3 ∨ ∀ d ∈ ds, d = 0) := by
  have hlt := number_lt ds
  rw [← number_eq_zero_iff]
  rw [decimals_eq] at h
  generalize hn : number ds = n at h hlt ⊢
  generalize ds.length = len at h hlt ⊢
  have hpow : (0 : ℚ) < 10 ^ len := by positivity
  -- in whole numbers
  have hint : (n : ℤ) * 10 ^ len = 1000 * n + 86400000 * k * 10 ^ len := by
    have hq : (n : ℚ) * 10 ^ len = 1000 * n + 86400000 * k * 10 ^ len := by
      field_simp at h
      linarith
    exact_mod_cast hq
  by_cases hfew : len ≤ 3
  · have hdays : k = 0 := by
      interval_cases len <;> omega
    refine ⟨hdays, ?_⟩
    subst hdays
    interval_cases len <;> omega
  · obtain ⟨m, rfl⟩ : ∃ m, len = m + 1 + 3 := ⟨len - 4, by omega⟩
    -- the power of ten divides the number, which is below it
    have hdvd : (10 : ℤ) ^ (m + 1 + 3) ∣ n * (10 ^ (m + 1) - 1) := by
      refine ⟨86400 * k, ?_⟩
      have hsplit : (10 : ℤ) ^ (m + 1 + 3) = 10 ^ (m + 1) * 1000 := pow_add 10 (m + 1) 3
      rw [hsplit] at hint ⊢
      linarith
    have hcoprime : IsCoprime ((10 : ℤ) ^ (m + 1 + 3)) (10 ^ (m + 1) - 1) := by
      apply IsCoprime.pow_left
      exact ⟨10 ^ m, -1, by ring⟩
    have hzero : (n : ℤ) = 0 := by
      have hle := hcoprime.dvd_of_dvd_mul_right hdvd
      refine Int.eq_zero_of_dvd_of_nonneg_of_lt (by omega) ?_ hle
      exact_mod_cast hlt
    rw [hzero] at hint
    have hk : k = 0 := by
      have hpos : (0 : ℤ) < 10 ^ (m + 1 + 3) := by positivity
      have hprod : 86400000 * k * 10 ^ (m + 1 + 3) = 0 := by linarith
      rcases mul_eq_zero.1 hprod with hk | hp
      · omega
      · omega
    exact ⟨hk, .inr (by omega)⟩

/-! ### The nearest day -/

theorem ofTai_ofUtc (u : Utc) : Utc.ofTai (Tai.ofUtc u) = u := by
  simp [Utc.ofTai, Tai.ofUtc, Ts.tai2utc, Ts.utc2tai]

theorem fromDayTod_sub (day : ℤ) (tod now : ℚ) :
    fromDayTod day tod - now = tod - Ts.timeOfDay now + 86400 * (day - Ts.days now : ℤ) := by
  have hnow := Ts.days_add_timeOfDay now
  simp only [fromDayTod, Ts.dayInSeconds] at hnow ⊢
  push_cast at hnow ⊢
  linarith

/-- The day of the clock is the nearest if and only if the times of day are at most half a day
apart. -/
theorem nearest_day_iff (tod now : ℚ) :
    (∀ day, |fromDayTod (Ts.days now) tod - now| ≤ |fromDayTod day tod - now|) ↔
      |tod - Ts.timeOfDay now| ≤ 43200 := by
  simp only [fromDayTod_sub, sub_self, Int.cast_zero, mul_zero, add_zero]
  generalize tod - Ts.timeOfDay now = x
  constructor
  · intro hall
    have hnext := hall (Ts.days now + 1)
    have hlast := hall (Ts.days now - 1)
    push_cast at hnext hlast
    ring_nf at hnext hlast
    rw [abs_le]
    constructor
    · by_contra hlow
      rw [abs_of_nonpos (by linarith)] at hnext
      rcases abs_cases (86400 + x) with ⟨h, -⟩ | ⟨h, -⟩ <;> rw [h] at hnext <;> linarith
    · by_contra hhigh
      rw [abs_of_nonneg (by linarith)] at hlast
      rcases abs_cases (-86400 + x) with ⟨h, -⟩ | ⟨h, -⟩ <;> rw [h] at hlast <;> linarith
  · intro hx day
    generalize day - Ts.days now = k
    obtain ⟨hlow, hhigh⟩ := abs_le.1 hx
    rcases lt_trichotomy k 0 with hk | rfl | hk
    · have hk' : (k : ℚ) ≤ -1 := by exact_mod_cast Int.le_sub_one_of_lt hk
      refine hx.trans (le_abs.2 (.inr ?_))
      linarith
    · simp
    · have hk' : (1 : ℚ) ≤ k := by exact_mod_cast hk
      refine hx.trans (le_abs.2 (.inl ?_))
      linarith

/-- **The time of a GGA sentence** is the nearest instant that the field can mean if and only if
the field has three decimals, or only zeros, and its time of day and that of the clock are at
most half a day apart. -/
theorem parses_iff (now : Utc) (f : TimeField) :
    (∃ t, parseUtc now f.text = some t ∧ Places now f t) ↔
      (∃ ds, f.fraction = some ds ∧ (ds.length = 3 ∨ ds ≠ [] ∧ ∀ d ∈ ds, d = 0)) ∧
        |f.timeOfDay - Ts.timeOfDay now.mTm| ≤ 43200 := by
  rw [parseUtc_text]
  cases hfraction : f.fraction with
  | none => simp
  | some ds =>
    have htod : f.timeOfDay = f.hms + decimals ds := by
      rw [TimeField.timeOfDay, hfraction]
      rfl
    simp only [Option.bind_some, Option.some.injEq, exists_eq_left', ite_eq_iff]
    constructor
    · rintro ⟨t, ⟨hds, rfl⟩ | ⟨-, hnone⟩, day, hday, hnearest⟩
      · rw [ofTai_ofUtc, htod] at hday
        have heq : (number ds : ℚ) * (1 / 1000) =
            decimals ds + 86400 * (day - Ts.days now.mTm : ℤ) := by
          simp only [fromDayTod, Ts.dayInSeconds] at hday
          push_cast at hday ⊢
          linarith
        obtain ⟨hsame, hdecimals⟩ := decimals_days heq
        rw [sub_eq_zero] at hsame
        rw [hsame] at hnearest
        exact ⟨hdecimals.imp_right fun hzero => ⟨hds.1, hzero⟩, (nearest_day_iff _ _).1 hnearest⟩
      · cases hnone
    · rintro ⟨hdecimals, hnear⟩
      have hmillis : (number ds : ℚ) * (1 / 1000) = decimals ds ∧ number ds ≤ 2147483647 := by
        rcases hdecimals with hlen | ⟨-, hzero⟩
        · have hlt := number_lt ds
          rw [hlen] at hlt
          refine ⟨?_, by omega⟩
          rw [decimals_eq, hlen]
          ring
        · have hnumber := (number_eq_zero_iff ds).2 hzero
          rw [decimals_eq, hnumber]
          simp
      have hne : ds ≠ [] := by
        rcases hdecimals with hlen | ⟨hne, -⟩
        · rintro rfl
          cases hlen
        · exact hne
      refine ⟨_, .inl ⟨⟨hne, hmillis.2⟩, rfl⟩, Ts.days now.mTm, ?_, (nearest_day_iff _ _).2 hnear⟩
      rw [ofTai_ofUtc, hmillis.1, htod]

/-- Half a second before midnight, written with one decimal. -/
def beforeMidnight : TimeField := ⟨23, 59, 59, some [5]⟩

/-- One decimal counts as milliseconds, and just after midnight the day is the wrong one. -/
theorem not_parses_beforeMidnight :
    ¬∃ t, parseUtc ⟨86401⟩ beforeMidnight.text = some t ∧ Places ⟨86401⟩ beforeMidnight t := by
  rintro ⟨t, hparse, day, hday, -⟩
  have hread : parseUtc ⟨86401⟩ beforeMidnight.text =
      some (Tai.ofUtc ⟨fromDayTod 1 (86399 + 5 * (1 / 1000))⟩) := by
    have hdays : Ts.days 86401 = 1 := by
      have hseconds : Ts.Timestamp.seconds 86401 = 86401 := Int.floor_natCast 86401
      rw [Ts.days, hseconds]
      rfl
    rw [parseUtc_text]
    norm_num [beforeMidnight, number, TimeField.hms, hdays]
  obtain rfl := Option.some.inj (hread.symm.trans hparse)
  rw [ofTai_ofUtc] at hday
  have hseconds : (day : ℚ) * 86400 = 86400 - 99 / 200 := by
    norm_num [fromDayTod, beforeMidnight, TimeField.timeOfDay, TimeField.hms, decimals,
      Ts.dayInSeconds] at hday
    linarith
  have hwhole : day * 17280000 = 17279901 := by
    have hq : (day : ℚ) * 17280000 = 17279901 := by linarith
    exact_mod_cast hq
  omega

end SuplLpp.Format.Gga
