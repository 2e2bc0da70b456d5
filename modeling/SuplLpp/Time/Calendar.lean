import SuplLpp.Lib.Binary64
import SuplLpp.Time.Timestamp

/-!
# Dates and timestamps

Days are counted by a table of the lengths of the 48 months of four years, in one direction, and
by a table of the first days of the months of a year, in the other.  UTC counts from 1970 and GPS
time from 6 January 1980.  Seconds are doubles here, rounded after each operation as the source
has them.

* `Stamp`, seconds and a fraction; `TimePoint`, a date;
* `daysFrom`, `dateFrom`: the algorithm, by the year from which days are counted, which
  `utc.cpp` and `gps.cpp` have each for themselves;
* `findMonth_spec`, `findMonth_start`: the search for a month, and its inverse;
* `daysFrom_eq`: the days before a date, by the place of its month in the table;
* `calendar_iff`: for UTC dates come back, and so do the timestamps whose seconds of the minute
  are not rounded; a GPS date never does.
-/

namespace SuplLpp.Ts

open Binary64

/-! ### Timestamps -/

/-- `Timestamp` as it is kept, in whole seconds and a fraction. -/
@[ext]
structure Stamp where
  mSeconds : ℤ
  mFraction : Double
  nonneg : 0 ≤ mFraction.1
  lt_one : mFraction.1 < 1

namespace Stamp

/-- A round of the first loop of `normalize`. -/
def underflow (seconds : ℤ) (fraction : Double) : ℤ × Double :=
  if fraction.1 < 0 then
    (seconds - (⌊-fraction.1⌋ + 1), fraction.add (Double.ofInt (⌊-fraction.1⌋ + 1)))
  else (seconds, fraction)

/-- A round of the second loop of `normalize`. -/
def overflow (seconds : ℤ) (fraction : Double) : ℤ × Double :=
  if 1 ≤ fraction.1 then
    (seconds + fraction.trunc, fraction.sub (Double.ofInt fraction.trunc))
  else (seconds, fraction)

/-- No loop has a second round. -/
theorem underflow_nonneg (seconds : ℤ) (fraction : Double) :
    0 ≤ (underflow seconds fraction).2.1 := by
  unfold underflow
  split_ifs with h
  · have hlt := Int.lt_floor_add_one (-fraction.1)
    -- the next whole number, or what it is rounded to, is not below the fraction
    have hnearest : -fraction.1 ≤ (Double.ofInt (⌊-fraction.1⌋ + 1)).1 := by
      apply le_nearest (isDouble_neg fraction.2)
      push_cast
      exact hlt.le
    exact le_nearest isDouble_zero (by linarith)
  · exact not_lt.1 h

theorem overflow_range {seconds : ℤ} {fraction : Double} (h : 0 ≤ fraction.1) :
    0 ≤ (overflow seconds fraction).2.1 ∧ (overflow seconds fraction).2.1 < 1 := by
  unfold overflow
  split_ifs with h1
  · have hle := Int.floor_le fraction.1
    have hlt := Int.lt_floor_add_one fraction.1
    dsimp only
    rw [Double.sub_trunc h]
    constructor <;> linarith
  · exact ⟨h, not_le.1 h1⟩

/-- The constructor from seconds and a fraction, with `normalize`. -/
def normalize (seconds : ℤ) (fraction : Double) : Stamp :=
  let parts := underflow seconds fraction
  let parts' := overflow parts.1 parts.2
  ⟨parts'.1, parts'.2, (overflow_range (underflow_nonneg seconds fraction)).1,
    (overflow_range (underflow_nonneg seconds fraction)).2⟩

theorem normalize_of_mem {seconds : ℤ} {fraction : Double} (h0 : 0 ≤ fraction.1)
    (h1 : fraction.1 < 1) : normalize seconds fraction = ⟨seconds, fraction, h0, h1⟩ := by
  have hunder : underflow seconds fraction = (seconds, fraction) := if_neg (not_lt.2 h0)
  have hover : overflow seconds fraction = (seconds, fraction) := if_neg (not_le.2 h1)
  apply Stamp.ext
  · simp only [normalize, hunder, hover]
  · simp only [normalize, hunder, hover]

/-- `add` of whole seconds. -/
def add (t : Stamp) (sec : ℤ) : Stamp := { t with mSeconds := t.mSeconds + sec }

/-- `add` of a double. -/
def addFraction (t : Stamp) (sec : Double) : Stamp := normalize t.mSeconds (t.mFraction.add sec)

/-- The timestamp of no arguments. -/
def zero : Stamp := ⟨0, ⟨0, isDouble_zero⟩, le_refl 0, zero_lt_one⟩

/-- `operator==`. -/
def same (a b : Stamp) : Prop :=
  a.mSeconds = b.mSeconds ∧ |(a.mFraction.sub b.mFraction).1| < (Double.ofRat (1 / 10 ^ 9)).1

end Stamp

/-! ### Dates -/

@[ext]
structure TimePoint where
  year : ℤ
  month : ℤ
  day : ℤ
  hour : ℤ
  minutes : ℤ
  seconds : Double

def minuteInSeconds : ℤ := 60

def daysPerYear : ℤ := 365

/-- `UTC_DAYS_PER_4YEAR` and `GPS_DAYS_PER_4YEAR`. -/
def daysPer4Year : ℤ := daysPerYear * 4 + 1

/-- `UTC_DAY_OF_YEAR` and `GPS_DAY_OF_YEAR`: the day each month of the year starts with. -/
def dayOfYear : List ℤ := [1, 32, 60, 91, 121, 152, 182, 213, 244, 274, 305, 335]

/-- `UTC_MONTH_DAYS` and `GPS_MONTH_DAYS`. -/
def monthDays : List ℤ :=
  [31, 28, 31, 30, 31, 30, 31, 31, 30, 31, 30, 31,
   31, 28, 31, 30, 31, 30, 31, 31, 30, 31, 30, 31,
   31, 29, 31, 30, 31, 30, 31, 31, 30, 31, 30, 31,
   31, 28, 31, 30, 31, 30, 31, 31, 30, 31, 30, 31]

/-- The loop over the years before a year. -/
def yearDays (start year : ℤ) : ℤ :=
  (List.range (year - start).toNat).foldl
    (fun days (i : ℕ) => days + if (start + i) % 4 = 0 then daysPerYear + 1 else daysPerYear) 0

/-- The days before a date; `at` throws where there is no such month. -/
def daysFrom (start year month day : ℤ) : Option ℤ :=
  (if 1 ≤ month then dayOfYear[(month - 1).toNat]? else none).map fun first =>
    yearDays start year + (first - 1) + day + -1 + if year % 4 = 0 ∧ 3 ≤ month then 1 else 0

/-- The loop over the table of months: the place of the month, and the day in it. -/
def findMonth : List ℤ → ℤ → ℕ × ℤ
  | [], day => (0, day)
  | days :: rest, day =>
    if day < days then (0, day)
    else ((findMonth rest (day - days)).1 + 1, (findMonth rest (day - days)).2)

/-- The date of a timestamp that counts from the start of a year. -/
def dateFrom (start : ℤ) (time : Stamp) : TimePoint :=
  let days := time.mSeconds.tdiv dayInSeconds
  let found := findMonth monthDays (days.tmod daysPer4Year)
  let year := start + 4 * days.tdiv daysPer4Year + (found.1 / 12 : ℕ)
  let month := found.1 % 12
  let tod := time.mSeconds - days * dayInSeconds
  let hour := tod.tdiv hourInSeconds
  let toh := tod - hour * hourInSeconds
  let minutes := toh.tdiv minuteInSeconds
  let tom := toh - minutes * minuteInSeconds
  ⟨year, month + 1, found.2 + 1, hour, minutes, (Double.ofInt tom).add time.mFraction⟩

/-! ### UTC -/

/-- No value where an assertion fails. -/
def utcFromDate (year month day hour minutes : ℤ) (seconds : Double) : Option Stamp :=
  if (1970 ≤ year ∧ year < 2099) ∧ (0 < month ∧ month ≤ 12) ∧ 0 < day ∧ day ≤ 31 then
    (daysFrom 1970 year month day).map fun days =>
      Stamp.normalize
        (days * dayInSeconds + hour * hourInSeconds + minutes * minuteInSeconds + seconds.trunc)
        (seconds.sub (Double.ofInt seconds.trunc))
  else none

def dateFromUtc (time : Stamp) : TimePoint := dateFrom 1970 time

/-- `Utc::time_point`. -/
def Utc.timePoint (mTm : Stamp) : TimePoint := dateFromUtc mTm

/-- `Utc::from_time_point`. -/
def Utc.fromTimePoint (tp : TimePoint) : Option Stamp :=
  utcFromDate tp.year tp.month tp.day tp.hour tp.minutes tp.seconds

/-! ### GPS -/

def Gps.daysFromYmd (year month day : ℤ) : Option ℤ :=
  daysFrom 1980 (if year < 1980 then 1980 else year)
    (if month ≤ 0 then 1 else if 12 < month then 12 else month) day

def Gps.fromWeekTow (week tow : ℤ) (fractions : Double) : Stamp :=
  ((Stamp.zero.add (weekInSeconds * week)).add tow).addFraction fractions

def Gps.fromYmdhms (year month day hour min : ℤ) (seconds : Double) : Option Stamp :=
  (Gps.daysFromYmd year month day).map fun count =>
    let days := count - 5
    let tod := hour * hourInSeconds + min * minuteInSeconds + seconds.trunc
    Gps.fromWeekTow (days.tdiv 7) (days.tmod 7 * dayInSeconds + tod)
      (seconds.sub (Double.ofInt seconds.trunc))

def timepointFromTimestamp (time : Stamp) : TimePoint := dateFrom 1980 time

def Gps.toTimepoint (mTm : Stamp) : TimePoint := timepointFromTimestamp mTm

/-! ### The table of months -/

/-- The place that is found, and the days before it. -/
theorem findMonth_spec (table : List ℤ) {day : ℤ} (h0 : 0 ≤ day) (hlt : day < table.sum) :
    (findMonth table day).1 < table.length ∧
      day = (table.take (findMonth table day).1).sum + (findMonth table day).2 ∧
      0 ≤ (findMonth table day).2 ∧
      (findMonth table day).2 < table.getD (findMonth table day).1 0 := by
  induction table generalizing day with
  | nil =>
    rw [List.sum_nil] at hlt
    omega
  | cons days rest ih =>
    rw [findMonth]
    by_cases h : day < days
    · rw [if_pos h]
      simp [h0, h]
    · rw [if_neg h]
      rw [List.sum_cons] at hlt
      obtain ⟨hplace, hday, hnonneg, hbound⟩ := @ih (day - days) (by omega) (by omega)
      refine ⟨?_, ?_, hnonneg, ?_⟩
      · rw [List.length_cons]
        omega
      · rw [List.take_succ_cons, List.sum_cons]
        omega
      · rwa [List.getD_cons_succ]

/-- A day of a month is found in this month. -/
theorem findMonth_start (table : List ℤ) (hall : ∀ days ∈ table, 0 ≤ days) {k : ℕ} {day : ℤ}
    (h0 : 0 ≤ day) (hlt : day < table.getD k 0) :
    findMonth table ((table.take k).sum + day) = (k, day) := by
  induction table generalizing k with
  | nil =>
    rw [List.getD_nil] at hlt
    omega
  | cons days rest ih =>
    cases k with
    | zero =>
      rw [List.getD_cons_zero] at hlt
      rw [List.take_zero, List.sum_nil, zero_add, findMonth, if_pos hlt]
    | succ k =>
      rw [List.getD_cons_succ] at hlt
      have hrest : ∀ days ∈ rest, 0 ≤ days := fun d hd => hall d (List.mem_cons_of_mem _ hd)
      have hsum : 0 ≤ (rest.take k).sum :=
        List.sum_nonneg fun d hd => hrest d (List.mem_of_mem_take hd)
      rw [List.take_succ_cons, List.sum_cons, findMonth, if_neg (by omega),
        show days + (rest.take k).sum + day - days = (rest.take k).sum + day by ring,
        ih hrest hlt]

/-! ### The days before a date -/

/-- The leap years are every fourth, and `shift` tells which. -/
theorem yearDays_eq {start shift : ℤ} (hshift : (start - shift) % 4 = 1) (h0 : 0 ≤ shift)
    (h3 : shift ≤ 3) {year : ℤ} (h : start ≤ year) :
    yearDays start year = 365 * (year - start) + (year - start + shift) / 4 := by
  obtain ⟨n, rfl⟩ : ∃ n : ℕ, year = start + n := ⟨(year - start).toNat, by omega⟩
  rw [yearDays, show (start + n - start).toNat = n by omega]
  induction n with
  | zero =>
    rw [List.range_zero, List.foldl_nil]
    omega
  | succ n ih =>
    rw [List.range_succ, List.foldl_append, List.foldl_cons, List.foldl_nil, ih (by omega)]
    simp only [daysPerYear]
    push_cast
    split_ifs <;> omega

/-- The days before the first of a month, in four years that begin at a year. -/
def monthStart (shift : ℤ) (r m : ℕ) : ℤ :=
  365 * r + (r + shift) / 4 + (dayOfYear.getD m 0 - 1) +
    if (r + shift) % 4 = 3 ∧ 2 ≤ m then 1 else 0

/-- The days before a date in whole cycles of four years, the months before it and the rest. -/
theorem daysFrom_eq (start shift : ℤ) {year month : ℤ} (day : ℤ)
    (hshift : (start - shift) % 4 = 1) (h0 : 0 ≤ shift) (h3 : shift ≤ 3) (hyear : start ≤ year)
    (hmonth : 1 ≤ month) (hmonth' : month ≤ 12) :
    daysFrom start year month day = some (1461 * ((year - start) / 4) +
      monthStart shift ((year - start) % 4).toNat (month - 1).toNat + (day - 1)) := by
  have hlength : (month - 1).toNat < dayOfYear.length := by
    change (month - 1).toNat < 12
    omega
  rw [daysFrom, if_pos hmonth, List.getElem?_eq_getElem hlength, Option.map_some,
    yearDays_eq hshift h0 h3 hyear, monthStart, List.getD_eq_getElem?_getD,
    List.getElem?_eq_getElem hlength, Option.getD_some]
  generalize dayOfYear[(month - 1).toNat] = first
  have hmod : (((year - start) % 4).toNat : ℤ) = (year - start) % 4 :=
    Int.toNat_of_nonneg (Int.emod_nonneg _ (by norm_num))
  rw [hmod]
  congr 1
  split_ifs <;> omega

/-- With the leap year third, as from 1970 on, the two tables agree. -/
theorem monthStart_one : ∀ r < 4, ∀ m < 12,
    monthStart 1 r m = (monthDays.take (12 * r + m)).sum := by
  decide

/-- With the leap year first, as from 1980 on, the table of months is a day behind between the
two leap days. -/
theorem monthStart_three : ∀ r < 4, ∀ m < 12,
    monthStart 3 r m = (monthDays.take (12 * r + m)).sum ∨
      monthStart 3 r m = (monthDays.take (12 * r + m)).sum + 1 := by
  decide

/-- The months lie one after the other in the four years. -/
theorem monthDays_bounds : ∀ r < 4, ∀ m < 12, 0 ≤ (monthDays.take (12 * r + m)).sum ∧
    (monthDays.take (12 * r + m)).sum + monthDays.getD (12 * r + m) 0 ≤ 1461 ∧
    (1 ≤ r → 365 ≤ (monthDays.take (12 * r + m)).sum) := by
  decide

theorem monthDays_getD : ∀ r < 4, ∀ m < 12, monthDays.getD (12 * r + m) 0 =
    if m = 1 then if r = 2 then 29 else 28
    else if m = 3 ∨ m = 5 ∨ m = 8 ∨ m = 10 then 30 else 31 := by
  decide

/-! ### The date of a timestamp -/

/-- The divisions cut towards zero, which is down from zero on. -/
theorem dateFrom_eq (start : ℤ) {t : Stamp} (h : 0 ≤ t.mSeconds) :
    dateFrom start t =
      ⟨start + 4 * (t.mSeconds / 86400 / 1461) +
          ((findMonth monthDays (t.mSeconds / 86400 % 1461)).1 / 12 : ℕ),
        ((findMonth monthDays (t.mSeconds / 86400 % 1461)).1 % 12 : ℕ) + 1,
        (findMonth monthDays (t.mSeconds / 86400 % 1461)).2 + 1,
        t.mSeconds % 86400 / 3600, t.mSeconds % 3600 / 60,
        (Double.ofInt (t.mSeconds % 60)).add t.mFraction⟩ := by
  have hday : dayInSeconds = 86400 := rfl
  have hhour : hourInSeconds = 3600 := rfl
  have hminute : minuteInSeconds = 60 := rfl
  have hcycle : daysPer4Year = 1461 := rfl
  have hdays : t.mSeconds.tdiv 86400 = t.mSeconds / 86400 := Int.tdiv_eq_ediv_of_nonneg h
  have hdays0 : 0 ≤ t.mSeconds / 86400 := by omega
  have htod : t.mSeconds - t.mSeconds / 86400 * 86400 = t.mSeconds % 86400 := by omega
  have htod0 : 0 ≤ t.mSeconds % 86400 := by omega
  have htoh : t.mSeconds % 86400 - t.mSeconds % 86400 / 3600 * 3600 = t.mSeconds % 3600 := by
    omega
  have htoh0 : 0 ≤ t.mSeconds % 3600 := by omega
  have htom : t.mSeconds % 3600 - t.mSeconds % 3600 / 60 * 60 = t.mSeconds % 60 := by omega
  simp only [dateFrom, hday, hhour, hminute, hcycle, hdays, htod,
    Int.tdiv_eq_ediv_of_nonneg hdays0, Int.tmod_eq_emod_of_nonneg hdays0,
    Int.tdiv_eq_ediv_of_nonneg htod0, htoh, Int.tdiv_eq_ediv_of_nonneg htoh0, htom]

/-! ### Dates of the calendar -/

/-- The length of a month. -/
def daysInMonth (year month : ℤ) : ℤ :=
  if month = 2 then if year % 4 = 0 ∧ (year % 100 ≠ 0 ∨ year % 400 = 0) then 29 else 28
  else if month = 4 ∨ month = 6 ∨ month = 9 ∨ month = 11 then 30 else 31

/-- A date and a time of the day that there are. -/
structure TimePoint.IsValid (tp : TimePoint) : Prop where
  month : 1 ≤ tp.month ∧ tp.month ≤ 12
  day : 1 ≤ tp.day ∧ tp.day ≤ daysInMonth tp.year tp.month
  hour : 0 ≤ tp.hour ∧ tp.hour < 24
  minutes : 0 ≤ tp.minutes ∧ tp.minutes < 60
  seconds : 0 ≤ tp.seconds.1 ∧ tp.seconds.1 < 60

/-- A date from 1970 to 2098. -/
structure UtcDate where
  tp : TimePoint
  valid : tp.IsValid
  year : 1970 ≤ tp.year ∧ tp.year ≤ 2098

/-- A timestamp of UTC from 1970 to 2098; these are 47117 days. -/
structure UtcStamp where
  t : Stamp
  range : 0 ≤ t.mSeconds ∧ t.mSeconds < 47117 * dayInSeconds

/-- A date from 6 January 1980 to 2099. -/
structure GpsDate where
  tp : TimePoint
  valid : tp.IsValid
  year : 1980 ≤ tp.year ∧ tp.year ≤ 2099
  epoch : tp.year = 1980 → tp.month = 1 → 6 ≤ tp.day

/-- In these years every fourth is a leap year. -/
theorem daysInMonth_eq {year month : ℤ} (hyear : 1970 ≤ year ∧ year ≤ 2099)
    (hmonth : 1 ≤ month ∧ month ≤ 12) : daysInMonth year month =
      monthDays.getD (12 * ((year - 1970) % 4).toNat + (month - 1).toNat) 0 := by
  rw [monthDays_getD _ (by omega) _ (by omega), daysInMonth]
  split_ifs <;> omega

/-- The seconds of a time are cut at the point. -/
theorem normalize_seconds (whole : ℤ) {seconds : Double} (h : 0 ≤ seconds.1) :
    (Stamp.normalize (whole + seconds.trunc)
        (seconds.sub (Double.ofInt seconds.trunc))).mSeconds = whole + ⌊seconds.1⌋ ∧
      (Stamp.normalize (whole + seconds.trunc)
        (seconds.sub (Double.ofInt seconds.trunc))).mFraction.1 = seconds.1 - ⌊seconds.1⌋ := by
  have hfraction := Double.sub_trunc h
  have h0 : 0 ≤ (seconds.sub (Double.ofInt seconds.trunc)).1 := by
    rw [hfraction]
    exact sub_nonneg.2 (Int.floor_le _)
  have h1 : (seconds.sub (Double.ofInt seconds.trunc)).1 < 1 := by
    rw [hfraction]
    exact sub_lt_iff_lt_add'.2 (Int.lt_floor_add_one _)
  rw [Stamp.normalize_of_mem h0 h1, ← Double.trunc_of_nonneg h]
  exact ⟨rfl, by rw [hfraction, Double.trunc_of_nonneg h]⟩

/-! ### UTC there and back -/

theorem utcFromDate_eq {year month day : ℤ} (hour minutes : ℤ) {seconds : Double}
    (hyear : 1970 ≤ year ∧ year ≤ 2098) (hmonth : 1 ≤ month ∧ month ≤ 12)
    (hday : 1 ≤ day ∧ day ≤ 31) (hseconds : 0 ≤ seconds.1) :
    ∃ t, utcFromDate year month day hour minutes seconds = some t ∧
      t.mSeconds = (1461 * ((year - 1970) / 4) +
        (monthDays.take (12 * ((year - 1970) % 4).toNat + (month - 1).toNat)).sum + (day - 1)) *
          86400 + hour * 3600 + minutes * 60 + ⌊seconds.1⌋ ∧
      t.mFraction.1 = seconds.1 - ⌊seconds.1⌋ := by
  have hdays := daysFrom_eq 1970 1 day (by norm_num) (by norm_num) (by norm_num)
    hyear.1 hmonth.1 hmonth.2
  rw [monthStart_one _ (by omega) _ (by omega)] at hdays
  have hnormalize := normalize_seconds ((1461 * ((year - 1970) / 4) +
    (monthDays.take (12 * ((year - 1970) % 4).toNat + (month - 1).toNat)).sum + (day - 1)) *
      dayInSeconds + hour * hourInSeconds + minutes * minuteInSeconds) hseconds
  refine ⟨_, ?_, hnormalize.1, hnormalize.2⟩
  rw [utcFromDate, if_pos (by omega), hdays]
  rfl

/-- **Dates come back.** -/
theorem timePoint_fromTimePoint (d : UtcDate) :
    (Utc.fromTimePoint d.tp).map Utc.timePoint = some d.tp := by
  obtain ⟨⟨year, month, day, hour, minutes, seconds⟩, ⟨hmonth, hday, hhour, hminutes, hseconds⟩,
    hyear⟩ := d
  dsimp only at hmonth hday hhour hminutes hseconds hyear
  rw [daysInMonth_eq ⟨hyear.1, by omega⟩ hmonth] at hday
  have hr : ((year - 1970) % 4).toNat < 4 := by omega
  have hm : (month - 1).toNat < 12 := by omega
  have hlast := monthDays_getD _ hr _ hm
  obtain ⟨hstart, hend, -⟩ := monthDays_bounds _ hr _ hm
  obtain ⟨t, ht, htseconds, htfraction⟩ := utcFromDate_eq hour minutes hyear hmonth
    (show 1 ≤ day ∧ day ≤ 31 from ⟨hday.1, by split_ifs at hlast <;> omega⟩) hseconds.1
  have hfound := findMonth_start monthDays (by decide) (show 0 ≤ day - 1 by omega)
    (show day - 1 < monthDays.getD (12 * ((year - 1970) % 4).toNat + (month - 1).toNat) 0 by omega)
  have hfloor0 : 0 ≤ ⌊seconds.1⌋ := Int.floor_nonneg.2 hseconds.1
  have hfloor : ⌊seconds.1⌋ < 60 := Int.floor_lt.2 (by exact_mod_cast hseconds.2)
  generalize (monthDays.take (12 * ((year - 1970) % 4).toNat + (month - 1).toNat)).sum = before
    at *
  -- the seconds are taken apart again
  have hcycles : t.mSeconds / 86400 / 1461 = (year - 1970) / 4 := by omega
  have hrest : t.mSeconds / 86400 % 1461 = before + (day - 1) := by omega
  have hsecond : t.mSeconds % 60 = ⌊seconds.1⌋ := by omega
  change (utcFromDate year month day hour minutes seconds).map (dateFrom 1970) = _
  rw [ht, Option.map_some, dateFrom_eq 1970 (by omega), hcycles, hrest, hfound, hsecond]
  congr 1
  apply TimePoint.ext
  · dsimp only
    omega
  · dsimp only
    omega
  · dsimp only
    omega
  · dsimp only
    omega
  · dsimp only
    omega
  · apply Subtype.ext
    dsimp only
    rw [Double.add, Double.ofInt_val (by rw [abs_of_nonneg hfloor0]; omega), htfraction,
      add_sub_cancel]
    exact nearest_of_isDouble seconds.2

namespace UtcStamp

/-- The second of the minute, with the fraction. -/
def secondOfMinute (u : UtcStamp) : ℚ := (u.t.mSeconds % 60 : ℤ) + u.t.mFraction.1

theorem timePoint_seconds (u : UtcStamp) :
    (Utc.timePoint u.t).seconds.1 = nearest u.secondOfMinute := by
  have h0 : 0 ≤ u.t.mSeconds % 60 := by omega
  rw [Utc.timePoint, dateFromUtc, dateFrom_eq 1970 u.range.1]
  dsimp only
  rw [Double.add, Double.ofInt_val (by rw [abs_of_nonneg h0]; omega)]
  rfl

/-- The rounded seconds stay between two whole ones. -/
theorem nearest_bounds (u : UtcStamp) :
    ((u.t.mSeconds % 60 : ℤ) : ℚ) ≤ nearest u.secondOfMinute ∧
      nearest u.secondOfMinute ≤ (u.t.mSeconds % 60 : ℤ) + 1 := by
  have hnonneg := u.t.nonneg
  have hlt := u.t.lt_one
  have hdouble : ∀ z : ℤ, 0 ≤ z → z ≤ 60 → IsDouble z := by
    intro z h0 h60
    exact isDouble_intCast (by rw [abs_of_nonneg h0]; omega)
  constructor
  · refine le_nearest (hdouble _ (by omega) (by omega)) ?_
    unfold secondOfMinute
    linarith
  · have hnext := hdouble (u.t.mSeconds % 60 + 1) (by omega) (by omega)
    rw [Int.cast_add, Int.cast_one] at hnext
    refine nearest_le hnext ?_
    unfold secondOfMinute
    linarith

/-- The way to the date and back only changes what is behind the minutes. -/
theorem fromTimePoint_timePoint (u : UtcStamp) :
    ∃ t, Utc.fromTimePoint (Utc.timePoint u.t) = some t ∧
      t.mSeconds = u.t.mSeconds - u.t.mSeconds % 60 + ⌊nearest u.secondOfMinute⌋ ∧
      t.mFraction.1 = nearest u.secondOfMinute - ⌊nearest u.secondOfMinute⌋ := by
  have hseconds := u.timePoint_seconds
  have hsecond0 : 0 ≤ nearest u.secondOfMinute := by
    have h0 : (0 : ℚ) ≤ (u.t.mSeconds % 60 : ℤ) := Int.cast_nonneg (by omega)
    exact h0.trans u.nearest_bounds.1
  obtain ⟨t, hrange⟩ := u
  have hday : dayInSeconds = 86400 := rfl
  rw [hday] at hrange
  have hsum : monthDays.sum = 1461 := by decide
  obtain ⟨hplace, hdays, hday0, hdaylt⟩ := findMonth_spec monthDays
    (show 0 ≤ t.mSeconds / 86400 % 1461 by omega) (by omega)
  have hdate := dateFrom_eq 1970 hrange.1
  generalize (findMonth monthDays (t.mSeconds / 86400 % 1461)).1 = k at *
  generalize (findMonth monthDays (t.mSeconds / 86400 % 1461)).2 = day at *
  change k < 48 at hplace
  have hk : 12 * (k / 12) + k % 12 = k := by omega
  have hlast := monthDays_getD (k / 12) (by omega) (k % 12) (by omega)
  have hfirst := (monthDays_bounds (k / 12) (by omega) (k % 12) (by omega)).2.2
  rw [hk] at hlast hfirst
  -- the last day is in the first year of a cycle
  have hyear : 1970 + 4 * (t.mSeconds / 86400 / 1461) + ((k / 12 : ℕ) : ℤ) ≤ 2098 := by
    by_contra hlate
    have := hfirst (by omega)
    omega
  rw [Utc.timePoint, dateFromUtc, hdate] at hseconds ⊢
  dsimp only at hseconds
  rw [← hseconds] at hsecond0 ⊢
  have hmonth : 1 ≤ ((k % 12 : ℕ) : ℤ) + 1 ∧ ((k % 12 : ℕ) : ℤ) + 1 ≤ 12 := by omega
  have hday31 : 1 ≤ day + 1 ∧ day + 1 ≤ 31 := ⟨by omega, by split_ifs at hlast <;> omega⟩
  obtain ⟨t', ht', hseconds', hfraction'⟩ := utcFromDate_eq (t.mSeconds % 86400 / 3600)
    (t.mSeconds % 3600 / 60) ⟨by omega, hyear⟩ hmonth hday31 hsecond0
  refine ⟨t', ht', ?_, hfraction'⟩
  have hr : ((1970 + 4 * (t.mSeconds / 86400 / 1461) + ((k / 12 : ℕ) : ℤ) - 1970) % 4).toNat =
      k / 12 := by omega
  have hm : (((k % 12 : ℕ) : ℤ) + 1 - 1).toNat = k % 12 := by omega
  rw [hr, hm, hk] at hseconds'
  dsimp only
  omega

/-- **Timestamps come back** exactly if their seconds of the minute need not be rounded. -/
theorem returns_iff (u : UtcStamp) :
    Utc.fromTimePoint (Utc.timePoint u.t) = some u.t ↔ IsDouble u.secondOfMinute := by
  obtain ⟨t, ht, hseconds, hfraction⟩ := u.fromTimePoint_timePoint
  rw [ht, ← nearest_eq_iff]
  constructor
  · intro h
    rw [Option.some.inj h] at hseconds hfraction
    have hfloor : ⌊nearest u.secondOfMinute⌋ = u.t.mSeconds % 60 := by omega
    rw [hfloor] at hfraction
    have hsum : u.secondOfMinute = (u.t.mSeconds % 60 : ℤ) + u.t.mFraction.1 := rfl
    linarith
  · intro h
    have hfloor : ⌊u.secondOfMinute⌋ = u.t.mSeconds % 60 := by
      rw [secondOfMinute, Int.floor_intCast_add, Int.floor_eq_zero_iff.2 ⟨u.t.nonneg, u.t.lt_one⟩,
        add_zero]
    rw [h, hfloor] at hseconds hfraction
    congr 1
    apply Stamp.ext
    · omega
    · apply Subtype.ext
      rw [hfraction, secondOfMinute, add_sub_cancel_left]

/-- By `operator==`, which does not see a billionth of a second, they come back exactly if they
are not rounded up to the next second. -/
theorem same_iff (u : UtcStamp) :
    (∃ t, Utc.fromTimePoint (Utc.timePoint u.t) = some t ∧ t.same u.t) ↔
      nearest u.secondOfMinute < (u.t.mSeconds % 60 : ℤ) + 1 := by
  obtain ⟨t, ht, hseconds, hfraction⟩ := u.fromTimePoint_timePoint
  obtain ⟨hlow, hhigh⟩ := u.nearest_bounds
  have hwhole : t.mSeconds = u.t.mSeconds ↔
      nearest u.secondOfMinute < (u.t.mSeconds % 60 : ℤ) + 1 := by
    constructor
    · intro h
      have hfloor : ⌊nearest u.secondOfMinute⌋ = u.t.mSeconds % 60 := by omega
      rw [← hfloor]
      exact Int.lt_floor_add_one _
    · intro h
      have hfloor : ⌊nearest u.secondOfMinute⌋ = u.t.mSeconds % 60 := Int.floor_eq_iff.2 ⟨hlow, h⟩
      omega
  constructor
  · rintro ⟨t', ht', hsame, -⟩
    rw [ht] at ht'
    cases ht'
    exact hwhole.1 hsame
  · intro h
    refine ⟨t, ht, hwhole.2 h, ?_⟩
    have hfloor : ⌊nearest u.secondOfMinute⌋ = u.t.mSeconds % 60 := Int.floor_eq_iff.2 ⟨hlow, h⟩
    have hdistance : t.mFraction.1 - u.t.mFraction.1 =
        nearest u.secondOfMinute - u.secondOfMinute := by
      have hsum : u.secondOfMinute = (u.t.mSeconds % 60 : ℤ) + u.t.mFraction.1 := rfl
      rw [hfraction, hfloor]
      linarith
    -- less than a minute is rounded by at most a unit of its last place
    have hminute : |u.secondOfMinute| < 2 ^ 53 * 2 ^ (-47 : ℤ) := by
      have hsecond : ((u.t.mSeconds % 60 : ℤ) : ℚ) ≤ 59 := by
        exact_mod_cast show u.t.mSeconds % 60 ≤ 59 by omega
      have hsecond0 : (0 : ℚ) ≤ (u.t.mSeconds % 60 : ℤ) := Int.cast_nonneg (by omega)
      have hnonneg := u.t.nonneg
      have hlt := u.t.lt_one
      rw [abs_lt, secondOfMinute]
      constructor
      · refine lt_of_lt_of_le (b := 0) (by norm_num) (by linarith)
      · refine lt_of_lt_of_le (b := 60) (by linarith) (by norm_num)
    have herror := abs_nearest_sub_le_two_zpow (by norm_num) hminute
    rw [← hdistance, abs_le] at herror
    have hunit := isDouble_two_zpow (e := -47) (by norm_num)
    have hbillionth : (2 : ℚ) ^ (-30 : ℤ) ≤ nearest (1 / 10 ^ 9) :=
      le_nearest (isDouble_two_zpow (by norm_num)) (by norm_num)
    have hhigh' := nearest_le hunit herror.2
    have hlow' := le_nearest (isDouble_neg hunit) herror.1
    refine lt_of_le_of_lt (abs_le.2 ⟨hlow', hhigh'⟩) (lt_of_lt_of_le ?_ hbillionth)
    norm_num

end UtcStamp

/-! ### GPS there and back -/

/-- The months after the first begin after its last day. -/
theorem monthStart_pos : ∀ r < 4, ∀ m < 12, r = 0 ∧ m = 0 ∨ 31 ≤ monthStart 3 r m := by
  decide

theorem zero_add_double (f : Double) : Stamp.zero.mFraction.add f = f :=
  Subtype.ext (by
    rw [Double.add, Double.ofRat]
    dsimp only [Stamp.zero]
    rw [zero_add, nearest_of_isDouble f.2])

/-- Days are counted from 6 January, the sixth day of the first month. -/
theorem fromYmdhms_eq (d : GpsDate) :
    ∃ t, Gps.fromYmdhms d.tp.year d.tp.month d.tp.day d.tp.hour d.tp.minutes d.tp.seconds = some t ∧
      0 ≤ t.mSeconds ∧
      t.mSeconds / 86400 = 1461 * ((d.tp.year - 1980) / 4) +
        monthStart 3 ((d.tp.year - 1980) % 4).toNat (d.tp.month - 1).toNat +
          (d.tp.day - 1) - 5 := by
  obtain ⟨⟨year, month, day, hour, minutes, seconds⟩, ⟨hmonth, hday, hhour, hminutes, hseconds⟩,
    hyear, hepoch⟩ := d
  dsimp only at hmonth hday hhour hminutes hseconds hyear hepoch ⊢
  have hdays := daysFrom_eq 1980 3 day (by norm_num) (by norm_num) (by norm_num)
    hyear.1 hmonth.1 hmonth.2
  have hcount : Gps.daysFromYmd year month day = daysFrom 1980 year month day := by
    rw [Gps.daysFromYmd, if_neg (by omega), if_neg (by omega), if_neg (by omega)]
  have hstart := monthStart_pos ((year - 1980) % 4).toNat (by omega) (month - 1).toNat (by omega)
  have hfirst : monthStart 3 0 0 = 0 := by decide
  rw [Gps.fromYmdhms, hcount, hdays, Option.map_some]
  refine ⟨_, rfl, ?_⟩
  generalize hcase : monthStart 3 ((year - 1980) % 4).toNat (month - 1).toNat = first at *
  have hfloor0 : 0 ≤ ⌊seconds.1⌋ := Int.floor_nonneg.2 hseconds.1
  have hfloor : ⌊seconds.1⌋ < 60 := Int.floor_lt.2 (by exact_mod_cast hseconds.2)
  have hpositive : 0 ≤ 1461 * ((year - 1980) / 4) + first + (day - 1) - 5 := by
    rcases hstart with ⟨hr, hm⟩ | hlate
    · rw [hr, hm, hfirst] at hcase
      have := hepoch
      omega
    · omega
  dsimp only
  generalize 1461 * ((year - 1980) / 4) + first + (day - 1) - 5 = days at hpositive
  rw [Int.tdiv_eq_ediv_of_nonneg hpositive, Int.tmod_eq_emod_of_nonneg hpositive, Gps.fromWeekTow,
    Stamp.addFraction]
  have hzero : ((Stamp.zero.add (weekInSeconds * (days / 7))).add (days % 7 * dayInSeconds +
      (hour * hourInSeconds + minutes * minuteInSeconds + seconds.trunc))).mFraction =
      Stamp.zero.mFraction := rfl
  have hweek : weekInSeconds = 604800 := rfl
  have hdaySeconds : dayInSeconds = 86400 := rfl
  have hhourSeconds : hourInSeconds = 3600 := rfl
  have hminuteSeconds : minuteInSeconds = 60 := rfl
  have hsum : ((Stamp.zero.add (weekInSeconds * (days / 7))).add (days % 7 * dayInSeconds +
      (hour * hourInSeconds + minutes * minuteInSeconds + seconds.trunc))).mSeconds =
      (days * 86400 + hour * 3600 + minutes * 60) + seconds.trunc := by
    simp only [Stamp.add, Stamp.zero, hweek, hdaySeconds, hhourSeconds, hminuteSeconds]
    omega
  rw [hzero, zero_add_double, hsum, (normalize_seconds _ hseconds.1).1]
  omega

/-- **A GPS date never comes back**: the five days are not added again, and the table of months
has its leap day in the third year. -/
theorem toTimepoint_fromYmdhms_ne (d : GpsDate) :
    (Gps.fromYmdhms d.tp.year d.tp.month d.tp.day d.tp.hour d.tp.minutes d.tp.seconds).map
      Gps.toTimepoint ≠ some d.tp := by
  obtain ⟨t, ht, hnonneg, hdays⟩ := fromYmdhms_eq d
  rw [ht, Option.map_some]
  intro h
  have hdate := Option.some.inj h
  rw [Gps.toTimepoint, timepointFromTimestamp, dateFrom_eq 1980 hnonneg] at hdate
  have hyear := congrArg TimePoint.year hdate
  have hmonth := congrArg TimePoint.month hdate
  have hday := congrArg TimePoint.day hdate
  dsimp only at hyear hmonth hday
  have hsum : monthDays.sum = 1461 := by decide
  obtain ⟨hplace, hsplit, -, -⟩ := findMonth_spec monthDays
    (show 0 ≤ t.mSeconds / 86400 % 1461 by omega) (by omega)
  generalize (findMonth monthDays (t.mSeconds / 86400 % 1461)).1 = k at *
  generalize (findMonth monthDays (t.mSeconds / 86400 % 1461)).2 = day at *
  change k < 48 at hplace
  have hr : ((d.tp.year - 1980) % 4).toNat = k / 12 := by omega
  have hm : (d.tp.month - 1).toNat = k % 12 := by omega
  have hk : 12 * (k / 12) + k % 12 = k := by omega
  have htables := monthStart_three (k / 12) (by omega) (k % 12) (by omega)
  rw [hk] at htables
  rw [hr, hm] at hdays
  omega

/-! ### All of it -/

/-- **Calendar round trip.**  UTC dates come back; UTC timestamps come back unchanged exactly if
their seconds of the minute are a double, and by `operator==` exactly if these are not rounded up
to the next second; a GPS date never comes back. -/
theorem calendar_iff (d : UtcDate) (u : UtcStamp) (g : GpsDate) :
    (Utc.fromTimePoint d.tp).map Utc.timePoint = some d.tp ∧
      (Utc.fromTimePoint (Utc.timePoint u.t) = some u.t ↔ IsDouble u.secondOfMinute) ∧
      ((∃ t, Utc.fromTimePoint (Utc.timePoint u.t) = some t ∧ t.same u.t) ↔
        nearest u.secondOfMinute < (u.t.mSeconds % 60 : ℤ) + 1) ∧
      (Gps.fromYmdhms g.tp.year g.tp.month g.tp.day g.tp.hour g.tp.minutes g.tp.seconds).map
        Gps.toTimepoint ≠ some g.tp :=
  ⟨timePoint_fromTimePoint d, u.returns_iff, u.same_iff, toTimepoint_fromYmdhms_ne g⟩

/-- The start of GPS time, 6 January 1980, comes back as the first of the month. -/
theorem not_gps_returns :
    ¬ ∀ d : GpsDate, (Gps.fromYmdhms d.tp.year d.tp.month d.tp.day d.tp.hour d.tp.minutes
      d.tp.seconds).map Gps.toTimepoint = some d.tp := by
  intro h
  have hzero : (0 : ℚ) ≤ (⟨0, isDouble_zero⟩ : Double).1 ∧ (⟨0, isDouble_zero⟩ : Double).1 < 60 :=
    ⟨le_refl 0, by norm_num⟩
  exact toTimepoint_fromYmdhms_ne ⟨⟨1980, 1, 6, 0, 0, ⟨0, isDouble_zero⟩⟩,
    ⟨by decide, by decide, by decide, by decide, hzero⟩, by decide, by decide⟩ (h _)

end SuplLpp.Ts
