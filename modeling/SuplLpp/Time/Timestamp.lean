import Mathlib.Algebra.Order.Floor.Ring
import Mathlib.Data.Rat.Floor
import Mathlib.Tactic.Linarith
import Mathlib.Tactic.NormNum

/-!
# `ts`: the time systems

A `Timestamp` is a number of seconds since the epoch of its system.  The source keeps whole
seconds and a fraction that `normalize` brings into `[0, 1)`, which is the number itself with
its floor; fractions are exact here.

* `Timestamp` and the constants; `Gps`, `Gst`, `Glo`, `Bdt`, `Utc` and `Tai`, each with the
  conversion from UTC and back, as the source composes them;
* `Gps.ofTai_ofGps`: the conversion of GPS time to TAI and back is the identity.
-/

namespace SuplLpp.Ts

def dayInSeconds : ℤ := 24 * (60 * 60)
def hourInSeconds : ℤ := 60 * 60
def weekInSeconds : ℤ := dayInSeconds * 7
def yearInSeconds : ℤ := dayInSeconds * 365

/-- `Timestamp`, in seconds. -/
abbrev Timestamp := ℚ

namespace Timestamp

def seconds (t : Timestamp) : ℤ := ⌊t⌋

def fullSeconds (t : Timestamp) : ℚ := t

end Timestamp

/-- `LeapSeconds::count`. -/
def leapSecondsCount : ℤ := 37

structure Utc where mTm : Timestamp
structure Tai where mTm : Timestamp
structure Gps where mTm : Timestamp
structure Gst where mTm : Timestamp
structure Glo where mTm : Timestamp
structure Bdt where mTm : Timestamp

/-- The four systems that count from an epoch of their own: the time from UTC. -/
def utc2gps (t : Timestamp) : Timestamp :=
  t + 18 - (5 * dayInSeconds : ℤ) - (2 * dayInSeconds : ℤ) - (10 * yearInSeconds : ℤ)

def utc2gst (t : Timestamp) : Timestamp :=
  t + (13 + (leapSecondsCount - 32) : ℤ) - (233 * dayInSeconds : ℤ) - (7 * dayInSeconds : ℤ) -
    (29 * yearInSeconds : ℤ)

def utc2glo (t : Timestamp) : Timestamp :=
  t + (3 * hourInSeconds : ℤ) - (6 * dayInSeconds : ℤ) - (26 * yearInSeconds : ℤ)

def utc2bdt (t : Timestamp) : Timestamp :=
  t + (leapSecondsCount - 33 : ℤ) - (9 * dayInSeconds : ℤ) - (36 * yearInSeconds : ℤ)

/-- The way back adds what the way there took off. -/
def toUtc (utc2sys : Timestamp → Timestamp) (t : Timestamp) : Timestamp := t + (t - utc2sys t)

def utc2tai (t : Timestamp) : Timestamp := t - leapSecondsCount

def tai2utc (t : Timestamp) : Timestamp := t + leapSecondsCount

def Tai.ofUtc (u : Utc) : Tai := ⟨utc2tai u.mTm⟩

def Utc.ofTai (t : Tai) : Utc := ⟨tai2utc t.mTm⟩

def Tai.ofGps (t : Gps) : Tai := Tai.ofUtc ⟨toUtc utc2gps t.mTm⟩
def Tai.ofGst (t : Gst) : Tai := Tai.ofUtc ⟨toUtc utc2gst t.mTm⟩
def Tai.ofGlo (t : Glo) : Tai := Tai.ofUtc ⟨toUtc utc2glo t.mTm⟩
def Tai.ofBdt (t : Bdt) : Tai := Tai.ofUtc ⟨toUtc utc2bdt t.mTm⟩

def Gps.ofTai (t : Tai) : Gps := ⟨utc2gps (Utc.ofTai t).mTm⟩
def Gst.ofTai (t : Tai) : Gst := ⟨utc2gst (Utc.ofTai t).mTm⟩
def Glo.ofTai (t : Tai) : Glo := ⟨utc2glo (Utc.ofTai t).mTm⟩
def Bdt.ofTai (t : Tai) : Bdt := ⟨utc2bdt (Utc.ofTai t).mTm⟩

theorem Gps.ofTai_ofGps (t : Gps) : Gps.ofTai (Tai.ofGps t) = t := by
  obtain ⟨t⟩ := t
  simp only [Gps.ofTai, Tai.ofGps, Tai.ofUtc, Utc.ofTai, tai2utc, utc2tai, toUtc, utc2gps,
    Gps.mk.injEq]
  ring

/-! ### Days and weeks

`from_day_tod` and the whole-number divisions of the source are the same in every system. -/

/-- The timestamp of `from_day_tod`. -/
def fromDayTod (day : ℤ) (tod : ℚ) : Timestamp := (dayInSeconds * day : ℤ) + tod

/-- `days()`: the division of the source cuts towards zero. -/
def days (t : Timestamp) : ℤ := t.seconds.tdiv dayInSeconds

def timeOfDay (t : Timestamp) : Timestamp := t - (days t * dayInSeconds : ℤ)

def week (t : Timestamp) : ℤ := t.seconds.tdiv weekInSeconds

def timeOfWeek (t : Timestamp) : Timestamp := t - (week t * weekInSeconds : ℤ)

/-- `Glo::day_of_week`. -/
def dayOfWeek (t : Timestamp) : ℤ := (days t + 1).tmod 7

/-- Splitting into days and time of day loses nothing. -/
theorem days_add_timeOfDay (t : Timestamp) : (days t * dayInSeconds : ℤ) + timeOfDay t = t := by
  unfold timeOfDay
  ring

end SuplLpp.Ts
