import SuplLpp.Time.Timestamp

/-!
# Broadcast ephemerides

* `Orbit` and `Clock`, the members that the ephemerides of all systems have;
* `GpsEphemeris`, `GalEphemeris`, `BdsEphemeris` and `QzsEphemeris`, as the generator stores them.
-/

namespace SuplLpp

/-- The orbit at a time of the week. -/
structure Orbit where
  toe : ℚ
  crc : ℚ
  crs : ℚ
  cuc : ℚ
  cus : ℚ
  cic : ℚ
  cis : ℚ
  e : ℚ
  m0 : ℚ
  deltaN : ℚ
  a : ℚ
  i0 : ℚ
  omega0 : ℚ
  omega : ℚ
  omegaDot : ℚ
  idot : ℚ
  deriving DecidableEq

/-- The clock at a time of the week. -/
structure Clock where
  toc : ℚ
  af2 : ℚ
  af1 : ℚ
  af0 : ℚ
  deriving DecidableEq

structure GpsEphemeris extends Orbit, Clock where
  prn : ℕ
  weekNumber : ℕ
  caOrPOnL2 : ℕ
  uraIndex : ℕ
  svHealth : ℕ
  lppIod : ℕ
  iodc : ℕ
  iode : ℕ
  aodo : ℕ
  tgd : ℚ
  fitIntervalFlag : Bool
  l2PDataFlag : Bool
  deriving DecidableEq

structure GalEphemeris extends Orbit, Clock where
  prn : ℕ
  weekNumber : ℕ
  lppIod : ℕ
  iodNav : ℕ
  deriving DecidableEq

structure BdsEphemeris extends Orbit, Clock where
  prn : ℕ
  weekNumber : ℕ
  svHealth : ℕ
  lppIod : ℕ
  iode : ℕ
  iodc : ℕ
  aode : ℕ
  aodc : ℕ
  tocTime : Ts.Bdt
  toeTime : Ts.Bdt

structure QzsEphemeris extends Orbit, Clock where
  prn : ℕ
  weekNumber : ℕ
  caOrPOnL2 : ℕ
  uraIndex : ℕ
  svHealth : ℕ
  lppIod : ℕ
  iodc : ℕ
  iode : ℕ
  aodo : ℕ
  tgd : ℚ
  fitIntervalFlag : Bool
  l2PDataFlag : Bool
  deriving DecidableEq

/-- `Bdt::from_week_tow`. -/
def Ts.Bdt.fromWeekTow (week tow : ℤ) (fractions : ℚ) : Ts.Bdt :=
  ⟨(Ts.weekInSeconds * week : ℤ) + tow + fractions⟩

end SuplLpp
