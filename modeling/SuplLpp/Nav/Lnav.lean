import SuplLpp.Gnss.Ephemeris
import SuplLpp.Nav.Collector
import SuplLpp.Nav.Words

/-!
# GPS L/NAV

* `Subframe1`, `Subframe2`, `Subframe3` and how they are decoded; `Subframe.decode`;
* `EphemerisCollector.process`, and `handleGpsLnav`, which decodes and collects.
-/

namespace SuplLpp.Nav.Lnav

/-- The members of `Subframe1`. -/
structure Subframe1 where
  weekNumber : ℕ
  caOrPOnL2 : ℕ
  uraIndex : ℕ
  svHealth : ℕ
  iodc : ℕ
  l2PDataFlag : Bool
  tgd : ℚ
  toc : ℚ
  af2 : ℚ
  af1 : ℚ
  af0 : ℚ

structure Subframe2 where
  iode : ℕ
  crs : ℚ
  deltaN : ℚ
  m0 : ℚ
  cuc : ℚ
  e : ℚ
  cus : ℚ
  sqrtA : ℚ
  toe : ℚ
  fitIntervalFlag : Bool
  aodo : ℕ

structure Subframe3 where
  cic : ℚ
  omega0 : ℚ
  cis : ℚ
  i0 : ℚ
  crc : ℚ
  omega : ℚ
  omegaDot : ℚ
  iode : ℕ
  idot : ℚ

abbrev Subframe := Nav.Subframe Subframe1 Subframe2 Subframe3

/-! ### Decoding -/

section Decode

variable (semiCircleToRad : ℚ) (words : Words)

def decodeSubframe1 : Subframe1 where
  weekNumber := words.u16 60 10
  caOrPOnL2 := words.u8 70 2
  uraIndex := words.u8 72 4
  svHealth := words.u8 76 6
  iodc := words.u8 82 2 <<< 8 ||| words.u8 210 8
  l2PDataFlag := words.b1 90
  tgd := signedScale 8 (words.u8 196 8) (-31)
  toc := unsignedScale (words.u16 218 16) 4
  af2 := signedScale 8 (words.u8 240 8) (-55)
  af1 := signedScale 16 (words.u16 248 16) (-43)
  af0 := signedScale 22 (words.u32 270 22) (-31)

def decodeSubframe2 : Subframe2 :=
  let m0 := words.u8 106 8 <<< 24 ||| words.u32 120 24
  let e := words.u8 166 8 <<< 24 ||| words.u32 180 24
  let sqrtA := words.u8 226 8 <<< 24 ||| words.u32 240 24
  { iode := words.u8 60 8
    crs := signedScale 16 (words.u16 68 16) (-5)
    deltaN := signedScale 16 (words.u16 90 16) (-43) * semiCircleToRad
    m0 := signedScale 32 m0 (-31) * semiCircleToRad
    cuc := signedScale 16 (words.u16 150 16) (-29)
    e := unsignedScale e (-33)
    cus := signedScale 16 (words.u16 210 16) (-29)
    sqrtA := unsignedScale sqrtA (-19)
    toe := unsignedScale (words.u16 270 16) 4
    fitIntervalFlag := words.b1 286
    aodo := words.u8 287 5 }

def decodeSubframe3 : Subframe3 :=
  let omega0 := words.u8 76 8 <<< 24 ||| words.u32 90 24
  let i0 := words.u8 136 8 <<< 24 ||| words.u32 150 24
  let omega := words.u8 196 8 <<< 24 ||| words.u32 210 24
  { cic := signedScale 16 (words.u16 60 16) (-29)
    omega0 := signedScale 32 omega0 (-31) * semiCircleToRad
    cis := signedScale 16 (words.u16 120 16) (-29)
    i0 := signedScale 32 i0 (-31) * semiCircleToRad
    crc := signedScale 16 (words.u16 180 16) (-5)
    omega := signedScale 32 omega (-31) * semiCircleToRad
    omegaDot := signedScale 24 (words.u32 240 24) (-43) * semiCircleToRad
    iode := words.u8 270 8
    idot := signedScale 14 (words.u32 278 14) (-43) * semiCircleToRad }

/-- `Subframe::decode`, with the preamble and the id; other subframes have no ephemeris data. -/
def Subframe.decode : Option Subframe :=
  if words.length ≠ 300 then none
  else if words.u8 0 8 ≠ 0x8B then none
  else
    match words.u8 49 3 with
    | 1 => some (.subframe1 (decodeSubframe1 words))
    | 2 => some (.subframe2 (decodeSubframe2 semiCircleToRad words))
    | 3 => some (.subframe3 (decodeSubframe3 semiCircleToRad words))
    | _ => some .other

end Decode

/-! ### The collector -/

/-- The check of the collector: the IODEs match. -/
def accepts (_ : Subframe1) (sf2 : Subframe2) (sf3 : Subframe3) : Bool := sf2.iode == sf3.iode

abbrev Buffer := Nav.Buffer Subframe1 Subframe2 Subframe3

abbrev Collected := Nav.Collected Subframe1 Subframe2 Subframe3

/-- The ephemeris of three subframes. -/
def Collected.ephemeris (collected : Collected) : GpsEphemeris :=
  let ⟨prn, sf1, sf2, sf3⟩ := collected
  { prn := prn
    weekNumber := sf1.weekNumber
    caOrPOnL2 := sf1.caOrPOnL2
    uraIndex := sf1.uraIndex
    svHealth := sf1.svHealth
    iodc := sf1.iodc
    l2PDataFlag := sf1.l2PDataFlag
    tgd := sf1.tgd
    toc := sf1.toc
    af2 := sf1.af2
    af1 := sf1.af1
    af0 := sf1.af0
    iode := sf2.iode
    crs := sf2.crs
    deltaN := sf2.deltaN
    m0 := sf2.m0
    cuc := sf2.cuc
    e := sf2.e
    cus := sf2.cus
    a := sf2.sqrtA * sf2.sqrtA
    toe := sf2.toe
    fitIntervalFlag := sf2.fitIntervalFlag
    aodo := sf2.aodo
    cic := sf3.cic
    omega0 := sf3.omega0
    cis := sf3.cis
    i0 := sf3.i0
    crc := sf3.crc
    omega := sf3.omega
    omegaDot := sf3.omegaDot
    idot := sf3.idot
    lppIod := sf1.iodc }

/-- `EphemerisCollector::process`. -/
def EphemerisCollector.process (mBuffer : Buffer) (prn : Prn) (subframe : Subframe) :
    Buffer × Option GpsEphemeris :=
  let (mBuffer, collected) := collect accepts mBuffer prn subframe
  (mBuffer, collected.map Collected.ephemeris)

/-- The subframe that is received. -/
def received (semiCircleToRad : ℚ) (input : Prn × Words) : Option (Prn × Subframe) :=
  (Subframe.decode semiCircleToRad input.2).map (Prod.mk input.1)

end SuplLpp.Nav.Lnav
