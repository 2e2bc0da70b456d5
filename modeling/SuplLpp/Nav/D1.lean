import SuplLpp.Gnss.Ephemeris
import SuplLpp.Nav.Collector
import SuplLpp.Nav.Words

/-!
# BeiDou D1

* `D1Subframe1`, `D1Subframe2`, `D1Subframe3` and how they are decoded; `D1Subframe.decode`;
* `D1Collector.process`, and `handleBdsD1`, which decodes and collects.
-/

namespace SuplLpp.Nav.D1

/-- The members of `D1Subframe1`; the seconds of the week have 20 bits. -/
structure D1Subframe1 where
  sow : ℕ
  satH1 : ℕ
  aodc : ℕ
  urai : ℕ
  wn : ℕ
  toc : ℚ
  tgd1 : ℚ
  tgd2 : ℚ
  a0 : ℚ
  a1 : ℚ
  a2 : ℚ
  aode : ℕ

structure D1Subframe2 where
  sow : ℕ
  deltaN : ℚ
  cuc : ℚ
  m0 : ℚ
  e : ℚ
  cus : ℚ
  crc : ℚ
  crs : ℚ
  sqrtA : ℚ
  toeMsb : ℕ

structure D1Subframe3 where
  sow : ℕ
  toeLsb : ℕ
  i0 : ℚ
  cic : ℚ
  omegaDot : ℚ
  cis : ℚ
  idot : ℚ
  omega0 : ℚ
  omega : ℚ

abbrev D1Subframe := Nav.Subframe D1Subframe1 D1Subframe2 D1Subframe3

/-! ### Decoding -/

section Decode

variable (semiCircleToRad : ℚ) (words : Words)

/-- The seconds of the week, of every subframe. -/
def sow : ℕ := words.u32 18 8 <<< 12 ||| words.u32 30 12

def decodeSubframe1 : D1Subframe1 :=
  let toc := words.u32 73 9 <<< 8 ||| words.u32 90 8
  let tgd2 := words.u32 108 4 <<< 6 ||| words.u32 120 6
  let a0 := words.u32 225 7 <<< 17 ||| words.u32 240 17
  let a1 := words.u32 257 5 <<< 17 ||| words.u32 270 17
  { sow := sow words
    satH1 := words.u8 42 1
    aodc := words.u8 43 5
    aode := words.u8 287 5
    urai := words.u8 48 4
    wn := words.u16 60 13
    toc := unsignedScale toc 3
    a0 := signedScale 24 a0 (-33)
    a1 := signedScale 22 a1 (-50)
    a2 := signedScale 11 (words.u32 214 11) (-66)
    tgd1 := signedScale 10 (words.u32 98 10) 1 * 1e-10
    tgd2 := signedScale 10 tgd2 1 * 1e-10 }

def decodeSubframe2 : D1Subframe2 :=
  let deltaN := words.u32 42 10 <<< 6 ||| words.u32 60 6
  let cuc := words.u32 66 16 <<< 2 ||| words.u32 90 2
  let m0 := words.u32 92 20 <<< 12 ||| words.u32 120 12
  let e := words.u32 132 10 <<< 22 ||| words.u32 150 22
  let cus := words.u32 180 18
  let crc := words.u32 198 4 <<< 14 ||| words.u32 210 14
  let crs := words.u32 224 8 <<< 10 ||| words.u32 240 10
  let sqrtA := words.u32 250 12 <<< 20 ||| words.u32 270 20
  { sow := sow words
    sqrtA := unsignedScale sqrtA (-19)
    e := unsignedScale e (-33)
    deltaN := signedScale 16 deltaN (-43) * semiCircleToRad
    m0 := signedScale 32 m0 (-31) * semiCircleToRad
    cuc := signedScale 18 cuc (-31)
    cus := signedScale 18 cus (-31)
    crc := signedScale 18 crc (-6)
    crs := signedScale 18 crs (-6)
    toeMsb := words.u32 290 2 }

def decodeSubframe3 : D1Subframe3 :=
  let toe := words.u32 42 10 <<< 5 ||| words.u32 60 5
  let i0 := words.u32 65 17 <<< 15 ||| words.u32 90 15
  let cic := words.u32 105 7 <<< 11 ||| words.u32 120 11
  let omegaDot := words.u32 131 11 <<< 13 ||| words.u32 150 13
  let cis := words.u32 163 9 <<< 9 ||| words.u32 180 9
  let idot := words.u32 189 13 <<< 1 ||| words.u32 210 1
  let omega0 := words.u32 211 21 <<< 11 ||| words.u32 240 11
  let omega := words.u32 251 11 <<< 21 ||| words.u32 270 21
  { sow := sow words
    toeLsb := toe
    omega := signedScale 32 omega (-31) * semiCircleToRad
    omega0 := signedScale 32 omega0 (-31) * semiCircleToRad
    omegaDot := signedScale 24 omegaDot (-43) * semiCircleToRad
    i0 := signedScale 32 i0 (-31) * semiCircleToRad
    idot := signedScale 14 idot (-43) * semiCircleToRad
    cic := signedScale 18 cic (-31)
    cis := signedScale 18 cis (-31) }

/-- `D1Subframe::decode`, of a satellite that sends D1; other subframes have no ephemeris data. -/
def D1Subframe.decode (svId : ℕ) : Option D1Subframe :=
  if words.length ≠ 300 then none
  else if svId < 6 ∨ 58 < svId then none
  else
    match words.u8 15 3 with
    | 1 => some (.subframe1 (decodeSubframe1 words))
    | 2 => some (.subframe2 (decodeSubframe2 semiCircleToRad words))
    | 3 => some (.subframe3 (decodeSubframe3 semiCircleToRad words))
    | _ => some .other

end Decode

/-! ### The collector -/

/-- The check of the collector, as it is written: it turns down subframes whose seconds of the
week go back. -/
def accepts (sf1 : D1Subframe1) (sf2 : D1Subframe2) (sf3 : D1Subframe3) : Bool :=
  !(sf1.sow == sf2.sow + 6 && sf1.sow == sf3.sow + 12)

abbrev Buffer := Nav.Buffer D1Subframe1 D1Subframe2 D1Subframe3

abbrev Collected := Nav.Collected D1Subframe1 D1Subframe2 D1Subframe3

/-- The week of the ephemeris: the time of the ephemeris may be in the next or the last one. -/
def weekNumber (wn sow : ℕ) (toe : ℚ) : ℕ :=
  if toe > sow + 302400 then (wn + 1) % 2 ^ 16
  else if toe < sow - 302400 then (wn + (2 ^ 16 - 1)) % 2 ^ 16
  else wn

/-- The ephemeris of three subframes. -/
def Collected.ephemeris (collected : Collected) : BdsEphemeris :=
  let ⟨prn, sf1, sf2, sf3⟩ := collected
  let toe : ℚ := ((sf2.toeMsb <<< 15 ||| sf3.toeLsb : ℕ) : ℚ) * 8
  let weekNumber := weekNumber sf1.wn sf1.sow toe
  { prn := prn
    weekNumber := weekNumber
    svHealth := sf1.satH1
    toc := sf1.toc
    toe := toe
    iodc := toUInt32 sf1.toc / 720 % 240
    iode := toUInt32 toe / 720 % 240
    aode := sf1.aode
    aodc := sf1.aodc
    af0 := sf1.a0
    af1 := sf1.a1
    af2 := sf1.a2
    deltaN := sf2.deltaN
    m0 := sf2.m0
    e := sf2.e
    cuc := sf2.cuc
    cus := sf2.cus
    crc := sf2.crc
    crs := sf2.crs
    a := sf2.sqrtA * sf2.sqrtA
    i0 := sf3.i0
    idot := sf3.idot
    omega0 := sf3.omega0
    omega := sf3.omega
    omegaDot := sf3.omegaDot
    cic := sf3.cic
    cis := sf3.cis
    lppIod := (toUInt32 toe >>> 9) % 2 ^ 16
    tocTime := .fromWeekTow weekNumber (toUInt32 sf1.toc) 0
    toeTime := .fromWeekTow weekNumber (toUInt32 toe) 0 }

/-- `D1Collector::process`. -/
def D1Collector.process (mBuffer : Buffer) (prn : Prn) (subframe : D1Subframe) :
    Buffer × Option BdsEphemeris :=
  let (mBuffer, collected) := collect accepts mBuffer prn subframe
  (mBuffer, collected.map Collected.ephemeris)

/-- The subframe that is received. -/
def received (semiCircleToRad : ℚ) (input : Prn × Words) : Option (Prn × D1Subframe) :=
  (D1Subframe.decode semiCircleToRad input.2 input.1).map (Prod.mk input.1)

end SuplLpp.Nav.D1
