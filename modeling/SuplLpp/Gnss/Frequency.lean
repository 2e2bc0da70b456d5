import Mathlib.Data.Rat.Floor
import Mathlib.Tactic.NormNum
import SuplLpp.Gnss.Ids

/-!
# Frequencies

The carrier of a signal, in kHz; it is zero for the numbers that are reserved.

* `SignalId.frequency`, from a table for each system;
* `SatelliteSignalId`, a signal of a satellite.
-/

namespace SuplLpp

def gpsL1Freq : ℚ := 1575.42e3
def gpsL2Freq : ℚ := 1227.60e3
def gpsL5Freq : ℚ := 1176.45e3

def gpsFreq : List ℚ :=
  [gpsL1Freq, gpsL1Freq, gpsL2Freq, gpsL5Freq, gpsL1Freq, gpsL1Freq, gpsL2Freq, gpsL2Freq,
    gpsL2Freq, gpsL2Freq, gpsL2Freq, gpsL2Freq, gpsL5Freq, gpsL5Freq, gpsL5Freq, gpsL1Freq,
    gpsL1Freq, gpsL1Freq, 0, 0, 0, 0, 0, 0]

def glonassG1Freq : ℚ := 1602.0e3
def glonassG2Freq : ℚ := 1246.0e3
def glonassG3Freq : ℚ := 1202.025e3

def glonassFreq : List ℚ :=
  [glonassG1Freq, glonassG2Freq, glonassG3Freq, glonassG1Freq, glonassG2Freq, glonassG1Freq,
    glonassG1Freq, glonassG1Freq, glonassG2Freq, glonassG2Freq, glonassG2Freq, glonassG3Freq,
    glonassG3Freq, glonassG3Freq, 0, 0, 0, 0, 0, 0, 0, 0, 0, 0]

def galileoE1Freq : ℚ := 1575.42e3
def galileoE5aFreq : ℚ := 1176.45e3
def galileoE5bFreq : ℚ := 1207.14e3
def galileoE6Freq : ℚ := 1278.75e3
def galileoE5aE5bFreq : ℚ := 1191.795e3

def galileoFreq : List ℚ :=
  [galileoE1Freq, galileoE5aFreq, galileoE5bFreq, galileoE6Freq, galileoE5aE5bFreq, galileoE1Freq,
    galileoE1Freq, galileoE1Freq, galileoE1Freq, galileoE1Freq, galileoE6Freq, galileoE6Freq,
    galileoE6Freq, galileoE6Freq, galileoE6Freq, galileoE5bFreq, galileoE5bFreq, galileoE5bFreq,
    galileoE5aE5bFreq, galileoE5aE5bFreq, galileoE5aE5bFreq, galileoE5aFreq, galileoE5aFreq,
    galileoE5aFreq]

def beidouB1Freq : ℚ := 1561.098e3
def beidouB2Freq : ℚ := 1207.14e3
def beidouB3Freq : ℚ := 1268.52e3
def beidouB2aFreq : ℚ := 1176.45e3
def beidouB1cFreq : ℚ := 1575.42e3

def bdsFreq : List ℚ :=
  [beidouB1Freq, beidouB1Freq, beidouB1Freq, beidouB3Freq, beidouB3Freq, beidouB3Freq,
    beidouB2Freq, beidouB2Freq, beidouB2Freq, beidouB1cFreq, beidouB1cFreq, beidouB1cFreq,
    beidouB2aFreq, beidouB2aFreq, beidouB2aFreq, 0, 0, 0, 0, 0, 0, 0, 0, 0]

def qzssL1Freq : ℚ := 1575.42e3
def qzssL2Freq : ℚ := 1227.60e3
def qzssL5Freq : ℚ := 1176.45e3
def qzssL6Freq : ℚ := 1278.75e3

def qzssFreq : List ℚ :=
  [qzssL1Freq, qzssL1Freq, qzssL1Freq, qzssL1Freq, qzssL2Freq, qzssL2Freq, qzssL2Freq,
    qzssL5Freq, qzssL5Freq, qzssL5Freq, qzssL6Freq, qzssL6Freq, 0, 0, 0, 0, 0, 0, 0, 0, 0, 0, 0, 0]

namespace SignalId

/-- The table of a system; there is none for signals without a system. -/
def frequencies : Gnss → List ℚ
  | .gps => gpsFreq
  | .glonass => glonassFreq
  | .galileo => galileoFreq
  | .beidou => bdsFreq
  | .qzss => qzssFreq
  | .unknown => []

/-- A number that is in no table has frequency zero; a signal without a system has it where the
source is compiled to return at all. -/
def frequency (s : SignalId) : ℚ :=
  if 0 ≤ s.mLppId then (frequencies s.mGnss).getD s.mLppId.toNat 0 else 0

end SignalId

structure SatelliteSignalId where
  mSatellite : SatelliteId
  mSignal : SignalId
  deriving DecidableEq

end SuplLpp
