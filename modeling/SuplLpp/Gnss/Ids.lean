import Mathlib.Data.List.Basic
import Mathlib.Tactic.FinCases
import Mathlib.Tactic.IntervalCases

/-!
# `SatelliteId` and `SignalId`

A satellite and a signal are named by their number in LPP.  RTCM numbers satellites from 1
and signals by a table for each system.

* `Maybe`, a value that may be missing; `value` is zero then;
* `SatelliteId.fromLpp`, `SatelliteId.asMsm` and `SignalId.fromLpp`, `SignalId.asMsm`;
* `SatelliteId.asMsm_inj`, `SignalId.asMsm_inj`: two LPP numbers of one system never get the
  same RTCM number;
* `SatelliteId.asMsm_range`, `SignalId.asMsm_range`: the RTCM numbers fit the masks of an MSM.
-/

namespace SuplLpp

/-- `Maybe<T>`. -/
abbrev Maybe (α : Type) := Option α

/-- The field `value`, which is default-constructed when there is none. -/
def Maybe.value {α : Type} [Zero α] (x : Maybe α) : α := x.getD 0

/-- `SatelliteId::Gnss` and `SignalId::Gnss`, which have the same enumerators. -/
inductive Gnss
  | unknown | gps | glonass | galileo | beidou | qzss
  deriving DecidableEq, Repr

/-! ### Satellites -/

structure SatelliteId where
  mGnss : Gnss
  mLppId : ℤ
  deriving DecidableEq

def lppSatelliteIdLimit : ℤ := 64

namespace SatelliteId

def invalid : SatelliteId := ⟨.unknown, -1⟩

def fromLpp (gnss : Gnss) (id : ℤ) : SatelliteId :=
  if id ≥ lppSatelliteIdLimit then invalid else ⟨gnss, id⟩

def gnss (s : SatelliteId) : Gnss := s.mGnss

def isValid (s : SatelliteId) : Bool := s.mGnss != .unknown && s.mLppId != -1

def prn (s : SatelliteId) : Maybe ℤ :=
  if 0 ≤ s.mLppId ∧ s.mLppId < lppSatelliteIdLimit then some (s.mLppId + 1) else none

def asMsm (s : SatelliteId) : Maybe ℤ :=
  if 0 ≤ s.mLppId ∧ s.mLppId < lppSatelliteIdLimit then some (s.mLppId + 1) else none

def asDf009 (s : SatelliteId) : Maybe ℤ :=
  if s.mGnss = .gps ∧ 0 ≤ s.mLppId ∧ s.mLppId < lppSatelliteIdLimit then some (s.mLppId + 1)
  else none

def asDf038 (s : SatelliteId) : Maybe ℤ :=
  if s.mGnss = .glonass ∧ 0 ≤ s.mLppId ∧ s.mLppId < lppSatelliteIdLimit then
    some (s.mLppId + 1)
  else none

theorem asMsm_range {s : SatelliteId} {n : ℤ} (h : s.asMsm = some n) : 1 ≤ n ∧ n ≤ 64 := by
  unfold asMsm lppSatelliteIdLimit at h
  split at h
  · cases h
    omega
  · cases h

/-- A number that LPP can send is one more in RTCM. -/
theorem asMsm_fromLpp {gnss : Gnss} {id : ℤ} (h0 : 0 ≤ id) (h64 : id < 64) :
    (fromLpp gnss id).asMsm = some (id + 1) := by
  have hid : fromLpp gnss id = ⟨gnss, id⟩ := if_neg (by unfold lppSatelliteIdLimit; omega)
  rw [hid]
  exact if_pos ⟨h0, h64⟩

end SatelliteId

/-! ### Signals -/

structure SignalId where
  mGnss : Gnss
  mLppId : ℤ
  deriving DecidableEq

def gpsLppToRtcm : List ℤ :=
  [2, -1, -1, -1, 3, 4, 8, 9, 10, 15, 16, 17, 22, 23, 24, 30, 31, 32, -1, -1, -1, -1, -1, -1]

def glonassLppToRtcm : List ℤ :=
  [2, 8, -1, 3, 9, -1, -1, -1, -1, -1, -1, -1, -1, -1, -1, -1, -1, -1, -1, -1, -1, -1, -1, -1]

def galileoLppToRtcm : List ℤ :=
  [-1, -1, -1, -1, -1, 2, 3, 4, 5, 6, 8, 9, 10, 11, 12, 14, 15, 16, 18, 19, 20, 22, 23, 24]

def bdsLppToRtcm : List ℤ :=
  [2, 3, 4, 8, 9, 10, 14, 15, 16, 30, 31, 32, 22, 23, 24, -1, -1, -1, -1, -1, -1, -1, -1, -1]

namespace SignalId

/-- The system is one of the five that LPP numbers signals of; the caller sees to that. -/
def fromLpp (gnss : Gnss) (id : ℤ) : SignalId :=
  if id ≥ 24 then ⟨.unknown, -1⟩ else ⟨gnss, id⟩

/-- The table of a system; QZSS signals have no RTCM number here. -/
def lppToRtcm : Gnss → List ℤ
  | .gps => gpsLppToRtcm
  | .glonass => glonassLppToRtcm
  | .galileo => galileoLppToRtcm
  | .beidou => bdsLppToRtcm
  | .qzss | .unknown => []

def isValid (s : SignalId) : Bool := s.mGnss != .unknown && s.mLppId != -1

def lppId (s : SignalId) : ℤ := s.mLppId

def asMsm (s : SignalId) : Maybe ℤ :=
  if s.mLppId < 0 ∨ s.mLppId ≥ 24 then none
  else
    let result := (lppToRtcm s.mGnss).getD s.mLppId.toNat (-1)
    if result < 0 then none else some result

/-- The tables as a whole: numbers from 2 to 32, and none twice in one table. -/
theorem lppToRtcm_spec (gnss : Gnss) (i j : Fin 24)
    (hi : 0 ≤ (lppToRtcm gnss).getD i (-1)) :
    2 ≤ (lppToRtcm gnss).getD i (-1) ∧ (lppToRtcm gnss).getD i (-1) ≤ 32 ∧
      ((lppToRtcm gnss).getD i (-1) = (lppToRtcm gnss).getD j (-1) → i = j) := by
  revert i j
  cases gnss <;> decide

theorem asMsm_eq_some {s : SignalId} {n : ℤ} (h : s.asMsm = some n) :
    0 ≤ s.mLppId ∧ s.mLppId < 24 ∧ 0 ≤ n ∧
      (lppToRtcm s.mGnss).getD s.mLppId.toNat (-1) = n := by
  unfold asMsm at h
  split at h
  · cases h
  · simp only [] at h
    split at h
    · cases h
    · rw [Option.some.injEq] at h
      omega

theorem asMsm_range {s : SignalId} {n : ℤ} (h : s.asMsm = some n) : 2 ≤ n ∧ n ≤ 32 := by
  obtain ⟨h0, h24, hn, hget⟩ := asMsm_eq_some h
  have hspec := lppToRtcm_spec s.mGnss ⟨s.mLppId.toNat, by omega⟩ ⟨s.mLppId.toNat, by omega⟩
    (by rw [hget]; exact hn)
  rw [hget] at hspec
  exact ⟨hspec.1, hspec.2.1⟩

theorem asMsm_inj {s t : SignalId} {n : ℤ} (hg : s.mGnss = t.mGnss) (hs : s.asMsm = some n)
    (ht : t.asMsm = some n) : s = t := by
  obtain ⟨hs0, hs24, hn, hsget⟩ := asMsm_eq_some hs
  obtain ⟨ht0, ht24, -, htget⟩ := asMsm_eq_some ht
  rw [← hg] at htget
  have hspec := lppToRtcm_spec s.mGnss ⟨s.mLppId.toNat, by omega⟩ ⟨t.mLppId.toNat, by omega⟩
    (by rw [hsget]; exact hn)
  have hidx := hspec.2.2 (by rw [hsget, htget])
  rw [Fin.mk.injEq] at hidx
  obtain ⟨sg, si⟩ := s
  obtain ⟨tg, ti⟩ := t
  simp only at hg hidx hs0 ht0
  rw [hg, show si = ti from by omega]

end SignalId

end SuplLpp
