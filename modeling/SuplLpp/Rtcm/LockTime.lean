import SuplLpp.Rtcm.Fields
import Mathlib.Data.Int.ConditionallyCompleteOrder
import Mathlib.Data.NNRat.Defs

/-!
# The lock time indicators

DF402 and DF407 do not carry a lock time but the number of the interval that it lies in.  The
source has three descriptions of the intervals of DF407: the tables that LPP is read with, those
of `from_msm_lock_ex`, and the lines of `to_msm_lock_ex`.

* `fromMsmLockExMlt`: `from_msm_lock_ex` with its own tables;
* `LockFaithful.mono`: of two lock times the longer has the larger indicator;
* `toMsmLockEx_faithful`: the lines of `to_msm_lock_ex` find the interval, for every lock time;
* `lockIndicators_correct`: all that is said about both indicators.
-/

namespace SuplLpp.Rtcm

open Asn

/-! ### The tables of `from_msm_lock_ex` -/

def kMltSize : ℕ := 22

def kMltCoefficient : List ℕ :=
  [1, 2, 4, 8, 16, 32, 64, 128, 256, 512, 1024, 2048, 4096, 8192, 16384, 32768, 65536, 131072,
    262144, 524288, 1048576, 2097152]

def kMltOffset : List ℕ :=
  [0, 64, 256, 768, 2048, 5120, 12288, 28672, 65536, 147456, 327680, 720896, 1572864, 3407872,
    7340032, 15728640, 33554432, 71303168, 150994944, 318767104, 671088640, 1409286144]

def kMltBase : List ℕ :=
  [0, 64, 96, 128, 160, 192, 224, 256, 288, 320, 352, 384, 416, 448, 480, 512, 544, 576, 608,
    640, 672, 704]

/-- `from_msm_lock_ex`; its argument is cast to `uint64_t`. -/
def fromMsmLockExMlt (inputValue : ℤ) : ℚ :=
  let value := (inputValue % 2 ^ 64).toNat
  if value ≥ kMltBase.getD (kMltSize - 1) 0 then 67108864 / 1000
  else
    match (List.range (kMltSize - 1)).find? fun i =>
      decide (kMltBase.getD i 0 ≤ value ∧ value < kMltBase.getD (i + 1) 0) with
    | some i => (kMltCoefficient.getD i 0 * value - kMltOffset.getD i 0 : ℕ) / 1000
    | none => 0

/-- The tables are those of LPP. -/
theorem fromMsmLockExMlt_eq (n : ℕ) (h : n < 2 ^ 64) :
    fromMsmLockExMlt n = fromMsmLockEx n := by
  have hvalue : ((n : ℤ) % 2 ^ 64).toNat = n := by omega
  unfold fromMsmLockExMlt fromMsmLockEx lockTimeMs
  rw [hvalue]
  dsimp only
  change (if n ≥ lockTimeBase.getD (lockTimeSize - 1) 0 then (67108864 : ℚ) / 1000
    else match lockTimeRow n with
      | some i => ((lockTimeCoeff.getD i 0 * n - lockTimeOffset.getD i 0 : ℕ) : ℚ) / 1000
      | none => 0) = _
  split_ifs with hlast
  · norm_num
  · cases lockTimeRow n with
    | none => simp
    | some i => simp

/-! ### Intervals -/

/-- **Of two lock times the longer has the larger indicator**, where the shortest times of the
indicators grow. -/
theorem LockFaithful.mono {shortest : ℤ → ℚ} {last n n' : ℤ} {lock lock' : ℚ}
    (hgrow : ∀ i j, 0 ≤ i → i ≤ j → j ≤ last → shortest i ≤ shortest j)
    (h : LockFaithful shortest last lock n) (h' : LockFaithful shortest last lock' n')
    (hle : lock ≤ lock') : n ≤ n' := by
  obtain ⟨-, hlast, hshortest, -⟩ := h
  obtain ⟨hpos', -, -, hbelow'⟩ := h'
  by_contra hlt
  have hnext := hbelow' (by omega)
  have hstep := hgrow (n' + 1) n (by omega) (by omega) hlast
  linarith

/-- In a row of the tables, its end included, the milliseconds grow with the indicator. -/
theorem lockTimeMs_row (i : Fin 21) {n : ℕ} (hlo : lockTimeBase.getD i 0 ≤ n)
    (hhi : n ≤ lockTimeBase.getD (i + 1) 0) :
    ∃ ms, lockTimeMs n = some ms ∧ ms + lockTimeOffset.getD i 0 = lockTimeCoeff.getD i 0 * n := by
  rcases hhi.lt_or_eq with hlt | rfl
  · have hlast := lockTimeBase_mono ⟨i + 1, by omega⟩ 21 (Fin.le_def.2 (by simp only; omega))
    have h704 : lockTimeBase.getD (21 : Fin 22) 0 = 704 := rfl
    simp only at hlast
    obtain ⟨j, ms, hlo', hhi', hms, hoff, -⟩ := lockTimeMs_of_lt (n := n) (by omega)
    have hij : i = j := by
      rcases lt_trichotomy i j with hij | hij | hij
      · have hmono := lockTimeBase_mono ⟨i + 1, by omega⟩ ⟨j, by omega⟩ (Fin.le_def.2 hij)
        simp only at hmono
        omega
      · exact hij
      · have hmono := lockTimeBase_mono ⟨j + 1, by omega⟩ ⟨i, by omega⟩ (Fin.le_def.2 hij)
        simp only at hmono
        omega
    exact ⟨ms, hms, hij ▸ hoff⟩
  · -- the end of a row, which is the start of the next one
    have hend : ∀ i : Fin 21, lockTimeMs (lockTimeBase.getD (i + 1) 0) =
        some (lockTimeCoeff.getD i 0 * lockTimeBase.getD (i + 1) 0 - lockTimeOffset.getD i 0) := by
      decide +kernel
    obtain ⟨-, hsum, -, -⟩ := lockRow_spec i
    exact ⟨_, hend i, by omega⟩

/-- The shortest times of the indicators of DF407 grow. -/
theorem fromMsmLockEx_mono {m n : ℕ} (hmn : m ≤ n) (hn : n ≤ 704) :
    fromMsmLockEx m ≤ fromMsmLockEx n := by
  induction n, hmn using Nat.le_induction with
  | base => exact le_rfl
  | succ n hmn ih => exact (ih (by omega)).trans (fromMsmLockEx_lt n (by omega)).le

theorem fromMsmLock_mono {m n : ℤ} (hm : 0 ≤ m) (hmn : m ≤ n) (hn : n ≤ 15) :
    fromMsmLock m ≤ fromMsmLock n := by
  lift m to ℕ using hm
  lift n to ℕ using by omega
  have hgrow : ∀ i j : Fin 16, i ≤ j → kMlt2Table.getD i 0 ≤ kMlt2Table.getD j 0 := by decide
  have hij := hgrow ⟨m, by omega⟩ ⟨n, by omega⟩ (Fin.le_def.2 (by simp only; omega))
  rw [fromMsmLock_le (by omega), fromMsmLock_le (by omega),
    div_le_div_iff_of_pos_right (by norm_num)]
  exact_mod_cast hij

/-! ### The indicator of DF407 -/

/-- A lock time is as good as its whole milliseconds. -/
theorem toMsmLockEx_floor {lock : ℚ} (h : 0 ≤ lock) :
    toMsmLockEx lock = toMsmLockEx ((⌊lock * 1000⌋₊ : ℕ) / 1000) := by
  have hpos : 0 ≤ lock * 1000 := by positivity
  rw [toMsmLockEx_ms, toMsmLockEx, if_neg (not_lt.2 h)]
  have htrunc : trunc (lock * 1000) = (⌊lock * 1000⌋₊ : ℤ) := by
    rw [trunc, if_pos hpos, Int.natCast_floor_eq_floor hpos]
  have hfind : (fun row : ℕ × ℤ × ℤ => decide (lock < row.1 / 1000)) =
      fun row => decide (⌊lock * 1000⌋₊ < row.1) := by
    funext row
    rw [decide_eq_decide, lt_div_iff₀ (by norm_num), Nat.floor_lt hpos]
  rw [htrunc, hfind]

/-- The interval of a whole number of milliseconds. -/
theorem toMsmLockEx_ms_spec (ms : ℕ) : ∃ n : ℕ, toMsmLockEx (ms / 1000) = n ∧ n ≤ 704 ∧
    (lockTimeMs n).getD 0 ≤ ms ∧ (n < 704 → ms < (lockTimeMs (n + 1)).getD 0) := by
  rw [toMsmLockEx_ms]
  cases hfind : lockExRows.find? fun row => decide (ms < row.1) with
  | none =>
    have hlast := List.find?_eq_none.1 hfind (67108864, 671088640, 1048576) (by decide)
    refine ⟨704, rfl, le_rfl, ?_, fun h => absurd h (lt_irrefl _)⟩
    have h704 : (lockTimeMs 704).getD 0 = 67108864 := by decide +kernel
    rw [h704]
    simpa using hlast
  | some row =>
    obtain ⟨hbelow, i, hi, hget, hbefore⟩ := List.find?_eq_some_iff_getElem.1 hfind
    have hlen : lockExRows.length = 21 := rfl
    obtain ⟨hstart, hend, hrow, hpos⟩ := lockRow_spec ⟨i, by omega⟩
    simp only at hstart hend hrow hpos
    rw [List.getD_eq_getElem _ _ hi, hget] at hend hrow
    have hms : ms < row.1 := by simpa using hbelow
    -- the row before this one ends at or before the time
    have hfrom : (if i = 0 then 0 else (lockExRows.getD (i - 1) 0).1) ≤ ms := by
      split_ifs with h0
      · exact Nat.zero_le ms
      · have hnot := hbefore (i - 1) (by omega)
        rw [List.getD_eq_getElem _ _ (by omega)]
        simpa using hnot
    set off := lockTimeOffset.getD i 0 with hoff
    set coeff := lockTimeCoeff.getD i 0 with hcoeff
    set n := (ms + off) / coeff with hn
    have hvalue : (ms + row.2.1).tdiv row.2.2 = (n : ℤ) := by
      rw [hrow, hn]
      push_cast
      exact Int.tdiv_eq_ediv_of_nonneg (by positivity)
    have hlo : lockTimeBase.getD i 0 ≤ n := by
      rw [hn, Nat.le_div_iff_mul_le hpos, Nat.mul_comm]
      omega
    have hhi : n < lockTimeBase.getD (i + 1) 0 := by
      rw [hn, Nat.div_lt_iff_lt_mul hpos, Nat.mul_comm]
      omega
    have hn704 : n < 704 := by
      have hlast := lockTimeBase_mono ⟨i + 1, by omega⟩ 21 (Fin.le_def.2 (by simp only; omega))
      have h704 : lockTimeBase.getD (21 : Fin 22) 0 = 704 := rfl
      simp only at hlast
      omega
    obtain ⟨t, ht, htoff⟩ := lockTimeMs_row ⟨i, by omega⟩ hlo hhi.le
    obtain ⟨t', ht', htoff'⟩ := lockTimeMs_row ⟨i, by omega⟩ (n := n + 1) (by simp only; omega) hhi
    simp only [← hoff, ← hcoeff] at htoff htoff'
    have hdiv := Nat.div_mul_le_self (ms + off) coeff
    have hdiv' := Nat.lt_mul_div_succ (ms + off) hpos
    rw [← hn] at hdiv hdiv'
    refine ⟨n, hvalue, by omega, ?_, ?_⟩
    · rw [ht, Option.getD_some]
      rw [Nat.mul_comm] at hdiv
      omega
    · intro _
      rw [ht', Option.getD_some]
      omega

/-- **The lines of `to_msm_lock_ex` find the interval**, for every lock time. -/
theorem toMsmLockEx_faithful {lock : ℚ} (h : 0 ≤ lock) :
    LockFaithful fromMsmLockExMlt 704 lock (toMsmLockEx lock) := by
  obtain ⟨n, hvalue, hn, hshortest, hbelow⟩ := toMsmLockEx_ms_spec ⌊lock * 1000⌋₊
  have hpos : 0 ≤ lock * 1000 := by positivity
  rw [toMsmLockEx_floor h, hvalue]
  refine ⟨by omega, by omega, ?_, ?_⟩
  · rw [fromMsmLockExMlt_eq n (by omega), fromMsmLockEx, div_le_iff₀ (by norm_num)]
    exact (Nat.le_floor_iff hpos).1 hshortest
  · intro hlt
    have hnext := fromMsmLockExMlt_eq (n + 1) (by omega)
    push_cast at hnext
    rw [hnext, fromMsmLockEx, lt_div_iff₀ (by norm_num)]
    exact (Nat.floor_lt hpos).1 (hbelow (by omega))

/-! ### Both indicators -/

/-- **The lock time indicators**: each is the number of the interval of the lock time, grows with
it, and that of DF407 turns the times of LPP back into the indicators they came from. -/
theorem lockIndicators_correct :
    (∀ lock : ℚ≥0, LockFaithful fromMsmLockExMlt 704 lock (toMsmLockEx lock)) ∧
    MonotoneOn toMsmLockEx (Set.Ici 0) ∧
    (∀ srcSignal : GnssRtkSatelliteSignalDataElement,
      (lockTime srcSignal).map toMsmLockEx = some (min srcSignal.lockTimeIndicator.1 704)) ∧
    (∀ lock : ℚ≥0, LockFaithful fromMsmLock 15 lock (toMsmLock lock)) ∧
    MonotoneOn toMsmLock (Set.Ici 0) := by
  refine ⟨fun lock => toMsmLockEx_faithful lock.2, ?_, ?_, fun lock => toMsmLock_faithful lock.2,
    ?_⟩
  · intro lock h lock' h' hle
    refine LockFaithful.mono ?_ (toMsmLockEx_faithful h) (toMsmLockEx_faithful h') hle
    intro i j hi hij hj
    lift i to ℕ using hi
    lift j to ℕ using by omega
    rw [fromMsmLockExMlt_eq i (by omega), fromMsmLockExMlt_eq j (by omega)]
    exact fromMsmLockEx_mono (by omega) (by omega)
  · intro srcSignal
    have hpos := srcSignal.lockTimeIndicator.2.1
    rw [lockTime_eq, Option.map_some, toMsmLockEx_eq]
    push_cast
    rw [Int.toNat_of_nonneg hpos]
  · intro lock h lock' h' hle
    exact LockFaithful.mono (fun i j => fromMsmLock_mono) (toMsmLock_faithful h)
      (toMsmLock_faithful h') hle

end SuplLpp.Rtcm
