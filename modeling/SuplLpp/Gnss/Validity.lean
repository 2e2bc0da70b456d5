import SuplLpp.Gnss.Ephemeris
import Mathlib.Data.Int.ModEq
import Mathlib.Algebra.Order.Ring.Abs

/-!
# When an ephemeris is valid

An ephemeris has the week of its reference time only up to a multiple of `modulus` weeks.

* `isValid` and `calculateElapsedTime`, which GPS, Galileo and BeiDou share up to their constants;
  `GpsEphemeris.isValid` and the like;
* `Nearest`: the full week that makes the reference time nearest to a time, among those that agree
  with the week of the ephemeris;
* `isValid_iff`: the code looks for the reference time in the present week and the next one only;
* `window_iff`: when exactly the window of an ephemeris is the interval around its reference time;
  `validity_iff` for the three systems.
-/

namespace SuplLpp

open Ts (Timestamp week weekInSeconds)

/-! ### The functions of the source -/

/-- `static_cast` of a number of seconds to an integer. -/
def wholeSeconds (x : ℚ) : ℤ := if 0 ≤ x then ⌊x⌋ else ⌈x⌉

/-- `from_week_tow(week, tow, fractions).timestamp()`. -/
def Ts.weekTow (week tow : ℤ) (fractions : ℚ) : Timestamp :=
  (weekInSeconds * week : ℤ) + tow + fractions

/-- The difference of two week numbers, as the code takes it. -/
def diffMod (modulus timeWeek weekNumber : ℤ) : ℤ :=
  (timeWeek.tmod modulus - weekNumber.tmod modulus + modulus).tmod modulus

/-- `is_valid` of an ephemeris whose week number is modulo `modulus`. -/
def isValid (modulus : ℤ) (fitInterval : ℚ) (weekNumber : ℕ) (toe : ℚ) (time : Timestamp) :
    Bool :=
  let toeTow := wholeSeconds toe
  let toeFrac := toe - toeTow
  let diff := diffMod modulus (week time) weekNumber
  if diff ≠ 0 ∧ diff ≠ modulus - 1 then false
  else
    let fullWeek := week time + if diff = modulus - 1 then 1 else 0
    let difference := time - Ts.weekTow fullWeek toeTow toeFrac
    !(difference < -fitInterval || difference > fitInterval)

/-- The first loop of `calculate_elapsed_time`. -/
def wrapUp (difference : ℚ) : ℚ :=
  if difference < -302400 then wrapUp (difference + 604800) else difference
termination_by ⌈-302400 - difference⌉.toNat
decreasing_by
  have hpos : 0 < ⌈-302400 - difference⌉ := Int.ceil_pos.2 (by linarith)
  have hstep : ⌈-302400 - (difference + 604800)⌉ = ⌈-302400 - difference⌉ - 604800 := by
    rw [← Int.ceil_sub_intCast]
    congr 1
    push_cast
    ring
  omega

/-- The second loop. -/
def wrapDown (difference : ℚ) : ℚ :=
  if difference > 302400 then wrapDown (difference - 604800) else difference
termination_by ⌈difference - 302400⌉.toNat
decreasing_by
  have hpos : 0 < ⌈difference - 302400⌉ := Int.ceil_pos.2 (by linarith)
  have hstep : ⌈difference - 604800 - 302400⌉ = ⌈difference - 302400⌉ - 604800 := by
    rw [← Int.ceil_sub_intCast]
    congr 1
    push_cast
    ring
  omega

def calculateElapsedTime (time : Timestamp) (reference : ℚ) : ℚ :=
  let referenceTow := wholeSeconds reference
  let referenceFrac := reference - referenceTow
  wrapDown (wrapUp (time - Ts.weekTow (week time) referenceTow referenceFrac))

def GpsEphemeris.fitInterval (e : GpsEphemeris) : ℚ :=
  if e.fitIntervalFlag then 2 * 3600 else 4 * 3600

def GpsEphemeris.isValid (e : GpsEphemeris) (time : Ts.Gps) : Bool :=
  SuplLpp.isValid 1024 e.fitInterval e.weekNumber e.toe time.mTm

def GpsEphemeris.calculateElapsedTimeToe (e : GpsEphemeris) (time : Ts.Gps) : ℚ :=
  calculateElapsedTime time.mTm e.toe

def GalEphemeris.isValid (e : GalEphemeris) (time : Ts.Gst) : Bool :=
  SuplLpp.isValid 4096 (4 * 3600) e.weekNumber e.toe time.mTm

def GalEphemeris.calculateElapsedTimeToe (e : GalEphemeris) (time : Ts.Gst) : ℚ :=
  calculateElapsedTime time.mTm e.toe

def BdsEphemeris.isValid (e : BdsEphemeris) (time : Ts.Bdt) : Bool :=
  SuplLpp.isValid 8192 (4 * 3600) e.weekNumber e.toe time.mTm

def BdsEphemeris.calculateElapsedTimeToe (e : BdsEphemeris) (time : Ts.Bdt) : ℚ :=
  calculateElapsedTime time.mTm e.toe

/-- QZSS looks for the reference time in the present week only. -/
def QzsEphemeris.isValid (e : QzsEphemeris) (time : Ts.Gps) : Bool :=
  if (week time.mTm).tmod 1024 ≠ e.weekNumber % 1024 then false
  else
    let toeTow := wholeSeconds e.toe
    let toeFrac := e.toe - toeTow
    let fitInterval : ℚ := if e.fitIntervalFlag then 2 * 3600 else 4 * 3600
    let difference := time.mTm - Ts.weekTow (week time.mTm) toeTow toeFrac
    !(difference < -fitInterval || difference > fitInterval)

theorem weekTow_wholeSeconds (week : ℤ) (toe : ℚ) :
    Ts.weekTow week (wholeSeconds toe) (toe - wholeSeconds toe) = 604800 * week + toe := by
  have hweek : weekInSeconds = 604800 := by decide
  rw [Ts.weekTow, hweek]
  push_cast
  ring

theorem wrapUp_of_le {d : ℚ} (h : -302400 ≤ d) : wrapUp d = d := by
  rw [wrapUp, if_neg (not_lt.2 h)]

theorem wrapDown_of_le {d : ℚ} (h : d ≤ 302400) : wrapDown d = d := by
  rw [wrapDown, if_neg (not_lt.2 h)]

/-! ### Week numbers -/

section Week

variable {N w e : ℤ}

/-- The division of the code cuts towards zero. -/
theorem diffMod_eq (hN : 1 < N) (he : 0 ≤ e) :
    diffMod N w e = if 0 ≤ w ∨ N ∣ w then (w - e) % N else w % N - e % N := by
  have hpos : 0 < N := by omega
  have hw := Int.emod_nonneg w hpos.ne'
  have hw' := Int.emod_lt_of_pos w hpos
  have hf := Int.emod_nonneg e hpos.ne'
  have hf' := Int.emod_lt_of_pos e hpos
  rw [diffMod, Int.tmod_eq_emod_of_nonneg he, Int.tmod_eq_emod (a := w)]
  split_ifs with hcase
  · have hsum : w % N - (0 : ℕ) - e % N + N = w % N - e % N + N := by simp
    rw [hsum, Int.tmod_eq_emod_of_nonneg (by omega), Int.add_emod_right, ← Int.sub_emod]
  · have hnat : (N.natAbs : ℤ) = N := Int.natAbs_of_nonneg hpos.le
    have hsum : w % N - N.natAbs - e % N + N = w % N - e % N := by rw [hnat]; ring
    rw [hsum]
    rcases Int.le_total 0 (w % N - e % N) with hsign | hsign
    · rw [Int.tmod_eq_emod_of_nonneg hsign, Int.emod_eq_of_lt hsign (by omega)]
    · have hneg : (e % N - w % N).tmod N = e % N - w % N := by
        rw [Int.tmod_eq_emod_of_nonneg (by omega), Int.emod_eq_of_lt (by omega) (by omega)]
      rw [← Int.neg_sub, Int.neg_tmod, hneg]

theorem dvd_add_one_iff {x : ℤ} (hpos : 0 < N) : N ∣ x + 1 ↔ x % N = N - 1 := by
  have h0 := Int.emod_nonneg x hpos.ne'
  have hlt := Int.emod_lt_of_pos x hpos
  have hdvd : N ∣ x + 1 ↔ N ∣ x % N + 1 := by
    have hsplit : x + 1 = N * (x / N) + (x % N + 1) := by rw [← add_assoc, Int.mul_ediv_add_emod]
    rw [hsplit]
    exact (Int.dvd_add_right (Int.dvd_mul_right N _))
  rw [hdvd]
  constructor
  · intro h
    have hle := Int.le_of_dvd (by omega) h
    omega
  · intro h
    rw [h, Int.sub_add_cancel]

/-- The week of the time agrees with the week number. -/
theorem diffMod_eq_zero (hN : 1 < N) (he : 0 ≤ e) : diffMod N w e = 0 ↔ w ≡ e [ZMOD N] := by
  rw [diffMod_eq hN he]
  split_ifs
  · exact Int.emod_eq_emod_iff_emod_sub_eq_zero.symm
  · rw [Int.sub_eq_zero, Int.ModEq]

/-- The next week does, and the code sees it. -/
theorem diffMod_eq_sub_one (hN : 1 < N) (he : 0 ≤ e) :
    diffMod N w e = N - 1 ↔ w + 1 ≡ e [ZMOD N] ∧ (0 ≤ w ∨ N ∣ w ∨ N ∣ w + 1) := by
  have hpos : 0 < N := by omega
  rw [diffMod_eq hN he]
  split_ifs with hcase
  · have hsub : w - e + 1 = w + 1 - e := by ring
    rw [← dvd_add_one_iff hpos, hsub, and_iff_left (by tauto), Int.modEq_comm, Int.modEq_iff_dvd]
  · have h0 := Int.emod_nonneg e hpos.ne'
    have hlt := Int.emod_lt_of_pos w hpos
    rw [not_or] at hcase
    have hright : (w + 1 ≡ e [ZMOD N] ∧ (0 ≤ w ∨ N ∣ w ∨ N ∣ w + 1)) ↔
        e % N = 0 ∧ w % N = N - 1 := by
      rw [or_iff_right hcase.1, or_iff_right hcase.2, ← dvd_add_one_iff hpos]
      refine and_congr_left fun hdvd => ?_
      rw [Int.ModEq, Int.emod_eq_zero_of_dvd hdvd, eq_comm]
    rw [hright]
    omega

end Week

/-! ### The window -/

/-- The reference time in the week `W`. -/
def referenceTime (toe : ℚ) (W : ℤ) : ℚ := 604800 * W + toe

/-- `W` agrees with the week number, and no such week has its reference time nearer to `t`. -/
structure Nearest (N : ℤ) (weekNumber : ℕ) (toe : ℚ) (t : Timestamp) (W : ℤ) : Prop where
  agrees : W ≡ weekNumber [ZMOD N]
  least : ∀ W', W' ≡ weekNumber [ZMOD N] → |t - referenceTime toe W| ≤ |t - referenceTime toe W'|

/-- The time as far behind the reference time as `t` is in front of it. -/
def mirror (toe : ℚ) (W : ℤ) (t : Timestamp) : Timestamp := 2 * referenceTime toe W - t

/-- The weeks that the code takes into account: that of the time and the next one; before the epoch
of the system the next one only next to a multiple of `N`. -/
def Seen (N : ℤ) (t : Timestamp) (W : ℤ) : Prop :=
  W = week t ∨ W = week t + 1 ∧ (0 ≤ week t ∨ N ∣ week t ∨ N ∣ week t + 1)

/-- What an ephemeris promises of a time. -/
structure HasWindow (N : ℤ) (fitInterval : ℚ) (weekNumber : ℕ) (toe : ℚ)
    (valid : Timestamp → Bool) (elapsed : Timestamp → ℚ) (t : Timestamp) : Prop where
  window : valid t = true ↔
    ∃ W, Nearest N weekNumber toe t W ∧ |t - referenceTime toe W| ≤ fitInterval
  symmetric : ∀ W, Nearest N weekNumber toe t W → (valid t = true ↔ valid (mirror toe W t) = true)
  elapsed_eq : valid t = true → ∀ W, Nearest N weekNumber toe t W →
    elapsed t = t - referenceTime toe W ∧ -302400 ≤ elapsed t ∧ elapsed t ≤ 302400

/-- Where the reference time is within the fit interval of the time, its week is one that the code
takes into account, for the time and for its mirror image. -/
def OnTime (N : ℤ) (fitInterval : ℚ) (weekNumber : ℕ) (toe : ℚ) (t : Timestamp) : Prop :=
  ∀ W, W ≡ weekNumber [ZMOD N] → |t - referenceTime toe W| ≤ fitInterval →
    Seen N t W ∧ Seen N (mirror toe W t) W

section Window

variable {N : ℤ} {fitInterval : ℚ} {weekNumber : ℕ} {toe : ℚ} {t : Timestamp} {W W' : ℤ}

theorem mirror_sub (toe : ℚ) (W : ℤ) (t : Timestamp) :
    mirror toe W t - referenceTime toe W = -(t - referenceTime toe W) := by
  rw [mirror]
  ring

theorem abs_mirror_sub (toe : ℚ) (W : ℤ) (t : Timestamp) :
    |mirror toe W t - referenceTime toe W| = |t - referenceTime toe W| := by
  rw [mirror_sub, abs_neg]

/-- Weeks that agree are far apart. -/
theorem eq_of_within (hfit : 2 * fitInterval < 604800 * N) (hW : W ≡ weekNumber [ZMOD N])
    (hW' : W' ≡ weekNumber [ZMOD N]) (h : |t - referenceTime toe W| ≤ fitInterval)
    (h' : |t - referenceTime toe W'| ≤ fitInterval) : W = W' := by
  have hdvd : N ∣ W' - W := (hW.trans hW'.symm).dvd
  obtain ⟨k, hk⟩ := hdvd
  have hdiff : (604800 : ℚ) * N * k = (t - referenceTime toe W) - (t - referenceTime toe W') := by
    have hcast : ((W' : ℚ) - W) = N * k := by exact_mod_cast hk
    simp only [referenceTime]
    rw [mul_assoc, ← hcast]
    ring
  have hle : |(604800 : ℚ) * N * k| ≤ 2 * fitInterval := by
    rw [hdiff]
    exact (abs_sub _ _).trans (by linarith)
  have hzero : k = 0 := by
    by_contra hne
    have hone : (1 : ℚ) ≤ |(k : ℚ)| := by exact_mod_cast Int.one_le_abs hne
    have hfit0 : 0 ≤ fitInterval := (abs_nonneg _).trans h
    rw [abs_mul, abs_of_pos (by linarith)] at hle
    nlinarith
  rw [hzero, mul_zero] at hk
  omega

theorem nearest_of_within (hfit : 2 * fitInterval < 604800 * N) (hW : W ≡ weekNumber [ZMOD N])
    (h : |t - referenceTime toe W| ≤ fitInterval) : Nearest N weekNumber toe t W where
  agrees := hW
  least W' hW' := by
    by_contra hlt
    push Not at hlt
    have heq := eq_of_within hfit hW hW' h (hlt.le.trans h)
    rw [heq] at hlt
    exact lt_irrefl _ hlt

/-- The mirror image has the same nearest week. -/
theorem Nearest.mirror (h : Nearest N weekNumber toe t W) :
    Nearest N weekNumber toe (SuplLpp.mirror toe W t) W where
  agrees := h.agrees
  least W' hW' := by
    have hopposite : 2 * W - W' ≡ weekNumber [ZMOD N] := by
      have hdouble := (h.agrees.add h.agrees).sub hW'
      rwa [← two_mul, add_sub_cancel_right] at hdouble
    have hle := h.least (2 * W - W') hopposite
    have hsame : |SuplLpp.mirror toe W t - referenceTime toe W'| =
        |t - referenceTime toe (2 * W - W')| := by
      rw [← abs_neg]
      congr 1
      simp only [SuplLpp.mirror, referenceTime]
      push_cast
      ring
    rw [abs_mirror_sub, hsame]
    exact hle

theorem within_iff (x : ℚ) :
    (!(x < -fitInterval || x > fitInterval)) = true ↔ |x| ≤ fitInterval := by
  rw [abs_le]
  simp

/-- **What the code finds**: the reference time in one of two weeks. -/
theorem isValid_iff (hN : 1 < N) : isValid N fitInterval weekNumber toe t = true ↔
    ∃ W, W ≡ weekNumber [ZMOD N] ∧ Seen N t W ∧ |t - referenceTime toe W| ≤ fitInterval := by
  have hwn : (0 : ℤ) ≤ weekNumber := Int.natCast_nonneg _
  simp only [isValid, weekTow_wholeSeconds]
  by_cases hthis : diffMod N (week t) weekNumber = 0
  · have hagrees := (diffMod_eq_zero hN hwn).1 hthis
    have hnot : ¬(0 : ℤ) = N - 1 := by omega
    rw [hthis, if_neg (by simp), if_neg hnot, add_zero, within_iff]
    refine ⟨fun h => ⟨week t, hagrees, .inl rfl, h⟩, ?_⟩
    rintro ⟨W, hW, rfl | ⟨rfl, -⟩, h⟩
    · exact h
    · -- two consecutive weeks do not both agree
      have hdvd : N ∣ week t + 1 - week t := (hagrees.trans hW.symm).dvd
      rw [add_sub_cancel_left] at hdvd
      have hle := Int.le_of_dvd one_pos hdvd
      omega
  · by_cases hnext : diffMod N (week t) weekNumber = N - 1
    · obtain ⟨hagrees, hseen⟩ := (diffMod_eq_sub_one hN hwn).1 hnext
      rw [if_neg (fun h => h.2 hnext), if_pos hnext, within_iff]
      refine ⟨fun h => ⟨week t + 1, hagrees, .inr ⟨rfl, hseen⟩, h⟩, ?_⟩
      rintro ⟨W, hW, rfl | ⟨rfl, -⟩, h⟩
      · exact absurd ((diffMod_eq_zero hN hwn).2 hW) hthis
      · exact h
    · rw [if_pos ⟨hthis, hnext⟩]
      refine iff_of_false Bool.false_ne_true ?_
      rintro ⟨W, hW, rfl | ⟨rfl, hseen⟩, -⟩
      · exact hthis ((diffMod_eq_zero hN hwn).2 hW)
      · exact hnext ((diffMod_eq_sub_one hN hwn).2 ⟨hW, hseen⟩)

/-- The elapsed time of a week that was seen. -/
theorem calculateElapsedTime_eq (hseen : Seen N t W) (h : |t - referenceTime toe W| < 302400) :
    calculateElapsedTime t toe = t - referenceTime toe W := by
  obtain ⟨hlow, hhigh⟩ := abs_lt.1 h
  simp only [calculateElapsedTime, weekTow_wholeSeconds]
  rcases hseen with rfl | ⟨rfl, -⟩
  · change wrapDown (wrapUp (t - referenceTime toe (week t))) = _
    rw [wrapUp_of_le hlow.le, wrapDown_of_le hhigh.le]
  · have hback : t - (604800 * (week t : ℚ) + toe) =
        t - referenceTime toe (week t + 1) + 604800 := by
      rw [referenceTime]
      push_cast
      ring
    rw [hback, wrapUp_of_le (by linarith), wrapDown, if_pos (by linarith), add_sub_cancel_right,
      wrapDown_of_le hhigh.le]

/-- **The window of an ephemeris** is the fit interval around its reference time if and only if
the ephemeris is on time. -/
theorem window_iff (hN : 1 < N) (hfit : fitInterval < 302400) (weekNumber : ℕ) (toe : ℚ)
    (t : Timestamp) :
    HasWindow N fitInterval weekNumber toe (isValid N fitInterval weekNumber toe)
        (fun t => calculateElapsedTime t toe) t ↔
      OnTime N fitInterval weekNumber toe t := by
  have hone : (1 : ℚ) ≤ N := by exact_mod_cast hN.le
  have hwide : 2 * fitInterval < 604800 * N := by linarith
  constructor
  · intro h W hW hwithin
    have hnear := nearest_of_within hwide hW hwithin
    have hvalid := h.window.2 ⟨W, hnear, hwithin⟩
    constructor
    · obtain ⟨W', hW', hseen, hwithin'⟩ := (isValid_iff hN).1 hvalid
      rwa [eq_of_within hwide hW hW' hwithin hwithin']
    · obtain ⟨W', hW', hseen, hwithin'⟩ := (isValid_iff hN).1 ((h.symmetric W hnear).1 hvalid)
      have hmirror := (abs_mirror_sub toe W t).trans_le hwithin
      obtain rfl := eq_of_within hwide hW hW' hmirror hwithin'
      exact hseen
  · intro h
    -- what is valid is so for the nearest week
    have hvalid : ∀ W, Nearest N weekNumber toe t W →
        (isValid N fitInterval weekNumber toe t = true ↔
          |t - referenceTime toe W| ≤ fitInterval) := by
      intro W hW
      rw [isValid_iff hN]
      constructor
      · rintro ⟨W', hW', -, hwithin⟩
        exact (hW.least W' hW').trans hwithin
      · intro hwithin
        exact ⟨W, hW.agrees, (h W hW.agrees hwithin).1, hwithin⟩
    refine ⟨?_, fun W hW => ?_, fun hval W hW => ?_⟩
    · constructor
      · intro hval
        obtain ⟨W, hW, -, hwithin⟩ := (isValid_iff hN).1 hval
        exact ⟨W, nearest_of_within hwide hW hwithin, hwithin⟩
      · rintro ⟨W, hW, hwithin⟩
        exact (hvalid W hW).2 hwithin
    · rw [hvalid W hW, ← abs_mirror_sub, isValid_iff hN]
      constructor
      · intro hwithin
        have hseen := (h W hW.agrees ((abs_mirror_sub toe W t).ge.trans hwithin)).2
        exact ⟨W, hW.agrees, hseen, hwithin⟩
      · rintro ⟨W', hW', -, hwithin⟩
        exact (hW.mirror.least W' hW').trans hwithin
    · have hwithin := (hvalid W hW).1 hval
      have hseen := (h W hW.agrees hwithin).1
      rw [calculateElapsedTime_eq hseen (hwithin.trans_lt hfit)]
      obtain ⟨hlow, hhigh⟩ := abs_le.1 hwithin
      exact ⟨rfl, by linarith, by linarith⟩

/-- A time of the system, and a reference time of the week: the code sees the week unless the time
is in a later one. -/
theorem seen_iff_lt (ht : 0 ≤ t) (htoe : 0 ≤ toe)
    (h : |t - referenceTime toe W| < 302400) : Seen N t W ↔ t < 604800 * (W + 1) := by
  obtain ⟨hlow, hhigh⟩ := abs_lt.1 h
  rw [referenceTime] at hlow hhigh
  have hseconds : 0 ≤ ⌊t⌋ := Int.floor_nonneg.2 ht
  have hdiv : week t = ⌊t⌋ / 604800 := Int.tdiv_eq_ediv_of_nonneg hseconds
  have hbefore : 604800 * (W - 1) ≤ ⌊t⌋ := by
    rw [Int.le_floor]
    push_cast
    linarith
  have hlater : t < 604800 * (W + 1) ↔ ⌊t⌋ < 604800 * (W + 1) := by
    rw [Int.floor_lt]
    push_cast
    rfl
  rw [hlater, Seen, hdiv]
  omega

end Window

/-! ### The three systems -/

theorem GpsEphemeris.fitInterval_lt (e : GpsEphemeris) : e.fitInterval < 302400 := by
  unfold GpsEphemeris.fitInterval
  split <;> norm_num

/-- **The window of every ephemeris** of the three systems at every time. -/
theorem validity_iff (gps : GpsEphemeris) (gal : GalEphemeris) (bds : BdsEphemeris)
    (time : Ts.Gps) (time' : Ts.Gst) (time'' : Ts.Bdt) :
    (HasWindow 1024 gps.fitInterval gps.weekNumber gps.toe (fun t => gps.isValid ⟨t⟩)
          (fun t => gps.calculateElapsedTimeToe ⟨t⟩) time.mTm ↔
        OnTime 1024 gps.fitInterval gps.weekNumber gps.toe time.mTm) ∧
    (HasWindow 4096 (4 * 3600) gal.weekNumber gal.toe (fun t => gal.isValid ⟨t⟩)
          (fun t => gal.calculateElapsedTimeToe ⟨t⟩) time'.mTm ↔
        OnTime 4096 (4 * 3600) gal.weekNumber gal.toe time'.mTm) ∧
    (HasWindow 8192 (4 * 3600) bds.weekNumber bds.toe (fun t => bds.isValid ⟨t⟩)
          (fun t => bds.calculateElapsedTimeToe ⟨t⟩) time''.mTm ↔
        OnTime 8192 (4 * 3600) bds.weekNumber bds.toe time''.mTm) := by
  refine ⟨?_, ?_, ?_⟩
  · exact window_iff (by decide) gps.fitInterval_lt gps.weekNumber gps.toe time.mTm
  · exact window_iff (by decide) (by norm_num) gal.weekNumber gal.toe time'.mTm
  · exact window_iff (by decide) (by norm_num) bds.weekNumber bds.toe time''.mTm

/-- An ephemeris of the last quarter of an hour of week 100. -/
def endOfWeek : GpsEphemeris where
  toe := 604000
  toc := 604000
  crc := 0
  crs := 0
  cuc := 0
  cus := 0
  cic := 0
  cis := 0
  e := 0
  m0 := 0
  deltaN := 0
  a := 26560000
  i0 := 0
  omega0 := 0
  omega := 0
  omegaDot := 0
  idot := 0
  af2 := 0
  af1 := 0
  af0 := 0
  prn := 1
  weekNumber := 100
  caOrPOnL2 := 0
  uraIndex := 0
  svHealth := 0
  lppIod := 0
  iodc := 0
  iode := 0
  aodo := 0
  tgd := 0
  fitIntervalFlag := false
  l2PDataFlag := false

/-- A quarter of an hour later, in the next week, it is not valid any more. -/
theorem not_hasWindow_endOfWeek :
    ¬HasWindow 1024 endOfWeek.fitInterval endOfWeek.weekNumber endOfWeek.toe
      (fun t => endOfWeek.isValid ⟨t⟩) (fun t => endOfWeek.calculateElapsedTimeToe ⟨t⟩)
      (604800 * 101 + 100) := by
  intro h
  have hwithin : |(604800 * 101 + 100 : ℚ) - referenceTime endOfWeek.toe 100| ≤
      endOfWeek.fitInterval := by
    norm_num [referenceTime, endOfWeek, GpsEphemeris.fitInterval, abs_of_nonneg]
  have hnear : Nearest 1024 endOfWeek.weekNumber endOfWeek.toe (604800 * 101 + 100) 100 :=
    nearest_of_within (by norm_num [endOfWeek, GpsEphemeris.fitInterval]) rfl hwithin
  have hvalid := h.window.2 ⟨100, hnear, hwithin⟩
  exact absurd hvalid (by decide +kernel)

end SuplLpp
