import SuplLpp.Rtcm.Generator

/-!
# The version of the MSMs

MSM4 to MSM7 differ in what they have fields for: MSM5 and MSM7 for rates and for the channels
of GLONASS, MSM6 and MSM7 for the extended resolution of ranges, lock times and carrier to noise
ratios.

* `Carries`: a version has fields for all that the observations have;
* `Level`, what the search for the lowest version finds, of one satellite or signal
  (`Signal.lowestMsmVersion_level`) and of all of them (`lowestMsm_level`);
* `selectsVersion_iff`: when the version of the MSMs that `generate` returns is the right one
  for the filter and the observations.
-/

namespace SuplLpp.Rtcm

open Asn Bits

/-! ### What a version carries -/

/-- The value is a multiple of the step. -/
def OnGrid (step value : ℚ) : Prop := ∃ k : ℤ, value = k * step

/-- The fields of MSM4 and MSM5 have a number for each value of the signal. -/
structure Signal.StandardResolution (signal : Signal) : Prop where
  finePseudoRange : ∀ value ∈ signal.finePseudoRange, OnGrid (1 / 2 ^ 24) value
  finePhaseRange : ∀ value ∈ signal.finePhaseRange, OnGrid (1 / 2 ^ 29) value
  lockTime : ∀ value ∈ signal.lockTime, ∃ ms ∈ kMlt2Table, value = ms / 1000
  carrierToNoiseRatio : ∀ value ∈ signal.carrierToNoiseRatio, OnGrid 1 value

def Signal.HasRate (signal : Signal) : Prop := signal.finePhaseRangeRate.isSome

/-- The satellite has a rate, or the channel that goes into the same versions. -/
def Satellite.HasRate (satellite : Satellite) : Prop :=
  satellite.roughPhaseRangeRate.isSome ∨
    satellite.id.gnss = .glonass ∧ satellite.frequencyChannel.isSome

section Quantities

variable (observations : List Observations)

def HasRates : Prop :=
  ∃ o ∈ observations, (∃ satellite ∈ o.satellites, satellite.HasRate) ∨
    ∃ signal ∈ o.signals, signal.HasRate

def HasExtended : Prop := ∃ o ∈ observations, ∃ signal ∈ o.signals, ¬ signal.StandardResolution

/-- One signal has a rate and an extended resolution. -/
def HasBothInOne : Prop :=
  ∃ o ∈ observations, ∃ signal ∈ o.signals, signal.HasRate ∧ ¬ signal.StandardResolution

/-- The version has fields for all quantities of the observations. -/
def Carries (msm : ℕ) : Prop :=
  (HasRates observations → msm = 5 ∨ msm = 7) ∧ (HasExtended observations → msm = 6 ∨ msm = 7)

end Quantities

/-! ### What the filter asks for -/

section Filter

variable (filter : MessageFilter)

def MessageFilter.enables : ℕ → Bool
  | 4 => filter.msm4
  | 5 => filter.msm5
  | 6 => filter.msm6
  | 7 => filter.msm7
  | _ => false

def MessageFilter.forces : ℕ → Bool
  | 4 => filter.forceMsm4
  | 5 => filter.forceMsm5
  | 6 => filter.forceMsm6
  | 7 => filter.forceMsm7
  | _ => false

/-- The version is right: a forced one, and if there is none an enabled one, that carries the
observations if an enabled one does. -/
def RightVersion (observations : List Observations) (msm : ℕ) : Prop :=
  ((∃ v, filter.forces v) → filter.forces msm) ∧
    ((∀ v, ¬ filter.forces v) → filter.enables msm ∧
      ((∃ v, filter.enables v ∧ Carries observations v) → Carries observations msm))

/-- The data that the messages are made of. -/
def rtkDataOf (lppMessage : Option LppMessage) : Option RtkData :=
  (lppMessage.bind LppMessage.aGnss).bind extractRtkData

/-- The message is an MSM of the version. -/
def Message.IsMsm (message : Message) (msm : ℕ) : Prop :=
  4 ≤ msm ∧ msm ≤ 7 ∧ ∃ gnss, message.id = (msmMessageId msm.toUInt32 gnss).toUInt32

/-- The version of each MSM that `generate` returns is right for the observations that the MSMs
are made of. -/
def SelectsVersion (generator : Generator) (lppMessage : Option LppMessage) : Prop :=
  ∀ messages next data, generator.generate lppMessage filter = some (messages, next) →
    rtkDataOf lppMessage = some data → ∀ message ∈ messages, ∀ msm, message.IsMsm msm →
      RightVersion filter ((messageObservations data filter).map (·.2)) msm

/-- MSM6 is taken for observations with rates, although MSM7 is enabled. -/
def TakesMsm6 (observations : List Observations) : Prop :=
  filter.msm6 ∧ filter.msm7 ∧ HasRates observations ∧ ¬ HasBothInOne observations ∧
    (HasExtended observations ∨ ¬ filter.msm5)

/-- The search ends without a version, and MSM4, which is taken then, is not enabled. -/
def FallsBack (observations : List Observations) : Prop :=
  ¬ filter.msm4 ∧ ¬ filter.msm7 ∧
    (HasBothInOne observations ∨ HasExtended observations ∧ ¬ filter.msm6)

end Filter

/-! ### Rounding -/

theorem roundHalfAway_intCast (k : ℤ) : roundHalfAway k = k := by
  unfold roundHalfAway
  split
  · rw [Int.floor_eq_iff]
    constructor <;> norm_num
  · rw [Int.ceil_eq_iff]
    constructor <;> linarith

/-- Rounding to the grid leaves exactly the values on the grid as they are. -/
theorem roundHalfAway_mul_eq_iff {step : ℚ} (hstep : 0 < step) (value : ℚ) :
    roundHalfAway (value / step) * step = value ↔ OnGrid step value := by
  constructor
  · intro h
    exact ⟨roundHalfAway (value / step), h.symm⟩
  · rintro ⟨k, rfl⟩
    rw [mul_div_cancel_right₀ _ hstep.ne', roundHalfAway_intCast]

/-- Two grids, one in the other: rounding to both differs for the values off the coarse one. -/
theorem abs_round_sub_pos_iff {coarse fine value : ℚ} (hcoarse : 0 < coarse) (hfine : 0 < fine)
    (hvalue : OnGrid fine value) :
    |roundHalfAway (value / coarse) * coarse - roundHalfAway (value / fine) * fine| > 0 ↔
      ¬ OnGrid coarse value := by
  rw [(roundHalfAway_mul_eq_iff hfine value).mpr hvalue, gt_iff_lt, abs_pos, sub_ne_zero,
    Ne, roundHalfAway_mul_eq_iff hcoarse]

/-- Looking a lock time up and back gives it back when it is one of the table. -/
theorem fromMsmLock_toMsmLock_iff (ms : ℕ) :
    |fromMsmLock (toMsmLock ((ms : ℚ) / 1000)) - (ms : ℚ) / 1000| > 0.0001 ↔
      ¬ ∃ n ∈ kMlt2Table, ((ms : ℚ) / 1000 : ℚ) = n / 1000 := by
  have htable : ∀ n ∈ kMlt2Table, fromMsmLock (toMsmLock ((n : ℚ) / 1000)) = n / 1000 := by
    decide +kernel
  obtain ⟨hlo, hhi, -, -⟩ := toMsmLock_faithful
    (show (0 : ℚ) ≤ (ms : ℚ) / 1000 by positivity)
  obtain ⟨i, hi⟩ := Int.eq_ofNat_of_zero_le hlo
  have hentry := fromMsmLock_le (n := i) (by omega)
  have hmem : kMlt2Table.getD i 0 ∈ kMlt2Table := by
    have hlen : i < kMlt2Table.length := by
      rw [show kMlt2Table.length = 16 from rfl]
      omega
    rw [List.getD_eq_getElem _ _ hlen]
    exact List.getElem_mem hlen
  constructor
  · rintro hfar ⟨n, hn, heq⟩
    rw [heq, htable n hn, sub_self, abs_zero] at hfar
    norm_num at hfar
  · intro hnot
    by_contra hnear
    refine hnot ⟨_, hmem, ?_⟩
    -- milliseconds that differ do so by one at least
    rw [hi, hentry, gt_iff_lt, not_lt, abs_le] at hnear
    obtain ⟨hbelow, habove⟩ := hnear
    have hle : ms ≤ kMlt2Table.getD i 0 := by
      by_contra hlt
      have hstep : (kMlt2Table.getD i 0 : ℚ) + 1 ≤ ms := by exact_mod_cast not_le.mp hlt
      linarith
    have hge : kMlt2Table.getD i 0 ≤ ms := by
      by_contra hlt
      have hstep : (ms : ℚ) + 1 ≤ kMlt2Table.getD i 0 := by exact_mod_cast not_le.mp hlt
      linarith
    rw [le_antisymm hle hge]

/-- A number of sixteenths that is close to an integer is one. -/
theorem abs_round_sixteenths_iff (n : ℤ) :
    |(roundHalfAway ((n : ℚ) * (1 / 2 ^ 4)) : ℚ) - n * (1 / 2 ^ 4)| > 0.0001 ↔
      ¬ OnGrid 1 (n * (1 / 2 ^ 4)) := by
  rw [← roundHalfAway_mul_eq_iff one_pos, div_one, mul_one]
  set k := roundHalfAway ((n : ℚ) * (1 / 2 ^ 4))
  constructor
  · rintro hfar heq
    rw [heq, sub_self, abs_zero] at hfar
    norm_num at hfar
  · intro hne
    by_contra hnear
    refine hne ?_
    rw [gt_iff_lt, not_lt, abs_le] at hnear
    obtain ⟨hbelow, habove⟩ := hnear
    have hle : 16 * k ≤ n := by
      by_contra hlt
      have hstep : (n : ℚ) + 1 ≤ 16 * k := by exact_mod_cast not_le.mp hlt
      linarith
    have hge : n ≤ 16 * k := by
      by_contra hlt
      have hstep : (16 : ℚ) * k + 1 ≤ n := by exact_mod_cast not_le.mp hlt
      linarith
    have heq : (n : ℚ) = 16 * k := by exact_mod_cast le_antisymm hge hle
    rw [heq]
    ring

/-! ### Levels -/

/-- The version is 7, 6, 5 or 4 depending on what there is: a rate and an extended resolution in
one place, an extended resolution, a rate, or none of these. -/
structure Level (version : ℕ) (rate extended both : Prop) : Prop where
  le_seven : version ≤ 7
  le_six_iff : version ≤ 6 ↔ ¬ both
  le_five_iff : version ≤ 5 ↔ ¬ extended
  le_four_iff : version ≤ 4 ↔ ¬ rate ∧ ¬ extended

namespace Level

theorem zero : Level 0 False False False := by
  constructor <;> simp

theorem max {v w : ℕ} {r e b r' e' b' : Prop} (hv : Level v r e b) (hw : Level w r' e' b') :
    Level (max v w) (r ∨ r') (e ∨ e') (b ∨ b') where
  le_seven := max_le hv.le_seven hw.le_seven
  le_six_iff := by rw [max_le_iff, hv.le_six_iff, hw.le_six_iff, not_or]
  le_five_iff := by rw [max_le_iff, hv.le_five_iff, hw.le_five_iff, not_or]
  le_four_iff := by
    rw [max_le_iff, hv.le_four_iff, hw.le_four_iff, not_or, not_or]
    tauto

theorem congr {v : ℕ} {r e b r' e' b' : Prop} (h : Level v r e b) (hr : r ↔ r') (he : e ↔ e')
    (hb : b ↔ b') : Level v r' e' b' :=
  ⟨h.le_seven, by rw [← hb, h.le_six_iff], by rw [← he, h.le_five_iff],
    by rw [← hr, ← he, h.le_four_iff]⟩

/-- The loops keep the level: at the end it is that of the start and of all elements. -/
theorem foldl_max {α : Type*} {version : α → ℕ} {rate extended both : α → Prop} {l : List α}
    (h : ∀ a ∈ l, Level (version a) (rate a) (extended a) (both a)) {v : ℕ} {r e b : Prop}
    (hv : Level v r e b) :
    Level ((l.map version).foldl Max.max v) (r ∨ ∃ a ∈ l, rate a) (e ∨ ∃ a ∈ l, extended a)
      (b ∨ ∃ a ∈ l, both a) := by
  induction l generalizing v r e b with
  | nil => simpa using hv
  | cons a l ih =>
    have hnext := ih (fun a' ha' => h a' (List.mem_cons_of_mem _ ha'))
      (hv.max (h a (List.mem_cons_self ..)))
    simp only [List.map_cons, List.foldl_cons, List.exists_mem_cons_iff]
    exact hnext.congr or_assoc or_assoc or_assoc

end Level

theorem le_foldl_max (l : List ℕ) (v : ℕ) : v ≤ l.foldl max v := by
  induction l generalizing v with
  | nil => exact le_rfl
  | cons a l ih => exact (le_max_left v a).trans (ih _)

theorem mem_le_foldl_max {l : List ℕ} {a : ℕ} (h : a ∈ l) (v : ℕ) : a ≤ l.foldl max v := by
  induction l generalizing v with
  | nil => exact absurd h List.not_mem_nil
  | cons a' l ih =>
    rcases List.mem_cons.mp h with rfl | hmem
    · exact (le_max_right v a).trans (le_foldl_max l _)
    · exact ih hmem _

theorem ite_gt_eq_max (v w : ℕ) : (if w > v then w else v) = max v w := by
  split <;> omega

theorem largestVersion_eq_foldl {l : List ℕ} (h : ∀ version ∈ l, version ≠ 0) (msm : ℕ) :
    largestVersion msm l = some (l.foldl max msm) := by
  induction l generalizing msm with
  | nil => rfl
  | cons version l ih =>
    rw [largestVersion, if_neg (h version (List.mem_cons_self ..)), ite_gt_eq_max,
      ih fun v hv => h v (List.mem_cons_of_mem _ hv)]
    rfl

/-- The search among the four versions, for what the `can_be_encoded_as_msm` functions ask. -/
theorem lowestVersion_level {canBeEncoded : ℕ → Bool} {rate extended : Prop}
    (h : ∀ v, canBeEncoded v ↔ (v = 4 ∨ v = 6 → ¬ rate) ∧ (v = 4 ∨ v = 5 → ¬ extended)) :
    Level (lowestVersion canBeEncoded) rate extended (rate ∧ extended) ∧
      4 ≤ lowestVersion canBeEncoded := by
  have h4 : canBeEncoded 4 ↔ ¬ rate ∧ ¬ extended := by simpa using h 4
  have h5 : canBeEncoded 5 ↔ ¬ extended := by simpa using h 5
  have h6 : canBeEncoded 6 ↔ ¬ rate := by simpa using h 6
  have h7 : canBeEncoded 7 := by simpa using h 7
  have hfind : lowestVersion canBeEncoded = if canBeEncoded 4 then 4 else if canBeEncoded 5 then 5
      else if canBeEncoded 6 then 6 else 7 := by
    simp only [lowestVersion, List.find?, h7]
    cases canBeEncoded 4 <;> cases canBeEncoded 5 <;> cases canBeEncoded 6 <;> rfl
  rw [hfind]
  by_cases hrate : rate <;> by_cases hextended : extended <;>
    simp only [hrate, hextended, not_true_eq_false, not_false_eq_true, and_self, and_true,
      and_false, iff_true, iff_false] at h4 h5 h6 <;>
    simp only [h4, h5, h6, if_true] <;>
    refine ⟨⟨?_, ?_, ?_, ?_⟩, ?_⟩ <;> simp [hrate, hextended]

/-! ### The observations of LPP messages -/

section Extracted

variable (srcSignal : GnssRtkSatelliteSignalDataElement) (gnss : GenericGnssId) (id : SatelliteId)

theorem extractSignal_lockTime :
    ∃ ms : ℕ, (extractSignal srcSignal gnss id).lockTime = some ((ms : ℚ) / 1000) := by
  refine ⟨(lockTimeMs srcSignal.lockTimeIndicator.1.toNat).getD 0, ?_⟩
  simp [extractSignal, lockTime_eq, fromMsmLockEx]

theorem extractSignal_canBeEncodedAsMsm (v : ℕ) :
    (extractSignal srcSignal gnss id).canBeEncodedAsMsm v ↔
      (v = 4 ∨ v = 6 → ¬ (extractSignal srcSignal gnss id).HasRate) ∧
        (v = 4 ∨ v = 5 → ¬ ¬ (extractSignal srcSignal gnss id).StandardResolution) := by
  obtain ⟨ms, hlock⟩ := extractSignal_lockTime srcSignal gnss id
  set signal := extractSignal srcSignal gnss id with hsignal
  set pseudo : ℚ := srcSignal.finePseudoRange.1 * (1 / 2 ^ 29) with hpseudo
  set phase : ℚ := srcSignal.finePhaseRange.1 * (1 / 2 ^ 31) with hphase
  have hpseudoRange : signal.finePseudoRange = some pseudo := rfl
  have hphaseRange : signal.finePhaseRange = some phase := rfl
  have hratio : signal.carrierToNoiseRatio =
      srcSignal.carrierToNoiseRatio.map fun ratio => (ratio.1 : ℚ) * (1 / 2 ^ 4) := rfl
  have h400 := abs_round_sub_pos_iff (show (0 : ℚ) < 1 / 2 ^ 24 by positivity)
    (show (0 : ℚ) < 1 / 2 ^ 29 by positivity) ⟨_, hpseudo⟩
  have h401 := abs_round_sub_pos_iff (show (0 : ℚ) < 1 / 2 ^ 29 by positivity)
    (show (0 : ℚ) < 1 / 2 ^ 31 by positivity) ⟨_, hphase⟩
  have h402 := fromMsmLock_toMsmLock_iff ms
  have h403 : (signal.carrierToNoiseRatio.isSome ∧
      |(roundHalfAway signal.carrierToNoiseRatio.value : ℚ) -
        roundHalfAway (signal.carrierToNoiseRatio.value / 0.0625) * 0.0625| > 0.0001) ↔
      ¬ ∀ value ∈ signal.carrierToNoiseRatio, OnGrid 1 value := by
    cases hsrc : srcSignal.carrierToNoiseRatio with
    | none => simp [hratio, hsrc]
    | some ratio =>
      have hfine := (roundHalfAway_mul_eq_iff (show (0 : ℚ) < 0.0625 by norm_num)
        ((ratio.1 : ℚ) * (1 / 2 ^ 4))).mpr ⟨ratio.1, by norm_num⟩
      rw [hratio, hsrc, Option.map_some, Maybe.value, Option.getD_some, hfine,
        abs_round_sixteenths_iff]
      simp
  have hstandard : signal.StandardResolution ↔ OnGrid (1 / 2 ^ 24) pseudo ∧
      OnGrid (1 / 2 ^ 29) phase ∧ (∃ n ∈ kMlt2Table, (ms : ℚ) / 1000 = n / 1000) ∧
      ∀ value ∈ signal.carrierToNoiseRatio, OnGrid 1 value := by
    constructor
    · intro h
      exact ⟨h.finePseudoRange _ rfl, h.finePhaseRange _ rfl, h.lockTime _ hlock,
        h.carrierToNoiseRatio⟩
    · rintro ⟨hpseudo', hphase', hlock', hratio'⟩
      refine ⟨?_, ?_, ?_, hratio'⟩
      · rintro _ ⟨⟩
        exact hpseudo'
      · rintro _ ⟨⟩
        exact hphase'
      · intro value hvalue
        rw [hlock] at hvalue
        cases hvalue
        exact hlock'
  rw [hstandard, Signal.canBeEncodedAsMsm]
  simp only [hpseudoRange, hphaseRange, hlock, Maybe.value, Option.getD_some, h402,
    Option.isNone_some, Signal.HasRate] at h403 ⊢
  by_cases hold : v = 4 ∨ v = 5 <;> simp only [hold, and_true, decide_true] <;> grind

theorem extractSignal_level :
    Level (extractSignal srcSignal gnss id).lowestMsmVersion
        (extractSignal srcSignal gnss id).HasRate
        (¬ (extractSignal srcSignal gnss id).StandardResolution)
        ((extractSignal srcSignal gnss id).HasRate ∧
          ¬ (extractSignal srcSignal gnss id).StandardResolution) ∧
      4 ≤ (extractSignal srcSignal gnss id).lowestMsmVersion :=
  lowestVersion_level (extractSignal_canBeEncodedAsMsm srcSignal gnss id)

end Extracted

theorem Satellite.lowestMsmVersion_level {satellite : Satellite}
    (h : satellite.roughRange.isSome) :
    Level satellite.lowestMsmVersion satellite.HasRate False False ∧
      4 ≤ satellite.lowestMsmVersion := by
  have hiff : ∀ v, satellite.canBeEncodedAsMsm v ↔
      (v = 4 ∨ v = 6 → ¬ satellite.HasRate) ∧ (v = 4 ∨ v = 5 → ¬ False) := by
    intro v
    have hnone : satellite.roughRange.isNone = false := by
      rw [← Option.not_isSome, h]
      rfl
    unfold Satellite.canBeEncodedAsMsm Satellite.HasRate
    rw [hnone]
    grind
  have hlevel := lowestVersion_level hiff
  rwa [and_false] at hlevel

/-- The observations as an LPP message has them: the fields that an MSM cannot leave out are
there. -/
structure Observations.Complete (observations : Observations) : Prop where
  satellites_ne_nil : observations.satellites ≠ []
  roughRange : ∀ satellite ∈ observations.satellites, satellite.roughRange.isSome
  signals : ∀ signal ∈ observations.signals,
    ∃ srcSignal gnss id, signal = extractSignal srcSignal gnss id

theorem observationsAt_complete (time : Ts.Tai) (gnss : GenericGnssId)
    (srcObservation : GnssRtkObservations) :
    (observationsAt time gnss srcObservation).Complete where
  satellites_ne_nil := by
    have hlen := srcObservation.gnssObservationList.2.1
    simp only [observationsAt, ne_eq, List.map_eq_nil_iff]
    intro hnil
    rw [hnil, List.length_nil] at hlen
    omega
  roughRange := by
    intro satellite hmem
    obtain ⟨srcSatellite, -, rfl⟩ := List.mem_map.mp hmem
    rfl
  signals := by
    intro signal hmem
    obtain ⟨srcSatellite, -, hmem⟩ := List.mem_flatMap.mp hmem
    obtain ⟨srcSignal, -, rfl⟩ := List.mem_map.mp hmem
    exact ⟨srcSignal, gnss, _, rfl⟩

theorem Observations.Complete.withChannels {observations : Observations}
    (h : observations.Complete) (aux : Option AuxiliaryInformation) :
    (observations.withChannels aux).Complete := by
  cases aux with
  | none => exact h
  | some aux =>
    refine ⟨?_, ?_, h.signals⟩
    · simpa [Observations.withChannels] using h.satellites_ne_nil
    · intro satellite hmem
      obtain ⟨plain, hplain, rfl⟩ := List.mem_map.mp hmem
      have hrange := h.roughRange plain hplain
      split <;> exact hrange

section Extraction

variable {P : Observations → Prop}

/-- What holds of the observations of each system. -/
def RtkData.AllObservations (P : Observations → Prop) (data : RtkData) : Prop :=
  ∀ gnss o, data.observations gnss = some o → P o

theorem extractGenericElementData_allObservations
    (hP : ∀ gnss src o, extractObservations gnss src = some o → P o) {data result : RtkData}
    {src : GnssGenericAssistDataElement} (hdata : data.AllObservations P)
    (hresult : extractGenericElementData data src = some result) : result.AllObservations P := by
  have haux : ∀ data : RtkData, ∀ srcAux,
      (data.withAuxiliary srcAux).observations = data.observations := by
    intro data srcAux
    unfold RtkData.withAuxiliary
    split <;> rfl
  have hbias : ∀ data : RtkData, ∀ gnss srcBias,
      (data.withBias gnss srcBias).observations = data.observations := by
    intro data gnss srcBias
    unfold RtkData.withBias
    split
    · split <;> rfl
    · rfl
  have hresiduals : ∀ data result : RtkData, ∀ gnss srcResiduals,
      data.withResiduals gnss srcResiduals = some result →
        result.observations = data.observations := by
    intro data result gnss srcResiduals h
    unfold RtkData.withResiduals at h
    split at h
    · obtain ⟨residuals, -, rfl⟩ := Option.map_eq_some_iff.mp h
      rfl
    · obtain ⟨residuals, -, rfl⟩ := Option.map_eq_some_iff.mp h
      rfl
    · cases h
      rfl
  unfold extractGenericElementData at hresult
  split at hresult
  case h_1 =>
    cases hresult
    exact hdata
  case h_2 gnssId _ =>
    obtain ⟨observed, hobserved, hresult⟩ := Option.bind_eq_some_iff.mp hresult
    have hkept : observed.AllObservations P := by
      unfold RtkData.withObservations at hobserved
      split at hobserved
      · obtain ⟨observation, hobservation, rfl⟩ := Option.map_eq_some_iff.mp hobserved
        intro gnss o ho
        simp only [Function.update_apply, haux] at ho
        split at ho
        · cases ho
          exact hP _ _ _ hobservation
        · exact hdata gnss o ho
      · cases hobserved
        intro gnss o ho
        rw [haux] at ho
        exact hdata gnss o ho
    intro gnss o ho
    rw [hresiduals _ _ _ _ hresult, hbias] at ho
    exact hkept gnss o ho

theorem extractRtkData_allObservations
    (hP : ∀ gnss src o, extractObservations gnss src = some o → P o)
    {aGnss : AGnssProvideAssistanceData} {data : RtkData}
    (hdata : extractRtkData aGnss = some data) : data.AllObservations P := by
  have hcommon : ∀ (data : RtkData) (srcCommon : GnssCommonAssistData),
      (extractCommonAssistData data srcCommon).observations = data.observations := by
    intro data srcCommon
    unfold extractCommonAssistData
    split <;> split <;> first | rfl | (split <;> rfl)
  have hloop : ∀ (list : List GnssGenericAssistDataElement) (data : RtkData),
      data.AllObservations P → ∀ result, extractGenericAssistData data list = some result →
        result.AllObservations P := by
    intro list
    induction list with
    | nil =>
      rintro data hdata result ⟨⟩
      exact hdata
    | cons src list ih =>
      intro data hdata result hresult
      rw [extractGenericAssistData, List.foldlM_cons] at hresult
      obtain ⟨next, hnext, hresult⟩ := Option.bind_eq_some_iff.mp hresult
      exact ih next (extractGenericElementData_allObservations hP hdata hnext) result hresult
  have hstart : ∀ start : RtkData, start.observations = RtkData.new.observations →
      start.AllObservations P := by
    intro start hstart gnss o ho
    rw [hstart] at ho
    cases ho
  unfold extractRtkData at hdata
  cases hsrc : aGnss.gnssCommonAssistData with
  | none =>
    rw [hsrc] at hdata
    dsimp only at hdata
    split at hdata
    · exact hloop _ _ (hstart _ rfl) _ hdata
    · cases hdata
      exact hstart _ rfl
  | some srcCommon =>
    rw [hsrc] at hdata
    dsimp only at hdata
    split at hdata
    · exact hloop _ _ (hstart _ (hcommon _ _)) _ hdata
    · cases hdata
      exact hstart _ (hcommon _ _)

end Extraction

/-- The observations that the messages are made of. -/
theorem messageObservations_complete {aGnss : AGnssProvideAssistanceData} {data : RtkData}
    (hdata : extractRtkData aGnss = some data) (filter : MessageFilter) :
    ∀ entry ∈ messageObservations data filter, entry.2.Complete := by
  have hall : data.AllObservations Observations.Complete := by
    refine extractRtkData_allObservations ?_ hdata
    intro gnss src o ho
    obtain ⟨time, -, rfl⟩ := Option.map_eq_some_iff.mp ho
    exact observationsAt_complete time gnss src
  intro entry hmem
  obtain ⟨gnss, -, hentry⟩ := List.mem_filterMap.mp hmem
  obtain ⟨used, hused, rfl⟩ := Option.map_eq_some_iff.mp hentry
  unfold usedObservations at hused
  dsimp only at hused
  split at hused
  · cases hused
  · split at hused
    · cases hused
    · obtain ⟨o, ho, rfl⟩ := Option.map_eq_some_iff.mp hused
      exact (hall gnss o ho).withChannels data.auxiliaryInformation

/-! ### The level of all observations -/

theorem Observations.Complete.lowestMsmVersion_level {o : Observations} (h : o.Complete) :
    Level o.lowestMsmVersion
        ((∃ satellite ∈ o.satellites, satellite.HasRate) ∨ ∃ signal ∈ o.signals, signal.HasRate)
        (∃ signal ∈ o.signals, ¬ signal.StandardResolution)
        (∃ signal ∈ o.signals, signal.HasRate ∧ ¬ signal.StandardResolution) ∧
      4 ≤ o.lowestMsmVersion := by
  have hsatellite : ∀ satellite ∈ o.satellites, _ := fun satellite hmem =>
    Satellite.lowestMsmVersion_level (h.roughRange satellite hmem)
  have hsignal : ∀ signal ∈ o.signals,
      Level signal.lowestMsmVersion signal.HasRate (¬ signal.StandardResolution)
        (signal.HasRate ∧ ¬ signal.StandardResolution) ∧ 4 ≤ signal.lowestMsmVersion := by
    intro signal hmem
    obtain ⟨srcSignal, gnss, id, rfl⟩ := h.signals signal hmem
    exact extractSignal_level srcSignal gnss id
  have hne : ∀ {α : Type} (version : α → ℕ) (l : List α), (∀ a ∈ l, 4 ≤ version a) →
      ∀ v ∈ l.map version, v ≠ 0 := by
    intro α version l hl v hv
    obtain ⟨a, ha, rfl⟩ := List.mem_map.mp hv
    have := hl a ha
    omega
  have hvalue : o.lowestMsmVersion = (o.signals.map Signal.lowestMsmVersion).foldl max
      ((o.satellites.map Satellite.lowestMsmVersion).foldl max 0) := by
    rw [Observations.lowestMsmVersion,
      largestVersion_eq_foldl (hne _ _ fun a ha => (hsatellite a ha).2)]
    simp [largestVersion_eq_foldl (hne _ _ fun a ha => (hsignal a ha).2)]
  rw [hvalue]
  constructor
  · have hlevel := (Level.zero.foldl_max fun a ha => (hsatellite a ha).1).foldl_max
      fun a ha => (hsignal a ha).1
    exact hlevel.congr (by simp) (by simp) (by simp)
  · obtain ⟨satellite, hmem⟩ := List.exists_mem_of_ne_nil _ h.satellites_ne_nil
    have hle := mem_le_foldl_max (List.mem_map_of_mem hmem (f := Satellite.lowestMsmVersion)) 0
    exact ((hsatellite satellite hmem).2.trans hle).trans (le_foldl_max _ _)

/-- What the search finds for all constellations. -/
theorem lowestMsm_level {observations : List Observations} (h : ∀ o ∈ observations, o.Complete) :
    Level ((observations.map Observations.lowestMsmVersion).foldl max 0) (HasRates observations)
        (HasExtended observations) (HasBothInOne observations) ∧
      (observations ≠ [] →
        4 ≤ (observations.map Observations.lowestMsmVersion).foldl max 0) := by
  constructor
  · have hlevel := Level.zero.foldl_max fun o ho => (h o ho).lowestMsmVersion_level.1
    exact hlevel.congr (by simp [HasRates]) (by simp [HasExtended]) (by simp [HasBothInOne])
  · intro hne
    obtain ⟨o, ho⟩ := List.exists_mem_of_ne_nil _ hne
    exact (h o ho).lowestMsmVersion_level.2.trans
      (mem_le_foldl_max (List.mem_map_of_mem ho (f := Observations.lowestMsmVersion)) 0)

/-! ### The choice -/

theorem hasBothInOne_imp {observations : List Observations} (h : HasBothInOne observations) :
    HasRates observations ∧ HasExtended observations := by
  obtain ⟨o, ho, signal, hsignal, hrate, hextended⟩ := h
  exact ⟨⟨o, ho, .inr ⟨signal, hsignal, hrate⟩⟩, o, ho, signal, hsignal, hextended⟩

theorem forces_range {filter : MessageFilter} {v : ℕ} (h : filter.forces v) :
    v = 4 ∨ v = 5 ∨ v = 6 ∨ v = 7 := by
  unfold MessageFilter.forces at h
  split at h <;> simp_all

theorem enables_range {filter : MessageFilter} {v : ℕ} (h : filter.enables v) :
    v = 4 ∨ v = 5 ∨ v = 6 ∨ v = 7 := by
  unfold MessageFilter.enables at h
  split at h <;> simp_all

section Choice

variable {filter : MessageFilter} {observations : List Observations}

theorem exists_forces_iff : (∃ v, filter.forces v) ↔
    filter.forceMsm4 ∨ filter.forceMsm5 ∨ filter.forceMsm6 ∨ filter.forceMsm7 := by
  constructor
  · rintro ⟨v, hv⟩
    rcases forces_range hv with rfl | rfl | rfl | rfl <;> simp_all [MessageFilter.forces]
  · rintro (h | h | h | h)
    · exact ⟨4, h⟩
    · exact ⟨5, h⟩
    · exact ⟨6, h⟩
    · exact ⟨7, h⟩

/-- Of several forced versions the last one is taken. -/
theorem msmVersion_forced (h : ∃ v, filter.forces v) :
    filter.forces (msmVersion filter observations) := by
  obtain ⟨v, hv⟩ := h
  unfold msmVersion
  cases h7 : filter.forceMsm7
  · cases h6 : filter.forceMsm6
    · cases h5 : filter.forceMsm5
      · cases h4 : filter.forceMsm4
        · rcases forces_range hv with rfl | rfl | rfl | rfl <;>
            simp_all [MessageFilter.forces]
        · simp [h4, MessageFilter.forces]
      · simp [h5, MessageFilter.forces]
    · simp [h6, MessageFilter.forces]
  · simp [h7, MessageFilter.forces]

/-- From the lowest version up, the first one that is enabled; MSM4 if there is none. -/
theorem msmVersion_free (h : ∀ v, ¬ filter.forces v) {lowest : ℕ}
    (hlowest : (observations.map Observations.lowestMsmVersion).foldl max 0 = lowest)
    (hlo : 4 ≤ lowest) (hhi : lowest ≤ 7) :
    msmVersion filter observations =
      if lowest = 4 ∧ filter.msm4 then 4
      else if lowest ≤ 5 ∧ filter.msm5 then 5
      else if lowest ≤ 6 ∧ filter.msm6 then 6
      else if filter.msm7 then 7
      else 4 := by
  have hmax : (fun lowestMsm gnssMsm : ℕ =>
      if gnssMsm > lowestMsm then gnssMsm else lowestMsm) = max := by
    funext v w
    exact ite_gt_eq_max v w
  have h4 : filter.forceMsm4 = false := Bool.eq_false_iff.mpr (h 4)
  have h5 : filter.forceMsm5 = false := Bool.eq_false_iff.mpr (h 5)
  have h6 : filter.forceMsm6 = false := Bool.eq_false_iff.mpr (h 6)
  have h7 : filter.forceMsm7 = false := Bool.eq_false_iff.mpr (h 7)
  unfold msmVersion
  rw [hmax, hlowest, h4, h5, h6, h7]
  generalize filter.msm4 = msm4
  generalize filter.msm5 = msm5
  generalize filter.msm6 = msm6
  generalize filter.msm7 = msm7
  have hcases : lowest = 4 ∨ lowest = 5 ∨ lowest = 6 ∨ lowest = 7 := by omega
  clear hlowest hlo hhi
  rcases hcases with rfl | rfl | rfl | rfl <;> decide +revert

/-- An enabled version carries the observations. -/
theorem exists_carries_iff : (∃ v, filter.enables v ∧ Carries observations v) ↔
    filter.msm4 ∧ ¬ HasRates observations ∧ ¬ HasExtended observations ∨
      filter.msm5 ∧ ¬ HasExtended observations ∨ filter.msm6 ∧ ¬ HasRates observations ∨
      filter.msm7 := by
  constructor
  · rintro ⟨v, henables, hcarries⟩
    rcases enables_range henables with rfl | rfl | rfl | rfl <;>
      simp_all [MessageFilter.enables, Carries]
  · rintro (⟨h4, hrates, hextended⟩ | ⟨h5, hextended⟩ | ⟨h6, hrates⟩ | h7)
    · exact ⟨4, h4, fun h => absurd h hrates, fun h => absurd h hextended⟩
    · exact ⟨5, h5, fun _ => .inl rfl, fun h => absurd h hextended⟩
    · exact ⟨6, h6, fun h => absurd h hrates, fun _ => .inl rfl⟩
    · exact ⟨7, h7, fun _ => .inr rfl, fun _ => .inr rfl⟩

/-- **The choice of the version** for observations that there are: it is right unless MSM6 or
MSM4 is taken wrongly. -/
theorem rightVersion_iff (hcomplete : ∀ o ∈ observations, o.Complete) (hne : observations ≠ [])
    (hany : filter.msm4 ∨ filter.msm5 ∨ filter.msm6 ∨ filter.msm7 ∨ ∃ v, filter.forces v) :
    RightVersion filter observations (msmVersion filter observations) ↔
      ((∀ v, ¬ filter.forces v) →
        ¬ TakesMsm6 filter observations ∧ ¬ FallsBack filter observations) := by
  by_cases hfree : ∀ v, ¬ filter.forces v
  · obtain ⟨hlevel, hfour⟩ := lowestMsm_level hcomplete
    have hge := hfour hne
    have hboth : HasBothInOne observations → HasRates observations ∧ HasExtended observations :=
      hasBothInOne_imp
    have hforced : ¬ ∃ v, filter.forces v := by
      rintro ⟨v, hv⟩
      exact hfree v hv
    obtain ⟨h7, h6, h5, h4⟩ := hlevel
    unfold RightVersion
    rw [exists_carries_iff]
    generalize hlowest : (observations.map Observations.lowestMsmVersion).foldl max 0 = lowest
      at h7 h6 h5 h4 hge
    rw [msmVersion_free hfree hlowest hge h7]
    simp only [hforced, or_false] at hany
    simp only [hfree, forall_const, TakesMsm6, FallsBack, Carries]
    have hcases : lowest = 4 ∨ lowest = 5 ∨ lowest = 6 ∨ lowest = 7 := by omega
    clear hlowest hge h7 hfour
    generalize HasRates observations = rates at *
    generalize HasExtended observations = extended at *
    generalize HasBothInOne observations = both at *
    rcases hcases with rfl | rfl | rfl | rfl
    · -- neither rates nor extended resolutions: every version will do
      have hnone := h4.mp le_rfl
      grind [MessageFilter.enables]
    · -- rates alone: only MSM6 can be wrong
      have hno := h5.mp le_rfl
      have hrates : rates := by
        by_contra hrates
        exact absurd (h4.mpr ⟨hrates, hno⟩) (by omega)
      grind [MessageFilter.enables]
    · -- extended resolutions, and rates at most in other places
      have hno := h6.mp le_rfl
      have hextended : extended := by
        by_contra hextended
        exact absurd (h5.mpr hextended) (by omega)
      grind [MessageFilter.enables]
    · -- only MSM7 will do
      have hone : both := by
        by_contra hone
        exact absurd (h6.mpr hone) (by omega)
      grind [MessageFilter.enables]
  · have hforced : ∃ v, filter.forces v := by
      by_contra hnone
      exact hfree fun v hv => hnone ⟨v, hv⟩
    exact iff_of_true ⟨fun _ => msmVersion_forced hforced, fun h => absurd h hfree⟩
      fun h => absurd h hfree

end Choice

/-! ### The messages -/

/-- The number of an MSM tells its version. -/
theorem msmMessageId_spec {msm : ℕ} (hlo : 4 ≤ msm) (hhi : msm ≤ 7) (gnss : GenericGnssId) :
    1074 ≤ (msmMessageId msm.toUInt32 gnss).toUInt32.toNat ∧
      (msmMessageId msm.toUInt32 gnss).toUInt32.toNat ≤ 1127 ∧
      (msmMessageId msm.toUInt32 gnss).toUInt32.toNat % 10 = msm := by
  have hcases : msm = 4 ∨ msm = 5 ∨ msm = 6 ∨ msm = 7 := by omega
  rcases hcases with rfl | rfl | rfl | rfl <;> cases gnss <;> decide

theorem not_isMsm {message : Message} {n : UInt32} (hid : message.id = n)
    (hn : n.toNat < 1074 ∨ 1127 < n.toNat) (msm : ℕ) : ¬ message.IsMsm msm := by
  rintro ⟨hlo, hhi, gnss, heq⟩
  have hspec := msmMessageId_spec hlo hhi gnss
  rw [← heq, hid] at hspec
  omega

theorem msmMessages_isMsm {msm : ℕ} (hlo : 4 ≤ msm) (hhi : msm ≤ 7)
    (common : CommonObservationInfo) (entries : List (GenericGnssId × Observations)) :
    ∀ message ∈ msmMessages msm.toUInt32 common entries, message.IsMsm msm := by
  induction entries with
  | nil => exact fun message h => absurd h List.not_mem_nil
  | cons entry entries ih =>
    obtain ⟨gnss, observations⟩ := entry
    intro message hmem
    rcases List.mem_cons.mp hmem with rfl | hmem
    · exact ⟨hlo, hhi, gnss, rfl⟩
    · exact ih message hmem

theorem Message.IsMsm.unique {message : Message} {msm msm' : ℕ} (h : message.IsMsm msm)
    (h' : message.IsMsm msm') : msm = msm' := by
  obtain ⟨hlo, hhi, gnss, hid⟩ := h
  obtain ⟨hlo', hhi', gnss', hid'⟩ := h'
  rw [← (msmMessageId_spec hlo hhi gnss).2.2, ← (msmMessageId_spec hlo' hhi' gnss').2.2, ← hid,
    ← hid']

theorem referenceStationMessages_not_isMsm (filter : MessageFilter)
    (referenceStation : ReferenceStation)
    (physicalReferenceStation : Option PhysicalReferenceStation) (gps glo gal : Bool) (msm : ℕ) :
    ∀ message ∈ referenceStationMessages filter referenceStation physicalReferenceStation
      gps glo gal, ¬ message.IsMsm msm := by
  intro message hmem
  unfold referenceStationMessages at hmem
  rw [List.mem_append] at hmem
  rcases hmem with hmem | hmem
  · split at hmem
    · rw [List.mem_singleton.mp hmem]
      exact not_isMsm (n := 1006) rfl (.inl (by decide)) msm
    · split at hmem
      · rw [List.mem_singleton.mp hmem]
        exact not_isMsm (n := 1005) rfl (.inl (by decide)) msm
      · exact absurd hmem List.not_mem_nil
  · split at hmem
    · split at hmem
      · rw [List.mem_singleton.mp hmem]
        exact not_isMsm (n := 1032) rfl (.inl (by decide)) msm
      · exact absurd hmem List.not_mem_nil
    · exact absurd hmem List.not_mem_nil

theorem generateFrom_selects_iff {data : RtkData} {filter : MessageFilter}
    (hcomplete : ∀ entry ∈ messageObservations data filter, entry.2.Complete)
    (generator : Generator) :
    (∀ message ∈ (generator.generateFrom data filter).1, ∀ msm, message.IsMsm msm →
        RightVersion filter ((messageObservations data filter).map (·.2)) msm) ↔
      (data.commonObservationInfo.isSome → (∀ v, ¬ filter.forces v) →
        ¬ TakesMsm6 filter ((messageObservations data filter).map (·.2)) ∧
          ¬ FallsBack filter ((messageObservations data filter).map (·.2))) := by
  set observations := (messageObservations data filter).map (·.2) with hobservations
  have hall : ∀ o ∈ observations, o.Complete := by
    intro o ho
    obtain ⟨entry, hentry, rfl⟩ := List.mem_map.mp ho
    exact hcomplete entry hentry
  have hany : observations ≠ [] →
      filter.msm4 ∨ filter.msm5 ∨ filter.msm6 ∨ filter.msm7 ∨ ∃ v, filter.forces v := by
    intro hne
    obtain ⟨o, ho⟩ := List.exists_mem_of_ne_nil _ hne
    obtain ⟨entry, hentry, rfl⟩ := List.mem_map.mp ho
    obtain ⟨gnss, -, hused⟩ := List.mem_filterMap.mp hentry
    obtain ⟨used, hused, -⟩ := Option.map_eq_some_iff.mp hused
    by_contra hnone
    rw [exists_forces_iff] at hnone
    simp only [not_or, Bool.not_eq_true] at hnone
    simp [usedObservations, hnone] at hused
  obtain ⟨hlo, hhi⟩ := msmVersion_range filter observations
  have hiff := fun hne => rightVersion_iff hall hne (hany hne)
  constructor
  · intro h hsome
    by_cases hne : observations = []
    · -- without observations nothing is taken
      intro
      simp [hne, TakesMsm6, FallsBack, HasRates, HasExtended, HasBothInOne]
    · obtain ⟨common, hcommon⟩ := Option.isSome_iff_exists.mp hsome
      have hfirst : ∃ message, message ∈ msmMessages (msmVersion filter observations).toUInt32
          common (messageObservations data filter) := by
        cases hentries : messageObservations data filter with
        | nil => exact absurd (by rw [hobservations, hentries, List.map_nil]) hne
        | cons entry rest => exact ⟨_, List.mem_cons_self ..⟩
      obtain ⟨message, hmessage⟩ := hfirst
      refine (hiff hne).mp (h message ?_ _ (msmMessages_isMsm hlo hhi common _ message hmessage))
      simp only [Generator.generateFrom, List.mem_append, hcommon]
      exact .inl (.inl (.inl (.inr hmessage)))
  · intro h message hmem msm hmsm
    simp only [Generator.generateFrom, List.mem_append] at hmem
    rcases hmem with (((hmem | hmem) | hmem) | hmem) | hmem
    · split at hmem
      · split at hmem
        · exact absurd hmsm (referenceStationMessages_not_isMsm _ _ _ _ _ _ msm message hmem)
        · exact absurd hmem List.not_mem_nil
      · exact absurd hmem List.not_mem_nil
    · split at hmem
      case h_1 common hcommon =>
        have hversion := msmMessages_isMsm hlo hhi common _ message hmem
        rw [hmsm.unique hversion]
        refine (hiff ?_).mpr (h (by rw [hcommon]; rfl))
        intro hnil
        rw [List.map_eq_nil_iff.mp hnil] at hmem
        exact absurd hmem List.not_mem_nil
      case h_2 => exact absurd hmem List.not_mem_nil
    · obtain ⟨bias, -, rfl⟩ := Option.map_eq_some_iff.mp (Option.mem_toList.mp hmem)
      exact absurd hmsm (not_isMsm (n := 1230) rfl (.inr (by decide)) msm)
    · obtain ⟨residuals, -, rfl⟩ := Option.map_eq_some_iff.mp (Option.mem_toList.mp hmem)
      exact absurd hmsm (not_isMsm (n := 1030) rfl (.inl (by decide)) msm)
    · obtain ⟨residuals, -, rfl⟩ := Option.map_eq_some_iff.mp (Option.mem_toList.mp hmem)
      exact absurd hmsm (not_isMsm (n := 1031) rfl (.inl (by decide)) msm)

/-- **The choice in all runs of `generate`**: the version of the MSMs is right exactly when
MSM6 is not taken in the place of MSM7, nor MSM4 although it is not enabled. -/
theorem selectsVersion_iff (generator : Generator) (lppMessage : Option LppMessage)
    (filter : MessageFilter) :
    SelectsVersion filter generator lppMessage ↔
      ∀ data, rtkDataOf lppMessage = some data → data.commonObservationInfo.isSome →
        (∀ v, ¬ filter.forces v) →
          ¬ TakesMsm6 filter ((messageObservations data filter).map (·.2)) ∧
            ¬ FallsBack filter ((messageObservations data filter).map (·.2)) := by
  cases haGnss : lppMessage.bind LppMessage.aGnss with
  | none => simp [SelectsVersion, rtkDataOf, haGnss]
  | some aGnss =>
    cases hdata : extractRtkData aGnss with
    | none => simp [SelectsVersion, rtkDataOf, haGnss, hdata]
    | some data =>
      have hiff := generateFrom_selects_iff (messageObservations_complete hdata filter) generator
      have hgenerate : generator.generate lppMessage filter =
          some (generator.generateFrom data filter) := by
        rw [Generator.generate, haGnss]
        simp [hdata]
      have hof : rtkDataOf lppMessage = some data := by
        rw [rtkDataOf, haGnss, Option.bind_some, hdata]
      constructor
      · intro h data' hdata'
        rw [hof] at hdata'
        cases hdata'
        exact hiff.mp (h _ _ data hgenerate hof)
      · intro h messages next data' hmessages hdata'
        rw [hof] at hdata'
        rw [hgenerate] at hmessages
        cases hdata'
        cases hmessages
        exact hiff.mpr (h data hof)

/-- A signal with a rate, and with a pseudo range between two numbers of MSM5. -/
def fineSignal : GnssRtkSatelliteSignalDataElement where
  gnssSignalId := ⟨⟨0, Integer.mem⟩, none⟩
  finePseudoRange := ⟨1, Integer.mem_neg⟩
  finePhaseRange := ⟨0, Integer.mem_neg⟩
  lockTimeIndicator := ⟨0, Integer.mem⟩
  halfCycleAmbiguityIndicator := .ofBits [false]
  carrierToNoiseRatio := none
  finePhaseRangeRate := some ⟨0, Integer.mem_neg⟩

def fineObservations : GnssRtkObservations where
  epochTime := ⟨.gps, ⟨0, Integer.mem⟩, ⟨0, Integer.mem⟩, none⟩
  gnssObservationList := ⟨[
    { svId := ⟨0, Integer.mem⟩
      integerMs := none
      roughRange := ⟨0, Integer.mem⟩
      roughPhaseRangeRate := none
      gnssRtkSatelliteSignalDataList := ⟨[fineSignal], by decide⟩ }], by decide⟩

def fineAssistanceData : AGnssProvideAssistanceData :=
  { crowdedAssistanceData with
    gnssGenericAssistData := some ⟨[
      { gnssId := .gps
        gnssAuxiliaryInformation := none
        gnssRtkObservations := some fineObservations
        gloRtkBiasInformation := none
        gnssRtkResiduals := none }], by decide⟩ }

def fineMessage : LppMessage :=
  ⟨some (.provideAssistanceData (.provideAssistanceDataR9 (some fineAssistanceData)))⟩

/-- MSM5 and no other version. -/
def msm5Filter : MessageFilter :=
  { forcedFilter with msm4 := false, msm6 := false, msm7 := false, forceMsm7 := false }

def fineData : RtkData := (extractRtkData fineAssistanceData).getD RtkData.new

theorem fineData_eq : extractRtkData fineAssistanceData = some fineData := rfl

theorem fineSignal_not_standard (gnss : GenericGnssId) (id : SatelliteId) :
    ¬ (extractSignal fineSignal gnss id).StandardResolution := by
  intro h
  obtain ⟨k, hk⟩ := h.finePseudoRange _ rfl
  have hone : (1 : ℚ) = 32 * k := by
    have hvalue : ((fineSignal.finePseudoRange.1 : ℤ) : ℚ) = 1 := rfl
    rw [hvalue] at hk
    linarith
  have : (1 : ℤ) = 32 * k := by exact_mod_cast hone
  omega

/-- The signal needs MSM7; what is returned is an MSM4, with MSM5 the only one enabled. -/
theorem not_selectsVersion_fine :
    ¬ SelectsVersion msm5Filter Generator.new (some fineMessage) := by
  intro h
  have hiff := generateFrom_selects_iff (messageObservations_complete fineData_eq msm5Filter)
    Generator.new
  have hnone : ∀ v, ¬ msm5Filter.forces v := by
    intro v hv
    rcases forces_range hv with rfl | rfl | rfl | rfl <;> exact absurd hv (by decide)
  have hboth : HasBothInOne ((messageObservations fineData msm5Filter).map (·.2)) :=
    ⟨(observationsAt (Ts.Tai.ofGps ⟨Ts.fromDayTod 0 (0 + 0)⟩) .gps
      fineObservations).withChannels none, List.Mem.head _, _, List.Mem.head _, rfl,
      fineSignal_not_standard _ _⟩
  have hright := hiff.mp (h _ _ fineData rfl rfl)
  exact (hright rfl hnone).2 ⟨by decide, by decide, .inl hboth⟩

end SuplLpp.Rtcm
