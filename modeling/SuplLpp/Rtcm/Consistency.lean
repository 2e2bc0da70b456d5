import SuplLpp.Rtcm.Msm
import Mathlib.Data.List.Sort

/-!
# Masks and data of an MSM

* `decodeMsm`, a decoder that follows the masks;
* `SelfConsistent`: masks and data agree, `MsmFaithful`: and the decoder reads every value back
  under its own satellite and signal;
* `msm_consistent_iff`: that is so exactly when no satellite and no signal of a satellite is
  there twice and the cells of the cell mask are at most 64.
-/

namespace SuplLpp.Rtcm

open Asn Bits

/-! ### What a decoder reads -/

/-- The position of a satellite in the satellite mask, counted from zero. -/
def satellitePosition (id : SatelliteId) : ℕ := (id.asMsm.value - 1).toNat

/-- The position of a signal in the signal mask, counted from zero. -/
def signalPosition (id : SignalId) : ℕ := (id.asMsm.value - 1).toNat

/-- The place of a signal: the position of its satellite and its own. -/
def Signal.place (signal : Signal) : ℕ × ℕ :=
  (satellitePosition signal.satellite, signalPosition signal.id)

/-- The cells of the cell mask, satellite by satellite. -/
def cells (satelliteIds signalIds : List ℕ) : List (ℕ × ℕ) :=
  (List.range (satelliteIds.length * signalIds.length)).map fun k =>
    (satelliteIds.getD (k / signalIds.length) 0, signalIds.getD (k % signalIds.length) 0)

/-- The values of an MSM: for each field, the number of each satellite or signal. -/
structure MsmData where
  satellites : List (List (ℕ × ℕ))
  signals : List (List ((ℕ × ℕ) × ℕ))
  deriving DecidableEq

/-- One column of data: a number of `width` bits for each key. -/
def column {ι : Type} (width : ℕ) (keys : List ι) : Reader (List (ι × ℕ)) :=
  Reader.forEach (fun key => do
    let value ← Reader.nat width
    return (key, value)) keys

/-- A standard decoder: the header, the masks, then the columns that the masks announce. -/
def decodeMsm (msm : ℕ) : Reader MsmData := do
  let _ ← Reader.bits 73
  let satelliteIds ← Reader.bits 64
  let signalIds ← Reader.bits 32
  let satelliteIds := ones satelliteIds
  let signalIds := ones signalIds
  let cellIds ← Reader.bits (satelliteIds.length * signalIds.length)
  let places := select (cells satelliteIds signalIds) cellIds
  let satellites ← Reader.forEach (fun field => column field.width satelliteIds)
    (satelliteFields msm)
  let signals ← Reader.forEach (fun field => column field.width places) (signalFields msm)
  return ⟨satellites, signals⟩

section Statement

variable (observations : Observations)

/-- The bits of the satellite mask that is written. -/
def satelliteBits : List Bool := ofNat 64 (satelliteMask (msmSatellites observations)).toNat

/-- The bits of the signal mask that is written. -/
def signalBits : List Bool := ofNat 32 (signalMask (msmSignals observations)).toNat

/-- The bits of the cell mask that is written. -/
def cellBits : List Bool := cellMask (msmSatellites observations) (msmSignals observations)

/-- The masks announce the data: as many satellites and signals, in the same order. -/
structure SelfConsistent : Prop where
  satellite_count : (msmSatellites observations).length = (satelliteBits observations).count true
  cell_count : (cellBits observations).length =
    (satelliteBits observations).count true * (signalBits observations).count true
  cell_count_le : (cellBits observations).length ≤ 64
  signal_count : (msmSignals observations).length = (cellBits observations).count true
  satellite_order : (msmSatellites observations).map (satellitePosition ·.id) =
    ones (satelliteBits observations)
  signal_order : (msmSignals observations).map Signal.place =
    select (cells (ones (satelliteBits observations)) (ones (signalBits observations)))
      (cellBits observations)

/-- The values that the message is meant to carry. -/
def msmData (msm : ℕ) : MsmData where
  satellites := (satelliteFields msm).map fun field =>
    (msmSatellites observations).map fun satellite =>
      (satellitePosition satellite.id, field.raw satellite)
  signals := (signalFields msm).map fun field =>
    (msmSignals observations).map fun signal => (signal.place, field.raw signal)

/-- The message is self-consistent, and the decoder reads every value back under its own
satellite and signal; what is left is the padding of the last byte. -/
def MsmFaithful (msm : UInt32) (lastMsm : Bool) (gnss : GenericGnssId)
    (common : CommonObservationInfo) : Prop :=
  SelfConsistent observations ∧ ∃ padding < 8,
    decodeMsm msm.toNat
        (bytesBits (msmPayload msm lastMsm gnss common observations).mBuffer) =
      some (msmData observations msm.toNat, List.replicate padding false)

end Statement

/-! ### The masks -/

theorem UInt64.toNat_bit {k : ℕ} (hk : k < 64) {n : UInt64} (hn : n.toNat = k) :
    ((1 : UInt64) <<< n).toNat = 2 ^ k := by
  rw [UInt64.toNat_shiftLeft, hn, UInt64.toNat_one, Nat.one_shiftLeft, Nat.mod_eq_of_lt hk,
    Nat.mod_eq_of_lt (Nat.pow_lt_pow_right (by omega) hk)]

theorem UInt32.toNat_bit {k : ℕ} (hk : k < 32) {n : UInt32} (hn : n.toNat = k) :
    ((1 : UInt32) <<< n).toNat = 2 ^ k := by
  rw [UInt32.toNat_shiftLeft, hn, UInt32.toNat_one, Nat.one_shiftLeft, Nat.mod_eq_of_lt hk,
    Nat.mod_eq_of_lt (Nat.pow_lt_pow_right (by omega) hk)]

theorem inMask_iff {n : ℤ} {id : Maybe ℤ} :
    inMask n id = true ↔ ∃ v, id = some v ∧ 1 ≤ v ∧ v ≤ n := by
  cases id with
  | none => simp [inMask]
  | some v =>
    simp only [inMask, Maybe.value, Option.isSome_some, Bool.true_and, Option.getD_some,
      Option.some.injEq, exists_eq_left']
    exact decide_eq_true_iff

theorem satellitePosition_lt {id : SatelliteId} (h : inMask 64 id.asMsm = true) :
    satellitePosition id < 64 := by
  obtain ⟨v, hv, hlo, hhi⟩ := inMask_iff.mp h
  rw [satellitePosition, hv]
  simp only [Maybe.value, Option.getD_some]
  omega

theorem signalPosition_lt {id : SignalId} (h : inMask 32 id.asMsm = true) :
    signalPosition id < 32 := by
  obtain ⟨v, hv, hlo, hhi⟩ := inMask_iff.mp h
  rw [signalPosition, hv]
  simp only [Maybe.value, Option.getD_some]
  omega

theorem toNat_satelliteMask (satellites : List Satellite) (acc : UInt64)
    (h : ∀ satellite ∈ satellites, inMask 64 satellite.id.asMsm = true) :
    (satellites.foldl (fun ids satellite =>
      let bitIndex := satellite.id.asMsm.value - 1
      ids ||| ((1 : UInt64) <<< (UInt64.ofInt (63 - bitIndex)))) acc).toNat =
      satellites.foldl (fun ids satellite => ids ||| 2 ^ (63 - satellitePosition satellite.id))
        acc.toNat := by
  induction satellites generalizing acc with
  | nil => rfl
  | cons satellite satellites ih =>
    obtain ⟨v, hv, hlo, hhi⟩ := inMask_iff.mp (h satellite (List.mem_cons_self ..))
    have hshift : (UInt64.ofInt (63 - (satellite.id.asMsm.value - 1))).toNat =
        63 - satellitePosition satellite.id := by
      rw [satellitePosition, hv, UInt64.ofInt, UInt64.toNat_ofNat']
      simp only [Maybe.value, Option.getD_some]
      omega
    rw [List.foldl_cons, List.foldl_cons,
      ih _ fun s hs => h s (List.mem_cons_of_mem _ hs), UInt64.toNat_or,
      UInt64.toNat_bit (by omega) hshift]

theorem toNat_signalMask (signals : List Signal) (acc : UInt32)
    (h : ∀ signal ∈ signals, inMask 32 signal.id.asMsm = true) :
    (signals.foldl (fun ids signal =>
      let bitIndex := signal.id.asMsm.value - 1
      ids ||| ((1 : UInt32) <<< (UInt32.ofInt (31 - bitIndex)))) acc).toNat =
      signals.foldl (fun ids signal => ids ||| 2 ^ (31 - signalPosition signal.id))
        acc.toNat := by
  induction signals generalizing acc with
  | nil => rfl
  | cons signal signals ih =>
    obtain ⟨v, hv, hlo, hhi⟩ := inMask_iff.mp (h signal (List.mem_cons_self ..))
    have hshift : (UInt32.ofInt (31 - (signal.id.asMsm.value - 1))).toNat =
        31 - signalPosition signal.id := by
      rw [signalPosition, hv, UInt32.ofInt, UInt32.toNat_ofNat']
      simp only [Maybe.value, Option.getD_some]
      omega
    rw [List.foldl_cons, List.foldl_cons,
      ih _ fun s hs => h s (List.mem_cons_of_mem _ hs), UInt32.toNat_or,
      UInt32.toNat_bit (by omega) hshift]

/-- A mask that is built by setting a bit for each element has the positions of the elements. -/
theorem testBit_mask {α : Type} {n : ℕ} {position : α → ℕ} {l : List α}
    (h : ∀ a ∈ l, position a < n) {i : ℕ} (hi : i < n) :
    (l.foldl (fun ids a => ids ||| 2 ^ (n - 1 - position a)) 0).testBit (n - 1 - i) =
      decide (i ∈ l.map position) := by
  rw [testBit_foldl_or, Nat.zero_testBit, Bool.false_or, Bool.eq_iff_iff, List.any_eq_true,
    decide_eq_true_eq, List.mem_map]
  constructor
  · rintro ⟨a, ha, hbit⟩
    have := h a ha
    rw [Nat.testBit_two_pow, decide_eq_true_eq] at hbit
    exact ⟨a, ha, by omega⟩
  · rintro ⟨a, ha, rfl⟩
    exact ⟨a, ha, by rw [Nat.testBit_two_pow_self]⟩

theorem ofNat_mask {α : Type} {n : ℕ} {position : α → ℕ} {l : List α}
    (h : ∀ a ∈ l, position a < n) :
    ofNat n (l.foldl (fun ids a => ids ||| 2 ^ (n - 1 - position a)) 0) =
      (List.range n).map (fun i => decide (i ∈ l.map position)) := by
  apply List.ext_getElem (by simp)
  intro i hi _
  rw [length_ofNat] at hi
  rw [getElem_ofNat, testBit_mask h hi]
  simp

variable (observations : Observations)

theorem inMask_of_mem_msmSatellites {satellite : Satellite}
    (h : satellite ∈ msmSatellites observations) : inMask 64 satellite.id.asMsm = true := by
  rw [msmSatellites, List.mem_mergeSort, List.mem_filter] at h
  exact h.2

theorem inMask_of_mem_msmSignals {signal : Signal} (h : signal ∈ msmSignals observations) :
    inMask 32 signal.id.asMsm = true ∧ inMask 64 signal.satellite.asMsm = true := by
  rw [msmSignals, List.mem_mergeSort, List.mem_filter, Bool.and_eq_true] at h
  exact h.2

/-- The positions of the satellites in the message. -/
def satellitePositions : List ℕ := (msmSatellites observations).map (satellitePosition ·.id)

/-- The positions of the signals in the message. -/
def signalPositions : List ℕ := (msmSignals observations).map (signalPosition ·.id)

theorem satellitePositions_lt : ∀ i ∈ satellitePositions observations, i < 64 := by
  intro i hi
  obtain ⟨satellite, hmem, rfl⟩ := List.mem_map.mp hi
  exact satellitePosition_lt (inMask_of_mem_msmSatellites observations hmem)

theorem signalPositions_lt : ∀ i ∈ signalPositions observations, i < 32 := by
  intro i hi
  obtain ⟨signal, hmem, rfl⟩ := List.mem_map.mp hi
  exact signalPosition_lt (inMask_of_mem_msmSignals observations hmem).1

theorem satelliteBits_eq : satelliteBits observations =
    (List.range 64).map (fun i => decide (i ∈ satellitePositions observations)) := by
  rw [satelliteBits, satelliteMask, toNat_satelliteMask _ _ fun satellite h =>
    inMask_of_mem_msmSatellites observations h]
  exact ofNat_mask fun satellite h =>
    satellitePosition_lt (inMask_of_mem_msmSatellites observations h)

theorem signalBits_eq : signalBits observations =
    (List.range 32).map (fun i => decide (i ∈ signalPositions observations)) := by
  rw [signalBits, signalMask, toNat_signalMask _ _ fun signal h =>
    (inMask_of_mem_msmSignals observations h).1]
  exact ofNat_mask fun signal h =>
    signalPosition_lt (inMask_of_mem_msmSignals observations h).1

/-! ### The look-up tables -/

/-- What the loops leave: how many bits are set, and for each set bit how many are before it. -/
theorem maskLookup_spec (n : ℕ) (isSet : ℕ → Bool) :
    (maskLookup n isSet).2 = ((List.range n).filter isSet).length ∧
      ∀ i < n, isSet i = true →
        (maskLookup n isSet).1 i = ((List.range i).filter isSet).length := by
  induction n with
  | zero => exact ⟨rfl, fun i hi => absurd hi (by omega)⟩
  | succ n ih =>
    obtain ⟨hcount, hlookup⟩ := ih
    have hstep : maskLookup (n + 1) isSet =
        if isSet n then (Function.update (maskLookup n isSet).1 n (maskLookup n isSet).2,
          (maskLookup n isSet).2 + 1) else maskLookup n isSet := by
      rw [maskLookup, List.range_succ, List.foldl_append]
      rfl
    rw [hstep, List.range_succ, List.filter_append]
    by_cases hn : isSet n = true
    · rw [if_pos hn]
      refine ⟨by simp [hcount, hn], ?_⟩
      intro i hi hset
      rcases Nat.lt_succ_iff_lt_or_eq.mp hi with hlt | rfl
      · exact (Function.update_of_ne (Nat.ne_of_lt hlt) _ _).trans (hlookup i hlt hset)
      · exact (Function.update_self ..).trans hcount
    · rw [if_neg hn]
      refine ⟨by simp [hcount, hn], ?_⟩
      intro i hi hset
      rcases Nat.lt_succ_iff_lt_or_eq.mp hi with hlt | rfl
      · exact hlookup i hlt hset
      · exact absurd hset hn

theorem maskLookup_congr {n : ℕ} {p q : ℕ → Bool} (h : ∀ i < n, p i = q i) :
    maskLookup n p = maskLookup n q := by
  rw [maskLookup, maskLookup]
  apply List.foldl_ext
  rintro ⟨lookup, count⟩ i hi
  rw [h i (List.mem_range.mp hi)]

theorem UInt64.and_bit {k : ℕ} (hk : k < 64) (ids : UInt64) :
    (ids &&& ((1 : UInt64) <<< k.toUInt64) != 0) = ids.toNat.testBit k := by
  have hbit :
      (ids &&& ((1 : UInt64) <<< k.toUInt64)).toNat = (ids.toNat.testBit k).toNat * 2 ^ k := by
    rw [UInt64.toNat_and, UInt64.toNat_bit hk (by rw [Nat.toUInt64_eq, UInt64.toNat_ofNat']; omega),
      Nat.and_two_pow]
  rw [Bool.eq_iff_iff, bne_iff_ne, ne_eq, ← UInt64.toNat_inj, hbit]
  cases ids.toNat.testBit k <;> simp

theorem UInt32.and_bit {k : ℕ} (hk : k < 32) (ids : UInt32) :
    (ids &&& ((1 : UInt32) <<< k.toUInt32) != 0) = ids.toNat.testBit k := by
  have hbit :
      (ids &&& ((1 : UInt32) <<< k.toUInt32)).toNat = (ids.toNat.testBit k).toNat * 2 ^ k := by
    rw [UInt32.toNat_and, UInt32.toNat_bit hk (by rw [Nat.toUInt32_eq, UInt32.toNat_ofNat']; omega),
      Nat.and_two_pow]
  rw [Bool.eq_iff_iff, bne_iff_ne, ne_eq, ← UInt32.toNat_inj, hbit]
  cases ids.toNat.testBit k <;> simp

theorem satelliteLookup_eq : satelliteLookup (satelliteMask (msmSatellites observations)) =
    maskLookup 64 fun i => decide (i ∈ satellitePositions observations) := by
  apply maskLookup_congr
  intro i hi
  rw [UInt64.and_bit (by omega), satelliteMask, toNat_satelliteMask _ _ fun satellite h =>
    inMask_of_mem_msmSatellites observations h]
  exact testBit_mask (fun satellite h =>
    satellitePosition_lt (inMask_of_mem_msmSatellites observations h)) hi

theorem signalLookup_eq : signalLookup (signalMask (msmSignals observations)) =
    maskLookup 32 fun i => decide (i ∈ signalPositions observations) := by
  apply maskLookup_congr
  intro i hi
  rw [UInt32.and_bit (by omega), signalMask, toNat_signalMask _ _ fun signal h =>
    (inMask_of_mem_msmSignals observations h).1]
  exact testBit_mask (fun signal h =>
    signalPosition_lt (inMask_of_mem_msmSignals observations h).1) hi

/-- The satellites that the mask announces. -/
theorem ones_satelliteBits : ones (satelliteBits observations) =
    (List.range 64).filter fun i => decide (i ∈ satellitePositions observations) := by
  rw [satelliteBits_eq, ones_map_range]

/-- The signals that the mask announces. -/
theorem ones_signalBits : ones (signalBits observations) =
    (List.range 32).filter fun i => decide (i ∈ signalPositions observations) := by
  rw [signalBits_eq, ones_map_range]

/-- The number of a position that is set is its index among the set positions. -/
theorem getElem?_maskLookup {n : ℕ} {isSet : ℕ → Bool} {i : ℕ} (hi : i < n)
    (hset : isSet i = true) :
    ((List.range n).filter isSet)[(maskLookup n isSet).1 i]? = some i := by
  rw [(maskLookup_spec n isSet).2 i hi hset]
  exact getElem?_filter_range hi hset

/-! ### The cell mask -/

theorem length_cellData (f g : ℕ → ℕ) (n : ℕ) (signals : List Signal) :
    (cellData f g n signals).length = 64 := by
  have h : ∀ cells : List Bool, (signals.foldl (fun cells signal =>
      let cellIndex := f (signal.satellite.asMsm.value - 1).toNat * n +
        g (signal.id.asMsm.value - 1).toNat
      if cellIndex ≥ 64 then cells else cells.set cellIndex true) cells).length = cells.length := by
    induction signals with
    | nil => intro cells; rfl
    | cons signal signals ih =>
      intro cells
      rw [List.foldl_cons, ih]
      dsimp only
      split
      · rfl
      · exact List.length_set
  rw [cellData, h, List.length_replicate]

/-- A cell is set when a signal has it. -/
theorem getD_cellData {f g : ℕ → ℕ} {n : ℕ} {signals : List Signal} {k : ℕ} (hk : k < 64) :
    (cellData f g n signals).getD k false =
      signals.any fun signal => decide (f signal.place.1 * n + g signal.place.2 = k) := by
  have h : ∀ cells : List Bool, cells.length = 64 → (signals.foldl (fun cells signal =>
      let cellIndex := f (signal.satellite.asMsm.value - 1).toNat * n +
        g (signal.id.asMsm.value - 1).toNat
      if cellIndex ≥ 64 then cells else cells.set cellIndex true) cells).getD k false =
      (cells.getD k false ||
        signals.any fun signal => decide (f signal.place.1 * n + g signal.place.2 = k)) := by
    induction signals with
    | nil => intro cells _; simp
    | cons signal signals ih =>
      intro cells hlen
      rw [List.foldl_cons, List.any_cons, ← Bool.or_assoc]
      dsimp only
      change List.getD (List.foldl _ (if f signal.place.1 * n + g signal.place.2 ≥ 64 then cells
        else cells.set (f signal.place.1 * n + g signal.place.2) true) signals) k false = _
      by_cases hge : f signal.place.1 * n + g signal.place.2 ≥ 64
      · -- beyond the array nothing is set
        rw [if_pos hge, ih cells hlen, decide_eq_false (by omega), Bool.or_false]
      · rw [if_neg hge, ih _ (by rw [List.length_set, hlen])]
        congr 1
        rw [List.getD_eq_getElem?_getD, List.getD_eq_getElem?_getD, List.getElem?_set]
        by_cases heq : f signal.place.1 * n + g signal.place.2 = k
        · rw [if_pos heq, if_pos (by omega), decide_eq_true heq, Bool.or_true]
          rfl
        · rw [if_neg heq, decide_eq_false heq, Bool.or_false]
  rw [cellData, h _ (List.length_replicate ..), List.getD_replicate, Bool.false_or]
  exact hk

section Cells

variable {satelliteIds signalIds : List ℕ}

theorem div_mod_lt {k m n : ℕ} (hk : k < m * n) : k / n < m ∧ k % n < n := by
  have hpos : 0 < n := by
    apply Nat.pos_of_ne_zero
    rintro rfl
    omega
  exact ⟨Nat.div_lt_of_lt_mul (by rwa [Nat.mul_comm]), Nat.mod_lt k hpos⟩

theorem mem_cells {place : ℕ × ℕ} :
    place ∈ cells satelliteIds signalIds ↔ place.1 ∈ satelliteIds ∧ place.2 ∈ signalIds := by
  rw [cells, List.mem_map]
  constructor
  · rintro ⟨k, hk, rfl⟩
    rw [List.mem_range] at hk
    obtain ⟨hdiv, hmod⟩ := div_mod_lt hk
    rw [List.getD_eq_getElem _ _ hdiv, List.getD_eq_getElem _ _ hmod]
    exact ⟨List.getElem_mem _, List.getElem_mem _⟩
  · rintro ⟨hsat, hsig⟩
    obtain ⟨i, hi, hsat⟩ := List.mem_iff_getElem.mp hsat
    obtain ⟨j, hj, hsig⟩ := List.mem_iff_getElem.mp hsig
    refine ⟨i * signalIds.length + j, ?_, ?_⟩
    · rw [List.mem_range]
      calc i * signalIds.length + j < i * signalIds.length + signalIds.length := by omega
        _ = (i + 1) * signalIds.length := by ring
        _ ≤ satelliteIds.length * signalIds.length := Nat.mul_le_mul_right _ hi
    · rw [Nat.mul_comm, Nat.mul_add_div (by omega), Nat.div_eq_of_lt hj, Nat.add_zero,
        Nat.mul_add_mod, Nat.mod_eq_of_lt hj, List.getD_eq_getElem _ _ hi,
        List.getD_eq_getElem _ _ hj, hsat, hsig]

/-- The order of places: first the satellite, then the signal. -/
def PlaceLt (a b : ℕ × ℕ) : Prop := a.1 < b.1 ∨ a.1 = b.1 ∧ a.2 < b.2

theorem PlaceLt.asymm (a b : ℕ × ℕ) (h : PlaceLt a b) : ¬ PlaceLt b a := by
  unfold PlaceLt at *
  omega

theorem cells_sorted (hsat : satelliteIds.Pairwise (· < ·)) (hsig : signalIds.Pairwise (· < ·)) :
    (cells satelliteIds signalIds).Pairwise PlaceLt := by
  rw [cells, List.pairwise_map]
  apply List.pairwise_lt_range.imp_of_mem
  intro a b ha hb hab
  rw [List.mem_range] at ha hb
  obtain ⟨hadiv, hamod⟩ := div_mod_lt ha
  obtain ⟨hbdiv, hbmod⟩ := div_mod_lt hb
  rw [PlaceLt, List.getD_eq_getElem _ _ hadiv, List.getD_eq_getElem _ _ hbdiv,
    List.getD_eq_getElem _ _ hamod, List.getD_eq_getElem _ _ hbmod]
  rcases Nat.lt_or_eq_of_le (Nat.div_le_div_right (c := signalIds.length) hab.le) with hlt | heq
  · exact .inl (List.pairwise_iff_getElem.mp hsat _ _ hadiv hbdiv hlt)
  · refine .inr ⟨by simp only [heq], ?_⟩
    apply List.pairwise_iff_getElem.mp hsig _ _ hamod hbmod
    have ha' := Nat.div_add_mod a signalIds.length
    have hb' := Nat.div_add_mod b signalIds.length
    rw [heq] at ha'
    omega

/-- The number of a cell leads back to its place. -/
theorem cell_index_iff {a b i j k : ℕ} (hsat : satelliteIds.Nodup) (hsig : signalIds.Nodup)
    (hi : satelliteIds[i]? = some a) (hj : signalIds[j]? = some b)
    (hk : k < satelliteIds.length * signalIds.length) :
    i * signalIds.length + j = k ↔
      (a, b) = (satelliteIds.getD (k / signalIds.length) 0,
        signalIds.getD (k % signalIds.length) 0) := by
  obtain ⟨hdiv, hmod⟩ := div_mod_lt hk
  obtain ⟨hilt, hia⟩ := List.getElem?_eq_some_iff.mp hi
  obtain ⟨hjlt, hjb⟩ := List.getElem?_eq_some_iff.mp hj
  rw [List.getD_eq_getElem _ _ hdiv, List.getD_eq_getElem _ _ hmod, Prod.mk.injEq, ← hia, ← hjb,
    hsat.getElem_inj_iff, hsig.getElem_inj_iff]
  constructor
  · rintro rfl
    constructor
    · rw [Nat.mul_comm, Nat.mul_add_div (by omega), Nat.div_eq_of_lt hjlt, Nat.add_zero]
    · rw [Nat.mul_comm, Nat.mul_add_mod, Nat.mod_eq_of_lt hjlt]
  · rintro ⟨rfl, rfl⟩
    exact Nat.div_add_mod' k signalIds.length

end Cells

/-- The satellites that the mask announces. -/
def satelliteIds : List ℕ := ones (satelliteBits observations)

/-- The signals that the mask announces. -/
def signalIds : List ℕ := ones (signalBits observations)

/-- The places of the signals in the message. -/
def places : List (ℕ × ℕ) := (msmSignals observations).map Signal.place

theorem mem_satelliteIds {i : ℕ} :
    i ∈ satelliteIds observations ↔ i ∈ satellitePositions observations := by
  rw [satelliteIds, ones_satelliteBits, List.mem_filter, List.mem_range, decide_eq_true_eq]
  exact ⟨fun h => h.2, fun h => ⟨satellitePositions_lt observations i h, h⟩⟩

theorem mem_signalIds {i : ℕ} :
    i ∈ signalIds observations ↔ i ∈ signalPositions observations := by
  rw [signalIds, ones_signalBits, List.mem_filter, List.mem_range, decide_eq_true_eq]
  exact ⟨fun h => h.2, fun h => ⟨signalPositions_lt observations i h, h⟩⟩

theorem satelliteIds_sorted : (satelliteIds observations).Pairwise (· < ·) := by
  rw [satelliteIds, ones_satelliteBits]
  exact filter_range_sorted ..

theorem signalIds_sorted : (signalIds observations).Pairwise (· < ·) := by
  rw [signalIds, ones_signalBits]
  exact filter_range_sorted ..

theorem cellBits_eq_take : ∃ data : List Bool, data.length = 64 ∧
    cellBits observations =
      data.take (min ((satelliteIds observations).length * (signalIds observations).length) 64) ∧
    ((∀ place ∈ places observations, place.1 ∈ satelliteIds observations) → ∀ k < 64,
      k < (satelliteIds observations).length * (signalIds observations).length →
      data.getD k false =
        decide ((cells (satelliteIds observations) (signalIds observations)).getD k (0, 0) ∈
          places observations)) := by
  set f := maskLookup 64 fun i => decide (i ∈ satellitePositions observations) with hf
  set g := maskLookup 32 fun i => decide (i ∈ signalPositions observations) with hg
  have hfcount : f.2 = (satelliteIds observations).length := by
    rw [hf, (maskLookup_spec _ _).1, satelliteIds, ones_satelliteBits]
  have hgcount : g.2 = (signalIds observations).length := by
    rw [hg, (maskLookup_spec _ _).1, signalIds, ones_signalBits]
  refine ⟨cellData f.1 g.1 g.2 (msmSignals observations), length_cellData .., ?_, ?_⟩
  · rw [cellBits, cellMask, satelliteLookup_eq, signalLookup_eq, ← hf, ← hg]
    dsimp only
    have hmin : ∀ n : ℕ, (if n > 64 then 64 else n) = min n 64 := by
      intro n
      split <;> omega
    rw [← hfcount, ← hgcount, hmin]
  · intro hsat k hk hlt
    rw [getD_cellData hk, Bool.eq_iff_iff, List.any_eq_true, decide_eq_true_eq]
    have hcell : (cells (satelliteIds observations) (signalIds observations)).getD k (0, 0) =
        ((satelliteIds observations).getD (k / (signalIds observations).length) 0,
          (signalIds observations).getD (k % (signalIds observations).length) 0) := by
      rw [cells, List.getD_eq_getElem?_getD, List.getElem?_map, List.getElem?_range hlt]
      rfl
    have hindex : ∀ signal ∈ msmSignals observations,
        (f.1 signal.place.1 * g.2 + g.1 signal.place.2 = k ↔
          signal.place =
            (cells (satelliteIds observations) (signalIds observations)).getD k (0, 0)) := by
      intro signal hmem
      have hplace := hsat signal.place (List.mem_map_of_mem hmem)
      have hsig : signal.place.2 ∈ signalPositions observations := List.mem_map_of_mem hmem
      rw [mem_satelliteIds] at hplace
      have hi : (satelliteIds observations)[f.1 signal.place.1]? = some signal.place.1 := by
        rw [satelliteIds, ones_satelliteBits]
        exact getElem?_maskLookup (satellitePositions_lt observations _ hplace)
          (decide_eq_true hplace)
      have hj : (signalIds observations)[g.1 signal.place.2]? = some signal.place.2 := by
        rw [signalIds, ones_signalBits]
        exact getElem?_maskLookup (signalPositions_lt observations _ hsig) (decide_eq_true hsig)
      rw [hgcount, hcell]
      exact cell_index_iff ((satelliteIds_sorted observations).imp Nat.ne_of_lt)
        ((signalIds_sorted observations).imp Nat.ne_of_lt) hi hj hlt
    rw [places, List.mem_map]
    constructor
    · rintro ⟨signal, hmem, h⟩
      exact ⟨signal, hmem, (hindex signal hmem).mp (of_decide_eq_true h)⟩
    · rintro ⟨signal, hmem, h⟩
      exact ⟨signal, hmem, decide_eq_true ((hindex signal hmem).mpr h)⟩

theorem length_cellBits : (cellBits observations).length =
    min ((satelliteIds observations).length * (signalIds observations).length) 64 := by
  obtain ⟨data, hlen, heq, -⟩ := cellBits_eq_take observations
  rw [heq, List.length_take, hlen]
  omega

/-- When all cells fit, the cell mask shows the places of the signals. -/
theorem cellBits_eq
    (hle : (satelliteIds observations).length * (signalIds observations).length ≤ 64)
    (hsat : ∀ place ∈ places observations, place.1 ∈ satelliteIds observations) :
    cellBits observations =
      (cells (satelliteIds observations) (signalIds observations)).map
        (fun place => decide (place ∈ places observations)) := by
  obtain ⟨data, hlen, heq, hdata⟩ := cellBits_eq_take observations
  have hcells : (cells (satelliteIds observations) (signalIds observations)).length =
      (satelliteIds observations).length * (signalIds observations).length := by
    simp [cells]
  rw [heq, min_eq_left hle]
  apply List.ext_getElem
  · rw [List.length_take, List.length_map, hcells, hlen]
    omega
  · intro k hk hk'
    rw [List.length_map] at hk'
    have h := hdata hsat k (by omega) (by omega)
    rw [List.getD_eq_getElem _ _ (by omega), List.getD_eq_getElem _ _ hk'] at h
    rw [List.getElem_take, List.getElem_map, h]

/-! ### When the masks agree with the data -/

theorem count_true_eq (bs : List Bool) : bs.count true = (ones bs).length := by
  have h : bs = (List.range bs.length).map fun i => bs.getD i false := by
    apply List.ext_getElem (by simp)
    intro i hi _
    rw [List.getElem_map, List.getElem_range, List.getD_eq_getElem _ _ hi]
  conv_lhs => rw [h]
  rw [count_true_map, ones]

/-- A list has no element twice when it is as long as one that lists the elements once. -/
theorem nodup_iff_length {α : Type} {l m : List α} (hm : m.Nodup) (h : ∀ x, x ∈ l ↔ x ∈ m) :
    l.Nodup ↔ l.length = m.length := by
  constructor
  · intro hl
    exact ((List.perm_ext_iff_of_nodup hl hm).mpr h).length_eq
  · intro hlen
    have hsub : m.Subperm l := List.subperm_of_subset hm fun x hx => (h x).mpr hx
    exact (hsub.perm_of_length_le (by omega)).nodup_iff.mp hm

/-- A list of positions without repetition that come from the numbers `l`. -/
theorem length_eq_dedup {ids : List ℕ} {l : List ℤ} (hids : ids.Nodup) (hl : ∀ n ∈ l, 1 ≤ n)
    (h : ∀ i, i ∈ ids ↔ ∃ n ∈ l, (n - 1).toNat = i) : ids.length = l.dedup.length := by
  have hnodup : (l.dedup.map fun n => (n - 1).toNat).Nodup := by
    apply (List.nodup_dedup _).map_on
    intro a ha b hb hab
    have := hl a (List.mem_dedup.mp ha)
    have := hl b (List.mem_dedup.mp hb)
    omega
  have hlength : (l.dedup.map fun n => (n - 1).toNat).length = l.dedup.length :=
    List.length_map _
  rw [← hlength]
  apply List.Perm.length_eq
  rw [List.perm_ext_iff_of_nodup hids hnodup]
  intro i
  rw [h, List.mem_map]
  simp only [List.mem_dedup]

theorem satellitePositions_sorted : (satellitePositions observations).Pairwise (· ≤ ·) := by
  rw [satellitePositions, List.pairwise_map]
  have hsorted : (msmSatellites observations).Pairwise fun a b : Satellite =>
      decide (a.id.asMsm.value ≤ b.id.asMsm.value) := by
    apply List.pairwise_mergeSort
    · intro a b c
      simp only [decide_eq_true_eq]
      omega
    · intro a b
      simp only [Bool.or_eq_true, decide_eq_true_eq]
      omega
  apply hsorted.imp
  intro a b hab
  rw [decide_eq_true_eq] at hab
  unfold satellitePosition
  omega

theorem places_sorted : (places observations).Pairwise fun a b => PlaceLt a b ∨ a = b := by
  rw [places, List.pairwise_map]
  have hsorted : (msmSignals observations).Pairwise fun a b : Signal =>
      decide (a.satellite.asMsm.value < b.satellite.asMsm.value ∨
        a.satellite.asMsm.value = b.satellite.asMsm.value ∧
          a.id.asMsm.value ≤ b.id.asMsm.value) := by
    apply List.pairwise_mergeSort
    · intro a b c
      simp only [decide_eq_true_eq]
      omega
    · intro a b
      simp only [Bool.or_eq_true, decide_eq_true_eq]
      omega
  apply hsorted.imp_of_mem
  intro a b ha hb hab
  obtain ⟨hasig, hasat⟩ := inMask_of_mem_msmSignals observations ha
  obtain ⟨hbsig, hbsat⟩ := inMask_of_mem_msmSignals observations hb
  obtain ⟨_, hva, _, _⟩ := inMask_iff.mp hasig
  obtain ⟨_, hwa, _, _⟩ := inMask_iff.mp hasat
  obtain ⟨_, hvb, _, _⟩ := inMask_iff.mp hbsig
  obtain ⟨_, hwb, _, _⟩ := inMask_iff.mp hbsat
  rw [decide_eq_true_eq, hva, hwa, hvb, hwb] at hab
  simp only [Maybe.value, Option.getD_some] at hab
  simp only [PlaceLt, Signal.place, satellitePosition, signalPosition, hva, hwa, hvb, hwb,
    Maybe.value, Option.getD_some, Prod.mk.injEq]
  omega

section Agreement

variable (hsat : ∀ place ∈ places observations, place.1 ∈ satelliteIds observations)

include hsat

theorem select_cellBits
    (hle : (satelliteIds observations).length * (signalIds observations).length ≤ 64) :
    select (cells (satelliteIds observations) (signalIds observations)) (cellBits observations) =
      (cells (satelliteIds observations) (signalIds observations)).filter
        (fun place => decide (place ∈ places observations)) := by
  rw [cellBits_eq observations hle hsat, select_map]

theorem mem_filter_cells (place : ℕ × ℕ) : place ∈ places observations ↔
    place ∈ (cells (satelliteIds observations) (signalIds observations)).filter
      (fun place => decide (place ∈ places observations)) := by
  rw [List.mem_filter, mem_cells, decide_eq_true_eq]
  constructor
  · intro h
    refine ⟨⟨hsat place h, ?_⟩, h⟩
    rw [mem_signalIds]
    obtain ⟨signal, hmem, rfl⟩ := List.mem_map.mp h
    exact List.mem_map_of_mem hmem
  · exact fun h => h.2

/-- Masks and data agree when every satellite and every signal is there once and the cells
fit. -/
theorem selfConsistent_iff : SelfConsistent observations ↔
    (satellitePositions observations).Nodup ∧ (places observations).Nodup ∧
      (satelliteIds observations).length * (signalIds observations).length ≤ 64 := by
  have hcells := cells_sorted (satelliteIds_sorted observations) (signalIds_sorted observations)
  have hfilter := hcells.filter fun place => decide (place ∈ places observations)
  have hnodup := hfilter.imp (S := (· ≠ ·)) fun {a b} h => by
    rintro rfl
    exact PlaceLt.asymm a a h h
  have hsatellites := nodup_iff_length ((satelliteIds_sorted observations).imp Nat.ne_of_lt)
    fun i => (mem_satelliteIds observations).symm
  have hplaces := nodup_iff_length hnodup (mem_filter_cells observations hsat)
  have hlength : (satellitePositions observations).length = (msmSatellites observations).length :=
    List.length_map ..
  have hplacesLength : (places observations).length = (msmSignals observations).length :=
    List.length_map ..
  have hsatCount : (satelliteBits observations).count true = (satelliteIds observations).length :=
    count_true_eq _
  have hsigCount : (signalBits observations).count true = (signalIds observations).length :=
    count_true_eq _
  have hcellCount :
      (satelliteIds observations).length * (signalIds observations).length ≤ 64 →
      (cellBits observations).count true =
        ((cells (satelliteIds observations) (signalIds observations)).filter
          (fun place => decide (place ∈ places observations))).length := by
    intro hle
    rw [cellBits_eq observations hle hsat, count_true_map]
  have hcellLength := length_cellBits observations
  constructor
  · intro h
    have hle : (satelliteIds observations).length * (signalIds observations).length ≤ 64 := by
      rw [← hsatCount, ← hsigCount, ← h.cell_count]
      exact h.cell_count_le
    refine ⟨hsatellites.mpr ?_, hplaces.mpr ?_, hle⟩
    · rw [hlength, h.satellite_count, hsatCount]
    · rw [hplacesLength, h.signal_count, hcellCount hle]
  · rintro ⟨hsatNodup, hsigNodup, hle⟩
    refine ⟨?_, ?_, ?_, ?_, ?_, ?_⟩
    · rw [← hlength, hsatellites.mp hsatNodup, hsatCount]
    · rw [hcellLength, min_eq_left hle, hsatCount, hsigCount]
    · omega
    · rw [← hplacesLength, hplaces.mp hsigNodup, hcellCount hle]
    · -- both lists are in strict order and have the same elements
      apply eq_of_strict_order (fun a b => Nat.lt_asymm) _ (satelliteIds_sorted observations)
        fun i => (mem_satelliteIds observations).symm
      exact ((satellitePositions_sorted observations).and hsatNodup).imp
        fun h => Nat.lt_of_le_of_ne h.1 h.2
    · change places observations = select (cells (satelliteIds observations)
        (signalIds observations)) (cellBits observations)
      rw [select_cellBits observations hsat hle]
      apply eq_of_strict_order PlaceLt.asymm _ hfilter (mem_filter_cells observations hsat)
      exact ((places_sorted observations).and hsigNodup).imp fun h => h.1.resolve_right h.2

end Agreement

/-! ### The decoder -/

/-- A column is read back under its keys. -/
theorem reads_column {κ ι : Type} (key : κ → ι) (width : ℕ) (raw : κ → ℕ) (l : List κ)
    (h : ∀ a ∈ l, raw a < 2 ^ width) :
    Reads (column width (l.map key)) (l.flatMap fun a => ofNat width (raw a))
      (l.map fun a => (key a, raw a)) := by
  apply Reads.forEach key
  intro a ha
  have hread : Reads (do
      let value ← Reader.nat width
      return (key a, value)) (ofNat width (raw a) ++ []) (key a, raw a % 2 ^ width) :=
    (Reads.nat width (raw a)).bind (Reads.pure _)
  rw [List.append_nil, Nat.mod_eq_of_lt (h a ha)] at hread
  exact hread

/-- All columns of a block, field by field. -/
theorem reads_columns {φ κ ι : Type} (key : κ → ι) (width : φ → ℕ) (raw : φ → κ → ℕ)
    (fields : List φ) (l : List κ) (h : ∀ field a, raw field a < 2 ^ width field) :
    Reads (Reader.forEach (fun field => column (width field) (l.map key)) fields)
      (fields.flatMap fun field => l.flatMap fun a => ofNat (width field) (raw field a))
      (fields.map fun field => l.map fun a => (key a, raw field a)) := by
  have hread : Reads
      (Reader.forEach (fun field => column (width field) (l.map key))
        (fields.map fun field => field)) _ _ :=
    Reads.forEach (fun field => field) fun field _ =>
      reads_column key (width field) (raw field) l fun a _ => h field a
  rwa [List.map_id'] at hread

theorem SatelliteField.raw_lt (field : SatelliteField) (satellite : Satellite) :
    field.raw satellite < 2 ^ field.width := by
  apply (toNat_lt _).trans_le
  exact Nat.pow_le_pow_right (by omega) (by rw [List.length_take]; omega)

theorem SignalField.raw_lt (field : SignalField) (signal : Signal) :
    field.raw signal < 2 ^ field.width := by
  apply (toNat_lt _).trans_le
  exact Nat.pow_le_pow_right (by omega) (by rw [List.length_take]; omega)

/-- When masks and data agree, the decoder reads back what was written. -/
theorem SelfConsistent.reads {observations : Observations} (h : SelfConsistent observations)
    (msm : ℕ) (header : List Bool) (hheader : header.length = 73) :
    Reads (decodeMsm msm)
      (header ++ (satelliteBits observations ++ (signalBits observations ++
        (cellBits observations ++
          ((satelliteFields msm).flatMap (satelliteColumn (msmSatellites observations)) ++
            ((signalFields msm).flatMap (signalColumn (msmSignals observations)) ++ []))))))
      (msmData observations msm) := by
  have hbits : ∀ {w : ℕ} {bs : List Bool}, bs.length = w → Reads (Reader.bits w) bs bs := by
    rintro w bs rfl
    exact Reads.bits bs
  have hcells : (cellBits observations).length =
      (ones (satelliteBits observations)).length * (ones (signalBits observations)).length := by
    rw [h.cell_count, count_true_eq, count_true_eq]
  have hsatellites : Reads
      (Reader.forEach (fun field => column field.width (ones (satelliteBits observations)))
        (satelliteFields msm))
      ((satelliteFields msm).flatMap (satelliteColumn (msmSatellites observations)))
      (msmData observations msm).satellites := by
    rw [← h.satellite_order]
    exact reads_columns (fun satellite : Satellite => satellitePosition satellite.id)
      SatelliteField.width SatelliteField.raw (satelliteFields msm) (msmSatellites observations)
      SatelliteField.raw_lt
  have hsignals : Reads
      (Reader.forEach (fun field => column field.width
        (select (cells (ones (satelliteBits observations)) (ones (signalBits observations)))
          (cellBits observations))) (signalFields msm))
      ((signalFields msm).flatMap (signalColumn (msmSignals observations)))
      (msmData observations msm).signals := by
    rw [← h.signal_order]
    exact reads_columns Signal.place SignalField.width SignalField.raw (signalFields msm)
      (msmSignals observations) SignalField.raw_lt
  exact (hbits hheader).bind ((hbits (length_ofNat ..)).bind ((hbits (length_ofNat ..)).bind
    ((hbits hcells).bind (hsatellites.bind (hsignals.bind (Reads.pure _))))))

/-- A message is faithful when it is self-consistent. -/
theorem msmFaithful_iff_selfConsistent (msm : UInt32) (lastMsm : Bool) (gnss : GenericGnssId)
    (common : CommonObservationInfo) :
    MsmFaithful observations msm lastMsm gnss common ↔ SelfConsistent observations := by
  constructor
  · exact fun h => h.1
  · intro h
    refine ⟨h, ?_⟩
    obtain ⟨bs, hlen, hholds⟩ := msmPayload_holds msm lastMsm gnss common observations
    obtain ⟨padding, hpadding, hbytes⟩ := hholds.bits_eq
    have hread := h.reads msm.toNat (ofNat 12 (msmMessageId msm gnss).toNat ++ bs) (by simp [hlen])
      (List.replicate padding false)
    refine ⟨padding, hpadding, ?_⟩
    rw [hbytes, ← hread]
    simp only [satelliteBits, signalBits, cellBits, List.append_assoc, List.append_nil]

/-! ### The element of the message -/

section Element

variable (gnss : GenericGnssId) (src : GnssRtkObservations)

/-- The RTCM numbers of the signals of a satellite; a signal without a number is left out. -/
def rtcmSignals (srcSatellite : GnssRtkSatelliteDataElement) : List ℤ :=
  srcSatellite.gnssRtkSatelliteSignalDataList.1.filterMap fun srcSignal =>
    (signalId srcSignal gnss).asMsm

/-- The element fits the masks: no satellite is there twice, no signal of a satellite is there
twice, and the cells are at most 64. -/
structure FitsMasks : Prop where
  satellites_nodup : (src.gnssObservationList.1.map (·.svId.1)).Nodup
  signals_nodup : ∀ srcSatellite ∈ src.gnssObservationList.1,
    (rtcmSignals gnss srcSatellite).Nodup
  cells_le : src.gnssObservationList.1.length *
    (src.gnssObservationList.1.flatMap (rtcmSignals gnss)).dedup.length ≤ 64

theorem asMsm_satelliteId (srcSatellite : GnssRtkSatelliteDataElement) :
    (satelliteId srcSatellite gnss).asMsm = some (srcSatellite.svId.1 + 1) := by
  obtain ⟨h0, h63⟩ := srcSatellite.svId.2
  exact SatelliteId.asMsm_fromLpp h0 (by omega)

theorem satellitePosition_satelliteId (srcSatellite : GnssRtkSatelliteDataElement) :
    satellitePosition (satelliteId srcSatellite gnss) = srcSatellite.svId.1.toNat := by
  rw [satellitePosition, asMsm_satelliteId]
  simp [Maybe.value]

theorem inMask_satelliteId (srcSatellite : GnssRtkSatelliteDataElement) :
    inMask 64 (satelliteId srcSatellite gnss).asMsm = true := by
  obtain ⟨h0, h63⟩ := srcSatellite.svId.2
  rw [asMsm_satelliteId, inMask_iff]
  exact ⟨_, rfl, by omega, by omega⟩

variable (time : Ts.Tai) (aux : Option AuxiliaryInformation)

theorem withChannels_ids (observations : Observations) :
    (observations.withChannels aux).satellites.map (·.id) =
      observations.satellites.map (·.id) := by
  cases aux with
  | none => rfl
  | some aux =>
    simp only [Observations.withChannels, List.map_map]
    apply List.map_congr_left
    intro satellite _
    simp only [Function.comp_apply]
    split <;> rfl

theorem withChannels_signals (observations : Observations) :
    (observations.withChannels aux).signals = observations.signals := by
  cases aux <;> rfl

/-- All satellites of the element are in the message. -/
theorem satellitePositions_perm :
    (satellitePositions ((observationsAt time gnss src).withChannels aux)).Perm
      (src.gnssObservationList.1.map (·.svId.1.toNat)) := by
  set observations := (observationsAt time gnss src).withChannels aux with hobs
  have hids : observations.satellites.map (·.id) =
      src.gnssObservationList.1.map (satelliteId · gnss) := by
    rw [hobs, withChannels_ids, observationsAt, List.map_map]
    rfl
  have hall : (observations.satellites.filter fun satellite => inMask 64 satellite.id.asMsm) =
      observations.satellites := by
    rw [List.filter_eq_self]
    intro satellite hmem
    have hid : satellite.id ∈ observations.satellites.map (·.id) := List.mem_map_of_mem hmem
    rw [hids] at hid
    obtain ⟨srcSatellite, -, hid⟩ := List.mem_map.mp hid
    rw [← hid]
    exact inMask_satelliteId gnss srcSatellite
  have hperm := (List.mergeSort_perm observations.satellites
    fun a b => decide (a.id.asMsm.value ≤ b.id.asMsm.value)).map (satellitePosition ·.id)
  have hmap : observations.satellites.map (satellitePosition ·.id) =
      src.gnssObservationList.1.map (·.svId.1.toNat) := by
    calc observations.satellites.map (satellitePosition ·.id)
        = (observations.satellites.map (·.id)).map satellitePosition := by
          rw [List.map_map]
          rfl
      _ = src.gnssObservationList.1.map (·.svId.1.toNat) := by
          rw [hids, List.map_map]
          exact List.map_congr_left fun srcSatellite _ =>
            satellitePosition_satelliteId gnss srcSatellite
  rw [satellitePositions, msmSatellites, hall, ← hmap]
  exact hperm

/-- The signals of the message, satellite by satellite. -/
theorem places_perm :
    (places ((observationsAt time gnss src).withChannels aux)).Perm
      (src.gnssObservationList.1.flatMap fun srcSatellite =>
        (rtcmSignals gnss srcSatellite).map fun n =>
          (srcSatellite.svId.1.toNat, (n - 1).toNat)) := by
  rw [places, msmSignals]
  apply ((List.mergeSort_perm _ _).map Signal.place).trans
  rw [withChannels_signals, observationsAt, List.filter_flatMap, List.map_flatMap]
  apply List.Perm.of_eq
  apply List.flatMap_congr
  intro srcSatellite _
  rw [extractSignals, rtcmSignals, List.filter_map, List.map_map, List.map_filterMap]
  induction srcSatellite.gnssRtkSatelliteSignalDataList.1 with
  | nil => rfl
  | cons srcSignal list ih =>
    have hsat := inMask_satelliteId gnss srcSatellite
    cases hn : (signalId srcSignal gnss).asMsm with
    | none =>
      rw [List.filter_cons_of_neg, List.filterMap_cons_none (by simp [hn]), ih]
      simp [extractSignal, inMask, hn]
    | some n =>
      have hrange := SignalId.asMsm_range hn
      rw [List.filter_cons_of_pos, List.filterMap_cons_some (by rw [hn]; rfl), List.map_cons, ih]
      · congr 1
        simp [extractSignal, Signal.place, satellitePosition_satelliteId, signalPosition, hn,
          Maybe.value]
      · simp only [Function.comp_apply, extractSignal, hsat, Bool.and_true, inMask_iff, hn]
        exact ⟨n, rfl, by omega, by omega⟩

theorem rtcmSignals_range {srcSatellite : GnssRtkSatelliteDataElement} {n : ℤ}
    (h : n ∈ rtcmSignals gnss srcSatellite) : 2 ≤ n ∧ n ≤ 32 := by
  obtain ⟨srcSignal, -, hn⟩ := List.mem_filterMap.mp h
  exact SignalId.asMsm_range hn

/-- The signal mask announces each RTCM number of the element once. -/
theorem length_signalIds :
    (signalIds ((observationsAt time gnss src).withChannels aux)).length =
      (src.gnssObservationList.1.flatMap (rtcmSignals gnss)).dedup.length := by
  set observations := (observationsAt time gnss src).withChannels aux with hobs
  have hplacePerm := places_perm gnss src time aux
  rw [← hobs] at hplacePerm
  have hpositions : signalPositions observations = (places observations).map (·.2) := by
    rw [signalPositions, places, List.map_map]
    rfl
  apply length_eq_dedup ((signalIds_sorted observations).imp Nat.ne_of_lt)
  · intro n hn
    obtain ⟨_, -, hn⟩ := List.mem_flatMap.mp hn
    have hrange := rtcmSignals_range gnss hn
    omega
  intro i
  rw [mem_signalIds, hpositions, List.mem_map]
  constructor
  · rintro ⟨place, hplace, rfl⟩
    rw [hplacePerm.mem_iff, List.mem_flatMap] at hplace
    obtain ⟨srcSatellite, hmem, hplace⟩ := hplace
    obtain ⟨n, hn, rfl⟩ := List.mem_map.mp hplace
    exact ⟨n, List.mem_flatMap.mpr ⟨srcSatellite, hmem, hn⟩, rfl⟩
  · rintro ⟨n, hn, rfl⟩
    obtain ⟨srcSatellite, hmem, hn⟩ := List.mem_flatMap.mp hn
    refine ⟨(srcSatellite.svId.1.toNat, (n - 1).toNat), ?_, rfl⟩
    rw [hplacePerm.mem_iff, List.mem_flatMap]
    exact ⟨srcSatellite, hmem, List.mem_map_of_mem hn⟩

theorem satellites_nodup_iff :
    (src.gnssObservationList.1.map (·.svId.1.toNat)).Nodup ↔
      (src.gnssObservationList.1.map (·.svId.1)).Nodup := by
  have hmap : src.gnssObservationList.1.map (·.svId.1.toNat) =
      (src.gnssObservationList.1.map (·.svId.1)).map Int.toNat := by
    rw [List.map_map]
    rfl
  rw [hmap]
  constructor
  · exact List.Nodup.of_map _
  · intro h
    apply h.map_on
    intro a ha b hb hab
    obtain ⟨sa, -, rfl⟩ := List.mem_map.mp ha
    obtain ⟨sb, -, rfl⟩ := List.mem_map.mp hb
    have := sa.svId.2.1
    have := sb.svId.2.1
    omega

/-- When no satellite is there twice, the places are told apart satellite by satellite. -/
theorem places_nodup_iff (h : (src.gnssObservationList.1.map (·.svId.1.toNat)).Nodup) :
    (src.gnssObservationList.1.flatMap fun srcSatellite =>
      (rtcmSignals gnss srcSatellite).map fun n =>
        (srcSatellite.svId.1.toNat, (n - 1).toNat)).Nodup ↔
      ∀ srcSatellite ∈ src.gnssObservationList.1, (rtcmSignals gnss srcSatellite).Nodup := by
  rw [List.nodup_flatMap]
  constructor
  · rintro ⟨hnodup, -⟩ srcSatellite hmem
    exact List.Nodup.of_map _ (hnodup srcSatellite hmem)
  · intro hnodup
    constructor
    · intro srcSatellite hmem
      apply (hnodup srcSatellite hmem).map_on
      intro a ha b hb hab
      rw [Prod.mk.injEq] at hab
      have hra := rtcmSignals_range gnss ha
      have hrb := rtcmSignals_range gnss hb
      omega
    · rw [List.Nodup, List.pairwise_map] at h
      apply h.imp
      intro a b hab place ha hb
      obtain ⟨_, -, rfl⟩ := List.mem_map.mp ha
      obtain ⟨_, -, heq⟩ := List.mem_map.mp hb
      exact hab (Prod.mk.inj heq).1.symm

/-- **Masks and data agree, and the decoder reads every value back, exactly when the element
fits the masks.** -/
theorem msm_consistent_iff (msm : UInt32) (lastMsm : Bool) (common : CommonObservationInfo) :
    MsmFaithful ((observationsAt time gnss src).withChannels aux) msm lastMsm gnss common ↔
      FitsMasks gnss src := by
  set observations := (observationsAt time gnss src).withChannels aux with hobs
  have hsatPerm := satellitePositions_perm gnss src time aux
  have hplacePerm := places_perm gnss src time aux
  have hsignalIds := length_signalIds gnss src time aux
  rw [← hobs] at hsatPerm hplacePerm hsignalIds
  have hsat : ∀ place ∈ places observations, place.1 ∈ satelliteIds observations := by
    intro place hplace
    rw [hplacePerm.mem_iff, List.mem_flatMap] at hplace
    obtain ⟨srcSatellite, hmem, hplace⟩ := hplace
    obtain ⟨n, -, rfl⟩ := List.mem_map.mp hplace
    rw [mem_satelliteIds, hsatPerm.mem_iff]
    exact List.mem_map_of_mem hmem
  have hsatelliteIds : (satellitePositions observations).Nodup →
      (satelliteIds observations).length = src.gnssObservationList.1.length := by
    intro h
    have hlen := hsatPerm.length_eq
    rw [List.length_map] at hlen
    rw [← hlen]
    exact ((nodup_iff_length ((satelliteIds_sorted observations).imp Nat.ne_of_lt)
      fun i => (mem_satelliteIds observations).symm).mp h).symm
  rw [msmFaithful_iff_selfConsistent, selfConsistent_iff observations hsat, hsignalIds,
    hplacePerm.nodup_iff]
  constructor
  · rintro ⟨hsats, hsigs, hcells⟩
    rw [hsatelliteIds hsats] at hcells
    rw [hsatPerm.nodup_iff] at hsats
    exact ⟨(satellites_nodup_iff src).mp hsats, (places_nodup_iff gnss src hsats).mp hsigs, hcells⟩
  · intro h
    have hsats := (satellites_nodup_iff src).mpr h.satellites_nodup
    have hpositions := hsatPerm.nodup_iff.mpr hsats
    refine ⟨hpositions, (places_nodup_iff gnss src hsats).mpr h.signals_nodup, ?_⟩
    rw [hsatelliteIds hpositions]
    exact h.cells_le

end Element

/-- An element that has one satellite twice. -/
def repeatedSatellite : GnssRtkObservations where
  epochTime := ⟨.gps, ⟨0, Integer.mem⟩, ⟨0, Integer.mem⟩, none⟩
  gnssObservationList := ⟨[oneSatellite, oneSatellite], by decide⟩

def plainObservationInfo : CommonObservationInfo := ⟨0, 0, 0, 0, 0⟩

/-- The satellite mask of a repeated satellite has one bit, and there are two data entries. -/
theorem repeated_satellite_unfaithful :
    ¬ MsmFaithful ((observationsAt ⟨0⟩ .gps repeatedSatellite).withChannels none) 7 true .gps
      plainObservationInfo := by
  rintro ⟨h, -⟩
  have hperm := satellitePositions_perm .gps repeatedSatellite ⟨0⟩ none
  have horder : (satellitePositions
      ((observationsAt ⟨0⟩ .gps repeatedSatellite).withChannels none)).Pairwise (· < ·) := by
    rw [satellitePositions, h.satellite_order]
    exact filter_range_sorted ..
  have hnodup := hperm.nodup_iff.mp (horder.imp Nat.ne_of_lt)
  exact absurd hnodup (by decide)

end SuplLpp.Rtcm
