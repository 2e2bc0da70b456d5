import Mathlib.Data.List.Range
import SuplLpp.Asn.Ssr

/-!
# Correction point sets

A correction point set is a grid of nodes, row by row from the reference point, with a bit for
each node: only the nodes whose bit is set have corrections.  A list of gridded corrections
has one element for each of these, in row order.

* `CorrectionPointSet.arrayToIndex`, which node an element of the list belongs to;
* `CorrectionPointSet.present`, the bit of a node, and `rank`, the number of set bits before it;
* `arrayToIndex_eq`: the answer is the first node with as many set bits before it as the element
  has elements before it, whether its own bit is set or not;
* `arrayToIndex_rank_iff`: for every element this is its node exactly if the set bits come first
  (`Dense`).
-/

namespace SuplLpp.Tokoro

structure Float3 where
  x : ℚ
  y : ℚ
  z : ℚ
  deriving DecidableEq

def Float3.zero : Float3 := ⟨0, 0, 0⟩

structure CorrectionPointInfo where
  absoluteIndex : ℕ
  arrayIndex : ℕ
  isValid : Bool
  latitudeIndex : ℕ
  longitudeIndex : ℕ
  position : Float3
  deriving DecidableEq

structure CorrectionPointSet where
  setId : ℕ
  gridPointCount : ℕ
  referencePointLatitude : ℚ
  referencePointLongitude : ℚ
  stepOfLatitude : ℚ
  stepOfLongitude : ℚ
  numberOfStepsLatitude : ℕ
  numberOfStepsLongitude : ℕ
  bitmask : BitVec 64
  deriving DecidableEq

namespace CorrectionPointSet

/-- `find_correction_point_set`, for an array of correction points; with `ignoreBitmask` every
node has corrections. -/
def ofArray (ignoreBitmask : Bool) (setId : ℕ) (array : Asn.GnssSsrArrayOfCorrectionPoints) :
    CorrectionPointSet where
  setId := setId
  gridPointCount :=
    (array.numberOfStepsLongitude.1.toNat + 1) * (array.numberOfStepsLatitude.1.toNat + 1)
  referencePointLatitude := array.referencePointLatitude.1 * 90 * 0.00006103515625
  referencePointLongitude := array.referencePointLongitude.1 * 180 * 0.000030517578125
  stepOfLatitude := array.stepOfLatitude.1 * 0.01
  stepOfLongitude := array.stepOfLongitude.1 * 0.01
  numberOfStepsLatitude := array.numberOfStepsLatitude.1.toNat
  numberOfStepsLongitude := array.numberOfStepsLongitude.1.toNat
  bitmask :=
    match array.bitmaskOfGrids with
    | none => BitVec.allOnes 64
    | some bits => if ignoreBitmask then BitVec.allOnes 64 else .ofNat 64 (Bits.toNat bits.1)

variable (set : CorrectionPointSet)

/-- The nodes of a row. -/
def width : ℕ := set.numberOfStepsLongitude + 1

/-- The number of nodes. -/
def size : ℕ := (set.numberOfStepsLatitude + 1) * (set.numberOfStepsLongitude + 1)

/-- The bit of a node, from the highest one on; there are 64 of them. -/
def present (i : ℕ) : Bool := (set.bitmask &&& (1#64 <<< (64 - 1 - i))) != 0

/-- What `array_to_index` answers at a node. -/
def info (arrayIndex absoluteIndex y x : ℕ) : CorrectionPointInfo where
  arrayIndex := arrayIndex
  absoluteIndex := absoluteIndex
  isValid := set.present (y * (set.numberOfStepsLongitude + 1) + x)
  latitudeIndex := y
  longitudeIndex := x
  position :=
    { x := set.referencePointLatitude - y * set.stepOfLatitude
      y := set.referencePointLongitude + x * set.stepOfLongitude
      z := 0 }

/-- The two loops of `array_to_index`, over what is left of the nodes. -/
def arrayToIndexLoop (arrayIndex : ℕ) : ℕ → ℕ → List (ℕ × ℕ) → Option CorrectionPointInfo
  | _, _, [] => none
  | arrayCount, absoluteIndex, (y, x) :: nodes =>
      if arrayCount = arrayIndex then some (set.info arrayIndex absoluteIndex y x)
      else
        let isValid := set.present (y * (set.numberOfStepsLongitude + 1) + x)
        arrayToIndexLoop arrayIndex (if isValid then arrayCount + 1 else arrayCount)
          (absoluteIndex + 1) nodes

/-- The nodes in the order of the loops. -/
def nodes : List (ℕ × ℕ) :=
  (List.range (set.numberOfStepsLatitude + 1)).flatMap fun y =>
    (List.range (set.numberOfStepsLongitude + 1)).map fun x => (y, x)

/-- `CorrectionPointSet::array_to_index`. -/
def arrayToIndex (arrayIndex : ℕ) : Option CorrectionPointInfo :=
  set.arrayToIndexLoop arrayIndex 0 0 set.nodes

/-! ### The bits -/

/-- The number of set bits before a node. -/
def rank (i : ℕ) : ℕ := (List.range i).countP set.present

/-- The number of nodes with corrections. -/
def pointCount : ℕ := set.rank set.size

/-- The set bits come first. -/
def Dense : Prop := ∀ i j, i < j → j < set.size → set.present j → set.present i

/-- The row and the column of a node. -/
def node (i : ℕ) : ℕ × ℕ := (i / set.width, i % set.width)

/-- The position of a node. -/
def position (i : ℕ) : Float3 where
  x := set.referencePointLatitude - (i / set.width : ℕ) * set.stepOfLatitude
  y := set.referencePointLongitude + (i % set.width : ℕ) * set.stepOfLongitude
  z := 0

theorem rank_succ (i : ℕ) : set.rank (i + 1) = set.rank i + (set.present i).toNat := by
  unfold rank
  rw [List.range_succ, List.countP_append, List.countP_singleton]
  cases set.present i <;> rfl

theorem rank_le (i : ℕ) : set.rank i ≤ i := by
  simpa [rank] using List.countP_le_length (p := set.present) (l := List.range i)

theorem pointCount_le : set.pointCount ≤ set.size := set.rank_le set.size

theorem rank_mono : Monotone set.rank :=
  monotone_nat_of_le_succ fun i => by
    rw [rank_succ]
    exact Nat.le_add_right ..

/-! ### What the loops find -/

/-- The node of the loops at an index. -/
theorem nodes_eq : set.nodes = (List.range set.size).map set.node := by
  have hrows : ∀ rows : ℕ, ((List.range rows).flatMap fun y =>
      (List.range set.width).map fun x => (y, x)) =
        (List.range (rows * set.width)).map set.node := by
    intro rows
    induction rows with
    | zero => simp
    | succ rows ih =>
      rw [List.range_succ, List.flatMap_append, ih, Nat.succ_mul, List.range_add,
        List.map_append, List.flatMap_singleton, List.map_map]
      congr 1
      refine List.map_congr_left fun x hx => ?_
      have hx : x < set.width := List.mem_range.1 hx
      show (rows, x) = ((rows * set.width + x) / set.width, (rows * set.width + x) % set.width)
      rw [Nat.mul_comm, Nat.mul_add_div (by omega), Nat.div_eq_of_lt hx, Nat.add_zero,
        Nat.mul_add_mod, Nat.mod_eq_of_lt hx]
  exact hrows _

/-- The loops from a node on, with the counters that belong to it. -/
theorem arrayToIndexLoop_eq (k n i : ℕ) :
    set.arrayToIndexLoop k (set.rank i) i ((List.range' i n).map set.node) =
      ((List.range' i n).find? fun j => set.rank j = k).map fun j =>
        set.info k j (set.node j).1 (set.node j).2 := by
  induction n generalizing i with
  | zero => rfl
  | succ n ih =>
    have hindex : (set.node i).1 * (set.numberOfStepsLongitude + 1) + (set.node i).2 = i := by
      rw [Nat.mul_comm]
      exact Nat.div_add_mod i set.width
    rw [List.range'_succ, List.map_cons, arrayToIndexLoop, List.find?_cons, hindex]
    by_cases hrank : set.rank i = k
    · rw [if_pos hrank, decide_eq_true hrank]
      rfl
    · rw [if_neg hrank, decide_eq_false hrank]
      have hcount : (if set.present i then set.rank i + 1 else set.rank i) = set.rank (i + 1) := by
        rw [rank_succ]
        cases set.present i <;> rfl
      dsimp only
      rw [hcount]
      exact ih (i + 1)

/-- **The node of an element**: the first one with as many set bits before it. -/
theorem arrayToIndex_eq (k : ℕ) :
    set.arrayToIndex k =
      ((List.range set.size).find? fun j => set.rank j = k).map fun j =>
        set.info k j (set.node j).1 (set.node j).2 := by
  rw [arrayToIndex, nodes_eq, List.range_eq_range']
  exact set.arrayToIndexLoop_eq k set.size 0

variable {set}

/-- Where no bit is set, nothing is counted. -/
theorem rank_eq_of_unset {i j : ℕ} (hij : i ≤ j)
    (h : ∀ q, i ≤ q → q < j → ¬set.present q = true) : set.rank j = set.rank i := by
  induction j, hij using Nat.le_induction with
  | base => rfl
  | succ j hij ih =>
    rw [rank_succ, Bool.eq_false_iff.2 (h j hij j.lt_succ_self),
      ih fun q hq hlt => h q hq (hlt.trans j.lt_succ_self)]
    rfl

/-- The set bits are the first ones. -/
theorem Dense.rank_eq (h : set.Dense) {i : ℕ} (hi : i < set.size) (hset : set.present i) :
    set.rank i = i := by
  have hall : (List.range i).countP set.present = (List.range i).length :=
    List.countP_eq_length.2 fun j hj => h j i (List.mem_range.1 hj) hi hset
  rw [rank, hall, List.length_range]

theorem Dense.arrayToIndex (h : set.Dense) {k : ℕ} (hk : k < set.size) (hset : set.present k) :
    set.arrayToIndex k = some (set.info k k (set.node k).1 (set.node k).2) := by
  have hfind : (List.range set.size).find? (fun j => set.rank j = k) = some k := by
    rw [List.find?_range_eq_some]
    refine ⟨by simpa using h.rank_eq hk hset, List.mem_range.2 hk, fun j hj => ?_⟩
    have := set.rank_le j
    simpa using by omega
  rw [arrayToIndex_eq, hfind, Option.map_some]

/-- Where the set bits come first, they are counted by the number of nodes with corrections. -/
theorem Dense.present_iff (h : set.Dense) {i : ℕ} (hi : i < set.size) :
    set.present i ↔ i < set.pointCount := by
  constructor
  · intro hset
    have hlast := set.rank_mono hi
    rw [rank_succ, hset, h.rank_eq hi hset] at hlast
    exact hlast
  · intro hlt
    by_contra hunset
    have hcount : set.pointCount = set.rank i := by
      refine rank_eq_of_unset hi.le fun j hj hlt hset => ?_
      rcases hj.eq_or_lt with rfl | hij
      · exact hunset hset
      · exact hunset (h i j hij hlt hset)
    have := set.rank_le i
    omega

/-- **Elements and nodes.**  Each element gets the node whose bit is set and that has as many
set bits before it, if and only if the set bits come first. -/
theorem arrayToIndex_rank_iff :
    (∀ i < set.size, set.present i →
      set.arrayToIndex (set.rank i) =
        some (set.info (set.rank i) i (set.node i).1 (set.node i).2)) ↔ set.Dense := by
  constructor
  · intro h i j hij hj hset
    by_contra hunset
    -- the first set bit behind `i` has the rank that `i` has
    have hex : ∃ p, i < p ∧ set.present p := ⟨j, hij, hset⟩
    classical
    obtain ⟨hip, hp⟩ := Nat.find_spec hex
    have hpj : Nat.find hex ≤ j := Nat.find_min' hex ⟨hij, hset⟩
    have hrank : set.rank (Nat.find hex) = set.rank i := by
      refine rank_eq_of_unset hip.le fun q hq hlt hset => ?_
      rcases hq.eq_or_lt with rfl | hiq
      · exact hunset hset
      · exact Nat.find_min hex hlt ⟨hiq, hset⟩
    have hfound := h (Nat.find hex) (by omega) hp
    rw [arrayToIndex_eq, hrank, Option.map_eq_some_iff] at hfound
    obtain ⟨q, hq, hinfo⟩ := hfound
    have hqp : q = Nat.find hex := congrArg CorrectionPointInfo.absoluteIndex hinfo
    rw [List.find?_range_eq_some] at hq
    have hbefore := hq.2.2 i (by omega)
    simp at hbefore
  · intro h i hi hset
    rw [h.rank_eq hi hset]
    exact h.arrayToIndex hi hset

end CorrectionPointSet

end SuplLpp.Tokoro
