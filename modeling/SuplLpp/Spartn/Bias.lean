import SuplLpp.Asn.Types
import Mathlib.Data.Fintype.Card
import Mathlib.Data.Rat.Defs

/-!
# The bias pipeline

SPARTN has a few slots for the biases of a satellite, LPP has 24 signals.  The first stage
collects the signals of a satellite, the second adds those that the configuration maps, the
third gives out the slots.

* `SystemMapping` and the tables `gGpsSm`, `gGloSm`, `gGalSm`, `gBdsSm`;
* `RinexBiasSet`, which never holds a signal twice, and so at most 24 of them
  (`RinexBiasSet.length_le`);
* `stage1Add`, `stage2Expand`, `stage3Assign`; `BiasSlots`.
-/

namespace SuplLpp.Spartn

open Asn

/-- An index of the tables, which have 24 entries. -/
abbrev RinexIndex := Fin 24

/-- A slot of SPARTN: `MAX_BIAS_SLOTS` of them. -/
abbrev SpartnSlot := Fin 8

/-- What the pipeline uses of `SystemMapping`; `none` is `INVALID_MAPPING`. -/
structure SystemMapping where
  toSpartn : RinexIndex → Option SpartnSlot
  freq : RinexIndex → ℚ
  rinexSuffixes : RinexIndex → Option String

/-! ### The tables -/

/-- The table that is given by its entries. -/
def table {α : Type} (entries : List α) (missing : α) (i : RinexIndex) : α :=
  entries.getD i missing

def gpsToSpartn : RinexIndex → Option SpartnSlot :=
  table
    [some 0, none, none, none, none, none, none, none, some 1, none, some 2, none, none, some 3]
    none

def gloToSpartn : RinexIndex → Option SpartnSlot := table [some 0, some 1] none

def galToSpartn : RinexIndex → Option SpartnSlot :=
  table
    [none, none, none, none, none, some 0, none, none, none, none, some 4, none, none, none, none,
      none, some 2, none, none, none, some 3, none, some 1, none]
    none

def bdsToSpartn : RinexIndex → Option SpartnSlot :=
  table
    [some 0, none, none, some 3, none, none, some 2, none, none, none, some 4, none, none, some 1]
    none

def gpsL1 : ℚ := 1575.42
def gpsL2 : ℚ := 1227.60
def gpsL5 : ℚ := 1176.45

def gpsFreq : RinexIndex → ℚ :=
  table
    [gpsL1, gpsL1, gpsL2, gpsL5, gpsL1, gpsL1, gpsL2, gpsL2, gpsL2, gpsL2, gpsL2, gpsL2, gpsL5,
      gpsL5, gpsL5, gpsL1, gpsL1, gpsL1]
    0

def gloFreq : RinexIndex → ℚ := table (List.replicate 14 1) 0

def galE1 : ℚ := 1575.420
def galE6 : ℚ := 1278.750
def galE5 : ℚ := 1191.795
def galE5A : ℚ := 1176.450
def galE5B : ℚ := 1207.140

def galFreq : RinexIndex → ℚ :=
  table
    [galE1, galE5A, galE5B, galE6, 0, galE1, galE1, galE1, galE1, galE1, galE6, galE6, galE6,
      galE6, galE6, galE5B, galE5B, galE5B, galE5, galE5, galE5, galE5A, galE5A, galE5A]
    0

def bdsB1 : ℚ := 1561.098
def bdsB1B3 : ℚ := 1575.42
def bdsB2A : ℚ := 1176.45
def bdsB2b : ℚ := 1207.14
def bdsB2AB : ℚ := 1191.795
def bdsB3 : ℚ := 1268.52

def bdsFreq : RinexIndex → ℚ :=
  table
    [bdsB1, bdsB1, bdsB1, bdsB3, bdsB3, bdsB3, bdsB2b, bdsB2b, bdsB2b, bdsB1B3, bdsB1B3, bdsB1B3,
      bdsB2A, bdsB2A, bdsB2AB]
    0

def gpsRinexSuffix : RinexIndex → Option String :=
  table
    [some "1C", some "1X", some "2X", some "5X", some "1P", some "1W", some "2C", some "2P",
      some "2W", some "2S", some "2L", some "2X", some "5I", some "5Q", some "5X", some "1S",
      some "1L", some "1X"]
    none

def gloRinexSuffix : RinexIndex → Option String :=
  table
    [some "1C", some "2C", some "3X", some "1P", some "2P", some "4A", some "4B", some "4X",
      some "6A", some "6B", some "6X", some "3I", some "3Q", some "3X"]
    none

def galRinexSuffix : RinexIndex → Option String :=
  table
    [none, none, none, none, none, some "1C", some "1A", some "1B", some "1X", some "1Z",
      some "6C", some "6A", some "6B", some "6X", some "6Z", some "7I", some "7Q", some "7X",
      some "8I", some "8Q", some "8X", some "5I", some "5Q", some "5X"]
    none

def bdsRinexSuffix : RinexIndex → Option String :=
  table
    [some "2I", some "2Q", some "2X", some "6I", some "6Q", some "6X", some "7I", some "7Q",
      some "7X", some "1D", some "1P", some "1X", some "5D", some "5P", some "5X"]
    none

def gGpsSm : SystemMapping := ⟨gpsToSpartn, gpsFreq, gpsRinexSuffix⟩
def gGloSm : SystemMapping := ⟨gloToSpartn, gloFreq, gloRinexSuffix⟩
def gGalSm : SystemMapping := ⟨galToSpartn, galFreq, galRinexSuffix⟩
def gBdsSm : SystemMapping := ⟨bdsToSpartn, bdsFreq, bdsRinexSuffix⟩

/-! ### The configured map -/

/-- An entry of a bias map; the indexes come from `rinex_suffix_to_index`. -/
structure BiasMapEntry where
  fromRinexIdx : RinexIndex
  toRinexIdx : RinexIndex
  applyCode : Bool
  applyPhase : Bool

/-- `BiasMap`: at most `BIAS_MAP_MAX_ENTRIES` entries. -/
abbrev BiasMap := {entries : List BiasMapEntry // entries.length ≤ 32}

/-! ### The stages -/

structure RinexBias where
  rinexIdx : RinexIndex
  correction : ℚ
  continuityIndicator : ℚ
  fixFlag : Bool

/-- `RinexBiasSet`: the entries in the order in which they were added, each signal once. -/
structure RinexBiasSet where
  entries : List RinexBias
  nodup : (entries.map RinexBias.rinexIdx).Nodup

namespace RinexBiasSet

def empty : RinexBiasSet := ⟨[], List.nodup_nil⟩

def has (set : RinexBiasSet) (rinexIdx : RinexIndex) : Bool :=
  decide (rinexIdx ∈ set.entries.map RinexBias.rinexIdx)

def add (set : RinexBiasSet) (bias : RinexBias) : RinexBiasSet :=
  if h : set.has bias.rinexIdx = true then set
  else
    { entries := set.entries ++ [bias]
      nodup := by
        rw [List.map_append, List.nodup_append]
        refine ⟨set.nodup, List.nodup_singleton _, ?_⟩
        intro i hi j hj
        rw [List.map_singleton, List.mem_singleton] at hj
        rintro rfl
        rw [hj] at hi
        exact h (decide_eq_true hi) }

/-- The array of the source, which has `MAX_RINEX_SIGNALS` entries, is large enough. -/
theorem length_le (set : RinexBiasSet) : set.entries.length ≤ 24 := by
  have h := set.nodup.length_le_card
  rwa [List.length_map, Fintype.card_fin] at h

end RinexBiasSet

/-- `decode::signal_id`. -/
def signalId (id : GnssSignalId) : ℤ :=
  match id.gnssSignalIdExt with
  | some ext => ext.1
  | none => id.gnssSignalId.1

def stage1Add (sm : SystemMapping) (set : RinexBiasSet) (lppSignalId : ℤ)
    (correction continuityIndicator : ℚ) (fixFlag : Bool) : RinexBiasSet :=
  if h : 0 ≤ lppSignalId ∧ lppSignalId < 24 then
    let rinexIdx : RinexIndex := ⟨lppSignalId.toNat, by omega⟩
    if (sm.rinexSuffixes rinexIdx).isSome then
      set.add ⟨rinexIdx, correction, continuityIndicator, fixFlag⟩
    else set
  else set

/-- One round of the loop of `stage2_expand`. -/
def expandEntry (sm : SystemMapping) (isCode : Bool) (set : RinexBiasSet) (e : BiasMapEntry) :
    RinexBiasSet :=
  if isCode && !e.applyCode then set
  else if !isCode && !e.applyPhase then set
  else if !set.has e.fromRinexIdx then set
  else if set.has e.toRinexIdx then set
  else
    match set.entries.find? (fun src => decide (src.rinexIdx = e.fromRinexIdx)) with
    | some src =>
      let fFrom := sm.freq e.fromRinexIdx
      let fTo := sm.freq e.toRinexIdx
      let scale :=
        if !isCode && decide (fFrom > 0) && decide (fTo > 0) && decide (fFrom ≠ fTo) then
          fFrom / fTo
        else 1
      set.add ⟨e.toRinexIdx, src.correction * scale, src.continuityIndicator, src.fixFlag⟩
    | none => set

def stage2Expand (sm : SystemMapping) (map : BiasMap) (set : RinexBiasSet) (isCode : Bool) :
    RinexBiasSet :=
  map.1.foldl (expandEntry sm isCode) set

structure BiasEntry where
  correction : ℚ
  continuityIndicator : ℚ
  fixFlag : Bool

/-- `BiasSlots`: the slots that are taken, with their entries. -/
structure BiasSlots where
  slots : SpartnSlot → Option BiasEntry

namespace BiasSlots

def empty : BiasSlots := ⟨fun _ => none⟩

/-- The entry of a slot; the mask has no slots from 8 on. -/
def entry (slots : BiasSlots) (slot : ℕ) : Option BiasEntry :=
  if h : slot < 8 then slots.slots ⟨slot, h⟩ else none

def has (slots : BiasSlots) (slot : ℕ) : Bool := (slots.entry slot).isSome

def set (slots : BiasSlots) (slot : SpartnSlot) (e : BiasEntry) : BiasSlots :=
  ⟨Function.update slots.slots slot (some e)⟩

end BiasSlots

/-- One round of the loop of `stage3_assign`: first come, first served. -/
def assignEntry (sm : SystemMapping) (result : BiasSlots) (rb : RinexBias) : BiasSlots :=
  match sm.toSpartn rb.rinexIdx with
  | some slot =>
    if result.has slot then result
    else result.set slot ⟨rb.correction, rb.continuityIndicator, rb.fixFlag⟩
  | none => result

def stage3Assign (sm : SystemMapping) (set : RinexBiasSet) : BiasSlots :=
  set.entries.foldl (assignEntry sm) BiasSlots.empty

/-- `mask_ignore_l2l`. -/
def maskIgnoreL2l (slots : BiasSlots) (ignoreL2l : Bool) : BiasSlots :=
  if ignoreL2l then ⟨Function.update slots.slots 2 none⟩ else slots

end SuplLpp.Spartn
