import Mathlib.Algebra.BigOperators.Group.List.Basic
import Mathlib.Algebra.Order.Ring.Rat
import Mathlib.Data.List.Chain
import Mathlib.Data.Nat.Bitwise
import Mathlib.Tactic.FieldSimp
import SuplLpp.Spartn.Bias

/-!
# What the bias pipeline does

The working set is an array with a mask of the signals that it holds and a count; it is meant to
be a list of biases, one for each signal.

* `Derived`: a path of map entries from the first element of a signal to another signal;
  `mapScale`, what an entry does to a correction;
* `expanded_foldl`: the second stage adds exactly what some path leads to, in the order of the
  map; `slots_stage3Assign`: first come, first served;
* `WorkingSet`, `SlotArray`: the set and the slots as they are kept; `Represents`: the list that
  a working set stands for, which every operation keeps;
* `biasPipeline_correct`: all of it, for the three stages in a row.
-/

namespace SuplLpp.Spartn

/-! ### Adding a bias -/

namespace RinexBiasSet

theorem has_iff {set : RinexBiasSet} {i : RinexIndex} :
    set.has i = true ↔ i ∈ set.entries.map RinexBias.rinexIdx := decide_eq_true_iff

theorem add_entries (set : RinexBiasSet) (b : RinexBias) :
    (set.add b).entries =
      if set.has b.rinexIdx = true then set.entries else set.entries ++ [b] := by
  unfold add
  split_ifs <;> rfl

/-- What is looked for by the signal is found where it was, or else in the new bias. -/
theorem find?_add (set : RinexBiasSet) (b : RinexBias) (p : RinexIndex → Bool) :
    (set.add b).entries.find? (fun b => p b.rinexIdx) =
      (set.entries.find? fun b => p b.rinexIdx).or ([b].find? fun b => p b.rinexIdx) := by
  rw [add_entries]
  split_ifs with h
  · -- a bias of the same signal is there already
    cases hp : p b.rinexIdx with
    | false => simp [hp]
    | true =>
      obtain ⟨b', hb', hidx⟩ := List.mem_map.1 (has_iff.1 h)
      have hsome : (set.entries.find? fun b => p b.rinexIdx).isSome = true :=
        List.find?_isSome.2 ⟨b', hb', by rw [hidx, hp]⟩
      rw [Option.or_of_isSome hsome]
  · rw [List.find?_append]

/-- A bias of the set is the one that is found for its signal. -/
theorem find?_of_mem {set : RinexBiasSet} {b : RinexBias} (hb : b ∈ set.entries) :
    set.entries.find? (fun b' => decide (b'.rinexIdx = b.rinexIdx)) = some b := by
  have hnodup := set.nodup
  generalize set.entries = biases at hb hnodup
  induction biases with
  | nil => cases hb
  | cons b' biases ih =>
    rw [List.map_cons, List.nodup_cons] at hnodup
    rw [List.find?_cons]
    rcases List.mem_cons.1 hb with rfl | hb
    · rw [decide_eq_true rfl]
    · have hne : b'.rinexIdx ≠ b.rinexIdx := by
        intro heq
        exact hnodup.1 (heq ▸ List.mem_map_of_mem hb)
      rw [decide_eq_false hne]
      exact ih hb hnodup.2

end RinexBiasSet

/-! ### The first stage -/

/-- An element of an LPP list of biases. -/
structure LppBias where
  signalId : ℤ
  correction : ℚ
  continuityIndicator : ℚ
  fixFlag : Bool

/-- The bias of an element whose signal is known. -/
def LppBias.rinexBias (sm : SystemMapping) (b : LppBias) : Option RinexBias :=
  if h : 0 ≤ b.signalId ∧ b.signalId < 24 then
    if (sm.rinexSuffixes ⟨b.signalId.toNat, by omega⟩).isSome then
      some ⟨⟨b.signalId.toNat, by omega⟩, b.correction, b.continuityIndicator, b.fixFlag⟩
    else none
  else none

/-- The first stage, for each element of a list. -/
def stage1All (sm : SystemMapping) (signals : List LppBias) : RinexBiasSet :=
  signals.foldl (fun set b => stage1Add sm set b.signalId b.correction b.continuityIndicator
    b.fixFlag) RinexBiasSet.empty

theorem stage1Add_eq (sm : SystemMapping) (set : RinexBiasSet) (b : LppBias) :
    stage1Add sm set b.signalId b.correction b.continuityIndicator b.fixFlag =
      match b.rinexBias sm with
      | some bias => set.add bias
      | none => set := by
  unfold stage1Add LppBias.rinexBias
  by_cases hid : 0 ≤ b.signalId ∧ b.signalId < 24
  · rw [dif_pos hid, dif_pos hid]
    dsimp only
    split_ifs with hsuffix
    · rfl
    · rfl
  · rw [dif_neg hid, dif_neg hid]

/-- The biases of a list whose signals are known. -/
def originals (sm : SystemMapping) (signals : List LppBias) : List RinexBias :=
  signals.filterMap (LppBias.rinexBias sm)

theorem stage1All_eq (sm : SystemMapping) (signals : List LppBias) :
    stage1All sm signals = (originals sm signals).foldl RinexBiasSet.add RinexBiasSet.empty := by
  unfold stage1All originals
  generalize RinexBiasSet.empty = set
  induction signals generalizing set with
  | nil => rfl
  | cons b signals ih =>
    rw [List.foldl_cons, ih, stage1Add_eq, List.filterMap_cons]
    cases b.rinexBias sm <;> rfl

/-- **The first of a signal stays**: what is looked for by its signal is found in the list of
LPP. -/
theorem find?_stage1All (sm : SystemMapping) (signals : List LppBias) (p : RinexIndex → Bool) :
    (stage1All sm signals).entries.find? (fun b => p b.rinexIdx) =
      (originals sm signals).find? fun b => p b.rinexIdx := by
  have hall : ∀ (biases : List RinexBias) (set : RinexBiasSet),
      (biases.foldl RinexBiasSet.add set).entries.find? (fun b => p b.rinexIdx) =
        (set.entries.find? fun b => p b.rinexIdx).or (biases.find? fun b => p b.rinexIdx) := by
    intro biases
    induction biases with
    | nil =>
      intro set
      simp
    | cons b biases ih =>
      intro set
      rw [List.foldl_cons, ih, RinexBiasSet.find?_add, Option.or_assoc, ← List.find?_append]
      rfl
  rw [stage1All_eq, hall]
  rfl

/-- What the first stage holds is the first element of its signal. -/
theorem mem_stage1All {sm : SystemMapping} {signals : List LppBias} {b : RinexBias} :
    b ∈ (stage1All sm signals).entries ↔
      (originals sm signals).find? (fun o => decide (o.rinexIdx = b.rinexIdx)) = some b := by
  rw [← find?_stage1All sm signals fun i => decide (i = b.rinexIdx)]
  constructor
  · intro hb
    exact RinexBiasSet.find?_of_mem hb
  · exact List.mem_of_find?_eq_some

/-! ### The second stage -/

/-- Whether an entry of a map is for biases of this kind. -/
def BiasMapEntry.applies (e : BiasMapEntry) (isCode : Bool) : Bool :=
  if isCode then e.applyCode else e.applyPhase

/-- What a correction is multiplied by from one signal to another. -/
def mapScale (sm : SystemMapping) (isCode : Bool) (i j : RinexIndex) : ℚ :=
  if isCode = false ∧ 0 < sm.freq i ∧ 0 < sm.freq j then sm.freq i / sm.freq j else 1

/-- The bias that an entry of a map makes of another. -/
def BiasMapEntry.mapped (e : BiasMapEntry) (sm : SystemMapping) (isCode : Bool)
    (src : RinexBias) : RinexBias :=
  ⟨e.toRinexIdx, src.correction * mapScale sm isCode e.fromRinexIdx e.toRinexIdx,
    src.continuityIndicator, src.fixFlag⟩

/-- An entry of the map that is for these biases, whose source is there and whose target is
not. -/
def Fires (isCode : Bool) (set : RinexBiasSet) (e : BiasMapEntry) : Prop :=
  e.applies isCode = true ∧ set.has e.fromRinexIdx = true ∧ set.has e.toRinexIdx = false

theorem scale_eq (sm : SystemMapping) (isCode : Bool) (i j : RinexIndex) :
    (if (!isCode && decide (sm.freq i > 0) && decide (sm.freq j > 0) &&
        decide (sm.freq i ≠ sm.freq j)) = true then sm.freq i / sm.freq j else 1) =
      mapScale sm isCode i j := by
  unfold mapScale
  by_cases hij : sm.freq i = sm.freq j
  · -- equal frequencies: the ratio is one anyway
    rw [if_neg (by simp [hij])]
    split_ifs with h
    · rw [hij, div_self (ne_of_gt h.2.2)]
    · rfl
  · simp only [Bool.and_eq_true, Bool.not_eq_true', decide_eq_true_eq, ne_eq, hij,
      not_false_eq_true, and_true, and_assoc, gt_iff_lt]

theorem expandEntry_of_fires {sm : SystemMapping} {isCode : Bool} {set : RinexBiasSet}
    {e : BiasMapEntry} (h : Fires isCode set e) :
    ∃ src ∈ set.entries, src.rinexIdx = e.fromRinexIdx ∧
      (expandEntry sm isCode set e).entries = set.entries ++ [e.mapped sm isCode src] := by
  obtain ⟨happlies, hfrom, hto⟩ := h
  obtain ⟨b, hb, hidx⟩ := List.mem_map.1 (RinexBiasSet.has_iff.1 hfrom)
  have hfind := RinexBiasSet.find?_of_mem hb
  rw [hidx] at hfind
  refine ⟨b, hb, hidx, ?_⟩
  have hcode : (isCode && !e.applyCode) = false ∧ (!isCode && !e.applyPhase) = false := by
    cases isCode <;> simpa [BiasMapEntry.applies] using happlies
  unfold expandEntry
  simp only [hcode.1, hcode.2, hfrom, hto, hfind, Bool.not_true, Bool.false_eq_true, if_false]
  rw [RinexBiasSet.add_entries, scale_eq, if_neg (by rw [hto]; exact Bool.false_ne_true)]
  rfl

theorem expandEntry_of_not_fires {sm : SystemMapping} {isCode : Bool} {set : RinexBiasSet}
    {e : BiasMapEntry} (h : ¬Fires isCode set e) : expandEntry sm isCode set e = set := by
  unfold expandEntry
  split_ifs with h₁ h₂ h₃ h₄
  · rfl
  · rfl
  · rfl
  · rfl
  · refine absurd ⟨?_, ?_, ?_⟩ h
    · cases isCode <;> simp_all [BiasMapEntry.applies]
    · simpa using h₃
    · simpa using h₄

/-- `Derived sm isCode signals path b`: the entries of the path lead from the first element of
some signal to the bias `b`, each from the target of the one before. -/
inductive Derived (sm : SystemMapping) (isCode : Bool) (signals : List LppBias) :
    List BiasMapEntry → RinexBias → Prop
  | original (b : RinexBias)
      (h : (originals sm signals).find? (fun o => decide (o.rinexIdx = b.rinexIdx)) = some b) :
      Derived sm isCode signals [] b
  | mapped (path : List BiasMapEntry) (src : RinexBias) (e : BiasMapEntry)
      (h : Derived sm isCode signals path src) (happlies : e.applies isCode = true)
      (hfrom : src.rinexIdx = e.fromRinexIdx) :
      Derived sm isCode signals (path ++ [e]) (e.mapped sm isCode src)

/-- An original that a bias comes from, with the factor between them. -/
theorem Derived.origin {sm : SystemMapping} {isCode : Bool} {signals : List LppBias}
    {path : List BiasMapEntry} {b : RinexBias} (h : Derived sm isCode signals path b) :
    ∃ o ∈ originals sm signals,
      b.correction = o.correction *
        (path.map fun e => mapScale sm isCode e.fromRinexIdx e.toRinexIdx).prod ∧
      b.continuityIndicator = o.continuityIndicator ∧ b.fixFlag = o.fixFlag ∧
      -- along known frequencies the factors make up one ratio
      (isCode = false →
        (∀ e ∈ path, 0 < sm.freq e.fromRinexIdx ∧ 0 < sm.freq e.toRinexIdx) →
        b.correction * sm.freq b.rinexIdx = o.correction * sm.freq o.rinexIdx) ∧
      (isCode = true → b.correction = o.correction) := by
  induction h with
  | original b h =>
    refine ⟨b, List.mem_of_find?_eq_some h, ?_, rfl, rfl, ?_, ?_⟩
    · rw [List.map_nil, List.prod_nil, mul_one]
    · intro _ _
      rfl
    · intro _
      rfl
  | mapped path src e h happlies hfrom ih =>
    obtain ⟨o, ho, hcorrection, hcontinuity, hfix, hphase, hcode⟩ := ih
    refine ⟨o, ho, ?_, hcontinuity, hfix, ?_, ?_⟩
    · rw [List.map_append, List.prod_append, List.map_singleton, List.prod_singleton, ← mul_assoc,
        ← hcorrection]
      rfl
    · intro hisCode hfreq
      have hlast := hfreq e (List.mem_append_right _ (List.mem_singleton_self e))
      have hsrc := hphase hisCode fun e' he' => hfreq e' (List.mem_append_left _ he')
      rw [← hsrc, hfrom]
      change src.correction * mapScale sm isCode e.fromRinexIdx e.toRinexIdx *
        sm.freq e.toRinexIdx = _
      rw [mapScale, if_pos ⟨hisCode, hlast⟩, mul_assoc, div_mul_cancel₀ _ (ne_of_gt hlast.2)]
    · intro hisCode
      rw [← hcode hisCode]
      change src.correction * mapScale sm isCode e.fromRinexIdx e.toRinexIdx = _
      rw [mapScale, if_neg (by simp [hisCode]), mul_one]

/-- What the second stage makes of the set of the first: the biases of the first, and then those
of the entries that fired, in the order of the map. -/
structure Expanded (sm : SystemMapping) (isCode : Bool) (signals : List LppBias)
    (map fired : List BiasMapEntry) (news : List RinexBias) (set : RinexBiasSet) : Prop where
  entries_eq : set.entries = (stage1All sm signals).entries ++ news
  sublist : fired.Sublist map
  /-- Each new bias is the one of its map entry, from a bias that was derived before. -/
  fired_news : List.Forall₂ (fun e b => ∃ path src, (path ++ [e]).Sublist map ∧
    Derived sm isCode signals path src ∧ e.applies isCode = true ∧
      src.rinexIdx = e.fromRinexIdx ∧ b = e.mapped sm isCode src) fired news
  /-- Every signal that some path of the map leads to is there. -/
  complete : ∀ path b, path.Sublist map → Derived sm isCode signals path b →
    set.has b.rinexIdx = true

namespace Expanded

variable {sm : SystemMapping} {isCode : Bool} {signals : List LppBias}
  {map fired : List BiasMapEntry} {news : List RinexBias} {set : RinexBiasSet}

theorem nil : Expanded sm isCode signals [] [] [] (stage1All sm signals) where
  entries_eq := (List.append_nil _).symm
  sublist := List.Sublist.slnil
  fired_news := List.Forall₂.nil
  complete path b hpath h := by
    rw [List.sublist_nil.1 hpath] at h
    generalize hp : ([] : List BiasMapEntry) = path at h
    cases h with
    | original b h => exact RinexBiasSet.has_iff.2 (List.mem_map_of_mem (mem_stage1All.2 h))
    | mapped path src e => exact absurd hp (by simp)

/-- Each bias of the set is derived along a path of the map. -/
theorem derived (h : Expanded sm isCode signals map fired news set) {b : RinexBias}
    (hb : b ∈ set.entries) : ∃ path, path.Sublist map ∧ Derived sm isCode signals path b := by
  rw [h.entries_eq, List.mem_append] at hb
  rcases hb with hb | hb
  · exact ⟨[], List.nil_sublist _, .original b (mem_stage1All.1 hb)⟩
  · obtain ⟨k, hk, rfl⟩ := List.mem_iff_getElem.1 hb
    have hlen := h.fired_news.length_eq
    obtain ⟨path, src, hpath, hsrc, happlies, hfrom, hb⟩ :=
      List.Forall₂.get h.fired_news (by omega) hk
    rw [List.get_eq_getElem, List.get_eq_getElem] at hb
    rw [hb]
    exact ⟨_, hpath, .mapped path src _ hsrc happlies hfrom⟩

/-- One more entry of the map. -/
theorem snoc (h : Expanded sm isCode signals map fired news set) (e : BiasMapEntry) :
    ∃ fired' news', Expanded sm isCode signals (map ++ [e]) fired' news'
      (expandEntry sm isCode set e) := by
  have hsub : ∀ {path : List BiasMapEntry}, path.Sublist map → path.Sublist (map ++ [e]) := by
    intro path hpath
    exact hpath.trans (List.sublist_append_left _ _)
  have hnews : List.Forall₂ (fun e' b => ∃ path src, (path ++ [e']).Sublist (map ++ [e]) ∧
      Derived sm isCode signals path src ∧ e'.applies isCode = true ∧
        src.rinexIdx = e'.fromRinexIdx ∧ b = e'.mapped sm isCode src) fired news := by
    refine h.fired_news.imp ?_
    rintro e' b ⟨path, src, hpath, hrest⟩
    exact ⟨path, src, hsub hpath, hrest⟩
  -- a path of the longer map is one of the shorter, or ends with the new entry
  have hcomplete : ∀ {set' : RinexBiasSet}, (∀ i, set.has i = true → set'.has i = true) →
      (e.applies isCode = true → set.has e.fromRinexIdx = true →
        set'.has e.toRinexIdx = true) →
      ∀ path b, path.Sublist (map ++ [e]) → Derived sm isCode signals path b →
        set'.has b.rinexIdx = true := by
    intro set' hkeeps hadds path b hpath hb
    obtain ⟨front, back, rfl, hfront, hback⟩ := List.sublist_append_iff.1 hpath
    rcases List.sublist_singleton.1 hback with rfl | rfl
    · rw [List.append_nil] at hb
      exact hkeeps _ (h.complete front b hfront hb)
    · generalize hp : front ++ [e] = path at hb
      cases hb with
      | original b hb => exact absurd hp (by simp)
      | mapped path' src e' hsrc happlies hfrom =>
        obtain ⟨rfl, hlast⟩ := List.append_inj' hp rfl
        obtain rfl := List.singleton_inj.1 hlast
        have hhas := h.complete _ src hfront hsrc
        rw [hfrom] at hhas
        exact hadds happlies hhas
  by_cases hfires : Fires isCode set e
  · obtain ⟨src, hsrc, hfrom, hentries⟩ := @expandEntry_of_fires sm _ _ _ hfires
    obtain ⟨path, hpath, hderived⟩ := h.derived hsrc
    refine ⟨fired ++ [e], news ++ [e.mapped sm isCode src], ?_, ?_, ?_, ?_⟩
    · rw [hentries, h.entries_eq, List.append_assoc]
    · exact h.sublist.append (List.Sublist.refl _)
    · refine List.rel_append hnews (List.Forall₂.cons ?_ List.Forall₂.nil)
      exact ⟨path, src, hpath.append (List.Sublist.refl _), hderived, hfires.1, hfrom, rfl⟩
    · apply hcomplete
      · intro i hi
        rw [RinexBiasSet.has_iff, hentries, List.map_append, List.mem_append]
        exact Or.inl (RinexBiasSet.has_iff.1 hi)
      · intro _ _
        rw [RinexBiasSet.has_iff, hentries, List.map_append, List.mem_append]
        exact Or.inr (List.mem_singleton_self _)
  · rw [expandEntry_of_not_fires hfires]
    refine ⟨fired, news, h.entries_eq, hsub h.sublist, hnews, ?_⟩
    apply hcomplete
    · intro i hi
      exact hi
    · intro happlies hhas
      by_contra hto
      exact hfires ⟨happlies, hhas, Bool.eq_false_of_not_eq_true hto⟩

end Expanded

/-- **The run of the second stage**, by induction on the map from its end. -/
theorem expanded_foldl (sm : SystemMapping) (isCode : Bool) (signals : List LppBias)
    (map : List BiasMapEntry) :
    ∃ fired news, Expanded sm isCode signals map fired news
      (map.foldl (expandEntry sm isCode) (stage1All sm signals)) := by
  induction map using List.reverseRecOn with
  | nil => exact ⟨[], [], Expanded.nil⟩
  | append_singleton map e ih =>
    obtain ⟨fired, news, h⟩ := ih
    rw [List.foldl_append]
    exact h.snoc e

/-! ### The third stage -/

/-- What a slot carries of a bias. -/
def RinexBias.entry (b : RinexBias) : BiasEntry := ⟨b.correction, b.continuityIndicator, b.fixFlag⟩

/-- Whether a signal belongs to a slot. -/
def belongs (sm : SystemMapping) (slot : SpartnSlot) (i : RinexIndex) : Bool :=
  decide (sm.toSpartn i = some slot)

theorem slots_assignEntry (sm : SystemMapping) (result : BiasSlots) (b : RinexBias)
    (slot : SpartnSlot) :
    (assignEntry sm result b).slots slot =
      (result.slots slot).or (if belongs sm slot b.rinexIdx then some b.entry else none) := by
  unfold assignEntry belongs
  cases hslot : sm.toSpartn b.rinexIdx with
  | none => simp
  | some slot' =>
    have hhas : result.has slot'.1 = (result.slots slot').isSome := by
      unfold BiasSlots.has BiasSlots.entry
      rw [dif_pos slot'.2]
    dsimp only
    rw [hhas]
    by_cases hsome : (result.slots slot').isSome = true
    · rw [if_pos hsome]
      by_cases heq : slot' = slot
      · subst heq
        rw [Option.or_of_isSome hsome]
      · simp [heq]
    · rw [if_neg hsome]
      rw [Bool.not_eq_true, Option.isSome_eq_false_iff, Option.isNone_iff_eq_none] at hsome
      unfold BiasSlots.set
      dsimp only
      by_cases heq : slot' = slot
      · subst heq
        rw [Function.update_self, hsome]
        simp [RinexBias.entry]
      · rw [Function.update_of_ne (Ne.symm heq)]
        simp [heq]

/-- **First come, first served.** -/
theorem slots_stage3Assign (sm : SystemMapping) (set : RinexBiasSet) (slot : SpartnSlot) :
    (stage3Assign sm set).slots slot =
      (set.entries.find? fun b => belongs sm slot b.rinexIdx).map RinexBias.entry := by
  have hall : ∀ (biases : List RinexBias) (result : BiasSlots),
      (biases.foldl (assignEntry sm) result).slots slot =
        (result.slots slot).or
          ((biases.find? fun b => belongs sm slot b.rinexIdx).map RinexBias.entry) := by
    intro biases
    induction biases with
    | nil =>
      intro result
      simp
    | cons b biases ih =>
      intro result
      rw [List.foldl_cons, ih, slots_assignEntry, Option.or_assoc, List.find?_cons]
      cases belongs sm slot b.rinexIdx with
      | true => simp
      | false => simp
  unfold stage3Assign
  rw [hall]
  simp [BiasSlots.empty]

/-! ### The working set as it is kept -/

/-- `RinexBiasSet`: an array, a mask of the signals that it holds, and a count. -/
structure WorkingSet where
  entries : Fin 24 → RinexBias
  presentMask : ℕ
  count : ℕ

namespace WorkingSet

def has (set : WorkingSet) (rinexIdx : RinexIndex) : Bool := set.presentMask.testBit rinexIdx.1

/-- `add`; `none` is a write past the end of the array. -/
def add (set : WorkingSet) (b : RinexBias) : Option WorkingSet :=
  if set.has b.rinexIdx then some set
  else if h : set.count < 24 then
    some
      { entries := Function.update set.entries ⟨set.count, h⟩ b
        presentMask := set.presentMask ||| 1 <<< b.rinexIdx.1
        count := set.count + 1 }
  else none

/-- The entries that are in use. -/
def items (set : WorkingSet) : List RinexBias := (List.ofFn set.entries).take set.count

def stage1Add (sm : SystemMapping) (set : WorkingSet) (b : LppBias) : Option WorkingSet :=
  if h : 0 ≤ b.signalId ∧ b.signalId < 24 then
    if (sm.rinexSuffixes ⟨b.signalId.toNat, by omega⟩).isSome then
      set.add ⟨⟨b.signalId.toNat, by omega⟩, b.correction, b.continuityIndicator, b.fixFlag⟩
    else some set
  else some set

/-- One round of the loop of `stage2_expand`. -/
def expandEntry (sm : SystemMapping) (isCode : Bool) (set : WorkingSet) (e : BiasMapEntry) :
    Option WorkingSet :=
  if isCode && !e.applyCode then some set
  else if !isCode && !e.applyPhase then some set
  else if !set.has e.fromRinexIdx then some set
  else if set.has e.toRinexIdx then some set
  else
    match set.items.find? (fun src => decide (src.rinexIdx = e.fromRinexIdx)) with
    | some src =>
      let fFrom := sm.freq e.fromRinexIdx
      let fTo := sm.freq e.toRinexIdx
      let scale :=
        if !isCode && decide (fFrom > 0) && decide (fTo > 0) && decide (fFrom ≠ fTo) then
          fFrom / fTo
        else 1
      set.add ⟨e.toRinexIdx, src.correction * scale, src.continuityIndicator, src.fixFlag⟩
    | none => some set

end WorkingSet

/-- The list that a working set stands for. -/
structure Represents (w : WorkingSet) (set : RinexBiasSet) : Prop where
  items_eq : w.items = set.entries
  count_eq : w.count = set.entries.length
  mask_iff : ∀ i, w.presentMask.testBit i = true ↔ ∃ b ∈ set.entries, b.rinexIdx.1 = i

theorem Represents.has_eq {w : WorkingSet} {set : RinexBiasSet} (h : Represents w set)
    (i : RinexIndex) : w.has i = set.has i := by
  rw [Bool.eq_iff_iff, RinexBiasSet.has_iff, List.mem_map]
  refine (h.mask_iff i.1).trans ?_
  constructor
  · rintro ⟨b, hb, hi⟩
    exact ⟨b, hb, Fin.ext hi⟩
  · rintro ⟨b, hb, rfl⟩
    exact ⟨b, hb, rfl⟩

/-- The count is the number of bits of the mask. -/
theorem Represents.count_eq_bits {w : WorkingSet} {set : RinexBiasSet} (h : Represents w set) :
    w.count = (List.range 32).countP w.presentMask.testBit := by
  have hnodup : (set.entries.map fun b => b.rinexIdx.1).Nodup := by
    have hmap := set.nodup.map (f := Fin.val) Fin.val_injective
    rwa [List.map_map] at hmap
  have hperm : ((List.range 32).filter w.presentMask.testBit).Perm
      (set.entries.map fun b => b.rinexIdx.1) := by
    refine (List.perm_ext_iff_of_nodup (List.nodup_range.filter _) hnodup).2 ?_
    intro i
    rw [List.mem_filter, List.mem_range, h.mask_iff, List.mem_map]
    constructor
    · exact And.right
    · rintro ⟨b, hb, rfl⟩
      exact ⟨lt_trans b.rinexIdx.2 (by decide), b, hb, rfl⟩
  rw [List.countP_eq_length_filter, hperm.length_eq, List.length_map]
  exact h.count_eq

theorem testBit_or_shift (mask i j : ℕ) :
    (mask ||| 1 <<< i).testBit j = true ↔ mask.testBit j = true ∨ i = j := by
  rw [Nat.testBit_or, Nat.one_shiftLeft, Nat.testBit_two_pow, Bool.or_eq_true, decide_eq_true_eq]

theorem items_update {entries : Fin 24 → RinexBias} {mask mask' count : ℕ} (h : count < 24)
    (b : RinexBias) :
    (WorkingSet.mk (Function.update entries ⟨count, h⟩ b) mask' (count + 1)).items =
      (WorkingSet.mk entries mask count).items ++ [b] := by
  unfold WorkingSet.items
  dsimp only
  apply List.ext_getElem
  · simp
    omega
  · intro k hk hk'
    rw [List.length_append, List.length_take, List.length_ofFn, List.length_singleton] at hk'
    rw [List.getElem_take, List.getElem_ofFn, List.getElem_append]
    split_ifs with hlt
    · rw [List.length_take, List.length_ofFn] at hlt
      rw [List.getElem_take, List.getElem_ofFn, Function.update_of_ne]
      intro heq
      have := Fin.mk.inj_iff.1 heq
      omega
    · rw [List.length_take, List.length_ofFn] at hlt
      obtain rfl : k = count := by omega
      simp

/-- Adding a bias, in both sets. -/
theorem Represents.add {w : WorkingSet} {set : RinexBiasSet} (h : Represents w set)
    (b : RinexBias) : ∃ w', w.add b = some w' ∧ Represents w' (set.add b) := by
  unfold WorkingSet.add
  rw [h.has_eq]
  by_cases hhas : set.has b.rinexIdx = true
  · refine ⟨w, if_pos hhas, ?_⟩
    unfold RinexBiasSet.add
    rwa [dif_pos hhas]
  · have hentries : (set.add b).entries = set.entries ++ [b] := by
      rw [RinexBiasSet.add_entries, if_neg hhas]
    -- the array has room: the longer list has no signal twice either
    have hroom : w.count < 24 := by
      have hle := (set.add b).length_le
      rw [hentries, List.length_append, List.length_singleton, ← h.count_eq] at hle
      omega
    rw [if_neg hhas, dif_pos hroom]
    refine ⟨_, rfl, ?_, ?_, ?_⟩
    · rw [@items_update _ w.presentMask _ _ hroom b, hentries, ← h.items_eq]
    · rw [hentries, List.length_append, List.length_singleton, ← h.count_eq]
    · intro i
      rw [testBit_or_shift, h.mask_iff, hentries]
      simp only [List.mem_append, List.mem_singleton]
      constructor
      · rintro (⟨b', hb', hi⟩ | hi)
        · exact ⟨b', Or.inl hb', hi⟩
        · exact ⟨b, Or.inr rfl, hi⟩
      · rintro ⟨b', hb' | rfl, hi⟩
        · exact Or.inl ⟨b', hb', hi⟩
        · exact Or.inr hi

theorem Represents.stage1Add {w : WorkingSet} {set : RinexBiasSet} (h : Represents w set)
    (sm : SystemMapping) (b : LppBias) :
    ∃ w', WorkingSet.stage1Add sm w b = some w' ∧ Represents w'
      (Spartn.stage1Add sm set b.signalId b.correction b.continuityIndicator b.fixFlag) := by
  unfold WorkingSet.stage1Add Spartn.stage1Add
  by_cases hid : 0 ≤ b.signalId ∧ b.signalId < 24
  · rw [dif_pos hid, dif_pos hid]
    dsimp only
    split_ifs with hsuffix
    · exact h.add _
    · exact ⟨w, rfl, h⟩
  · rw [dif_neg hid, dif_neg hid]
    exact ⟨w, rfl, h⟩

theorem Represents.expandEntry {w : WorkingSet} {set : RinexBiasSet} (h : Represents w set)
    (sm : SystemMapping) (isCode : Bool) (e : BiasMapEntry) :
    ∃ w', WorkingSet.expandEntry sm isCode w e = some w' ∧
      Represents w' (Spartn.expandEntry sm isCode set e) := by
  unfold WorkingSet.expandEntry Spartn.expandEntry
  rw [h.has_eq, h.has_eq, h.items_eq]
  split_ifs
  · exact ⟨w, rfl, h⟩
  · exact ⟨w, rfl, h⟩
  · exact ⟨w, rfl, h⟩
  · exact ⟨w, rfl, h⟩
  · cases set.entries.find? fun src => decide (src.rinexIdx = e.fromRinexIdx) with
    | none => exact ⟨w, rfl, h⟩
    | some src => exact h.add _

/-- A loop whose rounds keep the representation keeps it. -/
theorem Represents.foldlM {α : Type} {f : WorkingSet → α → Option WorkingSet}
    {g : RinexBiasSet → α → RinexBiasSet}
    (hstep : ∀ w set a, Represents w set → ∃ w', f w a = some w' ∧ Represents w' (g set a))
    (as : List α) {w : WorkingSet} {set : RinexBiasSet} (h : Represents w set) :
    ∃ w', as.foldlM f w = some w' ∧ Represents w' (as.foldl g set) := by
  induction as generalizing w set with
  | nil => exact ⟨w, rfl, h⟩
  | cons a as ih =>
    obtain ⟨w', hw', h'⟩ := hstep w set a h
    rw [List.foldlM_cons, hw', List.foldl_cons]
    exact ih h'

/-! ### The slots as they are kept -/

/-- `BiasSlots`: an array and a mask of the slots that are taken. -/
structure SlotArray where
  slots : SpartnSlot → BiasEntry
  mask : ℕ

namespace SlotArray

def has (result : SlotArray) (slot : SpartnSlot) : Bool := result.mask.testBit slot.1

def set (result : SlotArray) (slot : SpartnSlot) (e : BiasEntry) : SlotArray :=
  ⟨Function.update result.slots slot e, result.mask ||| 1 <<< slot.1⟩

/-- What a reader of the array finds in a slot. -/
def entry (result : SlotArray) (slot : SpartnSlot) : Option BiasEntry :=
  if result.has slot then some (result.slots slot) else none

/-- One round of the loop of `stage3_assign`. -/
def assignEntry (sm : SystemMapping) (result : SlotArray) (rb : RinexBias) : SlotArray :=
  match sm.toSpartn rb.rinexIdx with
  | some slot =>
    if result.has slot then result
    else result.set slot ⟨rb.correction, rb.continuityIndicator, rb.fixFlag⟩
  | none => result

theorem entry_set (result : SlotArray) (slot slot' : SpartnSlot) (e : BiasEntry) :
    (result.set slot e).entry slot' = if slot' = slot then some e else result.entry slot' := by
  have hhas : (result.set slot e).has slot' = true ↔ result.has slot' = true ∨ slot = slot' := by
    refine (testBit_or_shift _ _ _).trans ?_
    rw [Fin.ext_iff]
    rfl
  unfold entry
  by_cases heq : slot' = slot
  · subst heq
    rw [if_pos (hhas.2 (Or.inr rfl)), if_pos rfl]
    simp [set]
  · have hsame : (result.set slot e).has slot' = result.has slot' := by
      rw [Bool.eq_iff_iff, hhas]
      exact ⟨fun h => h.resolve_right (Ne.symm heq), Or.inl⟩
    rw [hsame, if_neg heq]
    simp [set, Function.update_of_ne heq]

/-- A round does the same to the array and to the slots of the model. -/
theorem entry_assignEntry (sm : SystemMapping) {result : SlotArray} {model : BiasSlots}
    (h : ∀ slot, result.entry slot = model.slots slot) (rb : RinexBias) (slot : SpartnSlot) :
    (assignEntry sm result rb).entry slot = (Spartn.assignEntry sm model rb).slots slot := by
  unfold assignEntry Spartn.assignEntry
  cases sm.toSpartn rb.rinexIdx with
  | none => exact h slot
  | some slot' =>
    have hhas : model.has slot'.1 = result.has slot' := by
      unfold BiasSlots.has BiasSlots.entry
      rw [dif_pos slot'.2, ← h slot', entry]
      cases result.has slot' <;> rfl
    dsimp only
    rw [hhas]
    split_ifs with hset
    · exact h slot
    · rw [entry_set, h slot]
      unfold BiasSlots.set
      dsimp only
      rw [Function.update_apply]

end SlotArray

/-- `stage3_assign`, with the array as it is found. -/
def WorkingSet.stage3Assign (sm : SystemMapping) (set : WorkingSet)
    (slots : SpartnSlot → BiasEntry) : SlotArray :=
  set.items.foldl (SlotArray.assignEntry sm) ⟨slots, 0⟩

theorem entry_stage3Assign (sm : SystemMapping) {w : WorkingSet} {set : RinexBiasSet}
    (h : Represents w set) (slots : SpartnSlot → BiasEntry) (slot : SpartnSlot) :
    (w.stage3Assign sm slots).entry slot = (Spartn.stage3Assign sm set).slots slot := by
  have hall : ∀ (biases : List RinexBias) (result : SlotArray) (model : BiasSlots),
      (∀ slot, result.entry slot = model.slots slot) →
      (biases.foldl (SlotArray.assignEntry sm) result).entry slot =
        (biases.foldl (Spartn.assignEntry sm) model).slots slot := by
    intro biases
    induction biases with
    | nil =>
      intro result model hsame
      exact hsame slot
    | cons b biases ih =>
      intro result model hsame
      exact ih _ _ (SlotArray.entry_assignEntry sm hsame b)
  unfold WorkingSet.stage3Assign Spartn.stage3Assign
  rw [h.items_eq]
  apply hall
  intro slot
  simp [SlotArray.entry, SlotArray.has, BiasSlots.empty]

/-! ### The three stages -/

/-- The three stages for one satellite; the arrays start with whatever they hold. -/
def biasPipeline (sm : SystemMapping) (map : BiasMap) (isCode : Bool) (signals : List LppBias)
    (entries : Fin 24 → RinexBias) (slots : SpartnSlot → BiasEntry) :
    Option (WorkingSet × SlotArray) := do
  let set ← signals.foldlM (WorkingSet.stage1Add sm) ⟨entries, 0, 0⟩
  let set ← map.1.foldlM (WorkingSet.expandEntry sm isCode) set
  some (set, set.stage3Assign sm slots)

/-- What the working set and the slots are at the end. -/
structure PipelineSpec (sm : SystemMapping) (map : BiasMap) (isCode : Bool)
    (signals : List LppBias) (set : WorkingSet) (result : SlotArray) : Prop where
  nodup : (set.items.map RinexBias.rinexIdx).Nodup
  count_le : set.count ≤ 24
  length_items : set.items.length = set.count
  count_eq_bits : set.count = (List.range 32).countP set.presentMask.testBit
  /-- The first element of each signal of the list is in the set, and stays. -/
  original_stays : ∀ o, (originals sm signals).find? (fun o' => decide (o'.rinexIdx = o.rinexIdx)) =
    some o → o ∈ set.items
  /-- The signals of the set are those that the map leads to. -/
  holds_iff : ∀ i, (∃ b ∈ set.items, b.rinexIdx = i) ↔
    ∃ path b, path.Sublist map.1 ∧ Derived sm isCode signals path b ∧ b.rinexIdx = i
  /-- Each bias is an original times the ratios of the frequencies along a path of the map. -/
  scaled : ∀ b ∈ set.items, ∃ path, path.Sublist map.1 ∧ Derived sm isCode signals path b ∧
    ∃ o ∈ originals sm signals,
      b.correction = o.correction *
        (path.map fun e => mapScale sm isCode e.fromRinexIdx e.toRinexIdx).prod ∧
      b.continuityIndicator = o.continuityIndicator ∧ b.fixFlag = o.fixFlag ∧
      (isCode = false →
        (∀ e ∈ path, 0 < sm.freq e.fromRinexIdx ∧ 0 < sm.freq e.toRinexIdx) →
        b.correction * sm.freq b.rinexIdx = o.correction * sm.freq o.rinexIdx) ∧
      (isCode = true → b.correction = o.correction)
  filled_iff : ∀ slot, (result.entry slot).isSome = true ↔
    ∃ b ∈ set.items, belongs sm slot b.rinexIdx = true
  /-- Behind the originals stand the mapped biases, in the order of the map entries that made
  them; a slot carries the first original of the list that belongs to it, or else the first of
  the mapped ones. -/
  carries : ∃ (fired : List BiasMapEntry) (news : List RinexBias), fired.Sublist map.1 ∧
    set.items = (stage1All sm signals).entries ++ news ∧
    List.Forall₂ (fun e b => ∃ path src, (path ++ [e]).Sublist map.1 ∧
      Derived sm isCode signals path src ∧ e.applies isCode = true ∧
        src.rinexIdx = e.fromRinexIdx ∧ b = e.mapped sm isCode src) fired news ∧
    ∀ slot, result.entry slot =
      (((originals sm signals).find? fun b => belongs sm slot b.rinexIdx).or
        (news.find? fun b => belongs sm slot b.rinexIdx)).map RinexBias.entry

/-- **The bias pipeline**, for every list of LPP and every map. -/
theorem biasPipeline_correct (sm : SystemMapping) (map : BiasMap) (isCode : Bool)
    (signals : List LppBias) (entries : Fin 24 → RinexBias) (slots : SpartnSlot → BiasEntry) :
    ∃ set result, biasPipeline sm map isCode signals entries slots = some (set, result) ∧
      PipelineSpec sm map isCode signals set result := by
  have hstart : Represents ⟨entries, 0, 0⟩ RinexBiasSet.empty :=
    ⟨rfl, rfl, fun i => by simp [RinexBiasSet.empty]⟩
  obtain ⟨w₁, hw₁, h₁⟩ := Represents.foldlM
    (fun w set b h => Represents.stage1Add h sm b) signals hstart
  obtain ⟨w₂, hw₂, h₂⟩ := Represents.foldlM
    (fun w set e h => Represents.expandEntry h sm isCode e) map.1 h₁
  obtain ⟨fired, news, hx⟩ := expanded_foldl sm isCode signals map.1
  generalize hset : map.1.foldl (expandEntry sm isCode) (stage1All sm signals) = set at hx
  have hrep : Represents w₂ set := hset ▸ h₂
  have hslot : ∀ slot, (w₂.stage3Assign sm slots).entry slot =
      (set.entries.find? fun b => belongs sm slot b.rinexIdx).map RinexBias.entry := by
    intro slot
    rw [entry_stage3Assign sm hrep, slots_stage3Assign]
  refine ⟨w₂, w₂.stage3Assign sm slots, ?_, ?_⟩
  · unfold biasPipeline
    rw [hw₁, Option.bind_eq_bind, Option.bind_some, hw₂]
    rfl
  constructor
  · rw [hrep.items_eq]
    exact set.nodup
  · rw [hrep.count_eq]
    exact set.length_le
  · rw [hrep.items_eq, hrep.count_eq]
  · exact hrep.count_eq_bits
  · intro o ho
    rw [hrep.items_eq, hx.entries_eq]
    exact List.mem_append_left _ (mem_stage1All.2 ho)
  · intro i
    rw [hrep.items_eq]
    constructor
    · rintro ⟨b, hb, hi⟩
      obtain ⟨path, hpath, hderived⟩ := hx.derived hb
      exact ⟨path, b, hpath, hderived, hi⟩
    · rintro ⟨path, b, hpath, hderived, rfl⟩
      exact List.mem_map.1 (RinexBiasSet.has_iff.1 (hx.complete path b hpath hderived))
  · intro b hb
    rw [hrep.items_eq] at hb
    obtain ⟨path, hpath, hderived⟩ := hx.derived hb
    exact ⟨path, hpath, hderived, hderived.origin⟩
  · intro slot
    rw [hslot, Option.isSome_map, List.find?_isSome, hrep.items_eq]
  · refine ⟨fired, news, hx.sublist, hrep.items_eq.trans hx.entries_eq, hx.fired_news, ?_⟩
    intro slot
    rw [hslot, hx.entries_eq, List.find?_append, find?_stage1All]

end SuplLpp.Spartn
