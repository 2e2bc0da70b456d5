import SuplLpp.Tokoro.Correction

/-!
# Grids over whole runs

The generator beside what the points of its grids should hold.

* `Generator.gridded`: the gridded correction that an input puts into effect, if any;
* `Tracked`, `trackedStep`: the generator and a `Reference` for each system, which starts anew
  where the correction point set of the corrections changes;
* `mapped_run`: every grid is mapped after its corrections, in runs whose corrections all keep it
  right (`Keeps`).
-/

namespace SuplLpp.Tokoro

open Asn Ts

namespace Generator

def mGrid (generator : Generator) : Table Gnss GridData :=
  (generator.mCorrectionData.getD .new).mGrid

/-- The gridded correction of an input that is not passed over: its system, the correction
point set and the list. -/
def gridded (generator : Generator) : Input → Option (Gnss × CorrectionPointSet × List GridElement)
  | .correction gnssId (.gridded grid) =>
      match generator.mCorrectionPointSet, satelliteGnssFromId gnssId with
      | some set, some gnss =>
          if grid.correctionPointSetId.1 = set.setId then some (gnss, set, grid.gridList.1)
          else none
      | _, _ => none
  | _ => none

theorem step_of_gridded {now : Timestamp} {generator : Generator} {input : Input} {gnss : Gnss}
    {set : CorrectionPointSet} {list : List GridElement} {mGrid : Table Gnss GridData}
    (h : generator.gridded input = some (gnss, set, list))
    (hadd : addGridded generator.mGrid gnss set list = some mGrid) :
    ∃ after, generator.step now input = some after ∧ after.mGrid = mGrid := by
  unfold gridded at h
  split at h
  next gnssId grid =>
    split at h
    next set' gnss' hset hgnss =>
      split_ifs at h with hid
      cases h
      unfold step
      simp only [hset, hgnss]
      unfold CorrectionData.addCorrection CorrectionData.addGridded
      unfold Generator.mGrid at hadd
      dsimp only
      rw [if_neg (not_not_intro hid), hadd]
      exact ⟨_, rfl, rfl⟩
    next => cases h
  next => cases h

theorem step_of_not_gridded {now : Timestamp} {generator : Generator} {input : Input}
    (h : generator.gridded input = none) :
    ∃ after, generator.step now input = some after ∧ after.mGrid = generator.mGrid := by
  cases input with
  | correctionPoints set => exact ⟨_, rfl, rfl⟩
  | correction gnssId correction =>
    unfold step
    dsimp only
    split
    next set gnss hset hgnss =>
      by_cases hkind : ∃ grid, correction = .gridded grid
      · obtain ⟨grid, rfl⟩ := hkind
        unfold gridded at h
        simp only [hset, hgnss] at h
        split_ifs at h with hid
        unfold CorrectionData.addCorrection CorrectionData.addGridded
        dsimp only
        rw [if_pos hid]
        exact ⟨_, rfl, rfl⟩
      · -- a correction of another kind always leads to a state
        push Not at hkind
        obtain ⟨data, hdata⟩ : ∃ data, CorrectionData.addCorrection now gnss set
            { generator.mCorrectionData.getD .new with correctionPointSet := some set }
            correction = some data := by
          cases correction with
          | gridded grid => exact absurd rfl (hkind grid)
          | _ => exact ⟨_, rfl⟩
        rw [hdata]
        exact ⟨_, rfl, (CorrectionData.mGrid_addCorrection now gnss set _ hdata hkind).trans rfl⟩
    next => exact ⟨_, rfl, rfl⟩

end Generator

/-! ### The generator and what it should hold -/

structure Tracked where
  generator : Option Generator
  reference : Gnss → Option Reference

def Tracked.new : Tracked := ⟨some .new, fun _ => none⟩

/-- The grid of a system after a gridded correction for it, and what it should hold. -/
structure Observed where
  grid : Option GridData
  reference : Reference

/-- An input, and what is seen of a gridded correction. -/
def trackedStep (now : Timestamp) (t : Tracked) (input : Input) : Tracked × List Observed :=
  match t.generator with
  | none => (t, [])
  | some generator =>
      let after := generator.step now input
      match generator.gridded input with
      | none => ({ t with generator := after }, [])
      | some (gnss, set, list) =>
          let r := Reference.after (t.reference gnss) gnss set list
          ({ generator := after, reference := Function.update t.reference gnss (some r) },
            [{ grid := after.bind (·.mGrid.lookup gnss), reference := r }])

/-- The grid maps what it should hold. -/
def Observed.IsMapped (o : Observed) : Prop := ∃ grid, o.grid = some grid ∧ Mapped grid o.reference

/-- What the sender of a gridded correction sees to: at most 64 nodes, and one element for each
node with corrections. -/
def WellFormed (set : CorrectionPointSet) (list : List GridElement) : Prop :=
  set.size ≤ 64 ∧ list.length = set.pointCount

/-- A gridded correction of the input is well formed, and keeps the grid of its system right. -/
def KeepsMapped (t : Tracked) (input : Input) : Prop :=
  ∀ generator gnss set list, t.generator = some generator →
    generator.gridded input = some (gnss, set, list) →
      WellFormed set list ∧
        Keeps (generator.mGrid.lookup gnss) (t.reference gnss) gnss set list

/-- What holds between two inputs: the generator runs, and its grids are as they should be. -/
def Valid (t : Tracked) : Prop :=
  ∃ generator, t.generator = some generator ∧ ∀ gnss,
    (generator.mGrid.lookup gnss = none → t.reference gnss = none) ∧
      ∀ grid, generator.mGrid.lookup gnss = some grid →
        ∃ r, t.reference gnss = some r ∧ Grounded grid r

theorem valid_new : Valid .new :=
  ⟨.new, rfl, fun _ => ⟨fun _ => rfl, fun _ h => by cases h⟩⟩

/-- **The step rule.** -/
theorem step_mapped {now : Timestamp} {t : Tracked} {input : Input} (ht : Valid t)
    (hkeeps : KeepsMapped t input) :
    Valid (trackedStep now t input).1 ∧ ∀ o ∈ (trackedStep now t input).2, o.IsMapped := by
  obtain ⟨generator, hgenerator, hgrids⟩ := ht
  unfold trackedStep
  simp only [hgenerator]
  cases hinput : generator.gridded input with
  | none =>
    obtain ⟨after, hstep, hgrid⟩ : ∃ after, generator.step now input = some after ∧
        after.mGrid = generator.mGrid := Generator.step_of_not_gridded hinput
    refine ⟨⟨after, hstep, fun gnss => ?_⟩, by rintro o ⟨⟩⟩
    rw [hgrid]
    exact hgrids gnss
  | some gridded =>
    obtain ⟨gnss, set, list⟩ := gridded
    obtain ⟨⟨-, hlength⟩, hkeep⟩ := hkeeps generator gnss set list hgenerator hinput
    obtain ⟨grid, hadd, hgrounded⟩ :=
      grounded_addGridded (hgrids gnss).1 (hgrids gnss).2 hlength hkeep
    obtain ⟨after, hstep, hgrid⟩ : ∃ after, generator.step now input = some after ∧
        after.mGrid = _ := Generator.step_of_gridded hinput hadd
    constructor
    · refine ⟨after, hstep, fun gnss' => ?_⟩
      rw [hgrid, Table.lookup_insert]
      dsimp only
      by_cases hsame : gnss' = gnss
      · subst hsame
        rw [if_pos rfl, Function.update_self]
        refine ⟨(by rintro ⟨⟩), fun grid' h => ?_⟩
        cases h
        exact ⟨_, rfl, hgrounded⟩
      · rw [if_neg hsame, Function.update_of_ne hsame]
        exact hgrids gnss'
    · refine List.forall_mem_singleton.2 ⟨grid, ?_, hgrounded.toMapped⟩
      show (generator.step now input).bind _ = some grid
      rw [hstep, Option.bind_some, hgrid, Table.lookup_insert, if_pos rfl]

/-- **Grids are mapped** after every gridded correction, in runs whose corrections all keep
them right. -/
theorem mapped_run (now : Timestamp) (inputs : List Input)
    (h : Mealy.Along (fun t _ input => KeepsMapped t input) (trackedStep now) .new [] inputs) :
    ∀ o ∈ (Mealy.run (trackedStep now) .new inputs).2, o.IsMapped := by
  refine (Mealy.invariant_run (P := fun t out => Valid t ∧ ∀ o ∈ out, o.IsMapped)
    (fun t out input ht hkeeps => ?_) ⟨valid_new, by rintro o ⟨⟩⟩ h).2
  obtain ⟨hvalid, hmapped⟩ := step_mapped ht.1 hkeeps
  exact ⟨hvalid, List.forall_mem_append.2 ⟨ht.2, hmapped⟩⟩

/-- A row of three nodes. -/
def threeNodes (bitmask : BitVec 64) : CorrectionPointSet where
  setId := 1
  gridPointCount := 3
  referencePointLatitude := 60
  referencePointLongitude := 20
  stepOfLatitude := 1
  stepOfLongitude := 1
  numberOfStepsLatitude := 0
  numberOfStepsLongitude := 2
  bitmask := bitmask

/-- A gridded correction for two nodes, with troposphere only. -/
def twoElements : Input :=
  .correction .gps (.gridded
    { epochTime := ⟨.gps, ⟨0, Asn.Integer.mem⟩, ⟨0, Asn.Integer.mem⟩, none⟩
      iodSsr := ⟨0, Asn.Integer.mem⟩
      troposphericDelayQualityIndicator := none
      correctionPointSetId := ⟨1, Asn.Integer.mem⟩
      gridList := ⟨[⟨some ⟨⟨0, Asn.Integer.mem_neg⟩, ⟨0, Asn.Integer.mem_neg⟩⟩, none⟩,
        ⟨some ⟨⟨1, by decide⟩, ⟨1, by decide⟩⟩, none⟩], by decide⟩ })

/-- The first two nodes have corrections. -/
theorem mapped_run_first :
    (Mealy.run (trackedStep 0) .new
        [.correctionPoints (threeNodes 0xC000000000000000#64), twoElements]).2.length = 1 ∧
      ∀ o ∈ (Mealy.run (trackedStep 0) .new
        [.correctionPoints (threeNodes 0xC000000000000000#64), twoElements]).2, o.IsMapped := by
  refine ⟨by decide +kernel, mapped_run 0 _ ⟨?_, ?_, trivial⟩⟩
  · intro generator gnss set list hgenerator hgridded
    cases hgridded
  · intro generator gnss set list hgenerator hgridded
    cases hgenerator
    cases hgridded
    refine ⟨⟨by decide, by decide⟩, fun i j hij hj hset => ?_, fun old r hold => by cases hold⟩
    have hj : j < 3 := hj
    interval_cases j
    · omega
    · interval_cases i
      decide
    · exact absurd hset (by decide)

/-- The first and the last of three nodes have corrections: the second element goes to the node
between them, and the last node is not valid. -/
theorem not_mapped_hole : ¬∀ o ∈ (Mealy.run (trackedStep 0) .new
    [.correctionPoints (threeNodes 0xA000000000000000#64), twoElements]).2, o.IsMapped := by
  intro h
  have hvalid : (Mealy.run (trackedStep 0) .new
      [.correctionPoints (threeNodes 0xA000000000000000#64), twoElements]).2.map
        (fun o => (o.grid.map fun grid => grid.gridPoints.map (·.valid),
          o.reference.set.present 2)) = [(some [true, false, false], true)] := by
    decide +kernel
  obtain ⟨o, _, hrun, ho, -⟩ := List.map_eq_cons_iff.1 hvalid
  obtain ⟨hgrid, hset⟩ := Prod.mk.inj ho
  obtain ⟨grid, hsome, hmapped⟩ := h o (hrun ▸ List.mem_cons_self)
  rw [hsome, Option.map_some, Option.some.injEq] at hgrid
  have hlast : (grid.gridPoints.map (·.valid))[2]? = some false := by rw [hgrid]; rfl
  rw [List.getElem?_map, Option.map_eq_some_iff] at hlast
  obtain ⟨point, hpoint, hpointValid⟩ := hlast
  have := hmapped.valid 2 point hpoint
  rw [hpointValid, hset] at this
  cases this

end SuplLpp.Tokoro
