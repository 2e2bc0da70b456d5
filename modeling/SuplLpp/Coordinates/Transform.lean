import Mathlib
import SuplLpp.Coordinates.Helmert

/-!
# Transforming a state between frames

`TransformGraph` links the frames that a transformation is known between, and `transform` takes a
state along the path that `find_path` gives.

* `applyEpoch` and `apply`, the transformation of one edge; what the movement of the ground makes of
  a position between ETRF2014 and SWEREF 99 is a parameter;
* `edges`, the graph that the constructor builds; `Linked`, the frames it links, and
  `reaches_iff`: between which nodes it has a path;
* `transform`, and `transform_spec`: the steps follow the path, and the state comes to the frame and
  the epoch of the request;
* `apply_apply_within`: the two directions of a pair of frames undo each other.
-/

namespace SuplLpp.Coordinates

open ShortestPath (PriorityQueue Walk)

/-- What `nkgrf17vel` and the fixed parameters make of a state that goes between ETRF2014 and
SWEREF 99: the position and the velocity. -/
structure GroundMotion where
  toSweref99 : State Vector3d → Vector3d × Vector3d
  toEtrf2014 : State Vector3d → ℚ → Vector3d × Vector3d

/-! ### One edge -/

/-- `Transform<FromFrame, ToFrame>::apply_epoch`. -/
def applyEpoch : FrameId → FrameId → ℚ → ℚ → ℚ
  | .etrf2014, .sweref99, _, _ => 1999.5
  | .sweref99, .etrf2014, _, targetEpoch => targetEpoch
  | _, _, currentEpoch, _ => currentEpoch

/-- `apply` of the transformations with parameters. -/
def applyHelmert (toFrame : FrameId) (params : TimeDependentHelmertParams)
    (state : State Vector3d) : State Vector3d :=
  let dt := state.epoch - params.referenceEpoch
  let epochParams := Helmert7Params.atEpoch params.base params.rate dt
  { frame := toFrame
    epoch := state.epoch
    position := epochParams.applyPosition state.position
    velocity := Helmert7Params.applyVelocity epochParams params.rate state.position
      state.velocity }

/-- `Transform<FromFrame, ToFrame>::apply`.  WGS 84 is the same as ITRF2020. -/
def apply (motion : GroundMotion) (fromFrame toFrame : FrameId) (state : State Vector3d)
    (targetEpoch : ℚ) : State Vector3d :=
  match fromFrame, toFrame with
  | .etrf2014, .sweref99 =>
      { frame := .sweref99
        epoch := 1999.5
        position := (motion.toSweref99 state).1
        velocity := (motion.toSweref99 state).2 }
  | .sweref99, .etrf2014 =>
      { frame := .etrf2014
        epoch := targetEpoch
        position := (motion.toEtrf2014 state targetEpoch).1
        velocity := (motion.toEtrf2014 state targetEpoch).2 }
  | fromFrame, toFrame =>
      match params fromFrame toFrame with
      | some p => applyHelmert toFrame p state
      | none => { state with frame := toFrame }

theorem apply_frame (motion : GroundMotion) (fromFrame toFrame : FrameId)
    (state : State Vector3d) (targetEpoch : ℚ) :
    (apply motion fromFrame toFrame state targetEpoch).frame = toFrame := by
  unfold apply
  split
  · rfl
  · rfl
  · split <;> rfl

theorem apply_epoch (motion : GroundMotion) (fromFrame toFrame : FrameId)
    (state : State Vector3d) (targetEpoch : ℚ) :
    (apply motion fromFrame toFrame state targetEpoch).epoch =
      applyEpoch fromFrame toFrame state.epoch targetEpoch := by
  unfold apply applyEpoch
  split
  · rfl
  · rfl
  · split <;> split <;> first | rfl | contradiction

/-! ### The graph -/

/-- `add_edge_impl`. -/
def edge (motion : GroundMotion) (fromFrame toFrame : FrameId) : TransformEdge Vector3d where
  fromFrame := fromFrame
  toFrame := toFrame
  epochFunc := applyEpoch fromFrame toFrame
  stateFunc := apply motion fromFrame toFrame

/-- The pairs of frames that the constructor links both ways, in its order. -/
def pairs : List (FrameId × FrameId) :=
  [(.itrf2020, .itrf2014), (.itrf2020, .itrf2008), (.itrf2020, .itrf2005),
   (.itrf2020, .itrf2000), (.itrf2020, .itrf97), (.itrf2020, .itrf96), (.itrf2020, .itrf94),
   (.itrf2020, .itrf93), (.itrf2020, .itrf92), (.itrf2020, .itrf91), (.itrf2020, .itrf90),
   (.itrf2020, .itrf89), (.itrf2020, .itrf88), (.wgs84G2296, .itrf2020), (.itrf2014, .etrf2014),
   (.itrf2005, .etrf2005), (.itrf2008, .etrf2014), (.itrf2005, .etrf2014),
   (.itrf2020, .etrf2014), (.itrf2000, .etrf2014), (.itrf97, .etrf2014), (.itrf96, .etrf2014),
   (.itrf94, .etrf2014), (.itrf93, .etrf2014), (.itrf92, .etrf2014), (.itrf91, .etrf2014),
   (.itrf90, .etrf2014), (.itrf89, .etrf2014), (.itrf2014, .etrf2000), (.itrf2008, .etrf2000),
   (.itrf2005, .etrf2000), (.itrf2020, .etrf2000), (.itrf2000, .etrf2000), (.itrf97, .etrf2000),
   (.itrf96, .etrf2000), (.itrf94, .etrf2000), (.itrf93, .etrf2000), (.itrf92, .etrf2000),
   (.itrf91, .etrf2000), (.itrf90, .etrf2000), (.itrf89, .etrf2000), (.itrf2020, .etrf2020),
   (.itrf89, .etrf89), (.itrf94, .etrf94), (.itrf89, .etrf2020), (.itrf2014, .etrf2020),
   (.itrf2008, .etrf2020), (.itrf2005, .etrf2020), (.itrf2000, .etrf2020), (.itrf97, .etrf2020),
   (.itrf96, .etrf2020), (.itrf94, .etrf2020), (.itrf93, .etrf2020), (.itrf92, .etrf2020),
   (.itrf91, .etrf2020), (.itrf90, .etrf2020), (.wgs84G2296, .itrf2020)]

/-- The edges that the constructor adds. -/
def edges (motion : GroundMotion) : List (TransformEdge Vector3d) :=
  pairs.flatMap (fun p => [edge motion p.1 p.2, edge motion p.2 p.1]) ++
    [edge motion .etrf2014 .sweref99, edge motion .sweref99 .etrf2014]

/-- The frames at the two ends of every edge. -/
def ends : List (FrameId × FrameId) :=
  pairs.flatMap (fun p => [p, p.swap]) ++ [(.etrf2014, .sweref99), (.sweref99, .etrf2014)]

theorem mem_edges {motion : GroundMotion} {e : TransformEdge Vector3d} :
    e ∈ edges motion ↔ ∃ p ∈ ends, e = edge motion p.1 p.2 := by
  have hends : edges motion = ends.map fun p => edge motion p.1 p.2 := by
    simp [edges, ends, List.map_flatMap]
  rw [hends, List.mem_map]
  simp only [eq_comm]

/-- A frame that the graph knows. -/
def Linked (f : FrameId) : Prop := f ∈ ends.map (·.1)

instance (f : FrameId) : Decidable (Linked f) := inferInstanceAs (Decidable (_ ∈ _))

theorem linked_of_mem : ∀ p ∈ ends, Linked p.1 ∧ Linked p.2 := by decide +kernel

theorem etrf2014_sweref99_mem : (FrameId.etrf2014, FrameId.sweref99) ∈ ends := by
  decide +kernel

theorem sweref99_etrf2014_mem : (FrameId.sweref99, FrameId.etrf2014) ∈ ends := by
  decide +kernel

theorem etrf2014_itrf2020_mem : (FrameId.etrf2014, FrameId.itrf2020) ∈ ends := by
  decide +kernel

/-- A frame from which ITRF2020 is one edge away, in both directions, and which is one edge away
from `f` or is `f`. -/
def relay : FrameId → FrameId
  | .etrf89 => .itrf89
  | .etrf94 => .itrf94
  | .etrf2005 => .itrf2005
  | .sweref99 => .etrf2014
  | f => f

theorem relay_ne (f : FrameId) : relay f ≠ .sweref99 := by
  cases f <;> decide

theorem relay_spec : ∀ f ∈ ends.map (·.1),
    (relay f = f ∨ (f, relay f) ∈ ends ∧ (relay f, f) ∈ ends) ∧
      (relay f = .itrf2020 ∨ (relay f, .itrf2020) ∈ ends ∧ (.itrf2020, relay f) ∈ ends) := by
  decide +kernel

theorem applyEpoch_cases (f g : FrameId) (e t : ℚ) :
    applyEpoch f g e t = e ∨ applyEpoch f g e t = 1999.5 ∨ applyEpoch f g e t = t := by
  unfold applyEpoch
  split
  · exact Or.inr (Or.inl rfl)
  · exact Or.inr (Or.inr rfl)
  · exact Or.inl rfl

/-- Only one edge leads to SWEREF 99. -/
theorem applyEpoch_sweref99 : ∀ p ∈ ends, p.2 = .sweref99 → p.1 = .etrf2014 := by
  decide +kernel

theorem applyEpoch_self {f g : FrameId} (h : f ≠ .etrf2014 ∨ g ≠ .sweref99) (e : ℚ) :
    applyEpoch f g e e = e := by
  unfold applyEpoch
  split
  · exact absurd h (by simp)
  · rfl
  · rfl

/-- Asking for the epoch that an edge gives, the edge gives it. -/
theorem applyEpoch_applyEpoch (f g : FrameId) (e t : ℚ) :
    applyEpoch f g e (applyEpoch f g e t) = applyEpoch f g e t := by
  unfold applyEpoch
  split
  · rfl
  · rfl
  · rfl

section Graph

variable {motion : GroundMotion} {start goal : PathNode}

/-- The epochs of a request that the search does not take for each other. -/
structure EpochsApart (start goal : PathNode) : Prop where
  request : |start.epoch - goal.epoch| < 1 / 1000 → start.epoch = goal.epoch
  start : |1999.5 - start.epoch| < 1 / 1000 → 1999.5 = start.epoch
  goal : |1999.5 - goal.epoch| < 1 / 1000 → 1999.5 = goal.epoch

/-- The search comes to three epochs at most. -/
theorem EpochsApart.apart (h : EpochsApart start goal) :
    Apart (edges motion) start goal {start.epoch, 1999.5, goal.epoch} where
  start_mem := by simp
  keep_mem e he x hx := by
    obtain ⟨p, -, rfl⟩ := mem_edges.1 he
    obtain hp | hp | hp := applyEpoch_cases p.1 p.2 x x <;> simp [edge, hp] <;> simpa using hx
  move_mem e he x hx := by
    obtain ⟨p, -, rfl⟩ := mem_edges.1 he
    obtain hp | hp | hp := applyEpoch_cases p.1 p.2 x goal.epoch <;> simp [edge, hp]
    simpa using hx
  start_apart e he hnear := by
    simp only [Finset.mem_insert, Finset.mem_singleton] at he
    obtain rfl | rfl | rfl := he
    · rfl
    · exact h.start hnear
    · exact (h.request (by rwa [abs_sub_comm])).symm
  goal_apart e he hnear := by
    simp only [Finset.mem_insert, Finset.mem_singleton] at he
    obtain rfl | rfl | rfl := he
    · exact h.request hnear
    · exact h.goal hnear
    · rfl

/-- There is a path to `v`, for a request of the epoch `toEpoch`. -/
def Reaches (motion : GroundMotion) (toEpoch : ℚ) (start v : PathNode) : Prop :=
  ∃ p c, Walk (adj (edges motion) toEpoch) start (v :: p) c

variable {toEpoch : ℚ} {v : PathNode}

/-- An edge that keeps the epoch where it can. -/
theorem Reaches.keep (h : Reaches motion toEpoch start v) {g : FrameId}
    (hmem : (v.frame, g) ∈ ends) :
    Reaches motion toEpoch start ⟨g, applyEpoch v.frame g v.epoch v.epoch⟩ := by
  obtain ⟨p, c, hwalk⟩ := h
  exact ⟨_, _, hwalk.step (mem_adj.2
    ⟨edge motion v.frame g, mem_edges.2 ⟨(v.frame, g), hmem, rfl⟩, rfl, rfl, Or.inl ⟨rfl, rfl⟩⟩)⟩

/-- An edge that leads to the epoch of the request where it can. -/
theorem Reaches.move (h : Reaches motion toEpoch start v) {g : FrameId}
    (hmem : (v.frame, g) ∈ ends) :
    Reaches motion toEpoch start ⟨g, applyEpoch v.frame g v.epoch toEpoch⟩ := by
  obtain ⟨p, c, hwalk⟩ := h
  exact ⟨_, _, hwalk.step (mem_adj.2
    ⟨edge motion v.frame g, mem_edges.2 ⟨(v.frame, g), hmem, rfl⟩, rfl, rfl, Or.inr ⟨rfl, rfl⟩⟩)⟩

/-- Any frame is reached from ITRF2020 at the same epoch, SWEREF 99 apart. -/
theorem Reaches.of_itrf2020 {e : ℚ} (h : Reaches motion toEpoch start ⟨.itrf2020, e⟩)
    {f : FrameId} (hf : Linked f) (hne : f ≠ .sweref99) :
    Reaches motion toEpoch start ⟨f, e⟩ := by
  obtain ⟨hout, hin⟩ := relay_spec f hf
  have hrelay : Reaches motion toEpoch start ⟨relay f, e⟩ := by
    obtain heq | ⟨-, hmem⟩ := hin
    · rwa [heq]
    · have hstep := h.keep hmem
      rwa [applyEpoch_self (Or.inl (by simp))] at hstep
  obtain heq | ⟨-, hmem⟩ := hout
  · rwa [heq] at hrelay
  · have hstep := hrelay.keep hmem
    rwa [applyEpoch_self (Or.inr hne)] at hstep

/-- ITRF2020 is reached from every frame at the same epoch. -/
theorem reaches_itrf2020 (hstart : Linked start.frame) :
    Reaches motion toEpoch start ⟨.itrf2020, start.epoch⟩ := by
  obtain ⟨hout, hin⟩ := relay_spec _ hstart
  have hself : Reaches motion toEpoch start ⟨start.frame, start.epoch⟩ := ⟨[], 0, Walk.start⟩
  have hrelay : Reaches motion toEpoch start ⟨relay start.frame, start.epoch⟩ := by
    obtain heq | ⟨hmem, -⟩ := hout
    · rwa [heq]
    · have hstep := hself.keep hmem
      rwa [applyEpoch_self (Or.inr (relay_ne start.frame))] at hstep
  obtain heq | ⟨hmem, -⟩ := hin
  · rwa [heq] at hrelay
  · have hstep := hrelay.keep hmem
    rwa [applyEpoch_self (Or.inr (by decide))] at hstep

/-- Where the way to another frame may end. -/
def Reachable (start goal : PathNode) : Prop :=
  start = goal ∨
    Linked start.frame ∧ Linked goal.frame ∧ (goal.frame = .sweref99 → goal.epoch = 1999.5)

/-- Between two frames of the graph there is a way, over SWEREF 99 to change the epoch; to SWEREF 99
itself only at its own epoch. -/
theorem reaches_iff : Reaches motion goal.epoch start goal ↔ Reachable start goal := by
  constructor
  · rintro ⟨p, c, hwalk⟩
    -- The first edge leaves a frame of the graph, the last one enters one.
    have hlinked : ∀ q d, Walk (adj (edges motion) goal.epoch) start q d →
        q = [start] ∨ Linked start.frame := by
      intro q d hq
      induction hq with
      | start => exact Or.inl rfl
      | @step u v w c p hq hedge ih =>
        obtain heq | hlink := ih
        · obtain ⟨rfl, rfl⟩ : u = start ∧ p = [] := by simpa using heq
          obtain ⟨e, he, hfrom, -, -⟩ := mem_adj.1 hedge
          obtain ⟨pair, hpair, rfl⟩ := mem_edges.1 he
          exact Or.inr (hfrom ▸ (linked_of_mem pair hpair).1)
        · exact Or.inr hlink
    cases hwalk with
    | start => exact Or.inl rfl
    | @step u _ w c p hwalk hedge =>
      refine Or.inr ⟨?_, ?_⟩
      · obtain heq | hlink := hlinked _ _ (hwalk.step hedge)
        · simp at heq
        · exact hlink
      · obtain ⟨e, he, hfrom, hto, hepoch⟩ := mem_adj.1 hedge
        obtain ⟨pair, hpair, rfl⟩ := mem_edges.1 he
        refine ⟨hto ▸ (linked_of_mem pair hpair).2, fun hsweref => ?_⟩
        have h₂ : pair.2 = .sweref99 := hto.trans hsweref
        have h₁ := applyEpoch_sweref99 pair hpair h₂
        have hfixed : ∀ x y, (edge motion pair.1 pair.2).epochFunc x y = 1999.5 := by
          intro x y
          rw [h₁, h₂]
          rfl
        obtain ⟨hx, -⟩ | ⟨hx, -⟩ := hepoch
        · exact hx.symm.trans (hfixed _ _)
        · exact hx.symm.trans (hfixed _ _)
  · rintro (rfl | ⟨hstart, hgoal, hsweref⟩)
    · exact ⟨[], 0, Walk.start⟩
    · have hout : Reaches motion goal.epoch start ⟨.sweref99, 1999.5⟩ :=
        ((reaches_itrf2020 hstart).of_itrf2020 (linked_of_mem _ etrf2014_sweref99_mem).1
          (by decide)).keep etrf2014_sweref99_mem
      by_cases hframe : goal.frame = .sweref99
      · have hepoch := hsweref hframe
        obtain ⟨f, e⟩ := goal
        subst hframe hepoch
        exact hout
      · have hback : Reaches motion goal.epoch start ⟨.itrf2020, goal.epoch⟩ :=
          (hout.move sweref99_etrf2014_mem).keep etrf2014_itrf2020_mem
        exact hback.of_itrf2020 hgoal hframe

/-- What `find_path` finds on the graph of the constructor: a path of least cost to a node that can
be reached, and nothing where it cannot. -/
theorem findPath_answer (q : PriorityQueue PathNode ℚ) (motion : GroundMotion)
    (h : EpochsApart start goal) :
    ∃ path, (∃ enough, ∀ rounds, enough ≤ rounds →
        findPath q (edges motion) rounds start goal = some path) ∧
      (Reachable start goal ∧ (∃ c, Leads (edges motion) start goal path c ∧
          ∀ path' c', Leads (edges motion) start goal path' c' → c ≤ c') ∨
        ¬ Reachable start goal ∧ path = []) := by
  obtain ⟨path, hpath, ⟨c, hleads, hleast⟩ | ⟨rfl, hnone⟩⟩ := findPath_spec q h.apart
  · refine ⟨path, hpath, Or.inl ⟨?_, c, hleads, hleast⟩⟩
    obtain ⟨p, -, hwalk⟩ := hleads
    exact reaches_iff.1 ⟨p, c, hwalk⟩
  · refine ⟨[], hpath, Or.inr ⟨fun hreach => ?_, rfl⟩⟩
    have hwalk : Reaches motion goal.epoch start goal := reaches_iff.2 hreach
    obtain ⟨p, c, hwalk⟩ := hwalk
    exact hnone _ c ⟨p, rfl, hwalk⟩

/-- `find_path` on the graph of the constructor: it comes back, with a path if and only if the
frames are linked and the epoch can be had. -/
theorem findPath_edges (q : PriorityQueue PathNode ℚ) (motion : GroundMotion)
    (h : EpochsApart start goal) :
    ∃ path, (∃ enough, ∀ rounds, enough ≤ rounds →
        findPath q (edges motion) rounds start goal = some path) ∧
      (path ≠ [] ↔ Reachable start goal) ∧
      (path ≠ [] → ∃ c, Leads (edges motion) start goal path c ∧
        ∀ path' c', Leads (edges motion) start goal path' c' → c ≤ c') := by
  obtain ⟨path, hpath, ⟨hreach, hleads⟩ | ⟨hreach, rfl⟩⟩ := findPath_answer q motion h
  · refine ⟨path, hpath, iff_of_true ?_ hreach, fun _ => hleads⟩
    obtain ⟨c, ⟨p, rfl, -⟩, -⟩ := hleads
    simp
  · exact ⟨[], hpath, iff_of_false (by simp) hreach, fun hne => absurd rfl hne⟩

/-- The ground does not move. -/
def GroundMotion.still : GroundMotion where
  toSweref99 s := (s.position, s.velocity)
  toEtrf2014 s _ := (s.position, s.velocity)

theorem epochsApart_sweref99 : EpochsApart ⟨.itrf2014, 2020.25⟩ ⟨.sweref99, 1999.5⟩ where
  request h := by norm_num at h
  start h := by norm_num at h
  goal _ := rfl

theorem findPath_edges_sweref99 :
    ∃ path, (∃ enough, ∀ rounds, enough ≤ rounds →
        findPath PriorityQueue.least (edges .still) rounds ⟨.itrf2014, 2020.25⟩
          ⟨.sweref99, 1999.5⟩ = some path) ∧
      (path ≠ [] ↔ Reachable ⟨.itrf2014, 2020.25⟩ ⟨.sweref99, 1999.5⟩) ∧
      (path ≠ [] → ∃ c, Leads (edges .still) ⟨.itrf2014, 2020.25⟩ ⟨.sweref99, 1999.5⟩ path c ∧
        ∀ path' c', Leads (edges .still) ⟨.itrf2014, 2020.25⟩ ⟨.sweref99, 1999.5⟩ path' c' →
          c ≤ c') :=
  findPath_edges PriorityQueue.least .still epochsApart_sweref99

end Graph

/-! ### Transforming along the path -/

structure TransformStep where
  stateIn : State Vector3d
  stateOut : State Vector3d

structure TransformResult where
  finalPosition : Vector3d
  finalVelocity : Vector3d
  finalEpoch : ℚ
  steps : List TransformStep

/-- The loop over the edges for one step of the path: the first edge between the two frames. -/
def takeStep (edges : List (TransformEdge Vector3d)) (prev next : PathNode)
    (s : State Vector3d × List TransformStep) : State Vector3d × List TransformStep :=
  match edges.find? fun e => e.fromFrame = prev.frame ∧ e.toFrame = next.frame with
  | some e =>
      let nextState := e.stateFunc s.1 next.epoch
      (nextState, s.2 ++ [⟨s.1, nextState⟩])
  | none => s

/-- The loop over the path. -/
def follow (edges : List (TransformEdge Vector3d)) :
    PathNode → List PathNode → State Vector3d × List TransformStep →
      State Vector3d × List TransformStep
  | _, [], s => s
  | prev, next :: path, s => follow edges next path (takeStep edges prev next s)

/-- `transform`, with a bound on the rounds of the search. -/
def transform (q : PriorityQueue PathNode ℚ) (edges : List (TransformEdge Vector3d)) (rounds : ℕ)
    (start goal : PathNode) (position velocity : Vector3d) : Option TransformResult :=
  (findPath q edges rounds start goal).map fun path =>
    match path with
    | [] => ⟨position, velocity, start.epoch, []⟩
    | first :: rest =>
        let s := follow edges first rest (⟨start.frame, start.epoch, position, velocity⟩, [])
        ⟨s.1.position, s.1.velocity, s.1.epoch, s.2⟩

def State.node (s : State Vector3d) : PathNode := ⟨s.frame, s.epoch⟩

/-- `steps` take the state `s` to the state `t` by the transformations of `motion`, over the nodes
`path`. -/
inductive Transforms (motion : GroundMotion) (s : State Vector3d) :
    List PathNode → List TransformStep → State Vector3d → Prop
  | start : Transforms motion s [s.node] [] s
  | step {path : List PathNode} {steps : List TransformStep} {t : State Vector3d} {v : PathNode} :
      Transforms motion s path steps t →
      Transforms motion s (path ++ [v])
        (steps ++ [⟨t, apply motion t.frame v.frame t v.epoch⟩])
        (apply motion t.frame v.frame t v.epoch)

section Transform

variable {motion : GroundMotion} {start goal : PathNode}

theorem follow_append (edges : List (TransformEdge Vector3d)) (prev : PathNode)
    (path : List PathNode) (v : PathNode) (s : State Vector3d × List TransformStep) :
    follow edges prev (path ++ [v]) s =
      takeStep edges ((prev :: path).getLast (List.cons_ne_nil _ _)) v
        (follow edges prev path s) := by
  induction path generalizing prev s with
  | nil => rfl
  | cons next path ih => simpa [follow] using ih next (takeStep edges prev next s)

/-- Any edge between the two frames does the same. -/
theorem takeStep_edges {u v : PathNode} (h : (u.frame, v.frame) ∈ ends)
    (s : State Vector3d × List TransformStep) :
    takeStep (edges motion) u v s =
      (apply motion u.frame v.frame s.1 v.epoch,
        s.2 ++ [⟨s.1, apply motion u.frame v.frame s.1 v.epoch⟩]) := by
  unfold takeStep
  split
  next e he =>
    obtain ⟨hfrom, hto⟩ : e.fromFrame = u.frame ∧ e.toFrame = v.frame := by
      simpa using List.find?_some he
    obtain ⟨p, -, rfl⟩ := mem_edges.1 (List.mem_of_find?_eq_some he)
    have hp₁ : p.1 = u.frame := hfrom
    have hp₂ : p.2 = v.frame := hto
    simp only [edge, hp₁, hp₂]
  next hnone =>
    have hne := List.find?_eq_none.1 hnone _ (mem_edges.2 ⟨_, h, rfl⟩)
    simp [edge] at hne

/-- Following a path, the state is at the last node of the path. -/
theorem follow_walk {toEpoch : ℚ} {p : List PathNode} {c : ℚ}
    (h : Walk (adj (edges motion) toEpoch) start p c) (s : State Vector3d)
    (hs : s.node = start) :
    ∃ rest t steps, p.reverse = start :: rest ∧
      follow (edges motion) start rest (s, []) = (t, steps) ∧
      Transforms motion s p.reverse steps t ∧ some t.node = p.head? := by
  induction h with
  | start => exact ⟨[], s, [], rfl, rfl, hs ▸ Transforms.start, congrArg some hs⟩
  | @step u v w c p _ hedge ih =>
    obtain ⟨rest, t, steps, hrev, hfollow, htransforms, hnode⟩ := ih
    have ht : t.node = u := by simpa using hnode
    obtain ⟨e, he, hfrom, hto, hepoch⟩ := mem_adj.1 hedge
    obtain ⟨pair, hpair, rfl⟩ := mem_edges.1 he
    have hmem : (u.frame, v.frame) ∈ ends := by
      rw [← hfrom, ← hto]
      exact hpair
    have hlast : (start :: rest).getLast (List.cons_ne_nil _ _) = u := by
      have hl : (start :: rest).getLast? = some u := by simp [← hrev]
      exact Option.some.inj ((List.getLast?_eq_some_getLast _).symm.trans hl)
    have hframe : t.frame = u.frame := congrArg PathNode.frame ht
    have hnext : v.epoch = applyEpoch u.frame v.frame t.epoch v.epoch := by
      have htepoch : t.epoch = u.epoch := congrArg PathNode.epoch ht
      have h₁ : pair.1 = u.frame := hfrom
      have h₂ : pair.2 = v.frame := hto
      rw [htepoch, ← h₁, ← h₂]
      obtain ⟨hx, -⟩ | ⟨hx, -⟩ := hepoch
      · exact hx ▸ (applyEpoch_applyEpoch ..).symm
      · exact hx ▸ (applyEpoch_applyEpoch ..).symm
    have hrev' : (v :: u :: p).reverse = start :: (rest ++ [v]) := by
      rw [List.reverse_cons, hrev, List.cons_append]
    refine ⟨rest ++ [v], apply motion u.frame v.frame t v.epoch,
      steps ++ [⟨t, apply motion u.frame v.frame t v.epoch⟩], hrev', ?_, ?_, ?_⟩
    · rw [follow_append, hlast, hfollow, takeStep_edges hmem]
    · have hstep := htransforms.step (v := v)
      rwa [hframe, ← List.reverse_cons] at hstep
    · rw [List.head?_cons, Option.some.injEq]
      simp only [State.node, apply_frame, apply_epoch, ← hnext]

/-- `transform` on the graph of the constructor.  Where there is a path the steps follow it and the
state comes to the frame and the epoch of the request; otherwise the position, the velocity and the
epoch stay as they are. -/
theorem transform_spec (q : PriorityQueue PathNode ℚ) (motion : GroundMotion)
    (h : EpochsApart start goal) (position velocity : Vector3d) :
    ∃ enough, ∀ rounds, enough ≤ rounds → ∃ path result,
      findPath q (edges motion) rounds start goal = some path ∧
      transform q (edges motion) rounds start goal position velocity = some result ∧
      (Reachable start goal →
        ∃ t, Transforms motion ⟨start.frame, start.epoch, position, velocity⟩ path result.steps t ∧
          t.frame = goal.frame ∧ t.epoch = goal.epoch ∧ result.finalPosition = t.position ∧
          result.finalVelocity = t.velocity ∧ result.finalEpoch = goal.epoch) ∧
      (¬ Reachable start goal → result = ⟨position, velocity, start.epoch, []⟩) := by
  obtain ⟨path, ⟨enough, hpath⟩, hanswer⟩ := findPath_answer q motion h
  refine ⟨enough, fun rounds hrounds => ?_⟩
  have hfind := hpath rounds hrounds
  rw [transform, hfind]
  refine ⟨path, _, rfl, rfl, fun hr => ?_, fun hr => ?_⟩
  · obtain ⟨-, c, ⟨p, rfl, hwalk⟩, -⟩ | ⟨hnot, -⟩ := hanswer
    swap
    · exact absurd hr hnot
    obtain ⟨rest, t, steps, hrev, hfollow, htransforms, hnode⟩ :=
      follow_walk hwalk ⟨start.frame, start.epoch, position, velocity⟩ rfl
    have ht : t.node = goal := by simpa using hnode
    refine ⟨t, ?_, congrArg PathNode.frame ht, congrArg PathNode.epoch ht, ?_⟩
    · simpa only [hrev, hfollow] using htransforms
    · simp only [hrev, hfollow]
      exact ⟨trivial, trivial, congrArg PathNode.epoch ht⟩
  · obtain ⟨hreach, -⟩ | ⟨-, rfl⟩ := hanswer
    · exact absurd hreach hr
    · rfl

theorem transform_spec_sweref99 :
    ∃ enough, ∀ rounds, enough ≤ rounds → ∃ path result,
      findPath PriorityQueue.least (edges .still) rounds ⟨.itrf2014, 2020.25⟩
        ⟨.sweref99, 1999.5⟩ = some path ∧
      transform PriorityQueue.least (edges .still) rounds ⟨.itrf2014, 2020.25⟩
        ⟨.sweref99, 1999.5⟩ ![0, 0, 6356000] 0 = some result ∧
      (Reachable ⟨.itrf2014, 2020.25⟩ ⟨.sweref99, 1999.5⟩ →
        ∃ t, Transforms .still ⟨.itrf2014, 2020.25, ![0, 0, 6356000], 0⟩ path result.steps t ∧
          t.frame = .sweref99 ∧ t.epoch = 1999.5 ∧ result.finalPosition = t.position ∧
          result.finalVelocity = t.velocity ∧ result.finalEpoch = 1999.5) ∧
      (¬ Reachable ⟨.itrf2014, 2020.25⟩ ⟨.sweref99, 1999.5⟩ →
        result = ⟨![0, 0, 6356000], 0, 2020.25, []⟩) :=
  transform_spec PriorityQueue.least .still epochsApart_sweref99 ![0, 0, 6356000] 0

end Transform

/-! ### There and back -/

/-- The tables have each pair of the constructor in its first direction, and not in the other;
WGS 84 is not in the tables. -/
theorem find_pairs : ∀ p ∈ pairs,
    ((rows.find? fun r => r.fromFrame = p.1 ∧ r.toFrame = p.2).isSome ∨
        p = (.wgs84G2296, .itrf2020)) ∧
      (p = (.wgs84G2296, .itrf2020) →
        (rows.find? fun r => r.fromFrame = p.1 ∧ r.toFrame = p.2).isNone) ∧
      (rows.find? fun r => r.fromFrame = p.2 ∧ r.toFrame = p.1).isNone ∧
      p.1 ≠ .sweref99 ∧ p.2 ≠ .sweref99 := by
  decide +kernel

theorem referenceEpoch_rows : ∀ r ∈ rows,
    r.params.referenceEpoch = 1989 ∨ r.params.referenceEpoch = 2015 := by
  decide +kernel

theorem apply_of_ne (motion : GroundMotion) {f g : FrameId} (hf : f ≠ .sweref99)
    (hg : g ≠ .sweref99) (state : State Vector3d) (targetEpoch : ℚ) :
    apply motion f g state targetEpoch =
      match params f g with
      | some p => applyHelmert g p state
      | none => { state with frame := g } := by
  unfold apply
  split
  · exact absurd rfl hg
  · exact absurd rfl hf
  · rfl

/-- What links two frames: a line of the tables, or that WGS 84 is the same as ITRF2020. -/
theorem params_of_mem {p : FrameId × FrameId} (hp : p ∈ pairs) :
    (params p.1 p.2 = none ∧ params p.2 p.1 = none) ∨
      ∃ r ∈ rows, params p.1 p.2 = some r.params ∧ params p.2 p.1 = some r.params.inverse := by
  obtain ⟨hsome, hwgs, hback, -, -⟩ := find_pairs p hp
  have hback' : (rows.find? fun r => r.fromFrame = p.2 ∧ r.toFrame = p.1) = none := by
    simpa using hback
  by_cases heq : p = (.wgs84G2296, .itrf2020)
  · have hnone : (rows.find? fun r => r.fromFrame = p.1 ∧ r.toFrame = p.2) = none := by
      simpa using hwgs heq
    exact .inl ⟨by simp only [params, hback', hnone, Option.map_none],
      by simp only [params, hback', hnone, Option.map_none]⟩
  · obtain ⟨r, hr⟩ := Option.isSome_iff_exists.1 (hsome.resolve_right heq)
    exact .inr ⟨r, List.mem_of_find?_eq_some hr, by simp only [params, hr],
      by simp only [params, hr, hback', Option.map_some]⟩

/-- Along an edge of the constructor, in either direction, and back: at the epochs between 1975 and
2029 a position within seven thousand kilometres comes back to within three micrometres. -/
theorem apply_apply_within (motion : GroundMotion) {p : FrameId × FrameId}
    (hp : p ∈ pairs ∨ p.swap ∈ pairs) (state : State Vector3d) (hframe : state.frame = p.1)
    (hlow : 1975 ≤ state.epoch) (hhigh : state.epoch ≤ 2029)
    (hposition : Within 7000000 state.position) (e e' : ℚ) :
    (apply motion p.2 p.1 (apply motion p.1 p.2 state e) e').node = state.node ∧
      Within 3e-6
        ((apply motion p.2 p.1 (apply motion p.1 p.2 state e) e').position - state.position) := by
  obtain ⟨f, g⟩ := p
  dsimp only [Prod.swap] at hp hframe ⊢
  have hne : f ≠ .sweref99 ∧ g ≠ .sweref99 := by
    rcases hp with hp | hp
    · exact (find_pairs _ hp).2.2.2
    · exact (find_pairs _ hp).2.2.2.symm
  have hdt : ∀ r ∈ rows, |state.epoch - r.params.referenceEpoch| ≤ 40 := by
    intro r hr
    obtain href | href := referenceEpoch_rows r hr
    · rw [href]
      exact abs_le.2 ⟨by linarith, by linarith⟩
    · rw [href]
      exact abs_le.2 ⟨by linarith, by linarith⟩
  have hsame : params f g = none → params g f = none →
      (apply motion g f (apply motion f g state e) e').node = state.node ∧
        Within 3e-6
          ((apply motion g f (apply motion f g state e) e').position - state.position) := by
    intro hthere hback
    rw [apply_of_ne motion hne.2 hne.1, apply_of_ne motion hne.1 hne.2, hthere, hback]
    refine ⟨?_, fun i => ?_⟩
    · rw [State.node, State.node, hframe]
    · norm_num
  rcases hp with hp | hp
  · obtain ⟨hthere, hback⟩ | ⟨r, hr, hthere, hback⟩ := params_of_mem hp
    · exact hsame hthere hback
    · obtain ⟨T₀, T₁, ω₀, ω₁, β, ρ, σ, hdirections⟩ :=
        directions (bounded_rows r hr).1 (bounded_rows r hr).2 (hdt r hr)
      rw [apply_of_ne motion hne.2 hne.1, apply_of_ne motion hne.1 hne.2, hthere, hback]
      refine ⟨?_, hdirections.there_and_back (hdt r hr) hposition⟩
      rw [State.node, State.node, hframe]
      rfl
  · obtain ⟨hback, hthere⟩ | ⟨r, hr, hback, hthere⟩ := params_of_mem hp
    · exact hsame hthere hback
    · obtain ⟨T₀, T₁, ω₀, ω₁, β, ρ, σ, hdirections⟩ :=
        directions (bounded_rows r hr).1 (bounded_rows r hr).2 (hdt r hr)
      rw [apply_of_ne motion hne.2 hne.1, apply_of_ne motion hne.1 hne.2, hthere, hback]
      refine ⟨?_, hdirections.back_and_there (hdt r hr) hposition⟩
      rw [State.node, State.node, hframe]
      rfl

/-- From an ETRF to the ITRF of its year, against the table, and back. -/
theorem apply_apply_within_etrf2014 :
    (apply .still .itrf2014 .etrf2014
        (apply .still .etrf2014 .itrf2014 ⟨.etrf2014, 2020.25, ![0, 0, 6356000], 0⟩ 2020.25)
        2020.25).node = ⟨.etrf2014, 2020.25⟩ ∧
      Within 3e-6
        ((apply .still .itrf2014 .etrf2014
          (apply .still .etrf2014 .itrf2014 ⟨.etrf2014, 2020.25, ![0, 0, 6356000], 0⟩ 2020.25)
          2020.25).position - ![0, 0, 6356000]) :=
  apply_apply_within .still (p := (.etrf2014, .itrf2014)) (.inr (by decide +kernel))
    ⟨.etrf2014, 2020.25, ![0, 0, 6356000], 0⟩ rfl (by norm_num) (by norm_num)
    (fun i => by fin_cases i <;> norm_num) 2020.25 2020.25

end SuplLpp.Coordinates
