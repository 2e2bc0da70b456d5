import Mathlib
import SuplLpp.Lib.ShortestPath

/-!
# The graph of coordinate frames

An edge carries a function for the epoch and one for the state: most transformations keep the
epoch, the one to SWEREF 99 leads to 1999.5 and the one back to whatever epoch is asked for.
`find_path` searches the pairs of a frame and an epoch.  Epochs and costs are exact rationals here.

* `FrameId`, `State`, `TransformEdge`, `PathNode`;
* `visit`, what the search does with one node, and `adj`, the edges it sees (`visit_eq_expand`);
* `rebuild`, the loop that walks back along the parents, and `findPath`; both have a bound on
  their rounds;
* `Leads`, a path with its cost, and `Apart`, a set of epochs that the search stays in and in which
  the two epochs of the request have no near neighbours;
* `findPath_spec`: then the call comes back, with a path of least cost or, where none exists, with
  nothing.
-/

namespace SuplLpp.Coordinates

open ShortestPath (Entry PriorityQueue Walk Follows)

inductive FrameId
  | wgs84G730 | wgs84G873 | wgs84G1150 | wgs84G1674 | wgs84G1762 | wgs84G2139 | wgs84G2296
  | pz90 | pz9002 | pz9011
  | cgcs2000
  | itrf88 | itrf89 | itrf90 | itrf91 | itrf92 | itrf93 | itrf94 | itrf96 | itrf97
  | itrf2000 | itrf2005 | itrf2008 | itrf2014 | itrf2020
  | etrf89 | etrf90 | etrf91 | etrf92 | etrf93 | etrf94 | etrf96 | etrf97
  | etrf2000 | etrf2005 | etrf2014 | etrf2020
  | sweref99
  deriving DecidableEq

/-- A position and a velocity in a frame at an epoch. -/
structure State (V : Type*) where
  frame : FrameId
  epoch : ℚ
  position : V
  velocity : V

structure TransformEdge (V : Type*) where
  fromFrame : FrameId
  toFrame : FrameId
  epochFunc : ℚ → ℚ → ℚ
  stateFunc : State V → ℚ → State V

structure PathNode where
  frame : FrameId
  epoch : ℚ
  deriving DecidableEq

variable {V : Type*}

/-! ### The search -/

/-- The search found `v` from `current` at a cost of `newCost`. -/
def offer (current : PathNode) (t : ShortestPath.State PathNode ℚ) (v : PathNode) (newCost : ℚ) :
    ShortestPath.State PathNode ℚ :=
  if (t.best v).isNone ∨ newCost < (t.best v).getD 0 then
    { queue := ⟨v, newCost⟩ :: t.queue
      best := Function.update t.best v (some newCost)
      parent := Function.update t.parent v (some current) }
  else t

/-- The two loops over the edges of a node: transformations that do not change the epoch first. -/
def visit (edges : List (TransformEdge V)) (toEpoch : ℚ) (current : Entry PathNode ℚ)
    (t : ShortestPath.State PathNode ℚ) : ShortestPath.State PathNode ℚ :=
  let t := edges.foldl (fun t edge =>
    if edge.fromFrame ≠ current.key.frame then t
    else
      let newEpoch := edge.epochFunc current.key.epoch current.key.epoch
      let newCost := current.cost + 1
      offer current.key t ⟨edge.toFrame, newEpoch⟩ newCost) t
  edges.foldl (fun t edge =>
    if edge.fromFrame ≠ current.key.frame then t
    else
      let newEpoch := edge.epochFunc current.key.epoch toEpoch
      let newCost := current.cost + 1 + |newEpoch - current.key.epoch|
      offer current.key t ⟨edge.toFrame, newEpoch⟩ newCost) t

/-- A node is taken for another one of the same frame at nearly the same epoch. -/
def PathNode.Near (v w : PathNode) : Prop := v.frame = w.frame ∧ |v.epoch - w.epoch| < 1 / 1000

instance (v w : PathNode) : Decidable (v.Near w) := inferInstanceAs (Decidable (_ ∧ _))

theorem PathNode.near_self (v : PathNode) : v.Near v := ⟨rfl, by norm_num⟩

/-- The walk back along the parents, with a bound on its rounds.  A node without a parent leads to
the first frame at epoch 0. -/
def rebuild (parent : PathNode → Option PathNode) (start : PathNode) :
    ℕ → PathNode → List PathNode → Option (List PathNode)
  | 0, _, _ => none
  | n + 1, v, path =>
      if v.Near start then some (path ++ [start]).reverse
      else rebuild parent start n ((parent v).getD ⟨.wgs84G730, 0⟩) (path ++ [v])

/-- `find_path`, with a bound on the rounds of its loops; `q` is the order in which the queue gives
out entries of the same cost. -/
def findPath (q : PriorityQueue PathNode ℚ) (edges : List (TransformEdge V)) (rounds : ℕ)
    (start goal : PathNode) : Option (List PathNode) :=
  match ShortestPath.search q (visit edges goal.epoch) (·.Near goal) rounds
      (ShortestPath.State.init start) with
  | none => none
  | some (_, none) => some []
  | some (t, some _) => rebuild t.parent start rounds goal []

/-! ### The edges that the search sees -/

/-- The nodes next to a node, with their costs. -/
def adj (edges : List (TransformEdge V)) (toEpoch : ℚ) (v : PathNode) : List (PathNode × ℚ) :=
  (edges.filter (·.fromFrame = v.frame)).map (fun edge =>
    (⟨edge.toFrame, edge.epochFunc v.epoch v.epoch⟩, 1)) ++
  (edges.filter (·.fromFrame = v.frame)).map (fun edge =>
    (⟨edge.toFrame, edge.epochFunc v.epoch toEpoch⟩,
      1 + |edge.epochFunc v.epoch toEpoch - v.epoch|))

theorem mem_adj {edges : List (TransformEdge V)} {toEpoch : ℚ} {v w : PathNode} {c : ℚ} :
    (w, c) ∈ adj edges toEpoch v ↔ ∃ edge ∈ edges, edge.fromFrame = v.frame ∧
      edge.toFrame = w.frame ∧
      (edge.epochFunc v.epoch v.epoch = w.epoch ∧ c = 1 ∨
        edge.epochFunc v.epoch toEpoch = w.epoch ∧ c = 1 + |w.epoch - v.epoch|) := by
  obtain ⟨f, e⟩ := w
  unfold adj
  simp only [List.mem_append, List.mem_map, List.mem_filter, decide_eq_true_eq, Prod.mk.injEq,
    PathNode.mk.injEq]
  constructor
  · rintro (⟨edge, ⟨hmem, hfrom⟩, ⟨hto, he⟩, hc⟩ | ⟨edge, ⟨hmem, hfrom⟩, ⟨hto, he⟩, hc⟩)
    · exact ⟨edge, hmem, hfrom, hto, Or.inl ⟨he, hc.symm⟩⟩
    · exact ⟨edge, hmem, hfrom, hto, Or.inr ⟨he, by rw [← hc, he]⟩⟩
  · rintro ⟨edge, hmem, hfrom, hto, ⟨he, hc⟩ | ⟨he, hc⟩⟩
    · exact Or.inl ⟨edge, ⟨hmem, hfrom⟩, ⟨hto, he⟩, hc.symm⟩
    · exact Or.inr ⟨edge, ⟨hmem, hfrom⟩, ⟨hto, he⟩, by rw [hc, he]⟩

/-- Every edge costs something. -/
theorem one_le_of_mem_adj {edges : List (TransformEdge V)} {toEpoch : ℚ} {v : PathNode}
    {edge : PathNode × ℚ} (h : edge ∈ adj edges toEpoch v) : 1 ≤ edge.2 := by
  obtain ⟨-, -, -, -, ⟨-, hc⟩ | ⟨-, hc⟩⟩ := mem_adj.1 h
  · exact hc.ge
  · rw [hc]
    exact le_add_of_nonneg_right (abs_nonneg _)

theorem adj_nonneg (edges : List (TransformEdge V)) (toEpoch : ℚ) :
    ∀ v, ∀ edge ∈ adj edges toEpoch v, 0 ≤ edge.2 :=
  fun _ _ h => zero_le_one.trans (one_le_of_mem_adj h)

theorem relax_eq_offer (current : PathNode) (c : ℚ) (t : ShortestPath.State PathNode ℚ)
    (edge : PathNode × ℚ) :
    ShortestPath.relax current c t edge = offer current t edge.1 (c + edge.2) := by
  unfold ShortestPath.relax offer
  refine if_congr ?_ rfl rfl
  cases t.best edge.1 <;> simp

/-- The loops of a visit look at the edges of `adj`. -/
theorem visit_eq_expand (edges : List (TransformEdge V)) (toEpoch : ℚ) :
    visit edges toEpoch = ShortestPath.expand (adj edges toEpoch) := by
  funext current t
  unfold visit ShortestPath.expand adj
  simp only [List.foldl_append, List.foldl_map, List.foldl_filter, relax_eq_offer, ite_not,
    decide_eq_true_eq, add_assoc]

/-! ### The way back -/

/-- Where the nodes on the way have no near neighbours among the others, the walk back along the
parents is the way. -/
theorem rebuild_of_follows {parent : PathNode → Option PathNode} {start v : PathNode}
    {p : List PathNode} (h : Follows parent start v p)
    (hapart : ∀ w ∈ v :: p, w.Near start → w = start) {n : ℕ} (hn : p.length < n)
    (path : List PathNode) :
    rebuild parent start n v path = some (path ++ v :: p).reverse := by
  induction h generalizing n path with
  | start =>
    obtain _ | n := n
    · exact absurd hn (Nat.not_lt_zero _)
    · rw [rebuild, if_pos start.near_self]
  | @step u v p hne hpar _ ih =>
    obtain _ | n := n
    · exact absurd hn (Nat.not_lt_zero _)
    · have hfar : ¬ v.Near start := fun hnear => hne (hapart v List.mem_cons_self hnear)
      rw [rebuild, if_neg hfar, hpar, Option.getD_some,
        ih (fun w hw => hapart w (List.mem_cons_of_mem _ hw)) (by simpa using hn)]
      simp

/-! ### Whole calls -/

/-- `path` leads from `start` to `goal` along the edges that the search sees, at a cost of `c`. -/
def Leads (edges : List (TransformEdge V)) (start goal : PathNode) (path : List PathNode) (c : ℚ) :
    Prop :=
  ∃ p, path = (goal :: p).reverse ∧ Walk (adj edges goal.epoch) start (goal :: p) c

/-- The search stays among the epochs `E`, and none of them is near one of the epochs of the
request without being the same. -/
structure Apart (edges : List (TransformEdge V)) (start goal : PathNode) (E : Finset ℚ) :
    Prop where
  start_mem : start.epoch ∈ E
  keep_mem : ∀ edge ∈ edges, ∀ e ∈ E, edge.epochFunc e e ∈ E
  move_mem : ∀ edge ∈ edges, ∀ e ∈ E, edge.epochFunc e goal.epoch ∈ E
  start_apart : ∀ e ∈ E, |e - start.epoch| < 1 / 1000 → e = start.epoch
  goal_apart : ∀ e ∈ E, |e - goal.epoch| < 1 / 1000 → e = goal.epoch

section Apart

variable {edges : List (TransformEdge V)} {start goal : PathNode} {E : Finset ℚ}

theorem Apart.epoch_mem (h : Apart edges start goal E) {p : List PathNode} {c : ℚ}
    (hwalk : Walk (adj edges goal.epoch) start p c) : ∀ v ∈ p, v.epoch ∈ E := by
  induction hwalk with
  | start => simpa using h.start_mem
  | @step u v w c p _ hedge ih =>
    intro x hx
    obtain rfl | hx := List.mem_cons.1 hx
    · have hu : u.epoch ∈ E := ih u List.mem_cons_self
      obtain ⟨edge, hmem, -, -, ⟨he, -⟩ | ⟨he, -⟩⟩ := mem_adj.1 hedge
      · exact he ▸ h.keep_mem edge hmem _ hu
      · exact he ▸ h.move_mem edge hmem _ hu
    · exact ih x hx

/-- The frames and epochs that a walk may come to. -/
def reachable (edges : List (TransformEdge V)) (start : PathNode) (E : Finset ℚ) :
    Finset PathNode :=
  ((insert start.frame (edges.map (·.toFrame)).toFinset) ×ˢ E).image fun fe => ⟨fe.1, fe.2⟩

theorem Apart.mem_reachable (h : Apart edges start goal E) {v : PathNode} {p : List PathNode}
    {c : ℚ} (hwalk : Walk (adj edges goal.epoch) start (v :: p) c) :
    v ∈ reachable edges start E := by
  have hepoch : v.epoch ∈ E := h.epoch_mem hwalk v List.mem_cons_self
  have hframe : v.frame ∈ insert start.frame (edges.map (·.toFrame)).toFinset := by
    cases hwalk with
    | start => exact Finset.mem_insert_self ..
    | step _ hedge =>
      obtain ⟨edge, hmem, -, hto, -⟩ := mem_adj.1 hedge
      exact Finset.mem_insert_of_mem (List.mem_toFinset.2 (List.mem_map.2 ⟨edge, hmem, hto⟩))
  exact Finset.mem_image.2 ⟨(v.frame, v.epoch), Finset.mem_product.2 ⟨hframe, hepoch⟩, rfl⟩

theorem Apart.eq_start (h : Apart edges start goal E) {v : PathNode} (hv : v.epoch ∈ E)
    (hnear : v.Near start) : v = start := by
  have hepoch := h.start_apart _ hv hnear.2
  obtain ⟨f, e⟩ := v
  obtain ⟨f', e'⟩ := start
  exact PathNode.mk.injEq .. ▸ ⟨hnear.1, hepoch⟩

theorem Apart.eq_goal (h : Apart edges start goal E) {v : PathNode} (hv : v.epoch ∈ E)
    (hnear : v.Near goal) : v = goal := by
  have hepoch := h.goal_apart _ hv hnear.2
  obtain ⟨f, e⟩ := v
  obtain ⟨f', e'⟩ := goal
  exact PathNode.mk.injEq .. ▸ ⟨hnear.1, hepoch⟩

/-- With enough rounds `find_path` comes back: with a path of least cost where there is one, and
with nothing where there is none. -/
theorem findPath_spec (q : PriorityQueue PathNode ℚ) (h : Apart edges start goal E) :
    ∃ path, (∃ enough, ∀ rounds, enough ≤ rounds →
        findPath q edges rounds start goal = some path) ∧
      ((∃ c, Leads edges start goal path c ∧
          ∀ path' c', Leads edges start goal path' c' → c ≤ c') ∨
        path = [] ∧ ∀ path' c', ¬ Leads edges start goal path' c') := by
  obtain ⟨t, found, hsearch, hanswer⟩ :=
    ShortestPath.search_spec q (·.Near goal) (adj_nonneg edges goal.epoch)
      (fun v p c => h.mem_reachable) (Nat.lt_succ_self _)
  rw [← visit_eq_expand] at hsearch
  set bound := (1 + ∑ u ∈ reachable edges start E, (adj edges goal.epoch u).length).succ
  cases found with
  | none =>
    refine ⟨[], ⟨bound, fun rounds hrounds => ?_⟩, Or.inr ⟨rfl, ?_⟩⟩
    · rw [findPath, ShortestPath.search_mono hsearch hrounds]
    · rintro path' c' ⟨p, -, hwalk⟩
      exact hanswer goal p c' goal.near_self hwalk
  | some e =>
    obtain ⟨hnear, ⟨p, hfollows, hwalk⟩, hleast⟩ := hanswer
    have hmem := h.epoch_mem hwalk
    have hgoal : e.key = goal := h.eq_goal (hmem _ List.mem_cons_self) hnear
    rw [hgoal] at hfollows hwalk hmem
    refine ⟨(goal :: p).reverse, ⟨max bound (p.length + 1), fun rounds hrounds => ?_⟩,
      Or.inl ⟨e.cost, ⟨p, rfl, hwalk⟩, ?_⟩⟩
    · rw [findPath, ShortestPath.search_mono hsearch (le_of_max_le_left hrounds)]
      exact rebuild_of_follows hfollows (fun w hw => h.eq_start (hmem w hw))
        (Nat.lt_of_succ_le (le_of_max_le_right hrounds)) []
    · rintro path' c' ⟨p', -, hwalk'⟩
      exact hleast goal p' c' goal.near_self hwalk'

end Apart

/-- A graph of two frames with an edge that keeps the epoch and one that asks for it. -/
def twoFrames : List (TransformEdge Unit) :=
  [⟨.itrf2020, .itrf2014, fun e _ => e, fun s _ => s⟩,
   ⟨.itrf2014, .itrf2020, fun _ e => e, fun s _ => s⟩]

/-- The epoch is asked for on the way back only: out, back and out again. -/
example : findPath PriorityQueue.least twoFrames 20 ⟨.itrf2020, 2010⟩ ⟨.itrf2014, 2020⟩ =
    some [⟨.itrf2020, 2010⟩, ⟨.itrf2014, 2010⟩, ⟨.itrf2020, 2020⟩, ⟨.itrf2014, 2020⟩] := by
  decide +kernel

end SuplLpp.Coordinates
