import Mathlib.Algebra.Order.BigOperators.Group.Finset
import Mathlib.Data.Finset.Card
import Mathlib.Order.Basic

/-!
# Shortest paths with a priority queue

A graph is a function `adj` that gives the keys next to a key with the costs of going there.  The
search keeps a queue of keys with the costs they were reached at; a key that is reached again at a
smaller cost is queued again, and the entry queued before stays and is passed over when its turn
comes.

* `PriorityQueue`, a way to take an entry of least cost out; which of several is left open, and
  `PriorityQueue.least` is one choice;
* `State`, `relax`, `expand` and `search`; the search asks whether an entry is a goal before it
  asks whether it was overtaken;
* `Walk adj s p c`, a walk from `s`, its last key first, of cost `c`; `Follows parent s v p`, the
  way back from `v` along the parents;
* `Inv`, the invariant of the search; `Inv.relax`, what one edge does to it, and `Inv.expand`, what
  the edges of a key do;
* `Inv.le_of_walk`: no walk is cheaper than all that is queued, unless where it leads was reached;
* `search_spec`: with the bound on its rounds the search ends, at a goal of least cost with the way
  back to it, or without one where no walk leads to a goal.
-/

namespace ShortestPath

variable {κ γ : Type*}

/-- A key with the cost at which it was queued. -/
structure Entry (κ γ : Type*) where
  key : κ
  cost : γ

/-- A way to take an entry of least cost out of a queue. -/
structure PriorityQueue (κ γ : Type*) [LE γ] where
  pop : List (Entry κ γ) → Option (Entry κ γ × List (Entry κ γ))
  pop_eq_none : ∀ l, pop l = none ↔ l = []
  perm_of_pop : ∀ l e rest, pop l = some (e, rest) → l.Perm (e :: rest)
  le_of_pop : ∀ l e rest, pop l = some (e, rest) → ∀ x ∈ rest, e.cost ≤ x.cost

/-- Take the first entry of least cost out. -/
def popLeast [LinearOrder γ] : List (Entry κ γ) → Option (Entry κ γ × List (Entry κ γ))
  | [] => none
  | x :: l =>
      match popLeast l with
      | none => some (x, [])
      | some (e, rest) => if x.cost ≤ e.cost then some (x, l) else some (e, x :: rest)

theorem popLeast_eq_none [LinearOrder γ] (l : List (Entry κ γ)) : popLeast l = none ↔ l = [] := by
  cases l with
  | nil => simp [popLeast]
  | cons x l =>
    rw [popLeast]
    split
    · simp
    · split <;> simp

theorem popLeast_spec [LinearOrder γ] (l : List (Entry κ γ)) (e : Entry κ γ)
    (rest : List (Entry κ γ)) (h : popLeast l = some (e, rest)) :
    l.Perm (e :: rest) ∧ ∀ x ∈ rest, e.cost ≤ x.cost := by
  induction l generalizing e rest with
  | nil => cases h
  | cons x l ih =>
    rw [popLeast] at h
    split at h
    next hnone =>
      obtain rfl := (popLeast_eq_none l).1 hnone
      cases h
      exact ⟨List.Perm.refl _, by simp⟩
    next e' rest' hsome =>
      obtain ⟨hperm, hmin⟩ := ih e' rest' hsome
      split_ifs at h with hle
      · cases h
        refine ⟨List.Perm.refl _, fun y hy => ?_⟩
        obtain rfl | hy := List.mem_cons.1 (hperm.mem_iff.1 hy)
        · exact hle
        · exact hle.trans (hmin y hy)
      · cases h
        refine ⟨(hperm.cons x).trans (List.Perm.swap _ _ _), fun y hy => ?_⟩
        obtain rfl | hy := List.mem_cons.1 hy
        · exact (not_le.1 hle).le
        · exact hmin y hy

/-- The queue that gives out the entry queued last, of several of the same cost. -/
def PriorityQueue.least [LinearOrder γ] : PriorityQueue κ γ where
  pop := popLeast
  pop_eq_none := popLeast_eq_none
  perm_of_pop l e rest h := (popLeast_spec l e rest h).1
  le_of_pop l e rest h := (popLeast_spec l e rest h).2

/-- The queue, the least cost found for a key, and the key it was found from. -/
structure State (κ γ : Type*) where
  queue : List (Entry κ γ)
  best : κ → Option γ
  parent : κ → Option κ

/-- A walk from `s`, its last key first. -/
inductive Walk [Zero γ] [Add γ] (adj : κ → List (κ × γ)) (s : κ) : List κ → γ → Prop
  | start : Walk adj s [s] 0
  | step {u v : κ} {w c : γ} {p : List κ} : Walk adj s (u :: p) c → (v, w) ∈ adj u →
      Walk adj s (v :: u :: p) (c + w)

/-- The way back from `v` to `s`: `p` are the keys after `v`. -/
inductive Follows (parent : κ → Option κ) (s : κ) : κ → List κ → Prop
  | start : Follows parent s s []
  | step {u v : κ} {p : List κ} : v ≠ s → parent v = some u → Follows parent s u p →
      Follows parent s v (u :: p)

theorem Follows.congr {parent parent' : κ → Option κ} {s v : κ} {p : List κ}
    (h : Follows parent s v p) (heq : ∀ y ∈ v :: p, parent' y = parent y) :
    Follows parent' s v p := by
  induction h with
  | start => exact Follows.start
  | @step u v p hne hpar _ ih =>
    refine Follows.step hne ?_ (ih fun y hy => heq y (List.mem_cons_of_mem _ hy))
    rw [heq v List.mem_cons_self, hpar]

theorem Walk.nonneg [AddCommMonoid γ] [LinearOrder γ] [IsOrderedAddMonoid γ]
    {adj : κ → List (κ × γ)} {s : κ} (hadj : ∀ u, ∀ edge ∈ adj u, 0 ≤ edge.2) {p : List κ}
    {c : γ} (h : Walk adj s p c) : 0 ≤ c := by
  induction h with
  | start => exact le_rfl
  | step _ hedge ih => exact add_nonneg ih (hadj _ _ hedge)

/-! ### The search -/

section Search

variable [DecidableEq κ] [AddCommMonoid γ] [LinearOrder γ]

/-- The search has found `s`, at no cost. -/
def State.init (s : κ) : State κ γ :=
  ⟨[⟨s, 0⟩], Function.update (fun _ => none) s (some 0), fun _ => none⟩

/-- `v` was found from `u`, at a cost of `c`. -/
def State.push (t : State κ γ) (u v : κ) (c : γ) : State κ γ :=
  ⟨⟨v, c⟩ :: t.queue, Function.update t.best v (some c), Function.update t.parent v (some u)⟩

/-- Look at one edge of the key `u`, which was reached at a cost of `c`. -/
def relax (u : κ) (c : γ) (t : State κ γ) (edge : κ × γ) : State κ γ :=
  if ∀ b ∈ t.best edge.1, c + edge.2 < b then t.push u edge.1 (c + edge.2) else t

/-- Look at all edges of a key. -/
def expand (adj : κ → List (κ × γ)) (e : Entry κ γ) (t : State κ γ) : State κ γ :=
  (adj e.key).foldl (relax e.key e.cost) t

end Search

section Rounds

variable [AddCommMonoid γ] [LinearOrder γ]

/-- The search, with a bound on its rounds: the entry that is a goal, or none when the queue is
used up. -/
def search (q : PriorityQueue κ γ) (visit : Entry κ γ → State κ γ → State κ γ)
    (goal : κ → Prop) [DecidablePred goal] :
    ℕ → State κ γ → Option (State κ γ × Option (Entry κ γ))
  | 0, _ => none
  | n + 1, t =>
      match q.pop t.queue with
      | none => some (t, none)
      | some (e, rest) =>
          let t := { t with queue := rest }
          if goal e.key then some (t, some e)
          else if (t.best e.key).getD 0 < e.cost then search q visit goal n t
          else search q visit goal n (visit e t)

/-- More rounds do not change what the search answers. -/
theorem search_mono {q : PriorityQueue κ γ} {visit : Entry κ γ → State κ γ → State κ γ}
    {goal : κ → Prop} [DecidablePred goal] {n m : ℕ} {t : State κ γ}
    {answer : State κ γ × Option (Entry κ γ)} (h : search q visit goal n t = some answer)
    (hnm : n ≤ m) : search q visit goal m t = some answer := by
  induction n generalizing m t with
  | zero => cases h
  | succ n ih =>
    obtain _ | m := m
    · exact absurd hnm (Nat.not_succ_le_zero n)
    have hle : n ≤ m := Nat.succ_le_succ_iff.1 hnm
    rw [search] at h ⊢
    cases hpop : q.pop t.queue with
    | none => simpa only [hpop] using h
    | some popped =>
      simp only [hpop] at h ⊢
      split_ifs at h ⊢
      · exact h
      · exact ih h hle
      · exact ih h hle

end Rounds

/-! ### The invariant -/

section Improves

variable [Preorder γ]

/-- `t'` knows a way to wherever `t` knows one, at no greater cost. -/
def Improves (t t' : State κ γ) : Prop :=
  ∀ v c, t.best v = some c → ∃ c', t'.best v = some c' ∧ c' ≤ c

theorem Improves.refl (t : State κ γ) : Improves t t := fun _ c h => ⟨c, h, le_rfl⟩

theorem Improves.trans {t t' t'' : State κ γ} (h : Improves t t') (h' : Improves t' t'') :
    Improves t t'' := by
  intro v c hv
  obtain ⟨c', hv', hc'⟩ := h v c hv
  obtain ⟨c'', hv'', hc''⟩ := h' v c' hv'
  exact ⟨c'', hv'', hc''.trans hc'⟩

end Improves

section Invariant

variable [AddCommMonoid γ] [LinearOrder γ]
variable {adj : κ → List (κ × γ)} {s : κ} {done : Finset κ} {t : State κ γ}

/-- The invariant of the search, where `done` are the keys whose edges were looked at.  `label`: a
key with a cost has a way back through such keys, and that way costs as much. -/
structure Inv (adj : κ → List (κ × γ)) (s : κ) (done : Finset κ) (t : State κ γ) : Prop where
  start : t.best s = some 0
  label : ∀ v c, t.best v = some c →
    ∃ p, Follows t.parent s v p ∧ Walk adj s (v :: p) c ∧ ∀ y ∈ p, y ∈ done
  queued : ∀ e ∈ t.queue, ∃ b, t.best e.key = some b ∧ b ≤ e.cost
  pending : ∀ v c, t.best v = some c → v ∈ done ∨ ⟨v, c⟩ ∈ t.queue
  settled : ∀ v ∈ done, ∃ c, t.best v = some c ∧ ∀ e ∈ t.queue, c ≤ e.cost
  overtaken : ∀ e ∈ t.queue, e.key ∈ done → t.best e.key ≠ some e.cost
  nodup : t.queue.Nodup

/-- The edges of `u` are no longer of use: they lead nowhere at a smaller cost. -/
def Closed (adj : κ → List (κ × γ)) (t : State κ γ) (u : κ) : Prop :=
  ∀ c, t.best u = some c → ∀ edge ∈ adj u, ∃ b, t.best edge.1 = some b ∧ b ≤ c + edge.2

/-- The edges of a key whose cost stays as it is remain of no use. -/
theorem Closed.mono {t' : State κ γ} {u : κ} (h : Closed adj t u)
    (hu : t'.best u = t.best u) (himp : Improves t t') : Closed adj t' u := by
  intro c hc edge hedge
  obtain ⟨b, hb, hbc⟩ := h c (hu ▸ hc) edge hedge
  obtain ⟨b', hb', hle⟩ := himp _ _ hb
  exact ⟨b', hb', hle.trans hbc⟩

theorem Inv.exists_walk (hinv : Inv adj s done t) {v : κ} {c : γ} (hv : t.best v = some c) :
    ∃ p, Walk adj s (v :: p) c := by
  obtain ⟨p, -, hp, -⟩ := hinv.label v c hv
  exact ⟨p, hp⟩

/-- No walk is cheaper than all that is queued, unless its end was reached at no greater cost. -/
theorem Inv.le_of_walk [IsOrderedAddMonoid γ] (hadj : ∀ u, ∀ edge ∈ adj u, 0 ≤ edge.2)
    (hinv : Inv adj s done t) (hclosed : ∀ u ∈ done, Closed adj t u)
    {p : List κ} {c : γ} (h : Walk adj s p c) :
    (∃ v p', p = v :: p' ∧ ∃ b, t.best v = some b ∧ b ≤ c) ∨ ∃ e ∈ t.queue, e.cost ≤ c := by
  induction h with
  | start => exact Or.inl ⟨s, [], rfl, 0, hinv.start, le_rfl⟩
  | @step u v w c p hwalk hedge ih =>
    have hle : c ≤ c + w := le_add_of_nonneg_right (hadj u _ hedge)
    obtain ⟨u', p', heq, b, hb, hbc⟩ | ⟨e, he, hec⟩ := ih
    · obtain ⟨rfl, rfl⟩ : u = u' ∧ p = p' := by simpa using heq
      obtain hdone | hqueue := hinv.pending u b hb
      · obtain ⟨b', hb', hle'⟩ := hclosed u hdone b hb (v, w) hedge
        exact Or.inl ⟨v, u :: p, rfl, b', hb', hle'.trans (by gcongr)⟩
      · exact Or.inr ⟨⟨u, b⟩, hqueue, hbc.trans hle⟩
    · exact Or.inr ⟨e, he, hec.trans hle⟩

/-- No walk to a key that is not done is cheaper than all that is queued. -/
theorem Inv.cost_le_of_walk [IsOrderedAddMonoid γ] (hadj : ∀ u, ∀ edge ∈ adj u, 0 ≤ edge.2)
    (hinv : Inv adj s done t) (hclosed : ∀ u ∈ done, Closed adj t u) {g : κ} (hg : g ∉ done)
    {p : List κ} {c : γ} (h : Walk adj s (g :: p) c) : ∃ e ∈ t.queue, e.cost ≤ c := by
  obtain ⟨v, p', heq, b, hb, hle⟩ | hqueue := hinv.le_of_walk hadj hclosed h
  · obtain rfl := (List.cons.inj heq).1
    obtain hdone | hmem := hinv.pending g b hb
    · exact absurd hdone hg
    · exact ⟨⟨g, b⟩, hmem, hle⟩
  · exact hqueue

/-- An entry of least cost is taken out and was overtaken. -/
theorem Inv.drop (hinv : Inv adj s done t) {e : Entry κ γ} {rest : List (Entry κ γ)}
    (hperm : t.queue.Perm (e :: rest)) (hover : t.best e.key ≠ some e.cost) :
    Inv adj s done { t with queue := rest } where
  start := hinv.start
  label := hinv.label
  queued x hx := hinv.queued x (hperm.mem_iff.2 (List.mem_cons_of_mem _ hx))
  pending v c hv := by
    refine (hinv.pending v c hv).imp_right fun hmem => ?_
    obtain heq | hmem := List.mem_cons.1 (hperm.mem_iff.1 hmem)
    · exact absurd (heq ▸ hv) hover
    · exact hmem
  settled v hv := by
    obtain ⟨c, hc, hall⟩ := hinv.settled v hv
    exact ⟨c, hc, fun x hx => hall x (hperm.mem_iff.2 (List.mem_cons_of_mem _ hx))⟩
  overtaken x hx := hinv.overtaken x (hperm.mem_iff.2 (List.mem_cons_of_mem _ hx))
  nodup := (List.nodup_cons.1 (hperm.nodup_iff.1 hinv.nodup)).2

end Invariant

/-! ### The steps of the search -/

section Steps

variable [DecidableEq κ] [AddCommMonoid γ] [LinearOrder γ]
variable {adj : κ → List (κ × γ)} {s : κ} {done : Finset κ} {t : State κ γ}

theorem Inv.init (adj : κ → List (κ × γ)) (s : κ) :
    Inv adj s ∅ (State.init s : State κ γ) where
  start := by simp [State.init]
  label v c hv := by
    by_cases hvs : v = s
    · subst hvs
      obtain rfl : 0 = c := by simpa [State.init] using hv
      exact ⟨[], Follows.start, Walk.start, by simp⟩
    · simp [State.init, Function.update_of_ne hvs] at hv
  queued e he := by
    obtain rfl : e = ⟨s, 0⟩ := by simpa [State.init] using he
    exact ⟨0, by simp [State.init], le_rfl⟩
  pending v c hv := by
    by_cases hvs : v = s
    · subst hvs
      obtain rfl : 0 = c := by simpa [State.init] using hv
      exact Or.inr (by simp [State.init])
    · simp [State.init, Function.update_of_ne hvs] at hv
  settled _ h := absurd h (Finset.notMem_empty _)
  overtaken _ _ h := absurd h (Finset.notMem_empty _)
  nodup := by simp [State.init]

/-- Finding `v` from a key that is done, where no key that is done costs more than that one. -/
theorem Inv.push [IsOrderedAddMonoid γ] (hadj : ∀ u, ∀ edge ∈ adj u, 0 ≤ edge.2)
    (hinv : Inv adj s done t) {u v : κ} {c w : γ} (hu : u ∈ done) (hbest : t.best u = some c)
    (hmax : ∀ x b, x ∈ done → t.best x = some b → b ≤ c) (hedge : (v, w) ∈ adj u)
    (hlt : ∀ b ∈ t.best v, c + w < b) : Inv adj s done (t.push u v (c + w)) := by
  have hle : c ≤ c + w := le_add_of_nonneg_right (hadj u _ hedge)
  have hundone : v ∉ done := by
    intro hdone
    obtain ⟨b, hb, -⟩ := hinv.settled v hdone
    exact absurd ((hmax v b hdone hb).trans hle) (not_le.2 (hlt b hb))
  have hne : ∀ x ∈ done, x ≠ v := fun x hx h => hundone (h ▸ hx)
  have hvs : v ≠ s := by
    rintro rfl
    obtain ⟨p, hp⟩ := hinv.exists_walk hbest
    exact absurd ((hp.nonneg hadj).trans hle) (not_le.2 (hlt 0 hinv.start))
  refine ⟨?start, ?label, ?queued, ?pending, ?settled, ?overtaken, ?nodup⟩
  case start => exact (Function.update_of_ne hvs.symm ..).trans hinv.start
  case label =>
    -- A way back goes through keys that are done, so `v` is on it only at its end.
    have hkeep : ∀ x p, x ≠ v → Follows t.parent s x p → (∀ y ∈ p, y ∈ done) →
        Follows (Function.update t.parent v (some u)) s x p := by
      intro x p hx hp hdone
      refine hp.congr fun y hy => Function.update_of_ne ?_ ..
      obtain rfl | hy := List.mem_cons.1 hy
      · exact hx
      · exact hne y (hdone y hy)
    intro x b hx
    by_cases hxv : x = v
    · subst hxv
      obtain rfl : c + w = b := by simpa [State.push] using hx
      obtain ⟨p, hp, hwalk, hdone⟩ := hinv.label u c hbest
      refine ⟨u :: p, Follows.step hvs (Function.update_self ..)
        (hkeep u p (hne u hu) hp hdone), hwalk.step hedge, ?_⟩
      rintro y hy
      obtain rfl | hy := List.mem_cons.1 hy
      · exact hu
      · exact hdone y hy
    · obtain ⟨p, hp, hwalk, hdone⟩ := hinv.label x b ((Function.update_of_ne hxv ..).symm.trans hx)
      exact ⟨p, hkeep x p hxv hp hdone, hwalk, hdone⟩
  case queued =>
    intro e he
    obtain rfl | he := List.mem_cons.1 he
    · exact ⟨c + w, Function.update_self .., le_rfl⟩
    · obtain ⟨b, hb, hbe⟩ := hinv.queued e he
      by_cases hev : e.key = v
      · exact ⟨c + w, by simp [State.push, hev], (hlt b (hev ▸ hb)).le.trans hbe⟩
      · exact ⟨b, (Function.update_of_ne hev ..).trans hb, hbe⟩
  case pending =>
    intro x b hx
    by_cases hxv : x = v
    · subst hxv
      obtain rfl : c + w = b := by simpa [State.push] using hx
      exact Or.inr List.mem_cons_self
    · exact (hinv.pending x b ((Function.update_of_ne hxv ..).symm.trans hx)).imp_right
        (List.mem_cons_of_mem _)
  case settled =>
    intro x hx
    obtain ⟨b, hb, hall⟩ := hinv.settled x hx
    refine ⟨b, (Function.update_of_ne (hne x hx) ..).trans hb, fun e he => ?_⟩
    obtain rfl | he := List.mem_cons.1 he
    · exact (hmax x b hx hb).trans hle
    · exact hall e he
  case overtaken =>
    intro e he hdone heq
    obtain rfl | he := List.mem_cons.1 he
    · exact hundone hdone
    · exact hinv.overtaken e he hdone
        ((Function.update_of_ne (hne e.key hdone) ..).symm.trans heq)
  case nodup =>
    refine List.nodup_cons.2 ⟨fun hmem => ?_, hinv.nodup⟩
    obtain ⟨b, hb, hbe⟩ := hinv.queued _ hmem
    exact absurd hbe (not_le.2 (hlt b hb))

/-- What looking at an edge does: nothing is forgotten, the keys that are done keep their cost, and
the edge is of no use any more. -/
theorem Inv.relax [IsOrderedAddMonoid γ] (hadj : ∀ u, ∀ edge ∈ adj u, 0 ≤ edge.2)
    (hinv : Inv adj s done t) {u : κ} {c : γ} {edge : κ × γ} (hu : u ∈ done)
    (hbest : t.best u = some c) (hmax : ∀ x b, x ∈ done → t.best x = some b → b ≤ c)
    (hedge : edge ∈ adj u) :
    Inv adj s done (relax u c t edge) ∧ Improves t (relax u c t edge) ∧
      (∀ x ∈ done, (relax u c t edge).best x = t.best x) ∧
      (∃ b, (relax u c t edge).best edge.1 = some b ∧ b ≤ c + edge.2) ∧
      (relax u c t edge).queue.length ≤ t.queue.length + 1 := by
  obtain ⟨v, w⟩ := edge
  unfold ShortestPath.relax
  split_ifs with hlt
  · have hpush := hinv.push hadj hu hbest hmax hedge hlt
    refine ⟨hpush, ?_, ?_, ⟨c + w, Function.update_self .., le_rfl⟩, le_rfl⟩
    · intro x b hx
      by_cases hxv : x = v
      · subst hxv
        exact ⟨c + w, Function.update_self .., (hlt b hx).le⟩
      · exact ⟨b, (Function.update_of_ne hxv ..).trans hx, le_rfl⟩
    · intro x hx
      have hle : c ≤ c + w := le_add_of_nonneg_right (hadj u _ hedge)
      refine Function.update_of_ne ?_ ..
      rintro rfl
      obtain ⟨b, hb, -⟩ := hinv.settled x hx
      exact absurd ((hmax x b hx hb).trans hle) (not_le.2 (hlt b hb))
  · refine ⟨hinv, Improves.refl t, fun _ _ => rfl, ?_, Nat.le_succ _⟩
    push Not at hlt
    obtain ⟨b, hb, hle⟩ := hlt
    exact ⟨b, hb, hle⟩

/-- What looking at some edges of `u` does. -/
theorem Inv.foldl_relax [IsOrderedAddMonoid γ] (hadj : ∀ u, ∀ edge ∈ adj u, 0 ≤ edge.2)
    {u : κ} {c : γ} (hu : u ∈ done) (edges : List (κ × γ)) (hedges : ∀ edge ∈ edges, edge ∈ adj u)
    (hinv : Inv adj s done t) (hbest : t.best u = some c)
    (hmax : ∀ x b, x ∈ done → t.best x = some b → b ≤ c) :
    Inv adj s done (edges.foldl (ShortestPath.relax u c) t) ∧
      Improves t (edges.foldl (ShortestPath.relax u c) t) ∧
      (∀ x ∈ done, (edges.foldl (ShortestPath.relax u c) t).best x = t.best x) ∧
      (∀ edge ∈ edges, ∃ b,
        (edges.foldl (ShortestPath.relax u c) t).best edge.1 = some b ∧ b ≤ c + edge.2) ∧
      (edges.foldl (ShortestPath.relax u c) t).queue.length ≤ t.queue.length + edges.length := by
  induction edges generalizing t with
  | nil => exact ⟨hinv, Improves.refl t, fun _ _ => rfl, by simp, le_rfl⟩
  | cons edge edges ih =>
    obtain ⟨hinv', himp, hsame, ⟨b, hb, hbc⟩, hlen⟩ :=
      hinv.relax hadj hu hbest hmax (hedges edge List.mem_cons_self)
    obtain ⟨hinv'', himp', hsame', huse, hlen'⟩ :=
      ih (fun e he => hedges e (List.mem_cons_of_mem _ he)) hinv' ((hsame u hu).trans hbest)
        (fun x b hx hxb => hmax x b hx ((hsame x hx).symm.trans hxb))
    refine ⟨hinv'', himp.trans himp', fun x hx => (hsame' x hx).trans (hsame x hx), ?_, ?_⟩
    · intro e he
      obtain rfl | he := List.mem_cons.1 he
      · obtain ⟨b', hb', hle⟩ := himp' _ _ hb
        exact ⟨b', hb', hle.trans hbc⟩
      · exact huse e he
    · simp only [List.foldl_cons, List.length_cons]
      omega

/-- An entry of least cost is taken out that was not overtaken: its key is done. -/
theorem Inv.settle (hinv : Inv adj s done t) {e : Entry κ γ} {rest : List (Entry κ γ)}
    (hperm : t.queue.Perm (e :: rest)) (hmin : ∀ x ∈ rest, e.cost ≤ x.cost)
    (hbest : t.best e.key = some e.cost) :
    Inv adj s (insert e.key done) { t with queue := rest } where
  start := hinv.start
  label v c hv := by
    obtain ⟨p, hp, hwalk, hdone⟩ := hinv.label v c hv
    exact ⟨p, hp, hwalk, fun y hy => Finset.mem_insert_of_mem (hdone y hy)⟩
  queued x hx := hinv.queued x (hperm.mem_iff.2 (List.mem_cons_of_mem _ hx))
  pending v c hv := by
    obtain hdone | hmem := hinv.pending v c hv
    · exact Or.inl (Finset.mem_insert_of_mem hdone)
    · obtain heq | hmem := List.mem_cons.1 (hperm.mem_iff.1 hmem)
      · exact Or.inl (Finset.mem_insert.2 (Or.inl (congrArg Entry.key heq)))
      · exact Or.inr hmem
  settled v hv := by
    obtain rfl | hdone := Finset.mem_insert.1 hv
    · exact ⟨e.cost, hbest, hmin⟩
    · obtain ⟨c, hc, hall⟩ := hinv.settled v hdone
      exact ⟨c, hc, fun x hx => hall x (hperm.mem_iff.2 (List.mem_cons_of_mem _ hx))⟩
  overtaken x hx hdone heq := by
    obtain hkey | hdone := Finset.mem_insert.1 hdone
    · -- The entry that was taken out would be in the queue twice.
      have hcost : x.cost = e.cost := by
        rw [hkey, hbest] at heq
        exact (Option.some.inj heq).symm
      have hxe : x = e := by
        cases x
        cases e
        simp_all
      exact (List.nodup_cons.1 (hperm.nodup_iff.1 hinv.nodup)).1 (hxe ▸ hx)
    · exact hinv.overtaken x (hperm.mem_iff.2 (List.mem_cons_of_mem _ hx)) hdone heq
  nodup := (List.nodup_cons.1 (hperm.nodup_iff.1 hinv.nodup)).2

/-- What a round does that looks at the edges of a key. -/
theorem Inv.expand [IsOrderedAddMonoid γ] (hadj : ∀ u, ∀ edge ∈ adj u, 0 ≤ edge.2)
    (hinv : Inv adj s done t) (hclosed : ∀ u ∈ done, Closed adj t u) {e : Entry κ γ}
    {rest : List (Entry κ γ)} (hperm : t.queue.Perm (e :: rest))
    (hmin : ∀ x ∈ rest, e.cost ≤ x.cost) (hbest : t.best e.key = some e.cost) :
    Inv adj s (insert e.key done) (expand adj e { t with queue := rest }) ∧
      (∀ u ∈ insert e.key done, Closed adj (ShortestPath.expand adj e { t with queue := rest }) u) ∧
      (ShortestPath.expand adj e { t with queue := rest }).queue.length ≤
        rest.length + (adj e.key).length := by
  have hsettle := hinv.settle hperm hmin hbest
  have hmax : ∀ x b, x ∈ insert e.key done → t.best x = some b → b ≤ e.cost := by
    intro x b hx hb
    obtain rfl | hx := Finset.mem_insert.1 hx
    · exact (Option.some.inj (hb.symm.trans hbest)).le
    · obtain ⟨c, hc, hall⟩ := hinv.settled x hx
      obtain rfl : b = c := Option.some.inj (hb.symm.trans hc)
      exact hall e (hperm.mem_iff.2 List.mem_cons_self)
  obtain ⟨hinv', himp, hsame, huse, hlen⟩ :=
    hsettle.foldl_relax hadj (Finset.mem_insert_self ..) (adj e.key) (fun _ h => h) hbest hmax
  refine ⟨hinv', ?_, hlen⟩
  intro u hu
  have hbest' := hsame u hu
  obtain rfl | hu := Finset.mem_insert.1 hu
  · intro c hc edge hedge
    obtain rfl : e.cost = c := Option.some.inj (hbest.symm.trans (hbest'.symm.trans hc))
    exact huse edge hedge
  · exact (hclosed u hu).mono hbest' himp

/-! ### The whole search -/

/-- How the search may end: at a goal of least cost with the way back, or where no walk leads to a
goal. -/
def Answers (adj : κ → List (κ × γ)) (goal : κ → Prop) (s : κ) (t : State κ γ) :
    Option (Entry κ γ) → Prop
  | some e => goal e.key ∧
      (∃ p, Follows t.parent s e.key p ∧ Walk adj s (e.key :: p) e.cost) ∧
      ∀ g p c, goal g → Walk adj s (g :: p) c → e.cost ≤ c
  | none => ∀ g p c, goal g → ¬ Walk adj s (g :: p) c

/-- The search from any state of a run. -/
theorem search_of_inv [IsOrderedAddMonoid γ] (q : PriorityQueue κ γ) {goal : κ → Prop}
    [DecidablePred goal] (hadj : ∀ u, ∀ edge ∈ adj u, 0 ≤ edge.2) {S : Finset κ}
    (hreach : ∀ v p c, Walk adj s (v :: p) c → v ∈ S) (n : ℕ)
    (hinv : Inv adj s done t) (hclosed : ∀ u ∈ done, Closed adj t u)
    (hgoal : ∀ u ∈ done, ¬ goal u)
    (hn : t.queue.length + ∑ u ∈ S \ done, (adj u).length < n) :
    ∃ t' found, search q (expand adj) goal n t = some (t', found) ∧
      Answers adj goal s t' found := by
  induction n generalizing t done with
  | zero => omega
  | succ n ih =>
    rw [search]
    cases hpop : q.pop t.queue with
    | none =>
      refine ⟨t, none, rfl, fun g p c hg hwalk => ?_⟩
      obtain ⟨e, he, -⟩ := hinv.cost_le_of_walk hadj hclosed (fun hd => hgoal g hd hg) hwalk
      rw [(q.pop_eq_none _).1 hpop] at he
      exact absurd he List.not_mem_nil
    | some popped =>
      obtain ⟨e, rest⟩ := popped
      have hperm := q.perm_of_pop _ _ _ hpop
      have hmin := q.le_of_pop _ _ _ hpop
      have hmem : e ∈ t.queue := hperm.mem_iff.2 List.mem_cons_self
      have hlen : t.queue.length = rest.length + 1 := by simpa using hperm.length_eq
      obtain ⟨b, hb, hbe⟩ := hinv.queued e hmem
      dsimp only
      split_ifs with hg hover
      · -- A goal: as it was not done before, the entry carries its least cost.
        have hleast : ∀ g p c, goal g → Walk adj s (g :: p) c → e.cost ≤ c := by
          intro g p c hg hwalk
          obtain ⟨x, hx, hxc⟩ :=
            hinv.cost_le_of_walk hadj hclosed (fun hd => hgoal g hd hg) hwalk
          obtain rfl | hx := List.mem_cons.1 (hperm.mem_iff.1 hx)
          · exact hxc
          · exact (hmin x hx).trans hxc
        obtain ⟨p, hp, hwalk, -⟩ := hinv.label _ _ hb
        obtain rfl : b = e.cost := le_antisymm hbe (hleast _ _ _ hg hwalk)
        exact ⟨_, _, rfl, hg, ⟨p, hp, hwalk⟩, hleast⟩
      · -- Overtaken.
        have hne : t.best e.key ≠ some e.cost := by
          rw [hb] at hover ⊢
          exact fun h => absurd (Option.some.inj h ▸ hover) (lt_irrefl _)
        exact ih (hinv.drop hperm hne) hclosed hgoal (by dsimp only; omega)
      · have hbest : t.best e.key = some e.cost := by
          rw [hb] at hover ⊢
          exact congrArg some (le_antisymm hbe (not_lt.1 hover))
        obtain ⟨hinv', hclosed', hlen'⟩ := hinv.expand hadj hclosed hperm hmin hbest
        refine ih hinv' hclosed' ?_ ?_
        · intro u hu
          obtain rfl | hu := Finset.mem_insert.1 hu
          · exact hg
          · exact hgoal u hu
        · -- The edges of a key are looked at once only.
          have hfresh : e.key ∈ S \ done := by
            obtain ⟨p, hp⟩ := hinv.exists_walk hbest
            exact Finset.mem_sdiff.2 ⟨hreach _ _ _ hp, fun hd => hinv.overtaken e hmem hd hbest⟩
          have hsum : ∑ u ∈ S \ done, (adj u).length =
              (adj e.key).length + ∑ u ∈ S \ insert e.key done, (adj u).length := by
            rw [Finset.sdiff_insert, ← Finset.add_sum_erase _ _ hfresh]
          omega

/-- The search ends within its bound, and gives the right answer. -/
theorem search_spec [IsOrderedAddMonoid γ] (q : PriorityQueue κ γ) (goal : κ → Prop)
    [DecidablePred goal] (hadj : ∀ u, ∀ edge ∈ adj u, 0 ≤ edge.2) {S : Finset κ}
    (hreach : ∀ v p c, Walk adj s (v :: p) c → v ∈ S) {n : ℕ}
    (hn : 1 + ∑ u ∈ S, (adj u).length < n) :
    ∃ t found, search q (expand adj) goal n (State.init s) = some (t, found) ∧
      Answers adj goal s t found := by
  refine search_of_inv q hadj hreach n (Inv.init adj s) ?_ ?_ ?_
  · exact fun u hu => absurd hu (Finset.notMem_empty u)
  · exact fun u hu => absurd hu (Finset.notMem_empty u)
  · simpa [State.init] using hn

end Steps

end ShortestPath
