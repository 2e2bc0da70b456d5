import Mathlib.Tactic.Common

/-!
# `while` loops

A loop is a guard and a body.

* `Ends`, the runs of a loop that come to an end; `Ends.exit`, `Ends.invariant` and `Ends.unique`,
  what is known of the last state;
* `run`, the loop of a body that makes a measure smaller, and `ends_iff`: its runs all end, there;
* `ends_iff_round`: a loop that never has a second round is a conditional.
-/

namespace While

variable {σ : Type*} {guard : σ → Prop} {body : σ → σ}

/-- The loop, started in the first state, ends in the second. -/
inductive Ends (guard : σ → Prop) (body : σ → σ) : σ → σ → Prop
  | done {s : σ} : ¬ guard s → Ends guard body s s
  | round {s t : σ} : guard s → Ends guard body (body s) t → Ends guard body s t

theorem Ends.exit {s t : σ} (h : Ends guard body s t) : ¬ guard t := by
  induction h with
  | done hs => exact hs
  | round _ _ ih => exact ih

/-- What a round keeps, the loop keeps. -/
theorem Ends.invariant {I : σ → Prop} (hround : ∀ s, guard s → I s → I (body s)) {s t : σ}
    (h : Ends guard body s t) (hs : I s) : I t := by
  induction h with
  | done _ => exact hs
  | round hguard _ ih => exact ih (hround _ hguard hs)

theorem Ends.unique {s t u : σ} (ht : Ends guard body s t) (hu : Ends guard body s u) :
    t = u := by
  induction ht with
  | done hs =>
    cases hu with
    | done _ => rfl
    | round hguard _ => exact absurd hguard hs
  | round hguard _ ih =>
    cases hu with
    | done hs => exact absurd hguard hs
    | round _ hrest => exact ih hrest

/-! ### Loops with a measure -/

section Measure

variable [DecidablePred guard] (measure : σ → ℕ)

/-- The loop, where every round makes the measure smaller. -/
def run (hround : ∀ s, guard s → measure (body s) < measure s) (s : σ) : σ :=
  if guard s then run hround (body s) else s
termination_by measure s
decreasing_by exact hround s ‹_›

theorem ends_run (hround : ∀ s, guard s → measure (body s) < measure s) (s : σ) :
    Ends guard body s (run measure hround s) := by
  induction s using run.induct measure hround with
  | case1 s hguard ih =>
    rw [run, if_pos hguard]
    exact Ends.round hguard ih
  | case2 s hguard =>
    rw [run, if_neg hguard]
    exact Ends.done hguard

/-- The loop ends, and nowhere else. -/
theorem ends_iff (hround : ∀ s, guard s → measure (body s) < measure s) (s t : σ) :
    Ends guard body s t ↔ t = run measure hround s := by
  constructor
  · exact fun h => h.unique (ends_run measure hround s)
  · rintro rfl
    exact ends_run measure hround s

end Measure

/-- Where the body leaves nothing for a second round, the loop is a conditional. -/
theorem ends_iff_round [DecidablePred guard] {s : σ} (hbody : guard s → ¬ guard (body s))
    (t : σ) : Ends guard body s t ↔ t = if guard s then body s else s := by
  have hends : Ends guard body s (if guard s then body s else s) := by
    split_ifs with hguard
    · exact Ends.round hguard (Ends.done (hbody hguard))
    · exact Ends.done hguard
  constructor
  · exact fun h => h.unique hends
  · rintro rfl
    exact hends

end While
