import SuplLpp.Lib.Table

/-!
# Unbroken series

Calls are kept newest first, and a key is active in some of them.  Its current series is the
calls from the last one back to the first in which it was not active.

* `series` and `first`, the call that began the series;
* `Tracks`: a table holds, for each key with a current series, the time of its first call;
  `Tracks.cons`: a table is kept so by dropping the keys that are not active and adding the new
  ones with the time of the call.
-/

namespace Streak

variable {ω κ τ : Type*} (active : ω → κ → Prop) [∀ c k, Decidable (active c k)]

/-- The calls of the current series, newest first. -/
def series (k : κ) (calls : List ω) : List ω := calls.takeWhile fun c => decide (active c k)

/-- The first call of the current series. -/
def first (k : κ) (calls : List ω) : Option ω := (series active k calls).getLast?

variable {active}

theorem series_cons_of_active {k : κ} {c : ω} (h : active c k) (calls : List ω) :
    series active k (c :: calls) = c :: series active k calls :=
  List.takeWhile_cons_of_pos (by simpa using h)

theorem series_cons_of_not {k : κ} {c : ω} (h : ¬active c k) (calls : List ω) :
    series active k (c :: calls) = [] :=
  List.takeWhile_cons_of_neg (by simpa using h)

theorem first_cons_of_active {k : κ} {c : ω} (h : active c k) (calls : List ω) :
    first active k (c :: calls) = some ((first active k calls).getD c) := by
  rw [first, series_cons_of_active h, List.getLast?_cons]
  rfl

theorem first_cons_of_not {k : κ} {c : ω} (h : ¬active c k) (calls : List ω) :
    first active k (c :: calls) = none := by
  rw [first, series_cons_of_not h]
  rfl

theorem first_eq_none_iff {k : κ} {calls : List ω} :
    first active k calls = none ↔ series active k calls = [] :=
  List.getLast?_eq_none_iff

variable (active) in
/-- The table holds the times of the first calls. -/
def Tracks [DecidableEq κ] (time : ω → τ) (t : Table κ τ) (calls : List ω) : Prop :=
  ∀ k, t.lookup k = (first active k calls).map time

variable [DecidableEq κ] {time : ω → τ} {t t' : Table κ τ} {calls : List ω}

theorem tracks_empty : Tracks active time ∅ [] := fun _ => rfl

/-- **The step rule.** -/
theorem Tracks.cons (h : Tracks active time t calls) (c : ω)
    (hlookup : ∀ k, t'.lookup k =
      if active c k then some ((t.lookup k).getD (time c)) else none) :
    Tracks active time t' (c :: calls) := by
  intro k
  rw [hlookup]
  by_cases hactive : active c k
  · rw [if_pos hactive, first_cons_of_active hactive, h k, Option.getD_map]
    rfl
  · rw [if_neg hactive, first_cons_of_not hactive]
    rfl

/-- A table keeps a key exactly while it is active. -/
theorem Tracks.isSome_iff (h : Tracks active time t' (c :: calls)) (k : κ) :
    (t'.lookup k).isSome ↔ active c k := by
  rw [h k, Option.isSome_map]
  by_cases hactive : active c k
  · simp [first_cons_of_active hactive, hactive]
  · simp [first_cons_of_not hactive, hactive]

end Streak
