import SuplLpp.Lib.Ring

/-!
# Bounded queues and what passes through them

A `BoundedQueue α M` is a first-in first-out queue of at most `M` elements: what is pushed drives
out the oldest.  Besides its elements it knows how many it has taken in since it was last empty,
`taken`; a push of `M` or more elements empties it first.

* `push`, `pop` and `clear`, each of which keeps the invariants;
* `passed`: how many of the elements taken in have left again.
-/

/-- The elements that wait, oldest first, and the number taken in since there were none. -/
structure BoundedQueue (α : Type*) (M : ℕ) where
  items : List α
  taken : ℕ
  items_le : items.length ≤ M
  items_le_taken : items.length ≤ taken
  taken_of_empty : items = [] → taken = 0

namespace BoundedQueue

variable {α : Type*} {M : ℕ}

def nil : BoundedQueue α M := ⟨[], 0, Nat.zero_le _, le_refl _, fun _ => rfl⟩

/-- The elements taken in that have left. -/
def passed (q : BoundedQueue α M) : ℕ := q.taken - q.items.length

def push (q : BoundedQueue α M) (xs : List α) : BoundedQueue α M where
  items := Ring.keepNewest M (q.items ++ xs)
  taken := if M ≤ xs.length then M else q.taken + xs.length
  items_le := by simp
  items_le_taken := by
    have := q.items_le_taken
    rw [Ring.length_keepNewest, List.length_append]
    split <;> omega
  taken_of_empty h := by
    have hlength := congrArg List.length h
    rw [Ring.length_keepNewest, List.length_append, List.length_nil] at hlength
    split
    · omega
    · -- a queue with room stays empty only if nothing is pushed into an empty one
      have hitems : q.items = [] := List.length_eq_zero_iff.1 (by omega)
      rw [q.taken_of_empty hitems]
      omega

def pop (q : BoundedQueue α M) (n : ℕ) : BoundedQueue α M where
  items := q.items.drop n
  taken := if q.items.length ≤ n then 0 else q.taken
  items_le := by
    have := q.items_le
    rw [List.length_drop]
    omega
  items_le_taken := by
    have := q.items_le_taken
    rw [List.length_drop]
    split <;> omega
  taken_of_empty h := if_pos (List.drop_eq_nil_iff.1 h)

def clear (_q : BoundedQueue α M) : BoundedQueue α M := nil

@[simp] theorem items_nil : (nil : BoundedQueue α M).items = [] := rfl

@[simp] theorem taken_nil : (nil : BoundedQueue α M).taken = 0 := rfl

@[simp] theorem items_push (q : BoundedQueue α M) (xs : List α) :
    (q.push xs).items = Ring.keepNewest M (q.items ++ xs) := rfl

@[simp] theorem taken_push (q : BoundedQueue α M) (xs : List α) :
    (q.push xs).taken = if M ≤ xs.length then M else q.taken + xs.length := rfl

@[simp] theorem items_pop (q : BoundedQueue α M) (n : ℕ) : (q.pop n).items = q.items.drop n := rfl

@[simp] theorem taken_pop (q : BoundedQueue α M) (n : ℕ) :
    (q.pop n).taken = if q.items.length ≤ n then 0 else q.taken := rfl

end BoundedQueue
