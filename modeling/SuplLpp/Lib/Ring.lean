import Mathlib.Data.List.Basic
import Mathlib.Logic.Function.Basic
import Mathlib.Tactic.Ring

/-!
# Queues that keep the newest elements, and windows of a ring

* `keepNewest n l`: the last `n` elements of `l`, the state of a queue of bound `n` into
  which `l` was pushed;
* `window cells cap start len`: the `len` elements read from a circular array of `cap`
  cells, from cell `start` on.  `window_drop` (reading on), `window_snoc` (writing one cell
  past the end) and `getElem?_window` are all that a circular queue needs.

Cells are a function `ℕ → α`; only those below `cap` are read.
-/

namespace Ring

variable {α : Type*}

/-! ### Keeping the newest -/

/-- The newest `n` elements of `l`, in order. -/
def keepNewest (n : ℕ) (l : List α) : List α := l.drop (l.length - n)

@[simp] theorem length_keepNewest (n : ℕ) (l : List α) :
    (keepNewest n l).length = min n l.length := by
  simp only [keepNewest, List.length_drop]
  omega

theorem keepNewest_of_le {n : ℕ} {l : List α} (h : l.length ≤ n) : keepNewest n l = l := by
  simp [keepNewest, Nat.sub_eq_zero_of_le h]

/-- Dropping early or late makes no difference. -/
theorem keepNewest_append (n : ℕ) (l m : List α) :
    keepNewest n (keepNewest n l ++ m) = keepNewest n (l ++ m) := by
  simp only [keepNewest, List.length_append, List.length_drop, List.drop_append, List.drop_drop]
  congr 1
  · congr 1; omega
  · congr 1; omega

/-- Pushing one element into a queue that is not longer than the bound. -/
theorem keepNewest_snoc {n : ℕ} {l : List α} (h : l.length ≤ n) (x : α) :
    keepNewest n (l ++ [x]) = if l.length < n then l ++ [x] else (l ++ [x]).drop 1 := by
  split_ifs with hlt
  · exact keepNewest_of_le (by simp; omega)
  · have hlen : (l ++ [x]).length - n = 1 := by simp; omega
    rw [keepNewest, hlen]

/-! ### Windows -/

/-- The `len` elements of a ring of `cap` cells from cell `start` on. -/
def window (cells : ℕ → α) (cap start len : ℕ) : List α :=
  (List.range len).map fun i => cells ((start + i) % cap)

@[simp] theorem length_window (cells : ℕ → α) (cap start len : ℕ) :
    (window cells cap start len).length = len := by simp [window]

@[simp] theorem window_zero (cells : ℕ → α) (cap start : ℕ) : window cells cap start 0 = [] := rfl

theorem getElem?_window (cells : ℕ → α) (cap start len i : ℕ) :
    (window cells cap start len)[i]? =
      if i < len then some (cells ((start + i) % cap)) else none := by
  split_ifs with h
  · simp [window, h]
  · simpa [window] using h

/-- Reading on by `k` cells. -/
theorem window_drop (cells : ℕ → α) (cap start len k : ℕ) :
    (window cells cap start len).drop k = window cells cap ((start + k) % cap) (len - k) := by
  apply List.ext_getElem?
  intro i
  rw [List.getElem?_drop, getElem?_window, getElem?_window]
  have hcell : (start + (k + i)) % cap = ((start + k) % cap + i) % cap := by
    rw [Nat.mod_add_mod, Nat.add_assoc]
  rw [hcell]
  exact if_congr (by omega) rfl rfl

/-- Distinct offsets below the capacity are distinct cells. -/
theorem offset_ne {cap start i n : ℕ} (hi : i < n) (hn : n < cap) :
    (start + i) % cap ≠ (start + n) % cap := by
  intro h
  have hdvd : cap ∣ n - i := by
    have := Nat.sub_mod_eq_zero_of_mod_eq h.symm
    rw [Nat.add_sub_add_left] at this
    exact Nat.dvd_of_mod_eq_zero this
  have := Nat.le_of_dvd (by omega) hdvd
  omega

/-- Writing the cell one past the end of a window that leaves it free. -/
theorem window_snoc (cells : ℕ → α) {cap start len : ℕ} (h : len < cap) (x : α) :
    window (Function.update cells ((start + len) % cap) x) cap start (len + 1) =
      window cells cap start len ++ [x] := by
  simp only [window, List.range_succ, List.map_append, List.map_cons, List.map_nil,
    Function.update_self]
  congr 1
  refine List.map_congr_left fun i hi => ?_
  rw [Function.update_of_ne (offset_ne (List.mem_range.1 hi) h)]

end Ring
