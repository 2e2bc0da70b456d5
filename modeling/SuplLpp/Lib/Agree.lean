import Mathlib.Control.Basic
import Mathlib.Data.List.Basic

/-!
# State programs that do not tell related states apart

* `Agree R x`: started in states that `R` relates, the program `x` answers the same and leaves
  related states; one rule for each way to build a program.
-/

variable {σ α β : Type}

/-- Related states lead to the same answer and to related states. -/
def Agree (R : σ → σ → Prop) (x : StateM σ α) : Prop :=
  ∀ s s', R s s' → (x.run s).1 = (x.run s').1 ∧ R (x.run s).2 (x.run s').2

/-- Run one program, and then the other. -/
theorem StateM.run_seq (x : StateM σ α) (f : α → StateM σ β) (s : σ) :
    (x >>= f).run s = (f (x.run s).1).run (x.run s).2 := rfl

/-- Repeat a program, and collect the answers. -/
def StateM.times (n : ℕ) (x : StateM σ α) : StateM σ (List α) :=
  match n with
  | 0 => pure []
  | n + 1 => do
    let a ← x
    let as ← times n x
    pure (a :: as)

namespace Agree

variable {R : σ → σ → Prop}

theorem pure (a : α) : Agree R (Pure.pure a : StateM σ α) := fun _ _ h => ⟨rfl, h⟩

theorem bind {x : StateM σ α} {f : α → StateM σ β} (hx : Agree R x) (hf : ∀ a, Agree R (f a)) :
    Agree R (x >>= f) := by
  intro s s' h
  obtain ⟨hanswer, hstate⟩ := hx s s' h
  have hrest := hf (x.run s).1 _ _ hstate
  have hright : (x >>= f).run s' = (f (x.run s).1).run (x.run s').2 := by
    rw [hanswer]
    rfl
  rw [hright]
  exact hrest

theorem map {x : StateM σ α} (hx : Agree R x) (f : α → β) : Agree R (f <$> x) := by
  intro s s' h
  obtain ⟨hanswer, hstate⟩ := hx s s' h
  exact ⟨congrArg f hanswer, hstate⟩

theorem ite {c : Prop} [Decidable c] {x y : StateM σ α} (hx : Agree R x) (hy : Agree R y) :
    Agree R (if c then x else y) := by
  split
  · exact hx
  · exact hy

theorem times {x : StateM σ α} (hx : Agree R x) (n : ℕ) : Agree R (x.times n) := by
  induction n with
  | zero => exact pure []
  | succ n ih => exact hx.bind fun a => ih.bind fun as => pure (a :: as)

end Agree
