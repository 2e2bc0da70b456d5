import Mathlib.Data.List.Basic

/-!
# What came after a mark

A history is a list of observations, oldest first.  Some of them are marks, with a value;
`since` lists the marks of a history, each with what came after it.

* `since_eq_nil`: a history without marks;
* `since_append`: the marks of a history that grew.
-/

namespace Since

variable {ω α : Type*} (mark : ω → Option α)

/-- The marks of a history, each with what came after it. -/
def since : List ω → List (α × List ω)
  | [] => []
  | o :: out =>
    match mark o with
    | some a => (a, out) :: since out
    | none => since out

@[simp] theorem since_nil : since mark [] = [] := rfl

theorem since_append (out es : List ω) :
    since mark (out ++ es) =
      (since mark out).map (fun p => (p.1, p.2 ++ es)) ++ since mark es := by
  induction out with
  | nil => rfl
  | cons o out ih =>
    cases ho : mark o with
    | none => simpa [since, ho] using ih
    | some a => simp [since, ho, ih]

variable {mark}

/-- A history without marks. -/
theorem since_eq_nil {es : List ω} (h : ∀ o ∈ es, mark o = none) : since mark es = [] := by
  induction es with
  | nil => rfl
  | cons o es ih =>
    rw [List.forall_mem_cons] at h
    simpa [since, h.1] using ih h.2

end Since
