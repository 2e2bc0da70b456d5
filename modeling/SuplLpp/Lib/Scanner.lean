import Mathlib.Data.List.Basic
import SuplLpp.Lib.Mealy

/-!
# Parsers that are called again and again

A parser is a function `step` on the elements that wait: a call takes some of them and puts out
what it found.  More elements may come between any two calls.

* `Steady`: what a call does is not undone by elements that come later: either it would have done
  the same with them there, or it found nothing, and the next call does what one call with them
  there would have done;
* `calls` and `drain`, many calls and as many as there are elements;
* `feed`, the machine of calls and of elements that come; `Steady.drain_run`, what a run has put
  out, and what the rest would give, is what all elements at once would give;
* `run_calls`: a run that only calls is `calls`, and `Steady.calls_snd`: enough of them give
  everything.
-/

namespace Scanner

variable {α β : Type*}

/-- What later elements do to a call, and that a call without effect is the last one. -/
structure Steady (step : List α → List α × List β) : Prop where
  later : ∀ q r, step (q ++ r) = ((step q).1 ++ r, (step q).2) ∨
    (step q).2 = [] ∧ step (q ++ r) = step ((step q).1 ++ r)
  shorter : ∀ q, (step q).1.length < q.length ∨ step q = (q, [])

/-- So many calls. -/
def calls (step : List α → List α × List β) : ℕ → List α → List α × List β
  | 0, q => (q, [])
  | n + 1, q =>
      let r := step q
      let s := calls step n r.1
      (s.1, r.2 ++ s.2)

/-- What calls put out until nothing is left that they would take. -/
def drain (step : List α → List α × List β) (q : List α) : List β := (calls step q.length q).2

/-- Elements come, or the parser is called. -/
inductive Input (α : Type*)
  | append (data : List α)
  | call

/-- The elements that came. -/
def Input.data : Input α → List α
  | .append data => data
  | .call => []

/-- All elements that came. -/
def appended (inputs : List (Input α)) : List α := inputs.flatMap Input.data

def feed (step : List α → List α × List β) (q : List α) : Input α → List α × List β
  | .append data => (q ++ data, [])
  | .call => step q

section Steady

variable {step : List α → List α × List β}

theorem calls_of_fixed {q : List α} (h : step q = (q, [])) (n : ℕ) : calls step n q = (q, []) := by
  induction n with
  | zero => rfl
  | succ n ih => simp only [calls, h, ih, List.append_nil]

/-- Once there were as many calls as elements, further ones put nothing out. -/
theorem Steady.calls_congr (hs : Steady step) {n m : ℕ} {q : List α} (hn : q.length ≤ n)
    (hm : q.length ≤ m) : (calls step n q).2 = (calls step m q).2 := by
  induction n generalizing m q with
  | zero =>
    have hfixed : step q = (q, []) := (hs.shorter q).resolve_left (by omega)
    rw [calls_of_fixed hfixed, calls_of_fixed hfixed]
  | succ n ih =>
    obtain hlt | hfixed := hs.shorter q
    · obtain _ | m := m
      · omega
      · simp only [calls, ih (show (step q).1.length ≤ n by omega)
          (show (step q).1.length ≤ m by omega)]
    · rw [calls_of_fixed hfixed, calls_of_fixed hfixed]

theorem Steady.calls_snd (hs : Steady step) {n : ℕ} {q : List α} (hn : q.length ≤ n) :
    (calls step n q).2 = drain step q := hs.calls_congr hn (Nat.le_refl _)

/-- A call puts out the first of what is still to be put out. -/
theorem Steady.drain_eq (hs : Steady step) (q : List α) :
    drain step q = (step q).2 ++ drain step (step q).1 := by
  have hle : (step q).1.length ≤ q.length := by
    obtain hlt | hfixed := hs.shorter q
    · exact Nat.le_of_lt hlt
    · exact Nat.le_of_eq (congrArg (fun r => r.1.length) hfixed)
  rw [← hs.calls_snd (Nat.le_succ q.length), calls]
  exact congrArg _ (hs.calls_snd hle)

/-- Nor do elements that come later change that. -/
theorem Steady.drain_append (hs : Steady step) (q r : List α) :
    drain step (q ++ r) = (step q).2 ++ drain step ((step q).1 ++ r) := by
  obtain hsame | ⟨hnone, hsame⟩ := hs.later q r
  · rw [hs.drain_eq, hsame]
  · rw [hs.drain_eq, hsame, hnone, List.nil_append, ← hs.drain_eq]

/-- What a run has put out and what is still to come are what all elements at once would give. -/
theorem Steady.drain_run (hs : Steady step) (q : List α) (inputs : List (Input α)) (r : List α) :
    (Mealy.run (feed step) q inputs).2 ++ drain step ((Mealy.run (feed step) q inputs).1 ++ r) =
      drain step (q ++ appended inputs ++ r) := by
  induction inputs generalizing q with
  | nil => simp [appended]
  | cons input inputs ih =>
    rw [Mealy.run_cons]
    cases input with
    | append data =>
      rw [feed, List.nil_append, ih]
      simp [appended, Input.data]
    | call =>
      rw [feed, List.append_assoc, ih]
      rw [show appended (Input.call :: inputs) = appended inputs from rfl,
        List.append_assoc q, hs.drain_append q, List.append_assoc (step q).1]

theorem run_calls (n : ℕ) (q : List α) :
    Mealy.run (feed step) q (List.replicate n Input.call) = calls step n q := by
  induction n generalizing q with
  | zero => rfl
  | succ n ih =>
    rw [List.replicate_succ, Mealy.run_cons, ih]
    rfl

/-- What is put out may be looked at in another way. -/
theorem Steady.map {γ : Type*} (hs : Steady step) (f : β → γ) :
    Steady fun q => ((step q).1, (step q).2.map f) where
  later q r := by
    obtain hsame | ⟨hnone, hsame⟩ := hs.later q r
    · exact Or.inl (by rw [hsame])
    · exact Or.inr ⟨by rw [hnone, List.map_nil], by rw [hsame]⟩
  shorter q := by
    obtain hlt | hfixed := hs.shorter q
    · exact Or.inl hlt
    · exact Or.inr (by rw [hfixed, List.map_nil])

/-- Inputs that say more than the parser sees. -/
theorem run_plain {ι : Type*} (plain : ι → Input α) (q : List α) (inputs : List ι) :
    Mealy.run (fun q input => feed step q (plain input)) q inputs =
      Mealy.run (feed step) q (inputs.map plain) := by
  induction inputs generalizing q with
  | nil => rfl
  | cons input inputs ih => rw [Mealy.run_cons, ih, List.map_cons, Mealy.run_cons]

end Steady

end Scanner
