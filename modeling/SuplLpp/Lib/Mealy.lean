import Mathlib.Data.List.Basic

/-!
# Deterministic machines with output

A machine is a function `σ → ι → σ × List ω`: an input moves the state and emits
outputs.  `run` feeds a list of inputs and collects what is emitted, oldest first;
`mem_run_iff` says where an output comes from, `run_filterMap` leaves out inputs.

* `invariant`: a predicate on the state and the outputs so far that every step keeps
  holds after every run; `Along` restricts the steps a run may take, by the state and by
  the outputs so far (`along_iff_split`: by the inputs that came before);
* `good_iff_along`, `states_good_iff_along`: when exactly all states of a run are good;
* `outputs_good_iff_along`, `outputs_iff_along`: when exactly all its outputs are;
* `run_simulates`: two machines whose steps agree on the outputs and keep a relation
  between their states emit the same outputs on every run.
-/

namespace Mealy

variable {σ τ ι ω : Type*}

/-- The state reached and the outputs emitted, oldest first. -/
def run (step : σ → ι → σ × List ω) (s : σ) : List ι → σ × List ω
  | [] => (s, [])
  | i :: is =>
      let r := step s i
      let t := run step r.1 is
      (t.1, r.2 ++ t.2)

@[simp] theorem run_nil (step : σ → ι → σ × List ω) (s : σ) : run step s [] = (s, []) := rfl

theorem run_cons (step : σ → ι → σ × List ω) (s : σ) (i : ι) (is : List ι) :
    run step s (i :: is) =
      ((run step (step s i).1 is).1, (step s i).2 ++ (run step (step s i).1 is).2) := rfl

theorem run_append (step : σ → ι → σ × List ω) (s : σ) (is js : List ι) :
    run step s (is ++ js) =
      ((run step (run step s is).1 js).1,
        (run step s is).2 ++ (run step (run step s is).1 js).2) := by
  induction is generalizing s with
  | nil => rfl
  | cons i is ih => rw [List.cons_append, run_cons, ih, run_cons, List.append_assoc]

theorem run_snoc_fst (step : σ → ι → σ × List ω) (s : σ) (is : List ι) (i : ι) :
    (run step s (is ++ [i])).1 = (step (run step s is).1 i).1 := by
  rw [run_append, run_cons, run_nil]

theorem run_snoc_snd (step : σ → ι → σ × List ω) (s : σ) (is : List ι) (i : ι) :
    (run step s (is ++ [i])).2 = (run step s is).2 ++ (step (run step s is).1 i).2 := by
  rw [run_append, run_cons, run_nil, List.append_nil]

/-- Every step of the run from `s` meets `ok`, which sees the state the step is taken in
and the outputs up to it (`out` before the run). -/
def Along (ok : σ → List ω → ι → Prop) (step : σ → ι → σ × List ω) :
    σ → List ω → List ι → Prop
  | _, _, [] => True
  | s, out, i :: is => ok s out i ∧ Along ok step (step s i).1 (out ++ (step s i).2) is

instance decidableAlong (ok : σ → List ω → ι → Prop) [∀ s out i, Decidable (ok s out i)]
    (step : σ → ι → σ × List ω) :
    (s : σ) → (out : List ω) → (is : List ι) → Decidable (Along ok step s out is)
  | _, _, [] => .isTrue trivial
  | s, out, i :: is =>
      have := decidableAlong ok step (step s i).1 (out ++ (step s i).2) is
      inferInstanceAs (Decidable (_ ∧ _))

section Along

variable {ok : σ → List ω → ι → Prop} {step : σ → ι → σ × List ω}

theorem along_append {s : σ} {out : List ω} {is js : List ι} :
    Along ok step s out (is ++ js) ↔
      Along ok step s out is ∧
        Along ok step (run step s is).1 (out ++ (run step s is).2) js := by
  induction is generalizing s out with
  | nil => simp [Along]
  | cons i is ih => simp [Along, ih, run_cons, and_assoc]

theorem along_of_forall {is : List ι} (h : ∀ s out, ∀ i ∈ is, ok s out i) (s : σ)
    (out : List ω) : Along ok step s out is := by
  induction is generalizing s out with
  | nil => trivial
  | cons i is ih =>
    exact ⟨h s out i List.mem_cons_self,
      ih (fun s out i hi => h s out i (List.mem_cons_of_mem _ hi)) _ _⟩

theorem Along.mono {ok' : σ → List ω → ι → Prop} (h : ∀ s out i, ok s out i → ok' s out i)
    {s : σ} {out : List ω} {is : List ι} (his : Along ok step s out is) :
    Along ok' step s out is := by
  induction is generalizing s out with
  | nil => trivial
  | cons i is ih => exact ⟨h s out i his.1, ih his.2⟩

/-- Two conditions at once. -/
theorem Along.and {ok' : σ → List ω → ι → Prop} {s : σ} {out : List ω} {is : List ι}
    (his : Along ok step s out is) (his' : Along ok' step s out is) :
    Along (fun s out i => ok s out i ∧ ok' s out i) step s out is := by
  induction is generalizing s out with
  | nil => trivial
  | cons i is ih => exact ⟨⟨his.1, his'.1⟩, ih his.2 his'.2⟩

/-- **The invariant rule.**  What holds of the state and the outputs at the start, and is
kept by every step that meets the condition, holds after the run. -/
theorem invariant {P : σ → List ω → Prop}
    (hstep : ∀ s out i, P s out → ok s out i → P (step s i).1 (out ++ (step s i).2))
    {s : σ} {out : List ω} (h0 : P s out) {is : List ι} (his : Along ok step s out is) :
    P (run step s is).1 (out ++ (run step s is).2) := by
  induction is generalizing s out with
  | nil => simpa using h0
  | cons i is ih =>
    rw [run_cons, ← List.append_assoc]
    exact ih (hstep s out i h0 his.1) his.2

/-- The invariant rule for a run from the start. -/
theorem invariant_run {P : σ → List ω → Prop}
    (hstep : ∀ s out i, P s out → ok s out i → P (step s i).1 (out ++ (step s i).2))
    {s : σ} (h0 : P s []) {is : List ι} (his : Along ok step s [] is) :
    P (run step s is).1 (run step s is).2 :=
  invariant hstep h0 his

/-- The condition at each input of the run, in the state that it finds. -/
theorem along_iff_split {ok : σ → ι → Prop} {is : List ι} {s : σ} {out : List ω} :
    Along (fun s _ i => ok s i) step s out is ↔
      ∀ before i after, is = before ++ i :: after → ok (run step s before).1 i := by
  induction is generalizing s out with
  | nil => simp [Along]
  | cons j is ih =>
    rw [Along, ih]
    constructor
    · rintro ⟨hj, hrest⟩ before i after hsplit
      cases before with
      | nil =>
        cases hsplit
        exact hj
      | cons k before =>
        cases hsplit
        exact hrest before i after rfl
    · intro hall
      exact ⟨hall [] j is rfl, fun before i after hsplit =>
        hall (j :: before) i after (congrArg (j :: ·) hsplit)⟩

end Along

/-! ### Exact conditions -/

/-- **The exactness rule.**  If a bad step always leads to a state that is not good, and every
other step keeps an invariant that makes states good, then all states of a run are good if
and only if none of its steps is bad. -/
theorem good_iff_along {step : σ → ι → σ × List ω} {P good : σ → Prop} {bad : σ → ι → Prop}
    (ok : ι → Prop) (hgood : ∀ s, P s → good s)
    (hbad : ∀ s i, P s → ok i → bad s i → ¬good (step s i).1)
    (hstep : ∀ s i, P s → ok i → ¬bad s i → P (step s i).1)
    {s : σ} (h0 : P s) (out : List ω) {is : List ι} (his : ∀ i ∈ is, ok i) :
    (∀ js, js <+: is → good (run step s js).1) ↔
      Along (fun s _ i => ¬bad s i) step s out is := by
  induction is generalizing s out with
  | nil =>
    refine ⟨fun _ => trivial, fun _ js hjs => ?_⟩
    rw [List.prefix_nil.1 hjs]
    exact hgood s h0
  | cons i is ih =>
    rw [List.forall_mem_cons] at his
    obtain ⟨hi, his⟩ := his
    constructor
    · intro hall
      have hnot : ¬bad s i := fun hb =>
        hbad s i h0 hi hb (by simpa [run_cons] using hall [i] (by simp))
      refine ⟨hnot, (ih (hstep s i h0 hi hnot) _ his).1 fun js hjs => ?_⟩
      simpa [run_cons] using hall (i :: js) ((List.prefix_cons_inj i).2 hjs)
    · rintro ⟨hnot, hrest⟩ js hjs
      cases js with
      | nil => exact hgood s h0
      | cons j js =>
        obtain ⟨rfl, htail⟩ := List.cons_prefix_cons.1 hjs
        exact (ih (hstep s j h0 hi hnot) _ his).2 hrest js htail

/-- **The exactness rule with outputs.**  If, under an invariant, a step that does not meet a
condition leads to a state that is not good, and a step that meets it keeps the invariant, which
makes states good, then all states of a run are good if and only if all its steps meet the
condition. -/
theorem states_good_iff_along {step : σ → ι → σ × List ω} {P good : σ → List ω → Prop}
    {ok : σ → List ω → ι → Prop} (env : ι → Prop) (hgood : ∀ s out, P s out → good s out)
    (hbad : ∀ s out i, P s out → env i → ¬ok s out i →
      ¬good (step s i).1 (out ++ (step s i).2))
    (hstep : ∀ s out i, P s out → env i → ok s out i →
      P (step s i).1 (out ++ (step s i).2))
    {s : σ} {out : List ω} (h0 : P s out) {is : List ι} (his : ∀ i ∈ is, env i) :
    (∀ js, js <+: is → good (run step s js).1 (out ++ (run step s js).2)) ↔
      Along ok step s out is := by
  induction is generalizing s out with
  | nil =>
    refine ⟨fun _ => trivial, fun _ js hjs => ?_⟩
    rw [List.prefix_nil.1 hjs, run_nil, List.append_nil]
    exact hgood s out h0
  | cons i is ih =>
    obtain ⟨hi, henv⟩ := List.forall_mem_cons.1 his
    constructor
    · intro hall
      have hmeets : ok s out i := by
        by_contra hnot
        have hfirst := hall [i] (by simp)
        rw [run_cons, run_nil, List.append_nil] at hfirst
        exact hbad s out i h0 hi hnot hfirst
      refine ⟨hmeets, (ih (hstep s out i h0 hi hmeets) henv).1 fun js hjs => ?_⟩
      have hlater := hall (i :: js) ((List.prefix_cons_inj i).2 hjs)
      rwa [run_cons, ← List.append_assoc] at hlater
    · rintro ⟨hmeets, hrest⟩ js hjs
      cases js with
      | nil =>
        rw [run_nil, List.append_nil]
        exact hgood s out h0
      | cons j js =>
        obtain ⟨rfl, htail⟩ := List.cons_prefix_cons.1 hjs
        rw [run_cons, ← List.append_assoc]
        exact (ih (hstep s out j h0 hi hmeets) henv).2 hrest js htail

/-- **The exactness rule for outputs.**  If, under an invariant, a step that meets a condition
keeps the invariant and has only good outputs, and every other step has an output that is not
good, then all outputs of a run are good if and only if all its steps meet the condition. -/
theorem outputs_good_iff_along {step : σ → ι → σ × List ω} {P : σ → Prop} {good : ω → Prop}
    {ok : σ → ι → Prop}
    (hok : ∀ s i, P s → ok s i → P (step s i).1 ∧ ∀ o ∈ (step s i).2, good o)
    (hbad : ∀ s i, P s → ¬ok s i → ∃ o ∈ (step s i).2, ¬good o)
    {s : σ} (h0 : P s) (out : List ω) (is : List ι) :
    (∀ o ∈ (run step s is).2, good o) ↔ Along (fun s _ i => ok s i) step s out is := by
  induction is generalizing s out with
  | nil => simp [Along]
  | cons i is ih =>
    rw [run_cons, Along]
    by_cases hi : ok s i
    · obtain ⟨hP, hgood⟩ := hok s i h0 hi
      rw [← ih hP]
      simp only [List.forall_mem_append, hi, true_and, and_iff_right hgood]
    · obtain ⟨o, ho, hnot⟩ := hbad s i h0 hi
      refine iff_of_false (fun hall => hnot (hall o ?_)) (fun h => hi h.1)
      exact List.mem_append_left _ ho

/-- **The output rule.**  If, under an invariant that every step keeps, the outputs of a step
are good if and only if the step meets a condition, then all outputs of a run are good if and
only if all its steps meet the condition. -/
theorem outputs_iff_along {step : σ → ι → σ × List ω} {P : σ → Prop} {good : ω → Prop}
    {ok : σ → ι → Prop} (hkeeps : ∀ s i, P s → P (step s i).1)
    (hstep : ∀ s i, P s → ((∀ o ∈ (step s i).2, good o) ↔ ok s i))
    {s : σ} (h0 : P s) (out : List ω) (is : List ι) :
    (∀ o ∈ (run step s is).2, good o) ↔ Along (fun s _ i => ok s i) step s out is := by
  refine outputs_good_iff_along (fun s i hs hi => ⟨hkeeps s i hs, (hstep s i hs).2 hi⟩)
    (fun s i hs hi => ?_) h0 out is
  by_contra hall
  push Not at hall
  exact hi ((hstep s i hs).1 hall)

/-! ### Simulation -/

/-- **The simulation rule.**  If related states stay related and emit the same outputs on
every admissible input, then whole runs do. -/
theorem run_simulates {f : σ → ι → σ × List ω} {g : τ → ι → τ × List ω} {R : σ → τ → Prop}
    (ok : ι → Prop)
    (hstep : ∀ s t i, R s t → ok i → R (f s i).1 (g t i).1 ∧ (f s i).2 = (g t i).2)
    {s : σ} {t : τ} (h0 : R s t) {is : List ι} (his : ∀ i ∈ is, ok i) :
    R (run f s is).1 (run g t is).1 ∧ (run f s is).2 = (run g t is).2 := by
  induction is generalizing s t with
  | nil => exact ⟨h0, rfl⟩
  | cons i is ih =>
    obtain ⟨hi, his⟩ := List.forall_mem_cons.1 his
    obtain ⟨hR, hout⟩ := hstep s t i h0 hi
    obtain ⟨hR', hout'⟩ := ih hR his
    exact ⟨hR', by rw [run_cons, run_cons, hout, hout']⟩

/-- The simulation rule for a run whose steps meet a condition. -/
theorem Along.run_simulates {f : σ → ι → σ × List ω} {g : τ → ι → τ × List ω} {R : σ → τ → Prop}
    {ok : σ → List ω → ι → Prop}
    (hstep : ∀ s t out i, R s t → ok s out i →
      R (f s i).1 (g t i).1 ∧ (f s i).2 = (g t i).2)
    {s : σ} {t : τ} (h0 : R s t) {out : List ω} {is : List ι} (his : Along ok f s out is) :
    R (run f s is).1 (run g t is).1 ∧ (run f s is).2 = (run g t is).2 := by
  induction is generalizing s t out with
  | nil => exact ⟨h0, rfl⟩
  | cons i is ih =>
    obtain ⟨hrel, hout⟩ := hstep s t out i h0 his.1
    obtain ⟨hrel', hout'⟩ := ih hrel his.2
    rw [run_cons, run_cons]
    exact ⟨hrel', congrArg₂ (· ++ ·) hout hout'⟩

end Mealy
