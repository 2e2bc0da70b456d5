import Mathlib.Data.List.Forall2

/-!
# Computations that may fail

Rules for `Except`: when a composition answers, and what it answers then.

* `bind_eq_ok`, `mapM_eq_ok`: the answer of a sequence comes from the answers of its parts;
* `Finishes x`, the computation answers; `finishes_bind`, `finishes_mapM`, `finishes_foldlM`;
* `foldlM_induction`: what every round of a loop keeps, the loop keeps.
-/

namespace Fallible

variable {ε α β : Type}

theorem bind_eq_ok {x : Except ε α} {f : α → Except ε β} {b : β} :
    x >>= f = .ok b ↔ ∃ a, x = .ok a ∧ f a = .ok b := by
  cases x with
  | error e =>
    constructor
    · intro h
      cases h
    · rintro ⟨a, ha, -⟩
      cases ha
  | ok a =>
    constructor
    · intro h
      exact ⟨a, rfl, h⟩
    · rintro ⟨a', ha, h⟩
      cases ha
      exact h

theorem pure_eq_ok {a b : α} : (pure a : Except ε α) = .ok b ↔ a = b := by
  constructor
  · intro h
    cases h
    rfl
  · rintro rfl
    rfl

/-- The computation answers. -/
def Finishes (x : Except ε α) : Prop := ∃ a, x = .ok a

@[simp] theorem finishes_ok (a : α) : Finishes (.ok a : Except ε α) := ⟨a, rfl⟩

@[simp] theorem finishes_pure (a : α) : Finishes (pure a : Except ε α) := ⟨a, rfl⟩

@[simp] theorem not_finishes_error (e : ε) : ¬ Finishes (.error e : Except ε α) := by
  rintro ⟨a, ha⟩
  cases ha

theorem finishes_bind {x : Except ε α} {f : α → Except ε β} :
    Finishes (x >>= f) ↔ ∃ a, x = .ok a ∧ Finishes (f a) := by
  constructor
  · rintro ⟨b, hb⟩
    obtain ⟨a, ha, hf⟩ := bind_eq_ok.1 hb
    exact ⟨a, ha, b, hf⟩
  · rintro ⟨a, ha, b, hf⟩
    exact ⟨b, bind_eq_ok.2 ⟨a, ha, hf⟩⟩

/-- A second part that finishes or fails whatever the first answers. -/
theorem finishes_bind_iff {x : Except ε α} {f : α → Except ε β} {p q : Prop}
    (hx : Finishes x ↔ p) (hf : ∀ a, x = .ok a → (Finishes (f a) ↔ q)) :
    Finishes (x >>= f) ↔ p ∧ q := by
  rw [finishes_bind, ← hx]
  constructor
  · rintro ⟨a, ha, h⟩
    exact ⟨⟨a, ha⟩, (hf a ha).1 h⟩
  · rintro ⟨⟨a, ha⟩, h⟩
    exact ⟨a, ha, (hf a ha).2 h⟩

/-- A second part that never fails. -/
theorem finishes_bind_of_total {x : Except ε α} {f : α → Except ε β} {p : Prop}
    (hx : Finishes x ↔ p) (hf : ∀ a, x = .ok a → Finishes (f a)) :
    Finishes (x >>= f) ↔ p := by
  rw [finishes_bind_iff hx fun a ha => iff_true_intro (hf a ha), and_true]

/-! ### Loops -/

theorem mapM_eq_ok {f : α → Except ε β} {l : List α} {bs : List β} :
    l.mapM f = .ok bs ↔ List.Forall₂ (fun a b => f a = .ok b) l bs := by
  induction l generalizing bs with
  | nil =>
    rw [List.mapM_nil, pure_eq_ok, List.forall₂_nil_left_iff, eq_comm]
  | cons a l ih =>
    rw [List.mapM_cons, bind_eq_ok, List.forall₂_cons_left_iff]
    constructor
    · rintro ⟨b, hb, h⟩
      obtain ⟨bs', hbs', heq⟩ := bind_eq_ok.1 h
      exact ⟨b, bs', hb, ih.1 hbs', (pure_eq_ok.1 heq).symm⟩
    · rintro ⟨b, bs', hb, hbs', rfl⟩
      exact ⟨b, hb, bind_eq_ok.2 ⟨bs', ih.2 hbs', rfl⟩⟩

/-- Every answer of a loop is the answer of one of its rounds. -/
theorem exists_of_mem_mapM {f : α → Except ε β} {l : List α} {bs : List β}
    (h : l.mapM f = .ok bs) {b : β} (hb : b ∈ bs) : ∃ a ∈ l, f a = .ok b := by
  rw [mapM_eq_ok] at h
  induction h with
  | nil => cases hb
  | cons hone _ ih =>
    rcases List.mem_cons.1 hb with rfl | hb
    · exact ⟨_, List.mem_cons_self, hone⟩
    · obtain ⟨a, ha, hab⟩ := ih hb
      exact ⟨a, List.mem_cons_of_mem _ ha, hab⟩

/-- Every round of a loop that answers has its answer. -/
theorem exists_mapM_of_mem {f : α → Except ε β} {l : List α} {bs : List β}
    (h : l.mapM f = .ok bs) {a : α} (ha : a ∈ l) : ∃ b ∈ bs, f a = .ok b := by
  rw [mapM_eq_ok] at h
  induction h with
  | nil => cases ha
  | cons hone _ ih =>
    rcases List.mem_cons.1 ha with rfl | ha
    · exact ⟨_, List.mem_cons_self, hone⟩
    · obtain ⟨b, hb, hab⟩ := ih ha
      exact ⟨b, List.mem_cons_of_mem _ hb, hab⟩

theorem finishes_mapM {f : α → Except ε β} {l : List α} :
    Finishes (l.mapM f) ↔ ∀ a ∈ l, Finishes (f a) := by
  induction l with
  | nil => simp
  | cons a l ih =>
    rw [List.mapM_cons, finishes_bind, List.forall_mem_cons, ← ih]
    constructor
    · rintro ⟨b, hb, h⟩
      obtain ⟨bs, hbs, -⟩ := finishes_bind.1 h
      exact ⟨⟨b, hb⟩, bs, hbs⟩
    · rintro ⟨⟨b, hb⟩, bs, hbs⟩
      exact ⟨b, hb, finishes_bind.2 ⟨bs, hbs, finishes_pure _⟩⟩

/-- What every round of a loop keeps, the loop keeps. -/
theorem foldlM_induction {f : β → α → Except ε β} {p : β → Prop} {l : List α} {b b' : β}
    (h : l.foldlM f b = .ok b') (hb : p b)
    (hstep : ∀ a ∈ l, ∀ c c', f c a = .ok c' → p c → p c') : p b' := by
  induction l generalizing b with
  | nil =>
    cases h
    exact hb
  | cons a l ih =>
    rw [List.foldlM_cons] at h
    obtain ⟨c, hc, hrest⟩ := bind_eq_ok.1 h
    exact ih hrest (hstep a (List.mem_cons_self ..) b c hc hb)
      (fun a' ha' => hstep a' (List.mem_cons_of_mem _ ha'))

theorem foldlM_snoc {f : β → α → Except ε β} {l : List α} {a : α} {b c c' : β}
    (h : l.foldlM f b = .ok c) (ha : f c a = .ok c') : (l ++ [a]).foldlM f b = .ok c' := by
  rw [List.foldlM_append, bind_eq_ok]
  refine ⟨c, h, ?_⟩
  rw [List.foldlM_cons, bind_eq_ok]
  exact ⟨c', ha, rfl⟩

/-- What a loop makes true becomes true in one of its rounds. -/
theorem foldlM_first {f : β → α → Except ε β} {p : β → Prop} {l : List α} {b b' : β}
    (h : l.foldlM f b = .ok b') (hb : ¬p b) (hb' : p b') :
    ∃ pre a post c c', l = pre ++ a :: post ∧ pre.foldlM f b = .ok c ∧ f c a = .ok c' ∧ ¬p c ∧
      p c' := by
  induction l generalizing b with
  | nil =>
    cases h
    exact absurd hb' hb
  | cons a l ih =>
    rw [List.foldlM_cons] at h
    obtain ⟨c, hc, hrest⟩ := bind_eq_ok.1 h
    by_cases hp : p c
    · exact ⟨[], a, l, b, c, rfl, rfl, hc, hb, hp⟩
    · obtain ⟨pre, a', post, d, d', rfl, hpre, hround, hd, hd'⟩ := ih hrest hp
      refine ⟨a :: pre, a', post, d, d', rfl, ?_, hround, hd, hd'⟩
      rw [List.foldlM_cons]
      exact bind_eq_ok.2 ⟨c, hc, hpre⟩

/-- Rounds that finish or fail whatever the state is, as long as it keeps `p`. -/
theorem finishes_foldlM {f : β → α → Except ε β} {p : β → Prop} {q : α → Prop} {l : List α}
    {b : β} (hb : p b) (h : ∀ a ∈ l, ∀ c, p c → (Finishes (f c a) ↔ q a))
    (hkeep : ∀ a ∈ l, ∀ c c', f c a = .ok c' → p c → p c') :
    Finishes (l.foldlM f b) ↔ ∀ a ∈ l, q a := by
  induction l generalizing b with
  | nil => simp
  | cons a l ih =>
    rw [List.foldlM_cons, List.forall_mem_cons]
    apply finishes_bind_iff (h a (List.mem_cons_self ..) b hb)
    intro c hc
    exact ih (hkeep a (List.mem_cons_self ..) b c hc hb)
      (fun a' ha' => h a' (List.mem_cons_of_mem _ ha'))
      (fun a' ha' => hkeep a' (List.mem_cons_of_mem _ ha'))

end Fallible
