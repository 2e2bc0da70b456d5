import Mathlib.Data.List.Basic

/-!
# Messages in a stream that arrives in pieces

Messages stand one behind the other in a stream, each as the symbols of its encoding.

* `complete msgs n`: the messages that are complete when `n` symbols have arrived;
* `started k msgs n`: those that a reader takes who wants `k` symbols before it reads;
* `complete_add`: the messages that are complete later are those that were, and the complete ones
  of the rest;
* `Timely`, `started_eq_complete_iff`: when such a reader misses no complete message.
-/

namespace Framing

variable {β μ : Type*} (encode : μ → List β)

/-- How many symbols the messages have. -/
def size (msgs : List μ) : ℕ := (msgs.flatMap encode).length

@[simp] theorem size_nil : size encode [] = 0 := rfl

@[simp] theorem size_cons (m : μ) (msgs : List μ) :
    size encode (m :: msgs) = (encode m).length + size encode msgs := by
  simp [size]

@[simp] theorem size_append (msgs msgs' : List μ) :
    size encode (msgs ++ msgs') = size encode msgs + size encode msgs' := by
  simp [size]

/-- The messages that are complete when `n` symbols have arrived. -/
def complete : List μ → ℕ → List μ
  | [], _ => []
  | m :: msgs, n =>
    if (encode m).length ≤ n then m :: complete msgs (n - (encode m).length) else []

/-- The messages that are taken when only what begins at least `k` symbols before the end is
looked at. -/
def started (k : ℕ) : List μ → ℕ → List μ
  | [], _ => []
  | m :: msgs, n =>
    if k ≤ n ∧ (encode m).length ≤ n then m :: started k msgs (n - (encode m).length) else []

/-- How many symbols stand behind the complete messages. -/
def waiting (msgs : List μ) (n : ℕ) : ℕ := n - size encode (complete encode msgs n)

/-- Every message that is completed by the next `l` symbols begins at least `k` before their end. -/
def Timely (k : ℕ) (msgs : List μ) (n l : ℕ) : Prop :=
  ∀ front m back, msgs = front ++ m :: back → n < size encode (front ++ [m]) →
    size encode (front ++ [m]) ≤ n + l → size encode front + k ≤ n + l

variable {encode}

theorem size_complete_le (msgs : List μ) (n : ℕ) : size encode (complete encode msgs n) ≤ n := by
  induction msgs generalizing n with
  | nil => exact Nat.zero_le n
  | cons m msgs ih =>
    rw [complete]
    split
    · have hle := ih (n - (encode m).length)
      rw [size_cons]
      omega
    · exact Nat.zero_le n

/-- The complete messages are the first ones. -/
theorem complete_append_drop (msgs : List μ) (n : ℕ) :
    complete encode msgs n ++ msgs.drop (complete encode msgs n).length = msgs := by
  induction msgs generalizing n with
  | nil => rfl
  | cons m msgs ih =>
    rw [complete]
    split
    · rw [List.length_cons, List.drop_succ_cons, List.cons_append, ih]
    · rfl

theorem complete_of_size_le {msgs : List μ} {n : ℕ} (h : size encode msgs ≤ n) :
    complete encode msgs n = msgs := by
  induction msgs generalizing n with
  | nil => rfl
  | cons m msgs ih =>
    rw [size_cons] at h
    rw [complete, if_pos (by omega), ih (by omega)]

/-- Behind the complete messages stands none that is. -/
theorem complete_rest (msgs : List μ) (n : ℕ) :
    complete encode (msgs.drop (complete encode msgs n).length)
      (n - size encode (complete encode msgs n)) = [] := by
  induction msgs generalizing n with
  | nil => rfl
  | cons m msgs ih =>
    by_cases hm : (encode m).length ≤ n
    · rw [complete, if_pos hm, List.length_cons, List.drop_succ_cons, size_cons, ← Nat.sub_sub]
      exact ih _
    · rw [complete, if_neg hm, List.length_nil, List.drop_zero, size_nil, Nat.sub_zero, complete,
        if_neg hm]

/-- What is complete later is what was, and the complete messages of the rest. -/
theorem complete_add (msgs : List μ) (n k : ℕ) :
    complete encode msgs (n + k) = complete encode msgs n ++
      complete encode (msgs.drop (complete encode msgs n).length)
        (n - size encode (complete encode msgs n) + k) := by
  induction msgs generalizing n with
  | nil => rfl
  | cons m msgs ih =>
    by_cases hm : (encode m).length ≤ n
    · have hlater : complete encode (m :: msgs) (n + k) =
          m :: complete encode msgs (n - (encode m).length + k) := by
        rw [complete, if_pos (by omega), Nat.sub_add_comm hm]
      have hnow : complete encode (m :: msgs) n =
          m :: complete encode msgs (n - (encode m).length) := by
        rw [complete, if_pos hm]
      rw [hlater, hnow, ih, List.length_cons, List.drop_succ_cons, size_cons, List.cons_append,
        Nat.sub_sub]
    · have hnow : complete encode (m :: msgs) n = [] := by rw [complete, if_neg hm]
      rw [hnow, List.length_nil, List.drop_zero, size_nil, List.nil_append, Nat.sub_zero]

theorem started_eq_complete_iff_forall {k : ℕ} {msgs : List μ} {n : ℕ} :
    started encode k msgs n = complete encode msgs n ↔
      ∀ front m back, msgs = front ++ m :: back → size encode (front ++ [m]) ≤ n →
        size encode front + k ≤ n := by
  induction msgs generalizing n with
  | nil =>
    refine ⟨fun _ front m back h => ?_, fun _ => rfl⟩
    exact absurd h (by simp)
  | cons m msgs ih =>
    rw [started, complete]
    by_cases hm : (encode m).length ≤ n
    · by_cases hk : k ≤ n
      · rw [if_pos ⟨hk, hm⟩, if_pos hm, List.cons.injEq, eq_self, true_and, ih]
        constructor
        · intro h front m' back heq hsize
          cases front with
          | nil => simpa using hk
          | cons m'' front =>
            obtain ⟨rfl, rfl⟩ := List.cons.inj heq
            rw [List.cons_append, size_cons] at hsize
            have hfront := h front m' back rfl (by omega)
            rw [size_cons]
            omega
        · intro h front m' back heq hsize
          have hfront := h (m :: front) m' back (by rw [heq, List.cons_append])
            (by rw [List.cons_append, size_cons]; omega)
          rw [size_cons] at hfront
          omega
      · rw [if_neg (fun h => hk h.1), if_pos hm]
        refine ⟨fun h => (List.cons_ne_nil _ _ h.symm).elim, fun h => ?_⟩
        have hnil := h [] m msgs rfl (by simpa using hm)
        rw [size_nil] at hnil
        omega
    · rw [if_neg (fun h => hm h.2), if_neg hm]
      refine ⟨fun _ front m' back heq hsize => ?_, fun _ => rfl⟩
      cases front with
      | nil =>
        obtain ⟨rfl, rfl⟩ := List.cons.inj heq
        simp only [List.nil_append, size_cons, size_nil] at hsize
        omega
      | cons m'' front =>
        obtain ⟨rfl, rfl⟩ := List.cons.inj heq
        rw [List.cons_append, size_cons] at hsize
        omega

/-- Nothing complete is missed if and only if what the last symbols complete begins early enough. -/
theorem started_eq_complete_iff {k n l : ℕ} {msgs : List μ} (hwait : complete encode msgs n = []) :
    started encode k msgs (n + l) = complete encode msgs (n + l) ↔ Timely encode k msgs n l := by
  rw [started_eq_complete_iff_forall]
  refine ⟨fun h front m back heq _ hsize => h front m back heq hsize,
    fun h front m back heq hsize => h front m back heq ?_ hsize⟩
  cases msgs with
  | nil => exact absurd heq (by simp)
  | cons m₀ msgs =>
    have hfirst : n < (encode m₀).length := by
      rw [complete] at hwait
      split at hwait
      case isTrue => cases hwait
      case isFalse hlt => exact Nat.lt_of_not_le hlt
    cases front with
    | nil =>
      obtain ⟨rfl, rfl⟩ := List.cons.inj heq
      simpa using hfirst
    | cons m₁ front =>
      obtain ⟨rfl, rfl⟩ := List.cons.inj heq
      rw [List.cons_append, size_cons]
      omega

/-- The messages that are complete do not matter for those that come. -/
theorem timely_drop (k : ℕ) (msgs : List μ) (n₀ n l : ℕ) :
    Timely encode k (msgs.drop (complete encode msgs n₀).length) n l ↔
      Timely encode k msgs (size encode (complete encode msgs n₀) + n) l := by
  have happend : complete encode msgs n₀ ++ msgs.drop (complete encode msgs n₀).length = msgs :=
    complete_append_drop msgs n₀
  generalize complete encode msgs n₀ = done at happend ⊢
  generalize msgs.drop done.length = rest at happend ⊢
  subst happend
  constructor
  · intro h front m back heq hlow hhigh
    rcases List.append_eq_append_iff.1 heq with ⟨rest', rfl, heq'⟩ | ⟨done', rfl, heq'⟩
    · rw [List.append_assoc, size_append] at hlow hhigh
      have hrest := h rest' m back heq' (by omega) (by omega)
      rw [size_append]
      omega
    · cases done' with
      | nil =>
        rw [List.append_nil, size_append] at hlow hhigh
        have hrest := h [] m back heq'.symm (by rw [List.nil_append]; omega)
          (by rw [List.nil_append]; omega)
        rw [size_nil] at hrest
        rw [List.append_nil]
        omega
      | cons m' done' =>
        obtain ⟨rfl, -⟩ := List.cons.inj heq'
        simp only [size_append, size_cons, size_nil] at hlow
        omega
  · intro h front m back heq hlow hhigh
    have hall := h (done ++ front) m back (by rw [heq, List.append_assoc])
      (by rw [List.append_assoc, size_append]; omega)
      (by rw [List.append_assoc, size_append]; omega)
    rw [size_append] at hall
    omega

theorem waiting_add (msgs : List μ) (n k : ℕ) :
    waiting encode msgs (n + k) = waiting encode (msgs.drop (complete encode msgs n).length)
      (waiting encode msgs n + k) := by
  have hle : size encode (complete encode msgs n) ≤ n := size_complete_le msgs n
  rw [waiting, complete_add, size_append, waiting, waiting]
  omega

end Framing
