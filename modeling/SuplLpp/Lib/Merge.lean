import Mathlib.Data.List.MinMax
import Mathlib.Data.Multiset.Basic

/-!
# Merging sequences

* `PriorityQueue`: a collection that gives back an element of the least key, whichever it is where
  there are several; `scanned` is one that looks through a list;
* `Merges`: sequences are merged by always taking a head of the least key, up to a stop;
* `Merges.pairwise`, `Merges.filter_map`: the merge of ordered sequences is ordered, and has of
  each sequence what comes before the stop, in its order.
-/

namespace Merge

/-- A collection with the operations of a priority queue. -/
structure PriorityQueue {α κ : Type*} [LinearOrder κ] (key : α → κ) where
  Q : Type
  empty : Q
  push : Q → α → Q
  top : Q → Option α
  pop : Q → Q
  contents : Q → Multiset α
  contents_empty : contents empty = 0
  contents_push : ∀ q a, contents (push q a) = a ::ₘ contents q
  top_eq_none_iff : ∀ {q}, top q = none ↔ contents q = 0
  top_le : ∀ {q a b}, top q = some a → b ∈ contents q → key a ≤ key b
  contents_pop : ∀ {q a}, top q = some a → contents q = a ::ₘ contents (pop q)

/-- A list that is looked through for an element of the least key. -/
def scanned {α : Type} {κ : Type*} [DecidableEq α] [LinearOrder κ] (key : α → κ) :
    PriorityQueue key where
  Q := List α
  empty := []
  push q a := a :: q
  top q := q.argmin key
  pop q := (q.argmin key).elim q q.erase
  contents q := q
  contents_empty := rfl
  contents_push _ _ := rfl
  top_eq_none_iff := List.argmin_eq_none.trans (Multiset.coe_eq_zero _).symm
  top_le h hb := List.le_of_mem_argmin hb h
  contents_pop h := by
    rw [h]
    exact Multiset.coe_eq_coe.2 (List.perm_cons_erase (List.argmin_mem h))

section Merges

variable {ι ρ κ : Type*} [LinearOrder κ]

/-- The head of an ordered sequence has its least key. -/
theorem key_head_le {key : ι → ρ → κ} {c : κ} {l : List ρ} {i : ι}
    (hl : l.Pairwise (key i · ≤ key i ·)) (hc : ∀ r, l.head? = some r → c ≤ key i r) :
    ∀ r ∈ l, c ≤ key i r := by
  cases l with
  | nil => exact fun _ h => absurd h List.not_mem_nil
  | cons r₀ l =>
    have hfirst := hc r₀ rfl
    intro r hr
    rcases List.mem_cons.1 hr with rfl | hr
    · exact hfirst
    · exact hfirst.trans (List.rel_of_pairwise_cons hl hr)

variable [DecidableEq ι]

/-- The sequences that are left, merged: the head that is taken has the least key of all heads, and
when nothing is taken any more every head is past the stop. -/
inductive Merges (key : ι → ρ → κ) (past : κ → Prop) : (ι → List ρ) → List (ι × ρ) → Prop
  | stop {rest : ι → List ρ} (h : ∀ i r, (rest i).head? = some r → past (key i r)) :
    Merges key past rest []
  | next {rest : ι → List ρ} {i : ι} {r : ρ} {tail : List ρ} {out : List (ι × ρ)}
    (hrest : rest i = r :: tail) (hpast : ¬past (key i r))
    (hleast : ∀ j r', (rest j).head? = some r' → key i r ≤ key j r')
    (hout : Merges key past (Function.update rest i tail) out) :
    Merges key past rest ((i, r) :: out)

variable {key : ι → ρ → κ} {past : κ → Prop} {rest : ι → List ρ} {out : List (ι × ρ)}

namespace Merges

/-- What is merged is of the sequences. -/
theorem mem (h : Merges key past rest out) {a : ι × ρ} (ha : a ∈ out) : a.2 ∈ rest a.1 := by
  induction h with
  | stop => cases ha
  | @next rest i r tail out hrest _ _ _ ih =>
    rcases List.mem_cons.1 ha with rfl | ha
    · rw [hrest]
      exact List.mem_cons_self
    · have hmem := ih ha
      by_cases hi : a.1 = i
      · rw [hi, Function.update_self] at hmem
        rw [hi, hrest]
        exact List.mem_cons_of_mem _ hmem
      · rwa [Function.update_of_ne hi] at hmem

theorem pairwise_update {i : ι} {r : ρ} {tail : List ρ}
    (hl : ∀ j, (rest j).Pairwise (key j · ≤ key j ·)) (hrest : rest i = r :: tail) (j : ι) :
    (Function.update rest i tail j).Pairwise (key j · ≤ key j ·) := by
  by_cases hj : j = i
  · subst hj
    have hfull := hl j
    rw [hrest] at hfull
    rw [Function.update_self]
    exact hfull.of_cons
  · rw [Function.update_of_ne hj]
    exact hl j

/-- **The merge of ordered sequences is ordered.** -/
theorem pairwise (h : Merges key past rest out) (hl : ∀ i, (rest i).Pairwise (key i · ≤ key i ·)) :
    out.Pairwise fun a b => key a.1 a.2 ≤ key b.1 b.2 := by
  induction h with
  | stop => exact List.Pairwise.nil
  | @next rest i r tail out hrest _ hleast hout ih =>
    refine List.Pairwise.cons (fun a ha => ?_) (ih (pairwise_update hl hrest))
    have hmem : a ∈ (i, r) :: out := List.mem_cons_of_mem _ ha
    exact key_head_le (hl a.1) (fun r' => hleast a.1 r')
      a.2 ((Merges.next hrest ‹_› hleast hout).mem hmem)

/-- **Of each sequence the merge has what is before the stop**, in its order. -/
theorem filter_map [DecidablePred past] (h : Merges key past rest out)
    (hl : ∀ i, (rest i).Pairwise (key i · ≤ key i ·))
    (hup : ∀ {a b}, a ≤ b → past a → past b) (i : ι) :
    (out.filter (·.1 = i)).map Prod.snd = (rest i).filter fun r => ¬past (key i r) := by
  induction h with
  | @stop rest hpast =>
    symm
    rw [List.filter_nil, List.map_nil, List.filter_eq_nil_iff]
    intro r hr
    have hhead : ∀ r', (rest i).head? = some r' → past (key i r') := hpast i
    cases hrest : rest i with
    | nil => rw [hrest] at hr; cases hr
    | cons r₀ l =>
      have hle : ∀ r ∈ rest i, key i r₀ ≤ key i r := key_head_le (hl i) (fun r' hr' => by
        rw [hrest] at hr'
        rw [Option.some.inj hr'])
      simpa using hup (hle r hr) (hhead r₀ (by rw [hrest]; rfl))
  | @next rest j r tail out hrest hpast _ _ ih =>
    have hrec := ih (pairwise_update hl hrest)
    by_cases hi : j = i
    · subst hi
      rw [Function.update_self] at hrec
      rw [List.filter_cons_of_pos (by simp), List.map_cons, hrec, hrest,
        List.filter_cons_of_pos (by simpa using hpast)]
    · rw [Function.update_of_ne (Ne.symm hi)] at hrec
      rw [List.filter_cons_of_neg (by simpa using hi), hrec]

end Merges

end Merges

end Merge
