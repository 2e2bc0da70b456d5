import Mathlib.Data.List.Induction
import Mathlib.Data.List.Sort

/-!
# Keeping the newest

A sorted list of at most `n` items.  An item that comes to a full list drives out the first one,
whether or not it is itself newer than that; an item that is the same as one of the list changes
nothing.

* `distinct`, the items of a history without those that were the same as an earlier one;
* `receive` and `kept`; `Kept`, what holds of the list after every history;
* `IsNewest`: the list has the newest of the distinct items;
* `isNewest_iff`: it has them all along if and only if every item comes in time.
-/

namespace Newest

variable {α κ : Type*} [LinearOrder κ]
variable (same : α → α → Prop) [DecidableRel same] (key : α → κ) (n : ℕ)

/-- The distinct items once `x` has come as well. -/
def addNew (seen : List α) (x : α) : List α :=
  if ∃ y ∈ seen, same y x then seen else seen ++ [x]

def distinct (xs : List α) : List α := xs.foldl (addNew same) []

/-- The list of at most `n` once `x` has come. -/
def receive (s : List α) (x : α) : List α :=
  if ∃ y ∈ s, same y x then s
  else ((if n ≤ s.length then s.tail else s) ++ [x]).insertionSort (key · ≤ key ·)

def kept (xs : List α) : List α := xs.foldl (receive same key n) []

/-- The invariant of the list. -/
structure Kept (s : List α) : Prop where
  apart : s.Pairwise fun a b => ¬same a b
  sorted : s.Pairwise fun a b => key a < key b
  length_le : s.length ≤ n

/-- `s` has the `n` newest items of `seen`, or all of them where they are fewer. -/
structure IsNewest (seen s : List α) : Prop where
  subset : s ⊆ seen
  length_eq : s.length = min n seen.length
  older : ∀ y ∈ seen, y ∉ s → ∀ x ∈ s, key y < key x

/-- The next item `x` comes in time: it is the same as one of the list, or finds room in it, or is
new and newer than the oldest of the list. -/
def InTime (seen s : List α) (x : α) : Prop :=
  (∃ y ∈ s, same y x) ∨ s.length < n ∨
    (∀ y ∈ seen, ¬same y x) ∧ ∀ y, s.head? = some y → key y < key x

variable {same key n}

@[simp] theorem distinct_nil : distinct same [] = [] := rfl

@[simp] theorem kept_nil : kept same key n [] = [] := rfl

@[simp] theorem distinct_append (xs : List α) (x : α) :
    distinct same (xs ++ [x]) = addNew same (distinct same xs) x := by
  simp [distinct]

@[simp] theorem kept_append (xs : List α) (x : α) :
    kept same key n (xs ++ [x]) = receive same key n (kept same key n xs) x := by
  simp [kept]

theorem mem_addNew {seen : List α} {x y : α} (h : y ∈ addNew same seen x) :
    y ∈ seen ∨ y = x := by
  unfold addNew at h
  split at h
  · exact .inl h
  · simpa using h

theorem receive_of_same {s : List α} {x : α} (h : ∃ y ∈ s, same y x) :
    receive same key n s x = s := if_pos h

/-- What is in the list afterwards. -/
theorem mem_receive {s : List α} {x y : α} (h : ¬∃ y ∈ s, same y x) :
    y ∈ receive same key n s x ↔ y ∈ (if n ≤ s.length then s.tail else s) ∨ y = x := by
  rw [receive, if_neg h, List.mem_insertionSort, List.mem_append, List.mem_singleton]

theorem kept_subset (xs : List α) : kept same key n xs ⊆ xs := by
  induction xs using List.reverseRecOn with
  | nil => simp
  | append_singleton xs x ih =>
    intro y hy
    rw [kept_append] at hy
    by_cases hsame : ∃ z ∈ kept same key n xs, same z x
    · rw [receive_of_same hsame] at hy
      exact List.mem_append_left _ (ih hy)
    · rcases (mem_receive hsame).1 hy with h | rfl
      · refine List.mem_append_left _ (ih ?_)
        split at h
        · exact List.mem_of_mem_tail h
        · exact h
      · simp

/-! ### The invariant -/

section Invariant

variable {s : List α} {x : α}

omit [DecidableRel same] in
theorem Kept.nil : Kept same key n [] := ⟨.nil, .nil, Nat.zero_le n⟩

theorem length_receive (key : α → κ) (hn : 1 ≤ n) (h : Kept same key n s)
    (hnew : ¬∃ y ∈ s, same y x) :
    (receive same key n s x).length = min n (s.length + 1) := by
  have hle := h.length_le
  rw [receive, if_neg hnew, List.length_insertionSort, List.length_append, List.length_singleton]
  split
  · rw [List.length_tail]
    omega
  · omega

/-- **One step** keeps the invariant; items that are not the same are told apart by their keys. -/
theorem Kept.receive (hsymm : ∀ a b, same a b → same b a)
    (hkey : ∀ y ∈ s, key y = key x → same y x) (hn : 1 ≤ n) (h : Kept same key n s) :
    Kept same key n (receive same key n s x) := by
  by_cases hsame : ∃ y ∈ s, same y x
  · rwa [receive_of_same hsame]
  · have hrest : (if n ≤ s.length then s.tail else s).Sublist s := by
      split
      · exact List.tail_sublist s
      · exact List.Sublist.refl s
    have hperm : (Newest.receive same key n s x).Perm
        ((if n ≤ s.length then s.tail else s) ++ [x]) := by
      rw [Newest.receive, if_neg hsame]
      exact List.perm_insertionSort _ _
    have hother : ∀ y ∈ (if n ≤ s.length then s.tail else s), ¬same y x :=
      fun y hy hyx => hsame ⟨y, hrest.subset hy, hyx⟩
    have hne : ∀ y ∈ (if n ≤ s.length then s.tail else s), key y ≠ key x :=
      fun y hy heq => hother y hy (hkey y (hrest.subset hy) heq)
    refine ⟨?_, ?_, ?_⟩
    · refine (hperm.pairwise_iff fun hab hba => hab (hsymm _ _ hba)).2 ?_
      rw [List.pairwise_append]
      refine ⟨h.apart.sublist hrest, by simp, fun y hy z hz => ?_⟩
      rw [List.mem_singleton.1 hz]
      exact hother y hy
    · have hle : (Newest.receive same key n s x).Pairwise (key · ≤ key ·) := by
        rw [Newest.receive, if_neg hsame]
        exact List.pairwise_insertionSort _ _
      have hdiffer : (Newest.receive same key n s x).Pairwise (key · ≠ key ·) := by
        refine (hperm.pairwise_iff fun hab => hab.symm).2 ?_
        rw [List.pairwise_append]
        refine ⟨(h.sorted.sublist hrest).imp fun hlt => hlt.ne, by simp, fun y hy z hz => ?_⟩
        rw [List.mem_singleton.1 hz]
        exact hne y hy
      exact (hle.and hdiffer).imp fun hab => lt_of_le_of_ne hab.1 hab.2
    · rw [length_receive key hn h hsame]
      exact min_le_left _ _

/-- **Every history** does. -/
theorem kept_spec (hsymm : ∀ a b, same a b → same b a) (hn : 1 ≤ n) (xs : List α)
    (hkey : ∀ y ∈ xs, ∀ x ∈ xs, key y = key x → same y x) :
    Kept same key n (kept same key n xs) := by
  induction xs using List.reverseRecOn with
  | nil => exact .nil
  | append_singleton xs x ih =>
    rw [kept_append]
    refine Kept.receive hsymm (fun y hy => ?_) hn (ih fun y hy z hz => ?_)
    · exact hkey y (List.mem_append_left _ (kept_subset xs hy)) x (by simp)
    · exact hkey y (List.mem_append_left _ hy) z (List.mem_append_left _ hz)

end Invariant

/-! ### The newest -/

section InTime

variable {seen s : List α} {x : α}

omit [DecidableRel same] in
theorem Kept.nodup (h : Kept same key n s) : s.Nodup :=
  h.sorted.imp fun hlt heq => (heq ▸ hlt).false

/-- A list with room has all of the distinct items. -/
theorem IsNewest.subset_of_lt (h : IsNewest key n seen s) (hs : s.Nodup)
    (hroom : s.length < n) : seen ⊆ s := by
  have hlength := h.length_eq
  have hperm : s.Perm seen := (List.subperm_of_subset hs h.subset).perm_of_length_le (by omega)
  exact hperm.symm.subset

/-- **One step**: the list has the newest items afterwards if and only if the item came in time. -/
theorem isNewest_receive_iff (hrefl : ∀ a, same a a) (hn : 1 ≤ n)
    (hkept : Kept same key n s) (h : IsNewest key n seen s) :
    IsNewest key n (addNew same seen x) (receive same key n s x) ↔ InTime same key n seen s x := by
  by_cases hsame : ∃ y ∈ s, same y x
  · obtain ⟨y, hy, hyx⟩ := hsame
    rw [receive_of_same ⟨y, hy, hyx⟩, addNew, if_pos ⟨y, h.subset hy, hyx⟩]
    exact iff_of_true h (.inl ⟨y, hy, hyx⟩)
  have hlength := length_receive key hn hkept hsame
  by_cases hroom : s.length < n
  · -- nothing has been driven out yet
    have hall := h.subset_of_lt hkept.nodup hroom
    have hnew : ¬∃ y ∈ seen, same y x := fun ⟨y, hy, hyx⟩ => hsame ⟨y, hall hy, hyx⟩
    refine iff_of_true ⟨?_, ?_, ?_⟩ (.inr (.inl hroom))
    · intro y hy
      rw [mem_receive hsame, if_neg (by omega)] at hy
      rw [addNew, if_neg hnew, List.mem_append, List.mem_singleton]
      exact hy.imp_left fun hy => h.subset hy
    · rw [hlength, addNew, if_neg hnew, List.length_append, List.length_singleton]
      have := h.length_eq
      omega
    · intro y hy hout
      rw [mem_receive hsame, if_neg (by omega), not_or] at hout
      rcases mem_addNew hy with hseen | rfl
      · exact absurd (hall hseen) hout.1
      · exact absurd rfl hout.2
  have hfull : n ≤ s.length := not_lt.1 hroom
  obtain ⟨oldest, rest, rfl⟩ : ∃ oldest rest, s = oldest :: rest := by
    cases s with
    | nil => simp at hfull; omega
    | cons oldest rest => exact ⟨oldest, rest, rfl⟩
  have hmem : ∀ y, y ∈ receive same key n (oldest :: rest) x ↔ y ∈ rest ∨ y = x := by
    intro y
    rw [mem_receive hsame, if_pos hfull, List.tail_cons]
  have hdriven : oldest ∉ receive same key n (oldest :: rest) x := by
    rw [hmem, not_or]
    refine ⟨(List.nodup_cons.1 hkept.nodup).1, ?_⟩
    rintro rfl
    exact hsame ⟨oldest, List.mem_cons_self, hrefl oldest⟩
  have holdest : oldest ∈ addNew same seen x := by
    have hseen := h.subset (List.mem_cons_self (a := oldest) (l := rest))
    unfold addNew
    split
    · exact hseen
    · exact List.mem_append_left _ hseen
  have hx : x ∈ receive same key n (oldest :: rest) x := (hmem x).2 (.inr rfl)
  constructor
  · intro hafter
    refine .inr (.inr ⟨?_, ?_⟩)
    · intro y hy hyx
      have hunchanged : addNew same seen x = seen := if_pos ⟨y, hy, hyx⟩
      rw [hunchanged] at hafter
      -- the item itself is one that had been driven out, older than the oldest of the list
      have hout : x ∉ oldest :: rest := fun hin => hsame ⟨x, hin, hrefl x⟩
      have hlt := h.older x (hafter.subset hx) hout oldest List.mem_cons_self
      exact (hlt.trans (hafter.older oldest (hunchanged ▸ holdest) hdriven x hx)).false
    · intro y hy
      obtain rfl : oldest = y := by simpa using hy
      exact hafter.older oldest holdest hdriven x hx
  · rintro (hin | hlt | ⟨hnew, hnewer⟩)
    · exact absurd hin hsame
    · exact absurd hlt hroom
    · have hnone : ¬∃ y ∈ seen, same y x := fun ⟨y, hy, hyx⟩ => hnew y hy hyx
      have hlt := hnewer oldest rfl
      refine ⟨?_, ?_, ?_⟩
      · intro y hy
        rw [addNew, if_neg hnone, List.mem_append, List.mem_singleton]
        exact ((hmem y).1 hy).imp_left fun hin => h.subset (List.mem_cons_of_mem _ hin)
      · rw [hlength, addNew, if_neg hnone, List.length_append, List.length_singleton]
        have := h.length_eq
        omega
      · intro y hy hout z hz
        rw [hmem, not_or] at hout
        have hseen : y ∈ seen := (mem_addNew hy).resolve_right hout.2
        by_cases hyold : y = oldest
        · rw [hyold]
          rcases (hmem z).1 hz with hrest | rfl
          · exact List.rel_of_pairwise_cons hkept.sorted hrest
          · exact hlt
        · have hbefore := h.older y hseen (by simp [hyold, hout.1])
          rcases (hmem z).1 hz with hrest | rfl
          · exact hbefore z (List.mem_cons_of_mem _ hrest)
          · exact (hbefore oldest List.mem_cons_self).trans hlt

end InTime

/-- **Every history**: the list has the newest items all along if and only if every item came in
time. -/
theorem isNewest_iff (hrefl : ∀ a, same a a) (hsymm : ∀ a b, same a b → same b a) (hn : 1 ≤ n)
    (xs : List α) (hkey : ∀ y ∈ xs, ∀ x ∈ xs, key y = key x → same y x) :
    (∀ before, before <+: xs → IsNewest key n (distinct same before) (kept same key n before)) ↔
      ∀ before x, before ++ [x] <+: xs →
        InTime same key n (distinct same before) (kept same key n before) x := by
  have hstep : ∀ before x, before ++ [x] <+: xs →
      IsNewest key n (distinct same before) (kept same key n before) →
      (IsNewest key n (distinct same (before ++ [x])) (kept same key n (before ++ [x])) ↔
        InTime same key n (distinct same before) (kept same key n before) x) := by
    intro before x hprefix hnew
    rw [distinct_append, kept_append]
    have hbefore : ∀ y ∈ before, y ∈ xs := fun y hy => hprefix.subset (by simp [hy])
    have hkept := kept_spec (n := n) hsymm hn before fun y hy z hz =>
      hkey y (hbefore y hy) z (hbefore z hz)
    exact isNewest_receive_iff hrefl hn hkept hnew
  constructor
  · intro h before x hprefix
    exact (hstep before x hprefix (h before ((List.prefix_append _ _).trans hprefix))).1
      (h _ hprefix)
  · intro h before
    induction before using List.reverseRecOn with
    | nil => exact fun _ => ⟨by simp, by simp, by simp⟩
    | append_singleton before x ih =>
      intro hprefix
      have hprev := ih ((List.prefix_append _ _).trans hprefix)
      exact (hstep before x hprefix hprev).2 (h before x hprefix)

end Newest
