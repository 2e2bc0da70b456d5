import Mathlib.Data.List.Infix
import Mathlib.Data.List.TakeDrop

/-!
# Lines

A line ends with two symbols, the second different from the first.

* `split`: the lines that end in a list of symbols, and what stands behind them;
* `split_lines`, `flatMap_split`: lines that are written are found again, and nothing else is;
* `split_append`: it does not matter in which pieces the symbols come;
* `split_begins`: the beginning of a text has the first lines of it.
-/

namespace Lines

section

variable {α : Type*} (cr lf : α)

/-- A line with its end. -/
def encode (l : List α) : List α := l ++ [cr, lf]

/-- The symbols of the end do not follow each other in it. -/
def IsLine (l : List α) : Prop := ¬[cr, lf] <:+: l

instance [DecidableEq α] : DecidablePred (IsLine cr lf) :=
  fun l => inferInstanceAs (Decidable ¬[cr, lf] <:+: l)

/-- A symbol in front of the first line, or of what stands behind the lines. -/
def push (c : α) : List (List α) × List α → List (List α) × List α
  | ([], r) => ([], c :: r)
  | (l :: ls, r) => ((c :: l) :: ls, r)

/-- The lines that end in the list, and the symbols behind them. -/
def split [DecidableEq α] : List α → List (List α) × List α
  | [] => ([], [])
  | [c] => push c ([], [])
  | c :: d :: rest =>
    if c = cr ∧ d = lf then ([] :: (split rest).1, (split rest).2) else push c (split (d :: rest))

variable {cr lf}

/-! ### Lists without an end -/

/-- The first two symbols are not an end. -/
def NoEnd (cr lf c : α) (l : List α) : Prop := ¬(c = cr ∧ l.head? = some lf)

theorem isLine_cons_iff {c : α} {l : List α} :
    IsLine cr lf (c :: l) ↔ NoEnd cr lf c l ∧ IsLine cr lf l := by
  have hbegins : [cr, lf] <+: c :: l ↔ c = cr ∧ l.head? = some lf := by
    rw [List.cons_prefix_cons]
    cases l with
    | nil => simp
    | cons d l => simp [eq_comm]
  rw [IsLine, List.infix_cons_iff, not_or, hbegins]
  exact Iff.rfl

theorem isLine_nil : IsLine cr lf ([] : List α) := fun h => by simp at h

/-- A line is none with the first symbol of an end behind it. -/
theorem IsLine.snoc (hne : cr ≠ lf) {l : List α} (h : IsLine cr lf l) :
    IsLine cr lf (l ++ [cr]) := by
  induction l with
  | nil => exact isLine_cons_iff.2 ⟨by simp [NoEnd], isLine_nil⟩
  | cons c l ih =>
    obtain ⟨hend, htail⟩ := isLine_cons_iff.1 h
    refine isLine_cons_iff.2 ⟨fun ⟨hc, hd⟩ => ?_, ih htail⟩
    cases l with
    | nil => exact hne (Option.some.inj hd)
    | cons d l => exact hend ⟨hc, hd⟩

/-- Neither a line nor its end makes an end with what is in front of it in a line. -/
theorem noEnd_encode (hne : cr ≠ lf) {c : α} {l : List α} (h : IsLine cr lf (c :: l))
    (rest : List α) : NoEnd cr lf c (encode cr lf l ++ rest) := by
  have hsnoc := (isLine_cons_iff.1 (h.snoc hne)).1
  cases l with
  | nil => exact fun hc => hne (Option.some.inj hc.2)
  | cons d l => exact hsnoc

/-! ### The lines of a list -/

theorem flatMap_push (c : α) (p : List (List α) × List α) :
    (push c p).1.flatMap (encode cr lf) ++ (push c p).2 =
      c :: (p.1.flatMap (encode cr lf) ++ p.2) := by
  obtain ⟨_ | ⟨l, ls⟩, r⟩ := p <;> rfl

variable [DecidableEq α]

theorem split_cons {c : α} {l : List α} (h : NoEnd cr lf c l) :
    split cr lf (c :: l) = push c (split cr lf l) := by
  cases l with
  | nil => rfl
  | cons d l =>
    rw [split, if_neg]
    rintro ⟨rfl, rfl⟩
    exact h ⟨rfl, rfl⟩

/-- Without an end there is no line. -/
theorem split_of_isLine {q : List α} (h : IsLine cr lf q) : split cr lf q = ([], q) := by
  induction q with
  | nil => rfl
  | cons c q ih =>
    obtain ⟨hend, htail⟩ := isLine_cons_iff.1 h
    rw [split_cons hend, ih htail]
    rfl

/-- **A line in front** is found. -/
theorem split_line (hne : cr ≠ lf) {l : List α} (h : IsLine cr lf l) (rest : List α) :
    split cr lf (encode cr lf l ++ rest) = (l :: (split cr lf rest).1, (split cr lf rest).2) := by
  induction l with
  | nil =>
    rw [encode, List.nil_append, List.cons_append, List.cons_append, List.nil_append, split,
      if_pos ⟨rfl, rfl⟩]
  | cons c l ih =>
    have hcons : encode cr lf (c :: l) ++ rest = c :: (encode cr lf l ++ rest) := rfl
    rw [hcons, split_cons (noEnd_encode hne h rest), ih (isLine_cons_iff.1 h).2]
    rfl

/-- **Lines that are written** are found again, in front of anything. -/
theorem split_lines (hne : cr ≠ lf) {ls : List (List α)} (h : ∀ l ∈ ls, IsLine cr lf l)
    (rest : List α) : split cr lf (ls.flatMap (encode cr lf) ++ rest) =
      (ls ++ (split cr lf rest).1, (split cr lf rest).2) := by
  induction ls with
  | nil => rfl
  | cons l ls ih =>
    rw [List.flatMap_cons, List.append_assoc, split_line hne (h l List.mem_cons_self),
      ih fun l hl => h l (List.mem_cons_of_mem _ hl)]
    rfl

/-- **Nothing is lost**: the lines and what stands behind them are the list. -/
theorem flatMap_split (q : List α) :
    (split cr lf q).1.flatMap (encode cr lf) ++ (split cr lf q).2 = q := by
  induction q using split.induct cr lf with
  | case1 => rfl
  | case2 c => rfl
  | case3 c d rest hend ih =>
    obtain ⟨rfl, rfl⟩ := hend
    rw [split, if_pos ⟨rfl, rfl⟩, List.flatMap_cons, List.append_assoc, ih]
    rfl
  | case4 c d rest hend ih => rw [split, if_neg hend, flatMap_push, ih]

/-- The lines have no end in them, nor has what stands behind them. -/
theorem isLine_split (q : List α) :
    (∀ l ∈ (split cr lf q).1, IsLine cr lf l) ∧ IsLine cr lf (split cr lf q).2 := by
  induction q using split.induct cr lf with
  | case1 => exact ⟨fun l hl => (List.not_mem_nil hl).elim, isLine_nil⟩
  | case2 c => exact ⟨fun l hl => (List.not_mem_nil hl).elim,
      isLine_cons_iff.2 ⟨by simp [NoEnd], isLine_nil⟩⟩
  | case3 c d rest hend ih =>
    rw [split, if_pos hend]
    refine ⟨fun l hl => ?_, ih.2⟩
    rcases List.mem_cons.1 hl with rfl | hl
    · exact isLine_nil
    · exact ih.1 l hl
  | case4 c d rest hend ih =>
    rw [split, if_neg hend]
    have hall : (split cr lf (d :: rest)).1.flatMap (encode cr lf) ++
        (split cr lf (d :: rest)).2 = d :: rest := flatMap_split _
    generalize split cr lf (d :: rest) = p at ih hall
    obtain ⟨_ | ⟨l, ls⟩, r⟩ := p
    · refine ⟨fun l hl => (List.not_mem_nil hl).elim, isLine_cons_iff.2 ⟨?_, ih.2⟩⟩
      obtain rfl : r = d :: rest := hall
      rintro ⟨rfl, hd⟩
      exact hend ⟨rfl, Option.some.inj hd⟩
    · refine ⟨fun l' hl => ?_, ih.2⟩
      rcases List.mem_cons.1 hl with rfl | hl
      · refine isLine_cons_iff.2 ⟨?_, ih.1 l List.mem_cons_self⟩
        rintro ⟨rfl, hd⟩
        cases l with
        | nil => cases hd
        | cons d' l =>
          obtain rfl : d' = d := (List.cons.inj hall).1
          exact hend ⟨rfl, Option.some.inj hd⟩
      · exact ih.1 l' (List.mem_cons_of_mem _ hl)

/-- No line ends in the list. -/
theorem split_of_nil {q : List α} (h : (split cr lf q).1 = []) :
    (split cr lf q).2 = q ∧ IsLine cr lf q := by
  have hall : (split cr lf q).1.flatMap (encode cr lf) ++ (split cr lf q).2 = q := flatMap_split q
  rw [h, List.flatMap_nil, List.nil_append] at hall
  have hline : IsLine cr lf (split cr lf q).2 := (isLine_split q).2
  rw [hall] at hline
  exact ⟨hall, hline⟩

/-- A line is in front, and the others are those of the rest. -/
theorem split_of_cons (hne : cr ≠ lf) {q l : List α} {ls : List (List α)}
    (h : (split cr lf q).1 = l :: ls) :
    ∃ q', q = encode cr lf l ++ q' ∧ IsLine cr lf l ∧
      split cr lf q' = (ls, (split cr lf q).2) := by
  have hall : (split cr lf q).1.flatMap (encode cr lf) ++ (split cr lf q).2 = q := flatMap_split q
  have hlines : ∀ l ∈ (split cr lf q).1, IsLine cr lf l := (isLine_split q).1
  have hrest : IsLine cr lf (split cr lf q).2 := (isLine_split q).2
  rw [h] at hall hlines
  rw [List.flatMap_cons, List.append_assoc] at hall
  refine ⟨_, hall.symm, hlines l List.mem_cons_self, ?_⟩
  rw [split_lines hne (fun l' hl' => hlines l' (List.mem_cons_of_mem _ hl')),
    split_of_isLine hrest, List.append_nil]

/-- **Pieces**: what stands behind the lines of the first piece goes in front of the second. -/
theorem split_append (hne : cr ≠ lf) (q piece : List α) :
    split cr lf (q ++ piece) =
      ((split cr lf q).1 ++ (split cr lf ((split cr lf q).2 ++ piece)).1,
        (split cr lf ((split cr lf q).2 ++ piece)).2) := by
  have hq : (split cr lf q).1.flatMap (encode cr lf) ++ (split cr lf q).2 = q := flatMap_split q
  conv_lhs => rw [← hq, List.append_assoc]
  exact split_lines hne (isLine_split q).1 _

/-- The beginning of a text has the first lines of it. -/
theorem split_begins (hne : cr ≠ lf) {ls : List (List α)} (h : ∀ l ∈ ls, IsLine cr lf l)
    {q : List α} (hq : q <+: ls.flatMap (encode cr lf)) : (split cr lf q).1 <+: ls := by
  obtain ⟨rest, hrest⟩ := hq
  have hall := split_lines hne h []
  rw [List.append_nil, ← hrest, split_append hne] at hall
  exact ⟨_, ((Prod.mk.inj hall).1.trans (List.append_nil ls))⟩

end

end Lines
