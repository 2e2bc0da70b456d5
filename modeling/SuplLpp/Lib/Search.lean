import Mathlib.Data.List.Infix
import Mathlib.Data.List.Range

/-!
# Searching a stream that arrives in pieces

* `findEnd pat l`: where the first occurrence of `pat` in `l` ends; `findEnd_eq_some` and
  `findEnd_eq_none` say what that is;
* `after pat l`: what follows the first occurrence;
* `afterInPieces pat cs`: the same for a reader that looks for `pat` in each piece by itself, until
  it found it.  `afterInPieces_eq_iff`: it is right exactly when the first occurrence lies in one
  piece, or nothing follows it.
-/

namespace Search

variable {α : Type*} [DecidableEq α]

/-- `pat` lies in `l` from position `i` on. -/
def OccursAt (pat l : List α) (i : ℕ) : Prop := pat <+: l.drop i

instance (pat l : List α) (i : ℕ) : Decidable (OccursAt pat l i) :=
  inferInstanceAs (Decidable (pat <+: l.drop i))

/-- The end of the first occurrence of `pat` in `l`. -/
def findEnd (pat l : List α) : Option ℕ :=
  ((List.range (l.length + 1 - pat.length)).find? fun i => OccursAt pat l i).map (· + pat.length)

/-- What follows the first occurrence of `pat` in `l`; nothing when there is none. -/
def after (pat l : List α) : List α :=
  match findEnd pat l with
  | none => []
  | some e => l.drop e

/-- What follows `pat` in pieces, when each piece is searched by itself. -/
def afterInPieces (pat : List α) : List (List α) → List α
  | [] => []
  | c :: cs =>
      match findEnd pat c with
      | none => afterInPieces pat cs
      | some e => c.drop e ++ cs.flatten

/-- The first occurrence of `pat` in the pieces lies in one of them, or nothing follows it. -/
def InOnePiece (pat : List α) (cs : List (List α)) : Prop :=
  ∀ e, findEnd pat cs.flatten = some e → e < cs.flatten.length →
    ∃ before c later, cs = before ++ c :: later ∧
      before.flatten.length + pat.length ≤ e ∧ e ≤ before.flatten.length + c.length

variable {pat l : List α} {i e : ℕ}

/-! ### Occurrences -/

omit [DecidableEq α] in
theorem OccursAt.le (h : OccursAt pat l i) (hpat : pat ≠ []) : i + pat.length ≤ l.length := by
  have hlength := h.length_le
  have hpos := List.length_pos_of_ne_nil hpat
  rw [List.length_drop] at hlength
  omega

omit [DecidableEq α] in
/-- More behind the list adds no occurrence within it, and removes none. -/
theorem occursAt_append_left (r : List α) (h : i + pat.length ≤ l.length) :
    OccursAt pat (l ++ r) i ↔ OccursAt pat l i := by
  unfold OccursAt
  rw [List.drop_append_of_le_length (by omega)]
  constructor
  · intro hpre
    exact List.prefix_of_prefix_length_le hpre (List.prefix_append _ _)
      (by rw [List.length_drop]; omega)
  · intro hpre
    exact hpre.trans (List.prefix_append _ _)

omit [DecidableEq α] in
/-- An occurrence behind the first part. -/
theorem occursAt_append_right (r : List α) : OccursAt pat (l ++ r) (l.length + i) ↔
    OccursAt pat r i := by
  unfold OccursAt
  rw [List.drop_append, List.drop_eq_nil_of_le (by omega), List.nil_append,
    Nat.add_sub_cancel_left]

/-! ### The first occurrence -/

theorem findEnd_eq_some (hpat : pat ≠ []) :
    findEnd pat l = some e ↔ pat.length ≤ e ∧ OccursAt pat l (e - pat.length) ∧
      ∀ j, j + pat.length < e → ¬OccursAt pat l j := by
  simp only [findEnd, Option.map_eq_some_iff, List.find?_range_eq_some, decide_eq_true_eq,
    List.mem_range, Bool.not_eq_true', decide_eq_false_iff_not]
  constructor
  · rintro ⟨i, ⟨hoccurs, -, hfirst⟩, rfl⟩
    refine ⟨Nat.le_add_left _ _, by rwa [Nat.add_sub_cancel], fun j hj => hfirst j (by omega)⟩
  · rintro ⟨hle, hoccurs, hfirst⟩
    have hbound := hoccurs.le hpat
    exact ⟨e - pat.length, ⟨hoccurs, by omega, fun j hj => hfirst j (by omega)⟩, by omega⟩

theorem findEnd_eq_none (hpat : pat ≠ []) : findEnd pat l = none ↔ ∀ i, ¬OccursAt pat l i := by
  simp only [findEnd, Option.map_eq_none_iff, List.find?_eq_none, List.mem_range,
    decide_eq_true_eq]
  constructor
  · intro h i hoccurs
    have hbound := hoccurs.le hpat
    exact h i (by omega) hoccurs
  · intro h i _
    exact h i

theorem findEnd_le (hpat : pat ≠ []) (h : findEnd pat l = some e) : e ≤ l.length := by
  obtain ⟨hle, hoccurs, -⟩ := (findEnd_eq_some hpat).1 h
  have hbound := hoccurs.le hpat
  omega

/-- What was found in a list is found there with more behind it. -/
theorem findEnd_append_of_some (hpat : pat ≠ []) (r : List α) (h : findEnd pat l = some e) :
    findEnd pat (l ++ r) = some e := by
  have hbound := findEnd_le hpat h
  obtain ⟨hle, hoccurs, hfirst⟩ := (findEnd_eq_some hpat).1 h
  refine (findEnd_eq_some hpat).2 ⟨hle, ?_, fun j hj => ?_⟩
  · exact (occursAt_append_left r (by omega)).2 hoccurs
  · rw [occursAt_append_left r (by omega)]
    exact hfirst j hj

/-- What is first found behind the first part is found there. -/
theorem findEnd_append_right (hpat : pat ≠ []) {r : List α}
    (h : findEnd pat (l ++ r) = some (l.length + e)) (he : pat.length ≤ e) :
    findEnd pat r = some e := by
  obtain ⟨-, hoccurs, hfirst⟩ := (findEnd_eq_some hpat).1 h
  refine (findEnd_eq_some hpat).2 ⟨he, ?_, fun j hj => ?_⟩
  · rwa [Nat.add_sub_assoc he, occursAt_append_right] at hoccurs
  · have hnot := hfirst (l.length + j) (by omega)
    rwa [occursAt_append_right] at hnot

theorem findEnd_none_of_append (hpat : pat ≠ []) {r : List α}
    (h : findEnd pat (l ++ r) = none) : findEnd pat l = none ∧ findEnd pat r = none := by
  rw [findEnd_eq_none hpat] at h
  constructor
  · refine (findEnd_eq_none hpat).2 fun i hoccurs => h i ?_
    exact (occursAt_append_left r (hoccurs.le hpat)).2 hoccurs
  · refine (findEnd_eq_none hpat).2 fun i hoccurs => h (l.length + i) ?_
    exact (occursAt_append_right r).2 hoccurs

theorem after_of_some (h : findEnd pat l = some e) : after pat l = l.drop e := by
  rw [after, h]

theorem after_of_none (h : findEnd pat l = none) : after pat l = [] := by
  rw [after, h]

/-! ### Piece by piece -/

section Pieces

variable {cs : List (List α)}

theorem afterInPieces_cons_of_none {c : List α} (h : findEnd pat c = none) :
    afterInPieces pat (c :: cs) = afterInPieces pat cs := by
  simp only [afterInPieces, h]

theorem afterInPieces_cons_of_some {c : List α} (h : findEnd pat c = some e) :
    afterInPieces pat (c :: cs) = c.drop e ++ cs.flatten := by
  simp only [afterInPieces, h]

theorem afterInPieces_of_none (hpat : pat ≠ []) (h : findEnd pat cs.flatten = none) :
    afterInPieces pat cs = [] := by
  induction cs with
  | nil => rfl
  | cons c cs ih =>
    obtain ⟨hc, hcs⟩ := findEnd_none_of_append hpat h
    rw [afterInPieces_cons_of_none hc]
    exact ih hcs

/-- What is handed on stands behind an occurrence of `pat`. -/
theorem afterInPieces_short (cs : List (List α)) (hpat : pat ≠ []) : afterInPieces pat cs = [] ∨
    (afterInPieces pat cs).length + pat.length ≤ cs.flatten.length := by
  induction cs with
  | nil => exact .inl rfl
  | cons c cs ih =>
    rw [List.flatten_cons, List.length_append]
    cases hc : findEnd pat c with
    | none =>
      rw [afterInPieces_cons_of_none hc]
      exact ih.imp_right fun h => by omega
    | some e =>
      have hle := ((findEnd_eq_some hpat).1 hc).1
      have hbound := findEnd_le hpat hc
      rw [afterInPieces_cons_of_some hc, List.length_append, List.length_drop]
      exact .inr (by omega)

/-- One piece in front of those that hold the first occurrence. -/
theorem inOnePiece_cons_iff (hpat : pat ≠ []) {c : List α}
    (h : findEnd pat (c :: cs).flatten = some (c.length + e)) (he : pat.length ≤ e) :
    InOnePiece pat (c :: cs) ↔ InOnePiece pat cs := by
  have hlater : findEnd pat cs.flatten = some e := findEnd_append_right hpat h he
  have hpos := List.length_pos_of_ne_nil hpat
  constructor
  · intro hin e₁ he₁ hlt
    obtain rfl := Option.some.inj (hlater.symm.trans he₁)
    obtain ⟨before, c', later, hcs, h1, h2⟩ := hin _ h (by simpa using hlt)
    cases before with
    | nil =>
      obtain ⟨rfl, rfl⟩ := List.cons.inj hcs
      simp only [List.flatten_nil, List.length_nil] at h2
      omega
    | cons b before =>
      obtain ⟨rfl, rfl⟩ := List.cons.inj hcs
      rw [List.flatten_cons, List.length_append] at h1 h2
      exact ⟨before, c', later, rfl, by omega, by omega⟩
  · intro hin e₁ he₁ hlt
    obtain rfl := Option.some.inj (h.symm.trans he₁)
    obtain ⟨before, c', later, rfl, h1, h2⟩ := hin e hlater (by simpa using hlt)
    refine ⟨c :: before, c', later, rfl, ?_, ?_⟩
    · rw [List.flatten_cons, List.length_append]
      omega
    · rw [List.flatten_cons, List.length_append]
      omega

/-- An occurrence that begins in the first piece and ends behind it lies in no piece. -/
theorem inOnePiece_iff_of_split {c : List α} (h : findEnd pat (c :: cs).flatten = some e)
    (hbehind : c.length < e) (hsplit : e < c.length + pat.length) :
    InOnePiece pat (c :: cs) ↔ c.length + cs.flatten.length ≤ e := by
  constructor
  · intro hin
    by_contra hmore
    obtain ⟨before, c', later, hcs, h1, h2⟩ := hin e h (by
      rw [List.flatten_cons, List.length_append]
      omega)
    cases before with
    | nil =>
      obtain ⟨rfl, rfl⟩ := List.cons.inj hcs
      simp only [List.flatten_nil, List.length_nil] at h2
      omega
    | cons b before =>
      obtain ⟨rfl, rfl⟩ := List.cons.inj hcs
      rw [List.flatten_cons, List.length_append] at h1
      omega
  · intro hlast e₁ he₁ hlt
    obtain rfl := Option.some.inj (h.symm.trans he₁)
    rw [List.flatten_cons, List.length_append] at hlt
    omega

/-- **Searching piece by piece** finds what follows the first occurrence of `pat` if and only if
that lies in one piece, or nothing follows it. -/
theorem afterInPieces_eq_iff (hpat : pat ≠ []) :
    afterInPieces pat cs = after pat cs.flatten ↔ InOnePiece pat cs := by
  have hpos := List.length_pos_of_ne_nil hpat
  induction cs with
  | nil =>
    refine iff_of_true ?_ fun e he hlt => ?_
    · cases h : findEnd pat ([] : List (List α)).flatten with
      | none => exact (after_of_none h).symm
      | some e => exact (after_of_some h ▸ List.drop_nil).symm
    · exact absurd hlt (Nat.not_lt_zero _)
  | cons c cs ih =>
    cases hc : findEnd pat c with
    | some e =>
      -- found in this piece, hence found first there
      have hall : findEnd pat (c :: cs).flatten = some e := findEnd_append_of_some hpat _ hc
      have hbound := findEnd_le hpat hc
      refine iff_of_true ?_ fun e' he' _ => ?_
      · rw [after_of_some hall, afterInPieces_cons_of_some hc]
        exact (List.drop_append_of_le_length hbound).symm
      · obtain rfl := Option.some.inj (hall.symm.trans he')
        have hle := ((findEnd_eq_some hpat).1 hc).1
        exact ⟨[], c, cs, rfl, by simpa using hle, by simpa using hbound⟩
    | none =>
      rw [afterInPieces_cons_of_none hc]
      cases hall : findEnd pat (c :: cs).flatten with
      | none =>
        refine iff_of_true ?_ fun e he => by rw [hall] at he; cases he
        rw [after_of_none hall]
        exact afterInPieces_of_none hpat (findEnd_none_of_append hpat hall).2
      | some e =>
        have hoccurs := ((findEnd_eq_some hpat).1 hall).2.1
        have hle := ((findEnd_eq_some hpat).1 hall).1
        have hend : e ≤ c.length + cs.flatten.length := by simpa using findEnd_le hpat hall
        have hbehind : c.length < e := by
          by_contra hnot
          rw [List.flatten_cons, occursAt_append_left _ (by omega)] at hoccurs
          exact (findEnd_eq_none hpat).1 hc _ hoccurs
        rcases Nat.lt_or_ge e (c.length + pat.length) with hsplit | hlater
        · -- a split occurrence is not seen: right only if nothing follows
          rw [inOnePiece_iff_of_split hall hbehind hsplit]
          have hlength : (after pat (c :: cs).flatten).length =
              c.length + cs.flatten.length - e := by
            rw [after_of_some hall, List.length_drop, List.flatten_cons, List.length_append]
          have hshort := afterInPieces_short cs hpat
          constructor
          · intro heq
            rw [← heq] at hlength
            rcases hshort with hnil | hshort
            · rw [hnil, List.length_nil] at hlength
              omega
            · omega
          · intro hlast
            have hnil : after pat (c :: cs).flatten = [] := List.length_eq_zero_iff.1 (by omega)
            rw [hnil]
            rcases hshort with hempty | hshort
            · exact hempty
            · exact List.length_eq_zero_iff.1 (by omega)
        · obtain ⟨e', rfl⟩ := Nat.exists_eq_add_of_le hbehind.le
          have he' : pat.length ≤ e' := by omega
          have hfound : findEnd pat cs.flatten = some e' := findEnd_append_right hpat hall he'
          have hafter : after pat (c :: cs).flatten = after pat cs.flatten := by
            rw [after_of_some hall, after_of_some hfound, List.flatten_cons, List.drop_append,
              List.drop_eq_nil_of_le hbehind.le, List.nil_append, Nat.add_sub_cancel_left]
          rw [hafter, inOnePiece_cons_iff hpat hall he']
          exact ih

end Pieces

end Search
