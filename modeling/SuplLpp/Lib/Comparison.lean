import Mathlib.Order.Lattice
import Mathlib.Order.Defs.LinearOrder
import Mathlib.Data.Set.Defs
import Mathlib.Tactic.Tauto

/-!
# Comparisons of two sources

A linear order whose strict comparison is exact, and an equality of its own that may hold of
different elements, as one with a tolerance does.

* `lessEqual` and `greater`, built of the two;
* `Laws`, what a user of the comparisons on a set of elements relies on;
* `laws_iff`: that is exactly a set on which the equality is the equality.
-/

namespace Comparison

variable {α : Type*} [LinearOrder α] (same : α → α → Prop)

def lessEqual (a b : α) : Prop := a < b ∨ same a b

def greater (a b : α) : Prop := ¬ lessEqual same a b

/-- One of the three holds and the other two do not. -/
def ExactlyOne (p q r : Prop) : Prop := (p ∧ ¬ q ∧ ¬ r) ∨ (¬ p ∧ q ∧ ¬ r) ∨ (¬ p ∧ ¬ q ∧ r)

/-- The comparisons make an order of the set. -/
structure Laws (S : Set α) : Prop where
  exactlyOne : ∀ a ∈ S, ∀ b ∈ S, ExactlyOne (a < b) (same a b) (greater same a b)
  same_trans : ∀ a ∈ S, ∀ b ∈ S, ∀ c ∈ S, same a b → same b c → same a c
  lessEqual_trans : ∀ a ∈ S, ∀ b ∈ S, ∀ c ∈ S,
    lessEqual same a b → lessEqual same b c → lessEqual same a c

variable {same}

/-- There is always one: two of them at once are the strict comparison and the equality. -/
theorem exactlyOne_iff (a b : α) :
    ExactlyOne (a < b) (same a b) (greater same a b) ↔ ¬ (a < b ∧ same a b) := by
  unfold ExactlyOne greater lessEqual
  tauto

/-- Where the equality is one, `lessEqual` is the order. -/
theorem lessEqual_iff {S : Set α} (hrefl : ∀ a, same a a)
    (hS : ∀ a ∈ S, ∀ b ∈ S, same a b → a = b) {a b : α} (ha : a ∈ S) (hb : b ∈ S) :
    lessEqual same a b ↔ a ≤ b := by
  constructor
  · rintro (hlt | hsame)
    · exact hlt.le
    · exact (hS a ha b hb hsame).le
  · intro hle
    rcases hle.lt_or_eq with hlt | rfl
    · exact Or.inl hlt
    · exact Or.inr (hrefl a)

theorem laws_iff (hrefl : ∀ a, same a a) (hsymm : ∀ a b, same a b → same b a) (S : Set α) :
    Laws same S ↔ ∀ a ∈ S, ∀ b ∈ S, same a b → a = b := by
  constructor
  · intro h a ha b hb hsame
    -- were they different, the smaller one would be less than the other and the same
    rcases lt_trichotomy a b with hlt | heq | hgt
    · exact absurd ⟨hlt, hsame⟩ ((exactlyOne_iff a b).1 (h.exactlyOne a ha b hb))
    · exact heq
    · exact absurd ⟨hgt, hsymm a b hsame⟩ ((exactlyOne_iff b a).1 (h.exactlyOne b hb a ha))
  · intro hS
    constructor
    · intro a ha b hb
      rw [exactlyOne_iff]
      rintro ⟨hlt, hsame⟩
      exact hlt.ne (hS a ha b hb hsame)
    · intro a ha b hb c _ hab hbc
      rw [hS a ha b hb hab]
      exact hbc
    · intro a ha b hb c hc hab hbc
      rw [lessEqual_iff hrefl hS ha hb] at hab
      rw [lessEqual_iff hrefl hS hb hc] at hbc
      exact (lessEqual_iff hrefl hS ha hc).2 (hab.trans hbc)

end Comparison
