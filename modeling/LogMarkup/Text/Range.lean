/-!
# Ranges of code points

A class of characters is given by the ranges of their code points, as the Unicode
Character Database lists them.

Main results:

- `inRanges_eq_false_of_lt`: a character in front of all ranges lies in none of them.
-/

namespace LogMarkup

/-- Does the character lie in one of the ranges?  Both ends belong to a range. -/
def inRanges (ranges : List (Nat × Nat)) (c : Char) : Bool :=
  ranges.any fun r => decide (r.1 ≤ c.toNat) && decide (c.toNat ≤ r.2)

theorem inRanges_cons (r : Nat × Nat) (ranges : List (Nat × Nat)) (c : Char) :
    inRanges (r :: ranges) c =
      (decide (r.1 ≤ c.toNat) && decide (c.toNat ≤ r.2) || inRanges ranges c) :=
  rfl

/-- A character in front of all ranges lies in none of them. -/
theorem inRanges_eq_false_of_lt {ranges : List (Nat × Nat)} {c : Char}
    (h : ∀ r ∈ ranges, c.toNat < r.1) : inRanges ranges c = false := by
  rw [inRanges, List.any_eq_false]
  intro r hr
  have := h r hr
  simp only [Bool.and_eq_true, decide_eq_true_eq]
  omega

end LogMarkup
