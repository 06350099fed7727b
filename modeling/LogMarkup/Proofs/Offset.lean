import LogMarkup.Proofs.FurthestPlace

/-!
# Places as offsets

A place names a position of a text by line and column.  In a given text it denotes the
number of characters in front of that position, and it denotes no other one, because
every character leads to a further line or to a further column of the same line.

Main results:

- `Place.line_lt_after_or_column_after`: where moving over a text leads to.
- `Place.denotes_iff`: a place denotes the offsets that moving over the text leads to.
- `Place.Denotes.unique`: a place denotes one offset at most.
-/

namespace LogMarkup

namespace Place

/-- Moving over a text leads to a further line, or on the same line to a column that is
further by the length of the text. -/
theorem line_lt_after_or_column_after (p : Place) (cs : List Char) :
    p.line < (p.after cs).line ∨
      (p.after cs).line = p.line ∧ (p.after cs).column = p.column + cs.length := by
  induction cs generalizing p with
  | nil => exact .inr ⟨rfl, rfl⟩
  | cons c cs ih =>
    have htail := ih (p.next c)
    rw [after_cons, List.length_cons]
    by_cases hc : c = '\n'
    · have hnext : (p.next c).line = p.line + 1 := by rw [next, if_pos hc]
      omega
    · have hline : (p.next c).line = p.line := by rw [next, if_neg hc]
      have hcolumn : (p.next c).column = p.column + 1 := by rw [next, if_neg hc]
      omega

/-- Moving over some characters leads elsewhere. -/
theorem after_ne_self (p : Place) {cs : List Char} (h : cs ≠ []) : p.after cs ≠ p := by
  intro heq
  have hpos := List.length_pos_iff.mpr h
  have hmoved := p.line_lt_after_or_column_after cs
  rw [heq] at hmoved
  omega

/-- In the text `s` the place is that behind the first `i` characters. -/
structure Denotes (p : Place) (s : List Char) (i : Nat) : Prop where
  /-- So many characters there are. -/
  le : i ≤ s.length
  /-- The line is one more than the line feeds before the place. -/
  line : p.line = 1 + (s.take i).count '\n'
  /-- The column is one more than the characters behind the last of them. -/
  column : p.column = 1 + ((s.take i).reverse.takeWhile (· ≠ '\n')).length

/-- A place denotes the offsets that moving over the text leads to. -/
theorem denotes_iff {p : Place} {s : List Char} {i : Nat} :
    p.Denotes s i ↔ i ≤ s.length ∧ p = start.after (s.take i) := by
  rw [after_start]
  constructor
  · rintro ⟨hle, hline, hcolumn⟩
    obtain ⟨line, column⟩ := p
    obtain rfl : line = _ := hline
    obtain rfl : column = _ := hcolumn
    exact ⟨hle, rfl⟩
  · rintro ⟨hle, rfl⟩
    exact ⟨hle, rfl, rfl⟩

/-- The place behind the front of a text denotes the length of that front. -/
theorem denotes_after (front rest : List Char) :
    (start.after front).Denotes (front ++ rest) front.length := by
  refine denotes_iff.mpr ⟨by simp, ?_⟩
  rw [List.take_left]

namespace Denotes

variable {p : Place} {s : List Char} {i j : Nat}

/-- A place does not denote two offsets, one behind the other. -/
theorem not_lt (hi : p.Denotes s i) (hj : p.Denotes s j) : ¬ i < j := by
  intro hlt
  obtain ⟨-, rfl⟩ := denotes_iff.mp hi
  obtain ⟨hle, hplace⟩ := denotes_iff.mp hj
  have hsplit : s.take j = s.take i ++ (s.drop i).take (j - i) := by
    rw [← List.take_add, Nat.add_sub_cancel' hlt.le]
  have hne : (s.drop i).take (j - i) ≠ [] := by
    refine List.ne_nil_of_length_pos ?_
    rw [List.length_take, List.length_drop]
    omega
  rw [hsplit, after_append] at hplace
  exact after_ne_self _ hne hplace.symm

/-- A place denotes one offset at most. -/
theorem unique (hi : p.Denotes s i) (hj : p.Denotes s j) : i = j :=
  Nat.le_antisymm (Nat.not_lt.mp (hj.not_lt hi)) (Nat.not_lt.mp (hi.not_lt hj))

end Denotes

end Place

end LogMarkup
