import LogMarkup.Text.Grapheme

/-!
# Segments

A line of the console is put together from segments.  Each of them fills the cells that
it would fill alone, even if its first character melts into the segment in front.

Main results:

- `Segment.fit_of_plain`: a line of plain segments can be brought to any width, and then
  has it.
-/

namespace LogMarkup

namespace Styling

/-- A piece of a line that is shown in one style. -/
abbrev Segment := List Char

namespace Segment

/-- How many cells the segments of a line fill. -/
def count (line : List Segment) : Nat := total (line.map cellCount)

/-- The line with its end cut off, so that it fills so many cells. -/
def crop (width : Nat) : List Segment → Except CutError (List Segment)
  | [] => .ok []
  | s :: line =>
      if cellCount s < width then (crop (width - cellCount s) line).map (s :: ·)
      else (resize width s).map fun s => [s]

/-- The line brought to a width: it is cut if it fills too many cells, and spaces are put
behind it if it fills too few. -/
def fit (width : Nat) (line : List Segment) : Except CutError (List Segment) :=
  if count line < width then .ok (line ++ [List.replicate (width - count line) ' '])
  else if count line = width then .ok line
  else crop width line

/-- A line of plain segments that fill enough cells can be cut, and then has its width. -/
theorem crop_of_plain {line : List Segment} (h : ∀ s ∈ line, ∀ c ∈ s, isPlain c = true)
    {n : Nat} (hn : n ≤ count line) : ∃ cut, crop n line = .ok cut ∧ count cut = n := by
  induction line generalizing n with
  | nil => exact ⟨[], rfl, by simpa [count, eq_comm] using hn⟩
  | cons s line ih =>
    rw [crop]
    split
    next hlt =>
      have hrest : n - cellCount s ≤ count line := by
        simp only [count, List.map_cons, total_cons] at hn ⊢
        omega
      obtain ⟨cut, hcut, hcount⟩ := ih (fun u hu => h u (by simp [hu])) hrest
      refine ⟨s :: cut, by simp [hcut, Except.map], ?_⟩
      simp only [count, List.map_cons, total_cons] at hcount ⊢
      omega
    next =>
      obtain ⟨t, ht, hcount⟩ := resize_of_plain (h s (by simp)) n
      exact ⟨[t], by simp [ht, Except.map], by simp [count, hcount]⟩

/-- A line of plain segments can be brought to any width, and then has it. -/
theorem fit_of_plain {line : List Segment} (h : ∀ s ∈ line, ∀ c ∈ s, isPlain c = true)
    (n : Nat) : ∃ fitted, fit n line = .ok fitted ∧ count fitted = n := by
  unfold fit
  split
  next hlt =>
    refine ⟨_, rfl, ?_⟩
    simp only [count, List.map_append, List.map_cons, List.map_nil, total_append,
      total_cons, total_nil, cellCount_replicate_space] at hlt ⊢
    omega
  next hge =>
    split
    next heq => exact ⟨line, rfl, heq⟩
    next => exact crop_of_plain h (by omega)

end Segment

end Styling

end LogMarkup
