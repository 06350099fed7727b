import LogMarkup.Text.Range

/-!
# Blanks

A blank is a code point with the property White_Space of the Unicode Character
Database.  A space is a blank or one of the four separators of ASCII, which stand
between words as blanks do.

Main results:

- `isBlank_of_isWhitespace`: the blanks of ASCII that core knows are blanks.
- `trim_of_none`: a text that neither begins nor ends with a character of a class is not
  changed by trimming that class.
-/

namespace LogMarkup

/-- The ranges of the blanks. -/
def blankRanges : List (Nat × Nat) :=
  [ (0x9, 0xd), (0x20, 0x20), (0x85, 0x85), (0xa0, 0xa0), (0x1680, 0x1680),
    (0x2000, 0x200a), (0x2028, 0x2029), (0x202f, 0x202f), (0x205f, 0x205f),
    (0x3000, 0x3000)]

/-- Is the character a blank? -/
def isBlank (c : Char) : Bool := inRanges blankRanges c

/-- The blanks of ASCII that core knows are blanks. -/
theorem isBlank_of_isWhitespace {c : Char} (h : c.isWhitespace = true) : isBlank c = true := by
  simp only [Char.isWhitespace, Bool.or_eq_true, decide_eq_true_eq] at h
  rcases h with ((rfl | rfl) | rfl) | rfl <;> decide

/-- Is the character a space? -/
def isSpace (c : Char) : Bool := isBlank c || (decide (0x1c ≤ c.toNat) && decide (c.toNat ≤ 0x1f))

/-- The text without the characters of the class `p` at its two ends. -/
def trim (p : Char → Bool) (cs : List Char) : List Char :=
  ((cs.dropWhile p).reverse.dropWhile p).reverse

/-- A text that neither begins nor ends with a character of the class is not changed by
trimming. -/
theorem trim_of_none {p : Char → Bool} {cs : List Char} (hhead : ∀ c ∈ cs.head?, p c = false)
    (hlast : ∀ c ∈ cs.getLast?, p c = false) : trim p cs = cs := by
  have hkeep : ∀ ds : List Char, (∀ c ∈ ds.head?, p c = false) → ds.dropWhile p = ds := by
    intro ds hds
    cases ds with
    | nil => rfl
    | cons d ds => simp [hds d (by simp)]
  rw [trim, hkeep cs hhead, hkeep cs.reverse (by simpa using hlast), List.reverse_reverse]

/-- The words of a text, with spaces between them. -/
def splitWords (cs : List Char) : List (List Char) :=
  (cs.splitOnP isSpace).filter (· ≠ [])

end LogMarkup
