import LogMarkup.Styling.Reading

/-!
# Lines of cells

The text in a cell of a table is laid out in lines of a given width.  It is divided at
the ends of its own lines and, where they are too long, between words.  Of what is still
too long the end is left out, with a mark in its place; what is too short is filled up
with spaces.

Main results:

- `Line.flatten_words`: dividing a text into words loses nothing.
- `Line.flatten_wrapFrom`: dividing words into lines loses nothing.
-/

namespace LogMarkup

namespace Styling

namespace Line

/-! ## Tabs -/

/-- How far tabs stand apart. -/
def tabSize : Nat := 8

/-- The parts of a text that end in tabs, and what stands behind the last one. -/
def tabbedParts : List Char → List (List Char)
  | [] => []
  | c :: s =>
      match tabbedParts s with
      | [] => [[c]]
      | p :: ps => if c = '\t' then [c] :: p :: ps else (c :: p) :: ps

/-- The text behind so many cells, with spaces for the tab at its end. -/
def withoutTab (column : Nat) (t : StyledText) : StyledText :=
  if t.chars.getLast? = some '\t' then
    let spaced := { t with chars := t.chars.dropLast ++ [' '] }
    let filled := (column + cellCount spaced.chars) % tabSize
    spaced.extend (if filled = 0 then 0 else tabSize - filled)
  else t

/-- The texts side by side, with spaces for the tabs at their ends. -/
def joinTabbed (column : Nat) : List StyledText → StyledText
  | [] => ⟨[], []⟩
  | t :: ts =>
      let t := withoutTab column t
      t.append (joinTabbed (column + cellCount t.chars) ts)

/-- The text with spaces for tabs. -/
def expandTabs (t : StyledText) : StyledText :=
  if '\t' ∈ t.chars then joinTabbed 0 (t.slices 0 0 ((tabbedParts t.chars).map List.length)) else t

/-! ## Words -/

/-- The text divided where spaces end. -/
def divide : List Char → List (List Char)
  | [] => []
  | c :: s =>
      match divide s with
      | [] => [[c]]
      | w :: ws => if isSpace c && !w.head?.any isSpace then [c] :: w :: ws else (c :: w) :: ws

/-- The words, each with the spaces behind it; the first one also with those in front. -/
def words (s : List Char) : List (List Char) :=
  match divide s with
  | first :: second :: rest =>
      if first.all isSpace then (first ++ second) :: rest else first :: second :: rest
  | ws => ws

theorem flatten_divide (s : List Char) : (divide s).flatten = s := by
  induction s with
  | nil => rfl
  | cons c s ih =>
    rw [divide]
    split
    next heq =>
      rw [heq] at ih
      simpa using ih
    next heq =>
      rw [heq] at ih
      split <;> simpa using ih

/-- Dividing a text into words loses nothing. -/
theorem flatten_words (s : List Char) : (words s).flatten = s := by
  have h := flatten_divide s
  unfold words
  split
  next heq =>
    rw [heq] at h
    split <;> simpa using h
  next => exact h

/-- The word without the spaces behind it. -/
def withoutGap (w : List Char) : List Char := (w.reverse.dropWhile isSpace).reverse

/-- The lines that words make behind a line that is begun and fills so many cells.  A
word begins a new line if it does not fit, or is too long for any line. -/
def wrapFrom (width : Nat) (line : List Char) (cells : Nat) :
    List (List Char) → List (List Char)
  | [] => [line]
  | w :: ws =>
      if cells + cellCount (withoutGap w) ≤ width then
        wrapFrom width (line ++ w) (cells + cellCount w) ws
      else if line = [] then wrapFrom width w (cellCount w) ws
      else line :: wrapFrom width w (cellCount w) ws

/-- Dividing words into lines loses nothing. -/
theorem flatten_wrapFrom (width : Nat) (line : List Char) (cells : Nat)
    (ws : List (List Char)) :
    (wrapFrom width line cells ws).flatten = line ++ ws.flatten := by
  induction ws generalizing line cells with
  | nil => simp [wrapFrom]
  | cons w ws ih =>
    rw [wrapFrom]
    split
    · simp [ih]
    · split
      next hline => simp [ih, hline]
      next => simp [ih]

/-- The text, divided where it is too long for a line. -/
def wrap (width : Nat) (t : StyledText) : List StyledText :=
  if t.chars.all isSpace then [t]
  else
    match wrapFrom width [] 0 (words t.chars) with
    | [_] => [t]
    | lines => t.slices 0 0 (lines.map List.length)

/-! ## Filling a line -/

/-- The text without spaces at its end, as far as it has too many characters. -/
def trim (width : Nat) (t : StyledText) : StyledText :=
  let length := t.chars.length
  let gap := (t.chars.reverse.takeWhile isSpace).length
  if width < length ∧ 0 < gap then t.take (length - min gap (length - width)) else t

/-- The mark in the place of an end that is left out. -/
def ellipsis : Char := '…'

/-- The text without its end, if it is too long. -/
def shorten (width : Nat) (t : StyledText) : Except CutError StyledText :=
  if cellCount t.chars ≤ width then .ok t
  else (resize (width - 1) t.chars).map fun cs => t.withChars (cs ++ [ellipsis])

/-- The text with spaces behind it, if it is too short. -/
def pad (width : Nat) (t : StyledText) : StyledText :=
  t.withChars (t.chars ++ List.replicate (width - cellCount t.chars) ' ')

/-- The text of a line, shortened or padded to its width. -/
def fill (width : Nat) (t : StyledText) : Except CutError StyledText :=
  if cellCount t.chars ≤ width then .ok (pad width t) else shorten width t

/-- The lines into which a text without line ends is laid out.  A text that was shortened
can still be too long, since the mark at its end can change what is shown in front. -/
def layOut (width : Nat) (t : StyledText) : Except CutError (List StyledText) := do
  let lines ← ((wrap width (expandTabs t)).map (trim width)).mapM (fill width)
  lines.mapM (shorten width)

end Line

namespace StyledText

/-- The text of each line. -/
def lines (t : StyledText) : List StyledText :=
  if '\n' ∈ t.chars then t.slices 1 0 ((t.chars.splitOn '\n').map List.length) else [t]

/-- The lines into which the text is laid out. -/
def layOut (width : Nat) (t : StyledText) : Except CutError (List StyledText) := do
  let lines ← t.lines.mapM (Line.layOut width)
  return lines.flatten

end StyledText

end Styling

end LogMarkup
