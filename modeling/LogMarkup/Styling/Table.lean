import LogMarkup.Rounding
import LogMarkup.Styling.Line
import LogMarkup.Styling.Segment

/-!
# Tables

A table is shown on a console of a fixed width, with a frame around its columns.  A
column is as wide as its widest cell, unless the table is too wide then: the widest
columns are made narrower until it fits.  The table is shown row by row; the cells of a
row are laid out one after the other, before their lines are put side by side.

Main results:

- `Table.sum_narrow_le`: making columns narrower makes none wider.
-/

namespace LogMarkup

namespace Styling

/-- A column of a table. -/
structure Column where
  /-- What stands above the column. -/
  header : List Char
  /-- The cells, from top to bottom. -/
  cells : List StyledText

/-- A table: its columns, from left to right. -/
structure Table where
  /-- The columns. -/
  columns : List Column

namespace Table

/-- The width of a console. -/
def consoleWidth : Nat := 200

/-- How many cells of the console a column needs beside the text. -/
def padding : Nat := 2

/-- Does the character end a line? -/
def isLineEnd (c : Char) : Bool :=
  c ∈ ['\n', '\x0b', '\x0c', '\r', '\x1c', '\x1d', '\x1e', '\u0085', '\u2028', '\u2029']

/-- The width of a text: that of its longest line. -/
def textWidth (s : List Char) : Nat := ((s.splitOnP isLineEnd).map cellCount).foldl max 0

/-- The width that a column has if there is room enough. -/
def fullWidth (room : Nat) (c : Column) : Nat :=
  min room ((c.cells.map fun cell => textWidth cell.chars).foldl max (textWidth c.header) + padding)

/-- The columns made narrower that are `widest`, of which there are `count`.  Together
they lose `excess`, each as much as the others if that is possible, and none more than
`most`. -/
def narrow (widest most : Nat) : (count excess : Nat) → List Nat → List Nat
  | _, _, [] => []
  | count, excess, w :: ws =>
      if w = widest then
        let loss := min most (roundDiv excess count)
        (w - loss) :: narrow widest most (count - 1) (excess - loss) ws
      else w :: narrow widest most count excess ws

/-- Making columns narrower makes none wider. -/
theorem sum_narrow_le (widest most count excess : Nat) (ws : List Nat) :
    total (narrow widest most count excess ws) ≤ total ws := by
  fun_induction narrow widest most count excess ws with
  | case1 => simp
  | case2 count excess ws loss ih => simp only [total_cons]; omega
  | case3 count excess w ws hw ih => simp only [total_cons]; omega

/-- The widths of columns that have to share `room`.  The widest columns become as narrow
as the next ones, and so on, until there is room for all; there are at most as many such
steps as columns. -/
def collapse (room : Nat) : (steps : Nat) → List Nat → List Nat
  | 0, ws => ws
  | steps + 1, ws =>
      let widest := ws.foldl max 0
      let next := (ws.filter (· != widest)).foldl max 0
      if total ws ≤ room then ws
      else
        let excess := total ws - room
        collapse room steps
          (narrow widest (min excess (widest - next)) (ws.count widest) excess ws)

/-- The widths of the columns. -/
def widths (t : Table) : List Nat :=
  let room := consoleWidth - (t.columns.length + 1)
  collapse room t.columns.length (t.columns.map (fullWidth room))

/-- The rows, from top to bottom. -/
def rows (t : Table) : List (List StyledText) :=
  let height := (t.columns.map fun c => c.cells.length).foldl max 0
  (List.range height).map fun i => t.columns.filterMap fun c => c.cells[i]?

/-- The lines of a cell of the given width.  No style may be left in it that cannot be
made out. -/
def renderCell (width : Nat) (t : StyledText) : Except Failure (List (List Segment)) := do
  let room := width - padding
  let lines ← (t.layOut room).mapError .uncut
  if lines.any StyledText.isSpoilt then throw .unreadableColor
  let lines ← (lines.mapM fun l => Segment.fit room l.segments).mapError .uncut
  (lines.mapM fun l => Segment.fit width ([' '] :: (l ++ [[' ']]))).mapError .uncut

/-- The segment between two columns. -/
def bar : Segment := ['│']

/-- The lines of a row with cells of the given widths. -/
def renderRow (widths : List Nat) (cells : List StyledText) :
    Except Failure (List (List Segment)) := do
  let cells ← (widths.zip cells).mapM fun p => renderCell p.1 p.2
  let height := (cells.map List.length).foldl max 0
  let cells ← (widths.zip cells).mapM fun p => do
    let lines ← (p.2.mapM (Segment.fit p.1)).mapError .uncut
    return lines ++ List.replicate (height - lines.length) [List.replicate p.1 ' ']
  return (List.range height).map fun i => bar :: cells.flatMap fun lines => lines.getD i [] ++ [bar]

/-- The lines of the table below its headers. -/
def render (t : Table) : Except Failure (List (List Segment)) := do
  let lines ← t.rows.mapM (renderRow t.widths)
  (lines.flatten.mapM (Segment.fit consoleWidth)).mapError .uncut

/-- Can the table be shown whose columns have these headers and texts? -/
def check (columns : List (String × List String)) : Except Failure Unit := do
  let columns ← columns.mapM fun p => do
    let cells ← p.2.mapM fun text => StyledText.read text.toList
    return Column.mk p.1.toList cells
  let _ ← (Table.mk columns).render

end Table

end Styling

end LogMarkup
