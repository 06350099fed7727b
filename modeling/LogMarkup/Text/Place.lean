/-!
# Places in a text

A place names a position of a text the way an editor shows it: the line, counting
from one, and the column within the line, counting code points from one.  Only the
line feed begins a new line.

Main results:

- `Place.after_append`: moving over two texts one after the other is moving over
  their concatenation.
- `Place.after_cons`: the one-character step.
-/

namespace LogMarkup

/-- A position of a text, by line and column, both counted from one. -/
structure Place where
  /-- One more than the line feeds before the position. -/
  line : Nat
  /-- One more than the code points since the last line feed. -/
  column : Nat
deriving DecidableEq, Repr

namespace Place

/-- Where every text begins. -/
def start : Place := ⟨1, 1⟩

/-- The place behind the character `c` that stands at `p`. -/
def next (p : Place) (c : Char) : Place :=
  if c = '\n' then ⟨p.line + 1, 1⟩ else ⟨p.line, p.column + 1⟩

/-- The place behind the text `cs` that begins at `p`. -/
def after (p : Place) (cs : List Char) : Place :=
  cs.foldl next p

/-- The end of a text that begins at `p`: the line of its last character, and one
column further than that character, which may be a line feed. -/
def endOf (p : Place) (cs : List Char) : Place :=
  let last := p.after cs.dropLast
  ⟨last.line, last.column + 1⟩

/-- No text, no movement. -/
@[simp] theorem after_nil (p : Place) : p.after [] = p := rfl

/-- Moving over a text is moving over its first character and then over the rest. -/
@[simp] theorem after_cons (p : Place) (c : Char) (cs : List Char) :
    p.after (c :: cs) = (p.next c).after cs := rfl

/-- Moving over two texts in turn is moving over their concatenation. -/
theorem after_append (p : Place) (cs ds : List Char) :
    p.after (cs ++ ds) = (p.after cs).after ds := by
  simp [after, List.foldl_append]

end Place

/-- As much of a place as is known of a word.  A word need not stand in any text, so
that its numbers can be anything. -/
structure KnownPlace where
  /-- The line, if it is known. -/
  line : Option Int := none
  /-- The column, if it is known. -/
  column : Option Int := none
deriving DecidableEq, Repr

/-- All of a place is known. -/
def Place.known (p : Place) : KnownPlace := ⟨some (Int.ofNat p.line), some (Int.ofNat p.column)⟩

end LogMarkup
