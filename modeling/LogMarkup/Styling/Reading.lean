import LogMarkup.Styling.Style
import LogMarkup.Styling.StyledText
import LogMarkup.Styling.Tag
import LogMarkup.Text.EmojiCode
import LogMarkup.Text.Grapheme

/-!
# Reading styled texts

A text is read piece by piece.  Emoji codes become pictures, as far as no tag stands in
them, and control characters are left out.  Every closing tag needs something to close,
and an action that is closed has to be understood.  A color that cannot be read spoils a
tag by its name alone; where it stands among the parameters, it only spoils the stretch
that is styled.

Main results:

- `StyledText.read_of_not_mem`: a text without opening bracket has no stretches.
-/

namespace LogMarkup

namespace Styling

/-- Why a text cannot be shown. -/
inductive Failure where
  /-- A tag has nothing to close, or closes an action that cannot be understood. -/
  | unmatched
  /-- A color cannot be read. -/
  | unreadableColor
  /-- The text does not fit, and cannot be cut. -/
  | uncut (error : CutError)
deriving DecidableEq, Repr

/-- What is known of a text after some of its pieces. -/
structure Reading where
  /-- The characters, the last one first. -/
  chars : List Char := []
  /-- The tags that are open, the last one first, and how many characters stand before. -/
  opened : List (Nat × Tag) := []
  /-- The stretches whose tags are closed. -/
  stretches : List Stretch := []

namespace Reading

/-- Is the character left out?  These control characters would move the cursor. -/
def isLeftOut (c : Char) : Bool := c ∈ ['\x07', '\x08', '\x0b', '\x0c', '\r']

/-- A text as it is shown: with pictures for emoji codes, and without control characters. -/
def shown (cs : List Char) : List Char := (EmojiCode.replace cs).filter fun c => !isLeftOut c

/-- The reading after a stretch has ended that began behind `start` characters. -/
def endStretch (r : Reading) (start : Nat) (isSpoilt : Bool) : Reading :=
  { r with stretches := ⟨start, r.chars.length, isSpoilt⟩ :: r.stretches }

/-- The canonical form of the name of a tag. -/
def canonical (name : List Char) : Except Failure (List Char) :=
  match Style.canonical? name with
  | some text => .ok text.toList
  | none => .error .unreadableColor

/-- The reading after the tag was closed that began last among those that `isMeant`. -/
def close (r : Reading) (isMeant : Tag → Bool) : Except Failure Reading :=
  match r.opened.find? fun p => isMeant p.2 with
  | none => .error .unmatched
  | some (start, t) =>
      let r := { r with opened := r.opened.eraseP fun p => isMeant p.2 }
      if t.hasAction then
        if t.isUnderstood then .ok (r.endStretch start false) else .error .unmatched
      else .ok (r.endStretch start (Style.isSpoilt t.style))

/-- The reading after one more piece. -/
def step (r : Reading) : Piece → Except Failure Reading
  | .text cs => .ok { r with chars := (shown cs).reverse ++ r.chars }
  | .tag t =>
      match t.name with
      | '/' :: cs =>
          match trim isSpace cs with
          | [] => r.close fun _ => true
          | name => do
              let name ← canonical name
              r.close fun u => u.name = name
      | name => do
          let name ← canonical name
          return { r with opened := (r.chars.length, { t with name := name }) :: r.opened }

/-- The text after the last piece: the stretches that are still open end there. -/
def text (r : Reading) : StyledText :=
  let r := r.opened.foldl (fun r p => r.endStretch p.1 (Style.isSpoilt p.2.style)) r
  ⟨r.chars.reverse, r.stretches⟩

end Reading

/-- The styled text that a text with tags describes. -/
def StyledText.read (s : List Char) : Except Failure StyledText := do
  let r ← (pieces s).foldlM Reading.step {}
  return r.text

/-- A text without opening bracket has no stretches. -/
theorem StyledText.read_of_not_mem {s : List Char} (h : '[' ∉ s) :
    read s = .ok ⟨Reading.shown s, []⟩ := by
  rw [read, pieces_of_not_mem h]
  simp [Reading.step, Reading.text, bind, Except.bind, pure, Except.pure]

end Styling

end LogMarkup
