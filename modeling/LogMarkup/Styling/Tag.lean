import LogMarkup.Styling.Literal
import LogMarkup.Text.Blank
import LogMarkup.Text.WordCharacter

/-!
# Styling tags

Texts on a console can be styled by tags in square brackets: `[bold]` begins a style,
`[/bold]` ends it, and `[/]` ends the style that began last.  A tag whose name begins
with `@` ties the text to an action.  Backslashes in front of a tag stand for half as
many, and an odd one makes the tag plain text.

Main results:

- `Styling.pieces_of_not_mem`: a text without opening bracket has no tags.
-/

namespace LogMarkup

namespace Styling

/-- A tag. -/
structure Tag where
  /-- What stands before the first equals sign. -/
  name : List Char
  /-- What stands behind it, if there is one. -/
  parameters : Option (List Char)
deriving DecidableEq, Repr

namespace Tag

/-- The tag that the text between two brackets spells. -/
def ofChars (cs : List Char) : Tag :=
  ⟨cs.takeWhile (· != '='), (cs.dropWhile (· != '=')).tail?⟩

/-- Can the character begin a tag? -/
def isFirst (c : Char) : Bool := c.isLower || c == '#' || c == '/' || c == '@'

/-- What the brackets of a tag enclose, behind the opening one, and the rest behind the
closing one.  No further bracket is opened in a tag. -/
def split? : List Char → Option (List Char × List Char)
  | [] => none
  | c :: s =>
      if !isFirst c then none
      else
        match s.dropWhile fun d => d != '[' && d != ']' with
        | ']' :: rest => some (c :: s.takeWhile fun d => d != '[' && d != ']', rest)
        | _ => none

/-- A tag takes something from the text. -/
theorem length_lt_of_split? {s : List Char} {p : List Char × List Char} (h : split? s = some p) :
    p.2.length < s.length := by
  unfold split? at h
  split at h
  · contradiction
  next c s =>
    split at h
    · contradiction
    · split at h
      next rest hdrop =>
        obtain rfl := Option.some.inj h
        have hle := (List.dropWhile_suffix (fun d => d != '[' && d != ']') (l := s)).length_le
        rw [hdrop] at hle
        simp only [List.length_cons] at hle ⊢
        omega
      next => contradiction

/-- Can the character stand in the name of a handler? -/
def isHandlerChar (c : Char) : Bool := c == '.' || isWordCharacter c

/-- Can an action be understood?  It names a handler, perhaps with a literal in
parentheses, or it is a literal. -/
def isAction (cs : List Char) : Bool :=
  let arguments := cs.dropWhile isHandlerChar
  if arguments = [] then true
  else if arguments.head? = some '(' ∧ arguments.getLast? = some ')' ∧ '\n' ∉ arguments then
    Literal.isLiteral arguments
  else Literal.isLiteral cs

/-- Does the tag tie the text to an action? -/
def hasAction (t : Tag) : Bool := t.name.head? == some '@'

/-- Can the action, if there is one, be understood? -/
def isUnderstood (t : Tag) : Bool :=
  match t.parameters with
  | some (p :: ps) => isAction (trim isSpace (p :: ps))
  | _ => true

/-- The style of which the tag speaks. -/
def style (t : Tag) : List Char := t.name ++ (t.parameters.map (' ' :: ·)).getD []

end Tag

/-- A piece of a text with tags. -/
inductive Piece where
  /-- A text that is shown. -/
  | text (cs : List Char)
  /-- A tag. -/
  | tag (t : Tag)
deriving DecidableEq, Repr

/-- So many backslashes. -/
def backslashes (n : Nat) : List Char := List.replicate n '\\'

/-- What the text between two brackets is behind a run of `n` backslashes. -/
def bracketed (n : Nat) (cs : List Char) : List Piece :=
  [.text (backslashes (n / 2)),
    if n % 2 = 0 then .tag (Tag.ofChars cs) else .text ('[' :: cs ++ [']'])]

/-- The pieces of a text behind a run of `n` backslashes, where `before` is the text in
front of the run since the last tag, the last character first. -/
def piecesFrom (before : List Char) (n : Nat) : List Char → List Piece
  | [] => [.text (before.reverse ++ backslashes n)]
  | c :: s =>
      if c = '\\' then piecesFrom before (n + 1) s
      else if c = '[' then
        match _h : Tag.split? s with
        | some (cs, rest) => .text before.reverse :: (bracketed n cs ++ piecesFrom [] 0 rest)
        | none => piecesFrom ('[' :: (backslashes (n - 1) ++ before)) 0 s
      else piecesFrom (c :: (backslashes n ++ before)) 0 s
termination_by s => s.length
decreasing_by
  · simp
  · exact Nat.lt_succ_of_lt (Tag.length_lt_of_split? _h)
  · simp
  · simp

/-- The pieces of a text, from left to right. -/
def pieces (s : List Char) : List Piece := piecesFrom [] 0 s

/-- Behind backslashes, a text without opening bracket has no tags. -/
theorem piecesFrom_of_not_mem {s : List Char} (h : '[' ∉ s) (before : List Char) (n : Nat) :
    piecesFrom before n s = [.text (before.reverse ++ backslashes n ++ s)] := by
  induction s generalizing before n with
  | nil =>
    rw [piecesFrom]
    simp
  | cons c s ih =>
    have hs : '[' ∉ s := fun hmem => h (by simp [hmem])
    have hc : c ≠ '[' := fun hc => h (by simp [hc])
    rw [piecesFrom]
    split
    next hslash =>
      subst hslash
      rw [ih hs, backslashes, backslashes, List.replicate_succ']
      simp
    next =>
      rw [ih hs]
      simp [backslashes]

/-- A text without opening bracket has no tags. -/
theorem pieces_of_not_mem {s : List Char} (h : '[' ∉ s) : pieces s = [.text s] := by
  rw [pieces, piecesFrom_of_not_mem h]
  rfl

end Styling

end LogMarkup
