/-!
# Paths

A path names a place on a disk by the steps that lead there.  Reading a path drops what
makes no difference: repeated slashes, a slash at the end, and steps that stay in
place.  Steps to the directory above are kept, because they have to be walked.

Main results:

- `Path.joinPieces_splitPieces`: splitting at slashes loses nothing.
-/

namespace LogMarkup

/-- The steps to a place on a disk. -/
structure Path where
  /-- What stands before the first step: nothing for a path that begins where the
  program runs, otherwise one slash or two. -/
  lead : List Char
  /-- The names of the steps. -/
  steps : List (List Char)
deriving DecidableEq, Repr

namespace Path

/-- The pieces of a text between its slashes. -/
def splitPieces : List Char → List (List Char)
  | [] => [[]]
  | c :: s =>
      if c = '/' then [] :: splitPieces s
      else
        match splitPieces s with
        | [] => [[c]]
        | p :: ps => (c :: p) :: ps

/-- The pieces with slashes between them. -/
def joinPieces : List (List Char) → List Char
  | [] => []
  | [p] => p
  | p :: ps => p ++ '/' :: joinPieces ps

theorem splitPieces_ne_nil (s : List Char) : splitPieces s ≠ [] := by
  cases s with
  | nil => simp [splitPieces]
  | cons c s =>
    rw [splitPieces]
    split
    · simp
    · split <;> simp

/-- Splitting at slashes loses nothing. -/
theorem joinPieces_splitPieces (s : List Char) : joinPieces (splitPieces s) = s := by
  induction s with
  | nil => rfl
  | cons c s ih =>
    rw [splitPieces]
    cases hs : splitPieces s with
    | nil => exact absurd hs (splitPieces_ne_nil s)
    | cons p ps =>
      rw [hs] at ih
      by_cases hc : c = '/'
      · rw [if_pos hc, joinPieces, ih, hc]
        · rfl
        · simp
      · rw [if_neg hc]
        cases ps with
        | nil => simpa [joinPieces] using ih
        | cons q qs => simpa [joinPieces] using ih

/-- The step to the directory above. -/
def up : List Char := ['.', '.']

/-- The slashes in front that count: two if there are exactly two, otherwise at most
one. -/
def leadOf : List Char → List Char
  | '/' :: '/' :: '/' :: _ => ['/']
  | '/' :: '/' :: _ => ['/', '/']
  | '/' :: _ => ['/']
  | _ => []

/-- The path that a text names. -/
def ofChars (s : List Char) : Path :=
  ⟨leadOf s, (splitPieces s).filter fun p => p ≠ [] ∧ p ≠ ['.']⟩

/-- The path that a string names. -/
def ofString (s : String) : Path := ofChars s.toList

/-- How a path is written; one without any step is a point. -/
def chars (p : Path) : List Char :=
  if p.lead = [] ∧ p.steps = [] then ['.'] else p.lead ++ joinPieces p.steps

/-- How a path is written, as a string. -/
def text (p : Path) : String := String.ofList p.chars

/-- The path that goes on from the end of this one. -/
def append (p : Path) (names : List (List Char)) : Path := { p with steps := p.steps ++ names }

/-- How many bytes the name of a step may have. -/
def nameLimit : Nat := 255

/-- How many bytes a whole path may have. -/
def lengthLimit : Nat := 4095

/-- Is the name of a step too long? -/
def isTooLongName (name : List Char) : Bool :=
  decide (nameLimit < (String.ofList name).utf8ByteSize)

/-- Is the whole path too long? -/
def isTooLong (p : Path) : Bool := decide (lengthLimit < p.text.utf8ByteSize)

/-- Does the path hold a null character, so that no system can be asked for it? -/
def holdsNull (p : Path) : Bool := p.chars.contains '\x00'

/-- Does the path end by naming something, and not by staying or by going up? -/
def endsInName (p : Path) : Bool :=
  match p.steps.getLast? with
  | some s => s != up
  | none => false

end Path

end LogMarkup
