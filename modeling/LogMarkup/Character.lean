/-!
# Characters

A character takes part in a log message, as its origin or as its target.  Messages ask
for its grammatical gender, whether a player controls it, and whether it is the
reader's own character.

Main results:

- `Gender.ofLetter?_letter`: a gender is read back from its letter.
-/

namespace LogMarkup

/-- The grammatical gender that pronouns follow. -/
inductive Gender where
  /-- Written `M`. -/
  | male
  /-- Written `F`. -/
  | female
deriving DecidableEq, Repr

namespace Gender

/-- Every gender. -/
def all : List Gender := [male, female]

/-- The letter of a gender. -/
def letter : Gender → String
  | male => "M"
  | female => "F"

/-- The gender of a given letter. -/
def ofLetter? (s : String) : Option Gender := all.find? (·.letter = s)

/-- A gender is read back from its letter. -/
@[simp] theorem ofLetter?_letter (g : Gender) : ofLetter? g.letter = some g := by
  cases g <;> decide

end Gender

/-- A participant of a log message. -/
structure Character where
  /-- The name that messages show, in every language. -/
  name : String
  /-- The gender that pronouns follow. -/
  gender : Gender := .male
  /-- Does a player control the character? -/
  isPlayer : Bool := true
  /-- Is it the reader's own character? -/
  isSelf : Bool := false
deriving DecidableEq, Repr

end LogMarkup
