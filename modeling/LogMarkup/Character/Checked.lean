import LogMarkup.Character
import LogMarkup.Json.Checked

/-!
# Characters from JSON

A character is given by an object.  Its name is required; the other fields have
defaults, and unknown fields are ignored.

Main results:

- `Character.ofFields_name`: a name is enough.
-/

namespace LogMarkup

namespace Character

open Json

/-- The character that the fields of an object give. -/
def ofFields (fields : List (String × Json)) : Checked Character :=
  let name := required asString fields "name"
  let gender := optional (asChoice Gender.ofLetter?) .male fields "gender"
  let isPlayer := optional asBool true fields "is_player"
  let isSelf := optional asBool false fields "is_self"
  ((name.both gender).both (isPlayer.both isSelf)).map fun p =>
    ⟨p.1.1, p.1.2, p.2.1, p.2.2⟩

/-- The character that a JSON value gives. -/
def ofJson (v : Json) : Checked Character := asObject v >>= ofFields

/-- A name is enough. -/
theorem ofFields_name (s : String) :
    ofFields [("name", .string s)] = .ok { name := s } := rfl

end Character

end LogMarkup
