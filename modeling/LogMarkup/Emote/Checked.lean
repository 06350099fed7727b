import LogMarkup.Emote
import LogMarkup.Json.Checked

/-!
# Emotes from JSON

Emote data is a JSON list of objects.  Every field of an emote but its commands is
required, and unknown fields are ignored.

Main results:

- `Emote.listOfText_of_noJson`: a text that is no JSON has that as its only issue.
-/

namespace LogMarkup

open Json

/-- The messages that a JSON value gives. -/
def MessagePair.ofJson (v : Json) : Checked MessagePair := do
  let fields ← asObject v
  let targeted := required asString fields "targeted"
  let untargeted := required asString fields "untargeted"
  (targeted.both untargeted).map fun p => ⟨p.1, p.2⟩

namespace Emote

/-- The emote that a JSON value gives. -/
def ofJson (v : Json) : Checked Emote := do
  let fields ← asObject v
  let id := required asInteger fields "id"
  let name := required asString fields "name"
  let commands := optional (asList asString) [] fields "commands"
  let english := required MessagePair.ofJson fields "en"
  let japanese := required MessagePair.ofJson fields "ja"
  ((id.both name).both (commands.both (english.both japanese))).map fun p =>
    ⟨p.1.1, p.1.2, p.2.1, p.2.2.1, p.2.2.2⟩

/-- The emotes that a text gives. -/
def listOfText (s : String) : Checked (List Emote) :=
  match parse? s with
  | some v => asList ofJson v
  | none => .fail .noJson

/-- A text that is no JSON has that as its only issue. -/
theorem listOfText_of_noJson {s : String} (h : parse? s = none) :
    listOfText s = .error [⟨.noJson, []⟩] := by
  simp [listOfText, h, Checked.fail]

end Emote

end LogMarkup
