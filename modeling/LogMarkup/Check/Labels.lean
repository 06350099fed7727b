import LogMarkup.Emote
import LogMarkup.Json.Checked

/-!
# Labels of checks

A check can be labelled with what is known of where its markup comes from.  Labels
can be given by a JSON object; each is optional and may be `null`.

Main results:

- `Labels.ofFields_nil`: without fields nothing is known.
-/

namespace LogMarkup

/-- What is known of where a markup comes from. -/
structure Labels where
  /-- The name of the emote. -/
  emote : Option String := none
  /-- The language of the message. -/
  language : Option Language := none
  /-- Is it the message for a target? -/
  targeted : Option Bool := none
deriving DecidableEq, Repr

namespace Labels

open Json

/-- The labels that the fields of an object give. -/
def ofFields (fields : List (String × Json)) : Checked Labels :=
  let emote := optional (asOptional asString) none fields "emote"
  let language := optional (asOptional (asChoice Language.ofCode?)) none fields "language"
  let targeted := optional (asOptional asBool) none fields "targeted"
  (emote.both (language.both targeted)).map fun p => ⟨p.1, p.2.1, p.2.2⟩

/-- Without fields nothing is known. -/
theorem ofFields_nil : ofFields [] = .ok {} := rfl

end Labels

end LogMarkup
