import LogMarkup.Catalogue
import LogMarkup.Evaluation
import LogMarkup.Markup

/-!
# Rendering

A message is rendered for an origin and an optional target: the characters have to be
able to take part together, then the markup is reduced and evaluated for them.  The
message of an emote is looked up before that.

Main results:

- `Rendering.of_of_refused`: characters that cannot take part together are refused
  before the markup is read.
- `Catalogue.render_of_notFound`: an unknown command is refused before anything else.
-/

namespace LogMarkup

/-- A message as it is shown. -/
structure Rendering where
  /-- The text. -/
  text : String
  /-- The warnings that showing it gave. -/
  warnings : List String
deriving DecidableEq, Repr

/-- Why a message cannot be shown. -/
inductive RenderError where
  /-- There is no message. -/
  | lookup (error : Catalogue.LookupError)
  /-- The characters cannot take part together. -/
  | multipleSelves
  /-- The markup has no reduction. -/
  | markup (error : MarkupError)
deriving DecidableEq, Repr

/-- The participants, or the error that the characters cannot take part together. -/
def Participants.of (origin : Character) (target : Option Character) :
    Except RenderError Participants :=
  match Participants.of? origin target with
  | some p => .ok p
  | none => .error .multipleSelves

namespace Rendering

/-- The rendering of a reduction. -/
def ofReduction (r : Reduction) (p : Participants) : Rendering :=
  ⟨r.evaluate p.answers, r.warnings p⟩

/-- The rendering of a markup. -/
def of (markup : String) (origin : Character) (target : Option Character) :
    Except RenderError Rendering := do
  let p ← Participants.of origin target
  let r ← (Markup.reduce markup).mapError .markup
  return ofReduction r p

/-- Characters that cannot take part together are refused before the markup is read. -/
theorem of_of_refused {markup : String} {origin : Character} {target : Option Character}
    (h : Participants.of? origin target = none) :
    of markup origin target = .error .multipleSelves := by
  simp only [of, Participants.of, h]
  rfl

end Rendering

/-- The rendering of a command's message in the language of a given code.  The message
for a target is shown when there is one. -/
def Catalogue.render (k : Catalogue) (command code : String) (origin : Character)
    (target : Option Character) : Except RenderError Rendering := do
  let markup ← (k.markup command code target.isSome).mapError .lookup
  Rendering.of markup origin target

/-- An unknown command is refused before anything else. -/
theorem Catalogue.render_of_notFound {k : Catalogue} {command code : String}
    {origin : Character} {target : Option Character} (h : k.find? command = none) :
    k.render command code origin target = .error (.lookup (.notFound command)) := by
  simp only [Catalogue.render, Catalogue.markup, Catalogue.emote, h]
  rfl

end LogMarkup
