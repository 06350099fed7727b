import LogMarkup.Catalogue
import LogMarkup.Check.Labels
import LogMarkup.Markup

/-!
# Checks

A check reduces a markup and notes the error, if there is one.  A catalogue is checked
message by message, and an error in one does not keep the others from being checked,
unless it is no finding about that message: then the checking ends.

Main results:

- `Check.of_ok_iff`: which markups give a check that found no error.
-/

namespace LogMarkup

/-- The outcome of reducing one markup. -/
structure Check where
  /-- The markup that was checked. -/
  markup : String
  /-- Where it comes from. -/
  labels : Labels
  /-- The error that was found. -/
  error : Option MarkupError
deriving DecidableEq, Repr

namespace Check

/-- Was no error found? -/
def isOk (c : Check) : Bool := c.error.isNone

/-- The check of a markup, or the error that is no finding about it. -/
def of (markup : String) (labels : Labels) : Except MarkupError Check :=
  match Markup.reduce markup with
  | .ok _ => .ok ⟨markup, labels, none⟩
  | .error e => if e.isFinding then .ok ⟨markup, labels, some e⟩ else .error e

/-- A check finds no error exactly when the markup reduces. -/
theorem of_ok_iff {markup : String} {labels : Labels} :
    (∃ c, of markup labels = .ok c ∧ c.isOk = true) ↔ ∃ r, Markup.reduce markup = .ok r := by
  unfold of
  cases Markup.reduce markup with
  | ok r => simp [isOk]
  | error e =>
    by_cases h : e.isFinding = true <;> simp [h, isOk]

end Check

/-- What checking several messages in turn has given. -/
structure Batch where
  /-- The checks that were made, in order. -/
  checks : List Check
  /-- The error that ended the checking early. -/
  aborted : Option MarkupError

namespace Batch

/-- Messages are checked one after the other, until there are no more or an error
ends the checking.  Every check is handed to `onChecked` as soon as it is made. -/
def runM {m : Type → Type} [Monad m] (onChecked : Check → m Unit) :
    List (String × Labels) → m Batch
  | [] => return ⟨[], none⟩
  | (markup, labels) :: rest =>
      match Check.of markup labels with
      | .ok c => do
          onChecked c
          let others ← runM onChecked rest
          return ⟨c :: others.checks, others.aborted⟩
      | .error e => return ⟨[], some e⟩

theorem runM_nil {m : Type → Type} [Monad m] (onChecked : Check → m Unit) :
    runM onChecked [] = return ⟨[], none⟩ := rfl

/-- The other messages are checked only if the first one could be. -/
theorem runM_cons {m : Type → Type} [Monad m] (onChecked : Check → m Unit) (markup : String)
    (labels : Labels) (rest : List (String × Labels)) :
    runM onChecked ((markup, labels) :: rest) =
      match Check.of markup labels with
      | .ok c => do
          onChecked c
          let others ← runM onChecked rest
          return ⟨c :: others.checks, others.aborted⟩
      | .error e => return ⟨[], some e⟩ := rfl

/-- Messages are checked one after the other, and nothing else is done. -/
def run (messages : List (String × Labels)) : Batch :=
  Id.run (runM (fun _ => pure ()) messages)

/-- The checks that found an error. -/
def failures (b : Batch) : List Check := b.checks.filter fun c => !c.isOk

end Batch

/-- The messages of an emote: English before Japanese, and the one for a target before
the other. -/
def Emote.messages (e : Emote) : List (String × Labels) :=
  Language.all.flatMap fun l =>
    [true, false].map fun targeted => (e.markup l targeted, ⟨some e.name, some l, some targeted⟩)

/-- The messages of all emotes that are listed. -/
def Catalogue.messages (k : Catalogue) : List (String × Labels) :=
  k.emotes.flatMap Emote.messages

/-- The checks of all messages, each of which is handed to `onChecked`. -/
def Catalogue.checkM {m : Type → Type} [Monad m] (onChecked : Check → m Unit)
    (k : Catalogue) : m Batch :=
  Batch.runM onChecked k.messages

/-- The checks of all messages. -/
def Catalogue.check (k : Catalogue) : Batch := Batch.run k.messages

end LogMarkup
