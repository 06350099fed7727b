import LogMarkup.Concrete.Parse
import LogMarkup.Node.Build
import LogMarkup.Reduction

/-!
# Markup

Markup goes through three stages: it is read as a concrete message, built into nodes
and reduced to guarded texts.  Each stage can fail, and the first failure is the
error of the markup.

Main results:

- `Markup.reduce_eq_bind`: reducing is building and then reducing the nodes.
-/

namespace LogMarkup

/-- Why a markup has no reduction. -/
inductive MarkupError where
  /-- It cannot be read. -/
  | read (error : ReadError)
  /-- A name or a number in it cannot be understood. -/
  | build (error : BuildError Place)
  /-- A node has no meaning where it stands. -/
  | reduce (error : ReduceError)
deriving DecidableEq, Repr

namespace MarkupError

/-- How the kind of error is named. -/
def kind : MarkupError → String
  | read _ => "ParseError"
  | build _ => "AstError"
  | reduce e => e.kind

/-- The error in words. -/
def message : MarkupError → String
  | read e => e.message
  | build e => (e.map Place.known).message
  | reduce e => e.message

/-- The error in words, with all that is known of it. -/
def report : MarkupError → String
  | read e => e.report
  | e => "Error: " ++ e.kind ++ ": " ++ e.message

/-- Is the error a finding about this markup, to be noted in a check?  A number that
is too long to be understood is none: it ends the whole check. -/
def isFinding : MarkupError → Bool
  | read _ => true
  | build (.unreadableNumber _) | build (.unknownFunction _) => false
  | build _ => true
  | reduce (.notAPart _) => false
  | reduce _ => true

end MarkupError

namespace Markup

/-- The nodes of a message. -/
def nodes (markup : String) : Except MarkupError (List Node) := do
  let message ← (Concrete.parseLocated markup.toList).mapError .read
  (Concrete.buildList message).mapError .build

/-- The reduction of a message. -/
def reduce (markup : String) : Except MarkupError Reduction := do
  let message ← nodes markup
  (Node.reduceMessage message).mapError .reduce

/-- Reducing is building and then reducing the nodes. -/
theorem reduce_eq_bind (markup : String) :
    reduce markup = nodes markup >>= fun message =>
      (Node.reduceMessage message).mapError .reduce := rfl

end Markup

end LogMarkup
