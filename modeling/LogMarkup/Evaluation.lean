import LogMarkup.Participants
import LogMarkup.Reduction

/-!
# Evaluation of reductions

A reduction is evaluated for given answers by keeping the texts whose guards all hold
and joining them.  A kept text that names a target where there is none shows nothing,
and a warning says so.

Main results:

- `Reduction.kept_append`, `Reduction.evaluate_append`: reductions evaluate piece by
  piece.
- `Participants.warnings_of_target`: with a target there are no warnings.
-/

namespace LogMarkup

/-- Is the condition answered as the guard expects? -/
def Guard.holds (a : Answers) (g : Guard) : Bool := a.holds g.condition == g.expected

/-- Do all guards of the text hold? -/
def Item.holds (a : Answers) (i : Item) : Bool := i.guards.all (Guard.holds a)

/-- What the text shows. -/
def Text.shown (a : Answers) : Text → String
  | static s => s
  | slot s => a.name s

namespace Reduction

/-- The texts that are shown, in the order of the message. -/
def kept (r : Reduction) (a : Answers) : List Text :=
  (r.filter (Item.holds a)).map Item.text

/-- The message as it is shown. -/
def evaluate (r : Reduction) (a : Answers) : String :=
  String.join ((kept r a).map (Text.shown a))

/-- Two pieces keep what each of them keeps. -/
theorem kept_append (r r' : Reduction) (a : Answers) :
    kept (r ++ r') a = kept r a ++ kept r' a := by
  simp [kept]

/-- Two pieces show what each of them shows, one after the other. -/
theorem evaluate_append (r r' : Reduction) (a : Answers) :
    evaluate (r ++ r') a = evaluate r a ++ evaluate r' a := by
  have hjoin : ∀ xs ys : List String,
      String.join (xs ++ ys) = String.join xs ++ String.join ys := by
    intro xs ys
    induction xs with
    | nil => simp
    | cons x xs ih => simp [ih, String.append_assoc]
  simp [evaluate, kept_append, hjoin]

end Reduction

/-- The warning that a slot shows nothing. -/
def Slot.warning (s : Slot) : String :=
  "Message asked for " ++ s.name ++ " but has no target"

/-- The warnings that asking for the names of slots gives: one for each slot that
shows nobody. -/
def Participants.warnings (p : Participants) (slots : List Slot) : List String :=
  (slots.filter fun s => (p.shown? s).isNone).map Slot.warning

/-- With a target nothing is missing. -/
theorem Participants.warnings_of_target {p : Participants} (h : p.target.isSome)
    (slots : List Slot) : p.warnings slots = [] := by
  have hshown : ∀ s : Slot, (p.shown? s).isNone = false := by
    intro s
    simp only [shown?]
    split
    · simpa using h
    · rfl
  simp [warnings, hshown]

/-- The slot that a text shows, if it shows one. -/
def Text.slot? : Text → Option Slot
  | static _ => none
  | slot s => some s

namespace Reduction

/-- The warnings that showing the message gives. -/
def warnings (r : Reduction) (p : Participants) : List String :=
  p.warnings ((kept r p.answers).filterMap Text.slot?)

end Reduction

end LogMarkup
