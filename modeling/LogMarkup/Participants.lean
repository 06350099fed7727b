import LogMarkup.Character
import LogMarkup.Condition

/-!
# Participants

The participants of a message are its origin and, if there is one, its target.  They
answer every condition and name every slot.  At most one character can be the reader's
own, so a target that is flagged as such beside a flagged origin has to be the same
character.

Main results:

- `Participants.of?_isSome_iff`: which characters can take part together.
- `Participants.answers_holds_of_target_none`: nothing holds of a missing target.
-/

namespace LogMarkup

/-- What is known when a message is shown: an answer to each condition and a name for
each slot. -/
structure Answers where
  /-- Does the condition hold? -/
  holds : Condition → Bool
  /-- What does the slot show? -/
  name : Slot → String

/-- Can the two characters take part in one message?  Two different ones cannot both be
the reader's own. -/
def Character.agreesWith (origin target : Character) : Bool :=
  !(origin.isSelf && target.isSelf) || origin == target

theorem Character.agreesWith_iff {origin target : Character} :
    origin.agreesWith target = true ↔
      (origin.isSelf = true → target.isSelf = true → origin = target) := by
  simp only [agreesWith]
  cases origin.isSelf <;> cases target.isSelf <;> simp

/-- The participants of a message. -/
structure Participants where
  /-- Who acts. -/
  origin : Character
  /-- At whom the action is aimed. -/
  target : Option Character
  /-- At most one of them is the reader's own character. -/
  agree : ∀ t ∈ target, origin.agreesWith t = true

namespace Participants

/-- The participants, if the two characters can take part together. -/
def of? (origin : Character) (target : Option Character) : Option Participants :=
  if h : ∀ t ∈ target, origin.agreesWith t = true then some ⟨origin, target, h⟩ else none

/-- What is said when two characters cannot take part together. -/
def refusal : String := "Only one character can be self"

/-- Characters can take part together exactly when there is no target, or one of the
two is not the reader's own, or both are the same. -/
theorem of?_isSome_iff {origin : Character} {target : Option Character} :
    (of? origin target).isSome ↔
      ∀ t ∈ target, origin.isSelf = true → t.isSelf = true → origin = t := by
  simp only [of?]
  constructor
  · intro h t ht
    split at h
    next hall => exact Character.agreesWith_iff.mp (hall t ht)
    next => contradiction
  · intro h
    rw [dif_pos fun t ht => Character.agreesWith_iff.mpr (h t ht)]
    rfl

/-- The participants that are formed of two characters are those two. -/
theorem of?_eq_some {origin : Character} {target : Option Character} {p : Participants}
    (h : of? origin target = some p) : p.origin = origin ∧ p.target = target := by
  simp only [of?] at h
  split at h
  next =>
    cases h
    exact ⟨rfl, rfl⟩
  next => contradiction

/-- Does the condition hold for these participants?  Of a missing target nothing
holds. -/
def holds (p : Participants) : Condition → Bool
  | .selfOrigin => p.origin.isSelf
  | .selfTarget => p.target.any Character.isSelf
  | .originFemale | .originFemaleDefault => p.origin.gender == .female
  | .originPlayer => p.origin.isPlayer
  | .targetPlayer => p.target.any Character.isPlayer

/-- Whom the slot shows; nobody, if it shows the target and there is none. -/
def shown? (p : Participants) (s : Slot) : Option Character :=
  if s.isTarget then p.target else some p.origin

/-- The name that the slot shows, the same in every language. -/
def name (p : Participants) (s : Slot) : String :=
  match p.shown? s with
  | some c => c.name
  | none => ""

/-- What the participants answer. -/
def answers (p : Participants) : Answers := ⟨p.holds, p.name⟩

/-- Of a missing target nothing holds. -/
theorem answers_holds_of_target_none {p : Participants} (h : p.target = none) :
    p.answers.holds .selfTarget = false ∧ p.answers.holds .targetPlayer = false := by
  simp [answers, holds, h]

/-- A slot of a missing target shows nothing. -/
theorem name_of_target_none {p : Participants} {s : Slot} (h : p.target = none)
    (hs : s.isTarget = true) : p.name s = "" := by
  simp [name, shown?, hs, h]

end Participants

end LogMarkup
