import LogMarkup.Node

/-!
# Conditions and name slots

Markup asks about the participants of a message and mentions them through calls and
tags of fixed shapes.  Each known shape stands for one condition or for one slot that
is filled with a name.  The two tables are closed: a call of any other shape means
nothing.

Main results:

- `Condition.ofNode?_eq_some_iff`, `Slot.ofNode?_eq_some_iff`: a node means a condition
  or a slot exactly when it has its shape.
- `Condition.ofNode?_eq_none_iff`, `Slot.ofNode?_eq_none_iff`: a node of no shape means
  nothing.
-/

namespace LogMarkup

/-- A mention of a participant by its place in the message. -/
def Node.participant (i : Int) : Node := .call .objectParameter [.number i]

/-- A fact about a participant. -/
def Node.fact (i : Int) : Node := .call .playerParameter [.number i]

/-- What a branch can ask about the participants. -/
inductive Condition where
  /-- The origin is the reader's own character. -/
  | selfOrigin
  /-- The target is the reader's own character. -/
  | selfTarget
  /-- The origin is female. -/
  | originFemale
  /-- The origin is female, as asked of other characters than players. -/
  | originFemaleDefault
  /-- The origin is a player. -/
  | originPlayer
  /-- The target is a player. -/
  | targetPlayer
deriving DecidableEq, Repr

namespace Condition

/-- Every condition. -/
def all : List Condition :=
  [selfOrigin, selfTarget, originFemale, originFemaleDefault, originPlayer, targetPlayer]

/-- Every condition is listed. -/
theorem mem_all (c : Condition) : c ∈ all := by
  cases c <;> decide

/-- How a condition is named. -/
def name : Condition → String
  | selfOrigin => "is_self_origin"
  | selfTarget => "is_self_target"
  | originFemale => "is_origin_female"
  | originFemaleDefault => "is_origin_female_default"
  | originPlayer => "is_origin_player"
  | targetPlayer => "is_target_player"

/-- How markup asks a condition. -/
def shape : Condition → Node
  | selfOrigin => .call .equal [.participant 1, .participant 2]
  | selfTarget => .call .equal [.participant 1, .participant 3]
  | originFemale => .tag .sheet [.object .bnpcName, .fact 7, .number 6]
  | originFemaleDefault => .fact 5
  | originPlayer => .fact 7
  | targetPlayer => .fact 8

/-- Different conditions are asked differently. -/
theorem shape_injective {c d : Condition} (h : c.shape = d.shape) : c = d := by
  cases c <;> cases d <;> first | rfl | (revert h; decide)

/-- The condition that a node asks. -/
def ofNode? (n : Node) : Option Condition := all.find? (·.shape = n)

/-- A node asks a condition exactly when it has its shape. -/
theorem ofNode?_eq_some_iff {n : Node} {c : Condition} : ofNode? n = some c ↔ n = c.shape := by
  constructor
  · intro h
    have hshape : c.shape = n := by simpa using List.find?_some h
    exact hshape.symm
  · rintro rfl
    cases c <;> decide

/-- A node asks no condition when it has the shape of none. -/
theorem ofNode?_eq_none_iff {n : Node} : ofNode? n = none ↔ ∀ c : Condition, n ≠ c.shape := by
  simp only [Option.eq_none_iff_forall_ne_some, ne_eq, ofNode?_eq_some_iff]

end Condition

/-- Where a message shows the name of a participant. -/
inductive Slot where
  /-- The origin, when it is no player. -/
  | npcOrigin
  /-- The target, when it is no player. -/
  | npcTarget
  /-- The origin, when it is a player, in English. -/
  | playerOriginEn
  /-- The target, when it is a player, in English. -/
  | playerTargetEn
  /-- The origin, when it is a player, in Japanese. -/
  | playerOriginJp
  /-- The target, when it is a player, in Japanese. -/
  | playerTargetJp
deriving DecidableEq, Repr

namespace Slot

/-- Every slot. -/
def all : List Slot :=
  [npcOrigin, npcTarget, playerOriginEn, playerTargetEn, playerOriginJp, playerTargetJp]

/-- Every slot is listed. -/
theorem mem_all (s : Slot) : s ∈ all := by
  cases s <;> decide

/-- How a slot is named. -/
def name : Slot → String
  | npcOrigin => "npc_origin_name"
  | npcTarget => "npc_target_name"
  | playerOriginEn => "player_origin_name_en"
  | playerTargetEn => "player_target_name_en"
  | playerOriginJp => "player_origin_name_jp"
  | playerTargetJp => "player_target_name_jp"

/-- Does the slot show the target, and not the origin? -/
def isTarget : Slot → Bool
  | npcTarget | playerTargetEn | playerTargetJp => true
  | npcOrigin | playerOriginEn | playerOriginJp => false

/-- How markup mentions a slot. -/
def shape : Slot → Node
  | npcOrigin => .participant 2
  | npcTarget => .participant 3
  | playerOriginEn =>
      .tag .sheetEn [.object .objStr, .number 2, .fact 7, .number 1, .number 1]
  | playerTargetEn =>
      .tag .sheetEn [.object .objStr, .number 2, .fact 8, .number 1, .number 1]
  | playerOriginJp => .tag .sheet [.object .objStr, .fact 7, .number 0]
  | playerTargetJp => .tag .sheet [.object .objStr, .fact 8, .number 0]

/-- Different slots are mentioned differently. -/
theorem shape_injective {s t : Slot} (h : s.shape = t.shape) : s = t := by
  cases s <;> cases t <;> first | rfl | (revert h; decide)

/-- The slot that a node mentions. -/
def ofNode? (n : Node) : Option Slot := all.find? (·.shape = n)

/-- A node mentions a slot exactly when it has its shape. -/
theorem ofNode?_eq_some_iff {n : Node} {s : Slot} : ofNode? n = some s ↔ n = s.shape := by
  constructor
  · intro h
    have hshape : s.shape = n := by simpa using List.find?_some h
    exact hshape.symm
  · rintro rfl
    cases s <;> decide

/-- A node mentions no slot when it has the shape of none. -/
theorem ofNode?_eq_none_iff {n : Node} : ofNode? n = none ↔ ∀ s : Slot, n ≠ s.shape := by
  simp only [Option.eq_none_iff_forall_ne_some, ne_eq, ofNode?_eq_some_iff]

end Slot

end LogMarkup
