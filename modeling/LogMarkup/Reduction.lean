import LogMarkup.Condition

/-!
# Reductions

A message is reduced once and then evaluated for any participants.  Its reduction is
the flat list of its texts in the order of the message, each guarded by the conditions
of the branches around it.  Reduction fails at the first node that has no meaning where
it stands.

Main results:

- `Node.reduceList_nil`, `Node.reduceList_cons`: a sequence reduces part by part.
-/

namespace LogMarkup

/-- What a text of a reduction shows. -/
inductive Text where
  /-- Always the same string. -/
  | static (value : String)
  /-- The name of a participant. -/
  | slot (slot : Slot)
deriving DecidableEq, Repr

/-- A condition, and the answer that leads into the branch. -/
structure Guard where
  /-- The condition of the branch. -/
  condition : Condition
  /-- The side of the branch. -/
  expected : Bool
deriving DecidableEq, Repr

/-- A text and the conditions under which the message shows it. -/
structure Item where
  /-- The conditions of the branches around the text, outermost first. -/
  guards : List Guard
  /-- The text itself. -/
  text : Text
deriving DecidableEq, Repr

/-- The flat form of a message: its texts with their guards, in the order of the
message. -/
abbrev Reduction := List Item

/-- Why a message has no reduction. -/
inductive ReduceError where
  /-- The condition of a branch asks nothing. -/
  | unknownCondition (node : Node)
  /-- A tag or a call mentions no slot. -/
  | unknownSlot (node : Node)
  /-- A call that only answers conditions stands where text is shown. -/
  | danglingFunction (node : Node)
  /-- A lookup tag comes as a pair with text between. -/
  | invalidTag (name : TagName) (params : List Node) (text : String)
  /-- A wrapper tag holds neither exactly one part nor just a text. -/
  | unexpectedClickable (params : List Node)
  /-- A number stands where text is shown. -/
  | unexpectedNumber (value : Int)
  /-- An object stands where text is shown. -/
  | unexpectedObject (name : ObjectName)
  /-- A tag that can only be a condition stands where text is shown. -/
  | notAPart (node : Node)
deriving DecidableEq, Repr

namespace ReduceError

/-- How the kind of error is named. -/
def kind : ReduceError → String
  | unknownCondition _ => "ConditionError"
  | unknownSlot _ => "DynamicTextError"
  | danglingFunction _ => "DanglingFunction"
  | invalidTag .. => "InvalidTag"
  | unexpectedClickable _ => "UnexpectedClickable"
  | unexpectedNumber _ => "UnexpectedNum"
  | unexpectedObject _ => "UnexpectedObj"
  | notAPart _ => "PartError"

/-- The error in one line. -/
def message : ReduceError → String
  | unknownCondition n => "Unknown condition (" ++ n.toMarkup ++ ")"
  | unknownSlot n => "Unknown dynamic text (" ++ n.toMarkup ++ ")"
  | danglingFunction n => "Function used in unexpected place (" ++ n.toMarkup ++ ")"
  | invalidTag t _ _ =>
      "Tag used with inline text where only auto-closing is valid (" ++ t.text ++ ")"
  | unexpectedClickable ps =>
      "Clickable contained unexpected params (" ++ String.ofList (Node.renderSeparated ps) ++ ")"
  | unexpectedNumber i => "Unexpected num parameter (" ++ String.ofList (Node.numeral i) ++ ")"
  | unexpectedObject o => "Unexpected obj parameter (" ++ o.text ++ ")"
  | notAPart n => "Not a message node: " ++ n.toMarkup

end ReduceError

/-- The condition that a node asks, or the error that it asks none. -/
def Condition.resolve (n : Node) : Except ReduceError Condition :=
  match Condition.ofNode? n with
  | some c => .ok c
  | none => .error (.unknownCondition n)

/-- The slot that a node mentions, or the error that it mentions none. -/
def Slot.resolve (n : Node) : Except ReduceError Slot :=
  match Slot.ofNode? n with
  | some s => .ok s
  | none => .error (.unknownSlot n)

namespace Node

mutual

/-- The texts of a node that is reached under the given guards. -/
def reduce (guards : List Guard) : Node → Except ReduceError (List Item)
  | text s => .ok [⟨guards, .static s⟩]
  | branch c yes no => do
      let condition ← Condition.resolve c
      let items ← reduceList (guards ++ [⟨condition, true⟩]) yes
      let others ← reduceList (guards ++ [⟨condition, false⟩]) no
      return items ++ others
  | element .clickable [] (some s) => .ok [⟨guards, .static s⟩]
  | element .clickable [p] none => reduce guards p
  | element .clickable ps _ => .error (.unexpectedClickable ps)
  | element t ps (some s) => .error (.invalidTag t ps s)
  | element t ps none => do
      let slot ← Slot.resolve (.tag t ps)
      return [⟨guards, .slot slot⟩]
  | call .objectParameter ps => do
      let slot ← Slot.resolve (.call .objectParameter ps)
      return [⟨guards, .slot slot⟩]
  | call f ps => .error (.danglingFunction (.call f ps))
  | object o => .error (.unexpectedObject o)
  | number i => .error (.unexpectedNumber i)
  | tag t ps => .error (.notAPart (.tag t ps))

/-- The texts of a sequence of nodes that is reached under the given guards. -/
def reduceList (guards : List Guard) : List Node → Except ReduceError (List Item)
  | [] => .ok []
  | n :: ns => do
      let items ← reduce guards n
      let others ← reduceList guards ns
      return items ++ others

end

/-- A branch shows the texts of both sides, each side under the condition. -/
theorem reduce_branch (guards : List Guard) (c : Node) (yes no : List Node) :
    reduce guards (branch c yes no) = (do
      let condition ← Condition.resolve c
      let items ← reduceList (guards ++ [⟨condition, true⟩]) yes
      let others ← reduceList (guards ++ [⟨condition, false⟩]) no
      return items ++ others) := rfl

/-- An empty sequence has no texts. -/
@[simp] theorem reduceList_nil (guards : List Guard) : reduceList guards [] = .ok [] := rfl

/-- A sequence shows the texts of its first node and then those of the others. -/
theorem reduceList_cons (guards : List Guard) (n : Node) (ns : List Node) :
    reduceList guards (n :: ns) = (do
      let items ← reduce guards n
      let others ← reduceList guards ns
      return items ++ others) := rfl

/-- The reduction of a message. -/
def reduceMessage (message : List Node) : Except ReduceError Reduction :=
  reduceList [] message

end Node

end LogMarkup
