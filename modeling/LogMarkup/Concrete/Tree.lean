import LogMarkup.Concrete
import LogMarkup.Terminal

/-!
# Derivation trees

The derivation tree of a message shows which rule of the grammar each piece was read
by.  Inner nodes carry rules, leaves carry words; punctuation is left out, because the
rules determine it.

Main results:

- `Rule.ofName?_name`: a rule is found by its name.
- `Tree.leaves_content`: an element and what it consists of have the same words.
-/

namespace LogMarkup

/-- The rules of the markup grammar. -/
inductive Rule where
  /-- A message. -/
  | start
  /-- Literal text. -/
  | text
  /-- A tag, a pair of tags or a branch. -/
  | element
  /-- An opening tag, perhaps text, and a closing tag. -/
  | pairedTag
  /-- An opening tag. -/
  | openTag
  /-- A closing tag. -/
  | closeTag
  /-- A tag that needs no closing tag. -/
  | autoClosingTag
  /-- A call. -/
  | function
  /-- A number as a parameter. -/
  | number
  /-- An object as a parameter. -/
  | objectLiteral
  /-- A branch with its two sides. -/
  | ifElse
  /-- The condition of a branch. -/
  | ifParam
  /-- One side of a branch. -/
  | branch
deriving DecidableEq, Repr

namespace Rule

/-- Every rule. -/
def all : List Rule :=
  [start, text, element, pairedTag, openTag, closeTag, autoClosingTag, function, number,
    objectLiteral, ifElse, ifParam, branch]

/-- How a rule is named. -/
def name : Rule → String
  | start => "start"
  | text => "text"
  | element => "element"
  | pairedTag => "paired_tag"
  | openTag => "open_tag"
  | closeTag => "close_tag"
  | autoClosingTag => "auto_closing_tag"
  | function => "function"
  | number => "number"
  | objectLiteral => "object_literal"
  | ifElse => "if_else"
  | ifParam => "if_param"
  | branch => "branch"

/-- The rule of a given name. -/
def ofName? (s : String) : Option Rule := all.find? (·.name = s)

/-- A rule is found by its name. -/
theorem ofName?_name (r : Rule) : ofName? r.name = some r := by
  cases r <;> decide

end Rule

/-- A derivation tree. -/
inductive Tree (α : Type) where
  /-- A word, read as the given terminal. -/
  | leaf (kind : Terminal) (token : Token α)
  /-- What a rule was applied to. -/
  | node (rule : Rule) (children : List (Tree α))
deriving Repr

namespace Tree

variable {α : Type}

mutual

/-- The words of a tree with their terminals, from left to right. -/
def leaves : Tree α → List (Terminal × Token α)
  | leaf kind token => [(kind, token)]
  | node _ children => leavesList children

/-- The words of several trees, from left to right. -/
def leavesList : List (Tree α) → List (Terminal × Token α)
  | [] => []
  | t :: ts => t.leaves ++ leavesList ts

end

/-- What an element consists of. -/
def content : Tree α → Tree α
  | node .element [t] => t
  | t => t

/-- An element and what it consists of have the same words. -/
theorem leaves_content (t : Tree α) : t.content.leaves = t.leaves := by
  unfold content
  split
  · simp [leaves, leavesList]
  · rfl

end Tree

namespace Concrete

variable {α : Type}

/-- The tree of the text between two tags. -/
def innerTrees : Option (Token α) → List (Tree α)
  | none => []
  | some w => [.node .text [.leaf .text w]]

mutual

/-- The derivation tree of a part or parameter. -/
def tree : Concrete α → Tree α
  | text w => .node .text [.leaf .text w]
  | call n ps => .node .function (.leaf .functionName n :: trees ps)
  | single n ps => .node .element [.node .autoClosingTag (.leaf .tagName n :: trees ps)]
  | pair _ n ps inner close =>
      .node .element [.node .pairedTag (.node .openTag (.leaf .tagName n :: trees ps) ::
        (innerTrees inner ++ [.node .closeTag [.leaf .tagName close]]))]
  | branch c yes no =>
      .node .element [.node .ifElse [.node .ifParam [c.tree.content], .node .branch (trees yes),
        .node .branch (trees no)]]
  | object n => .node .objectLiteral [.leaf .objectName n]
  | number d => .node .number [.leaf .number d]

/-- The derivation trees of a sequence of parts or parameters. -/
def trees : List (Concrete α) → List (Tree α)
  | [] => []
  | x :: xs => x.tree :: trees xs

end

/-- The derivation tree of a message. -/
def messageTree (message : List (Concrete α)) : Tree α := .node .start (trees message)

mutual

/-- The part with the mark of every pair set to `mark`. -/
def setPairMarks (mark : α) : Concrete α → Concrete α
  | text w => text w
  | call n ps => call n (setPairMarksList mark ps)
  | single n ps => single n (setPairMarksList mark ps)
  | pair _ n ps inner close => pair mark n (setPairMarksList mark ps) inner close
  | branch c yes no =>
      branch (c.setPairMarks mark) (setPairMarksList mark yes) (setPairMarksList mark no)
  | object n => object n
  | number d => number d

/-- The parts with the mark of every pair set to `mark`. -/
def setPairMarksList (mark : α) : List (Concrete α) → List (Concrete α)
  | [] => []
  | x :: xs => x.setPairMarks mark :: setPairMarksList mark xs

end

end Concrete

end LogMarkup
