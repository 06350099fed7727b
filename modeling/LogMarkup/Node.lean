import LogMarkup.Name

/-!
# Message nodes

A node is a part of a message whose names and numbers are understood.  Nodes are
plain values: two nodes are the same when they render to the same call shape, which is
how conditions and name slots are looked up.

Main results:

- `Node.beq_iff`: the equality test decides equality of nodes.
- `Node.renderList_append`: a message renders piece by piece.
-/

namespace LogMarkup

/-- A node of a message. -/
inductive Node where
  /-- Literal text. -/
  | text (value : String)
  /-- A function call. -/
  | call (name : FunctionName) (params : List Node)
  /-- A tag as the condition of a branch. -/
  | tag (name : TagName) (params : List Node)
  /-- A tag as a part or a parameter, with its inline text if it came as a pair with
  text between. -/
  | element (name : TagName) (params : List Node) (inner : Option String)
  /-- A branch. -/
  | branch (condition : Node) (yes no : List Node)
  /-- An object, as a parameter. -/
  | object (name : ObjectName)
  /-- A number, as a parameter. -/
  | number (value : Int)
deriving Repr

namespace Node

/-! ## Equality -/

mutual

/-- Are two nodes the same? -/
def beq : Node → Node → Bool
  | text s, text s' => s == s'
  | call f ps, call f' ps' => f == f' && beqList ps ps'
  | tag t ps, tag t' ps' => t == t' && beqList ps ps'
  | element t ps inner, element t' ps' inner' => t == t' && beqList ps ps' && inner == inner'
  | branch c yes no, branch c' yes' no' => beq c c' && beqList yes yes' && beqList no no'
  | object o, object o' => o == o'
  | number i, number i' => i == i'
  | _, _ => false

/-- Are two lists of nodes the same? -/
def beqList : List Node → List Node → Bool
  | [], [] => true
  | n :: ns, n' :: ns' => beq n n' && beqList ns ns'
  | _, _ => false

end

mutual

/-- The equality test decides equality of nodes. -/
theorem beq_iff : ∀ n n' : Node, beq n n' = true ↔ n = n'
  | text _, n' | object _, n' | number _, n' => by cases n' <;> simp [beq]
  | call _ ps, n' => by
      cases n' <;> simp [beq]
      rw [beqList_iff ps]
      simp
  | tag _ ps, n' => by
      cases n' <;> simp [beq]
      rw [beqList_iff ps]
      simp
  | element _ ps _, n' => by
      cases n' <;> simp [beq]
      rw [beqList_iff ps]
      simp [and_assoc]
  | branch c yes no, n' => by
      cases n' <;> simp [beq]
      rw [beq_iff c, beqList_iff yes, beqList_iff no]
      simp [and_assoc]

/-- The equality test decides equality of lists of nodes. -/
theorem beqList_iff : ∀ ns ns' : List Node, beqList ns ns' = true ↔ ns = ns'
  | [], ns' => by cases ns' <;> simp [beqList]
  | n :: ns, ns' => by
      cases ns' <;> simp [beqList]
      rw [beq_iff n, beqList_iff ns]

end

instance : DecidableEq Node := fun n n' => decidable_of_iff _ (beq_iff n n')

/-! ## Rendering -/

/-- How an integer is written: its decimal digits, behind a minus sign if it is
negative. -/
def numeral : Int → List Char
  | .ofNat n => Nat.toDigits 10 n
  | .negSucc n => '-' :: Nat.toDigits 10 (n + 1)

mutual

/-- The markup of a node. -/
def render : Node → List Char
  | text s => s.toList
  | call f ps => f.chars ++ renderParams ps
  | tag t ps => '<' :: (t.chars ++ (renderParams ps ++ ['/', '>']))
  | element t ps none => '<' :: (t.chars ++ (renderParams ps ++ ['/', '>']))
  | element t ps (some s) =>
      '<' :: (t.chars ++ (renderParams ps ++ ('>' :: (s.toList ++
        ('<' :: '/' :: (t.chars ++ ['>']))))))
  | branch c yes no =>
      ['<', 'I', 'f', '('] ++ (c.render ++ ([')', '>'] ++ (renderList yes ++
        (['<', 'E', 'l', 's', 'e', '/', '>'] ++ (renderList no ++ ['<', '/', 'I', 'f', '>'])))))
  | object o => o.chars
  | number i => numeral i

/-- The markup of parameters with their parentheses; without any, nothing. -/
def renderParams : List Node → List Char
  | [] => []
  | p :: ps => '(' :: (p.render ++ renderMore ps)

/-- The markup of the parameters behind another one. -/
def renderMore : List Node → List Char
  | [] => [')']
  | p :: ps => ',' :: (p.render ++ renderMore ps)

/-- The markup of a message. -/
def renderList : List Node → List Char
  | [] => []
  | n :: ns => n.render ++ renderList ns

end

/-- A message renders piece by piece. -/
theorem renderList_append (ns ns' : List Node) :
    renderList (ns ++ ns') = renderList ns ++ renderList ns' := by
  induction ns with
  | nil => rfl
  | cons n ns ih => simp [renderList, ih]

/-- The parameters with commas between them, as an error shows them. -/
def renderSeparated : List Node → List Char
  | [] => []
  | [p] => p.render
  | p :: ps => p.render ++ ',' :: renderSeparated ps

/-- The markup of a node as a string. -/
def toMarkup (n : Node) : String := String.ofList n.render

/-- The markup of a message as a string. -/
def listToMarkup (ns : List Node) : String := String.ofList (renderList ns)

end Node

end LogMarkup
