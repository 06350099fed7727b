import LogMarkup.Meaning
import LogMarkup.Text.Quoted

/-!
# How meanings are shown

A meaning is shown as the markup that it is, if there is such markup.  A name that stands
alone is shown in full, and one side of a branch as the tuple of its parts, in which
every part is described down to its fields.

Main results:

- `Meaning.display_ofNode`: what a node means is shown as the markup of the node.
-/

namespace LogMarkup

namespace Meaning

/-! ## Descriptions -/

/-- How a tuple is written of which these are the items. -/
def tupleText : List (List Char) → List Char
  | [] => ['(', ')']
  | [item] => '(' :: (item ++ [',', ')'])
  | items => '(' :: ((", ".toList).intercalate items ++ [')'])

/-- How a record is written that has these fields. -/
def recordText (kind : String) (fields : List (String × List Char)) : List Char :=
  kind.toList ++ '(' ::
    ((", ".toList).intercalate (fields.map fun f => f.1.toList ++ '=' :: f.2) ++ [')'])

/-- How a name is described: in full, with its spelling. -/
def describeName (n : Name) : List Char :=
  '<' :: (n.full.toList ++ ':' :: ' ' :: (Quoted.ofChars n.chars ++ ['>']))

mutual

/-- The description of a meaning. -/
def describe : Meaning → List Char
  | name n => describeName n
  | word k cs =>
      "Token".toList ++ tupleText [Quoted.ofChars k.label.toList, Quoted.ofChars cs]
  | number i => Node.numeral i
  | text s => Quoted.ofChars s
  | call n ps => recordText "Function" [("name", n.describe), ("params", describeParts ps)]
  | tag n ps => recordText "Tag" [("name", n.describe), ("params", describeParts ps)]
  | element t => recordText "TagElement" [("tag", t.describe), ("text", "None".toList)]
  | pair t m => recordText "TagElement" [("tag", t.describe), ("text", m.describe)]
  | branch c yes no =>
      recordText "IfElse"
        [("if_cond", c.describe), ("if_then", yes.describe), ("else_then", no.describe)]
  | side ps => describeParts ps
  | message ps => recordText "Message" [("parts", describeParts ps)]

/-- The description of a tuple of parts. -/
def describeParts (ps : List Meaning) : List Char := tupleText (descriptions ps)

/-- The descriptions of meanings, one by one. -/
def descriptions : List Meaning → List (List Char)
  | [] => []
  | m :: ms => m.describe :: descriptions ms

end

/-! ## Display -/

/-- How a name is shown: an object as it is spelled, any other name in full. -/
def displayName : Name → List Char
  | .object o => o.chars
  | n => n.full.toList

mutual

/-- How a meaning is shown. -/
def display : Meaning → Except Misuse (List Char)
  | name n => .ok (displayName n)
  | word _ cs => .ok cs
  | number i => .ok (Node.numeral i)
  | text s => .ok s
  | call n ps => do
      let spelled ← n.spelling
      let params ← displayParams ps
      return spelled ++ params
  | tag n ps => do
      let spelled ← n.spelling
      let params ← displayParams ps
      return '<' :: (spelled ++ (params ++ ['/', '>']))
  | element t => t.display
  | pair t m => do
      let spelled ← (← t.title).spelling
      let params ← displayParamsOf t
      let inner ← m.display
      return '<' :: (spelled ++ (params ++ ('>' :: (inner ++
        ('<' :: '/' :: (spelled ++ ['>']))))))
  | branch c yes no => do
      let yes ← yes.displayParts
      let no ← no.displayParts
      let condition ← c.display
      return ['<', 'I', 'f', '('] ++ (condition ++ ([')', '>'] ++ (yes ++
        (['<', 'E', 'l', 's', 'e', '/', '>'] ++ (no ++ ['<', '/', 'I', 'f', '>'])))))
  | side ps => .ok (describeParts ps)
  | message ps => displayList ps

/-- How the parameters of a call or tag are shown. -/
def displayParamsOf : Meaning → Except Misuse (List Char)
  | call _ ps | tag _ ps => displayParams ps
  | _ => .error .nameless

/-- How the parts are shown of which a meaning consists; of a text, that is its
characters. -/
def displayParts : Meaning → Except Misuse (List Char)
  | side ps | message ps => displayList ps
  | word _ cs | text cs => .ok cs
  | _ => .error .indivisible

/-- How meanings are shown side by side. -/
def displayList : List Meaning → Except Misuse (List Char)
  | [] => .ok []
  | m :: ms => do
      let shown ← m.display
      let rest ← displayList ms
      return shown ++ rest

/-- How parameters are shown with their parentheses; without any, nothing. -/
def displayParams : List Meaning → Except Misuse (List Char)
  | [] => .ok []
  | p :: ps => do
      let shown ← p.display
      let rest ← displayMore ps
      return '(' :: (shown ++ rest)

/-- How the parameters behind another one are shown. -/
def displayMore : List Meaning → Except Misuse (List Char)
  | [] => .ok [')']
  | p :: ps => do
      let shown ← p.display
      let rest ← displayMore ps
      return ',' :: (shown ++ rest)

end

mutual

/-- What a node means is shown as the markup of the node. -/
theorem display_ofNode : ∀ n : Node, (ofNode n).display = .ok n.render
  | .text _ => by simp [ofNode, display, Node.render]
  | .object _ => by simp [ofNode, display, Node.render, displayName]
  | .number _ => by simp [ofNode, display, Node.render]
  | .call f ps => by
      simp [ofNode, display, Node.render, displayParams_ofNodes ps, Name.chars, bind,
        Except.bind, pure, Except.pure]
  | .tag t ps | .element t ps none => by
      simp [ofNode, display, Node.render, displayParams_ofNodes ps, Name.chars, bind,
        Except.bind, pure, Except.pure]
  | .element t ps (some s) => by
      simp [ofNode, display, Node.render, displayParamsOf, displayParams_ofNodes ps, Name.chars,
        bind, Except.bind, pure, Except.pure]
  | .branch c yes no => by
      simp [ofNode, display, displayParts, Node.render, display_ofNode c,
        displayList_ofNodes yes, displayList_ofNodes no, bind, Except.bind, pure, Except.pure]

/-- What several nodes mean is shown as the markup of the nodes. -/
theorem displayList_ofNodes : ∀ ns : List Node,
    displayList (ofNodes ns) = .ok (Node.renderList ns)
  | [] => by simp [ofNodes, displayList, Node.renderList]
  | n :: ns => by
      simp [ofNodes, displayList, Node.renderList, display_ofNode n, displayList_ofNodes ns,
        bind, Except.bind, pure, Except.pure]

/-- Parameters are shown as their markup. -/
theorem displayParams_ofNodes : ∀ ns : List Node,
    displayParams (ofNodes ns) = .ok (Node.renderParams ns)
  | [] => by simp [ofNodes, displayParams, Node.renderParams]
  | n :: ns => by
      simp [ofNodes, displayParams, Node.renderParams, display_ofNode n,
        displayMore_ofNodes ns, bind, Except.bind, pure, Except.pure]

/-- Further parameters are shown as their markup. -/
theorem displayMore_ofNodes : ∀ ns : List Node,
    displayMore (ofNodes ns) = .ok (Node.renderMore ns)
  | [] => by simp [ofNodes, displayMore, Node.renderMore]
  | n :: ns => by
      simp [ofNodes, displayMore, Node.renderMore, display_ofNode n, displayMore_ofNodes ns,
        bind, Except.bind, pure, Except.pure]

end

end Meaning

end LogMarkup
