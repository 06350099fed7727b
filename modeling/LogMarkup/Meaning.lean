import LogMarkup.Node
import LogMarkup.Terminal

/-!
# Meanings

A derivation tree is understood from the leaves up, and a tree that no markup has may put
anything where something else is expected: a number for the name of a call, a whole
message for one side of a branch.  Meanings are what trees mean, as far as they can be
understood; the nodes of messages are the ones in which everything is in its place.

Main results:

- `Meaning.spelling_name`, `Meaning.title_call`, `Meaning.title_tag`: what has a
  spelling, and what has a title.
- `Meaning.same_name`: two names are taken for the same if they are.
- `Meaning.ofNodes_append`: a message means what its parts mean, one by one.
-/

namespace LogMarkup

/-- What a tree means. -/
inductive Meaning where
  /-- A name. -/
  | name (name : Name)
  /-- A word that is not understood any further, read as the given terminal. -/
  | word (kind : Terminal) (chars : List Char)
  /-- A number. -/
  | number (value : Int)
  /-- Literal text. -/
  | text (value : List Char)
  /-- A call. -/
  | call (name : Meaning) (params : List Meaning)
  /-- A tag that is no part. -/
  | tag (name : Meaning) (params : List Meaning)
  /-- A tag as a part. -/
  | element (tag : Meaning)
  /-- A pair of tags as a part, with what stands between them. -/
  | pair (tag inner : Meaning)
  /-- A branch. -/
  | branch (condition yes no : Meaning)
  /-- One side of a branch. -/
  | side (parts : List Meaning)
  /-- A message. -/
  | message (parts : List Meaning)
deriving Repr

/-- Why a meaning is of no use where it stands. -/
inductive Misuse where
  /-- A name or a spelling is expected, and it has none. -/
  | nameless
  /-- Parts are expected, and it has none. -/
  | indivisible
deriving DecidableEq, Repr

namespace Meaning

/-! ## Names and spellings -/

/-- How the meaning is spelled, if it is a name or a word. -/
def spelling : Meaning → Except Misuse (List Char)
  | name n => .ok n.chars
  | word _ cs => .ok cs
  | _ => .error .nameless

/-- What the meaning is called: a call or tag by its name, and a name by its symbol. -/
def title : Meaning → Except Misuse Meaning
  | call n _ | tag n _ => .ok n
  | name n => .ok (text n.symbol.toList)
  | _ => .error .nameless

/-- A name is spelled as in markup. -/
@[simp] theorem spelling_name (n : Name) : (name n).spelling = .ok n.chars := rfl

/-- A call is called by its name. -/
@[simp] theorem title_call (n : Meaning) (ps : List Meaning) : (call n ps).title = .ok n := rfl

/-- A tag is called by its name. -/
@[simp] theorem title_tag (n : Meaning) (ps : List Meaning) : (tag n ps).title = .ok n := rfl

/-- What an element means that consists of this: a tag becomes a part. -/
def asElement : Meaning → Meaning
  | tag n ps => element (tag n ps)
  | m => m

/-! ## Comparison -/

mutual

/-- Are two meanings taken for the same?  A word is the same as the text that it spells,
but not as a word of another kind. -/
def same : Meaning → Meaning → Bool
  | name n, name n' => n == n'
  | word k cs, word k' cs' => k == k' && cs == cs'
  | word _ cs, text s | text s, word _ cs => cs == s
  | number i, number i' => i == i'
  | text s, text s' => s == s'
  | call n ps, call n' ps' | tag n ps, tag n' ps' => same n n' && sameList ps ps'
  | element t, element t' => same t t'
  | pair t m, pair t' m' => same t t' && same m m'
  | branch c yes no, branch c' yes' no' => same c c' && same yes yes' && same no no'
  | side ps, side ps' | message ps, message ps' => sameList ps ps'
  | _, _ => false

/-- Are two lists of meanings taken for the same? -/
def sameList : List Meaning → List Meaning → Bool
  | [], [] => true
  | m :: ms, m' :: ms' => same m m' && sameList ms ms'
  | _, _ => false

end

/-- Two names are taken for the same if they are. -/
@[simp] theorem same_name (n n' : Name) : same (name n) (name n') = decide (n = n') := by
  rw [same]
  rfl

/-! ## Nodes -/

mutual

/-- What a node means. -/
def ofNode : Node → Meaning
  | .text s => text s.toList
  | .call f ps => call (name (.function f)) (ofNodes ps)
  | .tag t ps => tag (name (.tag t)) (ofNodes ps)
  | .element t ps none => element (tag (name (.tag t)) (ofNodes ps))
  | .element t ps (some s) => pair (tag (name (.tag t)) (ofNodes ps)) (text s.toList)
  | .branch c yes no => branch (ofNode c) (side (ofNodes yes)) (side (ofNodes no))
  | .object o => name (.object o)
  | .number i => number i

/-- What several nodes mean, one by one. -/
def ofNodes : List Node → List Meaning
  | [] => []
  | n :: ns => ofNode n :: ofNodes ns

end

/-- A message means what its parts mean, one by one. -/
theorem ofNodes_append (ns ns' : List Node) : ofNodes (ns ++ ns') = ofNodes ns ++ ofNodes ns' := by
  induction ns with
  | nil => simp [ofNodes]
  | cons n ns ih => simp [ofNodes, ih]

end Meaning

end LogMarkup
