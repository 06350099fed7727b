import LogMarkup.Concrete.Tree
import LogMarkup.Meaning.Display
import LogMarkup.Node.Build

/-!
# What derivation trees mean

Each word of a derivation tree has a meaning, and each rule makes one meaning out of
those of its children.  A rule only cares for as many children, and for as much of them,
as it needs; so trees that no markup has can be understood too.

Main results:

- `Tree.meaning_tree`: the tree of a part means the node that is built from the part.
- `Tree.message_messageTree`: the tree of a message means the nodes that are built from
  the message.
-/

namespace LogMarkup

/-- Why a tree has no meaning.  A mark tells what is known of the offending place. -/
inductive TreeError (α : Type) where
  /-- A word cannot be understood, or two names differ. -/
  | build (error : BuildError α)
  /-- A rule that needs a child has none. -/
  | childless (rule : Rule)
  /-- So many children do not fit their rule. -/
  | unfitting (rule : Rule) (children : Nat)
  /-- A child is of no use to its rule. -/
  | misuse (rule : Rule) (misuse : Misuse)
  /-- The tree is not that of a message. -/
  | noMessage
deriving DecidableEq, Repr

namespace Rule

open Meaning

variable {α : Type}

/-- The meaning that is made of a child, if it is of use. -/
def use {β : Type} (r : Rule) (m : Except Misuse β) : Except (TreeError α) β :=
  m.mapError (.misuse r)

/-- What a pair of tags means that begins and ends with these.  The opening tag has to be
called by what closes the pair. -/
def applyPair (mark : α) (opened : Meaning) (inner? : Option Meaning) (closed : Meaning) :
    Except (TreeError α) Meaning := do
  let title ← pairedTag.use opened.title
  if title.same closed then
    return (inner?.map (pair opened)).getD (.element opened)
  let openedName ← pairedTag.use title.spelling
  let closedName ← pairedTag.use closed.spelling
  throw (.build (.mismatch openedName closedName mark))

/-- What a rule makes of the meanings of its children, where a pair of tags is marked
`mark`.  Between two tags only a single thing is kept. -/
def apply (mark : α) (r : Rule) (ms : List Meaning) : Except (TreeError α) Meaning :=
  match r, ms with
  | start, ms => .ok (message ms)
  | branch, ms => .ok (side ms)
  | text, m :: _ => (r.use m.display).map Meaning.text
  | closeTag, m :: _ | number, m :: _ | objectLiteral, m :: _ | ifParam, m :: _ => .ok m
  | openTag, n :: ps | autoClosingTag, n :: ps => .ok (tag n ps)
  | function, n :: ps => .ok (call n ps)
  | element, [m] => .ok m.asElement
  | ifElse, [c, yes, no] => .ok (Meaning.branch c yes no)
  | pairedTag, [opened, inner, closed] => applyPair mark opened (some inner) closed
  | pairedTag, opened :: ms => applyPair mark opened none (ms.getLastD opened)
  | text, [] | closeTag, [] | number, [] | objectLiteral, [] | ifParam, [] | pairedTag, [] =>
      .error (.childless r)
  | _, ms => .error (.unfitting r ms.length)

end Rule

namespace Tree

variable {α : Type}

/-- What a word means that was read as the given terminal. -/
def wordMeaning (kind : Terminal) (w : Token α) : Except (TreeError α) Meaning :=
  match kind with
  | .tagName => ((Concrete.tagName w).mapError .build).map fun t => .name (.tag t)
  | .functionName => ((Concrete.functionName w).mapError .build).map fun f => .name (.function f)
  | .objectName => ((Concrete.objectName w).mapError .build).map fun o => .name (.object o)
  | .number => ((Concrete.numberValue w).mapError .build).map .number
  | kind => .ok (.word kind w.chars)

mutual

/-- What a tree means, every pair of tags being marked `mark`. -/
def meaning (mark : α) : Tree α → Except (TreeError α) Meaning
  | leaf kind w => wordMeaning kind w
  | node r children => do
      let ms ← meanings mark children
      r.apply mark ms

/-- What several trees mean, from left to right. -/
def meanings (mark : α) : List (Tree α) → Except (TreeError α) (List Meaning)
  | [] => .ok []
  | t :: ts => do
      let m ← meaning mark t
      let ms ← meanings mark ts
      return m :: ms

end

/-- What the parts of a message mean of which this is the tree. -/
def message (mark : α) (t : Tree α) : Except (TreeError α) (List Meaning) := do
  match ← meaning mark t with
  | .message ms => return ms
  | _ => throw .noMessage

/-! ## Trees of messages -/

/-- A name and further children make what the rule makes of their meanings. -/
theorem meaning_named (mark : α) (r : Rule) (kind : Terminal) (w : Token α)
    (ts : List (Tree α)) :
    meaning mark (node r (leaf kind w :: ts)) =
      (wordMeaning kind w).bind fun m => (meanings mark ts).bind fun ms =>
        r.apply mark (m :: ms) := by
  rw [meaning, meanings, meaning]
  cases wordMeaning kind w <;> cases meanings mark ts <;> rfl

/-- A single child makes what the rule makes of its meaning. -/
theorem meaning_only (mark : α) (r : Rule) (t : Tree α) :
    meaning mark (node r [t]) = (meaning mark t).bind fun m => r.apply mark [m] := by
  rw [meaning, meanings, meanings]
  cases meaning mark t <;> rfl

theorem meaning_leaf (mark : α) (kind : Terminal) (w : Token α) :
    meaning mark (leaf kind w) = wordMeaning kind w := by
  rw [meaning]

/-- What stands for itself in a condition becomes the built node inside an element. -/
theorem asElement_asCondition {x : Concrete α} {n : Node} (h : x.build = .ok n) :
    (Meaning.ofNode (x.asCondition n)).asElement = Meaning.ofNode n := by
  cases x with
  | text w =>
    cases h
    rfl
  | call w ps =>
    obtain ⟨f, ns, -, -, rfl⟩ := Concrete.build_call_eq_ok_iff.mp h
    rfl
  | single w ps =>
    obtain ⟨t, ns, -, -, rfl⟩ := Concrete.build_single_eq_ok_iff.mp h
    rfl
  | pair m w ps inner close =>
    obtain ⟨t, ns, -, -, rfl⟩ := Concrete.build_pair_eq_ok_iff.mp h
    cases inner <;> rfl
  | branch c yes no =>
    obtain ⟨k, ys, ns, -, -, -, rfl⟩ := Concrete.build_branch_eq_ok_iff.mp h
    rfl
  | object w =>
    obtain ⟨o, -, rfl⟩ := Concrete.build_object_eq_ok_iff.mp h
    rfl
  | number w =>
    obtain ⟨i, rfl⟩ := Concrete.build_number_eq_ok h
    rfl

/-- A result stays while errors become others. -/
@[simp] theorem mapError_ok {ε ε' β : Type} (f : ε → ε') (b : β) :
    (Except.ok b : Except ε β).mapError f = .ok b := rfl

@[simp] theorem mapError_error {ε ε' β : Type} (f : ε → ε') (e : ε) :
    (Except.error e : Except ε β).mapError f = .error (f e) := rfl

/-- An element means what it consists of, as a part. -/
theorem meaning_element (mark : α) (t : Tree α) :
    meaning mark (node .element [t]) = (meaning mark t).map Meaning.asElement := by
  rw [meaning_only]
  cases meaning mark t <;> rfl

/-- The tree of a part means the built node, if what it consists of means what stands for
the part in a condition. -/
theorem meaning_tree_of_content {mark : α} {x y : Concrete α} (hxy : y = x.setPairMarks mark)
    (h : meaning mark x.tree.content =
      (y.build.mapError .build).map fun n => .ofNode (y.asCondition n)) :
    meaning mark x.tree = (y.build.mapError .build).map .ofNode := by
  have helement : ∀ t, x.tree = node .element [t] →
      meaning mark x.tree = (y.build.mapError .build).map .ofNode := by
    intro t ht
    rw [ht, content] at h
    rw [ht, meaning_element, h]
    cases hb : y.build with
    | error e => rfl
    | ok n => exact congrArg Except.ok (asElement_asCondition hb)
  subst hxy
  cases x with
  | single | pair | branch => exact helement _ rfl
  | text | call | object | number => exact h

mutual

/-- What stands in the tree for the condition of a branch means the node of the
condition. -/
theorem meaning_content (mark : α) : ∀ x : Concrete α,
    meaning mark x.tree.content =
      ((x.setPairMarks mark).build.mapError .build).map
        fun n => .ofNode ((x.setPairMarks mark).asCondition n)
  | .text w => by
      rw [Concrete.tree, content, meaning_only, meaning_leaf]
      · simp [wordMeaning, Rule.apply, Rule.use, Meaning.display, Meaning.ofNode,
          Concrete.setPairMarks, Concrete.build_text_eq, Concrete.asCondition,
          Except.map, Except.bind]
      · simp
  | .object w => by
      rw [Concrete.tree, content, meaning_only, meaning_leaf, wordMeaning, Concrete.setPairMarks,
        Concrete.build_object_eq]
      · cases Concrete.objectName w <;>
          simp [Rule.apply, Concrete.asCondition, Meaning.ofNode, Except.map, bind, Except.bind]
      · simp
  | .number w => by
      rw [Concrete.tree, content, meaning_only, meaning_leaf, wordMeaning, Concrete.setPairMarks,
        Concrete.build_number_eq]
      · cases Concrete.numberValue w <;>
          simp [Rule.apply, Concrete.asCondition, Meaning.ofNode, Except.map, bind, Except.bind]
      · simp
  | .call w ps => by
      rw [Concrete.tree, content, meaning_named, meanings_trees mark ps, wordMeaning,
        Concrete.setPairMarks, Concrete.build_call_eq]
      · cases Concrete.functionName w <;>
          cases Concrete.buildList (Concrete.setPairMarksList mark ps) <;>
          simp [Rule.apply, Concrete.asCondition, Meaning.ofNode, Except.map, bind, Except.bind]
      · simp
  | .single w ps => by
      rw [Concrete.tree, content, meaning_named, meanings_trees mark ps, wordMeaning,
        Concrete.setPairMarks, Concrete.build_single_eq]
      cases Concrete.tagName w <;>
        cases Concrete.buildList (Concrete.setPairMarksList mark ps) <;>
        simp [Rule.apply, Concrete.asCondition, Meaning.ofNode, Except.map, bind, Except.bind]
  | .pair _ w ps inner close => by
      have hps := meanings_trees mark ps
      rw [Concrete.tree, content, Concrete.setPairMarks, Concrete.build_pair_eq]
      cases hw : Concrete.tagName w <;>
        cases hs : Concrete.buildList (Concrete.setPairMarksList mark ps) <;>
        cases hc : Concrete.tagName close <;> rw [hs] at hps <;>
        cases inner <;>
        simp [meaning, meanings, wordMeaning, hw, hps, hc, Concrete.innerTrees, Rule.apply,
          Rule.applyPair, Rule.use, Meaning.display, Name.chars,
          Concrete.asCondition, throw, throwThe, MonadExceptOf.throw, pure, Except.pure,
          Except.map, bind, Except.bind]
      all_goals split <;> simp [Meaning.ofNode]
  | .branch c yes no => by
      have hc := meaning_content mark c
      have hyes := meanings_trees mark yes
      have hno := meanings_trees mark no
      rw [Concrete.tree, content, Concrete.setPairMarks, Concrete.build_branch_eq]
      cases hb : (c.setPairMarks mark).build <;>
        cases hy : Concrete.buildList (Concrete.setPairMarksList mark yes) <;>
        cases hn : Concrete.buildList (Concrete.setPairMarksList mark no) <;>
        rw [hb] at hc <;> rw [hy] at hyes <;> rw [hn] at hno <;>
        simp [meaning, meanings, hc, hyes, hno, Rule.apply, Concrete.asCondition,
          Meaning.ofNode, pure, Except.pure, Except.map, bind, Except.bind]

/-- The trees of parts mean the nodes that are built from the parts. -/
theorem meanings_trees (mark : α) : ∀ xs : List (Concrete α),
    meanings mark (Concrete.trees xs) =
      ((Concrete.buildList (Concrete.setPairMarksList mark xs)).mapError .build).map
        Meaning.ofNodes
  | [] => by
      rw [Concrete.trees, meanings]
      rfl
  | x :: xs => by
      rw [Concrete.trees, meanings, meaning_tree_of_content rfl (meaning_content mark x),
        meanings_trees mark xs, Concrete.setPairMarksList, Concrete.buildList_cons_eq]
      cases (x.setPairMarks mark).build <;>
        cases Concrete.buildList (Concrete.setPairMarksList mark xs) <;>
        simp [Meaning.ofNodes, pure, Except.pure, Except.map, bind, Except.bind]

end

/-- The tree of a part means the node that is built from the part. -/
theorem meaning_tree (mark : α) (x : Concrete α) :
    meaning mark x.tree = ((x.setPairMarks mark).build.mapError .build).map .ofNode :=
  meaning_tree_of_content rfl (meaning_content mark x)

/-- The tree of a message means the nodes that are built from the message. -/
theorem message_messageTree (mark : α) (xs : List (Concrete α)) :
    message mark (Concrete.messageTree xs) =
      ((Concrete.buildList (Concrete.setPairMarksList mark xs)).mapError .build).map
        Meaning.ofNodes := by
  rw [Concrete.messageTree, message, meaning, meanings_trees]
  cases Concrete.buildList (Concrete.setPairMarksList mark xs) with
  | error e => rfl
  | ok ns =>
    simp [Rule.apply, pure, Except.pure, Except.map, bind, Except.bind]

end Tree

end LogMarkup
