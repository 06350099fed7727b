import LogMarkup.Node
import LogMarkup.Proofs.Lexeme

/-!
# Nodes as concrete messages

A well-formed node says something that markup can say: its texts do not run into calls or
tags, and every piece of it can stand where it stands.  Such a node has one concrete
message that spells its rendering.

Main results:

- `Node.chars_toConcrete`, `Node.listChars_toConcreteList`: the concrete message of a
  node is spelled as the node is rendered.
- `Node.WellFormed.toConcrete`, `Node.AllWellFormed.toConcreteList`: it is well formed, if
  the node is.
-/

namespace LogMarkup

namespace Node

/-! ## Well-formed nodes -/

/-- Is it literal text? -/
def isText : Node → Bool
  | text _ => true
  | _ => false

end Node

/-- Can such a node stand there? -/
def Position.holds : Position → Node → Bool
  | _, .call .. => true
  | .part, .text _ | .part, .element .. | .part, .branch .. => true
  | .param, .element .. | .param, .branch .. | .param, .object _ | .param, .number _ => true
  | .condition, .tag .. => true
  | _, _ => false

namespace Node

mutual

/-- Is the node what markup can say?  Texts hold neither `<` nor the beginning of a call,
calls have parameters, and numbers are not negative and not too long. -/
def WellFormed : Node → Prop
  | text s => Terminal.IsText s.toList
  | call _ ps => ps ≠ [] ∧ AllWellFormed .param ps
  | tag _ ps => AllWellFormed .param ps
  | element _ ps inner =>
      AllWellFormed .param ps ∧ ∀ s ∈ inner, Terminal.IsText s.toList
  | branch c yes no =>
      (Position.condition.holds c = true ∧ c.WellFormed) ∧ AllWellFormed .part yes ∧
        AllWellFormed .part no
  | object _ => True
  | number i => ∃ n : Nat, i = n ∧ (Nat.toDigits 10 n).length ≤ Digits.limit

/-- Are all of these what markup can say, can they stand there, and are no two texts side
by side? -/
def AllWellFormed (p : Position) : List Node → Prop
  | [] => True
  | n :: ns => p.holds n = true ∧ n.WellFormed ∧
      ¬ (n.isText = true ∧ ns.head?.any isText = true) ∧ AllWellFormed p ns

end

mutual

/-- It can be decided whether a node is well formed. -/
def decideWellFormed : ∀ n : Node, Decidable n.WellFormed
  | text s => inferInstanceAs (Decidable (Terminal.IsText s.toList))
  | call _ ps =>
      have := decideAllWellFormed .param ps
      inferInstanceAs (Decidable (ps ≠ [] ∧ AllWellFormed .param ps))
  | tag _ ps => decideAllWellFormed .param ps
  | element _ ps inner =>
      have := decideAllWellFormed .param ps
      inferInstanceAs (Decidable (AllWellFormed .param ps ∧
        ∀ s ∈ inner, Terminal.IsText s.toList))
  | branch c yes no =>
      have := c.decideWellFormed
      have := decideAllWellFormed .part yes
      have := decideAllWellFormed .part no
      inferInstanceAs (Decidable ((Position.condition.holds c = true ∧ c.WellFormed) ∧
        AllWellFormed .part yes ∧ AllWellFormed .part no))
  | object _ => .isTrue trivial
  | number i =>
      decidable_of_iff (0 ≤ i ∧ (Nat.toDigits 10 i.toNat).length ≤ Digits.limit) <| by
        constructor
        · rintro ⟨hpos, hlength⟩
          exact ⟨i.toNat, (Int.toNat_of_nonneg hpos).symm, hlength⟩
        · rintro ⟨n, rfl, hlength⟩
          exact ⟨Int.natCast_nonneg n, hlength⟩

/-- It can be decided whether all of these are well formed. -/
def decideAllWellFormed (p : Position) : ∀ ns : List Node, Decidable (AllWellFormed p ns)
  | [] => .isTrue trivial
  | n :: ns =>
      have := n.decideWellFormed
      have := decideAllWellFormed p ns
      inferInstanceAs (Decidable (p.holds n = true ∧ n.WellFormed ∧
        ¬ (n.isText = true ∧ ns.head?.any isText = true) ∧ AllWellFormed p ns))

end

instance (n : Node) : Decidable n.WellFormed := n.decideWellFormed

instance (p : Position) (ns : List Node) : Decidable (AllWellFormed p ns) :=
  decideAllWellFormed p ns

/-! ## Their concrete messages -/

mutual

/-- The part that spells the node. -/
def toConcrete : Node → Concrete Unit
  | text s => .text ⟨s.toList, ()⟩
  | call f ps => .call ⟨f.chars, ()⟩ (toConcreteList ps)
  | tag t ps | element t ps none => .single ⟨t.chars, ()⟩ (toConcreteList ps)
  | element t ps (some s) =>
      .pair () ⟨t.chars, ()⟩ (toConcreteList ps) (some ⟨s.toList, ()⟩) ⟨t.chars, ()⟩
  | branch c yes no => .branch c.toConcrete (toConcreteList yes) (toConcreteList no)
  | object o => .object ⟨o.chars, ()⟩
  | number i => .number ⟨numeral i, ()⟩

/-- The parts that spell the nodes. -/
def toConcreteList : List Node → List (Concrete Unit)
  | [] => []
  | n :: ns => n.toConcrete :: toConcreteList ns

end

mutual

/-- The part is spelled as the node is rendered. -/
theorem chars_toConcrete : ∀ n : Node, n.toConcrete.chars = n.render
  | text _ | object _ | number _ => rfl
  | call f ps => by rw [toConcrete, Concrete.chars, render, paramChars_toConcreteList ps]
  | tag t ps => by rw [toConcrete, Concrete.chars, render, paramChars_toConcreteList ps]
  | element t ps none => by
      rw [toConcrete, Concrete.chars, render, paramChars_toConcreteList ps]
  | element t ps (some s) => by
      rw [toConcrete, Concrete.chars, render, paramChars_toConcreteList ps,
        Concrete.innerChars]
  | branch c yes no => by
      rw [toConcrete, Concrete.chars, render, chars_toConcrete c,
        listChars_toConcreteList yes, listChars_toConcreteList no]

/-- The parameters are spelled as the nodes are rendered. -/
theorem paramChars_toConcreteList :
    ∀ ns : List Node, Concrete.paramChars (toConcreteList ns) = renderParams ns
  | [] => rfl
  | n :: ns => by
      rw [toConcreteList, Concrete.paramChars, renderParams, chars_toConcrete n,
        moreChars_toConcreteList ns]

/-- Further parameters are spelled as the nodes are rendered. -/
theorem moreChars_toConcreteList :
    ∀ ns : List Node, Concrete.moreChars (toConcreteList ns) = renderMore ns
  | [] => rfl
  | n :: ns => by
      rw [toConcreteList, Concrete.moreChars, renderMore, chars_toConcrete n,
        moreChars_toConcreteList ns]

/-- The message is spelled as the nodes are rendered. -/
theorem listChars_toConcreteList :
    ∀ ns : List Node, Concrete.listChars (toConcreteList ns) = renderList ns
  | [] => rfl
  | n :: ns => by
      rw [toConcreteList, Concrete.listChars, renderList, chars_toConcrete n,
        listChars_toConcreteList ns]

end

/-- Texts are spelled as texts. -/
theorem isText_toConcrete (n : Node) : n.toConcrete.isText = n.isText := by
  cases n with
  | element t ps inner => cases inner <;> rfl
  | _ => rfl

/-- The part can stand wherever the node can. -/
theorem admits_toConcrete {p : Position} {n : Node} (h : p.holds n = true) :
    p.admits n.toConcrete = true := by
  cases n with
  | element t ps inner => cases inner <;> cases p <;> first | rfl | contradiction
  | _ => cases p <;> first | rfl | contradiction

/-- A number that is not negative is spelled with digits. -/
theorem isNumeral_numeral (n : Nat) : Terminal.IsNumeral (numeral n) :=
  ⟨Nat.toDigits_ne_nil, fun _ hc => Nat.isDigit_of_mem_toDigits (by decide) (by decide) hc⟩

/-- The names of tags are words, and none is a word of a branch. -/
theorem admits_tagName (t : TagName) : Terminal.tagName.Admits t.chars := by
  cases t <;> exact ⟨⟨⟨_, rfl, by decide⟩, List.all_eq_true.mp rfl⟩, by decide⟩

theorem admits_objectName (o : ObjectName) : Terminal.objectName.Admits o.chars := by
  cases o <;> exact ⟨⟨_, rfl, by decide⟩, List.all_eq_true.mp rfl⟩

mutual

/-- The part of a well-formed node is well formed. -/
theorem WellFormed.toConcrete : ∀ {n : Node}, n.WellFormed → n.toConcrete.WellFormed
  | text _, h => h
  | call f ps, h => by
      refine ⟨⟨f, rfl⟩, ?_, AllWellFormed.toConcreteList h.2⟩
      cases ps with
      | nil => exact absurd rfl h.1
      | cons p ps => exact List.cons_ne_nil _ _
  | tag t _, h => ⟨admits_tagName t, AllWellFormed.toConcreteList h⟩
  | element t _ none, h => ⟨admits_tagName t, AllWellFormed.toConcreteList h.1⟩
  | element t _ (some s), h => by
      refine ⟨admits_tagName t, AllWellFormed.toConcreteList h.1, ?_, admits_tagName t⟩
      rintro _ ⟨⟩
      exact h.2 s rfl
  | branch _ _ _, h =>
      ⟨⟨admits_toConcrete h.1.1, WellFormed.toConcrete h.1.2⟩,
        AllWellFormed.toConcreteList h.2.1, AllWellFormed.toConcreteList h.2.2⟩
  | object o, _ => admits_objectName o
  | number _, h => by
      obtain ⟨n, rfl, -⟩ := h
      exact isNumeral_numeral n

/-- The message of well-formed nodes is well formed. -/
theorem AllWellFormed.toConcreteList {p : Position} :
    ∀ {ns : List Node}, AllWellFormed p ns → Concrete.AllWellFormed p (toConcreteList ns)
  | [], _ => trivial
  | n :: ns, h => by
      obtain ⟨hholds, hn, htexts, hns⟩ := h
      refine ⟨admits_toConcrete hholds, WellFormed.toConcrete hn, ?_,
        AllWellFormed.toConcreteList hns⟩
      rw [isText_toConcrete]
      cases ns with
      | nil => simp [toConcreteList]
      | cons n' ns => simpa [toConcreteList, isText_toConcrete] using htexts

end

end Node

end LogMarkup
