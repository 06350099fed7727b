import LogMarkup.Proofs.Reduction
import LogMarkup.Proofs.RoundTrip
import Mathlib.Logic.Relation

/-!
# Wrappers are transparent

A wrapper around one part stands for the part itself, wherever text is shown: in the
message, on a side of a branch, or inside another wrapper.  Putting parts into wrappers, at
any depth and as often as one likes, changes neither what the message reduces to nor the
error if it does not reduce.  Markup can say all of these messages.

Main results:

- `Node.reduceList_congr`: a sequence reduces alike if one of its parts does.
- `Node.WrapsPart.reduce_eq`: putting one part into a wrapper changes nothing.
- `Node.WrapsPart.wellFormed`: it leads to something that markup can say.
- `Markup.reduceMessage_wrapped`: the same for any number of parts of a message.
-/

namespace LogMarkup

namespace Node

/-! ## Putting parts into wrappers -/

/-- Is it a part that is no text?  Markup can put a wrapper around a call, a tag or a branch,
but not around text. -/
def isWrappable : Node → Bool
  | call .. | element .. | branch .. => true
  | _ => false

/-- The second node is the first one with one part in text position, or the node itself,
put into a wrapper. -/
inductive WrapsPart : Node → Node → Prop
  /-- The node itself. -/
  | here {n : Node} (hn : n.isWrappable = true) : WrapsPart n (element .clickable [n] none)
  /-- In a part on the first side of a branch. -/
  | yes {c m m' : Node} {before after no : List Node} (hm : WrapsPart m m') :
      WrapsPart (branch c (before ++ m :: after) no) (branch c (before ++ m' :: after) no)
  /-- In a part on the second side of a branch. -/
  | no {c m m' : Node} {yes before after : List Node} (hm : WrapsPart m m') :
      WrapsPart (branch c yes (before ++ m :: after)) (branch c yes (before ++ m' :: after))
  /-- Inside a wrapper. -/
  | wrapped {p p' : Node} (hp : WrapsPart p p') :
      WrapsPart (element .clickable [p] none) (element .clickable [p'] none)

/-- The second message is the first one with one part in text position put into a
wrapper. -/
def Wraps (ms ms' : List Node) : Prop :=
  ∃ before n n' after, ms = before ++ n :: after ∧ ms' = before ++ n' :: after ∧ WrapsPart n n'

/-! ## What they reduce to -/

/-- A sequence reduces alike, if one of its parts is exchanged for one that does. -/
theorem reduceList_congr {gs : List Guard} {n n' : Node} (h : reduce gs n' = reduce gs n)
    (before after : List Node) :
    reduceList gs (before ++ n' :: after) = reduceList gs (before ++ n :: after) := by
  rw [reduceList_both, reduceList_both, reduceList_cons, reduceList_cons, h]

/-- Putting one part into a wrapper changes nothing, whatever the guards around it. -/
theorem WrapsPart.reduce_eq {n n' : Node} (h : WrapsPart n n') (gs : List Guard) :
    reduce gs n' = reduce gs n := by
  induction h generalizing gs with
  | here => rw [reduce]
  | yes _ ih => simp only [reduce, reduceList_congr (ih _)]
  | no _ ih => simp only [reduce, reduceList_congr (ih _)]
  | wrapped _ ih => rw [reduce, reduce, ih]

theorem Wraps.reduceMessage_eq {ms ms' : List Node} (h : Wraps ms ms') :
    reduceMessage ms' = reduceMessage ms := by
  obtain ⟨before, n, n', after, rfl, rfl, hn⟩ := h
  exact reduceList_congr (hn.reduce_eq []) before after

/-! ## That markup can say them -/

/-- What is put into a wrapper is no text, and neither is what it becomes. -/
theorem WrapsPart.isText_eq {n n' : Node} (h : WrapsPart n n') : n'.isText = n.isText := by
  cases h with
  | @here n hn => cases n <;> first | rfl | contradiction
  | yes | no | wrapped => rfl

/-- What it becomes can stand wherever text is shown, and among parameters. -/
theorem WrapsPart.holds {n n' : Node} (h : WrapsPart n n') {q : Position} (hq : q ≠ .condition) :
    q.holds n' = true := by
  cases h <;> cases q <;> first | rfl | contradiction

/-- What stands in a well-formed sequence can be exchanged for something well formed. -/
theorem AllWellFormed.exchange {q : Position} {n n' : Node} {before after : List Node}
    (h : AllWellFormed q (before ++ n :: after)) (htext : n'.isText = n.isText)
    (hholds : q.holds n' = true) (hn : n.WellFormed → n'.WellFormed) :
    AllWellFormed q (before ++ n' :: after) := by
  induction before with
  | nil => exact ⟨hholds, hn h.2.1, by rw [htext]; exact h.2.2.1, h.2.2.2⟩
  | cons m before ih =>
    refine ⟨h.1, h.2.1, ?_, ih h.2.2.2⟩
    have hmeet := h.2.2.1
    cases before with
    | nil => simpa [htext] using hmeet
    | cons m' before => exact hmeet

/-- Putting a part of a well-formed node into a wrapper leads to a well-formed node. -/
theorem WrapsPart.wellFormed {n n' : Node} (h : WrapsPart n n') (hn : n.WellFormed) :
    n'.WellFormed := by
  induction h with
  | @here n hwrappable =>
    refine ⟨⟨?_, hn, by simp, trivial⟩, by simp⟩
    cases n <;> first | rfl | contradiction
  | yes hm ih => exact ⟨hn.1, hn.2.1.exchange hm.isText_eq (hm.holds (by decide)) ih, hn.2.2⟩
  | no hm ih => exact ⟨hn.1, hn.2.1, hn.2.2.exchange hm.isText_eq (hm.holds (by decide)) ih⟩
  | wrapped hp ih =>
    exact ⟨@AllWellFormed.exchange .param _ _ [] [] hn.1 hp.isText_eq (hp.holds (by decide)) ih,
      hn.2⟩

theorem Wraps.allWellFormed {ms ms' : List Node} (h : Wraps ms ms')
    (hms : AllWellFormed .part ms) : AllWellFormed .part ms' := by
  obtain ⟨before, n, n', after, rfl, rfl, hn⟩ := h
  exact hms.exchange hn.isText_eq (hn.holds (by decide)) hn.wellFormed

/-! ## Any number of wrappers -/

theorem reduceMessage_eq_of_transGen {ms ms' : List Node} (h : Relation.TransGen Wraps ms ms') :
    reduceMessage ms' = reduceMessage ms := by
  induction h with
  | single hstep => exact hstep.reduceMessage_eq
  | tail _ hstep ih => rw [hstep.reduceMessage_eq, ih]

theorem allWellFormed_of_transGen {ms ms' : List Node} (h : Relation.TransGen Wraps ms ms')
    (hms : AllWellFormed .part ms) : AllWellFormed .part ms' := by
  induction h with
  | single hstep => exact hstep.allWellFormed hms
  | tail _ hstep ih => exact hstep.allWellFormed ih

end Node

namespace Markup

/-- Wrappers are transparent in every context.  If some parts of a message that was read are
put into wrappers, the message reduces to the same texts in the same order, or fails with
the same error at the same node; and it is what is read from its own markup, which so
reduces as the first one. -/
theorem reduceMessage_wrapped {markup : String} {message wrapped : List Node}
    (h : nodes markup = .ok message) (hwraps : Relation.TransGen Node.Wraps message wrapped) :
    Node.reduceMessage wrapped = Node.reduceMessage message ∧
    nodes (Node.listToMarkup wrapped) = .ok wrapped ∧
    reduce (Node.listToMarkup wrapped) = reduce markup := by
  have hsame := Node.reduceMessage_eq_of_transGen hwraps
  have hwrapped := Node.allWellFormed_of_transGen hwraps (wellFormed_of_nodes h)
  refine ⟨hsame, nodes_of_wellFormed hwrapped, ?_⟩
  rw [reduce_of_listToMarkup_eq hwrapped rfl, hsame, reduce_eq_bind, h]
  rfl

/-- The theorem at a branch of which two parts are put into wrappers, and in between the
branch itself.  The lookup in it mentions no slot, and is still to blame. -/
theorem reduceMessage_wrapped_sheet :
    nodes "<If(PlayerParameter(7))>ObjectParameter(2)<Sheet/><Else/>you</If>" =
      .ok [.branch (.fact 7) [.participant 2, .element .sheet [] none] [.text "you"]] ∧
    Node.reduceMessage [.element .clickable [.branch (.fact 7)
        [.element .clickable [.participant 2] none,
          .element .clickable [.element .sheet [] none] none] [.text "you"]] none] =
      .error (.unknownSlot (.tag .sheet [])) ∧
    reduce ("<Clickable(<If(PlayerParameter(7))><Clickable(ObjectParameter(2))/>" ++
        "<Clickable(<Sheet/>)/><Else/>you</If>)/>") =
      .error (.reduce (.unknownSlot (.tag .sheet []))) := by
  have hread : nodes "<If(PlayerParameter(7))>ObjectParameter(2)<Sheet/><Else/>you</If>" =
      .ok [.branch (.fact 7) [.participant 2, .element .sheet [] none] [.text "you"]] :=
    nodes_of_listToMarkup_eq (by decide) rfl
  have hcall : Node.Wraps
      [.branch (.fact 7) [.participant 2, .element .sheet [] none] [.text "you"]]
      [.branch (.fact 7) [.element .clickable [.participant 2] none, .element .sheet [] none]
        [.text "you"]] :=
    ⟨[], _, _, [], rfl, rfl, @Node.WrapsPart.yes _ _ _ [] _ _ (.here rfl)⟩
  have hbranch : Node.Wraps
      [.branch (.fact 7) [.element .clickable [.participant 2] none, .element .sheet [] none]
        [.text "you"]]
      [.element .clickable [.branch (.fact 7)
        [.element .clickable [.participant 2] none, .element .sheet [] none]
        [.text "you"]] none] :=
    ⟨[], _, _, [], rfl, rfl, .here rfl⟩
  have hsheet : Node.Wraps
      [.element .clickable [.branch (.fact 7)
        [.element .clickable [.participant 2] none, .element .sheet [] none]
        [.text "you"]] none]
      [.element .clickable [.branch (.fact 7) [.element .clickable [.participant 2] none,
        .element .clickable [.element .sheet [] none] none] [.text "you"]] none] :=
    ⟨[], _, _, [], rfl, rfl, .wrapped (@Node.WrapsPart.yes _ _ _ [_] _ _ (.here rfl))⟩
  obtain ⟨hsame, -, hreduce⟩ :=
    reduceMessage_wrapped hread (((Relation.TransGen.single hcall).tail hbranch).tail hsheet)
  have hfails : Node.reduceMessage
      [.branch (.fact 7) [.participant 2, .element .sheet [] none] [.text "you"]] =
      .error (.unknownSlot (.tag .sheet [])) := rfl
  refine ⟨hread, hsame.trans hfails, ?_⟩
  have hmarkup : Node.listToMarkup [.element .clickable [.branch (.fact 7)
      [.element .clickable [.participant 2] none,
        .element .clickable [.element .sheet [] none] none] [.text "you"]] none] =
      "<Clickable(<If(PlayerParameter(7))><Clickable(ObjectParameter(2))/>" ++
        "<Clickable(<Sheet/>)/><Else/>you</If>)/>" := rfl
  rw [← hmarkup, hreduce, reduce_eq_bind, hread]
  rfl

end Markup

end LogMarkup
