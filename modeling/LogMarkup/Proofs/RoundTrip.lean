import LogMarkup.Markup
import LogMarkup.Proofs.Building
import LogMarkup.Proofs.Spelling
import Mathlib.Data.Set.Operations

/-!
# Reading undoes rendering

Renderer and grammar are written apart, and nothing in rendered markup is quoted.  Still
the rendering of a well-formed message is read as just this message, and whatever is read
is well formed.  So no two messages that can be read are rendered alike.

Main results:

- `Markup.nodes_eq_ok_iff`: a message is read if it is built of the concrete message that
  is spelled like the markup.
- `Markup.nodes_listToMarkup`: reading undoes rendering.
- `Markup.reduce_of_listToMarkup_eq`: the markup of a message reduces as the message.
-/

namespace LogMarkup

open Node (AllWellFormed listToMarkup)

namespace Markup

open Concrete (listChars locateList buildList)

/-- A message is read from a markup exactly if it is built of the concrete message that is
spelled like the markup. -/
theorem nodes_eq_ok_iff {markup : String} {message : List Node} :
    nodes markup = .ok message ↔
      ∃ m : List Part, (Concrete.AllWellFormed .part m ∧ listChars m = markup.toList) ∧
        buildList (locateList Place.start m) = .ok message := by
  simp only [nodes, bind_eq_ok_iff, mapError_eq_ok_iff, Concrete.parseLocated_eq_ok_iff]
  constructor
  · rintro ⟨_, ⟨m, hm, rfl⟩, hbuild⟩
    exact ⟨m, hm, hbuild⟩
  · rintro ⟨m, hm, hbuild⟩
    exact ⟨_, ⟨m, hm, rfl⟩, hbuild⟩

/-- Reading undoes rendering: a well-formed message is read from its rendering. -/
theorem nodes_of_wellFormed {message : List Node} (h : AllWellFormed .part message) :
    nodes (listToMarkup message) = .ok message := by
  rw [nodes_eq_ok_iff]
  refine ⟨Node.toConcreteList message, ⟨h.toConcreteList, ?_⟩,
    Node.buildList_locateList_toConcreteList h _⟩
  rw [Node.listChars_toConcreteList, listToMarkup, String.toList_ofList]

/-- A well-formed message is read from every markup that is its rendering. -/
theorem nodes_of_listToMarkup_eq {markup : String} {message : List Node}
    (h : AllWellFormed .part message) (hrender : listToMarkup message = markup) :
    nodes markup = .ok message := by
  rw [← hrender]
  exact nodes_of_wellFormed h

/-- What a message is rendered as is reduced as the message. -/
theorem reduce_of_listToMarkup_eq {markup : String} {message : List Node}
    (h : AllWellFormed .part message) (hrender : listToMarkup message = markup) :
    reduce markup = (Node.reduceMessage message).mapError .reduce := by
  rw [reduce_eq_bind, nodes_of_listToMarkup_eq h hrender]
  rfl

/-- Plain text is reduced to itself. -/
theorem reduce_of_isText {markup : String} (h : Terminal.IsText markup.toList) :
    reduce markup = .ok [⟨[], .static markup⟩] := by
  have hmessage : AllWellFormed .part [.text markup] := ⟨rfl, h, by simp, trivial⟩
  rw [reduce_of_listToMarkup_eq hmessage]
  · rfl
  · simp [listToMarkup, Node.renderList, Node.render]

/-- Whatever is read is well formed. -/
theorem wellFormed_of_nodes {markup : String} {message : List Node}
    (h : nodes markup = .ok message) : AllWellFormed .part message := by
  obtain ⟨m, ⟨hm, -⟩, hbuild⟩ := nodes_eq_ok_iff.mp h
  exact (hm.locateList Place.start).buildList (by decide) hbuild

/-- Reading undoes rendering on all well-formed messages, only these are read, and so no
two messages that can be read are rendered alike. -/
theorem nodes_listToMarkup :
    (∀ message : List Node, AllWellFormed .part message →
      nodes (listToMarkup message) = .ok message) ∧
    (∀ (markup : String) (message : List Node),
      nodes markup = .ok message → AllWellFormed .part message) ∧
    Set.InjOn listToMarkup {message | ∃ markup, nodes markup = .ok message} := by
  refine ⟨fun _ => nodes_of_wellFormed, fun _ _ => wellFormed_of_nodes, ?_⟩
  rintro message ⟨markup, h⟩ message' ⟨markup', h'⟩ hrender
  have hread := nodes_of_wellFormed (wellFormed_of_nodes h)
  have hread' := nodes_of_wellFormed (wellFormed_of_nodes h')
  rw [hrender] at hread
  exact Except.ok.inj (hread.symm.trans hread')

/-- The theorem at texts that end in a function's name or begin with one. -/
theorem nodes_listToMarkup_equality :
    nodes "Equal<Clickable>Equal</Clickable><If(PlayerParameter(7))>Equality<Else/></If>" =
      .ok [.text "Equal", .element .clickable [] (some "Equal"),
        .branch (.call .playerParameter [.number 7]) [.text "Equality"] []] ∧
    ∀ (markup : String) (message : List Node), nodes markup = .ok message →
      listToMarkup message =
        "Equal<Clickable>Equal</Clickable><If(PlayerParameter(7))>Equality<Else/></If>" →
      message = [.text "Equal", .element .clickable [] (some "Equal"),
        .branch (.call .playerParameter [.number 7]) [.text "Equality"] []] := by
  obtain ⟨hread, -, hinj⟩ := nodes_listToMarkup
  have hmessage : AllWellFormed .part [.text "Equal", .element .clickable [] (some "Equal"),
      .branch (.call .playerParameter [.number 7]) [.text "Equality"] []] := by
    have htext : Terminal.IsText "Equal".toList := ⟨by decide, by decide, by decide⟩
    have hother : Terminal.IsText "Equality".toList := ⟨by decide, by decide, by decide⟩
    have hnumber : ∃ n : Nat, (7 : Int) = n ∧ (Nat.toDigits 10 n).length ≤ Digits.limit :=
      ⟨7, rfl, by decide⟩
    exact ⟨rfl, htext, by decide, rfl, ⟨trivial, by rintro _ ⟨⟩; exact htext⟩, by decide, rfl,
      ⟨⟨rfl, by decide, rfl, hnumber, by decide, trivial⟩,
        ⟨rfl, hother, by decide, trivial⟩, trivial⟩, by decide, trivial⟩
  have hnodes := hread _ hmessage
  refine ⟨hnodes, fun markup message h hrender => ?_⟩
  exact hinj ⟨markup, h⟩ ⟨_, hnodes⟩ hrender

end Markup

end LogMarkup
