import LogMarkup.Proofs.CallShape
import LogMarkup.Proofs.Offence

/-!
# Errors name their culprit

When reduction fails at a node, that node alone is to blame: whatever stands around it and
however deep it stands, the markup of the node fails with the same error.  Of a condition
this is said of a branch that asks it, since a tag that stands for itself is one thing as a
condition and another where text is shown.

Main results:

- `Node.wellFormed_of_mem_visits`: what reduction comes to in a message is what markup can
  say.
- `Markup.reduce_reproduction`: the markup of the offending node fails with the same error.
-/

namespace LogMarkup

/-- The visited node is what markup can say where it stands. -/
def Visit.WellFormed : Visit → Prop
  | condition n => Position.condition.holds n = true ∧ n.WellFormed
  | leaf n => n.WellFormed

namespace Node

mutual

/-- What reduction of a well-formed node comes to is well formed. -/
theorem wellFormed_of_mem_visits : ∀ {n : Node}, n.WellFormed → ∀ v ∈ n.visits, v.WellFormed
  | branch c yes no, h, v, hv => by
    rw [visits, List.mem_cons, List.mem_append] at hv
    rcases hv with rfl | hv | hv
    · exact h.1
    · exact wellFormed_of_mem_visitsList h.2.1 v hv
    · exact wellFormed_of_mem_visitsList h.2.2 v hv
  | element .clickable [_] none, h, v, hv => wellFormed_of_mem_visits h.1.2.1 v hv
  | text _, h, v, hv | object _, h, v, hv | number _, h, v, hv | tag _ _, h, v, hv
  | call _ _, h, v, hv | element .sheet _ _, h, v, hv | element .sheetEn _ _, h, v, hv
  | element .clickable [] _, h, v, hv | element .clickable [_] (some _), h, v, hv
  | element .clickable (_ :: _ :: _) _, h, v, hv => by
    obtain rfl := List.mem_singleton.mp hv
    exact h

/-- The same for a sequence. -/
theorem wellFormed_of_mem_visitsList {p : Position} : ∀ {ns : List Node},
    AllWellFormed p ns → ∀ v ∈ visitsList ns, v.WellFormed
  | [], _, v, hv => absurd hv List.not_mem_nil
  | n :: ns, h, v, hv => by
    rw [visitsList, List.mem_append] at hv
    rcases hv with hv | hv
    · exact wellFormed_of_mem_visits h.2.1 v hv
    · exact wellFormed_of_mem_visitsList h.2.2.2 v hv

end

end Node

/-- The markup that reproduces an error by itself: a branch that asks the unknown condition,
or the lookup or call that has no meaning. -/
def ReduceError.reproduction? : ReduceError → Option String
  | unknownCondition n => some (Markup.asking n.toMarkup)
  | unknownSlot n | danglingFunction n => some n.toMarkup
  | _ => none

namespace Markup

/-- The markup of a node that can stand as a part reduces as the node. -/
theorem reduce_toMarkup {n : Node} (hpart : Position.part.holds n.asElement = true)
    (hn : n.WellFormed) :
    reduce n.toMarkup = (Node.reduceMessage [n.asElement]).mapError .reduce := by
  refine reduce_of_listToMarkup_eq
    ⟨hpart, Node.wellFormed_asElement.mpr hn, by simp, trivial⟩ ?_
  rw [← Node.toMarkup_asElement, Node.listToMarkup, Node.renderList, Node.renderList,
    List.append_nil, Node.toMarkup]

/-- A branch that asks a condition by its markup shows its letters if the condition is
known. -/
theorem reduce_asking_toMarkup {c : Node} (hc : Position.condition.holds c = true ∧ c.WellFormed) :
    reduce (asking c.toMarkup) =
      ((Condition.resolve c).map answered).mapError .reduce := by
  have hmessage : Node.AllWellFormed .part [.branch c [.text "a"] [.text "b"]] :=
    ⟨rfl, ⟨hc, by decide, by decide⟩, by simp, trivial⟩
  rw [reduce_of_listToMarkup_eq hmessage]
  · exact congrArg (Except.mapError MarkupError.reduce) (Node.reduceMessage_asking c "a" "b")
  · simp only [Node.listToMarkup, Node.renderList, Node.render, asking, Node.toMarkup,
      ← String.toList_inj]
    simp

/-- The markup of an offending node fails with the offence. -/
theorem reduce_reproduction_of_offends {v : Visit} {e : ReduceError} {s : String}
    (hv : v.WellFormed) (he : Offends v e) (hs : e.reproduction? = some s) :
    reduce s = .error (.reduce e) := by
  cases he with
  | @condition c h =>
    obtain rfl := Option.some.inj hs
    rw [reduce_asking_toMarkup hv, Condition.resolve_of_ne_shape h]
    rfl
  | @dangling f ps h =>
    obtain rfl := Option.some.inj hs
    rw [reduce_toMarkup rfl hv]
    rcases h with rfl | rfl <;> rfl
  | @call ps h =>
    obtain rfl := Option.some.inj hs
    rw [reduce_toMarkup rfl hv, (Node.IsLookup.call ps).reduceMessage_eq,
      Slot.resolve_of_ne_shape h]
    rfl
  | @tag t ps ht h =>
    obtain rfl := Option.some.inj hs
    rw [reduce_toMarkup (n := .tag t ps) rfl (Node.wellFormed_asElement.mp hv),
      (Node.IsLookup.tag ht ps).reduceMessage_eq,
      Slot.resolve_of_ne_shape h]
    rfl
  | inner | wrapper | number | object => contradiction

/-- An error is reproduced by its own markup, whatever the markup was that it came from. -/
theorem reduce_reproduction {markup s : String} {e : ReduceError}
    (h : reduce markup = .error (.reduce e)) (hs : e.reproduction? = some s) :
    reduce s = .error (.reduce e) := by
  obtain ⟨_, -, heq⟩ | ⟨_, -, _, -, heq⟩ | ⟨message, hread, r, hreduce, heq⟩ :=
    reduce_eq_error_iff.mp h
  · contradiction
  · contradiction
  · obtain rfl := MarkupError.reduce.inj heq
    have hwellFormed := wellFormed_of_nodes hread
    have hwalk : EndsAtFirst Offends (Node.visitsList message) (Node.reduceMessage message) :=
      Node.reduceList_endsAtFirst [] (by decide) hwellFormed
    rw [hreduce] at hwalk
    obtain ⟨before, v, after, hvisits, -, hv⟩ := hwalk
    have hmem : v ∈ Node.visitsList message := by simp [hvisits]
    exact reduce_reproduction_of_offends
      (Node.wellFormed_of_mem_visitsList hwellFormed v hmem) hv hs

/-- The offending node that an error names is to blame by itself, however deep it was found:
as the condition of a branch an unknown condition is unknown again, and the markup of an
unknown lookup or of a dangling call fails just like that. -/
theorem reduce_culprit {markup : String} {e : ReduceError}
    (h : reduce markup = .error (.reduce e)) :
    (∀ n, e = .unknownCondition n →
      reduce (asking n.toMarkup) = .error (.reduce (.unknownCondition n))) ∧
    ∀ n, e = .unknownSlot n ∨ e = .danglingFunction n →
      reduce n.toMarkup = .error (.reduce e) := by
  constructor
  · rintro n rfl
    exact reduce_reproduction h rfl
  · rintro n (rfl | rfl) <;> exact reduce_reproduction h rfl

/-- The theorem at a tag that is the condition of a branch in a wrapper in a branch, at a
lookup in two wrappers, and at a call in a wrapper. -/
theorem reduce_culprit_nested :
    (reduce ("<If(PlayerParameter(7))>you" ++
        "<Clickable(<If(<Sheet(ObjStr,<Sheet/>)/>)>x<Else/></If>)/><Else/></If>") =
      .error (.reduce
        (.unknownCondition (.tag .sheet [.object .objStr, .element .sheet [] none]))) ∧
    reduce (asking "<Sheet(ObjStr,<Sheet/>)/>") =
      .error (.reduce
        (.unknownCondition (.tag .sheet [.object .objStr, .element .sheet [] none])))) ∧
    (reduce "<Clickable(<Clickable(<Sheet(ObjStr,7)/>)/>)/>" =
      .error (.reduce (.unknownSlot (.tag .sheet [.object .objStr, .number 7]))) ∧
    reduce "<Sheet(ObjStr,7)/>" =
      .error (.reduce (.unknownSlot (.tag .sheet [.object .objStr, .number 7])))) ∧
    reduce "so <Clickable(Equal(1))/>" =
      .error (.reduce (.danglingFunction (.call .equal [.number 1]))) ∧
    reduce "Equal(1)" = .error (.reduce (.danglingFunction (.call .equal [.number 1]))) := by
  have hcondition : reduce ("<If(PlayerParameter(7))>you" ++
        "<Clickable(<If(<Sheet(ObjStr,<Sheet/>)/>)>x<Else/></If>)/><Else/></If>") =
      .error (.reduce
        (.unknownCondition (.tag .sheet [.object .objStr, .element .sheet [] none]))) := by
    have hmessage : Node.AllWellFormed .part [.branch (.fact 7) [.text "you",
        .element .clickable [.branch (.tag .sheet [.object .objStr, .element .sheet [] none])
          [.text "x"] []] none] []] := by decide
    rw [reduce_of_listToMarkup_eq hmessage (by rfl)]
    rfl
  have hslot : reduce "<Clickable(<Clickable(<Sheet(ObjStr,7)/>)/>)/>" =
      .error (.reduce (.unknownSlot (.tag .sheet [.object .objStr, .number 7]))) := by
    have hmessage : Node.AllWellFormed .part [.element .clickable [.element .clickable
        [.element .sheet [.object .objStr, .number 7] none] none] none] := by decide
    rw [reduce_of_listToMarkup_eq hmessage (by rfl)]
    rfl
  have hcall : reduce "so <Clickable(Equal(1))/>" =
      .error (.reduce (.danglingFunction (.call .equal [.number 1]))) := by
    have hmessage : Node.AllWellFormed .part
        [.text "so ", .element .clickable [.call .equal [.number 1]] none] := by decide
    rw [reduce_of_listToMarkup_eq hmessage (by rfl)]
    rfl
  have hnode : Node.toMarkup (.tag .sheet [.object .objStr, .element .sheet [] none]) =
      "<Sheet(ObjStr,<Sheet/>)/>" := rfl
  have hlookup : Node.toMarkup (.tag .sheet [.object .objStr, .number 7]) =
      "<Sheet(ObjStr,7)/>" := rfl
  have hdangling : Node.toMarkup (.call .equal [.number 1]) = "Equal(1)" := rfl
  rw [← hnode, ← hlookup, ← hdangling]
  exact ⟨⟨hcondition, (reduce_culprit hcondition).1 _ rfl⟩,
    ⟨hslot, (reduce_culprit hslot).2 _ (.inl rfl)⟩,
    hcall, (reduce_culprit hcall).2 _ (.inr rfl)⟩

end Markup

end LogMarkup
