import LogMarkup.Proofs.FirstError
import LogMarkup.Proofs.RoundTrip

/-!
# The first offending node

Reduction fails at the first node that has no meaning where it stands.  Which nodes it
comes to, and in which order, is said here by a list; when a node offends, and how, by a
relation.  Neither mentions guards or participants, nor does a node behind the first
offending one matter.

Main results:

- `Node.reduce_endsAtFirst`, `Node.reduceList_endsAtFirst`: reduction is the walk through
  the visited nodes that ends at the first offence.
- `Markup.reduceMessage_firstOffence`: a message that was read reduces exactly if no
  visited node offends, and otherwise fails with the first offence.
-/

namespace LogMarkup

/-- A node that reduction comes to. -/
inductive Visit where
  /-- The condition of a branch. -/
  | condition (node : Node)
  /-- A part that shows text. -/
  | leaf (node : Node)
deriving DecidableEq, Repr

namespace Node

mutual

/-- The nodes that reduction of a node comes to: of a branch its condition, and then its
sides; of a wrapper around one part that part.  The parameters of other nodes are not
visited. -/
def visits : Node → List Visit
  | branch c yes no => .condition c :: (visitsList yes ++ visitsList no)
  | element .clickable [p] none => p.visits
  | n => [.leaf n]

/-- The nodes that reduction of a sequence comes to, from left to right. -/
def visitsList : List Node → List Visit
  | [] => []
  | n :: ns => n.visits ++ visitsList ns

end

end Node

/-- The visited node has no meaning where it stands. -/
inductive Offends : Visit → ReduceError → Prop
  /-- No condition is asked like this. -/
  | condition {c : Node} (h : ∀ k : Condition, c ≠ k.shape) :
      Offends (.condition c) (.unknownCondition c)
  /-- The call only answers conditions. -/
  | dangling {f : FunctionName} {ps : List Node} (h : f = .equal ∨ f = .playerParameter) :
      Offends (.leaf (.call f ps)) (.danglingFunction (.call f ps))
  /-- No slot is mentioned by such a call. -/
  | call {ps : List Node} (h : ∀ s : Slot, .call .objectParameter ps ≠ s.shape) :
      Offends (.leaf (.call .objectParameter ps)) (.unknownSlot (.call .objectParameter ps))
  /-- No slot is mentioned by such a tag. -/
  | tag {t : TagName} {ps : List Node} (ht : t = .sheet ∨ t = .sheetEn)
      (h : ∀ s : Slot, .tag t ps ≠ s.shape) :
      Offends (.leaf (.element t ps none)) (.unknownSlot (.tag t ps))
  /-- A lookup holds text. -/
  | inner {t : TagName} {ps : List Node} {text : String} (ht : t = .sheet ∨ t = .sheetEn) :
      Offends (.leaf (.element t ps (some text))) (.invalidTag t ps text)
  /-- A wrapper holds neither just a text nor just one part. -/
  | wrapper {ps : List Node} {inner : Option String}
      (h : ¬ (ps = [] ∧ inner ≠ none)) (h' : ¬ (ps.length = 1 ∧ inner = none)) :
      Offends (.leaf (.element .clickable ps inner)) (.unexpectedClickable ps)
  /-- A number shows no text. -/
  | number {i : Int} : Offends (.leaf (.number i)) (.unexpectedNumber i)
  /-- An object shows no text. -/
  | object {o : ObjectName} : Offends (.leaf (.object o)) (.unexpectedObject o)

/-- A visited node offends in at most one way. -/
theorem Offends.unique {v : Visit} {e e' : ReduceError} (h : Offends v e)
    (h' : Offends v e') : e = e' := by
  cases h <;> cases h' <;> simp_all

theorem not_offends_text {s : String} (e : ReduceError) : ¬ Offends (.leaf (.text s)) e := by
  rintro ⟨⟩

/-- A condition offends exactly if it is not resolved. -/
theorem Condition.resolve_endsAtFirst (c : Node) :
    EndsAtFirst Offends [.condition c] (Condition.resolve c) := by
  have hlookup : Condition.resolve c =
      (Condition.ofNode? c).elim (.error (.unknownCondition c)) .ok := by
    unfold Condition.resolve
    cases Condition.ofNode? c <;> rfl
  apply EndsAtFirst.lookup hlookup
  · intro k hk e he
    obtain ⟨h⟩ := he
    exact h k (Condition.ofNode?_eq_some_iff.mp hk)
  · intro hnone
    exact .condition (Condition.ofNode?_eq_none_iff.mp hnone)

/-- A leaf that mentions a slot, or else offends, is resolved as such. -/
theorem Slot.resolve_endsAtFirst {n m : Node}
    (hshape : ∀ s : Slot, m = s.shape → ∀ e, ¬ Offends (.leaf n) e)
    (hoffends : (∀ s : Slot, m ≠ s.shape) → Offends (.leaf n) (.unknownSlot m))
    (gs : List Guard) :
    EndsAtFirst Offends [.leaf n] (do
      let slot ← Slot.resolve m
      return [⟨gs, Text.slot slot⟩] : Except ReduceError (List Item)) := by
  have hlookup : Slot.resolve m = (Slot.ofNode? m).elim (.error (.unknownSlot m)) .ok := by
    unfold Slot.resolve
    cases Slot.ofNode? m <;> rfl
  apply EndsAtFirst.bind_ok
  · apply EndsAtFirst.lookup hlookup
    · intro s hs
      exact hshape s (Slot.ofNode?_eq_some_iff.mp hs)
    · intro hnone
      exact hoffends (Slot.ofNode?_eq_none_iff.mp hnone)
  · intro slot
    exact ⟨_, rfl⟩

namespace Node

/-- A lookup without text mentions a slot, or offends. -/
theorem reduce_lookup_endsAtFirst {t : TagName} (ht : t = .sheet ∨ t = .sheetEn)
    (ps : List Node) (gs : List Guard) :
    EndsAtFirst Offends [.leaf (element t ps none)] (do
      let slot ← Slot.resolve (.tag t ps)
      return [⟨gs, Text.slot slot⟩] : Except ReduceError (List Item)) := by
  apply Slot.resolve_endsAtFirst
  · intro s hs e he
    cases he with
    | tag _ h => exact h s hs
    | wrapper h h' => simp at ht
  · exact Offends.tag ht

mutual

/-- Reduction is the walk through the visited nodes that ends at the first offence. -/
theorem reduce_endsAtFirst (gs : List Guard) : ∀ {n : Node} {p : Position},
    p ≠ .condition → p.holds n = true → n.WellFormed →
    EndsAtFirst Offends n.visits (reduce gs n)
  | text s, _, _, _, _ => EndsAtFirst.passed not_offends_text _
  | object o, _, _, _, _ => EndsAtFirst.error .object
  | number i, _, _, _, _ => EndsAtFirst.error .number
  | tag t ps, p, hp, hholds, _ => by cases p <;> contradiction
  | call .equal ps, _, _, _, _ => EndsAtFirst.error (.dangling (.inl rfl))
  | call .playerParameter ps, _, _, _, _ => EndsAtFirst.error (.dangling (.inr rfl))
  | call .objectParameter ps, _, _, _, _ => by
      refine Slot.resolve_endsAtFirst ?_ .call gs
      intro s hs e he
      cases he with
      | dangling h => simp at h
      | call h => exact h s hs
  | element .clickable [] (some s), _, _, _, _ => by
      apply EndsAtFirst.passed
      intro e he
      cases he with
      | inner ht => simp at ht
      | wrapper h h' => simp at h
  | element .clickable [q] none, _, _, _, h =>
      @reduce_endsAtFirst gs q .param (by decide) h.1.1 h.1.2.1
  | element .clickable [] none, _, _, _, _
  | element .clickable [_] (some _), _, _, _, _
  | element .clickable (_ :: _ :: _) none, _, _, _, _
  | element .clickable (_ :: _ :: _) (some _), _, _, _, _ =>
      EndsAtFirst.error (.wrapper (by simp) (by simp))
  | element .sheet ps (some s), _, _, _, _ => EndsAtFirst.error (.inner (.inl rfl))
  | element .sheetEn ps (some s), _, _, _, _ => EndsAtFirst.error (.inner (.inr rfl))
  | element .sheet ps none, _, _, _, _ => reduce_lookup_endsAtFirst (.inl rfl) ps gs
  | element .sheetEn ps none, _, _, _, _ => reduce_lookup_endsAtFirst (.inr rfl) ps gs
  | branch c yes no, _, _, _, h => by
      rw [visits, reduce]
      refine (Condition.resolve_endsAtFirst c).bind fun k _ => ?_
      refine (reduceList_endsAtFirst _ (by decide) h.2.1).bind fun ys _ => ?_
      refine (reduceList_endsAtFirst _ (by decide) h.2.2).bind_ok fun ns => ?_
      exact ⟨ys ++ ns, rfl⟩

/-- The same for a sequence: its nodes are visited from left to right. -/
theorem reduceList_endsAtFirst (gs : List Guard) : ∀ {ns : List Node} {p : Position},
    p ≠ .condition → AllWellFormed p ns →
    EndsAtFirst Offends (visitsList ns) (reduceList gs ns)
  | [], _, _, _ => EndsAtFirst.ok _
  | n :: ns, p, hp, h => by
      rw [visitsList, reduceList]
      refine (reduce_endsAtFirst gs hp h.1 h.2.1).bind fun xs _ => ?_
      refine (reduceList_endsAtFirst gs hp h.2.2.2).bind_ok fun ys => ?_
      exact ⟨xs ++ ys, rfl⟩

end

end Node

namespace Markup

/-- A message that was read reduces exactly if none of the visited nodes offends, and
otherwise fails with the offence of the first one that does. -/
theorem reduceMessage_firstOffence {markup : String} {message : List Node}
    (h : nodes markup = .ok message) :
    ((∃ r, Node.reduceMessage message = .ok r) ↔
      ∀ v ∈ Node.visitsList message, ∀ e, ¬ Offends v e) ∧
    ∀ e, Node.reduceMessage message = .error e ↔
      ∃ before v after, Node.visitsList message = before ++ v :: after ∧
        (∀ u ∈ before, ∀ e', ¬ Offends u e') ∧ Offends v e := by
  have hwalk : EndsAtFirst Offends (Node.visitsList message) (Node.reduceMessage message) :=
    Node.reduceList_endsAtFirst [] (by decide) (wellFormed_of_nodes h)
  refine ⟨hwalk.exists_eq_ok_iff, fun e => EndsAtFirst.eq_error_iff ?_ hwalk⟩
  intro v e e' he he'
  exact he.unique he'

/-- The theorem at a wrapper around a branch.  Behind the known condition and the plain
text comes a lookup that mentions no slot; the call behind it offends too, but later. -/
theorem reduceMessage_firstOffence_sheet :
    nodes "<Clickable(<If(PlayerParameter(7))>you<Sheet/><Else/>Equal(1)</If>)/>" =
      .ok [.element .clickable [.branch (.fact 7) [.text "you", .element .sheet [] none]
        [.call .equal [.number 1]]] none] ∧
    Node.reduceMessage [.element .clickable [.branch (.fact 7)
        [.text "you", .element .sheet [] none] [.call .equal [.number 1]]] none] =
      .error (.unknownSlot (.tag .sheet [])) := by
  have hread : nodes "<Clickable(<If(PlayerParameter(7))>you<Sheet/><Else/>Equal(1)</If>)/>" =
      .ok [.element .clickable [.branch (.fact 7) [.text "you", .element .sheet [] none]
        [.call .equal [.number 1]]] none] :=
    nodes_of_listToMarkup_eq (by decide) rfl
  refine ⟨hread, ((reduceMessage_firstOffence hread).2 _).mpr ?_⟩
  refine ⟨[.condition (.fact 7), .leaf (.text "you")], .leaf (.element .sheet [] none),
    [.leaf (.call .equal [.number 1])], rfl, ?_, ?_⟩
  · intro u hu e he
    rcases List.mem_pair.mp hu with rfl | rfl
    · obtain ⟨h⟩ := he
      exact h .originPlayer rfl
    · exact not_offends_text e he
  · exact .tag (.inl rfl) (by intro s; cases s <;> decide)

end Markup

end LogMarkup
