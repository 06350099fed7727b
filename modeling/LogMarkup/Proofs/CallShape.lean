import LogMarkup.Proofs.Batch
import LogMarkup.Proofs.CanonicalForm
import LogMarkup.Proofs.Composition

/-!
# Shapes of calls and tags

Conditions and name slots are looked up in two tables of nodes.  Markup is text, though,
and one call can be written in many ways.  Since rendering is injective on what markup can
say, the tables are tables of texts after all: a call or a tag has a meaning exactly if its
canonical form is the text of an entry, and otherwise the error names that form.

Main results:

- `Node.eq_of_render_eq`: two calls or tags that are rendered alike are the same.
- `Markup.reduce_asking`: a branch between two texts reduces to them if its condition is
  known.
- `Markup.reduce_of_canonical`: the tables at the level of markup.
-/

namespace LogMarkup

/-! ## Lookups -/

/-- A condition is known if it has a shape of the table. -/
theorem Condition.resolve_shape (k : Condition) : resolve k.shape = .ok k :=
  resolve_eq_ok_iff.mpr (ofNode?_eq_some_iff.mpr rfl)

/-- Otherwise the error is about the node. -/
theorem Condition.resolve_of_ne_shape {n : Node} (h : ∀ k : Condition, n ≠ k.shape) :
    resolve n = .error (.unknownCondition n) := by
  rw [resolve, ofNode?_eq_none_iff.mpr h]

/-- A slot is known if it has a shape of the table. -/
theorem Slot.resolve_shape (s : Slot) : resolve s.shape = .ok s :=
  resolve_eq_ok_iff.mpr (ofNode?_eq_some_iff.mpr rfl)

/-- Otherwise the error is about the node. -/
theorem Slot.resolve_of_ne_shape {n : Node} (h : ∀ s : Slot, n ≠ s.shape) :
    resolve n = .error (.unknownSlot n) := by
  rw [resolve, ofNode?_eq_none_iff.mpr h]

/-- The shapes of conditions are what markup can say where a condition stands. -/
theorem Condition.wellFormed_shape (k : Condition) :
    Position.condition.holds k.shape = true ∧ k.shape.WellFormed := by
  cases k <;> decide

/-- The shapes of slots could stand there too. -/
theorem Slot.wellFormed_shape (s : Slot) :
    Position.condition.holds s.shape = true ∧ s.shape.WellFormed := by
  cases s <;> decide

namespace Node

/-! ## Rendering is injective -/

/-- Two calls or tags that are rendered alike are the same, since the branches that ask
them are read back from one text. -/
theorem eq_of_render_eq {c d : Node} (hc : Position.condition.holds c = true ∧ c.WellFormed)
    (hd : Position.condition.holds d = true ∧ d.WellFormed) (h : c.render = d.render) :
    c = d := by
  have hasked : ∀ {n : Node}, Position.condition.holds n = true ∧ n.WellFormed →
      AllWellFormed .part [branch n [] []] := by
    intro n hn
    exact ⟨rfl, ⟨hn, trivial, trivial⟩, by simp [isText], trivial⟩
  have hread := Markup.nodes_of_wellFormed (hasked hc)
  have hread' : Markup.nodes (listToMarkup [branch c [] []]) = .ok [branch d [] []] :=
    Markup.nodes_of_listToMarkup_eq (hasked hd) (by simp [listToMarkup, renderList, render, h])
  have hsame := Except.ok.inj (hread.symm.trans hread')
  injection hsame with hbranch
  injection hbranch

/-- The same for strings. -/
theorem eq_of_toMarkup_eq {c d : Node} (hc : Position.condition.holds c = true ∧ c.WellFormed)
    (hd : Position.condition.holds d = true ∧ d.WellFormed) (h : c.toMarkup = d.toMarkup) :
    c = d :=
  eq_of_render_eq hc hd (String.ofList_injective h)

/-! ## Tags where text is shown -/

theorem toMarkup_asElement (n : Node) : n.asElement.toMarkup = n.toMarkup := by
  cases n <;> rfl

theorem wellFormed_asElement {n : Node} : n.asElement.WellFormed ↔ n.WellFormed := by
  cases n <;> simp [asElement, WellFormed]

/-- The node is looked up among the slots where text is shown. -/
inductive IsLookup : Node → Prop
  /-- A mention of a participant. -/
  | call (ps : List Node) : IsLookup (call .objectParameter ps)
  /-- A lookup tag. -/
  | tag {t : TagName} (ht : t = .sheet ∨ t = .sheetEn) (ps : List Node) : IsLookup (tag t ps)

/-- What is looked up could stand as a condition. -/
theorem IsLookup.holds {n : Node} (h : n.IsLookup) : Position.condition.holds n = true := by
  cases h <;> rfl

/-- A message of one node reduces as the node. -/
theorem reduceMessage_singleton (n : Node) : reduceMessage [n] = reduce [] n := by
  rw [reduceMessage, reduceList_cons, reduceList_nil]
  cases reduce [] n with
  | error e => rfl
  | ok items => exact congrArg Except.ok (List.append_nil items)

/-- What is looked up shows the slot that it mentions. -/
theorem IsLookup.reduceMessage_eq {n : Node} (h : n.IsLookup) :
    reduceMessage [n.asElement] = (Slot.resolve n).map fun s => [⟨[], .slot s⟩] := by
  have hreduce : reduce [] n.asElement = (do
      let slot ← Slot.resolve n
      return [⟨[], .slot slot⟩]) := by
    cases h with
    | call ps => rfl
    | tag ht ps => rcases ht with rfl | rfl <;> rfl
  rw [reduceMessage_singleton, hreduce]
  cases Slot.resolve n <;> rfl

/-- A branch between two texts shows them under its condition. -/
theorem reduceMessage_asking (c : Node) (s t : String) :
    reduceMessage [branch c [text s] [text t]] =
      (Condition.resolve c).map fun k =>
        [⟨[⟨k, true⟩], .static s⟩, ⟨[⟨k, false⟩], .static t⟩] := by
  rw [reduceMessage_singleton, reduce]
  cases Condition.resolve c <;> rfl

end Node

/-! ## Canonical markup -/

/-- The canonical form of a part as a string. -/
def Concrete.canonicalMarkup (x : Part) : String := String.ofList x.canonical.chars

namespace Concrete

/-- What is built of a part is rendered as its canonical form. -/
theorem toMarkup_of_build {x : Part} (hx : x.WellFormed) {n : Node} (h : x.build = .ok n) :
    n.toMarkup = x.canonicalMarkup := by
  rw [canonicalMarkup, ← toConcrete_of_build hx h, Node.chars_toConcrete, Node.toMarkup]

/-- So is the condition that a part is understood as. -/
theorem toMarkup_asCondition {x : Part} (hx : x.WellFormed) {n : Node} (h : x.build = .ok n) :
    (x.asCondition n).toMarkup = x.canonicalMarkup := by
  rw [canonicalMarkup, ← toConcrete_of_build hx h, ← toConcrete_asCondition h,
    Node.chars_toConcrete, Node.toMarkup]

/-- The condition that a part is understood as is what markup can say there. -/
theorem condition_of_build {x : Part} (hx : x.WellFormed)
    (hadmits : Position.condition.admits x = true) {n : Node} (h : x.build = .ok n) :
    Position.condition.holds (x.asCondition n) = true ∧ (x.asCondition n).WellFormed :=
  ⟨holds_of_build h hadmits, wellFormed_asCondition x (hx.build h)⟩

end Concrete

namespace Markup

open Concrete (parse)

/-- A branch that shows one of two letters. -/
def asking (condition : String) : String := "<If(" ++ condition ++ ")>a<Else/>b</If>"

/-- The two letters under the answers to a condition. -/
def answered (k : Condition) : Reduction :=
  [⟨[⟨k, true⟩], .static "a"⟩, ⟨[⟨k, false⟩], .static "b"⟩]

/-- A branch between two letters shows them if its condition is known, however the
condition is spelled. -/
theorem reduce_asking {c : String} {x : Part} {n : Node} (hparse : parse c.toList = .ok [x])
    (hadmits : Position.condition.admits x = true) (hnodes : nodes c = .ok [n]) :
    reduce (asking c) =
      ((Condition.resolve (x.asCondition n)).map answered).mapError .reduce := by
  have ha : nodes "a" = .ok [.text "a"] := nodes_of_listToMarkup_eq (by decide) (by decide)
  have hb : nodes "b" = .ok [.text "b"] := nodes_of_listToMarkup_eq (by decide) (by decide)
  have hasking : asking c = "<If(" ++ c ++ ")>" ++ "a" ++ "<Else/>" ++ "b" ++ "</If>" := by
    simp only [asking, String.append_assoc]
    rfl
  rw [hasking, reduce_eq_bind, nodes_branch hparse hadmits hnodes ha hb]
  exact congrArg (Except.mapError MarkupError.reduce) (Node.reduceMessage_asking _ "a" "b")

/-- A single node is built of the single part that is read. -/
theorem exists_parse_of_nodes {d : String} {n : Node} (h : nodes d = .ok [n]) :
    ∃ y : Part, parse d.toList = .ok [y] ∧ y.WellFormed ∧ y.build = .ok n := by
  obtain ⟨m, hm, hspelled, hbuild⟩ := nodes_eq_ok_iff_build.mp h
  cases m with
  | nil => exact absurd (Except.ok.inj hbuild) (List.cons_ne_nil n []).symm
  | cons y ys =>
    obtain ⟨n', ns, hn, hns, hcons⟩ := Concrete.buildList_cons_eq_ok_iff.mp hbuild
    obtain ⟨rfl, rfl⟩ := List.cons.inj hcons
    cases ys with
    | nil => exact ⟨y, Concrete.parse_eq_ok_iff.mpr ⟨hm, hspelled⟩, hm.2.1, hn⟩
    | cons z zs =>
      obtain ⟨_, _, -, -, hnil⟩ := Concrete.buildList_cons_eq_ok_iff.mp hns
      contradiction

/-- The tables are closed at the level of markup.  A single call or tag as a condition is
known exactly if its canonical form is that of a shape, and otherwise the error names that
form.  The same holds of what is looked up among the slots where text is shown. -/
theorem reduce_of_canonical :
    (∀ (c : String) (x : Part) (n : Node), parse c.toList = .ok [x] →
      Position.condition.admits x = true → nodes c = .ok [n] →
      (∀ k : Condition, x.canonicalMarkup = k.shape.toMarkup →
        reduce (asking c) = .ok (answered k)) ∧
      ((∀ k : Condition, x.canonicalMarkup ≠ k.shape.toMarkup) →
        reduce (asking c) = .error (.reduce (.unknownCondition (x.asCondition n))) ∧
        (ReduceError.unknownCondition (x.asCondition n)).message =
          "Unknown condition (" ++ x.canonicalMarkup ++ ")")) ∧
    ∀ (d : String) (n : Node), n.IsLookup → nodes d = .ok [n.asElement] →
      ∃ y : Part, parse d.toList = .ok [y] ∧
        (∀ s : Slot, y.canonicalMarkup = s.shape.toMarkup →
          reduce d = .ok [⟨[], .slot s⟩]) ∧
        ((∀ s : Slot, y.canonicalMarkup ≠ s.shape.toMarkup) →
          reduce d = .error (.reduce (.unknownSlot n)) ∧
          (ReduceError.unknownSlot n).message =
            "Unknown dynamic text (" ++ y.canonicalMarkup ++ ")") := by
  constructor
  · intro c x n hparse hadmits hnodes
    obtain ⟨hx, -, hn⟩ := build_of_parse hparse hnodes
    have hmarkup := Concrete.toMarkup_asCondition hx hn
    rw [reduce_asking hparse hadmits hnodes, ← hmarkup]
    constructor
    · intro k hk
      have hcondition := Node.eq_of_toMarkup_eq (Concrete.condition_of_build hx hadmits hn)
        k.wellFormed_shape hk
      rw [hcondition, Condition.resolve_shape]
      rfl
    · intro hne
      rw [Condition.resolve_of_ne_shape fun k hk => hne k (congrArg Node.toMarkup hk)]
      exact ⟨rfl, rfl⟩
  · intro d n hlookup hnodes
    obtain ⟨y, hparse, hy, hn⟩ := exists_parse_of_nodes hnodes
    have hmarkup : n.toMarkup = y.canonicalMarkup := by
      rw [← Concrete.toMarkup_of_build hy hn, Node.toMarkup_asElement]
    have hwellFormed : n.WellFormed := Node.wellFormed_asElement.mp (hy.build hn)
    have hreduce : reduce d =
        ((Slot.resolve n).map fun s => [⟨[], .slot s⟩]).mapError .reduce := by
      rw [reduce_eq_bind, hnodes, ← hlookup.reduceMessage_eq]
      rfl
    refine ⟨y, hparse, ?_⟩
    rw [hreduce, ← hmarkup]
    constructor
    · intro s hs
      have hslot := Node.eq_of_toMarkup_eq ⟨hlookup.holds, hwellFormed⟩ s.wellFormed_shape hs
      rw [hslot, Slot.resolve_shape]
      rfl
    · intro hne
      rw [Slot.resolve_of_ne_shape fun s hs => hne s (congrArg Node.toMarkup hs)]
      exact ⟨rfl, rfl⟩

/-- The theorem at respelled shapes, and at a call and a mention that have no meaning. -/
theorem reduce_of_canonical_respelled :
    reduce (asking "PlayerParameter(007)") = .ok (answered .originPlayer) ∧
    reduce (asking "Equal(<Sheet></Sheet>,02)") = .error (.reduce
      (.unknownCondition (.call .equal [.element .sheet [] none, .number 2]))) ∧
    reduce "<Sheet(ObjStr,PlayerParameter(7),00)></Sheet>" =
      .ok [⟨[], .slot .playerOriginJp⟩] ∧
    reduce "ObjectParameter(04)" = .error (.reduce (.unknownSlot (.participant 4))) := by
  obtain ⟨hconditions, hslots⟩ := reduce_of_canonical
  have hnumber : ∀ {ds : List Char}, ds ≠ [] → ds.all Char.isDigit = true →
      Concrete.AllWellFormed .param [(.number (.bare ds) : Part)] := by
    intro ds hne hds
    exact ⟨rfl, ⟨hne, List.all_eq_true.mp hds⟩, by simp [Concrete.isText], trivial⟩
  have hplayer : Concrete.AllWellFormed .part
      [(.call (.bare "PlayerParameter".toList) [.number (.bare "007".toList)] : Part)] :=
    ⟨rfl, ⟨⟨.playerParameter, rfl⟩, by decide, hnumber (by decide) rfl⟩, by decide, trivial⟩
  have hequal : Concrete.AllWellFormed .part [(.call (.bare "Equal".toList)
      [.pair () (.bare "Sheet".toList) [] none (.bare "Sheet".toList),
        .number (.bare "02".toList)] : Part)] :=
    ⟨rfl, ⟨⟨.equal, rfl⟩, by decide, rfl,
      ⟨Node.admits_tagName .sheet, trivial, nofun, Node.admits_tagName .sheet⟩, by decide,
      hnumber (by decide) rfl⟩, by decide, trivial⟩
  have hsheet : Concrete.AllWellFormed .part [(.pair () (.bare "Sheet".toList)
      [.object (.bare "ObjStr".toList),
        .call (.bare "PlayerParameter".toList) [.number (.bare ['7'])],
        .number (.bare "00".toList)] none (.bare "Sheet".toList) : Part)] :=
    ⟨rfl, ⟨Node.admits_tagName .sheet, ⟨rfl, Node.admits_objectName .objStr, by decide, rfl,
        ⟨⟨.playerParameter, rfl⟩, by decide, hnumber (by decide) rfl⟩, by decide,
        hnumber (by decide) rfl⟩, nofun, Node.admits_tagName .sheet⟩, by decide, trivial⟩
  have hobject : Concrete.AllWellFormed .part
      [(.call (.bare "ObjectParameter".toList) [.number (.bare "04".toList)] : Part)] :=
    ⟨rfl, ⟨⟨.objectParameter, rfl⟩, by decide, hnumber (by decide) rfl⟩, by decide, trivial⟩
  refine ⟨?_, ?_, ?_, ?_⟩
  · exact (hconditions "PlayerParameter(007)" _ _
      (Concrete.parse_eq_ok_iff.mpr ⟨hplayer, rfl⟩) rfl
      (nodes_eq_ok_iff_build.mpr ⟨_, hplayer, rfl, rfl⟩)).1 .originPlayer rfl
  · exact ((hconditions "Equal(<Sheet></Sheet>,02)" _ _
      (Concrete.parse_eq_ok_iff.mpr ⟨hequal, rfl⟩) rfl
      (nodes_eq_ok_iff_build.mpr ⟨_, hequal, rfl, rfl⟩)).2 (by intro k; cases k <;> decide)).1
  · obtain ⟨y, hy, hknown, -⟩ := hslots "<Sheet(ObjStr,PlayerParameter(7),00)></Sheet>"
      (.tag .sheet [.object .objStr, .fact 7, .number 0]) (.tag (.inl rfl) _)
      (nodes_eq_ok_iff_build.mpr ⟨_, hsheet, rfl, rfl⟩)
    have hsame := hy.symm.trans (Concrete.parse_eq_ok_iff.mpr ⟨hsheet, rfl⟩)
    obtain rfl := (List.cons.inj (Except.ok.inj hsame)).1
    exact hknown .playerOriginJp rfl
  · obtain ⟨y, hy, -, hunknown⟩ := hslots "ObjectParameter(04)" (.participant 4) (.call _)
      (nodes_eq_ok_iff_build.mpr ⟨_, hobject, rfl, rfl⟩)
    have hsame := hy.symm.trans (Concrete.parse_eq_ok_iff.mpr ⟨hobject, rfl⟩)
    obtain rfl := (List.cons.inj (Except.ok.inj hsame)).1
    exact (hunknown (by intro s; cases s <;> decide)).1

end Markup

end LogMarkup
