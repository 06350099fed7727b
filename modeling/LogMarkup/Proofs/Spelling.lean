import LogMarkup.Concrete.Tree
import LogMarkup.Proofs.Lookahead

/-!
# Reading undoes spelling

The parser reads a text exactly if it is the spelling of a well-formed message, and then
it reads that message.  No other message has the same spelling, although the terminals
overlap and a text ends wherever a call happens to begin.

Main results:

- `Concrete.reaches_message_iff`: the messages that chains complete are those that are
  spelled like the text.
- `Concrete.parse_eq_ok_iff`: a text is read as a message exactly if it is its spelling.
- `Concrete.tree_of_spelling`: the same for derivation trees, and the message is unique.
-/

namespace LogMarkup

/-- A longest match spells punctuation as it is. -/
theorem Scans.map_respelled {s rest : List Char} {ls : List Lexeme} (h : Scans s ls rest) :
    ls.map Lexeme.respelled = ls := by
  induction h with
  | nil => rfl
  | @cons l ls _ _ _ hmatch _ ih =>
    obtain ⟨hadmits, -, -⟩ := Terminal.match?_eq_some_iff.mp hmatch
    have hrespelled : l.respelled = l := by
      obtain ⟨t, w⟩ := l
      cases t <;> simp_all [Lexeme.respelled, Terminal.literal?, Terminal.Admits]
    rw [List.map_cons, hrespelled, ih]

/-- A reading is finished when nothing is open. -/
theorem Reading.finished?_eq_some_iff {r : Reading} {m : List Part} :
    r.finished? = some m ↔ r = ⟨.start, .message m.reverse⟩ := by
  constructor
  · intro h
    unfold finished? at h
    split at h
    next read =>
      obtain rfl := Option.some.inj h
      rw [List.reverse_reverse]
    next => contradiction
  · rintro rfl
    simp [finished?]

namespace Concrete

open Reading

/-- The messages that chains complete are those that are spelled like the text. -/
theorem reaches_message_iff {s : List Char} {m : List Part} :
    initial.Reaches s ⟨.start, .message m.reverse⟩ [] ↔
      AllWellFormed .part m ∧ listChars m = s := by
  constructor
  · rintro ⟨ls, hscans, hrun⟩
    obtain ⟨hshaped, hlexemes⟩ := run_initial_eq_message_iff.mp hrun
    rw [List.reverse_reverse] at hshaped hlexemes
    rw [hscans.map_respelled] at hlexemes
    subst hlexemes
    obtain ⟨hm, hs⟩ := (scans_listLexemes_iff m hshaped Terminal.ends_text_nil).mp hscans
    exact ⟨hm, by rw [hs, List.append_nil]⟩
  · rintro ⟨hm, rfl⟩
    refine ⟨listLexemes m, hm.scans, run_initial_eq_message_iff.mpr ?_⟩
    rw [List.reverse_reverse, hm.scans.map_respelled]
    exact ⟨hm.allShaped, rfl⟩

/-- Two messages that are spelled alike are the same. -/
theorem eq_of_listChars_eq {m m' : List Part} (hm : AllWellFormed .part m)
    (hm' : AllWellFormed .part m') (h : listChars m = listChars m') : m = m' := by
  obtain ⟨ls, hls, hrun⟩ := reaches_message_iff.mpr ⟨hm, rfl⟩
  obtain ⟨ks, hks, hrun'⟩ := reaches_message_iff.mpr ⟨hm', h.symm⟩
  obtain rfl := completed_unique hls hks hrun hrun'
  have hread : m.reverse = m'.reverse := by
    simpa using hrun.symm.trans hrun'
  exact List.reverse_injective hread

/-- A text is read as a message exactly if it is the spelling of the message. -/
theorem parse_eq_ok_iff {s : List Char} {m : List Part} :
    parse s = .ok m ↔ AllWellFormed .part m ∧ listChars m = s := by
  have hdescribes := describes_explore initial s
  unfold parse
  constructor
  · intro h
    split at h
    next m' hexplore =>
      obtain rfl : m' = m := Except.ok.inj h
      rw [hexplore] at hdescribes
      obtain ⟨r, hreaches, hfinished⟩ := hdescribes
      obtain rfl := finished?_eq_some_iff.mp hfinished
      exact reaches_message_iff.mp hreaches
    next => contradiction
  · intro h
    split
    next m' hexplore =>
      rw [hexplore] at hdescribes
      obtain ⟨r, hreaches, hfinished⟩ := hdescribes
      obtain rfl := finished?_eq_some_iff.mp hfinished
      obtain ⟨hm', hs⟩ := reaches_message_iff.mp hreaches
      rw [eq_of_listChars_eq hm' h.1 (hs.trans h.2.symm)]
    next l e hexplore =>
      rw [hexplore] at hdescribes
      have hnone := hdescribes.1 _ (reaches_message_iff.mpr h)
      rw [finished?_eq_some_iff.mpr rfl] at hnone
      contradiction

/-- The message is read with the places of its words. -/
theorem parseLocated_eq_ok_iff {s : List Char} {xs : List (Concrete Place)} :
    parseLocated s = .ok xs ↔
      ∃ m : List Part, (AllWellFormed .part m ∧ listChars m = s) ∧
        locateList Place.start m = xs := by
  unfold parseLocated
  constructor
  · intro h
    cases hparse : parse s with
    | error e =>
      rw [hparse] at h
      contradiction
    | ok m =>
      rw [hparse] at h
      exact ⟨m, parse_eq_ok_iff.mp hparse, Except.ok.inj h⟩
  · rintro ⟨m, hm, rfl⟩
    rw [parse_eq_ok_iff.mpr hm]
    rfl

/-- A derivation tree is read from a text exactly if the text is the spelling of a
well-formed message.  That message is then the only one, and the tree is its tree. -/
theorem tree_of_spelling (s : List Char) :
    ((∃ t, (parseLocated s).map messageTree = .ok t) ↔
      ∃ m : List Part, AllWellFormed .part m ∧ listChars m = s) ∧
    ∀ m : List Part, AllWellFormed .part m ∧ listChars m = s →
      (∀ m' : List Part, AllWellFormed .part m' ∧ listChars m' = s → m' = m) ∧
      (parseLocated s).map messageTree = .ok (messageTree (locateList Place.start m)) := by
  have htree : ∀ m : List Part, AllWellFormed .part m ∧ listChars m = s →
      (parseLocated s).map messageTree = .ok (messageTree (locateList Place.start m)) := by
    intro m hm
    rw [parseLocated_eq_ok_iff.mpr ⟨m, hm, rfl⟩]
    rfl
  refine ⟨⟨?_, ?_⟩, ?_⟩
  · rintro ⟨t, ht⟩
    cases hparse : parseLocated s with
    | error e =>
      rw [hparse] at ht
      contradiction
    | ok xs =>
      obtain ⟨m, hm, -⟩ := parseLocated_eq_ok_iff.mp hparse
      exact ⟨m, hm⟩
  · rintro ⟨m, hm⟩
    exact ⟨_, htree m hm⟩
  · intro m hm
    refine ⟨?_, htree m hm⟩
    rintro m' ⟨hm', hs'⟩
    exact eq_of_listChars_eq hm' hm.1 (hs'.trans hm.2.symm)

/-- The theorem at a text and an object that both begin like a call. -/
theorem tree_of_spelling_equality :
    (∀ m : List Part, AllWellFormed .part m ∧ listChars m = "Equality<A/>Equal(Equal)".toList →
      m = [.text (.bare "Equality".toList), .single (.bare ['A']) [],
        .call (.bare "Equal".toList) [.object (.bare "Equal".toList)]]) ∧
    (parseLocated "Equality<A/>Equal(Equal)".toList).map messageTree =
      .ok (.node .start [.node .text [.leaf .text ⟨"Equality".toList, ⟨1, 1⟩⟩],
        .node .element [.node .autoClosingTag [.leaf .tagName ⟨['A'], ⟨1, 10⟩⟩]],
        .node .function [.leaf .functionName ⟨"Equal".toList, ⟨1, 13⟩⟩,
          .node .objectLiteral [.leaf .objectName ⟨"Equal".toList, ⟨1, 19⟩⟩]]]) := by
  have hm : AllWellFormed .part [(.text (.bare "Equality".toList) : Part),
      .single (.bare ['A']) [],
      .call (.bare "Equal".toList) [.object (.bare "Equal".toList)]] := by
    refine ⟨rfl, ⟨by decide, by decide, by decide⟩, by decide, rfl, ⟨?_, trivial⟩, by decide,
      rfl, ⟨⟨.equal, rfl⟩, by decide, rfl, ?_, by decide, trivial⟩, by decide, trivial⟩
    · exact ⟨⟨⟨'A', rfl, rfl⟩, List.all_eq_true.mp rfl⟩, by decide⟩
    · exact ⟨⟨'E', rfl, rfl⟩, List.all_eq_true.mp rfl⟩
  exact (tree_of_spelling "Equality<A/>Equal(Equal)".toList).2 _ ⟨hm, rfl⟩

end Concrete

end LogMarkup
