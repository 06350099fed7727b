import LogMarkup.Proofs.Building
import LogMarkup.Proofs.Offset
import LogMarkup.Proofs.Spelling
import LogMarkup.Proofs.TreePieces

/-!
# The text of a derivation tree

Nothing of a text is lost in its derivation tree.  The pieces of the tree are the text cut
up: there is nothing between the words but the punctuation that the rules determine, and
every word bears the place at which it stands.

Main results:

- `Token.standsAt_append`: a word that bears the place behind the text before it stands
  there.
- `Tree.standsAt_of_pieces_eq`: so do the leaves of a well-formed message.
- `Tree.dissects_of_parseLocated`: a text can be rebuilt from its tree, whose leaves
  stand where their places say.
-/

namespace LogMarkup

/-! ## Words of a text -/

/-- Whatever is scanned takes something from the text. -/
theorem Scans.ne_nil_of_mem {ls : List Lexeme} {s rest : List Char} (h : Scans s ls rest)
    {l : Lexeme} (hl : l ∈ ls) : l.chars ≠ [] := by
  induction h with
  | nil s => contradiction
  | cons hmatch _ ih =>
    rcases List.mem_cons.mp hl with rfl | hl
    · exact Terminal.match?_ne_nil hmatch
    · exact ih hl

/-- The word stands in the text, with `i` characters before it, and bears its place. -/
structure Token.StandsAt (w : Token Place) (s : List Char) (i : Nat) : Prop where
  /-- There is something to be seen. -/
  ne_nil : w.chars ≠ []
  /-- The text goes on with the word there. -/
  isPrefix : w.chars <+: s.drop i
  /-- The place of the word is the place there. -/
  place : w.mark.Denotes s i
  /-- The word ends on the line of its last character, one column further than that. -/
  last : ∃ p : Place, p.Denotes s (i + w.chars.length - 1) ∧
    w.mark.endOf w.chars = ⟨p.line, p.column + 1⟩

/-- A nonempty word stands behind the text before it. -/
theorem Token.standsAt_append {w : Token Place} (hw : w.chars ≠ []) (front rest : List Char)
    (hmark : w.mark = Place.start.after front) :
    w.StandsAt (front ++ (w.chars ++ rest)) front.length := by
  constructor
  case ne_nil => exact hw
  case isPrefix =>
    rw [List.drop_left]
    exact List.prefix_append w.chars rest
  case place =>
    rw [hmark]
    exact Place.denotes_after front (w.chars ++ rest)
  case last =>
    refine ⟨w.mark.after w.chars.dropLast, ?_, rfl⟩
    have hdenotes := Place.denotes_after (front ++ w.chars.dropLast)
      ([w.chars.getLast hw] ++ rest)
    have htext : front ++ w.chars.dropLast ++ ([w.chars.getLast hw] ++ rest) =
        front ++ (w.chars ++ rest) := by
      rw [← List.append_assoc, List.append_assoc front, List.dropLast_append_getLast,
        List.append_assoc]
    have hlength : (front ++ w.chars.dropLast).length = front.length + w.chars.length - 1 := by
      have hpos := List.length_pos_iff.mpr hw
      rw [List.length_append, List.length_dropLast]
      omega
    rwa [htext, hlength, Place.after_append, ← hmark] at hdenotes

/-! ## Texts cut up -/

namespace Tree

/-- The tree is that of the text: its leaves are words of the text, bear the places at
which they stand there, and there is nothing between them but the punctuation that the
rules of the tree determine. -/
structure Dissects (t : Tree Place) (s : List Char) : Prop where
  /-- The text can be rebuilt from the tree. -/
  spell : Piece.spell t.pieces = s
  /-- What is not punctuation stands in the leaves. -/
  leaves : t.pieces.filterMap Piece.leaf? = t.leaves
  /-- Words and punctuation of every node are what the grammar derives by its rule. -/
  grammatical : t.Grammatical
  /-- Every leaf stands behind the text of the pieces before it. -/
  standsAt : ∀ before k w after, t.pieces = before ++ .word k w :: after →
    w.StandsAt s (Piece.spell before).length
  /-- Of two leaves the second one begins where the first one has ended, or further behind. -/
  ordered : t.leaves.Pairwise fun l l' =>
    ∃ i j, l.2.StandsAt s i ∧ l'.2.StandsAt s j ∧ i + l.2.chars.length ≤ j

/-- Leaves whose pieces stand one behind the other do so themselves. -/
theorem pairwise_leaves {t : Tree Place} {s : List Char}
    (h : ∀ before k w after, t.pieces = before ++ .word k w :: after →
      w.StandsAt s (Piece.spell before).length) :
    t.leaves.Pairwise fun l l' =>
      ∃ i j, l.2.StandsAt s i ∧ l'.2.StandsAt s j ∧ i + l.2.chars.length ≤ j := by
  rw [← filterMap_leaf?_pieces, List.pairwise_filterMap, List.pairwise_iff_forall_sublist]
  intro u u' hsublist l hl l' hl'
  obtain ⟨front, rear, hpieces, hu, hu'⟩ := List.cons_sublist_iff.mp hsublist
  obtain ⟨before, mid, rfl⟩ := List.append_of_mem hu
  obtain ⟨mid', after, rfl⟩ := List.append_of_mem (List.singleton_sublist.mp hu')
  cases u with
  | sign => contradiction
  | word k w =>
    cases u' with
    | sign => contradiction
    | word k' w' =>
      obtain rfl := Option.some.inj hl
      obtain rfl := Option.some.inj hl'
      refine ⟨_, _, h before k w (mid ++ (mid' ++ .word k' w' :: after)) (by simp [hpieces]),
        h (before ++ .word k w :: mid ++ mid') k' w' after (by simp [hpieces]), ?_⟩
      simp [Piece.lexeme]

/-! ## Trees that were read -/

open Concrete

/-- The pieces of a message's tree have the lexemes of the message. -/
theorem map_lexeme_messageTree {α : Type} (xs : List (Concrete α)) :
    (messageTree xs).pieces.map Piece.lexeme = listLexemes xs :=
  map_lexeme_trees xs

/-- The words of a well-formed message are not empty. -/
theorem ne_nil_of_mem_pieces {α : Type} {xs : List (Concrete α)} (hxs : AllWellFormed .part xs)
    {k : Terminal} {w : Token α} (hw : .word k w ∈ (messageTree xs).pieces) : w.chars ≠ [] := by
  have hmem := List.mem_map_of_mem (f := Piece.lexeme) hw
  rw [map_lexeme_messageTree] at hmem
  exact hxs.scans.ne_nil_of_mem hmem

/-- The tree of a well-formed message is grammatical. -/
theorem grammatical_messageTree {α : Type} {xs : List (Concrete α)}
    (hxs : AllWellFormed .part xs) : (messageTree xs).Grammatical := by
  refine ⟨?_, hxs.allShaped.allGrammatical⟩
  have hparts := Derives.start hxs.allShaped.derives_listLexemes
  rwa [← map_lexeme_messageTree] at hparts

/-- The leaves of a well-formed message stand behind the text before them. -/
theorem standsAt_of_pieces_eq {m : List Part} (hm : AllWellFormed .part m)
    {before after : List (Piece Place)} {k : Terminal} {w : Token Place}
    (h : (messageTree (locateList Place.start m)).pieces = before ++ .word k w :: after) :
    w.StandsAt (listChars m) (Piece.spell before).length := by
  have hmem : .word k w ∈ (messageTree (locateList Place.start m)).pieces := by
    rw [h]
    simp
  have hne : w.chars ≠ [] := ne_nil_of_mem_pieces (hm.locateList Place.start) hmem
  have hmark : w.mark = Place.start.after (Piece.spell before) :=
    Piece.mark_of_locate_eq ((flatten_locateList Place.start m).symm.trans h)
  have htext : listChars m = Piece.spell before ++ (w.chars ++ Piece.spell after) := by
    have hspelled := (spell_trees (locateList Place.start m)).symm.trans (congrArg Piece.spell h)
    rwa [listChars_locateList, Piece.spell_append] at hspelled
  rw [htext]
  exact Token.standsAt_append hne _ _ hmark

/-- A text can be rebuilt from the tree that is read from it, and the leaves of that tree
stand in the text where their places say, one behind the other. -/
theorem dissects_of_parseLocated {s : List Char} {t : Tree Place}
    (h : (parseLocated s).map messageTree = .ok t) : t.Dissects s := by
  obtain ⟨xs, hxs, rfl⟩ : ∃ xs, parseLocated s = .ok xs ∧ messageTree xs = t := by
    cases hparse : parseLocated s with
    | error e =>
      rw [hparse] at h
      contradiction
    | ok xs =>
      rw [hparse] at h
      exact ⟨xs, rfl, Except.ok.inj h⟩
  obtain ⟨m, ⟨hm, rfl⟩, rfl⟩ := parseLocated_eq_ok_iff.mp hxs
  constructor
  case spell => exact (spell_trees _).trans (listChars_locateList Place.start m)
  case leaves => exact filterMap_leaf?_pieces _
  case grammatical => exact grammatical_messageTree (hm.locateList Place.start)
  case standsAt =>
    intro before k w after hsplit
    exact standsAt_of_pieces_eq hm hsplit
  case ordered =>
    refine pairwise_leaves fun before k w after hsplit => ?_
    exact standsAt_of_pieces_eq hm hsplit

/-- The theorem at a pair of tags over three lines: the second line feed stands in a leaf that
begins behind the first one. -/
theorem dissects_of_parseLocated_lines :
    ∃ t, (parseLocated "a\n<Sheet(ObjStr,1)>b\n</Sheet>".toList).map messageTree = .ok t ∧
      t.leaves = [(.text, ⟨"a\n".toList, ⟨1, 1⟩⟩), (.tagName, ⟨"Sheet".toList, ⟨2, 2⟩⟩),
        (.objectName, ⟨"ObjStr".toList, ⟨2, 8⟩⟩), (.number, ⟨['1'], ⟨2, 15⟩⟩),
        (.text, ⟨"b\n".toList, ⟨2, 18⟩⟩), (.tagName, ⟨"Sheet".toList, ⟨3, 3⟩⟩)] ∧
      t.Dissects "a\n<Sheet(ObjStr,1)>b\n</Sheet>".toList := by
  have hsheet : Terminal.tagName.Admits "Sheet".toList :=
    ⟨⟨⟨'S', rfl, rfl⟩, List.all_eq_true.mp rfl⟩, by decide⟩
  have hm : AllWellFormed .part [(.text (.bare "a\n".toList) : Part),
      .pair () (.bare "Sheet".toList) [.object (.bare "ObjStr".toList), .number (.bare ['1'])]
        (some (.bare "b\n".toList)) (.bare "Sheet".toList)] := by
    refine ⟨rfl, ⟨by decide, by decide, by decide⟩, by decide, rfl, ⟨hsheet, ?_, ?_, hsheet⟩,
      by decide, trivial⟩
    · exact ⟨rfl, ⟨⟨'O', rfl, rfl⟩, List.all_eq_true.mp rfl⟩, by decide, rfl,
        ⟨by decide, List.all_eq_true.mp rfl⟩, by decide, trivial⟩
    · rintro w ⟨⟩
      exact ⟨by decide, by decide, by decide⟩
  have hlocated := parseLocated_eq_ok_iff.mpr ⟨_, ⟨hm, rfl⟩, rfl⟩
  have htree : (parseLocated "a\n<Sheet(ObjStr,1)>b\n</Sheet>".toList).map messageTree = .ok _ :=
    congrArg (Except.map messageTree) hlocated
  exact ⟨_, htree, rfl, dissects_of_parseLocated htree⟩

end Tree

end LogMarkup
