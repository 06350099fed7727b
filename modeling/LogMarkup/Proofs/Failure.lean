import LogMarkup.Proofs.Batch
import LogMarkup.Proofs.Composition
import LogMarkup.Proofs.Participation
import LogMarkup.Proofs.TreeBuilding
import LogMarkup.Proofs.TreeText

/-!
# How markup can fail

Reading, building and reducing fail in ways that are foreseen: the text is no message, a
name or a pair of tags in it is wrong, or a node has no meaning where it stands.  The other
errors that the stages know of do not come up.  The scanner takes only names of functions
for such, every rule is applied to as many children as it can take, and a bare tag stands
nowhere but in a condition.  What remains is a number of too many digits, so that nothing
else fails in markup whose numbers are readable.  Nothing fails behind the reduction.

Main results:

- `Concrete.AllWellFormed.admits_of_mem_leaves`: the words of a derivation tree are words of
  their classes.
- `Rule.apply_error_of_fits`, `Concrete.fits_of_mem_messageTree`: every rule has as many
  children as it can take.
- `Concrete.placed_of_buildList_eq_error`, `Concrete.placed_of_message_eq_error`: with
  readable numbers, building a message or understanding its tree only fails at a place.
- `Node.text_ne_of_mem_reduceList`: reductions hold no empty text.
- `Markup.reduce_failure`: how markup with readable numbers can fail.
-/

namespace LogMarkup

/-! ## The words of a derivation tree -/

namespace Concrete

variable {α : Type}

/-- A word that is written in the message stands in a leaf of its tree. -/
theorem mem_leaves_of_mem_listLexemes {xs : List (Concrete α)} {k : Terminal} {cs : List Char}
    (hk : k.literal? = none) (h : ⟨k, cs⟩ ∈ listLexemes xs) :
    ∃ w, (k, w) ∈ (messageTree xs).leaves ∧ w.chars = cs := by
  rw [← Tree.map_lexeme_messageTree] at h
  obtain ⟨u, hu, hlexeme⟩ := List.mem_map.mp h
  cases u with
  | sign t ht =>
    obtain ⟨rfl, -⟩ := Lexeme.mk.inj hlexeme
    rw [hk] at ht
    contradiction
  | word k' w =>
    obtain ⟨rfl, rfl⟩ := Lexeme.mk.inj hlexeme
    refine ⟨w, ?_, rfl⟩
    rw [← Tree.filterMap_leaf?_pieces]
    exact List.mem_filterMap.mpr ⟨_, hu, rfl⟩

/-- What stands in a leaf of the tree is written in the message. -/
theorem mem_listLexemes_of_mem_leaves {xs : List (Concrete α)} {k : Terminal} {w : Token α}
    (h : (k, w) ∈ (messageTree xs).leaves) : ⟨k, w.chars⟩ ∈ listLexemes xs := by
  rw [← Tree.filterMap_leaf?_pieces] at h
  obtain ⟨u, hu, hleaf⟩ := List.mem_filterMap.mp h
  have hmem := List.mem_map_of_mem (f := Piece.lexeme) hu
  rw [Tree.map_lexeme_messageTree] at hmem
  cases u with
  | sign => contradiction
  | word k' w' =>
    obtain ⟨rfl, rfl⟩ := Prod.mk.inj (Option.some.inj hleaf)
    exact hmem

/-- The words of a well-formed message's tree are words of their classes, and are written in
the message. -/
theorem AllWellFormed.admits_of_mem_leaves {xs : List (Concrete α)}
    (hxs : AllWellFormed .part xs) {k : Terminal} {w : Token α}
    (hw : (k, w) ∈ (messageTree xs).leaves) : k.Admits w.chars ∧ w.chars <:+: listChars xs :=
  hxs.scans.admits_of_mem (mem_listLexemes_of_mem_leaves hw)

end Concrete

/-! ## The children of a rule -/

/-- Can the rule be applied to so many children? -/
def Rule.fits : Rule → Nat → Bool
  | start, _ | branch, _ => true
  | text, n | element, n | closeTag, n | number, n | objectLiteral, n | ifParam, n => n == 1
  | openTag, n | autoClosingTag, n | function, n => 1 ≤ n
  | pairedTag, n => n == 2 || n == 3
  | ifElse, n => n == 3

/-- A pair of tags is refused for a child that is of no use, or for its names. -/
theorem Rule.applyPair_error {α : Type} {mark : α} {opened closed : Meaning}
    {inner? : Option Meaning} {e : TreeError α}
    (h : applyPair mark opened inner? closed = .error e) :
    (∃ b, e = .build b) ∨ ∃ u, e = .misuse .pairedTag u := by
  have huse : ∀ {β : Type} {m : Except Misuse β}, pairedTag.use m = .error e →
      ∃ u, e = .misuse .pairedTag u := by
    intro β m hm
    obtain ⟨u, -, rfl⟩ := mapError_eq_error_iff.mp hm
    exact ⟨u, rfl⟩
  rw [applyPair] at h
  rcases bind_eq_error_iff.mp h with htitle | ⟨title, -, h⟩
  · exact .inr (huse htitle)
  split at h
  next => contradiction
  rcases bind_eq_error_iff.mp h with hopened | ⟨_, -, h⟩
  · exact .inr (huse hopened)
  rcases bind_eq_error_iff.mp h with hclosed | ⟨_, -, h⟩
  · exact .inr (huse hclosed)
  · exact .inl ⟨_, (Except.error.inj h).symm⟩

/-- A rule that is applied to as many children as it can take never complains about their
number. -/
theorem Rule.apply_error_of_fits {α : Type} {mark : α} {r : Rule} {ms : List Meaning}
    {e : TreeError α} (hfits : r.fits ms.length = true) (h : r.apply mark ms = .error e) :
    (∃ b, e = .build b) ∨ ∃ u, e = .misuse r u := by
  cases r with
  | start | branch => contradiction
  | pairedTag =>
    match ms with
    | [opened, closed] => exact applyPair_error h
    | [opened, inner, closed] => exact applyPair_error h
  | text =>
    match ms with
    | [m] =>
      cases hm : m.display with
      | ok shown => simp [apply, hm, use, Except.map] at h
      | error u =>
        have hmisuse : .misuse text u = e := by simpa [apply, hm, use, Except.map] using h
        exact .inr ⟨u, hmisuse.symm⟩
  | _ =>
    match ms with
    | [] | [_] | [_, _] | [_, _, _] | _ :: _ :: _ :: _ :: _ => simp [fits, apply] at hfits h

namespace Tree

variable {α : Type}

/-- Is this a word, or a rule with as many children as it can take? -/
def fits : Tree α → Bool
  | leaf .. => true
  | node r ts => r.fits ts.length

/-- An element adds nothing that could not fit. -/
@[simp] theorem all_fits_content (t : Tree α) :
    t.content.postOrder.all fits = t.postOrder.all fits := by
  unfold content
  split
  · simp [postOrder, postOrderList, fits, Rule.fits]
  · rfl

end Tree

namespace Concrete

variable {α : Type}

mutual

/-- In the tree of a part every rule has as many children as it can take. -/
theorem all_fits_tree : ∀ x : Concrete α, x.tree.postOrder.all Tree.fits = true
  | text _ | object _ | number _ => rfl
  | call _ ps => by
      simp [tree, Tree.postOrder, Tree.postOrderList, Tree.fits, Rule.fits, all_fits_trees ps]
  | single _ ps => by
      simp [tree, Tree.postOrder, Tree.postOrderList, Tree.fits, Rule.fits, all_fits_trees ps]
  | pair _ _ ps inner _ => by
      cases inner <;>
        simp [tree, innerTrees, Tree.postOrder, Tree.postOrderList, Tree.fits, Rule.fits,
          all_fits_trees ps]
  | branch c yes no => by
      simp [tree, Tree.postOrder, Tree.postOrderList, Tree.fits, Rule.fits, all_fits_tree c,
        all_fits_trees yes, all_fits_trees no]

/-- The same for a sequence. -/
theorem all_fits_trees :
    ∀ xs : List (Concrete α), (Tree.postOrderList (trees xs)).all Tree.fits = true
  | [] => rfl
  | x :: xs => by simp [trees, Tree.postOrderList, all_fits_tree x, all_fits_trees xs]

end

/-- In the tree of a message every rule has as many children as it can take. -/
theorem fits_of_mem_messageTree {xs : List (Concrete α)} {r : Rule} {ts : List (Tree α)}
    (h : .node r ts ∈ (messageTree xs).postOrder) : r.fits ts.length = true := by
  have hall : (messageTree xs).postOrder.all Tree.fits = true := by
    simp [messageTree, Tree.postOrder, Tree.fits, Rule.fits, all_fits_trees xs]
  exact List.all_eq_true.mp hall _ h

end Concrete

/-! ## Texts of a reduction -/

/-- What markup can say as a text is not empty. -/
theorem static_ne_of_isText {s : String} (h : Terminal.IsText s.toList) :
    Text.static s ≠ .static "" := by
  rintro ⟨⟩
  exact h.1 rfl

namespace Node

mutual

/-- A well-formed node reduces to texts that are not empty. -/
theorem text_ne_of_mem_reduce {gs : List Guard} : ∀ {n : Node}, n.WellFormed →
    ∀ {items : Reduction}, reduce gs n = .ok items → ∀ i ∈ items, i.text ≠ .static ""
  | text s, h, items, hitems, i, hi => by
      obtain rfl := Except.ok.inj hitems
      obtain rfl := List.mem_singleton.mp hi
      exact static_ne_of_isText h
  | branch c yes no, h, items, hitems, i, hi => by
      obtain ⟨k, ys, ns, -, hyes, hno, rfl⟩ := reduce_branch_eq_ok_iff.mp hitems
      rcases List.mem_append.mp hi with hi | hi
      · exact text_ne_of_mem_reduceList h.2.1 hyes i hi
      · exact text_ne_of_mem_reduceList h.2.2 hno i hi
  | element .clickable [] (some s), h, items, hitems, i, hi => by
      obtain rfl := Except.ok.inj hitems
      obtain rfl := List.mem_singleton.mp hi
      exact static_ne_of_isText (h.2 s rfl)
  | element .clickable [q] none, h, items, hitems, i, hi =>
      text_ne_of_mem_reduce h.1.2.1 hitems i hi
  | element .clickable [] none, _, _, hitems, _, _
  | element .clickable [_] (some _), _, _, hitems, _, _
  | element .clickable (_ :: _ :: _) none, _, _, hitems, _, _
  | element .clickable (_ :: _ :: _) (some _), _, _, hitems, _, _
  | element .sheet _ (some _), _, _, hitems, _, _
  | element .sheetEn _ (some _), _, _, hitems, _, _ => by contradiction
  | element .sheet ps none, _, items, hitems, i, hi
  | element .sheetEn ps none, _, items, hitems, i, hi => by
      obtain ⟨s, -, rfl⟩ := Slot.resolve_bind_eq_ok_iff.mp hitems
      obtain rfl := List.mem_singleton.mp hi
      exact Text.noConfusion
  | call f ps, _, items, hitems, i, hi => by
      obtain ⟨-, s, -, rfl⟩ := reduce_call_eq_ok_iff.mp hitems
      obtain rfl := List.mem_singleton.mp hi
      exact Text.noConfusion
  | object _, _, _, hitems, _, _ => by contradiction
  | number _, _, _, hitems, _, _ => by contradiction
  | tag _ _, _, _, hitems, _, _ => by contradiction

/-- The same for a sequence. -/
theorem text_ne_of_mem_reduceList {gs : List Guard} {p : Position} : ∀ {ns : List Node},
    AllWellFormed p ns → ∀ {items : Reduction}, reduceList gs ns = .ok items →
    ∀ i ∈ items, i.text ≠ .static ""
  | [], _, items, hitems, i, hi => by
      obtain rfl := Except.ok.inj hitems
      contradiction
  | n :: ns, h, items, hitems, i, hi => by
      obtain ⟨xs, ys, hn, hns, rfl⟩ := reduceList_cons_eq_ok_iff.mp hitems
      rcases List.mem_append.mp hi with hi | hi
      · exact text_ne_of_mem_reduce h.2.1 hn i hi
      · exact text_ne_of_mem_reduceList h.2.2.2 hns i hi

end

end Node

/-! ## Readable numbers -/

/-- No number in the markup has more digits than can be understood. -/
def Markup.HasReadableNumbers (markup : String) : Prop :=
  ∀ message, Concrete.parseLocated markup.toList = .ok message →
    ∀ w, (Terminal.number, w) ∈ (Concrete.messageTree message).leaves →
      w.chars.length ≤ Digits.limit

/-- With readable numbers, building a well-formed message only fails at a place. -/
theorem Concrete.placed_of_buildList_eq_error {α : Type} {xs : List (Concrete α)}
    (hxs : AllWellFormed .part xs)
    (hnumbers : ∀ w, (Terminal.number, w) ∈ (messageTree xs).leaves →
      w.chars.length ≤ Digits.limit)
    {e : BuildError α} (he : buildList xs = .error e) : e.mark?.isSome = true := by
  have hwalk := buildList_endsAtFirst xs
  rw [he] at hwalk
  obtain ⟨before, v, after, hsites, -, hv⟩ := hwalk
  have hmem : v ∈ sitesList xs := by simp [hsites]
  rcases hxs.fault hmem hv with hplaced | ⟨ds, rfl, -, hlong, -⟩
  · exact hplaced
  · cases hv with
    | @number d h =>
      have hsite : ⟨.number, d.chars⟩ ∈ (sitesList xs).filterMap Site.lexeme? :=
        List.mem_filterMap.mpr ⟨_, hmem, rfl⟩
      rw [filter_listLexemes] at hsite
      obtain ⟨w, hw, hchars⟩ := mem_leaves_of_mem_listLexemes rfl (List.mem_of_mem_filter hsite)
      have hshort := hnumbers w hw
      rw [hchars] at hshort
      exact absurd hlong (Nat.not_lt_of_le hshort)

/-- An error has a mark whatever the marks of pairs are set to. -/
theorem BuildError.isSome_mark?_setPairMark {α : Type} (mark : α) (e : BuildError α) :
    (e.setPairMark mark).mark?.isSome = e.mark?.isSome := by
  cases e <;> rfl

/-- With readable numbers, understanding the tree of a well-formed message only fails at a
place. -/
theorem Concrete.placed_of_message_eq_error {α : Type} {xs : List (Concrete α)}
    (hxs : AllWellFormed .part xs)
    (hnumbers : ∀ w, (Terminal.number, w) ∈ (messageTree xs).leaves →
      w.chars.length ≤ Digits.limit)
    {mark : α} {e : TreeError α} (he : Tree.message mark (messageTree xs) = .error e) :
    ∃ b place, e = .build b ∧ b.mark? = some place := by
  rw [Tree.message_messageTree, buildList_setPairMarksList] at he
  cases hbuild : buildList xs with
  | ok ns =>
    rw [hbuild] at he
    contradiction
  | error b =>
    rw [hbuild] at he
    obtain rfl := Except.error.inj he
    have hplaced := placed_of_buildList_eq_error hxs hnumbers hbuild
    rw [← b.isSome_mark?_setPairMark mark] at hplaced
    obtain ⟨place, hplace⟩ := Option.isSome_iff_exists.mp hplaced
    exact ⟨_, place, rfl, hplace⟩

/-- A finding is an error of reading, or it has a place, or it is about a node that can stand
where it stands. -/
theorem MarkupError.cases_of_isFinding {e : MarkupError} (h : e.isFinding = true) :
    (∃ r, e = .read r) ∨ (∃ b place, e = .build b ∧ b.mark? = some place) ∨
      ∃ r, e = .reduce r ∧ ∀ n, r ≠ .notAPart n := by
  cases e with
  | read r => exact .inl ⟨r, rfl⟩
  | build b =>
    rw [isFinding_build] at h
    obtain ⟨place, hplace⟩ := Option.isSome_iff_exists.mp h
    exact .inr (.inl ⟨b, place, rfl, hplace⟩)
  | reduce r =>
    refine .inr (.inr ⟨r, rfl, ?_⟩)
    rintro n rfl
    contradiction

namespace Markup

/-- A markup that is not longer than the longest readable number has readable numbers. -/
theorem hasReadableNumbers_of_length_le {markup : String}
    (h : markup.toList.length ≤ Digits.limit) : HasReadableNumbers markup := by
  intro message hparse w hw
  obtain ⟨m, ⟨hm, hs⟩, rfl⟩ := Concrete.parseLocated_eq_ok_iff.mp hparse
  obtain ⟨-, hinfix⟩ := (hm.locateList Place.start).admits_of_mem_leaves hw
  rw [Concrete.listChars_locateList, hs] at hinfix
  exact Nat.le_trans hinfix.length_le h

/-- With readable numbers every error is a finding about the markup. -/
theorem HasReadableNumbers.isFinding {markup : String} (h : HasReadableNumbers markup)
    {e : MarkupError} (he : reduce markup = .error e) : e.isFinding = true := by
  rcases isFinding_or_tooLong he with hfinding | ⟨ds, rfl, -⟩
  · exact hfinding
  · rcases reduce_eq_error_iff.mp he with
      ⟨_, _, hread⟩ | ⟨m, ⟨hm, hs⟩, b, hbuild, hb⟩ | ⟨_, _, _, _, hreduce⟩
    · contradiction
    · have hparse := Concrete.parseLocated_eq_ok_iff.mpr ⟨m, ⟨hm, hs⟩, rfl⟩
      have hnumbers := h _ hparse
      rw [hb, MarkupError.isFinding_build]
      exact Concrete.placed_of_buildList_eq_error (hm.locateList Place.start) hnumbers hbuild
    · contradiction

/-- Markup whose numbers are readable only fails in the ways that are foreseen: it cannot be
read, a name or a pair of tags at some place is wrong, or a node that can stand where it
stands has no meaning there.  What was read has a derivation tree in which every function is
known and every rule has as many children as it can take; understanding this tree only fails
at a place.  What was reduced has no empty text, and is rendered for all characters that can
take part together. -/
theorem reduce_failure {markup : String} (h : HasReadableNumbers markup) :
    (∀ e, reduce markup = .error e →
      (∃ r, e = .read r) ∨ (∃ b place, e = .build b ∧ b.mark? = some place) ∨
        ∃ r, e = .reduce r ∧ ∀ n, r ≠ .notAPart n) ∧
    (∀ m, Concrete.parseLocated markup.toList = .ok m →
      (∀ w, (Terminal.functionName, w) ∈ (Concrete.messageTree m).leaves →
        ∃ f : FunctionName, w.chars = f.chars) ∧
      (∀ r ts, .node r ts ∈ (Concrete.messageTree m).postOrder → r.fits ts.length = true ∧
        ∀ (mark : Place) ms e, ms.length = ts.length → r.apply mark ms = .error e →
          (∃ b, e = .build b) ∨ ∃ u, e = .misuse r u) ∧
      ∀ mark e, Tree.message mark (Concrete.messageTree m) = .error e →
        ∃ b place, e = .build b ∧ b.mark? = some place) ∧
    ∀ r, reduce markup = .ok r →
      (∀ i ∈ r, i.text ≠ .static "") ∧
      ∀ origin target p, Participants.of? origin target = some p →
        Rendering.of markup origin target = .ok (Rendering.ofReduction r p) := by
  refine ⟨?_, ?_, ?_⟩
  · intro e he
    exact MarkupError.cases_of_isFinding (h.isFinding he)
  · intro m hm
    obtain ⟨xs, ⟨hxs, -⟩, rfl⟩ := Concrete.parseLocated_eq_ok_iff.mp hm
    have hlocated := hxs.locateList Place.start
    refine ⟨?_, ?_, ?_⟩
    · intro w hw
      exact (hlocated.admits_of_mem_leaves hw).1
    · intro r ts hts
      have hfits := Concrete.fits_of_mem_messageTree hts
      refine ⟨hfits, fun mark ms e hlength happly => ?_⟩
      rw [← hlength] at hfits
      exact Rule.apply_error_of_fits hfits happly
    · intro mark e he
      exact Concrete.placed_of_message_eq_error hlocated (h _ hm) he
  · intro r hr
    refine ⟨?_, ?_⟩
    · obtain ⟨message, hmessage, hreduce⟩ := reduce_eq_ok_iff.mp hr
      exact Node.text_ne_of_mem_reduceList (wellFormed_of_nodes hmessage) hreduce
    · intro origin target p hp
      exact Rendering.of_eq_ok_iff.mpr ⟨p, r, hp, hr, rfl⟩

/-- The theorem at a branch that is asked by a bare tag, which has a number, a call and an
object among its parameters: it is rendered for everybody who can act. -/
theorem reduce_failure_sheet :
    reduce "<If(<Sheet(BNpcName,PlayerParameter(7),6)/>)>her<Else/>his</If>" =
      .ok [⟨[⟨.originFemale, true⟩], .static "her"⟩,
        ⟨[⟨.originFemale, false⟩], .static "his"⟩] ∧
    ∀ origin : Character, Rendering.of
      "<If(<Sheet(BNpcName,PlayerParameter(7),6)/>)>her<Else/>his</If>" origin none =
        .ok ⟨if origin.gender = .female then "her" else "his", []⟩ := by
  have hmessage : Node.AllWellFormed .part [.branch (.tag .sheet [.object .bnpcName, .fact 7,
      .number 6]) [.text "her"] [.text "his"]] := by decide
  have hreduce : reduce "<If(<Sheet(BNpcName,PlayerParameter(7),6)/>)>her<Else/>his</If>" =
      .ok [⟨[⟨.originFemale, true⟩], .static "her"⟩,
        ⟨[⟨.originFemale, false⟩], .static "his"⟩] := by
    rw [reduce_of_listToMarkup_eq hmessage (by rfl)]
    rfl
  obtain ⟨-, -, hok⟩ := reduce_failure (hasReadableNumbers_of_length_le (by decide :
    ("<If(<Sheet(BNpcName,PlayerParameter(7),6)/>)>her<Else/>his</If>".toList).length ≤
      Digits.limit))
  refine ⟨hreduce, fun origin => ?_⟩
  obtain ⟨-, hrendered⟩ := hok _ hreduce
  rw [hrendered origin none ⟨origin, none, by simp⟩ (Participants.of?_eq_some_iff.mpr ⟨rfl, rfl⟩)]
  obtain ⟨name, gender, isPlayer, isSelf⟩ := origin
  cases gender <;> rfl

end Markup

end LogMarkup
