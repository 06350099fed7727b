import LogMarkup.Markup
import LogMarkup.Meaning.OfTree
import LogMarkup.Proofs.TreeFault

/-!
# Building a derivation tree

Building the tree of a markup visits the tree in post-order.  It either fails with the first
fault, or gives a message that is nested and ordered like the tree.  An error about a name or
a pair of tags tells where in the markup that is written.

Main results:

- `Concrete.yields_of_build`: what is built says what the tree says.
- `Concrete.build_setPairMarks`: the marks of pairs only matter for the error of a mismatch.
- `Concrete.buildList_firstFault`: when building succeeds, and with which error it fails.
-/

namespace LogMarkup

/-! ## What is built -/

/-- The node says what the tree says: the rule became one node, and what it was applied to
became the pieces of the node, in the same order. -/
inductive Tree.Yields {α : Type} : Tree α → Node → Prop
  | text {w : Token α} : Yields (node .text [leaf .text w]) (.text (String.ofList w.chars))
  | call {w : Token α} {f : FunctionName} {ts : List (Tree α)} {ns : List Node}
      (hname : w.chars = f.chars) (hparams : List.Forall₂ Yields ts ns) :
      Yields (node .function (leaf .functionName w :: ts)) (.call f ns)
  | tag {w : Token α} {t : TagName} {ts : List (Tree α)} {ns : List Node}
      (hname : w.chars = t.chars) (hparams : List.Forall₂ Yields ts ns) :
      Yields (node .autoClosingTag (leaf .tagName w :: ts)) (.tag t ns)
  | single {w : Token α} {t : TagName} {ts : List (Tree α)} {ns : List Node}
      (htag : Yields (node .autoClosingTag (leaf .tagName w :: ts)) (.tag t ns)) :
      Yields (node .element [node .autoClosingTag (leaf .tagName w :: ts)]) (.element t ns none)
  | pair {w close : Token α} {t : TagName} {ts : List (Tree α)} {ns : List Node}
      {inner : Option (Token α)} (hname : w.chars = t.chars) (hclose : close.chars = t.chars)
      (hparams : List.Forall₂ Yields ts ns) :
      Yields (node .element [node .pairedTag (node .openTag (leaf .tagName w :: ts) ::
          (Concrete.innerTrees inner ++ [node .closeTag [leaf .tagName close]]))])
        (.element t ns (inner.map fun v => String.ofList v.chars))
  | branch {c : Tree α} {k : Node} {yes no : List (Tree α)} {ys ns : List Node}
      (hcondition : Yields c k) (hyes : List.Forall₂ Yields yes ys)
      (hno : List.Forall₂ Yields no ns) :
      Yields (node .element [node .ifElse [node .ifParam [c], node .branch yes,
        node .branch no]]) (.branch k ys ns)
  | object {w : Token α} {o : ObjectName} (hname : w.chars = o.chars) :
      Yields (node .objectLiteral [leaf .objectName w]) (.object o)
  | number {w : Token α} :
      Yields (node .number [leaf .number w]) (.number (Int.ofNat (Digits.value w.chars)))

namespace Concrete

variable {α : Type}

/-- What stands in the tree for a condition says what the node of the condition says. -/
theorem yields_content {c : Concrete α} {k : Node} (hc : Position.condition.admits c = true)
    (h : c.tree.Yields k) : c.tree.content.Yields (c.asCondition k) := by
  cases c with
  | call w ps => exact h
  | single w ps =>
    cases h with
    | single htag => exact htag
  | _ => contradiction

mutual

/-- What is built of a well-formed part says what its tree says. -/
theorem yields_of_build : ∀ {x : Concrete α}, x.WellFormed → ∀ {n : Node}, x.build = .ok n →
    x.tree.Yields n
  | text w, _, n, hn => by
      obtain rfl := Except.ok.inj hn
      exact .text
  | call w ps, h, n, hn => by
      obtain ⟨f, ns, hname, hns, rfl⟩ := build_call_eq_ok_iff.mp hn
      exact .call hname (yields_of_buildList h.2.2 hns)
  | single w ps, h, n, hn => by
      obtain ⟨t, ns, hname, hns, rfl⟩ := build_single_eq_ok_iff.mp hn
      exact .single (.tag hname (yields_of_buildList h.2 hns))
  | pair mark w ps inner close, h, n, hn => by
      obtain ⟨t, ns, ⟨hname, hclose⟩, hns, rfl⟩ := build_pair_eq_ok_iff.mp hn
      exact .pair hname hclose (yields_of_buildList h.2.1 hns)
  | branch c yes no, h, n, hn => by
      obtain ⟨k, ys, ns, hk, hys, hns, rfl⟩ := build_branch_eq_ok_iff.mp hn
      exact .branch (yields_content h.1.1 (yields_of_build h.1.2 hk))
        (yields_of_buildList h.2.1 hys) (yields_of_buildList h.2.2 hns)
  | object w, _, n, hn => by
      obtain ⟨o, hname, rfl⟩ := build_object_eq_ok_iff.mp hn
      exact .object hname
  | number w, h, n, hn => by
      obtain ⟨-, rfl⟩ := (build_number_eq_ok_iff h.1 h.2).mp hn
      exact .number

/-- What is built of a well-formed sequence says, one by one, what its trees say. -/
theorem yields_of_buildList {q : Position} : ∀ {xs : List (Concrete α)}, AllWellFormed q xs →
    ∀ {ns : List Node}, buildList xs = .ok ns → List.Forall₂ Tree.Yields (trees xs) ns
  | [], _, ns, hns => by
      obtain rfl := Except.ok.inj hns
      exact .nil
  | x :: xs, h, ns, hns => by
      obtain ⟨n, ns, hn, hrest, rfl⟩ := buildList_cons_eq_ok_iff.mp hns
      exact .cons (yields_of_build h.2.1 hn) (yields_of_buildList h.2.2.2 hrest)

end

end Concrete

/-! ## Where errors are -/

namespace BuildError

variable {α : Type}

/-- What is written at the place of the error; for a mismatch, the beginning of the pair. -/
def written : BuildError α → List Char
  | unknownTag name _ | unknownObject name _ | unknownFunction name => name
  | mismatch opened _ _ => '<' :: opened
  | unreadableNumber digits => digits

/-- The error with the mark of a pair of tags set to `mark`. -/
def setPairMark (mark : α) : BuildError α → BuildError α
  | mismatch opened closed _ => mismatch opened closed mark
  | e => e

end BuildError

/-- An error is a finding about the markup exactly if it has a place. -/
theorem MarkupError.isFinding_build (e : BuildError Place) :
    (MarkupError.build e).isFinding = e.mark?.isSome := by
  cases e <;> rfl

/-- An error of a site tells what is written there. -/
theorem Fault.written_eq {α : Type} {v : Site α} {e : BuildError α} (h : Fault v e) :
    e.written = v.written := by
  cases h <;> rfl

/-- An error that has a mark has that of its site. -/
theorem Fault.mark?_eq {α : Type} {v : Site α} {e : BuildError α} (h : Fault v e)
    (hmark : e.mark?.isSome = true) : e.mark? = some v.mark := by
  cases h <;> first | rfl | contradiction

namespace Concrete

variable {α : Type}

theorem asCondition_setPairMarks (mark : α) (x : Concrete α) (n : Node) :
    (x.setPairMarks mark).asCondition n = x.asCondition n := by
  cases x <;> cases n <;> rfl

mutual

/-- Setting the marks of pairs only sets that of a mismatch. -/
theorem build_setPairMarks (mark : α) : ∀ x : Concrete α,
    (x.setPairMarks mark).build = x.build.mapError (BuildError.setPairMark mark)
  | text _ => rfl
  | call w ps => by
      rw [setPairMarks, build_call_eq, build_call_eq, buildList_setPairMarksList mark ps]
      unfold functionName
      cases FunctionName.ofChars? w.chars <;> cases buildList ps <;> rfl
  | single w ps => by
      rw [setPairMarks, build_single_eq, build_single_eq, buildList_setPairMarksList mark ps]
      unfold tagName
      cases TagName.ofChars? w.chars <;> cases buildList ps <;> rfl
  | pair _ w ps inner close => by
      rw [setPairMarks, build_pair_eq, build_pair_eq, buildList_setPairMarksList mark ps]
      unfold tagName
      cases TagName.ofChars? w.chars with
      | none => rfl
      | some t =>
        cases buildList ps with
        | error e => rfl
        | ok ns =>
          cases TagName.ofChars? close.chars with
          | none => rfl
          | some t' =>
            simp only [bind, Except.bind, Except.mapError]
            by_cases h : t = t'
            · rw [if_pos h, if_pos h]
            · rw [if_neg h, if_neg h]
              rfl
  | branch c yes no => by
      rw [setPairMarks, build_branch_eq, build_branch_eq, build_setPairMarks mark c,
        buildList_setPairMarksList mark yes, buildList_setPairMarksList mark no]
      simp only [asCondition_setPairMarks]
      cases c.build <;> cases buildList yes <;> cases buildList no <;> rfl
  | object w => by
      rw [setPairMarks, build_object_eq]
      unfold objectName
      cases ObjectName.ofChars? w.chars <;> rfl
  | number w => by
      rw [setPairMarks, build_number_eq]
      unfold numberValue
      cases Numeral.read? w.chars <;> rfl

/-- The same for a sequence. -/
theorem buildList_setPairMarksList (mark : α) : ∀ xs : List (Concrete α),
    buildList (setPairMarksList mark xs) =
      (buildList xs).mapError (BuildError.setPairMark mark)
  | [] => rfl
  | x :: xs => by
      rw [setPairMarksList, buildList_cons_eq, buildList_cons_eq, build_setPairMarks mark x,
        buildList_setPairMarksList mark xs]
      cases x.build <;> cases buildList xs <;> rfl

end

/-! ## Building a tree -/

/-- What an error of a well-formed message tells: either it is a finding and marks the place
where its name or its pair of tags is written, or it is a number and no finding. -/
theorem place_of_fault {m : List (Concrete α)} (hm : AllWellFormed .part m) {p : Place}
    {v : Site Place} (hv : v ∈ sitesList (locateList p m)) {e : BuildError Place}
    (he : Fault v e) :
    ((MarkupError.build e).isFinding = true ∧ ∃ before after,
        listChars m = before ++ (e.written ++ after) ∧ e.mark? = some (p.after before)) ∨
      ((MarkupError.build e).isFinding = false ∧ ∃ digits, e = .unreadableNumber digits) := by
  rw [MarkupError.isFinding_build]
  rcases (hm.locateList p).fault hv he with hplaced | ⟨digits, rfl, -⟩
  · obtain ⟨before, after, hsplit, hmark⟩ := standsIn_of_mem_sitesList m p v hv
    refine .inl ⟨hplaced, before, after, ?_, ?_⟩
    · rw [hsplit, he.written_eq]
    · rw [he.mark?_eq hplaced, hmark]
  · exact .inr ⟨rfl, digits, rfl⟩

/-- Building the tree of a markup fails exactly with the first fault that visiting the tree
in post-order comes to.  If there is none, it gives a message that says what the tree says.
An error is a finding that tells where its name, or the beginning of its pair of tags, is
written, unless it is a number of too many digits.  The tree alone has the same meaning, but
does not tell where a pair begins. -/
theorem buildList_firstFault {s : List Char} {xs : List (Concrete Place)}
    (h : parseLocated s = .ok xs) :
    ((∃ message, buildList xs = .ok message) ↔
        ∀ v ∈ (messageTree xs).postOrder, ∀ e, ¬ v.Faulty e) ∧
      (∀ message, buildList xs = .ok message → List.Forall₂ Tree.Yields (trees xs) message) ∧
      (∀ e, buildList xs = .error e ↔
        IsFirstError Tree.Faulty (messageTree xs).postOrder e) ∧
      (∀ e, buildList xs = .error e →
        ((MarkupError.build e).isFinding = true ∧ ∃ before after,
            s = before ++ (e.written ++ after) ∧
              e.mark? = some (Place.start.after before)) ∨
          ((MarkupError.build e).isFinding = false ∧ ∃ digits, e = .unreadableNumber digits)) ∧
      ∀ mark, Tree.message mark (messageTree xs) =
        ((buildList xs).mapError fun e => .build (e.setPairMark mark)).map Meaning.ofNodes := by
  obtain ⟨m, ⟨hm, rfl⟩, rfl⟩ := parseLocated_eq_ok_iff.mp h
  have hxs := hm.locateList Place.start
  have hsites : (messageTree (locateList Place.start m)).postOrder.filterMap Tree.site? =
      sitesList (locateList Place.start m) := by
    rw [messageTree, Tree.postOrder, List.filterMap_append, filterMap_postOrderList]
    simp [Tree.site?_node]
  have hends : EndsAtFirst Tree.Faulty (messageTree (locateList Place.start m)).postOrder
      (buildList (locateList Place.start m)) := by
    apply EndsAtFirst.of_filterMap (f := Tree.site?)
    · intro v hv e
      apply faulty_iff hxs
      intro u hu
      rw [← hsites]
      exact List.mem_filterMap.mpr ⟨v, hv, hu⟩
    · rw [hsites]
      exact buildList_endsAtFirst _
  refine ⟨hends.exists_eq_ok_iff, ?_, ?_, ?_, ?_⟩
  · intro message hmessage
    exact yields_of_buildList hxs hmessage
  · intro e
    exact hends.eq_error_iff fun _ _ _ he he' => he.unique he'
  · intro e he
    have hfirst := buildList_endsAtFirst (locateList Place.start m)
    rw [he] at hfirst
    obtain ⟨before, v, after, hsplit, -, hv⟩ := hfirst
    have hmem : v ∈ sitesList (locateList Place.start m) := by simp [hsplit]
    exact place_of_fault hm hmem hv
  · intro mark
    rw [Tree.message_messageTree, buildList_setPairMarksList]
    cases buildList (locateList Place.start m) <;> rfl

/-- The theorem at a pair of tags whose names differ, with an unknown tag in its parameter
and another one behind it.  The tag in the parameter is the first fault. -/
theorem buildList_firstFault_parameter :
    ∃ xs, parseLocated "a\n<Sheet(<Foo/>)>b</SheetEn><Bar/>".toList = .ok xs ∧
      Tree.Faulty (.leaf .tagName ⟨"Bar".toList, ⟨2, 28⟩⟩)
        (.unknownTag "Bar".toList ⟨2, 28⟩) ∧
      .leaf .tagName ⟨"Bar".toList, ⟨2, 28⟩⟩ ∈ (messageTree xs).postOrder ∧
      buildList xs = .error (.unknownTag "Foo".toList ⟨2, 9⟩) := by
  have hm : AllWellFormed .part [(.text (.bare ['a', '\n']) : Part),
      .pair () (.bare "Sheet".toList) [.single (.bare "Foo".toList) []] (some (.bare ['b']))
        (.bare "SheetEn".toList), .single (.bare "Bar".toList) []] := by
    have hfoo : Terminal.tagName.Admits "Foo".toList :=
      ⟨⟨⟨'F', rfl, rfl⟩, List.all_eq_true.mp rfl⟩, by decide⟩
    have hbar : Terminal.tagName.Admits "Bar".toList :=
      ⟨⟨⟨'B', rfl, rfl⟩, List.all_eq_true.mp rfl⟩, by decide⟩
    have hinner : ∀ w ∈ some (Token.bare ['b']), Terminal.text.Admits w.chars := by
      rintro _ ⟨⟩
      exact ⟨by decide, by decide, by decide⟩
    exact ⟨rfl, ⟨by decide, by decide, by decide⟩, by decide, rfl,
      ⟨Node.admits_tagName .sheet, ⟨rfl, ⟨hfoo, trivial⟩, by decide, trivial⟩, hinner,
        Node.admits_tagName .sheetEn⟩, by decide, rfl, ⟨hbar, trivial⟩, by decide, trivial⟩
  have hparse := parseLocated_eq_ok_iff.mpr ⟨_, ⟨hm, rfl⟩, rfl⟩
  obtain ⟨-, -, hfails, -⟩ := buildList_firstFault hparse
  have hunknown : ∀ w : Token Place, w.chars = "Foo".toList ∨ w.chars = "Bar".toList →
      Tree.Faulty (.leaf .tagName w) (.unknownTag w.chars w.mark) := by
    rintro w hw
    refine .tag fun t ht => ?_
    rw [ht] at hw
    cases t <;> revert hw <;> decide
  have hsheet : ∀ w : Token Place, w.chars = "Sheet".toList →
      ∀ e, ¬ Tree.Faulty (.leaf .tagName w) e := by
    rintro w hw e ⟨h⟩
    exact h .sheet hw
  refine ⟨_, hparse, hunknown _ (.inr rfl), ?_, ?_⟩
  · exact List.mem_of_getElem? (i := 13) rfl
  · refine (hfails _).mpr ⟨[.leaf .text ⟨['a', '\n'], ⟨1, 1⟩⟩,
      .node .text [.leaf .text ⟨['a', '\n'], ⟨1, 1⟩⟩],
      .leaf .tagName ⟨"Sheet".toList, ⟨2, 2⟩⟩],
      .leaf .tagName ⟨"Foo".toList, ⟨2, 9⟩⟩, _, rfl, ?_, hunknown _ (.inl rfl)⟩
    intro u hu e he
    simp only [List.mem_cons, List.not_mem_nil, or_false] at hu
    rcases hu with rfl | rfl | rfl
    · cases he
    · cases he
    · exact hsheet _ rfl e he

end Concrete

end LogMarkup
