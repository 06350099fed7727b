import LogMarkup.Proofs.Reduction

/-!
# Messages as decision trees

A message is a tree that asks a condition wherever it branches.  Given all answers, it
can be read directly: at every branch the condition is asked once, on the way down, and
only the side that it leads into is read.  Evaluation of a reduction works on the flat
list instead, where each text repeats all conditions above it.  This module shows that
both give the same texts.

Main results:

- `Node.interpret_of_reduce`, `Node.interpretList_of_reduceList`: a node that reduces
  has a direct reading, which is what evaluation keeps of its texts.
- `Node.kept_reduce_of_holds`, `Node.kept_reduce_of_fails`: a node that is reached
  contributes its direct reading, and one that is not contributes nothing.
- `Node.evaluate_eq_interpretation`: evaluating the reduction of a message is reading it
  directly.
-/

namespace LogMarkup

namespace Node

mutual

/-- The texts that a node shows, read off the tree: nothing if a condition or a slot on
the way is not known. -/
def interpret (a : Answers) : Node → Option (List Text)
  | text s => some [.static s]
  | branch c yes no => do
      let condition ← Condition.ofNode? c
      if a.holds condition then interpretList a yes else interpretList a no
  | element .clickable _ (some s) => some [.static s]
  | element .clickable [p] none => interpret a p
  | element .clickable _ none => none
  | element t ps _ => do
      let slot ← Slot.ofNode? (.tag t ps)
      return [.slot slot]
  | call f ps => do
      let slot ← Slot.ofNode? (.call f ps)
      return [.slot slot]
  | object _ | number _ | tag .. => none

/-- The texts that a sequence of nodes shows, in the order of the nodes. -/
def interpretList (a : Answers) : List Node → Option (List Text)
  | [] => some []
  | n :: ns => do
      let texts ← interpret a n
      let others ← interpretList a ns
      return texts ++ others

end

/-- A branch shows the side that its condition leads into. -/
theorem interpret_branch {a : Answers} {c : Node} {k : Condition} {yes no : List Node}
    (hcondition : Condition.ofNode? c = some k) :
    interpret a (branch c yes no) =
      if a.holds k then interpretList a yes else interpretList a no := by
  calc interpret a (branch c yes no)
    _ = (Condition.ofNode? c).bind fun k =>
          if a.holds k then interpretList a yes else interpretList a no := rfl
    _ = if a.holds k then interpretList a yes else interpretList a no := by
          rw [hcondition, Option.bind_some]

/-- A tag that reduces has a direct reading, if what it wraps has one. -/
theorem interpret_element_of_reduce {a : Answers} {t : TagName} {ps : List Node}
    {inner : Option String} {items : Reduction}
    (hwrapped : ∀ p, ps = [p] → ∀ {own : Reduction}, reduce [] p = .ok own →
      interpret a p = some (own.kept a))
    (h : reduce [] (element t ps inner) = .ok items) :
    interpret a (element t ps inner) = some (items.kept a) := by
  rcases reduce_element_eq_ok_iff.mp h with
    ⟨rfl, _, s, rfl, rfl⟩ | ⟨rfl, rfl, p, rfl, hp⟩ | ⟨ht, _, s, hslot, rfl⟩
  · simp [interpret]
  · rw [interpret]
    exact hwrapped p rfl hp
  · cases t with
    | clickable => contradiction
    | sheet | sheetEn => simp [interpret, hslot]

mutual

/-- A node that reduces has a direct reading, which is what is kept of its texts. -/
theorem interpret_of_reduce (a : Answers) : ∀ (n : Node) {items : Reduction},
    reduce [] n = .ok items → interpret a n = some (items.kept a)
  | text s, items, h => by
      obtain rfl : [⟨[], .static s⟩] = items := by simpa [reduce] using h
      rfl
  | object _, _, h | number _, _, h | tag _ _, _, h => by simp [reduce] at h
  | call f ps, items, h => by
      obtain ⟨rfl, s, hslot, rfl⟩ := reduce_call_eq_ok_iff.mp h
      simp [interpret, hslot]
  | element t [p] inner, items, h => by
      refine interpret_element_of_reduce ?_ h
      rintro _ ⟨rfl⟩ own hown
      exact interpret_of_reduce a p hown
  | element t [] inner, items, h | element t (_ :: _ :: _) inner, items, h =>
      interpret_element_of_reduce (by simp) h
  | branch c yes no, items, h => by
      obtain ⟨k, ys, ns, hk, hyes, hno, rfl⟩ := reduce_branch_eq_ok_iff.mp h
      obtain ⟨ys, hyes', rfl⟩ := reduceList_eq_ok_iff_exists.mp hyes
      obtain ⟨ns, hno', rfl⟩ := reduceList_eq_ok_iff_exists.mp hno
      rw [interpret_branch hk, Reduction.kept_append]
      -- Exactly one of the two guards holds, so one side is kept and the other is lost.
      by_cases hholds : a.holds k = true
      · rw [if_pos hholds, Reduction.kept_map_under_of_holds (by simp [Guard.holds, hholds]),
          Reduction.kept_map_under_of_fails (by simp [Guard.holds, hholds]), List.append_nil]
        exact interpretList_of_reduceList a yes hyes'
      · rw [if_neg hholds, Reduction.kept_map_under_of_fails (by simp [Guard.holds, hholds]),
          Reduction.kept_map_under_of_holds (by simp [Guard.holds, hholds]), List.nil_append]
        exact interpretList_of_reduceList a no hno'

/-- A sequence that reduces has a direct reading, which is what is kept of its texts. -/
theorem interpretList_of_reduceList (a : Answers) : ∀ (ns : List Node) {items : Reduction},
    reduceList [] ns = .ok items → interpretList a ns = some (items.kept a)
  | [], items, h => by
      obtain rfl : [] = items := by simpa [reduceList] using h
      rfl
  | n :: ns, items, h => by
      obtain ⟨xs, ys, hn, hns, rfl⟩ := reduceList_cons_eq_ok_iff.mp h
      have hfirst := interpret_of_reduce a n hn
      have hothers := interpretList_of_reduceList a ns hns
      simp [interpretList, hfirst, hothers, Reduction.kept_append]

end

/-! ## Reached and unreached nodes -/

/-- A node that is reached contributes its direct reading. -/
theorem kept_reduce_of_holds {a : Answers} {gs : List Guard} {n : Node} {items : Reduction}
    (hgs : gs.all (Guard.holds a) = true) (h : reduce gs n = .ok items) :
    interpret a n = some (items.kept a) := by
  obtain ⟨own, hown, rfl⟩ := reduce_eq_ok_iff_exists.mp h
  rw [Reduction.kept_map_under_of_holds hgs]
  exact interpret_of_reduce a n hown

/-- A node that is not reached contributes nothing. -/
theorem kept_reduce_of_fails {a : Answers} {gs : List Guard} {n : Node} {items : Reduction}
    (hgs : gs.all (Guard.holds a) = false) (h : reduce gs n = .ok items) :
    items.kept a = [] := by
  obtain ⟨own, _, rfl⟩ := reduce_eq_ok_iff_exists.mp h
  exact Reduction.kept_map_under_of_fails hgs own

/-- A sequence that is reached contributes its direct reading. -/
theorem kept_reduceList_of_holds {a : Answers} {gs : List Guard} {ns : List Node}
    {items : Reduction} (hgs : gs.all (Guard.holds a) = true)
    (h : reduceList gs ns = .ok items) : interpretList a ns = some (items.kept a) := by
  obtain ⟨own, hown, rfl⟩ := reduceList_eq_ok_iff_exists.mp h
  rw [Reduction.kept_map_under_of_holds hgs]
  exact interpretList_of_reduceList a ns hown

/-- A sequence that is not reached contributes nothing. -/
theorem kept_reduceList_of_fails {a : Answers} {gs : List Guard} {ns : List Node}
    {items : Reduction} (hgs : gs.all (Guard.holds a) = false)
    (h : reduceList gs ns = .ok items) : items.kept a = [] := by
  obtain ⟨own, _, rfl⟩ := reduceList_eq_ok_iff_exists.mp h
  exact Reduction.kept_map_under_of_fails hgs own

/-- Of a branch that is reached exactly one side contributes: the one that its condition
leads into. -/
theorem kept_sides_of_holds {a : Answers} {gs : List Guard} {k : Condition}
    {yes no : List Node} {ys ns : Reduction} (hgs : gs.all (Guard.holds a) = true)
    (hyes : reduceList (gs ++ [⟨k, true⟩]) yes = .ok ys)
    (hno : reduceList (gs ++ [⟨k, false⟩]) no = .ok ns) :
    if a.holds k then interpretList a yes = some (ys.kept a) ∧ ns.kept a = []
    else ys.kept a = [] ∧ interpretList a no = some (ns.kept a) := by
  by_cases hholds : a.holds k = true
  · rw [if_pos hholds]
    constructor
    · exact kept_reduceList_of_holds (by simp [hgs, Guard.holds, hholds]) hyes
    · exact kept_reduceList_of_fails (by simp [Guard.holds, hholds]) hno
  · rw [if_neg hholds]
    constructor
    · exact kept_reduceList_of_fails (by simp [Guard.holds, hholds]) hyes
    · exact kept_reduceList_of_holds (by simp [hgs, Guard.holds, hholds]) hno

/-- Evaluating the reduction of a message is reading the message directly, whatever the
answers.  The texts of each node stand side by side in the reduction; a node under guards
that hold contributes its direct reading, any other node nothing, and of a branch that is
reached exactly one side contributes. -/
theorem evaluate_eq_interpretation (a : Answers) {message : List Node} {r : Reduction}
    (h : reduceMessage message = .ok r) :
    (∃ texts, interpretList a message = some texts ∧ r.kept a = texts ∧
      r.evaluate a = String.join (texts.map (Text.shown a))) ∧
    (∀ gs n, Stands gs n message → ∃ before items after,
      r = before ++ items ++ after ∧ n.reduce gs = .ok items ∧
      if gs.all (Guard.holds a) then interpret a n = some (Reduction.kept items a)
      else Reduction.kept items a = []) ∧
    ∀ gs c yes no, Stands gs (branch c yes no) message →
      gs.all (Guard.holds a) = true → ∃ k before ys ns after,
        Condition.ofNode? c = some k ∧ r = before ++ (ys ++ ns) ++ after ∧
        reduceList (gs ++ [⟨k, true⟩]) yes = .ok ys ∧
        reduceList (gs ++ [⟨k, false⟩]) no = .ok ns ∧
        if a.holds k then
          interpretList a yes = some (Reduction.kept ys a) ∧ Reduction.kept ns a = []
        else Reduction.kept ys a = [] ∧ interpretList a no = some (Reduction.kept ns a) := by
  refine ⟨⟨r.kept a, interpretList_of_reduceList a message h, rfl, rfl⟩, ?_, ?_⟩
  · intro gs n hn
    obtain ⟨before, items, after, hr, hitems⟩ := hn.exists_reduce_eq h
    rw [List.nil_append] at hitems
    refine ⟨before, items, after, hr, hitems, ?_⟩
    by_cases hgs : gs.all (Guard.holds a) = true
    · rw [if_pos hgs]
      exact kept_reduce_of_holds hgs hitems
    · rw [if_neg hgs]
      exact kept_reduce_of_fails (Bool.eq_false_iff.mpr hgs) hitems
  · intro gs c yes no hn hgs
    obtain ⟨before, items, after, hr, hitems⟩ := hn.exists_reduce_eq h
    rw [List.nil_append] at hitems
    obtain ⟨k, ys, ns, hk, hyes, hno, rfl⟩ := reduce_branch_eq_ok_iff.mp hitems
    exact ⟨k, before, ys, ns, after, hk, hr, hyes, hno, kept_sides_of_holds hgs hyes hno⟩

/-- The theorem at a branch that asks its own condition again on its first side, inside a
wrapper: the inner second side is never reached. -/
theorem evaluate_eq_interpretation_of_asked_again :
    reduceMessage
        [branch (.fact 7) [element .clickable [branch (.fact 7) [text "you"] [text "they"]] none]
          [.participant 2], text " wave."] =
      .ok [⟨[⟨.originPlayer, true⟩, ⟨.originPlayer, true⟩], .static "you"⟩,
        ⟨[⟨.originPlayer, true⟩, ⟨.originPlayer, false⟩], .static "they"⟩,
        ⟨[⟨.originPlayer, false⟩], .slot .npcOrigin⟩, ⟨[], .static " wave."⟩] ∧
    ∃ texts, interpretList ⟨(· == .originPlayer), Slot.name⟩
        [branch (.fact 7) [element .clickable [branch (.fact 7) [text "you"] [text "they"]] none]
          [.participant 2], text " wave."] = some texts ∧
      texts = [.static "you", .static " wave."] := by
  refine ⟨rfl, ?_⟩
  have hreduce : reduceMessage
      [branch (.fact 7) [element .clickable [branch (.fact 7) [text "you"] [text "they"]] none]
        [.participant 2], text " wave."] = .ok _ := rfl
  obtain ⟨⟨texts, hinterpret, hkept, _⟩, _⟩ :=
    evaluate_eq_interpretation ⟨(· == .originPlayer), Slot.name⟩ hreduce
  exact ⟨texts, hinterpret, hkept.symm⟩

end Node

end LogMarkup
