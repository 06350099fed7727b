import LogMarkup.Evaluation

/-!
# How a message reduces

Reduction threads the guards of the surrounding branches through a message.  This
module separates what a node contributes from where it stands: the guards around a node
are only ever put in front of the guards of its texts.  With them out of the way, each
kind of node that reduces at all has one lemma that says to what.

Main results:

- `Node.reduce_append`, `Node.reduceList_append`: outer guards are a pure prefix.
- `Node.reduceList_both`: sequences one after the other reduce to their texts one after
  the other, or fail with the first error.
- `Node.reduce_under_guards`: so every part can be reduced by itself.
- `Node.reduce_branch_eq_ok_iff`, `Node.reduce_element_eq_ok_iff`,
  `Node.reduce_call_eq_ok_iff`: what the nodes that reduce reduce to.
- `Node.Stands.exists_reduce_eq`: the texts of a node stand side by side in the
  reduction of the message around it.
-/

namespace LogMarkup

/-- The text under further guards, which are put in front of its own. -/
def Item.under (gs : List Guard) (i : Item) : Item := ⟨gs ++ i.guards, i.text⟩

namespace Item

@[simp] theorem under_guards (gs : List Guard) (i : Item) :
    (i.under gs).guards = gs ++ i.guards := rfl

@[simp] theorem under_text (gs : List Guard) (i : Item) : (i.under gs).text = i.text := rfl

/-- A guarded text is shown when its guards and all guards around it hold. -/
theorem holds_under (a : Answers) (gs : List Guard) (i : Item) :
    (i.under gs).holds a = (gs.all (Guard.holds a) && i.holds a) := by
  simp [holds]

end Item

namespace Reduction

/-- A text without guards is always kept. -/
@[simp] theorem kept_unguarded (t : Text) (a : Answers) : kept [⟨[], t⟩] a = [t] := rfl

/-- Texts under guards that hold are kept as before. -/
theorem kept_map_under_of_holds {a : Answers} {gs : List Guard}
    (h : gs.all (Guard.holds a) = true) (r : Reduction) :
    kept (r.map (Item.under gs)) a = kept r a := by
  have hholds : Item.holds a ∘ Item.under gs = Item.holds a := by
    funext i
    simp [Item.holds_under, h]
  simp [kept, List.filter_map, hholds, Function.comp_def]

/-- Of texts under a guard that fails nothing is kept. -/
theorem kept_map_under_of_fails {a : Answers} {gs : List Guard}
    (h : gs.all (Guard.holds a) = false) (r : Reduction) :
    kept (r.map (Item.under gs)) a = [] := by
  simp only [kept, List.map_eq_nil_iff, List.filter_eq_nil_iff, List.mem_map]
  rintro _ ⟨i, _, rfl⟩
  simp [Item.holds_under, h]

/-! ## Two pieces -/

/-- The texts of two pieces, one after the other.  If a piece fails, so do both, with the
error of the first one that does. -/
def both (x y : Except ReduceError Reduction) : Except ReduceError Reduction := do
  let xs ← x
  let ys ← y
  return xs ++ ys

/-- Two pieces reduce when each of them does. -/
theorem both_eq_ok_iff {x y : Except ReduceError Reduction} {items : Reduction} :
    both x y = .ok items ↔ ∃ xs ys, x = .ok xs ∧ y = .ok ys ∧ items = xs ++ ys := by
  cases x with
  | error e => simp [both, bind, Except.bind]
  | ok xs =>
    cases y with
    | error e => simp [both, bind, Except.bind]
    | ok ys => simp [both, bind, Except.bind, pure, Except.pure, eq_comm]

/-- The error of the second piece is that of both only if the first piece reduces. -/
theorem both_eq_error_iff {x y : Except ReduceError Reduction} {e : ReduceError} :
    both x y = .error e ↔ x = .error e ∨ (∃ xs, x = .ok xs) ∧ y = .error e := by
  cases x with
  | error e' => simp [both, bind, Except.bind]
  | ok xs =>
    cases y with
    | error e' => simp [both, bind, Except.bind]
    | ok ys => simp [both, bind, Except.bind, pure, Except.pure]

theorem both_assoc (x y z : Except ReduceError Reduction) :
    both (both x y) z = both x (both y z) := by
  cases x with
  | error e => rfl
  | ok xs =>
    cases y with
    | error e => rfl
    | ok ys => cases z <;> simp [both, bind, Except.bind, pure, Except.pure]

/-- Guards around two pieces are put in front of the guards of the texts of each. -/
theorem both_map_under (gs : List Guard) (x y : Except ReduceError Reduction) :
    both (x.map (List.map (Item.under gs))) (y.map (List.map (Item.under gs))) =
      (both x y).map (List.map (Item.under gs)) := by
  cases x with
  | error e => rfl
  | ok xs =>
    cases y with
    | error e => rfl
    | ok ys => simp [both, bind, Except.bind, pure, Except.pure, Except.map]

/-! ## Under guards -/

/-- What comes out under the guards is what comes out without them, with the guards put in
front. -/
structure IsUnder (gs : List Guard) (own guarded : Except ReduceError Reduction) : Prop where
  /-- There is a reduction under the guards exactly if there is one without them. -/
  exists_ok_iff : (∃ items, guarded = .ok items) ↔ ∃ items, own = .ok items
  /-- It has the same texts in the same order. -/
  texts_eq {items items' : Reduction} (h : own = .ok items) (h' : guarded = .ok items') :
    items'.map Item.text = items.map Item.text
  /-- In front of the guards of each text are the guards around it. -/
  guards_eq {items items' : Reduction} (h : own = .ok items) (h' : guarded = .ok items') :
    items'.map Item.guards = items.map fun i => gs ++ i.guards
  /-- An error is the same with the guards and without them, and so is its node. -/
  error_iff (e : ReduceError) : guarded = .error e ↔ own = .error e

theorem isUnder_map_under (gs : List Guard) (own : Except ReduceError Reduction) :
    IsUnder gs own (own.map (List.map (Item.under gs))) := by
  cases own with
  | error e => exact ⟨by simp [Except.map], nofun, nofun, by simp [Except.map]⟩
  | ok items =>
    refine ⟨by simp [Except.map], ?_, ?_, by simp [Except.map]⟩
    · rintro _ _ ⟨⟩ ⟨⟩
      simp
    · rintro _ _ ⟨⟩ ⟨⟩
      simp

end Reduction

namespace Node

/-! ## Outer guards are a prefix -/

theorem reduce_branch_of_resolve_eq_error {gs : List Guard} {c : Node} {e : ReduceError}
    (h : Condition.resolve c = .error e) (yes no : List Node) :
    reduce gs (branch c yes no) = .error e := by
  rw [reduce_branch, h]
  rfl

/-- A branch with a known condition shows both sides, each guarded by it. -/
theorem reduce_branch_of_resolve_eq_ok {gs : List Guard} {c : Node} {k : Condition}
    (h : Condition.resolve c = .ok k) (yes no : List Node) :
    reduce gs (branch c yes no) =
      Reduction.both (reduceList (gs ++ [⟨k, true⟩]) yes)
        (reduceList (gs ++ [⟨k, false⟩]) no) := by
  rw [reduce_branch, h]
  rfl

mutual

/-- Guards around a node are put in front of the guards of its texts, and change
neither whether it reduces nor the error if it does not. -/
theorem reduce_append (gs hs : List Guard) : ∀ n : Node,
    reduce (gs ++ hs) n = (reduce hs n).map (List.map (Item.under gs))
  | text _ | object _ | number _ | tag _ _ => rfl
  | call .equal _ | call .playerParameter _ => rfl
  | call .objectParameter ps => by
      simp only [reduce]
      cases Slot.resolve (.call .objectParameter ps) <;> rfl
  | element .clickable [] (some _) => rfl
  | element .clickable [p] none => by
      simp only [reduce]
      exact reduce_append gs hs p
  | element .clickable [] none | element .clickable [_] (some _) => rfl
  | element .clickable (_ :: _ :: _) none | element .clickable (_ :: _ :: _) (some _) => rfl
  | element .sheet _ (some _) | element .sheetEn _ (some _) => rfl
  | element .sheet ps none => by
      simp only [reduce]
      cases Slot.resolve (.tag .sheet ps) <;> rfl
  | element .sheetEn ps none => by
      simp only [reduce]
      cases Slot.resolve (.tag .sheetEn ps) <;> rfl
  | branch c yes no => by
      cases hc : Condition.resolve c with
      | error e =>
        rw [reduce_branch_of_resolve_eq_error hc, reduce_branch_of_resolve_eq_error hc]
        rfl
      | ok k =>
        have hyes := reduceList_append gs (hs ++ [⟨k, true⟩]) yes
        have hno := reduceList_append gs (hs ++ [⟨k, false⟩]) no
        rw [reduce_branch_of_resolve_eq_ok hc, reduce_branch_of_resolve_eq_ok hc,
          List.append_assoc, List.append_assoc, hyes, hno]
        exact Reduction.both_map_under gs _ _

/-- Guards around a sequence are put in front of the guards of its texts. -/
theorem reduceList_append (gs hs : List Guard) : ∀ ns : List Node,
    reduceList (gs ++ hs) ns = (reduceList hs ns).map (List.map (Item.under gs))
  | [] => rfl
  | n :: ns => by
      rw [reduceList_cons, reduce_append gs hs n, reduceList_append gs hs ns]
      exact Reduction.both_map_under gs _ _

end

/-- A node under guards can be reduced by itself first. -/
theorem reduce_eq_map_under (gs : List Guard) (n : Node) :
    reduce gs n = (reduce [] n).map (List.map (Item.under gs)) := by
  rw [← reduce_append, List.append_nil]

/-- So can a sequence. -/
theorem reduceList_eq_map_under (gs : List Guard) (ns : List Node) :
    reduceList gs ns = (reduceList [] ns).map (List.map (Item.under gs)) := by
  rw [← reduceList_append, List.append_nil]

/-- A node under guards reduces exactly when it reduces by itself, to the same texts
under these guards. -/
theorem reduce_eq_ok_iff_exists {gs : List Guard} {n : Node} {items : Reduction} :
    reduce gs n = .ok items ↔
      ∃ own, reduce [] n = .ok own ∧ items = own.map (Item.under gs) := by
  rw [reduce_eq_map_under]
  cases reduce [] n with
  | error e => simp [Except.map]
  | ok own => simp [Except.map, eq_comm]

/-- A sequence under guards reduces exactly when it reduces by itself, to the same texts
under these guards. -/
theorem reduceList_eq_ok_iff_exists {gs : List Guard} {ns : List Node} {items : Reduction} :
    reduceList gs ns = .ok items ↔
      ∃ own, reduceList [] ns = .ok own ∧ items = own.map (Item.under gs) := by
  rw [reduceList_eq_map_under]
  cases reduceList [] ns with
  | error e => simp [Except.map]
  | ok own => simp [Except.map, eq_comm]

/-! ## Sequences one after the other -/

/-- Two sequences one after the other reduce like two pieces. -/
theorem reduceList_both (gs : List Guard) (ms ns : List Node) :
    reduceList gs (ms ++ ns) = Reduction.both (reduceList gs ms) (reduceList gs ns) := by
  induction ms with
  | nil =>
    rw [List.nil_append]
    cases reduceList gs ns <;> rfl
  | cons m ms ih =>
    calc reduceList gs (m :: (ms ++ ns))
      _ = Reduction.both (reduce gs m) (reduceList gs (ms ++ ns)) := reduceList_cons gs m _
      _ = Reduction.both (reduce gs m)
            (Reduction.both (reduceList gs ms) (reduceList gs ns)) := by rw [ih]
      _ = Reduction.both (Reduction.both (reduce gs m) (reduceList gs ms))
            (reduceList gs ns) := (Reduction.both_assoc _ _ _).symm
      _ = Reduction.both (reduceList gs (m :: ms)) (reduceList gs ns) := by
            rw [reduceList_cons]
            rfl

/-- They reduce when both of them do, to their texts one after the other. -/
theorem reduceList_both_eq_ok_iff {gs : List Guard} {ms ns : List Node} {items : Reduction} :
    reduceList gs (ms ++ ns) = .ok items ↔
      ∃ xs ys, reduceList gs ms = .ok xs ∧ reduceList gs ns = .ok ys ∧ items = xs ++ ys := by
  rw [reduceList_both]
  exact Reduction.both_eq_ok_iff

/-- They fail with the error of the first one, or else with that of the second. -/
theorem reduceList_both_eq_error_iff {gs : List Guard} {ms ns : List Node} {e : ReduceError} :
    reduceList gs (ms ++ ns) = .error e ↔
      reduceList gs ms = .error e ∨
        (∃ xs, reduceList gs ms = .ok xs) ∧ reduceList gs ns = .error e := by
  rw [reduceList_both]
  exact Reduction.both_eq_error_iff

/-- Guards are a pure prefix.  A part reduces under guards exactly if it does without them, to
the same texts in the same order, with the guards put in front of their own; or it fails with
the same error at the same node.  The same is true of a sequence, and two sequences one after
the other reduce to the texts of the first and then those of the second, up to the first
error. -/
theorem reduce_under_guards (gs : List Guard) :
    (∀ n : Node, Reduction.IsUnder gs (reduce [] n) (reduce gs n)) ∧
    (∀ ns : List Node, Reduction.IsUnder gs (reduceList [] ns) (reduceList gs ns)) ∧
    ∀ ms ns : List Node,
      (∀ items, reduceList gs (ms ++ ns) = .ok items ↔
        ∃ xs ys, reduceList gs ms = .ok xs ∧ reduceList gs ns = .ok ys ∧ items = xs ++ ys) ∧
      ∀ e, reduceList gs (ms ++ ns) = .error e ↔
        reduceList gs ms = .error e ∨
          (∃ xs, reduceList gs ms = .ok xs) ∧ reduceList gs ns = .error e := by
  refine ⟨?part, ?sequence, fun ms ns => ⟨fun items => ?ok, fun e => ?error⟩⟩
  case part =>
    intro n
    rw [reduce_eq_map_under gs]
    exact Reduction.isUnder_map_under gs _
  case sequence =>
    intro ns
    rw [reduceList_eq_map_under gs]
    exact Reduction.isUnder_map_under gs _
  case ok => exact reduceList_both_eq_ok_iff
  case error => exact reduceList_both_eq_error_iff

/-- The theorem on a side of a branch: at a branch that asks the same condition again, and at
two sequences.  A lookup in the first sequence mentions no slot; the number in the second one
shows no text either, but comes later. -/
theorem reduce_under_guards_nested :
    (∃ items, reduce [⟨.originPlayer, true⟩]
        (.branch (.fact 7) [.text "you"] [.element .clickable [.participant 2] none]) =
          .ok items ∧
      items.map Item.text = [.static "you", .slot .npcOrigin] ∧
      items.map Item.guards = [[⟨.originPlayer, true⟩, ⟨.originPlayer, true⟩],
        [⟨.originPlayer, true⟩, ⟨.originPlayer, false⟩]]) ∧
    reduceList [⟨.originPlayer, true⟩]
        ([.text "Hey, ", .element .sheet [] none] ++ [.number 1]) =
      .error (.unknownSlot (.tag .sheet [])) := by
  obtain ⟨hpart, hsequence, hboth⟩ := reduce_under_guards [⟨.originPlayer, true⟩]
  have hown : reduce [] (.branch (.fact 7) [.text "you"]
      [.element .clickable [.participant 2] none]) =
      .ok [⟨[⟨.originPlayer, true⟩], .static "you"⟩,
        ⟨[⟨.originPlayer, false⟩], .slot .npcOrigin⟩] := rfl
  have hfails : reduceList [] [.text "Hey, ", .element .sheet [] none] =
      .error (.unknownSlot (.tag .sheet [])) := rfl
  constructor
  · have hunder := hpart (.branch (.fact 7) [.text "you"]
      [.element .clickable [.participant 2] none])
    obtain ⟨items, hitems⟩ := hunder.exists_ok_iff.mpr ⟨_, hown⟩
    exact ⟨items, hitems, hunder.texts_eq hown hitems, hunder.guards_eq hown hitems⟩
  · exact ((hboth _ _).2 _).mpr (.inl (((hsequence _).error_iff _).mpr hfails))

/-! ## What reduces, and to what -/

end Node

theorem Condition.resolve_eq_ok_iff {n : Node} {c : Condition} :
    Condition.resolve n = .ok c ↔ Condition.ofNode? n = some c := by
  unfold Condition.resolve
  cases Condition.ofNode? n <;> simp

theorem Slot.resolve_eq_ok_iff {n : Node} {s : Slot} :
    Slot.resolve n = .ok s ↔ Slot.ofNode? n = some s := by
  unfold Slot.resolve
  cases Slot.ofNode? n <;> simp

/-- The single text of a node that mentions a slot. -/
theorem Slot.resolve_bind_eq_ok_iff {gs : List Guard} {n : Node} {items : Reduction} :
    (do
      let slot ← Slot.resolve n
      return [⟨gs, Text.slot slot⟩] : Except ReduceError (List Item)) = .ok items ↔
      ∃ s, Slot.ofNode? n = some s ∧ items = [⟨gs, .slot s⟩] := by
  simp only [← Slot.resolve_eq_ok_iff]
  cases Slot.resolve n <;> simp [bind, Except.bind, pure, Except.pure, eq_comm]

namespace Node

/-- A sequence reduces when its nodes do, to their texts one after the other. -/
theorem reduceList_cons_eq_ok_iff {gs : List Guard} {n : Node} {ns : List Node}
    {items : Reduction} :
    reduceList gs (n :: ns) = .ok items ↔
      ∃ xs ys, reduce gs n = .ok xs ∧ reduceList gs ns = .ok ys ∧ items = xs ++ ys := by
  rw [reduceList_cons]
  exact Reduction.both_eq_ok_iff

/-- A branch reduces when its condition is known and both sides reduce.  Each side is
guarded by the condition. -/
theorem reduce_branch_eq_ok_iff {gs : List Guard} {c : Node} {yes no : List Node}
    {items : Reduction} :
    reduce gs (branch c yes no) = .ok items ↔
      ∃ k ys ns, Condition.ofNode? c = some k ∧
        reduceList (gs ++ [⟨k, true⟩]) yes = .ok ys ∧
        reduceList (gs ++ [⟨k, false⟩]) no = .ok ns ∧ items = ys ++ ns := by
  simp only [← Condition.resolve_eq_ok_iff]
  cases hc : Condition.resolve c with
  | error e => simp [reduce_branch_of_resolve_eq_error hc]
  | ok k => simp [reduce_branch_of_resolve_eq_ok hc, Reduction.both_eq_ok_iff]

/-- The tags that reduce: a wrapper around a text, a wrapper around one part, and a
lookup that mentions a slot. -/
theorem reduce_element_eq_ok_iff {gs : List Guard} {t : TagName} {ps : List Node}
    {inner : Option String} {items : Reduction} :
    reduce gs (element t ps inner) = .ok items ↔
      (t = .clickable ∧ ps = [] ∧ ∃ s, inner = some s ∧ items = [⟨gs, .static s⟩]) ∨
      (t = .clickable ∧ inner = none ∧ ∃ p, ps = [p] ∧ reduce gs p = .ok items) ∨
      (t ≠ .clickable ∧ inner = none ∧
        ∃ s, Slot.ofNode? (.tag t ps) = some s ∧ items = [⟨gs, .slot s⟩]) := by
  cases t with
  | clickable =>
    match ps, inner with
    | [], some s => simp [reduce, eq_comm]
    | [p], none => simp [reduce]
    | [], none | [_], some _ | _ :: _ :: _, none | _ :: _ :: _, some _ => simp [reduce]
  | sheet | sheetEn =>
    cases inner with
    | none =>
      simp only [reduce, Slot.resolve_bind_eq_ok_iff]
      simp
    | some s => simp [reduce]

/-- The calls that reduce: mentions of a participant that is a slot. -/
theorem reduce_call_eq_ok_iff {gs : List Guard} {f : FunctionName} {ps : List Node}
    {items : Reduction} :
    reduce gs (call f ps) = .ok items ↔
      f = .objectParameter ∧
        ∃ s, Slot.ofNode? (.call f ps) = some s ∧ items = [⟨gs, .slot s⟩] := by
  cases f with
  | equal | playerParameter => simp [reduce]
  | objectParameter =>
    simp only [reduce, Slot.resolve_bind_eq_ok_iff]
    simp

/-! ## Where a node stands -/

/-- The node stands in text position of the message, and the guards are those of the
branches around it, outermost first. -/
inductive Stands : List Guard → Node → List Node → Prop
  /-- As a part of the message itself. -/
  | part {n : Node} {ns : List Node} (hmem : n ∈ ns) : Stands [] n ns
  /-- On the first side of a branch. -/
  | yes {gs : List Guard} {n c : Node} {k : Condition} {yes no ns : List Node}
      (hmem : branch c yes no ∈ ns) (hcondition : Condition.ofNode? c = some k)
      (hside : Stands gs n yes) : Stands (⟨k, true⟩ :: gs) n ns
  /-- On the second side of a branch. -/
  | no {gs : List Guard} {n c : Node} {k : Condition} {yes no ns : List Node}
      (hmem : branch c yes no ∈ ns) (hcondition : Condition.ofNode? c = some k)
      (hside : Stands gs n no) : Stands (⟨k, false⟩ :: gs) n ns
  /-- Inside a wrapper. -/
  | wrapped {gs : List Guard} {n p : Node} {ns : List Node}
      (hmem : element .clickable [p] none ∈ ns) (hinside : Stands gs n [p]) : Stands gs n ns

/-- The texts of a part of a sequence stand side by side in its reduction. -/
theorem exists_reduce_eq_of_mem {gs : List Guard} {n : Node} {ns : List Node}
    {items : Reduction} (hmem : n ∈ ns) (h : reduceList gs ns = .ok items) :
    ∃ before own after, items = before ++ own ++ after ∧ reduce gs n = .ok own := by
  obtain ⟨ms, ms', rfl⟩ := List.append_of_mem hmem
  obtain ⟨before, rest, -, hrest, rfl⟩ := reduceList_both_eq_ok_iff.mp h
  obtain ⟨own, after, hown, -, rfl⟩ := reduceList_cons_eq_ok_iff.mp hrest
  exact ⟨before, own, after, by simp, hown⟩

/-- The texts of a node stand side by side in the reduction of the message around it,
under the guards of the branches around the node. -/
theorem Stands.exists_reduce_eq {gs hs : List Guard} {n : Node} {ns : List Node}
    {items : Reduction} (hn : Stands gs n ns) (h : reduceList hs ns = .ok items) :
    ∃ before own after, items = before ++ own ++ after ∧ reduce (hs ++ gs) n = .ok own := by
  induction hn generalizing hs items with
  | part hmem => simpa using exists_reduce_eq_of_mem hmem h
  | yes hmem hcondition _ ih =>
    obtain ⟨before, own, after, rfl, hown⟩ := exists_reduce_eq_of_mem hmem h
    obtain ⟨k, ys, ns, hk, hyes, _, rfl⟩ := reduce_branch_eq_ok_iff.mp hown
    obtain rfl := Option.some.inj (hcondition.symm.trans hk)
    obtain ⟨left, inner, right, rfl, hinner⟩ := ih hyes
    exact ⟨before ++ left, inner, right ++ ns ++ after, by simp, by simpa using hinner⟩
  | no hmem hcondition _ ih =>
    obtain ⟨before, own, after, rfl, hown⟩ := exists_reduce_eq_of_mem hmem h
    obtain ⟨k, ys, ns, hk, _, hno, rfl⟩ := reduce_branch_eq_ok_iff.mp hown
    obtain rfl := Option.some.inj (hcondition.symm.trans hk)
    obtain ⟨left, inner, right, rfl, hinner⟩ := ih hno
    exact ⟨before ++ ys ++ left, inner, right ++ after, by simp, by simpa using hinner⟩
  | @wrapped _ _ p _ hmem _ ih =>
    obtain ⟨before, own, after, rfl, hown⟩ := exists_reduce_eq_of_mem hmem h
    have hp : reduceList hs [p] = .ok own := by
      refine reduceList_cons_eq_ok_iff.mpr ⟨own, [], ?_, rfl, by simp⟩
      simpa [reduce] using hown
    obtain ⟨left, inner, right, rfl, hinner⟩ := ih hp
    exact ⟨before ++ left, inner, right ++ after, by simp, hinner⟩

end Node

end LogMarkup
