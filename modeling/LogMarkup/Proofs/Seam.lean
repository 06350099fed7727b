import LogMarkup.Proofs.RoundTrip
import Mathlib.Data.List.Chain

/-!
# Messages side by side

Two messages that are written one after the other are one message, unless texts meet at
the seam.  These become one text, provided that no call begins in the first and ends in
the second.  Nothing else can happen at a seam: no other word ends in a way that the
beginning of the second message could change.

Main results:

- `Concrete.allWellFormed_append_iff`: two well-formed messages form one, unless texts
  meet.
- `Concrete.allWellFormed_merge`: texts that meet are merged.
- `Markup.nodes_append`: reading two markups that are written one after the other.
-/

namespace LogMarkup

/-- Two lists meet in two elements of a class, or they do not. -/
theorem exists_meet_or_not {β : Type} (p : β → Bool) (xs ys : List β) :
    (∃ xs' x y ys', xs = xs' ++ [x] ∧ ys = y :: ys' ∧ p x = true ∧ p y = true) ∨
      ∀ x ∈ xs.getLast?, ∀ y ∈ ys.head?, ¬ (p x = true ∧ p y = true) := by
  by_cases hmeet : ∃ x ∈ xs.getLast?, ∃ y ∈ ys.head?, p x = true ∧ p y = true
  · obtain ⟨x, hx, y, hy, hpx, hpy⟩ := hmeet
    obtain ⟨xs', rfl⟩ := List.getLast?_eq_some_iff.mp hx
    obtain ⟨ys', rfl⟩ := List.head?_eq_some_iff.mp hy
    exact .inl ⟨xs', x, y, ys', rfl, rfl, hpx, hpy⟩
  · right
    intro x hx y hy hxy
    exact hmeet ⟨x, hx, y, hy, hxy⟩

/-! ## Calls across a seam -/

namespace Terminal

/-- The beginning of a call stands across the seam between the two texts: it begins in the
first one and ends in the second. -/
def CallAcross (s t : List Char) : Prop :=
  ∃ head ∈ callHeads, ∃ before after, s ++ t = before ++ (head ++ after) ∧
    before.length < s.length ∧ s.length < (before ++ head).length

/-- A call stands across a seam exactly if its beginning is found at an index in the first
text, but not to its end. -/
theorem callAcross_iff {s t : List Char} :
    CallAcross s t ↔ ∃ head ∈ callHeads, ∃ i ∈ List.range s.length,
      head <+: (s ++ t).drop i ∧ s.length < i + head.length := by
  constructor
  · rintro ⟨head, hhead, before, after, hsplit, hbegins, hends⟩
    refine ⟨head, hhead, before.length, List.mem_range.mpr hbegins, ?_, ?_⟩
    · rw [hsplit, List.drop_left]
      exact List.prefix_append head after
    · simpa using hends
  · rintro ⟨head, hhead, i, hi, ⟨after, hafter⟩, hends⟩
    have hlength : ((s ++ t).take i).length = i := by
      have hbound := List.mem_range.mp hi
      rw [List.length_take, List.length_append]
      omega
    refine ⟨head, hhead, (s ++ t).take i, after, ?_, ?_, ?_⟩
    · rw [hafter, List.take_append_drop]
    · rw [hlength]
      exact List.mem_range.mp hi
    · rw [List.length_append, hlength]
      exact hends

instance (s t : List Char) : Decidable (CallAcross s t) :=
  decidable_of_iff _ callAcross_iff.symm

/-- Two texts that make a call when they meet. -/
example : CallAcross "Equal".toList "(1)".toList := by decide

/-- The beginning of a call stands across the seam of two texts wherever else these
stand. -/
theorem CallAcross.extend {s t : List Char} (h : CallAcross s t) (s' t' : List Char) :
    CallAcross (s' ++ s) (t ++ t') := by
  obtain ⟨head, hhead, before, after, hsplit, hbegins, hends⟩ := h
  refine ⟨head, hhead, s' ++ before, after ++ t', ?_, ?_, ?_⟩
  · calc s' ++ s ++ (t ++ t') = s' ++ (s ++ t) ++ t' := by simp
      _ = s' ++ before ++ (head ++ (after ++ t')) := by rw [hsplit]; simp
  · simpa using hbegins
  · simp only [List.length_append] at hends ⊢
    omega

/-- Two texts that meet form one, if no call stands across the seam. -/
theorem IsText.append {v w : List Char} (hv : IsText v) (hw : IsText w)
    (hseam : ¬ CallAcross v w) : IsText (v ++ w) := by
  obtain ⟨hne, hlt, hheads⟩ := hv
  refine ⟨by simp [hne], by simp [hlt, hw.2.1], ?_⟩
  rintro head hhead ⟨before, after, hsplit⟩
  rw [List.append_assoc] at hsplit
  -- The beginning of a call stands in the first text, across the seam or in the second.
  by_cases hbegins : before.length < v.length
  · by_cases hends : v.length < (before ++ head).length
    · exact hseam ⟨head, hhead, before, after, hsplit.symm, hbegins, hends⟩
    · have hprefix : before ++ head <+: v := by
        apply List.prefix_of_prefix_length_le _ (List.prefix_append v w)
        · omega
        · exact ⟨after, by rw [List.append_assoc, hsplit]⟩
      exact hheads head hhead ((List.suffix_append before head).isInfix.trans hprefix.isInfix)
  · obtain ⟨between, rfl⟩ : v <+: before := by
      apply List.prefix_of_prefix_length_le (List.prefix_append v w)
      · exact ⟨head ++ after, hsplit⟩
      · omega
    rw [List.append_assoc, List.append_cancel_left_eq] at hsplit
    exact hw.2.2 head hhead ⟨between, after, by rw [List.append_assoc, hsplit]⟩

end Terminal

namespace Concrete

variable {α : Type}

/-! ## Places do not matter -/

theorem asCondition_locate (p : Place) (x : Concrete α) (n : Node) :
    (x.locate p).asCondition n = x.asCondition n := by
  cases x <;> cases n <;> rfl

mutual

/-- What is built of a part does not depend on its place. -/
theorem build_locate_eq_ok_iff (p : Place) : ∀ (x : Concrete α) {n : Node},
    (x.locate p).build = .ok n ↔ x.build = .ok n
  | text w, n => by simp [locate, build_text_eq]
  | call w ps, n => by
      rw [locate, build_call_eq_ok_iff, build_call_eq_ok_iff]
      simp only [buildList_locateParams_eq_ok_iff _ ps]
  | single w ps, n => by
      simp only [locate, build_single_eq_ok_iff, buildList_locateParams_eq_ok_iff _ ps]
  | pair mark w ps inner close, n => by
      simp only [locate, build_pair_eq_ok_iff, buildList_locateParams_eq_ok_iff _ ps]
      cases inner <;> rfl
  | branch c yes no, n => by
      simp only [locate, build_branch_eq_ok_iff, build_locate_eq_ok_iff _ c,
        buildList_locateList_eq_ok_iff _ yes, buildList_locateList_eq_ok_iff _ no,
        asCondition_locate]
  | object w, n => by simp only [locate, build_object_eq_ok_iff]
  | number w, n => by
      simp only [locate, build_number_eq, numberValue]
      cases Numeral.read? w.chars <;> simp [bind, Except.bind]

/-- What is built of parameters does not depend on their places. -/
theorem buildList_locateParams_eq_ok_iff (p : Place) : ∀ (xs : List (Concrete α))
    {ns : List Node}, buildList (locateParams p xs) = .ok ns ↔ buildList xs = .ok ns
  | [], ns => by simp [locateParams, buildList_nil_eq]
  | x :: xs, ns => by
      simp only [locateParams, buildList_cons_eq_ok_iff, build_locate_eq_ok_iff _ x,
        buildList_locateParams_eq_ok_iff _ xs]

/-- What is built of a message does not depend on its places. -/
theorem buildList_locateList_eq_ok_iff (p : Place) : ∀ (xs : List (Concrete α))
    {ns : List Node}, buildList (locateList p xs) = .ok ns ↔ buildList xs = .ok ns
  | [], ns => by simp [locateList, buildList_nil_eq]
  | x :: xs, ns => by
      simp only [locateList, buildList_cons_eq_ok_iff, build_locate_eq_ok_iff _ x,
        buildList_locateList_eq_ok_iff _ xs]

end

/-! ## Sequences of parts -/

/-- Two sequences are spelled one after the other. -/
theorem listChars_append (xs ys : List (Concrete α)) :
    listChars (xs ++ ys) = listChars xs ++ listChars ys := by
  induction xs with
  | nil => rfl
  | cons x xs ih => simp [listChars, ih]

/-- Two sequences are built one after the other. -/
theorem buildList_append_eq_ok_iff {xs ys : List (Concrete α)} {ns : List Node} :
    buildList (xs ++ ys) = .ok ns ↔
      ∃ ms ms', buildList xs = .ok ms ∧ buildList ys = .ok ms' ∧ ns = ms ++ ms' := by
  induction xs generalizing ns with
  | nil => simp [buildList_nil_eq, eq_comm]
  | cons x xs ih =>
    simp only [List.cons_append, buildList_cons_eq_ok_iff, ih]
    constructor
    · rintro ⟨n, _, hn, ⟨ms, ms', hms, hms', rfl⟩, rfl⟩
      exact ⟨n :: ms, ms', ⟨n, ms, hn, hms, rfl⟩, hms', rfl⟩
    · rintro ⟨_, ms', ⟨n, ms, hn, hms, rfl⟩, hms', rfl⟩
      exact ⟨n, ms ++ ms', hn, ⟨ms, ms', hms, hms', rfl⟩, rfl⟩

/-- A sequence is well formed if its parts are and no texts are side by side. -/
theorem allWellFormed_iff {p : Position} {xs : List (Concrete α)} :
    AllWellFormed p xs ↔ (∀ x ∈ xs, p.admits x = true ∧ x.WellFormed) ∧
      xs.IsChain fun x y => ¬ (x.isText = true ∧ y.isText = true) := by
  induction xs with
  | nil => simp [AllWellFormed]
  | cons x xs ih =>
    rw [AllWellFormed, ih, List.isChain_cons, List.forall_mem_cons]
    cases xs with
    | nil => simp
    | cons y xs =>
      simp only [List.head?_cons, Option.any_some, Option.mem_some_iff, forall_eq']
      tauto

/-- Two well-formed sequences form one, unless texts meet. -/
theorem allWellFormed_append_iff {p : Position} {xs ys : List (Concrete α)} :
    AllWellFormed p (xs ++ ys) ↔ AllWellFormed p xs ∧ AllWellFormed p ys ∧
      ∀ x ∈ xs.getLast?, ∀ y ∈ ys.head?, ¬ (x.isText = true ∧ y.isText = true) := by
  simp only [allWellFormed_iff, List.isChain_append, List.mem_append, or_imp, forall_and]
  tauto

/-- Texts that meet are merged. -/
theorem allWellFormed_merge {xs ys : List (Concrete α)} {v w u : Token α}
    (hxs : AllWellFormed .part (xs ++ [text v])) (hys : AllWellFormed .part (text w :: ys))
    (hu : Terminal.IsText u.chars) : AllWellFormed .part (xs ++ text u :: ys) := by
  obtain ⟨hxs, -, hmeet⟩ := allWellFormed_append_iff.mp hxs
  obtain ⟨-, -, htexts, hys⟩ := hys
  refine allWellFormed_append_iff.mpr ⟨hxs, ⟨rfl, hu, htexts, hys⟩, ?_⟩
  rintro x hx _ ⟨⟩
  exact hmeet x hx (text v) rfl

theorem eq_text_of_isText {x : Concrete α} (h : x.isText = true) : ∃ w, x = text w := by
  cases x with
  | text w => exact ⟨w, rfl⟩
  | _ => contradiction

/-- Texts, and only texts, are built of texts. -/
theorem map_isText_of_buildList {xs : List (Concrete α)} {ns : List Node}
    (h : buildList xs = .ok ns) : ns.map Node.isText = xs.map isText := by
  induction xs generalizing ns with
  | nil =>
    obtain rfl := Except.ok.inj h
    rfl
  | cons x xs ih =>
    obtain ⟨n, ns, hn, hns, rfl⟩ := buildList_cons_eq_ok_iff.mp h
    rw [List.map_cons, List.map_cons, isText_of_build hn, ih hns]

/-- Where no texts meet, no texts meet in what is built. -/
theorem not_meet_of_buildList {xs ys : List (Concrete α)} {ms ns : List Node}
    (hms : buildList xs = .ok ms) (hns : buildList ys = .ok ns)
    (h : ∀ x ∈ xs.getLast?, ∀ y ∈ ys.head?, ¬ (x.isText = true ∧ y.isText = true)) :
    ∀ m ∈ ms.getLast?, ∀ n ∈ ns.head?, ¬ (m.isText = true ∧ n.isText = true) := by
  rintro m hm n hn ⟨hmtext, hntext⟩
  have hlast : (xs.map isText).getLast? = some true := by
    rw [← map_isText_of_buildList hms, List.getLast?_map, hm, ← hmtext]
    rfl
  have hhead : (ys.map isText).head? = some true := by
    rw [← map_isText_of_buildList hns, List.head?_map, hn, ← hntext]
    rfl
  rw [List.getLast?_map, Option.map_eq_some_iff] at hlast
  rw [List.head?_map, Option.map_eq_some_iff] at hhead
  obtain ⟨x, hx, hxtext⟩ := hlast
  obtain ⟨y, hy, hytext⟩ := hhead
  exact h x hx y hy ⟨hxtext, hytext⟩

end Concrete

/-! ## Messages of nodes -/

namespace Node

/-- The parts of two messages one after the other, where texts that meet become one. -/
def join (ms ns : List Node) : List Node :=
  match ms.getLast?, ns with
  | some (text s), text t :: rest => ms.dropLast ++ text (s ++ t) :: rest
  | _, _ => ms ++ ns

/-- Texts that meet become one. -/
theorem join_text (ms ns : List Node) (s t : String) :
    join (ms ++ [text s]) (text t :: ns) = ms ++ text (s ++ t) :: ns := by
  simp [join]

/-- Where no texts meet, the parts stand side by side. -/
theorem join_eq_append {ms ns : List Node}
    (h : ∀ m ∈ ms.getLast?, ∀ n ∈ ns.head?, ¬ (m.isText = true ∧ n.isText = true)) :
    join ms ns = ms ++ ns := by
  unfold join
  split
  next s t rest hlast => exact absurd ⟨rfl, rfl⟩ (h (text s) hlast (text t) rfl)
  next => rfl

theorem eq_text_of_isText {n : Node} (h : n.isText = true) : ∃ s, n = text s := by
  cases n with
  | text s => exact ⟨s, rfl⟩
  | _ => contradiction

end Node

/-! ## Markups side by side -/

namespace Markup

open Concrete (listChars buildList)

/-- A message is read if it is built of the concrete message that is spelled like the
markup, whatever the places of its words are. -/
theorem nodes_eq_ok_iff_build {markup : String} {message : List Node} :
    nodes markup = .ok message ↔
      ∃ m : List Part, Concrete.AllWellFormed .part m ∧ listChars m = markup.toList ∧
        buildList m = .ok message := by
  simp only [nodes_eq_ok_iff, Concrete.buildList_locateList_eq_ok_iff, and_assoc]

/-- Two markups that are written one after the other are read one after the other, if no
call stands across the seam. -/
theorem nodes_append {s t : String} {ms ns : List Node} (hs : nodes s = .ok ms)
    (ht : nodes t = .ok ns) (hseam : ¬ Terminal.CallAcross s.toList t.toList) :
    nodes (s ++ t) = .ok (Node.join ms ns) := by
  obtain ⟨xs, hxs, hsx, hms⟩ := nodes_eq_ok_iff_build.mp hs
  obtain ⟨ys, hys, hty, hns⟩ := nodes_eq_ok_iff_build.mp ht
  rw [nodes_eq_ok_iff_build, String.toList_append, ← hsx, ← hty]
  rw [← hsx, ← hty] at hseam
  rcases exists_meet_or_not Concrete.isText xs ys with
    ⟨xs, _, _, ys, rfl, rfl, hx, hy⟩ | hmeet
  · obtain ⟨v, rfl⟩ := Concrete.eq_text_of_isText hx
    obtain ⟨w, rfl⟩ := Concrete.eq_text_of_isText hy
    have hv : Terminal.IsText v.chars := (Concrete.allWellFormed_append_iff.mp hxs).2.1.2.1
    have hw : Terminal.IsText w.chars := hys.2.1
    have hmerged : Terminal.IsText (v.chars ++ w.chars) := by
      refine hv.append hw fun hacross => hseam ?_
      rw [Concrete.listChars_append, Concrete.listChars]
      simpa [Concrete.listChars, Concrete.chars] using
        hacross.extend (listChars xs) (listChars ys)
    obtain ⟨ms, _, hinit, hlast, rfl⟩ := Concrete.buildList_append_eq_ok_iff.mp hms
    obtain rfl := Except.ok.inj hlast
    obtain ⟨_, ns, hfirst, hrest, rfl⟩ := Concrete.buildList_cons_eq_ok_iff.mp hns
    obtain rfl := Except.ok.inj hfirst
    refine ⟨xs ++ .text ⟨v.chars ++ w.chars, ()⟩ :: ys,
      Concrete.allWellFormed_merge hxs hys hmerged, ?_, ?_⟩
    · simp [Concrete.listChars_append, Concrete.listChars, Concrete.chars]
    · rw [Node.join_text]
      refine Concrete.buildList_append_eq_ok_iff.mpr ⟨ms, _, hinit, ?_, rfl⟩
      refine Concrete.buildList_cons_eq_ok_iff.mpr ⟨_, ns, ?_, hrest, rfl⟩
      simp [Concrete.build_text_eq]
  · refine ⟨xs ++ ys, Concrete.allWellFormed_append_iff.mpr ⟨hxs, hys, hmeet⟩,
      Concrete.listChars_append xs ys, ?_⟩
    rw [Node.join_eq_append]
    · exact Concrete.buildList_append_eq_ok_iff.mpr ⟨ms, ns, hms, hns, rfl⟩
    · exact Concrete.not_meet_of_buildList hms hns hmeet

end Markup

end LogMarkup
