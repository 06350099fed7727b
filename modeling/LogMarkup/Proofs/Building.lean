import LogMarkup.Node.Build
import LogMarkup.Proofs.NodeSpelling

/-!
# What is built

Building a message understands its words one by one.  The message that spells a
well-formed node is built into just this node, wherever its words stand.  In return,
whatever is built of a well-formed message is well formed.

Main results:

- `Node.build_locate_toConcrete`, `Node.buildList_locateList_toConcreteList`: building
  undoes spelling.
- `Concrete.WellFormed.build`, `Concrete.AllWellFormed.buildList`: well-formed messages
  are built into well-formed nodes.
-/

namespace LogMarkup

/-- What an error is turned into does not matter where there is none. -/
theorem mapError_eq_ok_iff {ε ε' β : Type} {x : Except ε β} {f : ε → ε'} {b : β} :
    x.mapError f = .ok b ↔ x = .ok b := by
  cases x with
  | error e => constructor <;> rintro ⟨⟩
  | ok a =>
    constructor
    · rintro ⟨⟩
      rfl
    · rintro ⟨⟩
      rfl

/-! ## Numbers -/

/-- The digits of a number are read as this number, if they are not too many. -/
theorem Concrete.build_numeral {n : Nat} (h : (Nat.toDigits 10 n).length ≤ Digits.limit)
    {α : Type} (mark : α) : (number ⟨Node.numeral n, mark⟩).build = .ok (.number n) := by
  obtain ⟨hne, hdigits⟩ := Node.isNumeral_numeral n
  have hlength : (Node.numeral n).length ≤ Digits.limit := h
  have hvalue : Digits.value (Node.numeral n) = n := Nat.ofDigitChars_ten_toDigits
  rw [build_number hne hdigits, if_pos hlength, hvalue]
  rfl

/-- Digits denote a number that is written with no more digits. -/
theorem Digits.length_toDigits_value_le {ds : List Char} (hne : ds ≠ [])
    (h : ∀ d ∈ ds, d.isDigit = true) : (Nat.toDigits 10 (value ds)).length ≤ ds.length := by
  have hlt : value ds < 10 ^ ds.length := by
    clear hne
    induction ds with
    | nil => decide
    | cons d ds ih =>
      have htail : value ds < 10 ^ ds.length := ih fun e he => h e (List.mem_cons_of_mem d he)
      have hhead : value [d] ≤ 9 := by
        have hd := (Char.isDigit_iff_toNat.mp (h d List.mem_cons_self)).2
        have hnine : '9'.toNat = 57 := rfl
        have hzero : '0'.toNat = 48 := rfl
        have hvalue : value [d] = 10 * 0 + (d.toNat - '0'.toNat) := rfl
        omega
      calc value (d :: ds) = 10 ^ ds.length * value [d] + value ds := value_append [d] ds
        _ < 10 ^ ds.length * 9 + 10 ^ ds.length :=
          Nat.add_lt_add_of_le_of_lt (Nat.mul_le_mul_left _ hhead) htail
        _ = 10 ^ (d :: ds).length := by
          rw [List.length_cons, Nat.pow_succ]
          omega
  exact (Nat.length_toDigits_le_iff (by decide) (List.length_pos_iff.mpr hne)).mpr hlt

namespace Node

/-! ## Building undoes spelling -/

/-- The node that is built of it before it is known to be a condition. -/
def asElement : Node → Node
  | tag t ps => element t ps none
  | n => n

theorem asElement_of_holds {p : Position} (hp : p ≠ .condition) {n : Node}
    (h : p.holds n = true) : n.asElement = n := by
  cases n with
  | tag t ps => cases p <;> contradiction
  | _ => rfl

open Concrete in
/-- A condition is understood as what it was. -/
theorem asCondition_asElement {c : Node} (h : Position.condition.holds c = true) (p : Place) :
    (c.toConcrete.locate p).asCondition c.asElement = c := by
  cases c with
  | call f ps => rfl
  | tag t ps => rfl
  | _ => contradiction

open Concrete

mutual

/-- What spells a well-formed node is built into the node. -/
theorem build_locate_toConcrete : ∀ {n : Node}, n.WellFormed → ∀ p : Place,
    (n.toConcrete.locate p).build = .ok n.asElement
  | text s, _, p => by
      rw [toConcrete, locate, build_text_eq, String.ofList_toList]
      rfl
  | call f ps, h, p => by
      rw [toConcrete, locate, build_call_eq_ok_iff]
      exact ⟨f, ps, rfl, buildList_locateParams_toConcreteList h.2 _, rfl⟩
  | tag t ps, h, p => by
      rw [toConcrete, locate, build_single_eq_ok_iff]
      exact ⟨t, ps, rfl, buildList_locateParams_toConcreteList h _, rfl⟩
  | element t ps none, h, p => by
      rw [toConcrete, locate, build_single_eq_ok_iff]
      exact ⟨t, ps, rfl, buildList_locateParams_toConcreteList h.1 _, rfl⟩
  | element t ps (some s), h, p => by
      rw [toConcrete, locate, build_pair_eq_ok_iff]
      refine ⟨t, ps, ⟨rfl, rfl⟩, buildList_locateParams_toConcreteList h.1 _, ?_⟩
      rw [Option.map_some, Option.map_some, String.ofList_toList]
      rfl
  | branch c yes no, h, p => by
      rw [toConcrete, locate, build_branch_eq_ok_iff]
      refine ⟨c.asElement, yes, no, build_locate_toConcrete h.1.2 _,
        buildList_locateList_toConcreteList h.2.1 _,
        buildList_locateList_toConcreteList h.2.2 _, ?_⟩
      rw [asCondition_asElement h.1.1]
      rfl
  | object o, _, p => by
      rw [toConcrete, locate, build_object_eq_ok_iff]
      exact ⟨o, rfl, rfl⟩
  | number i, h, p => by
      obtain ⟨n, rfl, hlength⟩ := h
      rw [toConcrete, locate]
      exact build_numeral hlength p

/-- What spells well-formed parameters is built into them. -/
theorem buildList_locateParams_toConcreteList : ∀ {ns : List Node}, AllWellFormed .param ns →
    ∀ p : Place, buildList (locateParams p (toConcreteList ns)) = .ok ns
  | [], _, _ => rfl
  | n :: ns, h, p => by
      have hn := build_locate_toConcrete h.2.1 (p.next ',')
      rw [asElement_of_holds (by decide) h.1] at hn
      rw [toConcreteList, locateParams, buildList_cons_eq_ok_iff]
      exact ⟨n, ns, hn, buildList_locateParams_toConcreteList h.2.2.2 _, rfl⟩

/-- What spells a well-formed message is built into it. -/
theorem buildList_locateList_toConcreteList : ∀ {ns : List Node}, AllWellFormed .part ns →
    ∀ p : Place, buildList (locateList p (toConcreteList ns)) = .ok ns
  | [], _, _ => rfl
  | n :: ns, h, p => by
      have hn := build_locate_toConcrete h.2.1 p
      rw [asElement_of_holds (by decide) h.1] at hn
      rw [toConcreteList, locateList, buildList_cons_eq_ok_iff]
      exact ⟨n, ns, hn, buildList_locateList_toConcreteList h.2.2.2 _, rfl⟩

end

end Node

namespace Concrete

variable {α : Type}

/-! ## Places do not matter -/

theorem isText_locate (p : Place) (x : Concrete α) : (x.locate p).isText = x.isText := by
  cases x <;> rfl

theorem admits_locate (q : Position) (p : Place) (x : Concrete α) :
    q.admits (x.locate p) = q.admits x := by
  cases x <;> cases q <;> rfl

mutual

/-- Places do not change whether a part is well formed. -/
theorem WellFormed.locate : ∀ {x : Concrete α}, x.WellFormed → ∀ p : Place,
    (x.locate p).WellFormed
  | text _, h, _ | object _, h, _ | number _, h, _ => h
  | call _ ps, h, _ => by
      refine ⟨h.1, ?_, AllWellFormed.locateParams h.2.2 _⟩
      cases ps with
      | nil => exact absurd rfl h.2.1
      | cons p ps => exact List.cons_ne_nil _ _
  | single _ _, h, _ => ⟨h.1, AllWellFormed.locateParams h.2 _⟩
  | pair _ _ _ inner _, h, _ => by
      refine ⟨h.1, AllWellFormed.locateParams h.2.1 _, ?_, h.2.2.2⟩
      intro w hw
      obtain ⟨v, hv, rfl⟩ := Option.map_eq_some_iff.mp hw
      exact h.2.2.1 v hv
  | branch c _ _, h, _ =>
      ⟨⟨(admits_locate _ _ c).trans h.1.1, WellFormed.locate h.1.2 _⟩,
        AllWellFormed.locateList h.2.1 _, AllWellFormed.locateList h.2.2 _⟩

/-- Places do not change whether parameters are well formed. -/
theorem AllWellFormed.locateParams {q : Position} : ∀ {xs : List (Concrete α)},
    AllWellFormed q xs → ∀ p : Place, AllWellFormed q (Concrete.locateParams p xs)
  | [], _, _ => trivial
  | x :: xs, h, _ => by
      refine ⟨(admits_locate _ _ x).trans h.1, WellFormed.locate h.2.1 _, ?_,
        AllWellFormed.locateParams h.2.2.2 _⟩
      rw [isText_locate]
      cases xs with
      | nil => simp [Concrete.locateParams]
      | cons y xs => simpa [Concrete.locateParams, isText_locate] using h.2.2.1

/-- Places do not change whether a message is well formed. -/
theorem AllWellFormed.locateList {q : Position} : ∀ {xs : List (Concrete α)},
    AllWellFormed q xs → ∀ p : Place, AllWellFormed q (Concrete.locateList p xs)
  | [], _, _ => trivial
  | x :: xs, h, _ => by
      refine ⟨(admits_locate _ _ x).trans h.1, WellFormed.locate h.2.1 _, ?_,
        AllWellFormed.locateList h.2.2.2 _⟩
      rw [isText_locate]
      cases xs with
      | nil => simp [Concrete.locateList]
      | cons y xs => simpa [Concrete.locateList, isText_locate] using h.2.2.1

end

/-! ## What is built is well formed -/

/-- Texts, and only texts, are built of texts. -/
theorem isText_of_build {x : Concrete α} {n : Node} (h : x.build = .ok n) :
    n.isText = x.isText := by
  cases x with
  | text w =>
    obtain rfl := Except.ok.inj h
    rfl
  | call w ps =>
    obtain ⟨f, ns, -, -, rfl⟩ := build_call_eq_ok_iff.mp h
    rfl
  | single w ps =>
    obtain ⟨t, ns, -, -, rfl⟩ := build_single_eq_ok_iff.mp h
    rfl
  | pair mark w ps inner close =>
    obtain ⟨t, ns, -, -, rfl⟩ := build_pair_eq_ok_iff.mp h
    rfl
  | branch c yes no =>
    obtain ⟨k, ys, ns, -, -, -, rfl⟩ := build_branch_eq_ok_iff.mp h
    rfl
  | object w =>
    obtain ⟨o, -, rfl⟩ := build_object_eq_ok_iff.mp h
    rfl
  | number w =>
    obtain ⟨i, rfl⟩ := build_number_eq_ok h
    rfl

/-- What is built of a piece of markup can stand where that can. -/
theorem holds_of_build {x : Concrete α} {n : Node} (h : x.build = .ok n) {q : Position}
    (hadmits : q.admits x = true) :
    q.holds (if q = .condition then x.asCondition n else n) = true := by
  cases x with
  | text w =>
    obtain rfl := Except.ok.inj h
    cases q <;> first | rfl | contradiction
  | call w ps =>
    obtain ⟨f, ns, -, -, rfl⟩ := build_call_eq_ok_iff.mp h
    cases q <;> rfl
  | single w ps =>
    obtain ⟨t, ns, -, -, rfl⟩ := build_single_eq_ok_iff.mp h
    cases q <;> rfl
  | pair mark w ps inner close =>
    obtain ⟨t, ns, -, -, rfl⟩ := build_pair_eq_ok_iff.mp h
    cases q <;> first | rfl | contradiction
  | branch c yes no =>
    obtain ⟨k, ys, ns, -, -, -, rfl⟩ := build_branch_eq_ok_iff.mp h
    cases q <;> first | rfl | contradiction
  | object w =>
    obtain ⟨o, -, rfl⟩ := build_object_eq_ok_iff.mp h
    cases q <;> first | rfl | contradiction
  | number w =>
    obtain ⟨i, rfl⟩ := build_number_eq_ok h
    cases q <;> first | rfl | contradiction

/-- A condition is well formed if the node is that it is understood as. -/
theorem wellFormed_asCondition (x : Concrete α) {n : Node} (h : n.WellFormed) :
    (x.asCondition n).WellFormed := by
  unfold asCondition
  split
  · exact h.1
  · exact h

mutual

/-- What is built of a well-formed part is well formed. -/
theorem WellFormed.build : ∀ {x : Concrete α}, x.WellFormed → ∀ {n : Node},
    x.build = .ok n → n.WellFormed
  | text w, h, n, hn => by
      obtain rfl := Except.ok.inj hn
      rw [Node.WellFormed, String.toList_ofList]
      exact h
  | call w ps, h, n, hn => by
      obtain ⟨f, ns, -, hns, rfl⟩ := build_call_eq_ok_iff.mp hn
      refine ⟨?_, AllWellFormed.buildList (by decide) h.2.2 hns⟩
      rintro rfl
      cases ps with
      | nil => exact h.2.1 rfl
      | cons p ps =>
        obtain ⟨_, _, -, -, hcons⟩ := buildList_cons_eq_ok_iff.mp hns
        contradiction
  | single w ps, h, n, hn => by
      obtain ⟨t, ns, -, hns, rfl⟩ := build_single_eq_ok_iff.mp hn
      exact ⟨AllWellFormed.buildList (by decide) h.2 hns, by simp⟩
  | pair mark w ps inner close, h, n, hn => by
      obtain ⟨t, ns, -, hns, rfl⟩ := build_pair_eq_ok_iff.mp hn
      refine ⟨AllWellFormed.buildList (by decide) h.2.1 hns, ?_⟩
      intro s hs
      obtain ⟨v, hv, rfl⟩ := Option.map_eq_some_iff.mp hs
      rw [String.toList_ofList]
      exact h.2.2.1 v hv
  | branch c yes no, h, n, hn => by
      obtain ⟨k, ys, ns, hk, hys, hns, rfl⟩ := build_branch_eq_ok_iff.mp hn
      exact ⟨⟨holds_of_build hk h.1.1, wellFormed_asCondition c (WellFormed.build h.1.2 hk)⟩,
        AllWellFormed.buildList (by decide) h.2.1 hys,
        AllWellFormed.buildList (by decide) h.2.2 hns⟩
  | object w, _, n, hn => by
      obtain ⟨o, -, rfl⟩ := build_object_eq_ok_iff.mp hn
      trivial
  | number w, h, n, hn => by
      obtain ⟨hne, hdigits⟩ := h
      obtain ⟨hlength, rfl⟩ := (build_number_eq_ok_iff hne hdigits).mp hn
      exact ⟨_, rfl, (Digits.length_toDigits_value_le hne hdigits).trans hlength⟩

/-- What is built of a well-formed sequence is well formed. -/
theorem AllWellFormed.buildList {q : Position} (hq : q ≠ .condition) :
    ∀ {xs : List (Concrete α)}, AllWellFormed q xs → ∀ {ns : List Node},
    Concrete.buildList xs = .ok ns → Node.AllWellFormed q ns
  | [], _, ns, hns => by
      obtain rfl := Except.ok.inj hns
      trivial
  | x :: xs, h, ns, hns => by
      obtain ⟨n, ns, hn, hrest, rfl⟩ := buildList_cons_eq_ok_iff.mp hns
      obtain ⟨hadmits, hx, htexts, hxs⟩ := h
      have hholds := holds_of_build hn hadmits
      rw [if_neg hq] at hholds
      refine ⟨hholds, WellFormed.build hx hn, ?_, AllWellFormed.buildList hq hxs hrest⟩
      rw [isText_of_build hn]
      cases xs with
      | nil =>
        obtain rfl := Except.ok.inj hrest
        simp
      | cons y xs =>
        obtain ⟨n', ns, hn', -, rfl⟩ := buildList_cons_eq_ok_iff.mp hrest
        simpa [isText_of_build hn'] using htexts

end

end Concrete

end LogMarkup
