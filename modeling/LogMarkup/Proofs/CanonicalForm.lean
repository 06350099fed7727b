import LogMarkup.Proofs.Seam
import LogMarkup.Proofs.TreeFault

/-!
# The canonical form of markup

The same message can be written in several ways: zeros may stand in front of a number, and a
pair of tags without text between them means what a tag without closing tag means.  Nothing
else is lost between markup and message.  So rendering a message that was read gives the
markup with these two abbreviations made at every depth, and with everything else in place.

Main results:

- `Digits.toDigits_value`: the decimal digits of a value are the digits without redundant
  zeros.
- `Concrete.toConcrete_of_build`: what is built spells the canonical form.
- `Markup.listToMarkup_of_nodes`: rendering what was read gives the canonical form.
-/

namespace LogMarkup

/-! ## Redundant zeros -/

namespace Digits

/-- The digits without the zeros in front, up to the last digit. -/
def trimmed : List Char → List Char
  | '0' :: d :: ds => trimmed (d :: ds)
  | ds => ds

/-- A zero stands in front of other digits. -/
def HasRedundantZero (ds : List Char) : Prop := ∃ d rest, ds = '0' :: d :: rest

theorem length_trimmed_le (ds : List Char) : (trimmed ds).length ≤ ds.length := by
  fun_induction trimmed ds with
  | case1 d ds ih => exact ih.trans (Nat.le_succ _)
  | case2 ds => exact le_refl _

/-- Nothing is trimmed exactly where no zero is redundant. -/
theorem trimmed_eq_self_iff {ds : List Char} : trimmed ds = ds ↔ ¬ HasRedundantZero ds := by
  constructor
  · rintro h ⟨d, rest, rfl⟩
    have hlength := length_trimmed_le (d :: rest)
    rw [trimmed] at h
    rw [h, List.length_cons] at hlength
    exact absurd hlength (Nat.not_succ_le_self _)
  · intro h
    unfold trimmed
    split
    next d rest => exact absurd ⟨d, rest, rfl⟩ h
    next => rfl

/-- A digit is written with itself. -/
theorem toDigits_digit {d : Char} (h : d.isDigit = true) :
    Nat.toDigits 10 (d.toNat - '0'.toNat) = [d] := by
  have hall : ∀ n < 58, 48 ≤ n →
      Nat.toDigits 10 ((Char.ofNat n).toNat - '0'.toNat) = [Char.ofNat n] := by decide
  obtain ⟨hlower, hupper⟩ := Char.isDigit_iff_toNat.mp h
  have hdigit := hall d.toNat (Nat.lt_succ_of_le hupper) hlower
  rwa [Char.ofNat_toNat] at hdigit

/-- Digits behind a number that is not zero stay as they are. -/
theorem toDigits_ofDigitChars {ds : List Char} (h : ∀ d ∈ ds, d.isDigit = true) {n : Nat}
    (hn : 0 < n) : Nat.toDigits 10 (Nat.ofDigitChars 10 ds n) = Nat.toDigits 10 n ++ ds := by
  induction ds generalizing n with
  | nil => simp
  | cons d ds ih =>
    have hd := h d List.mem_cons_self
    have hlt : d.toNat - '0'.toNat < 10 := by
      have hupper := (Char.isDigit_iff_toNat.mp hd).2
      have hnine : '9'.toNat = 57 := rfl
      have hzero : '0'.toNat = 48 := rfl
      omega
    have htail := fun e he => h e (List.mem_cons_of_mem d he)
    rw [Nat.ofDigitChars_cons, ih htail (by omega),
      ← Nat.toDigits_append_toDigits (by decide) hn hlt, toDigits_digit hd]
    simp

/-- The decimal digits of the number that digits denote are these digits without redundant
zeros. -/
theorem toDigits_value {ds : List Char} (hne : ds ≠ []) (h : ∀ d ∈ ds, d.isDigit = true) :
    Nat.toDigits 10 (value ds) = trimmed ds := by
  fun_induction trimmed ds with
  | case1 d ds ih => exact ih (by simp) fun e he => h e (List.mem_cons_of_mem _ he)
  | case2 ds hcanonical =>
    cases ds with
    | nil => contradiction
    | cons d ds =>
      have hd := h d List.mem_cons_self
      have hvalue : value (d :: ds) = Nat.ofDigitChars 10 ds (d.toNat - '0'.toNat) := by
        rw [value, Nat.ofDigitChars_cons]
        simp
      by_cases hzero : d = '0'
      · -- The zero is the only digit.
        subst hzero
        cases ds with
        | nil => decide
        | cons e ds => exact absurd rfl (hcanonical e ds)
      · have hpos : 0 < d.toNat - '0'.toNat := by
          have hlower := (Char.isDigit_iff_toNat.mp hd).1
          have hother : d.toNat ≠ '0'.toNat := fun heq => hzero (Char.toNat_inj.mp heq)
          omega
        rw [hvalue, toDigits_ofDigitChars (fun e he => h e (List.mem_cons_of_mem _ he)) hpos,
          toDigits_digit hd]
        rfl

end Digits

/-! ## The canonical form -/

/-- This place of a derivation tree is written in more characters than needed. -/
inductive Tree.Redundant {α : Type} : Tree α → Prop
  /-- A number has a redundant zero. -/
  | number {w : Token α} (h : Digits.HasRedundantZero w.chars) : Redundant (leaf .number w)
  /-- There is nothing between the tags of a pair. -/
  | pair {opened closed : Tree α} : Redundant (node .pairedTag [opened, closed])

namespace Tree

variable {α : Type}

@[simp] theorem redundant_leaf_iff {kind : Terminal} {w : Token α} :
    (leaf kind w).Redundant ↔ kind = .number ∧ Digits.HasRedundantZero w.chars := by
  constructor
  · rintro ⟨h⟩
    exact ⟨rfl, h⟩
  · rintro ⟨rfl, h⟩
    exact .number h

@[simp] theorem redundant_node_iff {r : Rule} {ts : List (Tree α)} :
    (node r ts).Redundant ↔ r = .pairedTag ∧ ts.length = 2 := by
  constructor
  · rintro ⟨⟩
    exact ⟨rfl, rfl⟩
  · rintro ⟨rfl, h⟩
    obtain ⟨opened, closed, rfl⟩ := List.length_eq_two.mp h
    exact .pair

/-- An element is not redundant beyond what it consists of. -/
theorem forall_mem_postOrder_content (t : Tree α) :
    (∀ v ∈ t.content.postOrder, ¬ v.Redundant) ↔ ∀ v ∈ t.postOrder, ¬ v.Redundant := by
  unfold content
  split
  · simp [postOrder, postOrderList, or_imp, forall_and]
  · rfl

end Tree

namespace Concrete

variable {α : Type}

mutual

/-- The part with numbers without redundant zeros, and with a single tag for each pair of
tags without text between them. -/
def canonical : Concrete α → Concrete α
  | text w => text w
  | call n ps => call n (canonicalList ps)
  | single n ps => single n (canonicalList ps)
  | pair _ n ps none _ => single n (canonicalList ps)
  | pair mark n ps (some w) close => pair mark n (canonicalList ps) (some w) close
  | branch c yes no => branch c.canonical (canonicalList yes) (canonicalList no)
  | object n => object n
  | number d => number ⟨Digits.trimmed d.chars, d.mark⟩

/-- The canonical forms of a sequence of parts or parameters. -/
def canonicalList : List (Concrete α) → List (Concrete α)
  | [] => []
  | x :: xs => x.canonical :: canonicalList xs

end

mutual

/-- A part is its canonical form exactly if no place of its tree is redundant. -/
theorem canonical_eq_self_iff : ∀ x : Concrete α,
    x.canonical = x ↔ ∀ v ∈ x.tree.postOrder, ¬ v.Redundant
  | text w | object w => by
      simp [canonical, tree, Tree.postOrder, Tree.postOrderList]
  | call n ps | single n ps => by
      simp [canonical, tree, Tree.postOrder, Tree.postOrderList, or_imp, forall_and,
        canonicalList_eq_self_iff ps]
  | pair mark n ps none close => by
      constructor
      · intro h
        rw [canonical] at h
        contradiction
      · intro h
        refine absurd .pair (h (.node .pairedTag [.node .openTag (.leaf .tagName n :: trees ps),
          .node .closeTag [.leaf .tagName close]]) ?_)
        simp [tree, innerTrees, Tree.postOrder, Tree.postOrderList]
  | pair mark n ps (some w) close => by
      simp [canonical, tree, innerTrees, Tree.postOrder, Tree.postOrderList, or_imp, forall_and,
        canonicalList_eq_self_iff ps]
  | branch c yes no => by
      simp [canonical, tree, Tree.postOrder, Tree.postOrderList, or_imp, forall_and,
        Tree.forall_mem_postOrder_content, canonical_eq_self_iff c,
        canonicalList_eq_self_iff yes, canonicalList_eq_self_iff no]
  | number ⟨ds, mark⟩ => by
      simp [canonical, tree, Tree.postOrder, Tree.postOrderList, Digits.trimmed_eq_self_iff]

/-- The same for a sequence. -/
theorem canonicalList_eq_self_iff : ∀ xs : List (Concrete α),
    canonicalList xs = xs ↔ ∀ v ∈ Tree.postOrderList (trees xs), ¬ v.Redundant
  | [] => by simp [canonicalList, trees, Tree.postOrderList]
  | x :: xs => by
      simp [canonicalList, trees, Tree.postOrderList, or_imp, forall_and,
        canonical_eq_self_iff x, canonicalList_eq_self_iff xs]

end

/-- What a condition is understood as spells the same. -/
theorem toConcrete_asCondition {c : Concrete α} {k : Node} (h : c.build = .ok k) :
    (c.asCondition k).toConcrete = k.toConcrete := by
  cases c with
  | single w ps =>
    obtain ⟨t, ns, -, -, rfl⟩ := build_single_eq_ok_iff.mp h
    rfl
  | _ => rfl

/-- A word without a mark is known by its characters. -/
theorem eq_bare {w : Token Unit} {cs : List Char} (h : w.chars = cs) : w = .bare cs := by
  rw [← h]
  rfl

mutual

/-- What is built of a well-formed part spells its canonical form. -/
theorem toConcrete_of_build : ∀ {x : Part}, x.WellFormed → ∀ {n : Node}, x.build = .ok n →
    n.toConcrete = x.canonical
  | text w, _, n, hn => by
      obtain rfl := Except.ok.inj hn
      rw [Node.toConcrete, String.toList_ofList]
      rfl
  | call w ps, h, n, hn => by
      obtain ⟨f, ns, hname, hns, rfl⟩ := build_call_eq_ok_iff.mp hn
      rw [Node.toConcrete, canonical, toConcreteList_of_buildList h.2.2 hns, eq_bare hname]
      rfl
  | single w ps, h, n, hn => by
      obtain ⟨t, ns, hname, hns, rfl⟩ := build_single_eq_ok_iff.mp hn
      rw [Node.toConcrete, canonical, toConcreteList_of_buildList h.2 hns, eq_bare hname]
      rfl
  | pair mark w ps none close, h, n, hn => by
      obtain ⟨t, ns, ⟨hname, -⟩, hns, rfl⟩ := build_pair_eq_ok_iff.mp hn
      rw [Option.map_none, Node.toConcrete, canonical, toConcreteList_of_buildList h.2.1 hns,
        eq_bare hname]
      rfl
  | pair mark w ps (some v) close, h, n, hn => by
      obtain ⟨t, ns, ⟨hname, hclose⟩, hns, rfl⟩ := build_pair_eq_ok_iff.mp hn
      rw [Option.map_some, Node.toConcrete, canonical, toConcreteList_of_buildList h.2.1 hns,
        eq_bare hname, eq_bare hclose, String.toList_ofList]
      rfl
  | branch c yes no, h, n, hn => by
      obtain ⟨k, ys, ns, hk, hys, hns, rfl⟩ := build_branch_eq_ok_iff.mp hn
      rw [Node.toConcrete, canonical, toConcrete_asCondition hk, toConcrete_of_build h.1.2 hk,
        toConcreteList_of_buildList h.2.1 hys, toConcreteList_of_buildList h.2.2 hns]
  | object w, _, n, hn => by
      obtain ⟨o, hname, rfl⟩ := build_object_eq_ok_iff.mp hn
      rw [Node.toConcrete, canonical, eq_bare hname]
      rfl
  | number w, h, n, hn => by
      obtain ⟨hne, hdigits⟩ := h
      obtain ⟨-, rfl⟩ := (build_number_eq_ok_iff hne hdigits).mp hn
      have hvalue : Node.numeral (Int.ofNat (Digits.value w.chars)) = Digits.trimmed w.chars :=
        Digits.toDigits_value hne hdigits
      rw [Node.toConcrete, canonical, hvalue]

/-- The same for a sequence. -/
theorem toConcreteList_of_buildList {p : Position} : ∀ {xs : List Part}, AllWellFormed p xs →
    ∀ {ns : List Node}, buildList xs = .ok ns → Node.toConcreteList ns = canonicalList xs
  | [], _, ns, hns => by
      obtain rfl := Except.ok.inj hns
      rfl
  | x :: xs, h, ns, hns => by
      obtain ⟨n, ns, hn, hrest, rfl⟩ := buildList_cons_eq_ok_iff.mp hns
      rw [Node.toConcreteList, canonicalList, toConcrete_of_build h.2.1 hn,
        toConcreteList_of_buildList h.2.2.2 hrest]

end

end Concrete

/-! ## Rendering what was read -/

namespace Markup

open Concrete (listChars canonicalList messageTree)
open Node (listToMarkup)

/-- Rendering what was read gives the canonical form: of the one well-formed message that is
spelled like the markup, redundant zeros are left out and pairs of tags without text between
them become single tags, and nothing else changes.  So the rendering is the markup exactly
if its tree has neither. -/
theorem listToMarkup_of_nodes {markup : String} {message : List Node}
    (h : nodes markup = .ok message) :
    ∃ m : List Part, (Concrete.AllWellFormed .part m ∧ listChars m = markup.toList) ∧
      (∀ m' : List Part, Concrete.AllWellFormed .part m' ∧ listChars m' = markup.toList →
        m' = m) ∧
      (listToMarkup message).toList = listChars (canonicalList m) ∧
      (listToMarkup message = markup ↔
        ∀ v ∈ (messageTree m).postOrder, ¬ v.Redundant) := by
  obtain ⟨m, hm, hspelled, hbuild⟩ := nodes_eq_ok_iff_build.mp h
  have hcanonical := Concrete.toConcreteList_of_buildList hm hbuild
  have hrendered : (listToMarkup message).toList = listChars (canonicalList m) := by
    rw [← hcanonical, Node.listChars_toConcreteList, listToMarkup, String.toList_ofList]
  refine ⟨m, ⟨hm, hspelled⟩, ?_, hrendered, ?_⟩
  · rintro m' ⟨hm', hspelled'⟩
    exact Concrete.eq_of_listChars_eq hm' hm (hspelled'.trans hspelled.symm)
  · have hplaces : (∀ v ∈ (messageTree m).postOrder, ¬ v.Redundant) ↔ canonicalList m = m := by
      rw [Concrete.canonicalList_eq_self_iff]
      simp [messageTree, Tree.postOrder, or_imp, forall_and]
    rw [hplaces, String.ext_iff, hrendered, ← hspelled]
    constructor
    · intro hsame
      have hwellFormed : Concrete.AllWellFormed .part (canonicalList m) := by
        rw [← hcanonical]
        exact (wellFormed_of_nodes h).toConcreteList
      exact Concrete.eq_of_listChars_eq hwellFormed hm hsame
    · intro hsame
      rw [hsame]

/-- The theorem at a pair of tags without text between them that has a number with zeros in
front. -/
theorem listToMarkup_of_nodes_sheet :
    nodes "<Sheet(ObjStr,0020)></Sheet>" =
        .ok [.element .sheet [.object .objStr, .number 20] none] ∧
      ∃ m : List Part, listChars m = "<Sheet(ObjStr,0020)></Sheet>".toList ∧
        listChars (canonicalList m) = "<Sheet(ObjStr,20)/>".toList ∧
        ∃ v ∈ (messageTree m).postOrder, v.Redundant := by
  have hm : Concrete.AllWellFormed .part [(.pair () (.bare "Sheet".toList)
      [.object (.bare "ObjStr".toList), .number (.bare "0020".toList)] none
      (.bare "Sheet".toList) : Part)] := by
    have hnumber : Terminal.number.Admits "0020".toList := ⟨by decide, List.all_eq_true.mp rfl⟩
    exact ⟨rfl, ⟨Node.admits_tagName .sheet, ⟨rfl, Node.admits_objectName .objStr, by decide,
      rfl, hnumber, by decide, trivial⟩, nofun, Node.admits_tagName .sheet⟩, by decide, trivial⟩
  have hread : nodes "<Sheet(ObjStr,0020)></Sheet>" =
      .ok [.element .sheet [.object .objStr, .number 20] none] :=
    nodes_eq_ok_iff_build.mpr ⟨_, hm, rfl, rfl⟩
  obtain ⟨m, hspelled, -, hrendered, hsame⟩ := listToMarkup_of_nodes hread
  refine ⟨hread, m, hspelled.2, ?_, ?_⟩
  · rw [← hrendered]
    rfl
  · by_contra hnone
    have hkept := hsame.mpr fun v hv hredundant => hnone ⟨v, hv, hredundant⟩
    exact absurd hkept (by decide)

end Markup

end LogMarkup
