import LogMarkup.Proofs.Reduction
import LogMarkup.Proofs.Seam

/-!
# Markup is compositional

Markup is not quoted, and it is reduced to a flat list of texts.  Still what it shows is
composed of what its pieces show.  Two markups that are written one after the other show
what each of them shows, one after the other, as long as no call stands across the seam.
Two markups as the sides of a branch show what the side shows that the condition leads
into.

Main results:

- `Node.reduceMessage_join`, `Node.reduceMessage_branch`: what composed messages show.
- `Markup.nodes_branch`: reading a branch between two markups.
- `Markup.nodes_compose`: both ways to compose markups.
-/

namespace LogMarkup

/-- A text without guards is always shown. -/
theorem Reduction.evaluate_unguarded (t : Text) (a : Answers) :
    evaluate [⟨[], t⟩] a = t.shown a := by
  simp [evaluate]

namespace Node

/-! ## Composed messages -/

/-- The reduction of a single text. -/
theorem reduceList_text (s : String) : reduceList [] [text s] = .ok [⟨[], .static s⟩] := rfl

/-- Two messages one after the other show what each of them shows. -/
theorem reduceMessage_join {ms ns : List Node} {r r' : Reduction}
    (hms : reduceMessage ms = .ok r) (hns : reduceMessage ns = .ok r') :
    ∃ joined, reduceMessage (join ms ns) = .ok joined ∧
      ∀ a, joined.evaluate a = r.evaluate a ++ r'.evaluate a := by
  unfold reduceMessage at *
  rcases exists_meet_or_not isText ms ns with ⟨ms, _, _, ns, rfl, rfl, hm, hn⟩ | hmeet
  · obtain ⟨s, rfl⟩ := eq_text_of_isText hm
    obtain ⟨t, rfl⟩ := eq_text_of_isText hn
    obtain ⟨xs, last, hxs, hlast, rfl⟩ := reduceList_both_eq_ok_iff.mp hms
    obtain ⟨first, ys, hfirst, hys, rfl⟩ := reduceList_cons_eq_ok_iff.mp hns
    obtain rfl := Except.ok.inj (hlast.symm.trans (reduceList_text s))
    obtain rfl := Except.ok.inj hfirst
    refine ⟨xs ++ ([⟨[], .static (s ++ t)⟩] ++ ys), ?_, ?_⟩
    · rw [join_text]
      refine reduceList_both_eq_ok_iff.mpr ⟨xs, _, hxs, ?_, rfl⟩
      exact reduceList_cons_eq_ok_iff.mpr ⟨_, ys, rfl, hys, rfl⟩
    · intro a
      simp only [Reduction.evaluate_append, Reduction.evaluate_unguarded, Text.shown,
        String.append_assoc]
  · rw [join_eq_append hmeet]
    refine ⟨r ++ r', reduceList_both_eq_ok_iff.mpr ⟨r, r', hms, hns, rfl⟩, ?_⟩
    exact Reduction.evaluate_append r r'

/-- A branch between two messages shows the one that its condition leads into. -/
theorem reduceMessage_branch {c : Node} {k : Condition} {ms ns : List Node}
    {r r' : Reduction} (hk : Condition.ofNode? c = some k)
    (hms : reduceMessage ms = .ok r) (hns : reduceMessage ns = .ok r') :
    ∃ branched, reduceMessage [branch c ms ns] = .ok branched ∧
      ∀ a, branched.evaluate a = if a.holds k then r.evaluate a else r'.evaluate a := by
  refine ⟨r.map (Item.under [⟨k, true⟩]) ++ r'.map (Item.under [⟨k, false⟩]), ?_, ?_⟩
  · refine reduceList_cons_eq_ok_iff.mpr ⟨_, [], ?_, rfl, (List.append_nil _).symm⟩
    exact reduce_branch_eq_ok_iff.mpr ⟨k, _, _, hk,
      reduceList_eq_ok_iff_exists.mpr ⟨r, hms, rfl⟩,
      reduceList_eq_ok_iff_exists.mpr ⟨r', hns, rfl⟩, rfl⟩
  · intro a
    rw [Reduction.evaluate, Reduction.kept_append]
    by_cases hholds : a.holds k = true
    · rw [if_pos hholds, Reduction.kept_map_under_of_holds (by simp [Guard.holds, hholds]),
        Reduction.kept_map_under_of_fails (by simp [Guard.holds, hholds]), List.append_nil]
      rfl
    · rw [if_neg hholds, Reduction.kept_map_under_of_fails (by simp [Guard.holds, hholds]),
        Reduction.kept_map_under_of_holds (by simp [Guard.holds, hholds]), List.nil_append]
      rfl

end Node

namespace Markup

/-! ## Composed markups -/

/-- A markup reduces to what its nodes reduce to. -/
theorem reduce_eq_ok_iff {markup : String} {r : Reduction} :
    reduce markup = .ok r ↔
      ∃ message, nodes markup = .ok message ∧ Node.reduceMessage message = .ok r := by
  rw [reduce_eq_bind, bind_eq_ok_iff]
  simp only [mapError_eq_ok_iff]

/-- A single part that is read from a markup is what the markup spells, and its node is
built of it. -/
theorem build_of_parse {c : String} {x : Part} {n : Node}
    (hparse : Concrete.parse c.toList = .ok [x]) (hnodes : nodes c = .ok [n]) :
    x.WellFormed ∧ x.chars = c.toList ∧ x.build = .ok n := by
  obtain ⟨hx, hchars⟩ := Concrete.parse_eq_ok_iff.mp hparse
  obtain ⟨m, hm, hm', hbuild⟩ := nodes_eq_ok_iff_build.mp hnodes
  obtain rfl := Concrete.eq_of_listChars_eq hm hx (hm'.trans hchars.symm)
  obtain ⟨n', _, hn, -, hcons⟩ := Concrete.buildList_cons_eq_ok_iff.mp hbuild
  obtain ⟨rfl, -⟩ := List.cons.inj hcons
  refine ⟨hx.2.1, ?_, hn⟩
  rw [← hchars, Concrete.listChars, Concrete.listChars, List.append_nil]

/-- Two markups as the sides of a branch are read as its sides. -/
theorem nodes_branch {c s t : String} {x : Part} {n : Node} {ms ns : List Node}
    (hparse : Concrete.parse c.toList = .ok [x])
    (hadmits : Position.condition.admits x = true) (hc : nodes c = .ok [n])
    (hs : nodes s = .ok ms) (ht : nodes t = .ok ns) :
    nodes ("<If(" ++ c ++ ")>" ++ s ++ "<Else/>" ++ t ++ "</If>") =
      .ok [.branch (x.asCondition n) ms ns] := by
  obtain ⟨hx, hxc, hn⟩ := build_of_parse hparse hc
  obtain ⟨xs, hxs, hsx, hms⟩ := nodes_eq_ok_iff_build.mp hs
  obtain ⟨ys, hys, hty, hns⟩ := nodes_eq_ok_iff_build.mp ht
  refine nodes_eq_ok_iff_build.mpr ⟨[.branch x xs ys], ?_, ?_, ?_⟩
  · exact ⟨rfl, ⟨⟨hadmits, hx⟩, hxs, hys⟩, by simp, trivial⟩
  · simp [Concrete.listChars, Concrete.chars, hxc, hsx, hty]
  · refine Concrete.buildList_cons_eq_ok_iff.mpr ⟨_, [], ?_, rfl, rfl⟩
    exact Concrete.build_branch_eq_ok_iff.mpr ⟨n, ms, ns, hn, hms, hns, rfl⟩

/-- Markup is compositional.  Two markups one after the other, with no call across the
seam, are read one after the other, where texts that meet become one, and show what each
of them shows.  Two markups as the sides of a branch, whose condition is a single call or
a single tag without closing tag, are read as its sides, and what is shown is what the
side shows that the condition leads into. -/
theorem nodes_compose {s t : String} {ms ns : List Node} (hs : nodes s = .ok ms)
    (ht : nodes t = .ok ns) :
    (¬ Terminal.CallAcross s.toList t.toList →
      nodes (s ++ t) = .ok (Node.join ms ns) ∧
      ∀ r r', reduce s = .ok r → reduce t = .ok r' → ∃ joined,
        reduce (s ++ t) = .ok joined ∧
        ∀ a, joined.evaluate a = r.evaluate a ++ r'.evaluate a) ∧
    ∀ c x n, Concrete.parse c.toList = .ok [x] → Position.condition.admits x = true →
      nodes c = .ok [n] →
      nodes ("<If(" ++ c ++ ")>" ++ s ++ "<Else/>" ++ t ++ "</If>") =
        .ok [.branch (x.asCondition n) ms ns] ∧
      ∀ k r r', Condition.ofNode? (x.asCondition n) = some k →
        reduce s = .ok r → reduce t = .ok r' → ∃ branched,
          reduce ("<If(" ++ c ++ ")>" ++ s ++ "<Else/>" ++ t ++ "</If>") = .ok branched ∧
          ∀ a, branched.evaluate a = if a.holds k then r.evaluate a else r'.evaluate a := by
  have hreduce : ∀ {markup message r}, nodes markup = .ok message → reduce markup = .ok r →
      Node.reduceMessage message = .ok r := by
    intro markup message r hnodes hr
    obtain ⟨m, hm, hr⟩ := reduce_eq_ok_iff.mp hr
    obtain rfl := Except.ok.inj (hm.symm.trans hnodes)
    exact hr
  constructor
  · intro hseam
    have hnodes := nodes_append hs ht hseam
    refine ⟨hnodes, ?_⟩
    intro r r' hr hr'
    obtain ⟨joined, hjoined, hevaluate⟩ :=
      Node.reduceMessage_join (hreduce hs hr) (hreduce ht hr')
    exact ⟨joined, reduce_eq_ok_iff.mpr ⟨_, hnodes, hjoined⟩, hevaluate⟩
  · intro c x n hparse hadmits hc
    have hnodes := nodes_branch hparse hadmits hc hs ht
    refine ⟨hnodes, ?_⟩
    intro k r r' hk hr hr'
    obtain ⟨branched, hbranched, hevaluate⟩ :=
      Node.reduceMessage_branch hk (hreduce hs hr) (hreduce ht hr')
    exact ⟨branched, reduce_eq_ok_iff.mpr ⟨_, hnodes, hbranched⟩, hevaluate⟩

/-- The theorem at two markups that meet in one word, the first half of which is the name
of a function. -/
theorem nodes_compose_equally :
    nodes ("<Clickable(Equal(1))/>Equal" ++ "ly so.") =
      .ok [.element .clickable [.call .equal [.number 1]] none, .text "Equally so."] ∧
    (∃ joined, reduce ("ObjectParameter(2) is Equal" ++ "ly so.") = .ok joined ∧
      ∀ a, joined.evaluate a = a.name .npcOrigin ++ " is Equal" ++ "ly so.") ∧
    ∃ branched, reduce ("<If(" ++ "PlayerParameter(7)" ++ ")>" ++
        "ObjectParameter(2) is Equal" ++ "<Else/>" ++ "ly so." ++ "</If>") = .ok branched ∧
      ∀ a, branched.evaluate a =
        if a.holds .originPlayer then a.name .npcOrigin ++ " is Equal" else "ly so." := by
  have hclick : nodes "<Clickable(Equal(1))/>Equal" =
      .ok [.element .clickable [.call .equal [.number 1]] none, .text "Equal"] :=
    nodes_of_listToMarkup_eq (by decide) rfl
  have hname : nodes "ObjectParameter(2) is Equal" =
      .ok [.participant 2, .text " is Equal"] :=
    nodes_of_listToMarkup_eq (by decide) rfl
  have hso : nodes "ly so." = .ok [.text "ly so."] :=
    nodes_of_listToMarkup_eq (by decide) rfl
  have hcondition : nodes "PlayerParameter(7)" = .ok [.fact 7] :=
    nodes_of_listToMarkup_eq (by decide) rfl
  have hparse : Concrete.parse "PlayerParameter(7)".toList =
      .ok [(Node.fact 7).toConcrete] := by
    have hfact : Node.AllWellFormed .part [.fact 7] := by decide
    exact Concrete.parse_eq_ok_iff.mpr ⟨hfact.toConcreteList, rfl⟩
  have hreduce : reduce "ObjectParameter(2) is Equal" =
      .ok [⟨[], .slot .npcOrigin⟩, ⟨[], .static " is Equal"⟩] :=
    reduce_eq_ok_iff.mpr ⟨_, hname, rfl⟩
  have hreduce' : reduce "ly so." = .ok [⟨[], .static "ly so."⟩] :=
    reduce_eq_ok_iff.mpr ⟨_, hso, rfl⟩
  have hshown : ∀ a, Reduction.evaluate [⟨[], .slot .npcOrigin⟩, ⟨[], .static " is Equal"⟩] a =
      a.name .npcOrigin ++ " is Equal" := by
    intro a
    have happend := Reduction.evaluate_append [⟨[], .slot .npcOrigin⟩]
      [⟨[], .static " is Equal"⟩] a
    rw [Reduction.evaluate_unguarded, Reduction.evaluate_unguarded] at happend
    exact happend
  obtain ⟨hjoin, hbranch⟩ := nodes_compose hname hso
  obtain ⟨-, hjoined⟩ := hjoin (by decide)
  obtain ⟨-, hbranched⟩ := hbranch _ _ _ hparse rfl hcondition
  refine ⟨((nodes_compose hclick hso).1 (by decide)).1, ?_, ?_⟩
  · obtain ⟨joined, hr, hevaluate⟩ := hjoined _ _ hreduce hreduce'
    exact ⟨joined, hr, fun a => by rw [hevaluate, hshown, Reduction.evaluate_unguarded]; rfl⟩
  · obtain ⟨branched, hr, hevaluate⟩ :=
      hbranched .originPlayer _ _ (by decide) hreduce hreduce'
    exact ⟨branched, hr, fun a => by rw [hevaluate, hshown, Reduction.evaluate_unguarded]; rfl⟩

end Markup

end LogMarkup
