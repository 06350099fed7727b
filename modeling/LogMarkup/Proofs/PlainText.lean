import LogMarkup.Proofs.Composition

/-!
# Plain text

Text is not quoted in markup, so that a message without any markup is written as it is
shown.  It may hold names of functions and words that look like objects, and any other
characters, as long as no tag and no call begins in it; then it is read as one text, however
long it is, and shown as it stands.  Nothing else is read as one text.

Main results:

- `Markup.nodes_eq_text_iff`: which markups are read as one text, and as which.
- `Markup.evaluate_plain`: plain text is shown as it stands.
- `Markup.nodes_text_iff_plain`: both of these.
-/

namespace LogMarkup

/-- A single text is built of a single text, with the same characters. -/
theorem Concrete.buildList_eq_text_iff {α : Type} {xs : List (Concrete α)} {t : String} :
    buildList xs = .ok [.text t] ↔ ∃ w, xs = [text w] ∧ String.ofList w.chars = t := by
  constructor
  · intro h
    have htexts : xs.map isText = [true] := (map_isText_of_buildList h).symm
    obtain ⟨x, rfl, hx⟩ := List.map_eq_singleton_iff.mp htexts
    obtain ⟨w, rfl⟩ := eq_text_of_isText hx
    simp only [buildList_cons_eq_ok_iff, build_text_eq, Except.ok.injEq] at h
    obtain ⟨_, _, rfl, -, heq⟩ := h
    obtain ⟨heq, -⟩ := List.cons.inj heq
    exact ⟨w, rfl, (Node.text.inj heq).symm⟩
  · rintro ⟨w, rfl, rfl⟩
    rfl

namespace Markup

/-- No tag and no call begins in it. -/
def IsPlain (s : String) : Prop :=
  '<' ∉ s.toList ∧
    ∀ head ∈ ["Equal(", "ObjectParameter(", "PlayerParameter("], ¬ head.toList <:+: s.toList

instance (s : String) : Decidable (IsPlain s) :=
  inferInstanceAs (Decidable ('<' ∉ s.toList ∧
    ∀ head ∈ ["Equal(", "ObjectParameter(", "PlayerParameter("], ¬ head.toList <:+: s.toList))

/-- The texts of messages are the plain ones, apart from the empty one. -/
theorem isText_iff_plain {s : String} : Terminal.IsText s.toList ↔ s ≠ "" ∧ IsPlain s := by
  have hheads : Terminal.callHeads =
      ["Equal(", "ObjectParameter(", "PlayerParameter("].map String.toList := by decide
  rw [Terminal.IsText, IsPlain, hheads, List.forall_mem_map, ne_eq, String.toList_eq_nil_iff]

/-- A markup is read as one text exactly if it is that text, and can be one. -/
theorem nodes_eq_text_iff {s t : String} :
    nodes s = .ok [.text t] ↔ t = s ∧ Terminal.IsText s.toList := by
  rw [nodes_eq_ok_iff_build]
  constructor
  · rintro ⟨m, hm, hs, hbuild⟩
    obtain ⟨w, rfl, rfl⟩ := Concrete.buildList_eq_text_iff.mp hbuild
    have hchars : w.chars = s.toList := by
      simpa [Concrete.listChars, Concrete.chars] using hs
    rw [hchars, String.ofList_toList]
    exact ⟨rfl, hchars ▸ hm.2.1⟩
  · rintro ⟨rfl, ht⟩
    refine ⟨[.text ⟨t.toList, ()⟩], ⟨rfl, ht, by simp, trivial⟩, ?_,
      Concrete.buildList_eq_text_iff.mpr ⟨_, rfl, String.ofList_toList⟩⟩
    simp [Concrete.listChars, Concrete.chars]

/-- Plain text is shown as it stands, whatever the answers. -/
theorem evaluate_plain {s : String} (h : IsPlain s) :
    ∃ r, reduce s = .ok r ∧ ∀ a, r.evaluate a = s := by
  by_cases hempty : s = ""
  · subst hempty
    refine ⟨[], ?_, fun _ => rfl⟩
    exact @reduce_of_listToMarkup_eq "" [] trivial rfl
  · refine ⟨_, reduce_of_isText (isText_iff_plain.mpr ⟨hempty, h⟩), ?_⟩
    exact Reduction.evaluate_unguarded (.static s)

/-- Plain text is passed through untouched, and only plain text is.  A markup is read as one
text exactly if it is plain and not empty, and then it is that text; and plain text, empty or
not, is shown as it stands, whatever the answers. -/
theorem nodes_text_iff_plain (s : String) :
    (∀ t, nodes s = .ok [.text t] ↔ t = s ∧ s ≠ "" ∧ IsPlain s) ∧
    (IsPlain s → ∃ r, reduce s = .ok r ∧ ∀ a, r.evaluate a = s) := by
  refine ⟨?_, evaluate_plain⟩
  intro t
  rw [nodes_eq_text_iff, isText_iff_plain]

/-- The theorem at a text in which calls seem to begin, and at a text in which one does. -/
theorem nodes_text_iff_plain_equality :
    nodes "Equality: ObjectParameter (2), EqualEqual\n(1)/>" =
      .ok [.text "Equality: ObjectParameter (2), EqualEqual\n(1)/>"] ∧
    (∃ r, reduce "Equality: ObjectParameter (2), EqualEqual\n(1)/>" = .ok r ∧
      ∀ a, r.evaluate a = "Equality: ObjectParameter (2), EqualEqual\n(1)/>") ∧
    ∀ t, nodes "EqualEqual(1)" ≠ .ok [.text t] := by
  have hplain : IsPlain "Equality: ObjectParameter (2), EqualEqual\n(1)/>" := by decide
  obtain ⟨hread, hshown⟩ :=
    nodes_text_iff_plain "Equality: ObjectParameter (2), EqualEqual\n(1)/>"
  refine ⟨(hread _).mpr ⟨rfl, by decide, hplain⟩, hshown hplain, ?_⟩
  intro t ht
  obtain ⟨-, -, hcall⟩ := ((nodes_text_iff_plain "EqualEqual(1)").1 t).mp ht
  exact absurd hcall (by decide)

end Markup

end LogMarkup
