import LogMarkup.Terminal
import Mathlib.Data.List.Infix

/-!
# Longest matches

A terminal is matched by the longest text it can take.  This module says what that
means without a scan: which words are of a terminal's class, and before which rests a
word of the class cannot be continued.  Both together are the match.  The one class that
looks ahead is literal text.  It stops before the beginning of a call, and no beginning
of a call can lie across the end of a text, because no proper ending of one begins
another.

Main results:

- `Terminal.match?_eq_some_iff`: the longest match is a word of the class that cannot be
  continued.
- `Terminal.splitText_eq_iff`: the same for literal text, with nothing required of it.
- `Terminal.startsCall_append_iff`: no call begins in a text and ends behind it.
-/

namespace LogMarkup

namespace Terminal

/-! ## Classes of words -/

/-- A text of a message: something, without a `<` and without the beginning of a call. -/
def IsText (w : List Char) : Prop := w ≠ [] ∧ '<' ∉ w ∧ ∀ h ∈ callHeads, ¬ h <:+: w

instance (w : List Char) : Decidable (IsText w) :=
  inferInstanceAs (Decidable (w ≠ [] ∧ '<' ∉ w ∧ ∀ h ∈ callHeads, ¬ h <:+: w))

/-- A capitalized word. -/
def IsCapitalized (w : List Char) : Prop :=
  (∃ c ∈ w.head?, c.isUpper = true) ∧ ∀ c ∈ w, c.isAlpha = true

/-- A sequence of digits. -/
def IsNumeral (w : List Char) : Prop := w ≠ [] ∧ ∀ c ∈ w, c.isDigit = true

/-- Is the word of the terminal's class? -/
def Admits : Terminal → List Char → Prop
  | text, w => IsText w
  | number, w => IsNumeral w
  | objectName, w => IsCapitalized w
  | tagName, w => IsCapitalized w ∧ w ∉ keywords
  | functionName, w => ∃ f : FunctionName, w = f.chars
  | t, w => t.literal? = some w

/-- Can no word of the terminal's class be continued into this rest? -/
def Ends : Terminal → List Char → Prop
  | text, r => ∀ c ∈ r.head?, c = '<' ∨ startsCall r = true
  | number, r => ∀ c ∈ r.head?, c.isDigit = false
  | objectName, r | tagName, r => ∀ c ∈ r.head?, c.isAlpha = false
  | _, _ => True

/-- Beginnings of calls are a function's name and a parenthesis. -/
example : callHeads = ["Equal(".toList, "ObjectParameter(".toList, "PlayerParameter(".toList] := by
  decide

/-! ## Runs of characters -/

/-- The longest run of a class of characters is a run that the rest does not continue. -/
theorem span_eq_iff {p : Char → Bool} {s w r : List Char} :
    (s.takeWhile p, s.dropWhile p) = (w, r) ↔
      (∀ c ∈ w, p c = true) ∧ (∀ c ∈ r.head?, p c = false) ∧ s = w ++ r := by
  simp only [Prod.mk.injEq]
  constructor
  · rintro ⟨rfl, rfl⟩
    refine ⟨fun c hc => List.all_eq_true.mp List.all_takeWhile c hc, ?_,
      List.takeWhile_append_dropWhile.symm⟩
    intro c hc
    have hhead := List.head?_dropWhile_not p s
    rw [Option.mem_def.mp hc] at hhead
    simpa using hhead
  · rintro ⟨hw, hr, rfl⟩
    have hdrop : r.dropWhile p = r := by
      cases r with
      | nil => rfl
      | cons c r => simp [hr c (by simp)]
    have htake : r.takeWhile p = [] := by
      cases r with
      | nil => rfl
      | cons c r => simp [hr c (by simp)]
    rw [List.takeWhile_append_of_pos hw, List.dropWhile_append_of_pos hw, hdrop, htake]
    simp

/-- The longest capitalized word, if there is one. -/
theorem splitWord_eq_iff {s w r : List Char} (hne : w ≠ []) :
    splitWord s = (w, r) ↔
      IsCapitalized w ∧ (∀ c ∈ r.head?, c.isAlpha = false) ∧ s = w ++ r := by
  cases s with
  | nil =>
    constructor
    · intro h
      exact absurd (Prod.mk.inj h).1.symm hne
    · rintro ⟨_, _, hs⟩
      exact absurd (List.append_eq_nil_iff.mp hs.symm).1 hne
  | cons c s =>
    rw [splitWord]
    split
    next hupper =>
      rw [span_eq_iff]
      constructor
      · rintro ⟨hw, hr, hs⟩
        refine ⟨⟨⟨c, ?_, hupper⟩, hw⟩, hr, hs⟩
        cases w with
        | nil => contradiction
        | cons d w => simp_all
      · rintro ⟨hw, hr, hs⟩
        exact ⟨hw.2, hr, hs⟩
    next hupper =>
      constructor
      · intro h
        simp only [Prod.mk.injEq] at h
        exact absurd h.1.symm hne
      · rintro ⟨⟨⟨d, hd, hdupper⟩, _⟩, _, hs⟩
        cases w with
        | nil => contradiction
        | cons e w => simp_all

/-! ## Literal text -/

/-- A proper ending of the beginning of a call and the beginning of a call differ
before one of them ends. -/
theorem not_prefix_of_mem_tails_tail : ∀ h ∈ callHeads, ∀ u ∈ h.tail.tails, u ≠ [] →
    ∀ h' ∈ callHeads, ¬ u <+: h' ∧ ¬ h' <+: u := by
  decide

/-- Calls do not begin with `<`, nor does it occur in the beginning of a call. -/
theorem lt_notMem_of_mem_callHeads : ∀ h ∈ callHeads, '<' ∉ h := by
  decide

theorem startsCall_iff {s : List Char} : startsCall s = true ↔ ∃ h ∈ callHeads, h <+: s := by
  simp [startsCall, List.any_eq_true]

/-- The beginning of a call that stands at the end of a text and behind it stands in the
text, if text cannot be continued there. -/
theorem prefix_of_prefix_append {h v r : List Char} (hh : h ∈ callHeads) (hv : v ≠ [])
    (hr : Ends text r) (hbegins : h <+: v ++ r) : h <+: v := by
  have hcompare : v <+: v ++ r := List.prefix_append v r
  rcases Nat.le_total h.length v.length with hle | hle
  · exact List.prefix_of_prefix_length_le hbegins hcompare hle
  · obtain ⟨u, rfl⟩ := List.prefix_of_prefix_length_le hcompare hbegins hle
    have hu : u <+: r := (List.prefix_append_right_inj v).mp hbegins
    rcases eq_or_ne u [] with rfl | hune
    · simp
    -- The beginning of the call ends behind the text, so the rest begins with `u`.
    have htail : u ∈ (v ++ u).tail.tails := by
      obtain ⟨c, v, rfl⟩ := List.exists_cons_of_ne_nil hv
      simp
    obtain ⟨c, u, rfl⟩ := List.exists_cons_of_ne_nil hune
    obtain ⟨r, rfl⟩ := hu
    exfalso
    rcases hr c (by simp) with rfl | hstarts
    · exact lt_notMem_of_mem_callHeads _ hh (by simp)
    · obtain ⟨h', hh', hbegins'⟩ := startsCall_iff.mp hstarts
      have hdiffer := not_prefix_of_mem_tails_tail _ hh _ htail (by simp) h' hh'
      rcases List.prefix_or_prefix_of_prefix hbegins' (List.prefix_append (c :: u) r) with
        hle | hle
      · exact hdiffer.2 hle
      · exact hdiffer.1 hle

/-- No call begins in a text and ends behind it, if text cannot be continued there. -/
theorem startsCall_append_iff {v r : List Char} (hv : v ≠ []) (hr : Ends text r) :
    startsCall (v ++ r) = true ↔ ∃ h ∈ callHeads, h <+: v := by
  rw [startsCall_iff]
  constructor
  · rintro ⟨h, hh, hbegins⟩
    exact ⟨h, hh, prefix_of_prefix_append hh hv hr hbegins⟩
  · rintro ⟨h, hh, hbegins⟩
    exact ⟨h, hh, hbegins.trans (List.prefix_append v r)⟩

/-- The longest literal text holds no `<` and no beginning of a call, and stops before
one of the two or at the end. -/
theorem splitText_eq_iff {s w r : List Char} :
    splitText s = (w, r) ↔
      ('<' ∉ w ∧ ∀ h ∈ callHeads, ¬ h <:+: w) ∧ Ends text r ∧ s = w ++ r := by
  induction s generalizing w with
  | nil =>
    constructor
    · rintro ⟨rfl⟩
      refine ⟨⟨by simp, ?_⟩, by simp [Ends], rfl⟩
      decide
    · rintro ⟨_, _, hs⟩
      obtain ⟨rfl, rfl⟩ := List.append_eq_nil_iff.mp hs.symm
      rfl
  | cons c s ih =>
    rw [splitText]
    split
    next hstop =>
      constructor
      · rintro ⟨rfl⟩
        refine ⟨⟨by simp, by decide⟩, ?_, rfl⟩
        intro d hd
        obtain rfl : c = d := by simpa using hd
        exact hstop
      · rintro ⟨⟨hlt, hheads⟩, hr, hs⟩
        cases w with
        | nil => rw [hs, List.nil_append]
        | cons d w =>
          rw [List.cons_append] at hs
          obtain ⟨rfl, rfl⟩ := List.cons.inj hs
          exfalso
          rcases hstop with rfl | hstarts
          · exact hlt (by simp)
          · have hne : c :: w ≠ [] := List.cons_ne_nil c w
            obtain ⟨h, hh, hbegins⟩ := (startsCall_append_iff hne hr).mp hstarts
            exact hheads h hh hbegins.isInfix
    next hgo =>
      rw [not_or] at hgo
      constructor
      · intro h
        obtain ⟨hw, hr⟩ := Prod.mk.inj h
        subst hw
        obtain ⟨⟨hlt, hheads⟩, hends, hs⟩ := ih.mp (Prod.ext rfl hr)
        refine ⟨⟨?_, ?_⟩, hends, by rw [List.cons_append, ← hs]⟩
        · simpa [eq_comm] using And.intro hgo.1 hlt
        · intro h hh hinfix
          rcases List.infix_cons_iff.mp hinfix with hbegins | hinfix
          · refine hgo.2 (startsCall_iff.mpr ⟨h, hh, ?_⟩)
            rw [hs]
            exact hbegins.trans (List.prefix_append (c :: (splitText s).1) r)
          · exact hheads h hh hinfix
      · rintro ⟨⟨hlt, hheads⟩, hr, hs⟩
        cases w with
        | nil =>
          exfalso
          rw [List.nil_append] at hs
          rcases hr c (by simp [← hs]) with rfl | hstarts
          · exact hgo.1 rfl
          · exact hgo.2 (hs ▸ hstarts)
        | cons d w =>
          obtain ⟨rfl, rfl⟩ := List.cons.inj hs
          have hrest : splitText (w ++ r) = (w, r) := by
            refine ih.mpr ⟨⟨fun hmem => hlt (by simp [hmem]), ?_⟩, hr, rfl⟩
            intro h hh hinfix
            exact hheads h hh (List.infix_cons_iff.mpr (Or.inr hinfix))
          simp [hrest]

/-! ## The longest match -/

/-- A function's name is found exactly where it stands.  No other name can stand there,
since all names begin differently. -/
theorem findSome?_splitLiteral?_eq_some_iff {s w r : List Char} :
    (FunctionName.all.findSome? fun f => splitLiteral? f.chars s) = some (w, r) ↔
      (∃ f : FunctionName, w = f.chars) ∧ s = w ++ r := by
  constructor
  · intro h
    obtain ⟨f, _, hf⟩ := List.exists_of_findSome?_eq_some h
    obtain ⟨rfl, hs⟩ := splitLiteral?_eq_some_iff.mp hf
    exact ⟨⟨f, rfl⟩, hs⟩
  · rintro ⟨⟨f, rfl⟩, rfl⟩
    cases f <;> simp [FunctionName.all, FunctionName.chars, splitLiteral?]

/-- The longest match is a word of the terminal's class that cannot be continued. -/
theorem match?_eq_some_iff {t : Terminal} {s w r : List Char} :
    t.match? s = some (w, r) ↔ t.Admits w ∧ t.Ends r ∧ s = w ++ r := by
  cases t with
  | text =>
    simp only [match?, nonempty?_eq_some_iff, splitText_eq_iff, Admits, IsText]
    tauto
  | number =>
    simp only [match?, nonempty?_eq_some_iff, Digits.split, span_eq_iff, Admits, IsNumeral, Ends]
    tauto
  | objectName =>
    simp only [match?, nonempty?_eq_some_iff, Admits, Ends]
    constructor
    · rintro ⟨h, hne⟩
      exact (splitWord_eq_iff hne).mp h
    · intro h
      have hne : w ≠ [] := by
        rintro rfl
        simpa [IsCapitalized] using h.1
      exact ⟨(splitWord_eq_iff hne).mpr h, hne⟩
  | tagName =>
    simp only [match?, Admits, Ends]
    constructor
    · intro h
      split at h
      next => contradiction
      next hkeyword =>
        obtain ⟨h, hne⟩ := nonempty?_eq_some_iff.mp h
        rw [h] at hkeyword
        obtain ⟨hw, hr, hs⟩ := (splitWord_eq_iff hne).mp h
        exact ⟨⟨hw, hkeyword⟩, hr, hs⟩
    · rintro ⟨⟨hw, hkeyword⟩, hr, hs⟩
      have hne : w ≠ [] := by
        rintro rfl
        simp [IsCapitalized] at hw
      have hsplit := (splitWord_eq_iff hne).mpr ⟨hw, hr, hs⟩
      rw [hsplit, if_neg hkeyword]
      exact nonempty?_eq_some_iff.mpr ⟨rfl, hne⟩
  | functionName =>
    simp only [match?, findSome?_splitLiteral?_eq_some_iff, Admits, Ends, true_and]
  | _ =>
    simp only [match?, splitLiteral?_eq_some_iff, Admits, Ends, literal?, Option.getD_some,
      Option.some.injEq, true_and]
    constructor
    · rintro ⟨rfl, hs⟩
      exact ⟨rfl, hs⟩
    · rintro ⟨rfl, hs⟩
      exact ⟨rfl, hs⟩

end Terminal

end LogMarkup
