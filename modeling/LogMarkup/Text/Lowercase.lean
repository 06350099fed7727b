import LogMarkup.Text.Lowercase.Context
import LogMarkup.Text.Lowercase.Mapping

/-!
# Texts in small letters

A text is put into small letters character by character, with two exceptions: a capital
I with a dot keeps its dot as an accent, and a capital sigma at the end of a word
becomes the small sigma that stands there.

Main results:

- `lowercase_of_ascii`: texts of ASCII become the texts that core knows.
-/

namespace LogMarkup

/-- The small letters of a capital sigma behind `before`, the last character first, and
in front of `s`. -/
def smallSigma (before s : List Char) : Char :=
  if meetsLetter before && !meetsLetter s then '\u03c2' else '\u03c3'

/-- A text behind `before`, the last character first, in small letters. -/
def lowercaseFrom (before : List Char) : List Char → List Char
  | [] => []
  | '\u0130' :: s => 'i' :: '\u0307' :: lowercaseFrom ('\u0130' :: before) s
  | '\u03a3' :: s => smallSigma before s :: lowercaseFrom ('\u03a3' :: before) s
  | c :: s => smallLetter c :: lowercaseFrom (c :: before) s

/-- A text in small letters. -/
def lowercase (s : String) : String := String.ofList (lowercaseFrom [] s.toList)

/-- Texts of ASCII become the texts that core knows. -/
theorem lowercase_of_ascii {s : List Char} (h : ∀ c ∈ s, c.toNat < 128) (before : List Char) :
    lowercaseFrom before s = s.map Char.toLower := by
  induction s generalizing before with
  | nil => rfl
  | cons c s ih =>
    have hc : c.toNat < 128 := h c (by simp)
    rw [lowercaseFrom, List.map_cons, smallLetter_of_ascii hc, ih fun d hd => h d (by simp [hd])]
    · rintro rfl
      exact absurd hc (by decide)
    · rintro rfl
      exact absurd hc (by decide)

end LogMarkup
