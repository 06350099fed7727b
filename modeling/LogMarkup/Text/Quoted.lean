import LogMarkup.Text.Printable

/-!
# Quoted texts

Error messages show a character or a name between quotes.  The quote is the
apostrophe, unless the text holds an apostrophe and no double quote.  The quote
itself, the backslash and what is not printable are escaped.

Main results:

- `Quoted.ofChars_of_plain`: a text of plain printable characters is only put between
  apostrophes.
-/

namespace LogMarkup

namespace Quoted

/-- The hexadecimal digit of value `n`, for `n` below sixteen. -/
def hexDigit (n : Nat) : Char :=
  if n < 10 then Char.ofNat (48 + n) else Char.ofNat (87 + n)

/-- The last `width` hexadecimal digits of `n`. -/
def hexDigits : (width : Nat) → (n : Nat) → List Char
  | 0, _ => []
  | width + 1, n => hexDigits width (n / 16) ++ [hexDigit (n % 16)]

/-- The mark around the text `cs`. -/
def mark (cs : List Char) : Char :=
  if '\'' ∈ cs ∧ '"' ∉ cs then '"' else '\''

/-- How the character `c` is written between two `q`. -/
def escape (q c : Char) : List Char :=
  if c = q ∨ c = '\\' then ['\\', c]
  else if c = '\n' then ['\\', 'n']
  else if c = '\r' then ['\\', 'r']
  else if c = '\t' then ['\\', 't']
  else if isPrintable c then [c]
  else if c.toNat < 0x100 then '\\' :: 'x' :: hexDigits 2 c.toNat
  else if c.toNat < 0x10000 then '\\' :: 'u' :: hexDigits 4 c.toNat
  else '\\' :: 'U' :: hexDigits 8 c.toNat

/-- The text `cs` between quotes. -/
def ofChars (cs : List Char) : List Char :=
  mark cs :: (cs.flatMap (escape (mark cs)) ++ [mark cs])

/-- The string `s` between quotes. -/
def ofString (s : String) : String := String.ofList (ofChars s.toList)

/-- A text of printable characters without quotes and backslashes is only put between
apostrophes. -/
theorem ofChars_of_plain {cs : List Char}
    (h : ∀ c ∈ cs, c ≠ '\'' ∧ c ≠ '\\' ∧ c ≠ '\n' ∧ c ≠ '\r' ∧ c ≠ '\t' ∧ isPrintable c) :
    ofChars cs = '\'' :: (cs ++ ['\'']) := by
  have hmark : mark cs = '\'' := by
    have hnot : '\'' ∉ cs := fun hmem => (h _ hmem).1 rfl
    simp [mark, hnot]
  have hbody : ∀ ds : List Char, (∀ c ∈ ds, c ∈ cs) → ds.flatMap (escape '\'') = ds := by
    intro ds hds
    induction ds with
    | nil => rfl
    | cons c ds ih =>
      obtain ⟨h₁, h₂, h₃, h₄, h₅, h₆⟩ := h c (hds c (by simp))
      have htail := ih fun d hd => hds d (by simp [hd])
      simp [escape, h₁, h₂, h₃, h₄, h₅, h₆, htail]
  simp [ofChars, hmark, hbody cs fun _ h => h]

end Quoted

end LogMarkup
