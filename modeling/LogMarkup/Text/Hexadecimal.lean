/-!
# Hexadecimal digits

Code points are written in hexadecimal digits, of which the letters are capitals.

Main results:

- `codePoint?_singleton`: one digit says its own value.
-/

namespace LogMarkup

/-- The value of a hexadecimal digit, whose letter is a capital. -/
def capitalHexValue? (c : Char) : Option Nat :=
  if c.isDigit then some (c.toNat - '0'.toNat)
  else if 'A'.val ≤ c.val && c.val ≤ 'F'.val then some (c.toNat - 'A'.toNat + 10)
  else none

/-- The code point that hexadecimal digits say. -/
def codePoint? (ds : List Char) : Option Nat :=
  (ds.mapM capitalHexValue?).map fun vs => vs.foldl (16 * · + ·) 0

/-- One digit says its own value. -/
theorem codePoint?_singleton (d : Char) : codePoint? [d] = capitalHexValue? d := by
  cases h : capitalHexValue? d <;> simp [codePoint?, h]

end LogMarkup
