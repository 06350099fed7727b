/-!
# Digits

Numbers are written with decimal digits, in markup as well as in data.  Digits in
front of a text are taken as far as they go; more digits than the limit are not
understood as a number.

Main results:

- `Digits.split_append`: the digits in front and the rest are the whole text.
- `Digits.value_append`: further digits move the number to the left.
-/

namespace LogMarkup

namespace Digits

/-- The longest run of digits at the front, and the rest. -/
def split (s : List Char) : List Char × List Char :=
  (s.takeWhile Char.isDigit, s.dropWhile Char.isDigit)

/-- The digits in front and the rest are the whole text. -/
theorem split_append (s : List Char) : (split s).1 ++ (split s).2 = s := by
  simp [split]

/-- What is split off are digits. -/
theorem isDigit_of_mem_split {s : List Char} {c : Char} (h : c ∈ (split s).1) :
    c.isDigit = true := by
  exact List.all_eq_true.mp (List.all_takeWhile) c h

/-- Digits alone leave no rest. -/
theorem split_of_isDigit {s : List Char} (h : ∀ c ∈ s, c.isDigit = true) : split s = (s, []) := by
  induction s with
  | nil => rfl
  | cons c s ih =>
    have htail := ih fun d hd => h d (by simp [hd])
    simp only [split, Prod.mk.injEq] at htail
    simp [split, h c (by simp), htail]

/-- A sign, if there is one: is it a minus, and the rest. -/
def splitSign : List Char → Bool × List Char
  | '-' :: s => (true, s)
  | '+' :: s => (false, s)
  | s => (false, s)

/-- How many digits a number may have at most. -/
def limit : Nat := 4300

/-- The number that digits denote. -/
def value (ds : List Char) : Nat := Nat.ofDigitChars 10 ds 0

/-- Further digits move the number to the left. -/
theorem value_append (ds es : List Char) :
    value (ds ++ es) = Nat.pow 10 es.length * value ds + value es := by
  rw [value, Nat.ofDigitChars_append, Nat.ofDigitChars_eq_ofDigitChars_zero]
  rfl

/-- The number with a minus sign, if it is negative. -/
def signed (negative : Bool) (n : Nat) : Int := if negative then -n else n

end Digits

end LogMarkup
