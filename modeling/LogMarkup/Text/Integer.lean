import LogMarkup.Text.Blank
import LogMarkup.Text.Digits

/-!
# Integers in a text

A text says an integer most plainly by its decimal digits, without zeros in front,
behind a minus sign if it is negative.  Other spellings are tidied before they are read:
blanks around the integer, a plus sign, zeros in front, a fraction that is zero, and
underscores between digits are dropped.  The plain spelling alone is told apart as too
long.

Main results:

- `plain_of_digits`: what the plain spelling of a number says.
- `read_of_plain`: a plain spelling is read as it is.
-/

namespace LogMarkup

/-- What a text says where an integer is expected. -/
inductive WrittenInteger where
  /-- An integer. -/
  | value (i : Int)
  /-- An integer with too many digits. -/
  | tooLong
  /-- No integer. -/
  | malformed
deriving DecidableEq, Repr

namespace WrittenInteger

/-! ## The plain spelling -/

/-- What a text says in the plain spelling.  Digits that are too many are noticed before
anything behind them. -/
def plain (cs : List Char) : WrittenInteger :=
  let (negative, ds, rest) :=
    match cs with
    | '-' :: s => (true, Digits.split s)
    | s => (false, Digits.split s)
  if ds = [] ∨ (ds.head? = some '0' ∧ ds ≠ ['0']) then malformed
  else if Digits.limit < ds.length then tooLong
  else if rest = [] then value (Digits.signed negative (Digits.value ds))
  else malformed

/-! ## Other spellings -/

/-- The number from its first digit that is not zero.  Zeros and underscores in front
of it are dropped, also in front of a minus sign; of zeros alone, or before a point, the
last character is kept. -/
def dropZeros (last : Char) : List Char → Option (List Char)
  | [] => some [last]
  | c :: s =>
      if c = '0' ∨ c = '_' then dropZeros c s
      else if c.isDigit ∨ c = '-' then some (c :: s)
      else if c = '.' then some (last :: c :: s)
      else none

/-- The number without zeros in front; it has to begin with a digit. -/
def fromFirstDigit : List Char → Option (List Char)
  | [] => none
  | c :: s =>
      if c = '0' then dropZeros c s
      else if c.isDigit then some (c :: s)
      else none

/-- The number without a fraction that consists of zeros. -/
def dropZeroFraction (cs : List Char) : List Char :=
  match cs.dropWhile (· != '.') with
  | '.' :: '0' :: zeros => if zeros.all (· == '0') then cs.takeWhile (· != '.') else cs
  | _ => cs

/-- Do two underscores stand side by side? -/
def hasUnderscorePair : List Char → Bool
  | '_' :: '_' :: _ => true
  | _ :: s => hasUnderscorePair s
  | [] => false

/-- The number without underscores; none may stand at an end or beside another one. -/
def dropUnderscores (cs : List Char) : Option (List Char) :=
  if cs.head? = some '_' ∨ cs.getLast? = some '_' ∨ hasUnderscorePair cs then none
  else some (cs.filter (· != '_'))

/-- The spelling after tidying. -/
def tidy? (cs : List Char) : Option (List Char) := do
  let (negative, s) := Digits.splitSign (trim isBlank cs)
  let s ← fromFirstDigit s
  let s ← dropUnderscores (dropZeroFraction s)
  return if negative then '-' :: s else s

/-- What the text says.  A spelling that needed to be tidied is never too long, only
wrong. -/
def read (cs : List Char) : WrittenInteger :=
  match plain cs with
  | malformed =>
      match (tidy? cs).map plain with
      | some (value i) => value i
      | _ => malformed
  | w => w

/-! ## What is read -/

/-- What the plain spelling of a number says. -/
theorem plain_of_digits {ds : List Char} (hne : ds ≠ []) (h : ∀ d ∈ ds, d.isDigit = true)
    (hzero : ds.head? = some '0' → ds = ['0']) (hlen : ds.length ≤ Digits.limit) :
    plain ds = value (Digits.value ds) := by
  have hsplit : Digits.split ds = (ds, []) := Digits.split_of_isDigit h
  have hsign : ∀ s, ds ≠ '-' :: s := by
    rintro s rfl
    exact absurd (h '-' (by simp)) (by decide)
  unfold plain
  split
  next heq =>
    split at heq
    next s => exact absurd rfl (hsign s)
    next =>
      simp only [hsplit, Prod.mk.injEq] at heq
      obtain ⟨rfl, rfl, rfl⟩ := heq
      have hstart : ¬(ds = [] ∨ (ds.head? = some '0' ∧ ds ≠ ['0'])) := by
        rintro (hnil | ⟨hhead, hother⟩)
        · exact hne hnil
        · exact hother (hzero hhead)
      rw [if_neg hstart, if_neg (by omega), if_pos rfl]
      rfl

/-- A plain spelling is read as it is. -/
theorem read_of_plain {cs : List Char} (h : plain cs ≠ malformed) : read cs = plain cs := by
  unfold read
  cases hp : plain cs <;> simp_all

end WrittenInteger

end LogMarkup
