import LogMarkup.Rounding

/-!
# Numbers of double precision

A decimal number with a fraction or an exponent denotes the nearest number of the
binary64 format: a whole mantissa below 2⁵³ times a power of two.  A tie goes to the
even mantissa, and what is too large becomes infinite.  All arithmetic is on whole
numbers.
-/

namespace LogMarkup

/-- A number of the binary64 format. -/
inductive Binary64 where
  /-- The number `mantissa * 2 ^ exponent`, or its negation. -/
  | finite (negative : Bool) (mantissa : Nat) (exponent : Int)
  /-- Larger than every number, or smaller. -/
  | infinite (negative : Bool)
  /-- No number at all. -/
  | nan
deriving DecidableEq, Repr

namespace Binary64

/-- The bits of a mantissa. -/
def precision : Nat := 53

/-- The least exponent. -/
def minExponent : Int := -1074

/-- The greatest exponent. -/
def maxExponent : Int := 971

/-- The quotient `n / d` over `2 ^ e`, rounded. -/
def scaled (n d : Nat) (e : Int) : Nat :=
  roundDiv (n * Nat.pow 2 (-e).toNat) (d * Nat.pow 2 e.toNat)

/-- The nearest number to `n / d`, both positive, or to its negation. -/
def ofRatio (negative : Bool) (n d : Nat) : Binary64 :=
  let guess : Int := (n.log2 : Int) - d.log2 - precision
  let fits := n * Nat.pow 2 (-guess).toNat < d * Nat.pow 2 guess.toNat * Nat.pow 2 precision
  let e := max (if fits then guess else guess + 1) minExponent
  let m := scaled n d e
  let (m, e) := if m = Nat.pow 2 precision then (Nat.pow 2 (precision - 1), e + 1) else (m, e)
  if maxExponent < e then infinite negative else finite negative m e

/-- The number that `digits * 10 ^ exponent`, or its negation, denotes.  A number from
10³⁰⁹ on is infinite and one below 10⁻³²⁴ is zero, whatever its digits. -/
def ofDecimal (negative : Bool) (digits : Nat) (exponent : Int) : Binary64 :=
  let size : Int := (Nat.toDigits 10 digits).length + exponent
  if digits = 0 ∨ size ≤ -324 then finite negative 0 0
  else if 310 ≤ size then infinite negative
  else ofRatio negative (digits * Nat.pow 10 exponent.toNat) (Nat.pow 10 (-exponent).toNat)

/-- Is it a number, and not infinite? -/
def isFinite : Binary64 → Bool
  | finite .. => true
  | infinite _ | nan => false

/-- The whole number that it is, if it is one. -/
def toInt? : Binary64 → Option Int
  | finite negative m e =>
      let d := Nat.pow 2 (-e).toNat
      if m % d = 0 then
        let n : Int := (m / d * Nat.pow 2 e.toNat : Nat)
        some (if negative then -n else n)
      else none
  | infinite _ | nan => none

end Binary64

end LogMarkup
