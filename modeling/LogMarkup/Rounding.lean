/-!
# Rounding

A quotient is rounded to the nearest whole number, and a tie goes to the even one.

Main results:

- `roundDiv_mul`: a quotient that is whole is not changed.
- `roundDiv_near`: a rounded quotient is off by one half at most.
-/

namespace LogMarkup

/-- The whole number nearest to `n / d`; of two the even one. -/
def roundDiv (n d : Nat) : Nat :=
  let q := n / d
  let r := n % d
  if 2 * r < d then q else if d < 2 * r then q + 1 else if q % 2 = 0 then q else q + 1

/-- A quotient that is whole is not changed. -/
theorem roundDiv_mul (k : Nat) {d : Nat} (h : 0 < d) : roundDiv (k * d) d = k := by
  simp [roundDiv, Nat.mul_div_cancel _ h, h]

/-- A rounded quotient is off by one half at most. -/
theorem roundDiv_near (n : Nat) {d : Nat} (h : 0 < d) :
    2 * (roundDiv n d * d) ≤ 2 * n + d ∧ 2 * n ≤ 2 * (roundDiv n d * d) + d := by
  have hdiv := Nat.div_add_mod n d
  have hmod := Nat.mod_lt n h
  have hcomm : d * (n / d) = n / d * d := Nat.mul_comm _ _
  have hsucc : (n / d + 1) * d = n / d * d + d := Nat.succ_mul _ _
  simp only [roundDiv]
  split
  · omega
  · split
    · omega
    · split <;> omega

end LogMarkup
