/-!
# Totals

What several things fill together is the total of what each of them fills.

Main results:

- `total_append`: the totals of two sequences add up.
-/

namespace LogMarkup

/-- The total of numbers. -/
def total (ns : List Nat) : Nat := ns.foldr (· + ·) 0

@[simp] theorem total_nil : total [] = 0 := rfl

@[simp] theorem total_cons (n : Nat) (ns : List Nat) : total (n :: ns) = n + total ns := rfl

/-- The totals of two sequences add up. -/
@[simp] theorem total_append (ns ms : List Nat) : total (ns ++ ms) = total ns + total ms := by
  induction ns with
  | nil => simp
  | cons n ns ih =>
    rw [List.cons_append, total_cons, total_cons, ih, Nat.add_assoc]

/-- Equal numbers add up to a multiple. -/
theorem total_replicate (n k : Nat) : total (List.replicate n k) = n * k := by
  induction n with
  | zero => simp
  | succ n ih =>
    rw [List.replicate_succ, total_cons, ih, Nat.succ_mul, Nat.add_comm]

end LogMarkup
