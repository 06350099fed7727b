import LogMarkup.Text.Blank
import LogMarkup.Text.DecimalDigit
import LogMarkup.Text.Digits

/-!
# Numerals

A numeral is a word that says an integer with the decimal digits of any script.  A sign
may stand in front, single underscores may stand between digits, and blanks may stand
around all of that.

Main results:

- `Numeral.read?_of_isDigit`: what the digits of ASCII say.
-/

namespace LogMarkup

namespace Numeral

/-- The values of the digits of a text in which single underscores may stand between
digits. -/
def digitValues? : List Char → Option (List Nat)
  | [] => none
  | [c] => (digitValue? c).map ([·])
  | c :: '_' :: s => do
      let v ← digitValue? c
      let vs ← digitValues? s
      return v :: vs
  | c :: s => do
      let v ← digitValue? c
      let vs ← digitValues? s
      return v :: vs

/-- The number that the values of digits denote. -/
def ofValues (vs : List Nat) : Nat := vs.foldl (10 * · + ·) 0

/-- The integer that a word says.  Zeros in front are counted as digits. -/
def read? (cs : List Char) : Option Int := do
  let (negative, ds) := Digits.splitSign (trim isBlank cs)
  let vs ← digitValues? ds
  if vs.length ≤ Digits.limit then some (Digits.signed negative (ofValues vs)) else none

theorem digitValues?_of_isDigit {ds : List Char} (hne : ds ≠ [])
    (h : ∀ d ∈ ds, d.isDigit = true) :
    digitValues? ds = some (ds.map fun d => d.toNat - '0'.toNat) := by
  fun_induction digitValues? ds with
  | case1 => contradiction
  | case2 c => simp [digitValue?_of_isDigit (h c (by simp))]
  | case3 c s ih => exact absurd (h '_' (by simp)) (by decide)
  | case4 c s hs hne' ih =>
    have hs' : s ≠ [] := fun h' => hs (by rw [h'])
    rw [ih hs' fun d hd => h d (by simp [hd]), digitValue?_of_isDigit (h c (by simp))]
    rfl

theorem ofValues_map (ds : List Char) :
    ofValues (ds.map fun d => d.toNat - '0'.toNat) = Digits.value ds := by
  simp [ofValues, Digits.value, Nat.ofDigitChars, List.foldl_map]

/-- No digit of ASCII is a blank. -/
theorem isBlank_of_isDigit {c : Char} (h : c.isDigit = true) : isBlank c = false := by
  have hc : 0x30 ≤ c.toNat ∧ c.toNat ≤ 0x39 := by
    simp only [Char.isDigit, Bool.and_eq_true, decide_eq_true_eq, ge_iff_le,
      UInt32.le_iff_toNat_le] at h
    exact h
  simp only [isBlank, inRanges, blankRanges, List.any_cons, List.any_nil, Bool.or_false,
    Bool.or_eq_false_iff, Bool.and_eq_false_iff, decide_eq_false_iff_not]
  omega

/-- What the digits of ASCII say, unless they are too many. -/
theorem read?_of_isDigit {ds : List Char} (hne : ds ≠ []) (h : ∀ d ∈ ds, d.isDigit = true) :
    read? ds = if ds.length ≤ Digits.limit then some (Int.ofNat (Digits.value ds)) else none := by
  have htrim : trim isBlank ds = ds :=
    trim_of_none
      (fun c hc => isBlank_of_isDigit (h c (List.mem_of_mem_head? hc)))
      (fun c hc => isBlank_of_isDigit (h c (List.mem_of_getLast? hc)))
  have hsign : Digits.splitSign ds = (false, ds) := by
    cases ds with
    | nil => rfl
    | cons d ds =>
      have hd := h d (by simp)
      rw [Digits.splitSign]
      · rintro _ ⟨⟩
        contradiction
      · rintro _ ⟨⟩
        contradiction
  simp only [read?, htrim, hsign, digitValues?_of_isDigit hne h, Option.bind_eq_bind,
    Option.bind_some, List.length_map, ofValues_map]
  rfl

end Numeral

end LogMarkup
