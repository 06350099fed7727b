/-!
# Plain text

What is shown in lines is plain text: it holds no control sequences, which would colour
it or move the cursor, and its lines end in a line feed alone.  A control sequence is
an escape character, an open bracket, any number of digits, semicolons and question
marks, and a letter.

Main results:

- `Plain.strip_of_not_mem`: a text without escape character is not changed by stripping.
- `Plain.joinBreaks_of_not_mem`: a text without carriage return keeps its line breaks.
-/

namespace LogMarkup

namespace Plain

/-- The character that begins a control sequence. -/
def escape : Char := '\x1b'

/-- May the character stand between the bracket and the letter of a control sequence? -/
def isParameter (c : Char) : Bool := c.isDigit || c == ';' || c == '?'

/-- What follows the control sequence at the front, if there is one. -/
def afterSequence? : List Char → Option (List Char)
  | e :: '[' :: s =>
      if e = escape then
        match s.dropWhile isParameter with
        | c :: rest => if c.isAlpha then some rest else none
        | [] => none
      else none
  | _ => none

/-- A control sequence takes something from the text. -/
theorem length_lt_of_afterSequence? {s rest : List Char} (h : afterSequence? s = some rest) :
    rest.length < s.length := by
  unfold afterSequence? at h
  split at h
  next e s =>
    split at h
    · split at h
      next c rest' hdrop =>
        split at h
        · obtain rfl := Option.some.inj h
          have hle := (List.dropWhile_suffix isParameter (l := s)).length_le
          rw [hdrop] at hle
          simp only [List.length_cons] at hle ⊢
          omega
        · contradiction
      next => contradiction
    · contradiction
  next => contradiction

/-- The text without its control sequences.  What is left on both sides of one makes no
new one. -/
def strip : List Char → List Char
  | [] => []
  | c :: s =>
      match _h : afterSequence? (c :: s) with
      | some rest => strip rest
      | none => c :: strip s
termination_by s => s.length
decreasing_by
  · exact length_lt_of_afterSequence? _h
  · simp

/-- A text without escape character is not changed by stripping. -/
theorem strip_of_not_mem {s : List Char} (h : escape ∉ s) : strip s = s := by
  induction s with
  | nil => rw [strip]
  | cons c s ih =>
    have hc : c ≠ escape := fun hc => h (by simp [hc])
    have hnone : afterSequence? (c :: s) = none := by
      unfold afterSequence?
      split
      next e _ heq =>
        obtain ⟨rfl, _⟩ := List.cons.inj heq
        rw [if_neg hc]
      next => rfl
    rw [strip]
    split
    next hsome => simp [hnone] at hsome
    next => rw [ih fun hmem => h (by simp [hmem])]

/-- The text with line feeds in the place of carriage returns before line feeds. -/
def joinBreaks : List Char → List Char
  | '\r' :: '\n' :: s => '\n' :: joinBreaks s
  | c :: s => c :: joinBreaks s
  | [] => []

/-- A text without carriage return keeps its line breaks. -/
theorem joinBreaks_of_not_mem {s : List Char} (h : '\r' ∉ s) : joinBreaks s = s := by
  fun_induction joinBreaks s with
  | case1 => simp at h
  | case2 c s _ ih => rw [ih fun hmem => h (by simp [hmem])]
  | case3 => rfl

/-- A text as plain text in a line of its own. -/
def line (text : String) : String :=
  String.ofList (joinBreaks (strip text.toList ++ ['\n']))

end Plain

end LogMarkup
