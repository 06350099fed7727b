import LogMarkup.Name
import LogMarkup.Text.Digits

/-!
# Terminals of the markup grammar

Markup is read without a separate tokenizer: at each place the terminals that may
stand there are tried, and each takes the longest text that it can.  This module
defines the sixteen terminals and that longest match.

Main results:

- `Terminal.match?_append`: a match and what it leaves are the text it was tried on.
- `Terminal.match?_ne_nil`: no terminal matches the empty text.
- `Terminal.match?_length_lt`: so a match leaves less than there was.
-/

namespace LogMarkup

/-- The symbols of which markup is composed: five classes of words, and punctuation. -/
inductive Terminal where
  /-- The `(` before parameters. -/
  | openParen
  /-- The `)` behind parameters. -/
  | closeParen
  /-- The `)>` behind the condition of a branch. -/
  | conditionEnd
  /-- The `,` between parameters. -/
  | comma
  /-- The `/>` at the end of a tag that has no closing tag. -/
  | selfClose
  /-- The `<` before the name of a tag. -/
  | tagStart
  /-- The `</` before the name of a closing tag. -/
  | closeStart
  /-- The `</If>` at the end of a branch. -/
  | ifEnd
  /-- The `<Else/>` between the two sides of a branch. -/
  | elseMark
  /-- The `<If(` before the condition of a branch. -/
  | ifStart
  /-- The `>` at the end of an opening or a closing tag. -/
  | tagEnd
  /-- The name of a function. -/
  | functionName
  /-- Decimal digits. -/
  | number
  /-- A capitalized word that names an object. -/
  | objectName
  /-- A capitalized word that names a tag. -/
  | tagName
  /-- Literal text. -/
  | text
deriving DecidableEq, Repr

namespace Terminal

/-- Every terminal, in the order of their labels. -/
def all : List Terminal :=
  [openParen, closeParen, conditionEnd, comma, selfClose, tagStart, closeStart, ifEnd,
    elseMark, ifStart, tagEnd, functionName, number, objectName, tagName, text]

/-- Every terminal is listed. -/
theorem mem_all (t : Terminal) : t ∈ all := by
  cases t <;> decide

/-- The fixed spelling of a punctuation terminal. -/
def literal? : Terminal → Option (List Char)
  | openParen => some ['(']
  | closeParen => some [')']
  | conditionEnd => some [')', '>']
  | comma => some [',']
  | selfClose => some ['/', '>']
  | tagStart => some ['<']
  | closeStart => some ['<', '/']
  | ifEnd => some ['<', '/', 'I', 'f', '>']
  | elseMark => some ['<', 'E', 'l', 's', 'e', '/', '>']
  | ifStart => some ['<', 'I', 'f', '(']
  | tagEnd => some ['>']
  | functionName | number | objectName | tagName | text => none

/-- How a terminal is shown in an error: punctuation in quotes, a class of words by
its name. -/
def label (t : Terminal) : String :=
  match t with
  | functionName => "FUNC_NAME"
  | number => "NUMBER"
  | objectName => "OBJ_NAME"
  | tagName => "TAG_NAME"
  | text => "TEXT"
  | _ => String.ofList (['\''] ++ t.literal?.getD [] ++ ['\''])

/-! ## Longest matches -/

/-- The beginnings of a function call: each function's name and an open parenthesis. -/
def callHeads : List (List Char) := FunctionName.all.map fun f => f.chars ++ ['(']

/-- Does a function call begin here? -/
def startsCall (s : List Char) : Bool := callHeads.any (·.isPrefixOf s)

/-- The longest literal text at the front: it stops before `<` and before a call. -/
def splitText : List Char → List Char × List Char
  | [] => ([], [])
  | c :: s =>
      if c = '<' ∨ startsCall (c :: s) then ([], c :: s)
      else (c :: (splitText s).1, (splitText s).2)

/-- The longest capitalized word at the front. -/
def splitWord : List Char → List Char × List Char
  | [] => ([], [])
  | c :: s =>
      if c.isUpper then ((c :: s).takeWhile Char.isAlpha, (c :: s).dropWhile Char.isAlpha)
      else ([], c :: s)

/-- The words of a branch, which are no tag names. -/
def keywords : List (List Char) := [['I', 'f'], ['E', 'l', 's', 'e']]

/-- The text that stands at the front of `s`, and the rest. -/
def splitLiteral? (w s : List Char) : Option (List Char × List Char) :=
  if w.isPrefixOf s then some (w, s.drop w.length) else none

/-- A match has to take something. -/
def nonempty? (m : List Char × List Char) : Option (List Char × List Char) :=
  if m.1 = [] then none else some m

/-- The longest text at the front of `s` that is a `t`, and the rest of `s`. -/
def match? (t : Terminal) (s : List Char) : Option (List Char × List Char) :=
  match t with
  | text => nonempty? (splitText s)
  | number => nonempty? (Digits.split s)
  | objectName => nonempty? (splitWord s)
  | tagName => if (splitWord s).1 ∈ keywords then none else nonempty? (splitWord s)
  | functionName => FunctionName.all.findSome? fun f => splitLiteral? f.chars s
  | _ => splitLiteral? (t.literal?.getD []) s

/-! ## What a match leaves -/

theorem splitText_append (s : List Char) : (splitText s).1 ++ (splitText s).2 = s := by
  induction s with
  | nil => rfl
  | cons c s ih =>
    rw [splitText]
    split
    · rfl
    · simp [ih]

theorem splitWord_append (s : List Char) : (splitWord s).1 ++ (splitWord s).2 = s := by
  cases s with
  | nil => rfl
  | cons c s =>
    rw [splitWord]
    split
    · exact List.takeWhile_append_dropWhile
    · rfl

/-- A literal is found exactly where it stands. -/
theorem splitLiteral?_eq_some_iff {w s u r : List Char} :
    splitLiteral? w s = some (u, r) ↔ u = w ∧ s = w ++ r := by
  unfold splitLiteral?
  split
  next h =>
    obtain ⟨t, rfl⟩ := List.isPrefixOf_iff_prefix.mp h
    simp [eq_comm]
  next h =>
    simp only [reduceCtorEq, false_iff, not_and]
    rintro rfl rfl
    exact h (List.isPrefixOf_iff_prefix.mpr ⟨r, rfl⟩)

theorem nonempty?_eq_some_iff {m : List Char × List Char} {w r : List Char} :
    nonempty? m = some (w, r) ↔ m = (w, r) ∧ w ≠ [] := by
  unfold nonempty?
  split
  next h =>
    simp only [reduceCtorEq, false_iff, not_and, ne_eq, Decidable.not_not]
    rintro rfl
    exact h
  next h =>
    simp only [Option.some.injEq]
    constructor
    · rintro rfl
      exact ⟨rfl, h⟩
    · exact fun h => h.1

/-- A match and what it leaves are the text it was tried on. -/
theorem match?_append {t : Terminal} {s w r : List Char} (h : t.match? s = some (w, r)) :
    w ++ r = s := by
  have split_eq : ∀ {f : List Char → List Char × List Char} (_ : (f s).1 ++ (f s).2 = s)
      (_ : nonempty? (f s) = some (w, r)), w ++ r = s := by
    intro f hf hn
    have := (nonempty?_eq_some_iff.mp hn).1
    rw [this] at hf
    exact hf
  have literal_eq : ∀ {v : List Char} (_ : splitLiteral? v s = some (w, r)), w ++ r = s := by
    intro v hv
    obtain ⟨rfl, rfl⟩ := splitLiteral?_eq_some_iff.mp hv
    rfl
  cases t with
  | text => exact split_eq (splitText_append s) h
  | number => exact split_eq (Digits.split_append s) h
  | objectName => exact split_eq (splitWord_append s) h
  | tagName =>
    simp only [match?] at h
    split at h
    · contradiction
    · exact split_eq (splitWord_append s) h
  | functionName =>
    obtain ⟨_, _, hf⟩ := List.exists_of_findSome?_eq_some h
    exact literal_eq hf
  | _ => exact literal_eq h

/-- No terminal matches the empty text. -/
theorem match?_ne_nil {t : Terminal} {s w r : List Char} (h : t.match? s = some (w, r)) :
    w ≠ [] := by
  cases t with
  | text | number | objectName => exact (nonempty?_eq_some_iff.mp h).2
  | tagName =>
    simp only [match?] at h
    split at h
    · contradiction
    · exact (nonempty?_eq_some_iff.mp h).2
  | functionName =>
    obtain ⟨f, _, hf⟩ := List.exists_of_findSome?_eq_some h
    rw [(splitLiteral?_eq_some_iff.mp hf).1]
    cases f <;> decide
  | _ =>
    rw [(splitLiteral?_eq_some_iff.mp h).1]
    decide

/-- A match leaves less than there was. -/
theorem match?_length_lt {t : Terminal} {s w r : List Char} (h : t.match? s = some (w, r)) :
    r.length < s.length := by
  have happend := congrArg List.length (match?_append h)
  have hpos := List.length_pos_iff.mpr (match?_ne_nil h)
  simp only [List.length_append] at happend
  omega

end Terminal

end LogMarkup
