import LogMarkup.Concrete
import LogMarkup.Proofs.LongestMatch

/-!
# Lexemes of concrete messages

A concrete message is written as a sequence of lexemes: words of the terminals, and
punctuation.  Which messages the rules of the grammar allow does not depend on the words,
and is said first.  A well-formed message moreover has words of the right classes, and no
two texts side by side.

Main results:

- `Concrete.listLexemes_append`: two sequences of parts have their lexemes one after the
  other.
- `Concrete.WellFormed.shaped`: what is well formed is built by the rules.
-/

namespace LogMarkup

/-- A word, or punctuation, and the terminal that it is read as. -/
structure Lexeme where
  /-- The terminal. -/
  kind : Terminal
  /-- How it is written. -/
  chars : List Char
deriving DecidableEq, Repr

namespace Lexeme

/-- The lexeme of a punctuation terminal. -/
def sign (t : Terminal) : Lexeme := ⟨t, t.literal?.getD []⟩

@[simp] theorem sign_kind (t : Terminal) : (sign t).kind = t := rfl

@[simp] theorem sign_chars (t : Terminal) : (sign t).chars = t.literal?.getD [] := rfl

end Lexeme

/-- Where a piece of markup can stand. -/
inductive Position where
  /-- In a message or on one side of a branch. -/
  | part
  /-- Among the parameters of a call or of a tag. -/
  | param
  /-- As the condition of a branch. -/
  | condition
deriving DecidableEq, Repr

namespace Concrete

variable {α : Type}

/-! ## Lexemes -/

/-- The lexemes of the text between two tags. -/
def innerLexemes : Option (Token α) → List Lexeme
  | none => []
  | some w => [⟨.text, w.chars⟩]

mutual

/-- The lexemes of a part or parameter. -/
def lexemes : Concrete α → List Lexeme
  | text w => [⟨.text, w.chars⟩]
  | call n ps => ⟨.functionName, n.chars⟩ :: paramLexemes ps
  | single n ps =>
      .sign .tagStart :: ⟨.tagName, n.chars⟩ :: (paramLexemes ps ++ [.sign .selfClose])
  | pair _ n ps inner close =>
      .sign .tagStart :: ⟨.tagName, n.chars⟩ :: (paramLexemes ps ++ (.sign .tagEnd ::
        (innerLexemes inner ++
          [.sign .closeStart, ⟨.tagName, close.chars⟩, .sign .tagEnd])))
  | branch c yes no =>
      .sign .ifStart :: (c.lexemes ++ (.sign .conditionEnd :: (listLexemes yes ++
        (.sign .elseMark :: (listLexemes no ++ [.sign .ifEnd])))))
  | object n => [⟨.objectName, n.chars⟩]
  | number d => [⟨.number, d.chars⟩]

/-- The lexemes of parameters with their parentheses; without any, none. -/
def paramLexemes : List (Concrete α) → List Lexeme
  | [] => []
  | p :: ps => .sign .openParen :: (p.lexemes ++ moreLexemes ps)

/-- The lexemes of the parameters behind another one. -/
def moreLexemes : List (Concrete α) → List Lexeme
  | [] => [.sign .closeParen]
  | p :: ps => .sign .comma :: (p.lexemes ++ moreLexemes ps)

/-- The lexemes of a sequence of parts. -/
def listLexemes : List (Concrete α) → List Lexeme
  | [] => []
  | p :: ps => p.lexemes ++ listLexemes ps

end

@[simp] theorem listLexemes_nil : listLexemes ([] : List (Concrete α)) = [] := rfl

@[simp] theorem listLexemes_cons (x : Concrete α) (xs : List (Concrete α)) :
    listLexemes (x :: xs) = x.lexemes ++ listLexemes xs := rfl

/-- Two sequences of parts have their lexemes one after the other. -/
theorem listLexemes_append (xs ys : List (Concrete α)) :
    listLexemes (xs ++ ys) = listLexemes xs ++ listLexemes ys := by
  induction xs with
  | nil => rfl
  | cons x xs ih => simp [ih]

/-! ## What the grammar allows -/

/-- Is it literal text? -/
def isText : Concrete α → Bool
  | text _ => true
  | _ => false

end Concrete

/-- Can such a piece of markup stand there? -/
def Position.admits {α : Type} : Position → Concrete α → Bool
  | _, .call .. | _, .single .. => true
  | .part, .text _ | .part, .pair .. | .part, .branch .. => true
  | .param, .pair .. | .param, .branch .. | .param, .object _ | .param, .number _ => true
  | _, _ => false

namespace Concrete

variable {α : Type}

mutual

/-- Is the part built by the rules of the grammar, whatever its words are? -/
def Shaped : Concrete α → Prop
  | text _ | object _ | number _ => True
  | call _ ps => ps ≠ [] ∧ AllShaped .param ps
  | single _ ps | pair _ _ ps _ _ => AllShaped .param ps
  | branch c yes no =>
      (Position.condition.admits c = true ∧ c.Shaped) ∧ AllShaped .part yes ∧ AllShaped .part no

/-- Are all of these built by the rules, and can they stand there? -/
def AllShaped (p : Position) : List (Concrete α) → Prop
  | [] => True
  | x :: xs => p.admits x = true ∧ x.Shaped ∧ AllShaped p xs

end

mutual

/-- Is the part built by the rules of the grammar of words of the right classes, with no
two texts side by side? -/
def WellFormed : Concrete α → Prop
  | text w => Terminal.text.Admits w.chars
  | call n ps => Terminal.functionName.Admits n.chars ∧ ps ≠ [] ∧ AllWellFormed .param ps
  | single n ps => Terminal.tagName.Admits n.chars ∧ AllWellFormed .param ps
  | pair _ n ps inner close =>
      Terminal.tagName.Admits n.chars ∧ AllWellFormed .param ps ∧
        (∀ w ∈ inner, Terminal.text.Admits w.chars) ∧ Terminal.tagName.Admits close.chars
  | branch c yes no =>
      (Position.condition.admits c = true ∧ c.WellFormed) ∧ AllWellFormed .part yes ∧
        AllWellFormed .part no
  | object n => Terminal.objectName.Admits n.chars
  | number d => Terminal.number.Admits d.chars

/-- Are all of these well formed, can they stand there, and are no two texts side by
side? -/
def AllWellFormed (p : Position) : List (Concrete α) → Prop
  | [] => True
  | x :: xs => p.admits x = true ∧ x.WellFormed ∧
      ¬ (x.isText = true ∧ xs.head?.any isText = true) ∧ AllWellFormed p xs

end

theorem allShaped_iff {p : Position} {xs : List (Concrete α)} :
    AllShaped p xs ↔ ∀ x ∈ xs, p.admits x = true ∧ x.Shaped := by
  induction xs with
  | nil => simp [AllShaped]
  | cons x xs ih => simp [AllShaped, ih, and_assoc]

mutual

/-- What is well formed is built by the rules. -/
theorem WellFormed.shaped : ∀ {x : Concrete α}, x.WellFormed → x.Shaped
  | text _, _ | object _, _ | number _, _ => trivial
  | call _ _, h => ⟨h.2.1, AllWellFormed.allShaped h.2.2⟩
  | single _ _, h => AllWellFormed.allShaped h.2
  | pair _ _ _ _ _, h => AllWellFormed.allShaped h.2.1
  | branch _ _ _, h =>
      ⟨⟨h.1.1, WellFormed.shaped h.1.2⟩, AllWellFormed.allShaped h.2.1,
        AllWellFormed.allShaped h.2.2⟩

/-- Well-formed sequences are built by the rules. -/
theorem AllWellFormed.allShaped {p : Position} :
    ∀ {xs : List (Concrete α)}, AllWellFormed p xs → AllShaped p xs
  | [], _ => trivial
  | _ :: _, h => ⟨h.1, WellFormed.shaped h.2.1, AllWellFormed.allShaped h.2.2.2⟩

end

end Concrete

end LogMarkup
