import LogMarkup.Text.Place

/-!
# Concrete messages

A concrete message is markup as it is written, before any name or number is
understood: digits are kept with their leading zeros, and the two names of a pair of
tags stand side by side.  Each word carries a mark.  A message fresh from the reader
has the empty mark; `Concrete.locate` replaces the marks by places.

Main results:

- `Concrete.chars_locate`, `Concrete.listChars_locateList`: marks do not change how a
  message is spelled.
-/

namespace LogMarkup

/-- A word of a message, and what is known of it. -/
structure Token (α : Type) where
  /-- The word as it is written. -/
  chars : List Char
  /-- What is known of this occurrence. -/
  mark : α
deriving DecidableEq, Repr

/-- A part of a message as it is written. -/
inductive Concrete (α : Type) where
  /-- Literal text. -/
  | text (words : Token α)
  /-- A call `Name(…)`. -/
  | call (name : Token α) (params : List (Concrete α))
  /-- A tag `<Name(…)/>` that needs no closing tag. -/
  | single (name : Token α) (params : List (Concrete α))
  /-- An opening tag, perhaps a text, and a closing tag: `<Name(…)>…</Name>`. -/
  | pair (mark : α) (name : Token α) (params : List (Concrete α)) (inner : Option (Token α))
      (close : Token α)
  /-- A branch `<If(…)>…<Else/>…</If>`. -/
  | branch (condition : Concrete α) (yes no : List (Concrete α))
  /-- The name of an object, as a parameter. -/
  | object (name : Token α)
  /-- Digits, as a parameter. -/
  | number (digits : Token α)
deriving Repr

namespace Concrete

variable {α : Type}

/-! ## Spelling -/

/-- How the text between two tags is spelled. -/
def innerChars : Option (Token α) → List Char
  | none => []
  | some w => w.chars

mutual

/-- How a part is spelled. -/
def chars : Concrete α → List Char
  | text w => w.chars
  | call n ps => n.chars ++ paramChars ps
  | single n ps => '<' :: (n.chars ++ (paramChars ps ++ ['/', '>']))
  | pair _ n ps inner close =>
      '<' :: (n.chars ++ (paramChars ps ++ ('>' :: (innerChars inner ++
        ('<' :: '/' :: (close.chars ++ ['>']))))))
  | branch c yes no =>
      ['<', 'I', 'f', '('] ++ (c.chars ++ ([')', '>'] ++ (listChars yes ++
        (['<', 'E', 'l', 's', 'e', '/', '>'] ++ (listChars no ++ ['<', '/', 'I', 'f', '>'])))))
  | object n => n.chars
  | number d => d.chars

/-- How parameters are spelled with their parentheses; without any, not at all. -/
def paramChars : List (Concrete α) → List Char
  | [] => []
  | p :: ps => '(' :: (p.chars ++ moreChars ps)

/-- How the parameters behind another one are spelled. -/
def moreChars : List (Concrete α) → List Char
  | [] => [')']
  | p :: ps => ',' :: (p.chars ++ moreChars ps)

/-- How a sequence of parts is spelled. -/
def listChars : List (Concrete α) → List Char
  | [] => []
  | p :: ps => p.chars ++ listChars ps

end

/-! ## Places -/

mutual

/-- The part with the places of its words, when it begins at `p`. -/
def locate (p : Place) : Concrete α → Concrete Place
  | text w => text ⟨w.chars, p⟩
  | call n ps => call ⟨n.chars, p⟩ (locateParams (p.after n.chars) ps)
  | single n ps =>
      let q := p.next '<'
      single ⟨n.chars, q⟩ (locateParams (q.after n.chars) ps)
  | pair _ n ps inner close =>
      let q := p.next '<'
      let behindName := q.after n.chars
      let behindTag := (behindName.after (paramChars ps)).next '>'
      let behindInner := behindTag.after (innerChars inner)
      pair p ⟨n.chars, q⟩ (locateParams behindName ps) (inner.map (⟨·.chars, behindTag⟩))
        ⟨close.chars, behindInner.after ['<', '/']⟩
  | branch c yes no =>
      let q := p.after ['<', 'I', 'f', '(']
      let behindCondition := (q.after c.chars).after [')', '>']
      let behindYes := (behindCondition.after (listChars yes)).after
        ['<', 'E', 'l', 's', 'e', '/', '>']
      branch (c.locate q) (locateList behindCondition yes) (locateList behindYes no)
  | object n => object ⟨n.chars, p⟩
  | number d => number ⟨d.chars, p⟩

/-- The parameters with the places of their words, when the parenthesis or comma
before the first one stands at `p`. -/
def locateParams (p : Place) : List (Concrete α) → List (Concrete Place)
  | [] => []
  | x :: xs =>
      let q := p.next ','
      x.locate q :: locateParams (q.after x.chars) xs

/-- The parts with the places of their words, when the first one begins at `p`. -/
def locateList (p : Place) : List (Concrete α) → List (Concrete Place)
  | [] => []
  | x :: xs => x.locate p :: locateList (p.after x.chars) xs

end

@[simp] theorem innerChars_map (p : Place) (inner : Option (Token α)) :
    innerChars (inner.map (⟨·.chars, p⟩ : Token α → Token Place)) = innerChars inner := by
  cases inner <;> rfl

mutual

/-- Places do not change the spelling of a part. -/
@[simp] theorem chars_locate (p : Place) : ∀ x : Concrete α, (x.locate p).chars = x.chars
  | text _ | object _ | number _ => rfl
  | call n ps => by simp [locate, chars, paramChars_locateParams]
  | single n ps => by simp [locate, chars, paramChars_locateParams]
  | pair _ n ps inner close => by simp [locate, chars, paramChars_locateParams]
  | branch c yes no => by simp [locate, chars, chars_locate _ c, listChars_locateList]

/-- Places do not change the spelling of parameters. -/
@[simp] theorem paramChars_locateParams (p : Place) :
    ∀ xs : List (Concrete α), paramChars (locateParams p xs) = paramChars xs
  | [] => rfl
  | x :: xs => by simp [locateParams, paramChars, chars_locate _ x, moreChars_locateParams]

/-- Places do not change the spelling of further parameters. -/
@[simp] theorem moreChars_locateParams (p : Place) :
    ∀ xs : List (Concrete α), moreChars (locateParams p xs) = moreChars xs
  | [] => rfl
  | x :: xs => by simp [locateParams, moreChars, chars_locate _ x, moreChars_locateParams]

/-- Places do not change the spelling of a sequence of parts. -/
@[simp] theorem listChars_locateList (p : Place) :
    ∀ xs : List (Concrete α), listChars (locateList p xs) = listChars xs
  | [] => rfl
  | x :: xs => by simp [locateList, listChars, chars_locate _ x, listChars_locateList]

end

end Concrete

end LogMarkup
