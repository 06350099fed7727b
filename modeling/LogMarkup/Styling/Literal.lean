import LogMarkup.Styling.Literal.Symbol

/-!
# Literals

A literal spells a value: a number, a string, one of a few constants, or a tuple, a set
or a dictionary of literals.  A list has no literal here, because square brackets never
stand inside a tag.  Only whether a text is a literal matters, so that a literal is read
as the kind of its value.

Main results:

- `Literal.isLiteral_of_list?`: a literal has symbols.
-/

namespace LogMarkup

namespace Literal

/-- What is known of the value of a literal. -/
inductive Kind where
  /-- A real number without sign. -/
  | real
  /-- An integer without sign that is too large for a number of double precision. -/
  | huge
  /-- A real number with a sign. -/
  | signed
  /-- An imaginary number without sign. -/
  | imaginary
  /-- Another value that can be in a set and be a key of a dictionary. -/
  | hashable
  /-- Another value. -/
  | unhashable
  /-- No value, but the name by which the empty set is called. -/
  | name
deriving DecidableEq, Repr

namespace Kind

/-- A number. -/
def ofNumeric : Numeric → Kind
  | .real => real
  | .huge => huge
  | .imaginary => imaginary

/-- A number with a sign; nothing else takes one. -/
def withSign? : Kind → Option Kind
  | real => some signed
  | huge | imaginary => some hashable
  | _ => none

/-- The sum or difference of a real number and an imaginary one; no others are taken. -/
def sum? (k l : Kind) : Option Kind :=
  if (k = real ∨ k = signed) ∧ l = imaginary then some hashable else none

/-- A tuple of values of these kinds. -/
def ofTuple (ks : List Kind) : Kind := if unhashable ∈ ks then unhashable else hashable

end Kind

/-- The symbols behind one that is expected. -/
def after? (c : Char) : List Symbol → Option (List Symbol)
  | .mark d :: xs => if c = d then some xs else none
  | _ => none

/-- Is this the end, or does a bracket close? -/
def ends (xs : List Symbol) : Bool :=
  xs = [] || xs.head? == some (.mark ')') || xs.head? == some (.mark '\x7d')

/-- What was read, and the rest, after a call if the name of the empty set is called. -/
def called : Kind × List Symbol → Kind × List Symbol
  | (.name, .mark '(' :: .mark ')' :: xs) => (.unhashable, xs)
  | p => p

mutual

/-- The kind of the value at the front, and the rest. -/
def value? : (fuel : Nat) → List Symbol → Option (Kind × List Symbol)
  | 0, _ => none
  | fuel + 1, xs => do
      let (k, xs) ← sum? fuel xs
      if k = .name then none else some (k, xs)

/-- The kind of the value or name at the front, perhaps a sum of a real and an imaginary
number, and the rest. -/
def sum? : (fuel : Nat) → List Symbol → Option (Kind × List Symbol)
  | 0, _ => none
  | fuel + 1, xs => do
      let (k, xs) ← signed? fuel xs
      match xs with
      | .mark '+' :: xs | .mark '-' :: xs =>
          let (l, xs) ← signed? fuel xs
          (k.sum? l).map (·, xs)
      | xs => some (k, xs)

/-- The kind of the value or name at the front, perhaps with a sign, and the rest. -/
def signed? : (fuel : Nat) → List Symbol → Option (Kind × List Symbol)
  | 0, _ => none
  | fuel + 1, .mark '+' :: xs | fuel + 1, .mark '-' :: xs => do
      let (k, xs) ← signed? fuel xs
      k.withSign?.map (·, xs)
  | fuel + 1, xs => (single? fuel xs).map called

/-- The kind of the value or name at the front, without sign, and the rest. -/
def single? : (fuel : Nat) → List Symbol → Option (Kind × List Symbol)
  | 0, _ => none
  | _, .number n :: xs => some (.ofNumeric n, xs)
  | _, .constant :: xs => some (.hashable, xs)
  | _, .set :: xs => some (.name, xs)
  | _, .mark '(' :: .mark ')' :: xs => some (.hashable, xs)
  | _, .mark '\x7b' :: .mark '\x7d' :: xs => some (.unhashable, xs)
  | fuel + 1, .string bytes :: xs =>
      match xs with
      | .string bytes' :: _ => if bytes = bytes' then single? fuel xs else none
      | xs => some (.hashable, xs)
  | fuel + 1, .mark '(' :: xs => do
      let (k, xs) ← sum? fuel xs
      match after? ')' xs with
      | some xs => some (k, xs)
      | none =>
          let (ks, xs) ← more? fuel false xs
          let xs ← after? ')' xs
          if k = .name then none else some (.ofTuple (k :: ks), xs)
  | fuel + 1, .mark '\x7b' :: xs => do
      let (k, xs) ← value? fuel xs
      let isDictionary := (after? ':' xs).isSome
      let xs ← if isDictionary then (value? fuel xs.tail).map Prod.snd else some xs
      let (ks, xs) ← more? fuel isDictionary xs
      let xs ← after? '\x7d' xs
      if Kind.unhashable ∈ k :: ks then none else some (.unhashable, xs)
  | _ + 1, _ => none

/-- The kinds of the values behind commas at the front, or of the keys among them, and
the rest.  A comma may stand at the end. -/
def more? : (fuel : Nat) → (isDictionary : Bool) → List Symbol → Option (List Kind × List Symbol)
  | 0, _, _ => none
  | fuel + 1, isDictionary, xs =>
      match after? ',' xs with
      | none => some ([], xs)
      | some xs =>
          if ends xs then some ([], xs)
          else do
            let (k, xs) ← value? fuel xs
            let xs ←
              if isDictionary then do
                let xs ← after? ':' xs
                let (_, xs) ← value? fuel xs
                some xs
              else some xs
            let (ks, xs) ← more? fuel isDictionary xs
            some (k :: ks, xs)

end

/-- Is the text a literal, or a tuple of literals without parentheses?  A symbol is met at
most five times on the way down. -/
def isLiteral (s : List Char) : Bool :=
  match Symbol.list? s with
  | none => false
  | some xs =>
      let fuel := 5 * xs.length + 5
      match (value? fuel xs).bind fun p => more? fuel false p.2 with
      | some (_, []) => true
      | _ => false

/-- A literal has symbols. -/
theorem isLiteral_of_list? {s : List Char} (h : isLiteral s = true) :
    (Symbol.list? s).isSome = true := by
  unfold isLiteral at h
  split at h
  · contradiction
  next hs => simp [hs]

end Literal

end LogMarkup
