import LogMarkup.Json
import LogMarkup.Text.Digits

/-!
# Symbols of a JSON text

A JSON text is a sequence of symbols with blanks between them: brackets, braces,
commas, colons and scalars.  A string is taken up to its closing quote and then its
escapes are resolved; an escape by number names a unit of UTF-16, and two such units
in a row can form a pair.  Everything else is a bare word, a number or one of the
known literals, which is taken as far as it goes and then understood as a whole.

Main results:

- `Json.Symbol.next?_length_lt`: a symbol takes something from the text.
-/

namespace LogMarkup

namespace Json

/-- A symbol of a JSON text. -/
inductive Symbol where
  /-- Begins an object. -/
  | openBrace
  /-- Ends an object. -/
  | closeBrace
  /-- Begins a list. -/
  | openBracket
  /-- Ends a list. -/
  | closeBracket
  /-- Stands between values, and between fields. -/
  | comma
  /-- Stands behind the name of a field. -/
  | colon
  /-- A string, a number or a literal. -/
  | scalar (value : Json)

/-! ## Strings -/

/-- The text up to the closing quote, escapes included, and the rest behind it. -/
def splitQuoted : List Char → Option (List Char × List Char)
  | [] => none
  | '"' :: s => some ([], s)
  | '\\' :: c :: s => (splitQuoted s).map fun p => ('\\' :: c :: p.1, p.2)
  | c :: s => if c.toNat < 0x20 then none else (splitQuoted s).map fun p => (c :: p.1, p.2)

/-- What a character of a string is written as. -/
inductive Piece where
  /-- Itself, or a named escape. -/
  | char (c : Char)
  /-- An escape that gives a unit of UTF-16. -/
  | unit (value : Nat)

/-- The value of a hexadecimal digit. -/
def hexValue? (c : Char) : Option Nat :=
  if c.isDigit then some (c.toNat - 48)
  else if 'a' ≤ c ∧ c ≤ 'f' then some (c.toNat - 87)
  else if 'A' ≤ c ∧ c ≤ 'F' then some (c.toNat - 55)
  else none

/-- The unit that four hexadecimal digits give. -/
def unitValue? (a b c d : Char) : Option Nat := do
  let a ← hexValue? a
  let b ← hexValue? b
  let c ← hexValue? c
  let d ← hexValue? d
  return ((a * 16 + b) * 16 + c) * 16 + d

/-- The character that a backslash and `c` stand for. -/
def escaped? (c : Char) : Option Char :=
  match c with
  | '"' | '\\' | '/' => some c
  | 'b' => some '\x08'
  | 'f' => some '\x0c'
  | 'n' => some '\n'
  | 'r' => some '\r'
  | 't' => some '\t'
  | _ => none

/-- The pieces of a string between its quotes. -/
def pieces? : List Char → Option (List Piece)
  | [] => some []
  | '\\' :: 'u' :: a :: b :: c :: d :: s => do
      let value ← unitValue? a b c d
      let rest ← pieces? s
      return .unit value :: rest
  | '\\' :: c :: s => do
      let value ← escaped? c
      let rest ← pieces? s
      return .char value :: rest
  | c :: s => do
      let rest ← pieces? s
      return .char c :: rest

/-- Is it the first unit of a pair? -/
def isHigh (n : Nat) : Bool := 0xd800 ≤ n && n < 0xdc00

/-- Is it the second unit of a pair? -/
def isLow (n : Nat) : Bool := 0xdc00 ≤ n && n < 0xe000

/-- The character that a pair of units encodes. -/
def pairValue (high low : Nat) : Char :=
  Char.ofNat (0x10000 + (high - 0xd800) * 0x400 + (low - 0xdc00))

/-- The characters of pieces; units of pairs have to stand in pairs. -/
def joinPieces? : List Piece → Option (List Char)
  | [] => some []
  | .char c :: s => (joinPieces? s).map (c :: ·)
  | .unit n :: .unit m :: s =>
      if isHigh n then
        if isLow m then (joinPieces? s).map (pairValue n m :: ·) else none
      else if isLow n then none
      else (joinPieces? (.unit m :: s)).map (Char.ofNat n :: ·)
  | .unit n :: s =>
      if isHigh n || isLow n then none else (joinPieces? s).map (Char.ofNat n :: ·)

/-- The string of a text between quotes. -/
def string? (raw : List Char) : Option String := do
  let pieces ← pieces? raw
  let chars ← joinPieces? pieces
  return String.ofList chars

/-! ## Numbers and literals -/

/-- The digits behind the point, if there is a point, and the rest. -/
def fraction? : List Char → Option (List Char × List Char)
  | '.' :: s => if (Digits.split s).1 = [] then none else some (Digits.split s)
  | s => some ([], s)

/-- The value of the exponent, which is all that is left. -/
def exponent? : List Char → Option Int
  | [] => some 0
  | c :: s =>
      let (negative, s) := Digits.splitSign s
      let (ds, rest) := Digits.split s
      if (c = 'e' ∨ c = 'E') ∧ ds ≠ [] ∧ rest = [] then
        some (Digits.signed negative (Digits.value ds))
      else none

/-- The number that an unsigned word denotes, or its negation.  The whole part has no
needless zero in front. -/
def magnitude? (negative : Bool) (w : List Char) : Option Json := do
  let (ds, rest) := Digits.split w
  if ds = [] ∨ (ds.head? = some '0' ∧ ds ≠ ['0']) ∨ Digits.limit < ds.length then none
  else if rest = [] then
    return .whole (Digits.signed negative (Digits.value ds))
  else
    let (fs, rest) ← fraction? rest
    let e ← exponent? rest
    return .real (.ofDecimal negative (Digits.value (ds ++ fs)) (e - fs.length))

/-- The value of a bare word. -/
def bare? (w : List Char) : Option Json :=
  match String.ofList w with
  | "null" => some .null
  | "true" => some (.bool true)
  | "false" => some (.bool false)
  | "NaN" => some (.real .nan)
  | "Infinity" => some (.real (.infinite false))
  | "-Infinity" => some (.real (.infinite true))
  | _ =>
      match w with
      | '-' :: s => magnitude? true s
      | s => magnitude? false s

/-- Can the character stand in a bare word? -/
def isBare (c : Char) : Bool := c.isAlphanum || c == '-' || c == '+' || c == '.'

/-- Does the character only separate symbols? -/
def isSpace (c : Char) : Bool := c == ' ' || c == '\t' || c == '\n' || c == '\r'

/-! ## Symbols -/

namespace Symbol

/-- The symbol that begins with `c` and goes on in `s`, and the rest. -/
def from? (c : Char) (s : List Char) : Option (Symbol × List Char) :=
  match c with
  | '\x7b' => some (.openBrace, s)
  | '\x7d' => some (.closeBrace, s)
  | '[' => some (.openBracket, s)
  | ']' => some (.closeBracket, s)
  | ',' => some (.comma, s)
  | ':' => some (.colon, s)
  | '"' => do
      let (raw, rest) ← splitQuoted s
      let value ← string? raw
      return (.scalar (.string value), rest)
  | _ =>
      if isBare c then
        (bare? (c :: s.takeWhile isBare)).map fun v => (.scalar v, s.dropWhile isBare)
      else none

theorem splitQuoted_length_le {s r rest : List Char} (h : splitQuoted s = some (r, rest)) :
    rest.length ≤ s.length := by
  fun_induction splitQuoted s generalizing r rest with
  | case1 => contradiction
  | case2 s =>
    cases h
    simp
  | case3 c s ih =>
    obtain ⟨p, hp, heq⟩ := Option.map_eq_some_iff.mp h
    cases heq
    have := ih hp
    simp only [List.length_cons]
    omega
  | case4 => contradiction
  | case5 c s _ _ _ ih =>
    obtain ⟨p, hp, heq⟩ := Option.map_eq_some_iff.mp h
    cases heq
    have := ih hp
    simp only [List.length_cons]
    omega

/-- A symbol takes something from the text. -/
theorem from?_length_le {c : Char} {s rest : List Char} {x : Symbol}
    (h : from? c s = some (x, rest)) : rest.length ≤ s.length := by
  unfold from? at h
  split at h
  all_goals first
    | (cases h; exact Nat.le_refl _)
    | skip
  next =>
    cases hq : splitQuoted s with
    | none => simp [hq] at h
    | some p =>
      cases hv : string? p.1 with
      | none => simp [hq, hv] at h
      | some v =>
        simp [hq, hv] at h
        rw [← h.2]
        exact splitQuoted_length_le (r := p.1) hq
  next =>
    split at h
    · obtain ⟨v, _, heq⟩ := Option.map_eq_some_iff.mp h
      cases heq
      exact (List.dropWhile_sublist _).length_le
    · contradiction

/-- The symbols of a text. -/
def all? : List Char → Option (List Symbol)
  | [] => some []
  | c :: s =>
      if isSpace c then all? s
      else
        match h : from? c s with
        | none => none
        | some (x, rest) =>
            have : rest.length ≤ s.length := from?_length_le h
            (all? rest).map (x :: ·)
termination_by s => s.length
decreasing_by all_goals simp only [List.length_cons]; omega

end Symbol

end Json

end LogMarkup
