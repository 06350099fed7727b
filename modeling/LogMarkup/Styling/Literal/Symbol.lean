import LogMarkup.Binary64
import LogMarkup.Text.CharacterName
import LogMarkup.Text.Digits

/-!
# Symbols of literals

A literal is composed of symbols: numbers, strings, a few names, and punctuation.  What
a number or a string says hardly matters, so that a symbol keeps only its class.

Main results:

- `Literal.Symbol.splitDigits_append`: splitting off digits loses nothing but underscores.
-/

namespace LogMarkup

namespace Literal

/-- What is known of a number without sign. -/
inductive Numeric where
  /-- A real number. -/
  | real
  /-- An integer that is too large for a number of double precision. -/
  | huge
  /-- An imaginary number. -/
  | imaginary
deriving DecidableEq, Repr

/-- A symbol of a literal. -/
inductive Symbol where
  /-- A number without sign. -/
  | number (n : Numeric)
  /-- A string; is it one of bytes? -/
  | string (bytes : Bool)
  /-- The name of a constant. -/
  | constant
  /-- The name by which the empty set is called. -/
  | set
  /-- A single character of punctuation. -/
  | mark (c : Char)
deriving DecidableEq, Repr

namespace Symbol

/-! ## Numbers -/

/-- Is the character a hexadecimal digit? -/
def isHexadecimal (c : Char) : Bool :=
  c.isDigit || ('a'.val ≤ c.val && c.val ≤ 'f'.val) || ('A'.val ≤ c.val && c.val ≤ 'F'.val)

/-- The value of a hexadecimal digit. -/
def hexadecimalValue (c : Char) : Nat :=
  if c.isDigit then c.toNat - '0'.toNat else c.toUpper.toNat - 'A'.toNat + 10

/-- Can the character stand in a word?  Which characters beyond ASCII can does not
matter, because no word that means anything holds others. -/
def isWordChar (c : Char) : Bool := c.isAlphanum || c == '_' || decide (0x80 ≤ c.toNat)

/-- The longest run of digits of the class `p` at the front, and the rest.  Single
underscores may stand between digits. -/
def splitDigits (p : Char → Bool) : List Char → List Char × List Char
  | [] => ([], [])
  | [c] => if p c then ([c], []) else ([], [c])
  | c :: '_' :: d :: s =>
      if p c && p d then
        let (ds, rest) := splitDigits p (d :: s)
        (c :: ds, rest)
      else if p c then ([c], '_' :: d :: s)
      else ([], c :: '_' :: d :: s)
  | c :: s =>
      if p c then
        let (ds, rest) := splitDigits p s
        (c :: ds, rest)
      else ([], c :: s)

/-- Splitting off digits loses nothing but underscores. -/
theorem splitDigits_append (p : Char → Bool) (s : List Char) (h : '_' ∉ s) :
    (splitDigits p s).1 ++ (splitDigits p s).2 = s := by
  fun_induction splitDigits p s <;> simp_all

/-- What is known of an integer. -/
def ofInteger (n : Nat) : Symbol :=
  number (if (Binary64.ofDecimal false n 0).isFinite then .real else .huge)

/-- The base that a letter behind a zero gives. -/
def base? (c : Char) : Option Nat :=
  match c.toLower with
  | 'x' => some 16
  | 'o' => some 8
  | 'b' => some 2
  | _ => none

/-- Is the character a digit of numbers to a base? -/
def isDigitOf (base : Nat) (c : Char) : Bool :=
  isHexadecimal c && decide (hexadecimalValue c < base)

/-- Is there an exponent at the front, and the rest. -/
def splitExponent (s : List Char) : Bool × List Char :=
  match s with
  | e :: s' =>
      let unsigned := match s' with
        | '+' :: t | '-' :: t => t
        | t => t
      let (ds, rest) := splitDigits Char.isDigit unsigned
      if e.toLower = 'e' && ds ≠ [] then (true, rest) else (false, s)
  | [] => (false, [])

/-- The number in decimal digits at the front of `s`, and the rest. -/
def decimal? (s : List Char) : Option (Symbol × List Char) :=
  let (ds, s) := splitDigits Char.isDigit s
  let (hasPoint, fs, s) : Bool × List Char × List Char := match s with
    | '.' :: t =>
        let (fs, t) := splitDigits Char.isDigit t
        (true, fs, t)
    | t => (false, [], t)
  let (hasExponent, s) := splitExponent s
  if ds = [] && fs = [] then none
  else
    match s with
    | 'j' :: s | 'J' :: s => some (number .imaginary, s)
    | s =>
        if hasPoint || hasExponent then some (number .real, s)
        else if ds.length ≤ Digits.limit && (ds.head? != some '0' || ds.all (· == '0')) then
          some (ofInteger (Digits.value ds), s)
        else none

/-- The number to another base than ten behind the letter of the base, and the rest. -/
def based? (base : Nat) (s : List Char) : Option (Symbol × List Char) :=
  let (ds, rest) := splitDigits (isDigitOf base) (if s.head? = some '_' then s.tail else s)
  if ds = [] then none
  else some (ofInteger (ds.foldl (fun n d => base * n + hexadecimalValue d) 0), rest)

/-- The number at the front of `s`, and the rest.  No word can follow directly. -/
def number? (s : List Char) : Option (Symbol × List Char) := do
  let (n, rest) ← match s with
    | '0' :: c :: t =>
        match base? c with
        | some base => based? base t
        | none => decimal? s
    | s => decimal? s
  if rest.head?.any isWordChar then none else some (n, rest)

/-! ## Strings -/

/-- Does the text begin with the name of a character in braces? -/
def beginsWithName : List Char → Bool
  | '\x7b' :: s => s.contains '\x7d' && isCharacterName (s.takeWhile (· != '\x7d'))
  | _ => false

/-- Are the escapes of a string in order?  An escape by code needs all its digits, and a
code point has to exist; an escape by name needs the name of a character. -/
def hasGoodEscapes (bytes : Bool) : List Char → Bool
  | '\\' :: c :: s =>
      let digits := s.takeWhile isHexadecimal
      (match c with
        | 'x' => decide (2 ≤ digits.length)
        | 'u' => bytes || decide (4 ≤ digits.length)
        | 'U' => bytes || (decide (8 ≤ digits.length) && digits.take 2 == ['0', '0'] &&
            (digits[2]? == some '0' || digits.take 4 == ['0', '0', '1', '0']))
        | 'N' => bytes || beginsWithName s
        | _ => true) && hasGoodEscapes bytes s
  | _ :: s => hasGoodEscapes bytes s
  | [] => true

/-- The characters up to the closing `quotes`, and the rest.  Only a string in three
quotes goes on over the end of a line; what stands behind a backslash never ends the
string. -/
def splitQuoted? (quotes : List Char) : List Char → Option (List Char × List Char)
  | [] => none
  | c :: s =>
      if quotes.isPrefixOf (c :: s) then some ([], (c :: s).drop quotes.length)
      else if c = '\n' && quotes.length = 1 then none
      else
        match c, s with
        | '\\', d :: s => (splitQuoted? quotes s).map fun p => (c :: d :: p.1, p.2)
        | _, s => (splitQuoted? quotes s).map fun p => (c :: p.1, p.2)

/-- The letters, made small, that can stand in front of the quotes of a string. -/
def stringLetters : List (List Char) := [[], ['r'], ['u'], ['b'], ['b', 'r'], ['r', 'b']]

/-- The string at the front of `s` behind the letters in front of its quotes, and the
rest. -/
def string? (letters : List Char) (s : List Char) : Option (Symbol × List Char) := do
  let q ← s.head?
  let quotes := if [q, q, q].isPrefixOf s then [q, q, q] else [q]
  let (body, rest) ← splitQuoted? quotes (s.drop quotes.length)
  let letters := letters.map Char.toLower
  let bytes := letters.contains 'b'
  if !stringLetters.contains letters then none
  else if !letters.contains 'r' && !hasGoodEscapes bytes body then none
  else if bytes && body.any (fun c => decide (0x80 ≤ c.toNat)) then none
  else some (string bytes, rest)

/-! ## Words -/

/-- The names of the constants. -/
def constants : List String := ["None", "True", "False"]

/-- The forms of the letters in the name of the empty set: the letters themselves, and
the code points of those that differ from them in their style alone. -/
def setForms : List (Char × List Nat) :=
  [ ('s', [0x17f, 0x2e2, 0x209b, 0xff53, 0x1d42c, 0x1d460, 0x1d494, 0x1d4c8, 0x1d4fc, 0x1d530,
      0x1d564, 0x1d598, 0x1d5cc, 0x1d600, 0x1d634, 0x1d668, 0x1d69c]),
    ('e', [0x1d49, 0x2091, 0x212f, 0x2147, 0xff45, 0x1d41e, 0x1d452, 0x1d486, 0x1d4ee, 0x1d522,
      0x1d556, 0x1d58a, 0x1d5be, 0x1d5f2, 0x1d626, 0x1d65a, 0x1d68e]),
    ('t', [0x1d57, 0x209c, 0xff54, 0x1d42d, 0x1d461, 0x1d495, 0x1d4c9, 0x1d4fd, 0x1d531, 0x1d565,
      0x1d599, 0x1d5cd, 0x1d601, 0x1d635, 0x1d669, 0x1d69d]) ]

/-- Is this the name of the empty set, in letters of any style? -/
def isSetName (w : List Char) : Bool :=
  w.length == setForms.length &&
    (w.zip setForms).all fun p => p.1 == p.2.1 || p.2.2.contains p.1.toNat

/-- The symbol that begins with a word, and the rest. -/
def word? (s : List Char) : Option (Symbol × List Char) :=
  let w := s.takeWhile isWordChar
  let rest := s.dropWhile isWordChar
  if rest.head? = some '"' ∨ rest.head? = some '\'' then string? w rest
  else if String.ofList w ∈ constants then some (constant, rest)
  else if isSetName w then some (set, rest)
  else none

/-- The symbol at the front of `s`, and the rest. -/
def from? (s : List Char) : Option (Symbol × List Char) :=
  match s with
  | [] => none
  | '.' :: '.' :: '.' :: rest => some (constant, rest)
  | c :: rest =>
      if c.isDigit || c = '.' then number? s
      else if c = '"' || c = '\'' then string? [] s
      else if isWordChar c then word? s
      else if c ∈ ['(', ')', '\x7b', '\x7d', ',', ':', '+', '-'] then some (mark c, rest)
      else none

/-! ## Lines -/

/-- The text with line feeds for all ends of lines. -/
def unifyBreaks : List Char → List Char
  | '\r' :: '\n' :: s => '\n' :: unifyBreaks s
  | '\r' :: s => '\n' :: unifyBreaks s
  | c :: s => c :: unifyBreaks s
  | [] => []

/-- Where the reading of blank lines stands. -/
inductive Margin where
  /-- In front of the first symbol of a line.  Are there blanks in front, and were there
  any on a line that this one continues? -/
  | blank (indented continued : Bool)
  /-- In a comment. -/
  | comment

/-- The text behind blank lines and comments, up to the first symbol or the end.  The
symbol has to stand at the margin.  A backslash at the end of a line continues it. -/
def skipLines? : Margin → List Char → Option (List Char)
  | .comment, '\n' :: s => skipLines? (.blank false false) s
  | .comment, _ :: s => skipLines? .comment s
  | .comment, [] => some []
  | .blank _ _, '\n' :: s => skipLines? (.blank false false) s
  | .blank _ continued, ' ' :: s | .blank _ continued, '\t' :: s =>
      skipLines? (.blank true continued) s
  | .blank _ continued, '\x0c' :: s => skipLines? (.blank false continued) s
  | .blank _ _, '#' :: s => skipLines? .comment s
  | .blank indented continued, '\\' :: '\n' :: s =>
      if s = [] then none else skipLines? (.blank indented (indented || continued)) s
  | .blank indented continued, s => if indented || continued then none else some s

/-- How many brackets can be open. -/
def depthLimit : Nat := 200

/-- How many brackets are open behind the symbol, if `depth` were before it. -/
def depthAfter (depth : Nat) : Symbol → Nat
  | mark '(' | mark '\x7b' => depth + 1
  | mark ')' | mark '\x7d' => depth - 1
  | _ => depth

/-- The symbols of a text, with `depth` brackets being open.  Between symbols there may be
blanks, a comment up to the end of its line and, inside brackets or behind a backslash,
the end of a line.  Behind the line of the last symbol there are only blank lines.  Each
symbol takes at least one character of the fuel. -/
def listFrom? : (fuel depth : Nat) → List Char → Option (List Symbol)
  | _, _, [] => some []
  | 0, _, _ :: _ => none
  | fuel + 1, depth, c :: s =>
      if c = ' ' || c = '\t' || c = '\x0c' then listFrom? fuel depth s
      else if c = '\n' then
        if depth = 0 then (if skipLines? (.blank false false) s = some [] then some [] else none)
        else listFrom? fuel depth s
      else if c = '#' then listFrom? fuel depth (s.dropWhile (· != '\n'))
      else if c = '\\' then
        if s.head? = some '\n' && s.tail ≠ [] then listFrom? fuel depth s.tail else none
      else do
        let (x, rest) ← from? (c :: s)
        if depthLimit < x.depthAfter depth then none
        else
          let xs ← listFrom? fuel (x.depthAfter depth) rest
          return x :: xs

/-- The symbols of a text, which holds no null character. -/
def list? (s : List Char) : Option (List Symbol) :=
  if '\x00' ∈ s then none
  else (skipLines? (.blank false false) (unifyBreaks s)).bind (listFrom? s.length 0)

end Symbol

end Literal

end LogMarkup
