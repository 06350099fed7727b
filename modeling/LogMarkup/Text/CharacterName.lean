import LogMarkup.Text.CharacterName.AToC
import LogMarkup.Text.CharacterName.DToK
import LogMarkup.Text.CharacterName.LToN
import LogMarkup.Text.CharacterName.OToZ
import LogMarkup.Text.Blank
import LogMarkup.Text.Hexadecimal

/-!
# Character names

Characters have names, as the Unicode Character Database (version 14) and its formal
aliases give them.  Most names are listed, and can be written in small letters too.
Some ideographs are named by a front and their code points, and the syllables of Korean
by the letters that they consist of.

Main results:

- `isSyllableName_append`: three letters make the name of a syllable.
-/

namespace LogMarkup

namespace CharacterName

/-! ## Names that are listed -/

/-- A group of names: the words that all of them share, and those in which each one ends. -/
structure Group where
  /-- The words in front. -/
  front : List (List Char)
  /-- The words behind, for each of the names. -/
  endings : List (List (List Char))

/-- The group that a text lists. -/
def Group.ofText (cs : List Char) : Group where
  front := splitWords (cs.takeWhile (· != ':'))
  endings := (((cs.dropWhile (· != ':')).drop 1).splitOn ',').map splitWords

/-- Do these words make a name of the group? -/
def Group.holds (g : Group) (words : List (List Char)) : Bool :=
  g.front.isPrefixOf words && g.endings.contains (words.drop g.front.length)

/-- The texts that list the names. -/
def tables : List String := [namesAToC, namesDToK, namesLToN, namesOToZ]

/-- Is the name listed? -/
def isListed (name : List Char) : Bool :=
  let words := name.splitOn ' '
  tables.any fun table => (table.toList.splitOn ';').any fun cs => (Group.ofText cs).holds words

/-! ## Names by code points -/

/-- Do four or five digits at the end of the name say a code point in one of the ranges? -/
def isNumbered (front : String) (ranges : List (Nat × Nat)) (name : List Char) : Bool :=
  let ds := name.drop front.length
  front.toList.isPrefixOf name && (ds.length == 4 || ds.length == 5) &&
    (codePoint? ds).any fun n => ranges.any fun r => decide (r.1 ≤ n) && decide (n ≤ r.2)

/-- Does a zero come first behind the front? -/
def hasPadding (front : String) (name : List Char) : Bool :=
  (name.drop front.length).head? == some '0'

/-- The ranges of the unified ideographs. -/
def unifiedRanges : List (Nat × Nat) :=
  [ (0x3400, 0x4dbf), (0x4e00, 0x9fff), (0x20000, 0x2a6df), (0x2a700, 0x2b738),
    (0x2b740, 0x2b81d), (0x2b820, 0x2cea1), (0x2ceb0, 0x2ebe0), (0x30000, 0x3134a) ]

/-- The fronts of names that end in the code points of these ranges. -/
def numberedFronts : List (String × List (Nat × Nat)) :=
  [ ("CJK COMPATIBILITY IDEOGRAPH-", [(0xf900, 0xfa6d), (0xfa70, 0xfad9), (0x2f800, 0x2fa1d)]),
    ("KHITAN SMALL SCRIPT CHARACTER-", [(0x18b00, 0x18cd5)]),
    ("NUSHU CHARACTER-", [(0x1b170, 0x1b2fb)]) ]

/-! ## Names of syllables -/

/-- The letters that begin a syllable. -/
def leadingLetters : List String :=
  [ "G", "GG", "N", "D", "DD", "R", "M", "B", "BB", "S", "SS", "", "J", "JJ", "C", "K", "T",
    "P", "H" ]

/-- The vowels of a syllable. -/
def vowels : List String :=
  [ "A", "AE", "YA", "YAE", "EO", "E", "YEO", "YE", "O", "WA", "WAE", "OE", "YO", "U", "WEO",
    "WE", "WI", "YU", "EU", "YI", "I" ]

/-- The letters that end a syllable. -/
def trailingLetters : List String :=
  [ "", "G", "GG", "GS", "N", "NJ", "NH", "D", "L", "LG", "LM", "LB", "LS", "LT", "LP", "LH",
    "M", "B", "BS", "S", "SS", "NG", "J", "C", "K", "T", "P", "H" ]

/-- Is this the name of a syllable? -/
def isSyllableName (cs : List Char) : Bool :=
  leadingLetters.any fun l => vowels.any fun v => trailingLetters.any fun t =>
    l.toList ++ v.toList ++ t.toList == cs

/-- Three letters make the name of a syllable. -/
theorem isSyllableName_append {l v t : String} (hl : l ∈ leadingLetters) (hv : v ∈ vowels)
    (ht : t ∈ trailingLetters) : isSyllableName (l.toList ++ v.toList ++ t.toList) = true := by
  simp only [isSyllableName, List.any_eq_true, beq_iff_eq]
  exact ⟨l, hl, v, hv, t, ht, rfl⟩

end CharacterName

open CharacterName in
/-- Is this the name of a character?  The names of unified ideographs and of syllables
have to be in capital letters; the code points of unified ideographs alone can be padded
with a zero. -/
def isCharacterName (name : List Char) : Bool :=
  let syllable := "HANGUL SYLLABLE ".toList
  let ideograph := "CJK UNIFIED IDEOGRAPH-"
  if syllable.isPrefixOf name then isSyllableName (name.drop syllable.length)
  else if ideograph.toList.isPrefixOf name then isNumbered ideograph unifiedRanges name
  else
    let capitals := name.map Char.toUpper
    numberedFronts.any (fun f => isNumbered f.1 f.2 capitals && !hasPadding f.1 capitals) ||
      isListed capitals

end LogMarkup
