import LogMarkup.Styling.Color

/-!
# Styles

A style of text is described in words: the attributes that are set or, behind `not`,
not set, a color, a background color behind `on`, and a link behind `link`.  Two
descriptions of one style have the same canonical text.

Main results:

- `Style.canonical?_eq`: two descriptions of one style have the same canonical text.
-/

namespace LogMarkup

/-- A style. -/
structure Style where
  /-- Which attributes are set and which are not; of two entries the first one counts. -/
  attributes : List (String × Bool) := []
  /-- The color of the text. -/
  color : Option String := none
  /-- The color of the background. -/
  background : Option String := none
  /-- The link to which the text leads. -/
  link : Option String := none
deriving DecidableEq, Repr

namespace Style

/-- The attributes, in the order in which they are listed, with their abbreviations. -/
def attributeNames : List (String × List String) :=
  [ ("bold", ["b"]), ("dim", ["d"]), ("italic", ["i"]), ("underline", ["u"]), ("blink", []),
    ("blink2", []), ("reverse", ["r"]), ("conceal", ["c"]), ("strike", ["s"]),
    ("underline2", ["uu"]), ("frame", []), ("encircle", []), ("overline", ["o"]) ]

/-- The attribute that a word names. -/
def attribute? (word : String) : Option String :=
  (attributeNames.find? fun a => a.1 = word ∨ word ∈ a.2).map Prod.fst

/-- The style with an attribute set or not set. -/
def withAttribute (st : Style) (name : String) (value : Bool) : Style :=
  { st with attributes := (name, value) :: st.attributes }

/-- The style that the words describe in addition to `st`.  What is said last counts. -/
def ofWords (st : Style) : List String → Except Color.Fault Style
  | [] => .ok st
  | word :: words =>
      match lowercase word, words with
      | "on", color :: words => do
          let color ← Color.ofWord color
          ofWords { st with background := some color } words
      | "not", word :: words =>
          match attribute? word with
          | some name => ofWords (st.withAttribute name false) words
          | none => .error .unknown
      | "link", target :: words => ofWords { st with link := some target } words
      | lower, words =>
          match attribute? lower with
          | some name => ofWords (st.withAttribute name true) words
          | none => do
              let color ← Color.ofWord lower
              ofWords { st with color := some color } words

/-- The words that list an attribute. -/
def attributeWords (st : Style) (name : String) : List String :=
  match st.attributes.lookup name with
  | some true => [name]
  | some false => ["not", name]
  | none => []

/-- The words that list a style. -/
def words (st : Style) : List String :=
  attributeNames.flatMap (fun a => st.attributeWords a.1) ++ st.color.toList ++
    (st.background.map (["on", ·])).getD [] ++ (st.link.map (["link", ·])).getD []

/-- How the style is listed. -/
def text (st : Style) : String :=
  if st.words = [] then "none" else String.intercalate " " st.words

/-- The style that a text describes. -/
def ofText (cs : List Char) : Except Color.Fault Style :=
  if trim isSpace cs = "none".toList then .ok {}
  else ofWords {} ((splitWords cs).map String.ofList)

/-- Does the text hold a color that cannot be read? -/
def isSpoilt (cs : List Char) : Bool :=
  match ofText cs with
  | .error .unreadable => true
  | .error .unknown | .ok _ => false

/-- The canonical text for a text: the list of the style that it describes, or else the
text itself in small letters.  There is none if a color in it cannot be read. -/
def canonical? (cs : List Char) : Option String :=
  match ofText cs with
  | .ok st => some st.text
  | .error .unknown => some (lowercase (String.ofList (trim isSpace cs)))
  | .error .unreadable => none

/-- Two descriptions of one style have the same canonical text. -/
theorem canonical?_eq {cs ds : List Char} {st : Style} (hc : ofText cs = .ok st)
    (hd : ofText ds = .ok st) : canonical? cs = canonical? ds := by
  simp [canonical?, hc, hd]

end Style

end LogMarkup
