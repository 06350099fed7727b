/-!
# The names that markup may use

Markup calls three functions, opens three tags and mentions two objects.  Each kind
of name is a type of its own, with its spelling and the reading of a spelling.

Main results:

- `FunctionName.ofChars?_chars`, `TagName.ofChars?_chars`, `ObjectName.ofChars?_chars`:
  a spelled name is read back.
- `FunctionName.chars_of_ofChars?` and its two companions: only a spelling is read.
- `Name.nodup_full_all`: no two names, of whatever kinds, are the same in full.
-/

namespace LogMarkup

/-- The functions that markup can call. -/
inductive FunctionName where
  /-- Compares two participants. -/
  | equal
  /-- Mentions a participant by its place in the message. -/
  | objectParameter
  /-- Asks for a fact about a participant. -/
  | playerParameter
deriving DecidableEq, Repr

namespace FunctionName

/-- Every function. -/
def all : List FunctionName := [equal, objectParameter, playerParameter]

/-- How markup spells a function's name. -/
def chars : FunctionName → List Char
  | equal => ['E', 'q', 'u', 'a', 'l']
  | objectParameter =>
      ['O', 'b', 'j', 'e', 'c', 't', 'P', 'a', 'r', 'a', 'm', 'e', 't', 'e', 'r']
  | playerParameter =>
      ['P', 'l', 'a', 'y', 'e', 'r', 'P', 'a', 'r', 'a', 'm', 'e', 't', 'e', 'r']

/-- The spelling as a string. -/
def text (f : FunctionName) : String := String.ofList f.chars

/-- The function of a given spelling. -/
def ofChars? (cs : List Char) : Option FunctionName := all.find? (·.chars = cs)

/-- A spelled function name is read back. -/
@[simp] theorem ofChars?_chars (f : FunctionName) : ofChars? f.chars = some f := by
  cases f <;> decide

/-- A spelling that reads as a function is that function's spelling. -/
theorem chars_of_ofChars? {cs : List Char} {f : FunctionName} (h : ofChars? cs = some f) :
    f.chars = cs := by
  simpa using List.find?_some h

end FunctionName

/-- The tags that markup can open, apart from the keywords of a branch. -/
inductive TagName where
  /-- A transparent wrapper around one part. -/
  | clickable
  /-- A lookup in a table of names. -/
  | sheet
  /-- A lookup in a table of English names. -/
  | sheetEn
deriving DecidableEq, Repr

namespace TagName

/-- Every tag. -/
def all : List TagName := [clickable, sheet, sheetEn]

/-- How markup spells a tag's name. -/
def chars : TagName → List Char
  | clickable => ['C', 'l', 'i', 'c', 'k', 'a', 'b', 'l', 'e']
  | sheet => ['S', 'h', 'e', 'e', 't']
  | sheetEn => ['S', 'h', 'e', 'e', 't', 'E', 'n']

/-- The spelling as a string. -/
def text (t : TagName) : String := String.ofList t.chars

/-- The tag of a given spelling. -/
def ofChars? (cs : List Char) : Option TagName := all.find? (·.chars = cs)

/-- A spelled tag name is read back. -/
@[simp] theorem ofChars?_chars (t : TagName) : ofChars? t.chars = some t := by
  cases t <;> decide

/-- A spelling that reads as a tag is that tag's spelling. -/
theorem chars_of_ofChars? {cs : List Char} {t : TagName} (h : ofChars? cs = some t) :
    t.chars = cs := by
  simpa using List.find?_some h

end TagName

/-- The objects that a table lookup can mention. -/
inductive ObjectName where
  /-- The table of players. -/
  | objStr
  /-- The table of other characters. -/
  | bnpcName
deriving DecidableEq, Repr

namespace ObjectName

/-- Every object. -/
def all : List ObjectName := [objStr, bnpcName]

/-- How markup spells an object. -/
def chars : ObjectName → List Char
  | objStr => ['O', 'b', 'j', 'S', 't', 'r']
  | bnpcName => ['B', 'N', 'p', 'c', 'N', 'a', 'm', 'e']

/-- The spelling as a string. -/
def text (o : ObjectName) : String := String.ofList o.chars

/-- The object of a given spelling. -/
def ofChars? (cs : List Char) : Option ObjectName := all.find? (·.chars = cs)

/-- A spelled object is read back. -/
@[simp] theorem ofChars?_chars (o : ObjectName) : ofChars? o.chars = some o := by
  cases o <;> decide

/-- A spelling that reads as an object is that object's spelling. -/
theorem chars_of_ofChars? {cs : List Char} {o : ObjectName} (h : ofChars? cs = some o) :
    o.chars = cs := by
  simpa using List.find?_some h

end ObjectName

/-- A name of any kind. -/
inductive Name where
  /-- The name of a function. -/
  | function (name : FunctionName)
  /-- The name of a tag. -/
  | tag (name : TagName)
  /-- The name of an object. -/
  | object (name : ObjectName)
deriving DecidableEq, Repr

namespace Name

/-- How markup spells the name. -/
def chars : Name → List Char
  | function f => f.chars
  | tag t => t.chars
  | object o => o.chars

/-- What the kind of the name is called where a name is shown in full. -/
def kind : Name → String
  | function _ => "FuncName"
  | tag _ => "TagName"
  | object _ => "Obj"

/-- What tells the name from others of its kind where it is shown in full. -/
def symbol : Name → String
  | function .equal => "EQUAL"
  | function .objectParameter => "OBJECT_PARAMETER"
  | function .playerParameter => "PLAYER_PARAMETER"
  | tag .clickable => "CLICKABLE"
  | tag .sheet => "SHEET"
  | tag .sheetEn => "SHEET_EN"
  | object .objStr => "OBJ_STR"
  | object .bnpcName => "BNPC_NAME"

/-- The name in full. -/
def full (n : Name) : String := n.kind ++ "." ++ n.symbol

/-- Every name. -/
def all : List Name :=
  FunctionName.all.map function ++ TagName.all.map tag ++ ObjectName.all.map object

/-- No two names are the same in full. -/
theorem nodup_full_all : (all.map full).Nodup := by decide

end Name

end LogMarkup
