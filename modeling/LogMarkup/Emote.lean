/-!
# Emotes

An emote is a gesture that is announced by log messages.  It is reached by text
commands and has, in each language, one message for when it is aimed at a target and
one for when it is not.

Main results:

- `Language.ofCode?_code`: a language is read back from its code.
-/

namespace LogMarkup

/-- The languages of messages. -/
inductive Language where
  /-- English. -/
  | english
  /-- Japanese. -/
  | japanese
deriving DecidableEq, Repr

namespace Language

/-- Every language. -/
def all : List Language := [english, japanese]

/-- The code of a language. -/
def code : Language → String
  | english => "en"
  | japanese => "ja"

/-- The language of a given code. -/
def ofCode? (s : String) : Option Language := all.find? (·.code = s)

/-- A language is read back from its code. -/
@[simp] theorem ofCode?_code (l : Language) : ofCode? l.code = some l := by
  cases l <;> decide

end Language

/-- The messages of an emote in one language. -/
structure MessagePair where
  /-- The markup when there is a target. -/
  targeted : String
  /-- The markup when there is none. -/
  untargeted : String
deriving DecidableEq, Repr

/-- The markup for whether there is a target. -/
def MessagePair.markup (p : MessagePair) (targeted : Bool) : String :=
  if targeted then p.targeted else p.untargeted

/-- An emote with its commands and messages. -/
structure Emote where
  /-- The number of the emote. -/
  id : Int
  /-- What the emote is called. -/
  name : String
  /-- The text commands that reach it. -/
  commands : List String
  /-- The English messages. -/
  english : MessagePair
  /-- The Japanese messages. -/
  japanese : MessagePair
deriving DecidableEq, Repr

namespace Emote

/-- The messages in a language. -/
def pair (e : Emote) : Language → MessagePair
  | .english => e.english
  | .japanese => e.japanese

/-- The markup in a language, for whether there is a target. -/
def markup (e : Emote) (l : Language) (targeted : Bool) : String := (e.pair l).markup targeted

end Emote

end LogMarkup
