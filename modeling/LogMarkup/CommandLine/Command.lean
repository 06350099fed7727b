import LogMarkup.Character
import LogMarkup.CommandLine.Words
import LogMarkup.Disk.Path
import LogMarkup.Emote

/-!
# Commands

The program renders a markup, renders the message of an emote, checks emote data, or
tells its version.  Rendering needs an origin; a target takes part when its name is
given and not empty.  Where an option is given more than once, the last one counts.

Main results:

- `Command.parse?_version`: the version needs no options.
-/

namespace LogMarkup

/-- What an option sets. -/
inductive Setting where
  /-- The name of the origin. -/
  | origin (name : String)
  /-- The letter of the origin's gender. -/
  | originGender (letter : String)
  /-- Is the origin no player character? -/
  | originNpc (yes : Bool)
  /-- Is the origin the reader's own character? -/
  | originSelf (yes : Bool)
  /-- The name of the target. -/
  | target (name : String)
  /-- The letter of the target's gender. -/
  | targetGender (letter : String)
  /-- Is the target no player character? -/
  | targetNpc (yes : Bool)
  /-- Is the target the reader's own character? -/
  | targetSelf (yes : Bool)
  /-- The path of the emote data. -/
  | data (path : String)
  /-- The code of the language. -/
  | language (code : String)
  /-- Should the program tell what it does?  It has no more to tell. -/
  | verbose (yes : Bool)
deriving DecidableEq, Repr

namespace Setting

/-- The options that give the participants of a message and take a value. -/
def castValued : String → Option (String → Setting)
  | "--origin" => some origin
  | "--origin-gender" => some originGender
  | "--target" => some target
  | "--target-gender" => some targetGender
  | _ => none

/-- The options that give the participants of a message and take no value. -/
def castFlag : String → Option Setting
  | "--origin-npc" => some (originNpc true)
  | "--no-origin-npc" => some (originNpc false)
  | "--origin-self" => some (originSelf true)
  | "--no-origin-self" => some (originSelf false)
  | "--target-npc" => some (targetNpc true)
  | "--no-target-npc" => some (targetNpc false)
  | "--target-self" => some (targetSelf true)
  | "--no-target-self" => some (targetSelf false)
  | _ => none

/-- The option that gives the emote data. -/
def dataValued : String → Option (String → Setting)
  | "--data" => some data
  | _ => none

/-- The option that gives the language. -/
def languageValued : String → Option (String → Setting)
  | "--language" => some language
  | _ => none

/-- The options that every command but the version knows. -/
def commonFlag : String → Option Setting
  | "--verbose" => some (verbose true)
  | "--no-verbose" => some (verbose false)
  | _ => none

end Setting

/-- What is known of a command when all its words are read. -/
structure Wish where
  /-- The name of the origin, if it is given. -/
  origin : Option String := none
  /-- The letter of the origin's gender. -/
  originGender : String := Gender.male.letter
  /-- Is the origin no player character? -/
  originNpc : Bool := false
  /-- Is the origin the reader's own character? -/
  originSelf : Bool := false
  /-- The name of the target, if it is given. -/
  target : Option String := none
  /-- The letter of the target's gender. -/
  targetGender : String := Gender.male.letter
  /-- Is the target no player character? -/
  targetNpc : Bool := false
  /-- Is the target the reader's own character? -/
  targetSelf : Bool := false
  /-- The path of the emote data. -/
  data : String := "emotes.json"
  /-- The code of the language. -/
  language : String := Language.english.code

namespace Wish

/-- The wish with one more setting, which prevails over those before. -/
def set (w : Wish) : Setting → Wish
  | .origin name => { w with origin := some name }
  | .originGender letter => { w with originGender := letter }
  | .originNpc yes => { w with originNpc := yes }
  | .originSelf yes => { w with originSelf := yes }
  | .target name => { w with target := some name }
  | .targetGender letter => { w with targetGender := letter }
  | .targetNpc yes => { w with targetNpc := yes }
  | .targetSelf yes => { w with targetSelf := yes }
  | .data path => { w with data := path }
  | .language code => { w with language := code }
  | .verbose _ => w

/-- The wish that settings give together. -/
def ofSettings (settings : List Setting) : Wish := settings.foldl set {}

end Wish

/-- Who takes part in a message. -/
structure Cast where
  /-- Who acts. -/
  origin : Character
  /-- At whom the action is aimed. -/
  target : Option Character
deriving DecidableEq, Repr

/-- The participants that are wished for. -/
def Wish.cast? (w : Wish) : Option Cast := do
  let name ← w.origin
  let originGender ← Gender.ofLetter? w.originGender
  let targetGender ← Gender.ofLetter? w.targetGender
  let target := w.target.bind fun name =>
    if name = "" then none else some ⟨name, targetGender, !w.targetNpc, w.targetSelf⟩
  return ⟨⟨name, originGender, !w.originNpc, w.originSelf⟩, target⟩

/-- Where the emote data is; no path holds a null character. -/
def Wish.path? (w : Wish) : Option Path :=
  let p := Path.ofString w.data
  if p.holdsNull then none else some p

/-- What the program is asked to do. -/
inductive Command where
  /-- Show a markup. -/
  | render (markup : String) (cast : Cast)
  /-- Show the message of an emote. -/
  | emote (command : String) (cast : Cast) (data : Path) (language : Language)
  /-- Check emote data. -/
  | check (data : Path)
  /-- Tell the version. -/
  | version
deriving DecidableEq, Repr

namespace Command

/-- The options of rendering a markup. -/
def renderOptions : Options Setting where
  valued := Setting.castValued
  flag name := Setting.castFlag name <|> Setting.commonFlag name

/-- The options of rendering an emote. -/
def emoteOptions : Options Setting where
  valued name :=
    Setting.castValued name <|> Setting.dataValued name <|> Setting.languageValued name
  flag name := Setting.castFlag name <|> Setting.commonFlag name

/-- The options of a check. -/
def checkOptions : Options Setting where
  valued := Setting.dataValued
  flag := Setting.commonFlag

/-- The version has no options. -/
def versionOptions : Options Setting where
  valued _ := none
  flag _ := none

/-- The command of a given name with the words behind it. -/
def ofWords? (name : String) (words : List String) : Option Command := do
  match name with
  | "render" =>
      let w ← Words.read renderOptions words
      let [markup] := w.plain | none
      let cast ← (Wish.ofSettings w.settings).cast?
      return .render markup cast
  | "emote" =>
      let w ← Words.read emoteOptions words
      let [command] := w.plain | none
      let wish := Wish.ofSettings w.settings
      let cast ← wish.cast?
      let data ← wish.path?
      let language ← Language.ofCode? wish.language
      return .emote command cast data language
  | "check" =>
      let w ← Words.read checkOptions words
      let [] := w.plain | none
      let data ← (Wish.ofSettings w.settings).path?
      return .check data
  | "version" =>
      let w ← Words.read versionOptions words
      let [] := w.plain | none
      return .version
  | _ => none

/-- The command that a command line gives; nothing if it gives none. -/
def parse? : List String → Option Command
  | [] => none
  | "--" :: name :: words => ofWords? name words
  | name :: words => ofWords? name words

/-- The version needs no options. -/
theorem parse?_version : parse? ["version"] = some .version := by decide

end Command

end LogMarkup
