import LogMarkup.Check
import LogMarkup.CommandLine.Command
import LogMarkup.Disk
import LogMarkup.Emote.Checked
import LogMarkup.Rendering
import LogMarkup.Styling.Table
import LogMarkup.Text.Plain

/-!
# The command line

A command is run on the emote data that it names.  What it shows goes to the standard
output; warnings and errors go to the standard error, all as plain text.  The exit code
is 0 for success, 1 for an error and 2 for a command line that gives no command.  An
error that no command expects ends the program before it gives anything.

Main results:

- `Command.run_render`: rendering needs no data.
-/

namespace LogMarkup

/-- What running the program gives. -/
structure Response where
  /-- The exit code. -/
  exitCode : Nat
  /-- What goes to the standard output. -/
  output : String
  /-- What goes to the standard error. -/
  errors : String
deriving DecidableEq, Repr

namespace Response

/-- Each of the texts as plain text in a line of its own. -/
def lines (texts : List String) : String := String.join (texts.map Plain.line)

/-- A text is shown, after warnings. -/
def shown (text : String) (warnings : List String) : Response :=
  ⟨0, lines [text], lines warnings⟩

/-- An error is reported. -/
def failed (report : String) : Response := ⟨1, "", lines [report]⟩

/-- The command line gives no command. -/
def misused : Response := ⟨2, "", lines ["Error: no such command, option or argument"]⟩

end Response

/-- Why the program ends before it gives anything. -/
inductive Breakdown where
  /-- An error that is no finding about the markup. -/
  | markup (error : MarkupError)
  /-- A text in a table cannot be shown. -/
  | styling (failure : Styling.Failure)
deriving DecidableEq, Repr

/-- The error in words. -/
def Breakdown.report : Breakdown → String
  | markup e => e.report
  | styling .unmatched => "Error: the styling tags in the table do not fit"
  | styling .unreadableColor => "Error: a color in the table cannot be read"
  | styling (.uncut _) => "Error: a text in the table cannot be cut"

/-- The report of an error of a given kind. -/
def errorReport (kind message : String) : String := "Error: " ++ kind ++ ": " ++ message

/-- Where emote data comes from, as far as that can be read. -/
abbrev Data := Except Disk.Failure String

/-- Why there are no emotes. -/
inductive DataError where
  /-- The data cannot be read. -/
  | unreadable (path : Path) (failure : Disk.Failure)
  /-- The data is not what is expected. -/
  | invalid (issues : List Json.Issue)

/-- A step into a JSON value in words. -/
def Json.Step.text : Json.Step → String
  | index i => toString i
  | field name => name

/-- An issue in words: the place, and what is wrong there. -/
def Json.Issue.text (i : Json.Issue) : String :=
  String.intercalate "." (i.path.map Json.Step.text) ++ " (" ++ i.fault.code ++ ")"

/-- An error in emote data in words. -/
def DataError.message : DataError → String
  | unreadable path failure =>
      "Cannot read emote data " ++ path.text ++ ": " ++ failure.text ++ ": " ++
        Quoted.ofString path.text
  | invalid issues =>
      "Invalid emote json: " ++ String.intercalate ", " (issues.map Json.Issue.text)

/-- The catalogue of the emotes in the data at a path. -/
def Catalogue.ofData (path : Path) (data : Data) : Except DataError Catalogue := do
  let text ← data.mapError (.unreadable path)
  let emotes ← (Emote.listOfText text).mapError .invalid
  return .ofEmotes emotes

namespace Response

/-- Emote data is reported to be unusable. -/
def ofDataError (e : DataError) : Response := failed (errorReport "RepositoryError" e.message)

/-- A message that cannot be shown is reported; a command without emote by its name. -/
def ofRenderError : RenderError → Except Breakdown Response
  | .lookup (.notFound command) => .ok (failed ("Error: unknown emote " ++ command))
  | .lookup e => .ok (failed (errorReport e.kind e.message))
  | .multipleSelves => .ok (failed (errorReport "MultipleSelves" Participants.refusal))
  | .markup e => if e.isFinding then .ok (failed e.report) else .error (.markup e)

/-- A message is shown, or it is reported why not. -/
def ofRendering : Except RenderError Rendering → Except Breakdown Response
  | .ok r => .ok (shown r.text r.warnings)
  | .error e => ofRenderError e

/-- The columns of the table that reports failed checks: what stands above each of them,
and what it tells of a check. -/
def columns : List (String × (Check → String)) :=
  [ ("Emote", fun c => c.labels.emote.getD ""),
    ("Language", fun c => (c.labels.language.map Language.code).getD ""),
    ("Targeted", fun c => if c.labels.targeted = some true then "True" else "False"),
    ("Error", fun c => (c.error.map fun e => e.kind ++ ": " ++ e.message).getD "") ]

/-- All checks are good, or the failed ones are reported in a table. -/
def ofBatch (b : Batch) : Except Breakdown Response :=
  let total := toString b.checks.length
  match b.aborted, b.failures with
  | some e, _ => .error (.markup e)
  | none, [] => .ok (shown ("All " ++ total ++ " messages reduced successfully") [])
  | none, failures => do
      (Styling.Table.check (columns.map fun p => (p.1, failures.map p.2))).mapError .styling
      let summary := toString failures.length ++ " of " ++ total ++ " messages failed"
      let rows := failures.map fun c => String.intercalate " " (columns.map fun p => p.2 c)
      return ⟨1, "", lines (summary :: rows)⟩

end Response

namespace Command

/-- The version of the program. -/
def versionText : String := "0.1.0"

/-- Where the emote data is that the command needs. -/
def data? : Command → Option Path
  | emote _ _ data _ | check data => some data
  | render _ _ | version => none

/-- What the command gives, on the emote data that it needs. -/
def run (data : Data) : Command → Except Breakdown Response
  | render markup cast => Response.ofRendering (Rendering.of markup cast.origin cast.target)
  | emote command cast path language =>
      match Catalogue.ofData path data with
      | .error e => .ok (.ofDataError e)
      | .ok k => Response.ofRendering (k.render command language.code cast.origin cast.target)
  | check path =>
      match Catalogue.ofData path data with
      | .error e => .ok (.ofDataError e)
      | .ok k => Response.ofBatch k.check
  | version => .ok (.shown versionText [])

/-- Rendering needs no data. -/
theorem run_render (data : Data) (markup : String) (cast : Cast) :
    (render markup cast).run data =
      Response.ofRendering (Rendering.of markup cast.origin cast.target) :=
  rfl

end Command

/-- What a command line gives, where `read` gives the text at a path. -/
def runCommandLine (read : Path → Data) (words : List String) : Except Breakdown Response :=
  match Command.parse? words with
  | none => .ok .misused
  | some command => command.run ((command.data?.map read).getD (.error .notFound))

end LogMarkup
