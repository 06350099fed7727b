import LogMarkup.CommandLine

/-!
# The program

The outermost layer: it reads the emote data that a command needs, runs the command
and writes what that gives.
-/

namespace LogMarkup

/-- The emote data at a path, read from the disk of the system.  What cannot be opened
is named by the system's error; a directory can be opened, but not read. -/
def readData (path : Path) : IO Data := do
  match ← (IO.FS.readFile path.text).toBaseIO with
  | .ok text => return .ok text
  | .error (.noFileOrDirectory ..) => return .error .notFound
  | .error (.inappropriateType (some _) ..) => return .error .notADirectory
  | .error (.inappropriateType none ..) => return .error .isADirectory
  | .error e => return .error (.other (toString e))

/-- The outcome is written, and the exit code is given back. -/
def writeOutcome : Except Breakdown Response → IO UInt32
  | .ok r => do
      IO.print r.output
      IO.eprint r.errors
      return UInt32.ofNat r.exitCode
  | .error b => do
      IO.eprintln b.report
      return 1

end LogMarkup

open LogMarkup in
/-- Runs the program on the words of its command line. -/
def main (words : List String) : IO UInt32 := do
  match Command.parse? words with
  | none => writeOutcome (.ok .misused)
  | some command =>
      let data ← match command.data? with
        | some path => readData path
        | none => pure (.error .notFound)
      writeOutcome (command.run data)
