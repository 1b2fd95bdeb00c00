import ChatCommand.CommandLine.Answer
import ChatCommand.Pattern.Limits

/-!
# The program

Reads the files that the command line is about, and carries it out.
-/

namespace ChatCommand

/-- Reads a file. -/
def readText (path : String) : IO (Except FileProblem String) := do
  try
    return .ok (← IO.FS.readFile path)
  catch
    | .noFileOrDirectory .. => return .error .missing
    | error => return .error (.other (toString error))

end ChatCommand

open ChatCommand in
open scoped ChatCommand.Pattern.Limits in
/-- Carries out the command line. -/
def main (words : List String) : IO UInt32 := do
  let texts ← (CommandLine.paths words).mapM fun path => return (path, ← readText path)
  let files : Files := fun path => (texts.lookup path).getD (.error .missing)
  let outcome := CommandLine.run files words
  IO.print outcome.output
  IO.eprint outcome.errors
  return outcome.status.toUInt32
