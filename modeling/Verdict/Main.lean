import Std.Time.DateTime
import Verdict.Command

/-!
# The program

Reads the files that a command names, runs it, writes what it has to say and ends with its code.
-/

namespace Verdict

def FileError.ofIOError : IO.Error → FileError
  | .noFileOrDirectory .. => .missing
  | .permissionDenied .. => .denied
  | .inappropriateType .. => .directory
  | .userError _ => .notText
  | e => .other (toString e)

def readFile (path : String) : IO (Except FileError String) := do
  try return .ok (← IO.FS.readFile path)
  catch e => return .error (.ofIOError e)

/-- The time of a run, for the lines of its log. -/
def timeStamp : IO String := do
  let now := (← Std.Time.Timestamp.now).toNanosecondsSinceUnixEpoch.val
  return Timestamp.write ⟨now / 1000000000, (now % 1000000000).toNat⟩

end Verdict

open Verdict in
def main (arguments : List String) : IO UInt32 := do
  let contents ← (Command.paths arguments).mapM fun path => do return (path, ← readFile path)
  let files (path : String) := (contents.lookup path).getD (.error .missing)
  let outcome := Command.run files (← timeStamp) arguments
  IO.print outcome.output
  IO.eprint outcome.errors
  return outcome.exitCode.toUInt32
