import ScriptCheck.CommandLine

/-!
# The program

Reads the file that a command names, or the lines of a session, and writes what the command line
answers.
-/

namespace ScriptCheck.CommandLine

/-- The reason behind an error of the file system. -/
def ReadFailure.ofError : IO.Error → ReadFailure
  | .noFileOrDirectory .. => .missing
  | .inappropriateType none .. => .directory
  | .inappropriateType (some _) .. => .notDirectory
  | .permissionDenied .. => .denied
  | .invalidArgument _ _ "name too long" => .nameTooLong
  | .userError _ => .invalidText
  | error => .other (toString error)

def readContents (path : String) : IO (Except ReadFailure String) := do
  try
    return .ok (← IO.FS.readFile path)
  catch error =>
    return .error (ReadFailure.ofError error)

def writeOutcome (outcome : Outcome) : IO UInt32 := do
  IO.print outcome.output
  IO.eprint outcome.errors
  return UInt32.ofNat outcome.code

partial def converse (input output : IO.FS.Stream) : IO UInt32 := do
  output.putStr prompt
  output.flush
  let text ← input.getLine
  if text.isEmpty then return 0
  match Reply.ofLine text.toList with
  | .leave => return 0
  | .accepted => output.putStr (line "ok")
  | .refused errors => IO.eprint errors
  converse input output

def execute (command : Command) : IO UInt32 := do
  match command with
  | .check path | .ast path | .tokens path =>
    let contents ← readContents path
    writeOutcome (run command (fun _ => contents) "")
  | .session =>
    IO.print banner
    converse (← IO.getStdin) (← IO.getStdout)

end ScriptCheck.CommandLine

def main (arguments : List String) : IO UInt32 := do
  match ScriptCheck.CommandLine.Command.ofArguments? arguments with
  | some command => ScriptCheck.CommandLine.execute command
  | none =>
    IO.eprintln "Usage: [check FILE | ast FILE | tokens FILE | repl]"
    return 2
