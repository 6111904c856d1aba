import ScriptCheck.Check
import ScriptCheck.Diagnostic.Excerpt
import ScriptCheck.Outline.Program

/-!
# The command line

What each command writes and how it ends, as a function of the file that it reads or of the lines
that it is given. Diagnostics go to the error stream with an excerpt of the source.
-/

namespace ScriptCheck.CommandLine

/-- The commands. Without a command, the session reads statements line by line. -/
inductive Command where
  | check (path : String)
  | ast (path : String)
  | tokens (path : String)
  | session
  deriving DecidableEq, Repr

def Command.ofArguments? : List String → Option Command
  | [] | ["repl"] => some .session
  | ["check", path] => some (.check path)
  | ["ast", path] => some (.ast path)
  | ["tokens", path] => some (.tokens path)
  | _ => none

inductive ReadFailure where
  | missing
  | directory
  | notDirectory
  | denied
  | nameTooLong
  | invalidText
  | other (text : String)
  deriving DecidableEq, Repr

/-- The text for the reason why a file cannot be read. -/
def ReadFailure.message : ReadFailure → String
  | missing => "No such file or directory (os error 2)"
  | directory => "Is a directory (os error 21)"
  | notDirectory => "Not a directory (os error 20)"
  | denied => "Permission denied (os error 13)"
  | nameTooLong => "File name too long (os error 36)"
  | invalidText => "stream did not contain valid UTF-8"
  | other text => text

/-- What a command wrote to the two streams, and the code that it ended with. -/
structure Outcome where
  code : Nat
  output : String
  errors : String
  deriving DecidableEq, Repr

/-- The outcome of a command that does what it should. -/
def Outcome.success (output : String) : Outcome :=
  { code := 0, output, errors := "" }

def Outcome.failure (errors : String) : Outcome :=
  { code := 1, output := "", errors }

def line (text : String) : String :=
  text ++ "\n"

/-- The parts of a path between slashes that name something. -/
def components (path : String) : List (List Char) :=
  (path.toList.splitOn '/').filter fun part => !part.isEmpty && part ≠ ['.']

/-- The name of the file at a path: the last part of the path, or the whole path where that part
names no file. -/
def fileName (path : String) : String :=
  match (components path).getLast? with
  | none | some ['.', '.'] => path
  | some name => String.ofList name

/-- The outcome of a command on a source text: a text to write, or a diagnostic. -/
def report (source : String) (result : Except Diagnostic String) : Outcome :=
  match result with
  | .ok text => .success text
  | .error diagnostic => .failure (diagnostic.render source)

/-- The outcome of a command on the contents of a file. -/
def onFile (path : String) (contents : Except ReadFailure String)
    (command : String → String → Except Diagnostic String) : Outcome :=
  match contents with
  | .error failure =>
    .failure (line ("Cannot open file '" ++ path ++ "': " ++ failure.message))
  | .ok source => report source (command source (fileName path))

def checkText (source file : String) : Except Diagnostic String := do
  let _ ← checkSource source file
  return line "ok"

/-- What is written for the outline of a source text, which is checked first. -/
def astText (source file : String) : Except Diagnostic String := do
  let (program, _) ← checkSource source file
  return line (Outline.ofProgram program).render

/-- What is written for the tokens of a source text. -/
def tokensText (source file : String) : Except Diagnostic String := do
  let tokens ← tokenize source file
  return String.join (tokens.map fun token => line token.display)

def banner : String := line "Cirrus REPL v0.1.0"

def prompt : String := "cirrus >> "

inductive Reply where
  | leave
  | accepted
  | refused (errors : String)
  deriving DecidableEq, Repr

/-- Answers a line: a blank line or the word `exit` ends the session, and any other line is checked
as a program of its own. -/
def Reply.ofLine (text : List Char) : Reply :=
  let source := String.ofList (Text.trim text)
  if source = "" || source = "exit" then .leave
  else
    match checkSource source unnamedFile with
    | .ok _ => .accepted
    | .error diagnostic => .refused (diagnostic.render source)

/-- The outcome of a session from the prompt for the next line on. -/
def session : List (List Char) → Outcome
  | [] => .success prompt
  | text :: rest =>
    match Reply.ofLine text with
    | .leave => .success prompt
    | .accepted =>
      let following := session rest
      { following with output := prompt ++ line "ok" ++ following.output }
    | .refused errors =>
      let following := session rest
      { following with
        output := prompt ++ following.output, errors := errors ++ following.errors }

/-- The outcome of a command. `read` gives the contents of a file, and `input` is what a session
reads. -/
def run (command : Command) (read : String → Except ReadFailure String) (input : String) :
    Outcome :=
  match command with
  | .check path => onFile path (read path) checkText
  | .ast path => onFile path (read path) astText
  | .tokens path => onFile path (read path) tokensText
  | .session =>
    let following := session (Text.lines input.toList)
    { following with output := banner ++ following.output }

end ScriptCheck.CommandLine
