import ScriptCheck.Grammar.Parse
import ScriptCheck.Token.Stream
import ScriptCheck.Typing.Check

/-!
# Checking source texts

The way of a source text through all phases: tokens, syntax tree, types. The first fault of the
first phase that finds one is the answer.
-/

namespace ScriptCheck

/-- The name of a text that comes from no file. -/
def unnamedFile : String := "shell"

/-- The program that a list of tokens forms. -/
def Program.ofTokens (tokens : List Token) (file : String) : Except Diagnostic Program :=
  match Parser.parse tokens file with
  | .ok program _ => .ok program
  | .error diagnostic _ => .error diagnostic

/-- The program in a source text, with what its check finds out. -/
def checkSource (source : String) (file : String) : Except Diagnostic (Program × Analysis) := do
  let tokens ← tokenize source file
  let program ← Program.ofTokens tokens file
  let analysis ← program.check
  return (program, analysis)

end ScriptCheck
