import ScriptCheck.Diagnostic
import ScriptCheck.Text.Blank
import ScriptCheck.Text.Lines

/-!
# Diagnostics with an excerpt of the source

A diagnostic in full: its name and advice, its sentence, its place, and the line of the source that
it points into, with a caret under the column. The line is shown without its indentation, and the
caret moves to the left by as much.
-/

namespace ScriptCheck.Diagnostic

def indents (char : Char) : Bool :=
  char = ' ' || char = '\t'

/-- A text with spaces in front of it to fill a width. -/
def alignRight (width : Nat) (text : List Char) : List Char :=
  List.replicate (width - text.length) ' ' ++ text

/-- The name of a diagnostic, with the advice in parentheses. -/
def headline (diagnostic : Diagnostic) : String :=
  match diagnostic.cause.tip? with
  | none => "Error: " ++ diagnostic.cause.name
  | some tip => "Error: " ++ diagnostic.cause.name ++ " (" ++ tip ++ ")"

/-- The column of the caret, counted from the first shown character, and at least one. -/
def caretColumn (column : Nat) (line : List Char) : Nat :=
  max 1 (column - (line.takeWhile indents).length)

/-- The line of the source at a position, with a caret under the column and a bar to the left. -/
def excerpt (position : Position) (source : List Char) : List String :=
  let number := (toString position.line).toList
  let bar := alignRight (number.length + 2) ['|']
  let line := Text.line source position.line
  let shown := Text.trimRight (line.dropWhile indents)
  let caret := List.replicate (caretColumn position.column line - 1) '-' ++ ['^']
  [String.ofList bar,
   String.ofList (number ++ [' ', '|', ' '] ++ shown),
   String.ofList (bar ++ ' ' :: caret)]

/-- The lines of a diagnostic against its source. Line zero belongs to no source. -/
def lines (diagnostic : Diagnostic) (source : String) : List String :=
  let position := diagnostic.position
  let heading :=
    [diagnostic.headline, "   " ++ diagnostic.cause.message, "-> " ++ position.display]
  if position.line = 0 then heading else heading ++ excerpt position source.toList

/-- The full text of a diagnostic, every line with its ending. -/
def render (diagnostic : Diagnostic) (source : String) : String :=
  String.join ((diagnostic.lines source).map (· ++ "\n"))

end ScriptCheck.Diagnostic
