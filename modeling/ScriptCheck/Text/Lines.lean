/-!
# Lines of a text

A line ends with a newline, and a carriage return directly before that newline belongs to the
ending. A last line without an ending counts unless it is empty, and keeps a carriage return.
-/

namespace ScriptCheck.Text

def lines : List Char → List (List Char)
  | [] => []
  | '\n' :: rest => [] :: lines rest
  | '\r' :: '\n' :: rest => [] :: lines rest
  | char :: rest =>
    match lines rest with
    | [] => [[char]]
    | line :: others => (char :: line) :: others

/-- The line with the given number, counted from one. There is no line zero, which stands for the
first line, and a line past the end is empty. -/
def line (text : List Char) (number : Nat) : List Char :=
  (lines text)[number - 1]?.getD []

end ScriptCheck.Text
