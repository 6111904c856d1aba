/-!
# Escapes in string literals

A backslash and one of a few characters stand for a character between the quotes of a string
literal. In front of any other character the backslash stands for itself.
-/

namespace ScriptCheck.Escape

/-- The character that a backslash and the given character stand for. -/
def decodeOne? : Char → Option Char
  | 'n' => some '\n'
  | 't' => some '\t'
  | 'r' => some '\r'
  | '0' => some '\x00'
  | '\\' => some '\\'
  | '"' => some '"'
  | '\'' => some '\''
  | _ => none

/-- The text that the characters between two quotes denote. -/
def decode : List Char → List Char
  | [] => []
  | '\\' :: char :: rest =>
    match decodeOne? char with
    | some decoded => decoded :: decode rest
    | none => '\\' :: char :: decode rest
  | char :: rest => char :: decode rest

end ScriptCheck.Escape
