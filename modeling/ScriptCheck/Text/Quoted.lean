import ScriptCheck.Text.ExtendingMark
import ScriptCheck.Text.Unprintable

/-!
# Quoted text

The form in which a diagnostic shows a text of unknown content: between double quotes, with every
character that would not be seen as itself written as an escape. A single quote needs none.
-/

namespace ScriptCheck.Text

/-- The escape of a character by its code point in lower-case hexadecimal digits. -/
def codePointEscape (char : Char) : List Char :=
  ['\\', 'u', '\x7b'] ++ Nat.toDigits 16 char.toNat ++ ['\x7d']

def escape (char : Char) : List Char :=
  match char with
  | '\x00' => ['\\', '0']
  | '\t' => ['\\', 't']
  | '\r' => ['\\', 'r']
  | '\n' => ['\\', 'n']
  | '\\' => ['\\', '\\']
  | '"' => ['\\', '"']
  | _ => if isExtendingMark char || isUnprintable char then codePointEscape char else [char]

def quoted (text : String) : String :=
  String.ofList ('"' :: text.toList.flatMap escape ++ ['"'])

end ScriptCheck.Text
