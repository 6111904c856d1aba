import ScriptCheck.Text.Quoted

/-!
# Lexical faults

What can be wrong with a source text before it is divided into tokens.
-/

namespace ScriptCheck

/-- The faults found while a text is divided into tokens. -/
inductive LexicalFault where
  | unrecognisedToken (token : String)
  | unterminatedString
  | unterminatedComment
  deriving DecidableEq, Repr

namespace LexicalFault

def name : LexicalFault → String
  | unrecognisedToken .. => "UnrecognisedToken"
  | unterminatedString => "UnterminatedString"
  | unterminatedComment => "UnterminatedComment"

def message : LexicalFault → String
  | unrecognisedToken token => "unrecognised token: " ++ Text.quoted token
  | unterminatedString => "unterminated string literal"
  | unterminatedComment => "unterminated block comment"

def tip? : LexicalFault → Option String
  | unterminatedString => some "Close the string with a matching quote"
  | unrecognisedToken .. | unterminatedComment => none

end LexicalFault

end ScriptCheck
