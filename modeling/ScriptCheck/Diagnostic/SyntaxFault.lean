import ScriptCheck.Text.Quoted

/-!
# Syntax faults

What can be wrong with a list of tokens that forms no program.
-/

namespace ScriptCheck

/-- The faults found while tokens are put together to a program. -/
inductive SyntaxFault where
  | unexpectedToken (token : String)
  | expectedToken (expected received : String)
  | invalidNumber (token : String)
  | invalidAssignmentTarget
  | duplicateTemplateMember (template member : String)
  deriving DecidableEq, Repr

namespace SyntaxFault

def name : SyntaxFault → String
  | unexpectedToken .. => "UnexpectedToken"
  | expectedToken .. => "ExpectedToken"
  | invalidNumber .. => "NumberParseError"
  | invalidAssignmentTarget => "InvalidAssignmentTarget"
  | duplicateTemplateMember .. => "DuplicateTemplateMember"

def message : SyntaxFault → String
  | unexpectedToken token => "unexpected token: " ++ Text.quoted token
  | expectedToken expected received => "expected " ++ expected ++ ", got " ++ Text.quoted received
  | invalidNumber token => "error parsing number: " ++ Text.quoted token
  | invalidAssignmentTarget => "Invalid left-hand side in assignment"
  | duplicateTemplateMember template member =>
    "Duplicate member `" ++ member ++ "` in template `" ++ template ++ "`"

def tip? : SyntaxFault → Option String
  | unexpectedToken token =>
    some ("Unexpected token: `" ++ token ++ "`, did you miss a semicolon?")
  | expectedToken expected _ => some ("Insert `" ++ expected ++ "` here")
  | invalidNumber token =>
    some ("Invalid number: `" ++ token ++ "`, is it above the integer limit?")
  | invalidAssignmentTarget =>
    some "Only variables, index expressions and members can be assigned to"
  | duplicateTemplateMember .. => none

end SyntaxFault

end ScriptCheck
