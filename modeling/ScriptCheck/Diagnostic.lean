import ScriptCheck.Diagnostic.FlowFault
import ScriptCheck.Diagnostic.LexicalFault
import ScriptCheck.Diagnostic.NameFault
import ScriptCheck.Diagnostic.SyntaxFault
import ScriptCheck.Diagnostic.TypeFault
import ScriptCheck.Position

/-!
# Diagnostics

A diagnostic is a cause and a position. Causes are faults of five families, and the family is the
kind of the diagnostic. All wording is a function of the cause.
-/

namespace ScriptCheck

inductive Cause where
  | lexical (fault : LexicalFault)
  | grammar (fault : SyntaxFault)
  | naming (fault : NameFault)
  | typing (fault : TypeFault)
  | flow (fault : FlowFault)
  deriving DecidableEq, Repr

namespace Cause

/-- The kind of a cause, as it opens the one-line form of a diagnostic. -/
def kind : Cause → String
  | lexical _ => "lexical error"
  | grammar _ => "syntax error"
  | naming _ => "name error"
  | typing _ => "type error"
  | flow _ => "control flow error"

def name : Cause → String
  | lexical fault => fault.name
  | grammar fault => fault.name
  | naming fault => fault.name
  | typing fault => fault.name
  | flow fault => fault.name

def message : Cause → String
  | lexical fault => fault.message
  | grammar fault => fault.message
  | naming fault => fault.message
  | typing fault => fault.message
  | flow fault => fault.message

def tip? : Cause → Option String
  | lexical fault => fault.tip?
  | grammar fault => fault.tip?
  | naming fault => fault.tip?
  | typing fault => fault.tip?
  | flow fault => fault.tip?

end Cause

/-- A cause and the position that it is reported for. -/
structure Diagnostic where
  cause : Cause
  position : Position
  deriving DecidableEq, Repr

namespace Diagnostic

/-- A diagnostic on one line, without the name of the file. -/
def display (diagnostic : Diagnostic) : String :=
  diagnostic.cause.kind ++ ": " ++ diagnostic.cause.message ++
    " at line " ++ toString diagnostic.position.line ++
    ", column " ++ toString diagnostic.position.column

end Diagnostic

end ScriptCheck
