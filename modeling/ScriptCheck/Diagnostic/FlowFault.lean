/-!
# Control flow faults

What can be wrong with the order in which the statements of a program run.
-/

namespace ScriptCheck

inductive FlowFault where
  | unreachableCode
  | unreachableElse
  | unreachableIf
  | haltOutsideLoop
  | skipOutsideLoop
  | returnOutsideFunction
  | globalScopeExit
  deriving DecidableEq, Repr

namespace FlowFault

def name : FlowFault → String
  | unreachableCode => "UnreachableCode"
  | unreachableElse => "UnreachableElse"
  | unreachableIf => "UnreachableIf"
  | haltOutsideLoop => "HaltOutsideLoop"
  | skipOutsideLoop => "SkipOutsideLoop"
  | returnOutsideFunction => "ReturnOutsideFunction"
  | globalScopeExit => "GlobalScopeExit"

def message : FlowFault → String
  | unreachableCode => "Unreachable code detected"
  | unreachableElse => "Unreachable else block detected"
  | unreachableIf => "Unreachable if block detected"
  | haltOutsideLoop => "Halt statement is not valid outside of a loop block"
  | skipOutsideLoop => "Skip statement is not valid outside of a loop block"
  | returnOutsideFunction => "Return statement is not valid outside of a function block"
  | globalScopeExit => "Cannot exit the global scope"

def tip? : FlowFault → Option String
  | unreachableCode => some "Remove the statements after return, halt or skip"
  | haltOutsideLoop | skipOutsideLoop => some "Loops do not extend into function bodies"
  | _ => none

end FlowFault

end ScriptCheck
