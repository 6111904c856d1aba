/-!
# Name faults

What can be wrong with the names that a program declares and uses.
-/

namespace ScriptCheck

inductive NameFault where
  | variableRedeclared (name : String)
  | variableShadowed (name : String)
  | functionRedeclared (name : String)
  | templateRedeclared (name : String)
  | symbolAlreadyDefined (name : String)
  | variableNotDeclared (name : String)
  | functionNotDeclared (name : String)
  | templateNotFound (name : String)
  | typeNotDefined (name : String)
  | attributeNotDefined (attributeName template : String)
  deriving DecidableEq, Repr

namespace NameFault

def name : NameFault → String
  | variableRedeclared .. => "VariableRedeclared"
  | variableShadowed .. => "VariableShadowed"
  | functionRedeclared .. => "FunctionRedeclared"
  | templateRedeclared .. => "TemplateRedeclared"
  | symbolAlreadyDefined .. => "SymbolAlreadyDefined"
  | variableNotDeclared .. => "VariableNotDeclared"
  | functionNotDeclared .. => "FunctionNotDeclared"
  | templateNotFound .. => "TemplateNotFound"
  | typeNotDefined .. => "TypeNotDefined"
  | attributeNotDefined .. => "AttributeNotDefined"

def message : NameFault → String
  | variableRedeclared name => "Cannot redeclare variable \"" ++ name ++ "\""
  | variableShadowed name => "Cannot shadow existing variable \"" ++ name ++ "\""
  | functionRedeclared name => "Cannot redeclare function \"" ++ name ++ "\""
  | templateRedeclared name => "Cannot redeclare template \"" ++ name ++ "\""
  | symbolAlreadyDefined name =>
    "Symbol \"" ++ name ++ "\" already declared in the current scope"
  | variableNotDeclared name => "Variable `" ++ name ++ "` not declared"
  | functionNotDeclared name => "Function `" ++ name ++ "` not declared"
  | templateNotFound name => "Template `" ++ name ++ "` not found"
  | typeNotDefined name => "Type `" ++ name ++ "` is not defined"
  | attributeNotDefined attributeName template =>
    "Attribute `" ++ attributeName ++ "` not defined in template `" ++ template ++ "`"

def tip? : NameFault → Option String
  | variableShadowed name =>
    some ("`" ++ name ++ "` is declared in an enclosing scope, pick another name")
  | variableNotDeclared name =>
    some ("Declare `" ++ name ++ "` before use; functions cannot see outer variables")
  | _ => none

end NameFault

end ScriptCheck
