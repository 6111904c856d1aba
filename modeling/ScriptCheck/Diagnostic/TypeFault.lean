/-!
# Type faults

What can be wrong with the types of a program. Types, operators and kinds of collections and
statements are held in the form in which they are shown.
-/

namespace ScriptCheck

inductive TypeFault where
  | variableTypeMismatch (name declared actual : String)
  | binaryTypeMismatch (left right : String)
  | assignmentTypeMismatch (target value : String)
  | returnTypeMismatch (expected actual : String)
  | returnTypeNotInferred (name : String)
  | argumentTypeMismatch (expected received : String)
  | attributeTypeMismatch (attributeName declared actual : String)
  | invalidOperand (operator operand : String)
  | invalidIncrementTarget (operator : String)
  | notAFunction (name : String)
  | calleeNotFunction (received : String)
  | functionArity (name : String) (expected received : Nat)
  | calleeArity (expected received : Nat)
  | methodArity (method : String) (expected received : Nat)
  | nonIntegerIndex (received : String)
  | indexingNonArray (received : String)
  | noMembers (received : String)
  | noMethods (received : String)
  | memberNotDefined (member received : String)
  | methodNotDefined (method received : String)
  | invalidElementType (collection expected received : String)
  | invalidKeyType (expected received : String)
  | invalidValueType (expected received : String)
  | unhashableElement (received : String)
  | unhashableKey (received : String)
  | notATemplate (name : String)
  | nonBooleanCondition (statement received : String)
  | nonIntegerRange
  | nonArrayIterable (received : String)
  deriving DecidableEq, Repr

namespace TypeFault

def name : TypeFault → String
  | variableTypeMismatch .. => "VariableTypeMismatch"
  | binaryTypeMismatch .. => "BinaryTypeMismatch"
  | assignmentTypeMismatch .. => "AssignmentTypeMismatch"
  | returnTypeMismatch .. => "ReturnTypeMismatch"
  | returnTypeNotInferred .. => "ReturnTypeNotInferred"
  | argumentTypeMismatch .. => "ArgumentTypeMismatch"
  | attributeTypeMismatch .. => "AttributeTypeMismatch"
  | invalidOperand .. => "InvalidOperand"
  | invalidIncrementTarget .. => "InvalidIncrementTarget"
  | notAFunction .. => "NotAFunction"
  | calleeNotFunction .. => "CalleeNotFunction"
  | functionArity .. => "FunctionArity"
  | calleeArity .. => "CalleeArity"
  | methodArity .. => "MethodArity"
  | nonIntegerIndex .. => "NonIntegerIndex"
  | indexingNonArray .. => "IndexingNonArray"
  | noMembers .. => "NoMembers"
  | noMethods .. => "NoMethods"
  | memberNotDefined .. => "MemberNotDefined"
  | methodNotDefined .. => "MethodNotDefined"
  | invalidElementType .. => "InvalidElementType"
  | invalidKeyType .. => "InvalidKeyType"
  | invalidValueType .. => "InvalidValueType"
  | unhashableElement .. => "UnhashableElement"
  | unhashableKey .. => "UnhashableKey"
  | notATemplate .. => "NotATemplate"
  | nonBooleanCondition .. => "NonBooleanCondition"
  | nonIntegerRange => "NonIntegerRange"
  | nonArrayIterable .. => "NonArrayIterable"

def mismatch (first second : String) : String :=
  "`" ++ first ++ "` != `" ++ second ++ "`"

/-- How many arguments were expected and how many were given. -/
def arity (expected received : Nat) : String :=
  "expects " ++ toString expected ++ " arguments, got " ++ toString received

def message : TypeFault → String
  | variableTypeMismatch name declared actual =>
    "Type mismatch for variable `" ++ name ++ "`: " ++ mismatch declared actual
  | binaryTypeMismatch left right =>
    "Type mismatch in binary expression: " ++ mismatch left right
  | assignmentTypeMismatch target value =>
    "Type mismatch in assignment expression: " ++ mismatch target value
  | returnTypeMismatch expected actual =>
    "Return type `" ++ actual ++ "` does not match function return type `" ++ expected ++ "`"
  | returnTypeNotInferred name => "Return type of `" ++ name ++ "` is not inferred yet"
  | argumentTypeMismatch expected received =>
    "Argument type `" ++ received ++ "` does not match parameter type `" ++ expected ++ "`"
  | attributeTypeMismatch attributeName declared actual =>
    "Type mismatch for attribute `" ++ attributeName ++ "`: " ++ mismatch declared actual
  | invalidOperand operator operand =>
    "Invalid operand type for " ++ operator ++ ": `" ++ operand ++ "`"
  | invalidIncrementTarget operator => "Invalid assignment target for " ++ operator
  | notAFunction name => "`" ++ name ++ "` is not a function"
  | calleeNotFunction received =>
    "Callee expression does not evaluate to a function type, got `" ++ received ++ "`"
  | functionArity name expected received =>
    "Function `" ++ name ++ "` " ++ arity expected received
  | calleeArity expected received => "Function " ++ arity expected received
  | methodArity method expected received =>
    "Method `" ++ method ++ "` " ++ arity expected received
  | nonIntegerIndex received => "Array index must be an integer, got `" ++ received ++ "`"
  | indexingNonArray received => "Indexing non-array type `" ++ received ++ "`"
  | noMembers received => "Type `" ++ received ++ "` does not have members"
  | noMethods received => "Type `" ++ received ++ "` does not have methods"
  | memberNotDefined member received =>
    "Member `" ++ member ++ "` is not defined on type `" ++ received ++ "`"
  | methodNotDefined method received =>
    "Method `" ++ method ++ "` is not defined on type `" ++ received ++ "`"
  | invalidElementType collection expected received =>
    "Invalid element type in " ++ collection ++ " literal: " ++ mismatch expected received
  | invalidKeyType expected received =>
    "Invalid key type in map literal: " ++ mismatch expected received
  | invalidValueType expected received =>
    "Invalid value type in map literal: " ++ mismatch expected received
  | unhashableElement received =>
    "Element type of set must be hashable, got `" ++ received ++ "`"
  | unhashableKey received => "Key type of map must be hashable, got `" ++ received ++ "`"
  | notATemplate name => "`" ++ name ++ "` is not a template"
  | nonBooleanCondition statement received =>
    "Condition of " ++ statement ++ " statement must be a boolean, got `" ++ received ++ "`"
  | nonIntegerRange => "Range boundaries and increment must be integers"
  | nonArrayIterable received =>
    "Each statement requires an array type for iteration, got `" ++ received ++ "`"

/-- The advice to give other arguments, for all three kinds of callees. -/
def arityTip (expected received : Nat) : String :=
  "Expected " ++ toString expected ++ " arguments, received " ++ toString received

def tip? : TypeFault → Option String
  | variableTypeMismatch _ declared actual =>
    some ("Expected type `" ++ declared ++ "`, received `" ++ actual ++ "`")
  | argumentTypeMismatch expected received =>
    some ("Expected argument type `" ++ expected ++ "`, received `" ++ received ++ "`")
  | attributeTypeMismatch _ declared actual =>
    some ("Expected attribute type `" ++ declared ++ "`, received `" ++ actual ++ "`")
  | binaryTypeMismatch .. => some "Both operands must have the same type"
  | functionArity _ expected received => some (arityTip expected received)
  | calleeArity expected received => some (arityTip expected received)
  | methodArity _ expected received => some (arityTip expected received)
  | unhashableElement .. | unhashableKey .. => some "Only primitives and sets are hashable"
  | returnTypeNotInferred name =>
    some ("Declare the return type of `" ++ name ++ "` or return a non-recursive value first")
  | _ => none

end TypeFault

end ScriptCheck
