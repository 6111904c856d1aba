import ScriptCheck.Diagnostic.TypeFault
import ScriptCheck.Program
import ScriptCheck.Ty.Agree
import ScriptCheck.Ty.Display
import ScriptCheck.Ty.Member

/-!
# Typing rules

The type of an expression from the types of its parts, form by form. A rule that does not apply
answers with the fault that it is reported as. The rules know nothing of scopes.
-/

namespace ScriptCheck

mutual

/-- Elements of sets and keys of maps have to be hashable, at every depth of a type. -/
def Ty.checkHashable : Ty → Except TypeFault Unit
  | .set element =>
    if element.isHashable then element.checkHashable
    else .error (.unhashableElement element.display)
  | .map key value =>
    if key.isHashable then do
      key.checkHashable
      value.checkHashable
    else .error (.unhashableKey key.display)
  | .array element => element.checkHashable
  | .function signature => signature.checkHashable
  | .primitive _ | .named _ | .template _ => .ok ()
  termination_by structural type => type

/-- Whether the types in a signature are hashable where they have to be: the result first, and
then the parameters. -/
def Signature.checkHashable : Signature → Except TypeFault Unit
  | ⟨result, params⟩ => do
    result.checkHashable
    checkHashableParams params
  termination_by structural signature => signature

/-- Whether the types of parameters are hashable where they have to be. -/
def checkHashableParams : List (String × Ty) → Except TypeFault Unit
  | [] => .ok ()
  | (_, type) :: rest => do
    type.checkHashable
    checkHashableParams rest
  termination_by structural params => params

end

namespace Rule

def agree (first second : Ty) (fault : TypeFault) : Except TypeFault Unit :=
  if first.agrees second then .ok () else .error fault

/-- Every element of an array or a set has the type of the first one. -/
def element (collection : String) (expected received : Ty) : Except TypeFault Unit :=
  agree received expected
    (.invalidElementType collection expected.display received.display)

/-- Every key of a map has the type of the first one. -/
def key (expected received : Ty) : Except TypeFault Unit :=
  agree received expected (.invalidKeyType expected.display received.display)

/-- Every value of a map has the type of the first one. -/
def value (expected received : Ty) : Except TypeFault Unit :=
  agree received expected (.invalidValueType expected.display received.display)

/-- The elements of a set are hashable, where there are any. -/
def hashableElement (empty : Bool) (type : Ty) : Except TypeFault Unit :=
  if empty || type.isHashable then .ok () else .error (.unhashableElement type.display)

def hashableKey (type : Ty) : Except TypeFault Unit :=
  if type.isHashable then .ok () else .error (.unhashableKey type.display)

/-- The value of an attribute has the type that the template declares. -/
def attributeValue (name : String) (declared actual : Ty) : Except TypeFault Unit :=
  agree actual declared (.attributeTypeMismatch name declared.display actual.display)

/-- An operator that changes its operand needs one that can be assigned to. -/
def stepOperand (operator : UnaryOp) (operand : Expr) : Except TypeFault Unit :=
  if operator.isStep && !operand.isAssignable then
    .error (.invalidIncrementTarget operator.symbol)
  else .ok ()

def takes (operator : UnaryOp) (operand : Ty) : Bool :=
  match operator with
  | .not => operand.agrees .bool
  | .negate | .increment | .decrement => operand.isNumeric

def unary (operator : UnaryOp) (operand : Ty) : Except TypeFault Ty :=
  if takes operator operand then .ok operand
  else .error (.invalidOperand operator.symbol operand.display)

/-- The type of an operator with two operands of agreeing types. -/
def binaryResult (operator : BinaryOp) (operand : Ty) : Except TypeFault Ty :=
  let invalid := TypeFault.invalidOperand operator.symbol operand.display
  if operator.isArithmetic then
    if operand.isNumeric || operand.agrees .str then .ok operand else .error invalid
  else if operator.isComparison then .ok .bool
  else if operand.agrees .bool then .ok .bool
  else .error invalid

/-- The type of an operator with its two operands. -/
def binary (operator : BinaryOp) (left right : Ty) : Except TypeFault Ty := do
  agree left right (.binaryTypeMismatch left.display right.display)
  binaryResult operator left

def assignment (target value : Ty) : Except TypeFault Ty := do
  agree target value (.assignmentTypeMismatch target.display value.display)
  return target

def index (base position : Ty) : Except TypeFault Ty := do
  agree position .int (.nonIntegerIndex position.display)
  match base with
  | .array element => .ok element
  | _ => .error (.indexingNonArray base.display)

/-- The type of a member that is not called. -/
def member (object : Ty) (name : String) : Except TypeFault Ty :=
  if object.hasMembers then
    match object.member? name with
    | some type => .ok type
    | none => .error (.memberNotDefined name object.display)
  else .error (.noMembers object.display)

/-- The signature of a called expression, which has as many parameters as there are arguments. -/
def callee (type : Ty) (count : Nat) : Except TypeFault Signature :=
  match type with
  | .function signature =>
    if signature.params.length = count then .ok signature
    else .error (.calleeArity signature.params.length count)
  | _ => .error (.calleeNotFunction type.display)

/-- The signature of a called function or method, which has as many parameters as there are
arguments, and whose result is known. -/
def called (name : String) (signature : Signature) (count : Nat) (arity : TypeFault) :
    Except TypeFault Signature :=
  if signature.params.length ≠ count then .error arity
  else if signature.result.isInfer then .error (.returnTypeNotInferred name)
  else .ok signature

/-- The signature of a called name, which is bound to the given type. -/
def namedCallee (name : String) (type : Ty) (count : Nat) : Except TypeFault Signature :=
  match type with
  | .function signature =>
    called name signature count (.functionArity name signature.params.length count)
  | _ => .error (.notAFunction name)

def method (object : Ty) (name : String) (count : Nat) : Except TypeFault Signature :=
  if object.hasMembers then
    match object.method? name with
    | some signature =>
      called name signature count (.methodArity name signature.params.length count)
    | none => .error (.methodNotDefined name object.display)
  else .error (.noMethods object.display)

def argument (expected received : Ty) : Except TypeFault Unit :=
  agree received expected (.argumentTypeMismatch expected.display received.display)

/-- The condition of a statement is a truth value. -/
def condition (statement : String) (type : Ty) : Except TypeFault Unit :=
  agree type .bool (.nonBooleanCondition statement type.display)

/-- The boundaries and the step of a range are integers. -/
def rangePart (type : Ty) : Except TypeFault Unit :=
  agree type .int .nonIntegerRange

/-- The type of the elements that a loop runs over. -/
def iterated (type : Ty) : Except TypeFault Ty :=
  match type with
  | .array element => .ok element
  | _ => .error (.nonArrayIterable type.display)

/-- The first value of a variable has the declared type. -/
def initializer (name : String) (declared actual : Ty) : Except TypeFault Unit :=
  agree declared actual (.variableTypeMismatch name declared.display actual.display)

/-- A returned value has the type of the result. -/
def returned (expected actual : Ty) : Except TypeFault Unit :=
  agree expected actual (.returnTypeMismatch expected.display actual.display)

end Rule

end ScriptCheck
