import ScriptCheck.Typing.Checker
import ScriptCheck.Typing.Return

/-!
# Checking programs

The types of expressions and the effects of statements. A check follows the syntax tree: it applies
the typing rules to the types of the parts, and reads and extends the scopes.

A function whose result is still to be found is looked at twice. Before its body is checked,
`searchStmts` looks for the type of the first returned value, so that the function can be called
while its own body is checked. The search declares the variables on the way to the return
statement, and passes over what it cannot type. Its effects are undone.
-/

namespace ScriptCheck

open Checker

def Expr.name? : Expr → Option String
  | .identifier name => some name
  | _ => none

def Expr.isBoolean (expr : Expr) (value : Bool) : Bool :=
  match expr with
  | .boolean other => other == value
  | _ => false

namespace Checker

/-- The signature of a function that is called by its name. Functions are found through all scopes,
unlike variables. -/
def calledByName (name : String) (count : Nat) : Checker Signature := do
  match ← lookup? .everywhere name with
  | none => fail (.naming (.functionNotDeclared name))
  | some type => follow (Rule.namedCallee name type count)

/-- The signature of what is called: a function found by its name, or the value of any other
expression. -/
def calleeSignature (name : Option String) (count : Nat) (value : Checker Ty) :
    Checker Signature :=
  match name with
  | some name => calledByName name count
  | none => do follow (Rule.callee (← value) count)

/-- The type that a template declares for an attribute. -/
def declaredAttribute (template : Template) (name : String) : Checker Ty :=
  match template.attribute? name with
  | some type => pure type
  | none => fail (.naming (.attributeNotDefined name template.name))

/-- A new variable may not be bound yet in the scopes of the same function. -/
def requireUnbound (name : String) : Checker Unit := do
  let stack ← scopes
  match stack.locate? .function name with
  | none => return
  | some (depth, _) =>
    if depth = stack.depth then fail (.naming (.variableRedeclared name))
    else fail (.naming (.variableShadowed name))

/-- The type of a variable: the declared one, or that of its first value where it is still to be
found. -/
def variableType (declared actual : Ty) : Checker Ty := do
  if declared.isInfer then return actual
  else
    validate declared
    resolve declared

/-- Binds a variable that is not bound yet in the scopes of the same function. -/
def declareVariable (id : Nat) (name : String) (declared actual : Ty) : Checker Unit := do
  requireUnbound name
  let type ← variableType declared actual
  follow (Rule.initializer name type actual)
  follow type.checkHashable
  define name type
  modifyAnalysis (·.addVariable id type)

/-- Gives a function the signature that its body determined, where it is another one. -/
def replaceFunction (name : String) (prepared resolved : Signature) : Checker Unit :=
  if resolved.agrees prepared then pure () else update name (.function resolved)

/-- Binds a name that a search comes by, where its type is known. A name that is bound already
keeps its type. -/
def defineFound (name : String) (type : Option Ty) : Checker Unit :=
  match type with
  | none => pure ()
  | some type => discard (attempt (define name type))

/-- The result that a return statement has to give. -/
def expectedResult : Checker Ty := do
  match (← scopes).signature? with
  | some signature => return signature.result
  | none => fail (.flow .returnOutsideFunction)

/-- Gives a result to the nearest function. A result that is still to be found is found here. -/
def giveResult (expected actual : Ty) : Checker Unit :=
  if expected.isInfer then modifyScopes (·.setResult actual)
  else follow (Rule.returned expected actual)

/-- Returns a value of the given type from the nearest function. -/
def returnType (expected actual : Ty) : Checker Unit := do
  giveResult expected actual
  modifyScopes (·.setUnreachable)

def leaveRound (outside : FlowFault) : Checker Unit := do
  require (← scopes).inLoop (.flow outside)
  modifyScopes (·.setUnreachable)

/-- Binds a template that no scope binds yet, with its methods as they are declared. -/
def declareTemplate (template : Template) : Checker Unit := do
  require (← lookup? .everywhere template.name).isNone
    (.naming (.templateRedeclared template.name))
  define template.name (.template template)
  template.attributes.forM fun (_, type) => do
    validate type
    follow type.checkHashable

/-- Gives a method of a template another signature, for everyone who looks the template up. -/
def updateMethod (template : Template) (index : Nat) (signature : Signature) :
    Checker Template := do
  let updated := template.setMethod index signature
  update template.name (.template updated)
  return updated

end Checker

/-- The signature of a method as a template declares it. -/
def FnDecl.asMethod (declaration : FnDecl) : String × Signature :=
  (declaration.name, declaration.signature)

mutual

/-- The type of an expression. A bare template name is replaced by the template. -/
def checkExpr (expr : Expr) : Checker Ty :=
  resolve =<< match expr with
    | .integer _ => pure .int
    | .float _ => pure .float
    | .string _ => pure .str
    | .boolean _ => pure .bool
    | .null => pure .null
    | .array elements => do
      let element ← checkElements "array" elements
      pure (.array element)
    | .set elements => do
      let element ← checkElements "set" elements
      follow (Rule.hashableElement elements.isEmpty element)
      pure (.set element)
    | .map pairs => checkMap pairs
    | .entity name attributes => do
      let template ← templateOr (.templateNotFound name) name
      checkAttributes template attributes
      pure (.template template)
    | .function params body => do
      let signature : Signature := { result := .infer, params }
      validateSignature signature
      let prepared ← inferResult signature none body.firstReturn? (searchBody body)
      let resolved ← inFunction prepared none (checkBody body)
      pure (.function resolved)
    | .identifier name => do
      match ← lookup? .function name with
      | some type => pure type
      | none => fail (.naming (.variableNotDeclared name))
    | .unary operator _ operand => do
      follow (Rule.stepOperand operator operand)
      let type ← checkExpr operand
      follow (Rule.unary operator type)
    | .binary operator left right => do
      let leftType ← checkExpr left
      let rightType ← checkExpr right
      follow (Rule.binary operator leftType rightType)
    | .assignment target value => do
      let targetType ← checkExpr target
      let valueType ← checkExpr value
      follow (Rule.assignment targetType valueType)
    | .index base index => do
      let baseType ← checkExpr base
      let indexType ← checkExpr index
      follow (Rule.index baseType indexType)
    | .call callee arguments => do
      let signature ← calleeSignature callee.name? arguments.length (checkExpr callee)
      checkArguments signature.params arguments
      pure signature.result
    | .member object name => do
      let type ← checkExpr object
      follow (Rule.member type name)
    | .methodCall object name arguments => do
      let type ← checkExpr object
      let signature ← follow (Rule.method type name arguments.length)
      checkArguments signature.params arguments
      pure signature.result
  termination_by structural expr

/-- The common type of the elements of an array or a set, and `void` where there are none. -/
def checkElements (collection : String) : List Expr → Checker Ty
  | [] => pure .void
  | first :: rest => do
    let expected ← checkExpr first
    checkRest collection expected rest
    return expected
  termination_by structural elements => elements

/-- All further elements of an array or a set have the expected type. -/
def checkRest (collection : String) (expected : Ty) : List Expr → Checker Unit
  | [] => pure ()
  | next :: rest => do
    let received ← checkExpr next
    follow (Rule.element collection expected received)
    checkRest collection expected rest
  termination_by structural elements => elements

/-- The type of a map, whose key and value types are `void` where there are none. -/
def checkMap : List (Expr × Expr) → Checker Ty
  | [] => pure (.map .void .void)
  | (first, second) :: rest => do
    let key ← checkExpr first
    let value ← checkExpr second
    follow (Rule.hashableKey key)
    checkPairs key value rest
    return .map key value
  termination_by structural pairs => pairs

/-- All further pairs of a map have the expected types. -/
def checkPairs (key value : Ty) : List (Expr × Expr) → Checker Unit
  | [] => pure ()
  | (first, second) :: rest => do
    let receivedKey ← checkExpr first
    follow (Rule.key key receivedKey)
    let receivedValue ← checkExpr second
    follow (Rule.value value receivedValue)
    checkPairs key value rest
  termination_by structural pairs => pairs

/-- The values of attributes have the types that the template declares. Attributes may be left
out. -/
def checkAttributes (template : Template) : List (String × Expr) → Checker Unit
  | [] => pure ()
  | (name, expr) :: rest => do
    let declared ← declaredAttribute template name
    let actual ← checkExpr expr
    follow (Rule.attributeValue name declared actual)
    checkAttributes template rest
  termination_by structural attributes => attributes

/-- The arguments of a call have the types of the parameters. -/
def checkArguments (params : List (String × Ty)) : List Expr → Checker Unit
  | [] => pure ()
  | next :: rest =>
    match params with
    | [] => pure ()
    | (_, expected) :: others => do
      let received ← checkExpr next
      follow (Rule.argument expected received)
      checkArguments others rest
  termination_by structural arguments => arguments

def checkStmt (stmt : Stmt) : Checker Unit :=
  match stmt with
  | .varDecl position id name declared initializer =>
    atStmt position do
      let actual ← checkExpr initializer
      declareVariable id name declared actual
  | .expression position expression => atStmt position do discard (checkExpr expression)
  | .block content =>
    atStmt content.position do discard (within .block (checkBody content))
  | .ifElse position condition thenBlock elseBlock =>
    atStmt position do
      let type ← checkExpr condition
      follow (Rule.condition "if" type)
      require (!(condition.isBoolean false && !thenBlock.body.isEmpty)) (.flow .unreachableIf)
      let first ← within .branch (checkBody thenBlock)
      require (!(condition.isBoolean true && elseBlock.isSome)) (.flow .unreachableElse)
      let goesOn ← checkElse elseBlock
      unless first.reachable || goesOn do modifyScopes (·.setUnreachable)
  | .whileLoop position condition body =>
    atStmt position do
      let type ← checkExpr condition
      follow (Rule.condition "while" type)
      discard (within .loop (checkBody body))
  | .range position name first last step body =>
    atStmt position do
      follow (Rule.rangePart (← checkExpr first))
      follow (Rule.rangePart (← checkExpr last))
      follow (Rule.rangePart (← checkExpr step))
      discard (within .loop do define name .int; checkBody body)
  | .each position name iterable body =>
    atStmt position do
      let element ← follow (Rule.iterated (← checkExpr iterable))
      discard (within .loop do define name element; checkBody body)
  | .halt position => atStmt position (leaveRound .haltOutsideLoop)
  | .skip position => atStmt position (leaveRound .skipOutsideLoop)
  | .returning position value =>
    atStmt position do
      let expected ← expectedResult
      let actual ← checkReturned value
      returnType expected actual
  | .fnDecl declaration => atStmt declaration.position (checkFnDecl declaration)
  | .echo position expression => atStmt position do discard (checkExpr expression)
  | .templateDecl position name attributes methods =>
    atStmt position do
      let template : Template := { name, attributes, methods := methods.map FnDecl.asMethod }
      declareTemplate template
      let prepared ← prepareMethods template 0 methods
      checkMethods prepared 0 methods
  termination_by structural stmt

/-- Whether the statement that comes after a choice can be reached through its block behind
`else`, or past it where there is none. -/
def checkElse : Option Block → Checker Bool
  | none => pure true
  | some block => do
    let scope ← within .branch (checkBody block)
    return scope.reachable
  termination_by structural block => block

/-- The type of a returned value, which is `void` where there is none. -/
def checkReturned : Option Expr → Checker Ty
  | none => pure .void
  | some expr => checkExpr expr
  termination_by structural value => value

/-- The effect of the statements of a block, in the current scope. -/
def checkBody : Block → Checker Unit
  | ⟨_, body⟩ => checkStmts body
  termination_by structural block => block

def checkStmts : List Stmt → Checker Unit
  | [] => pure ()
  | stmt :: rest => do
    checkStmt stmt
    checkStmts rest
  termination_by structural body => body

/-- The effect of the declaration of a function. The function is bound before its result is
searched for, and its body may call it. -/
def checkFnDecl : FnDecl → Checker Unit
  | ⟨_, id, name, signature, body⟩ => do
    require (!(← scopes).inner.binds name) (.naming (.functionRedeclared name))
    validateSignature signature
    follow signature.checkHashable
    define name (.function signature)
    let prepared ← inferResult signature none body.firstReturn? (searchBody body)
    update name (.function prepared)
    let resolved ← inFunction prepared none (checkBody body)
    replaceFunction name prepared resolved
    modifyAnalysis (·.addFunction id resolved)
  termination_by structural declaration => declaration

/-- Searches for the results of the methods of a template from an index on. -/
def prepareMethods (template : Template) (index : Nat) : List FnDecl → Checker Template
  | [] => pure template
  | ⟨_, _, _, signature, body⟩ :: rest => do
    validateSignature signature
    let prepared ←
      inferResult signature (some template) body.firstReturn? (searchBody body)
    let updated ← updateMethod template index prepared
    prepareMethods updated (index + 1) rest
  termination_by structural methods => methods

/-- Checks the bodies of the methods of a template from an index on. -/
def checkMethods (template : Template) (index : Nat) : List FnDecl → Checker Unit
  | [] => pure ()
  | ⟨_, id, _, signature, body⟩ :: rest => do
    let prepared := (template.methods[index]?.map (·.2)).getD signature
    let resolved ← inFunction prepared (some template) (checkBody body)
    let updated ← updateMethod template index resolved
    modifyAnalysis (·.addFunction id resolved)
    checkMethods updated (index + 1) rest
  termination_by structural methods => methods

/-- The type of the first returned value in a block. -/
def searchBody : Block → Checker (Option Ty)
  | ⟨_, body⟩ => searchStmts body
  termination_by structural block => block

/-- The type of the first returned value in a list of statements. -/
def searchStmts : List Stmt → Checker (Option Ty)
  | [] => pure none
  | stmt :: rest => do
    match ← searchStmt stmt with
    | some type => return some type
    | none => searchStmts rest
  termination_by structural body => body

/-- The type of the first returned value in a statement. -/
def searchStmt (stmt : Stmt) : Checker (Option Ty) := do
  moveTo stmt.position
  match stmt with
  | .returning _ value => do
    let type ← checkReturned value
    return some type
  | .varDecl _ _ name declared initializer => do
    let type ← attempt (if declared.isInfer then checkExpr initializer else resolve declared)
    defineFound name type
    return none
  | .fnDecl ⟨_, _, name, signature, body⟩ => do
    let prepared ← inferResult signature none body.firstReturn? (searchBody body)
    defineFound name (some (.function prepared))
    return none
  | .block content => searchBlock none (searchBody content)
  | .ifElse _ _ thenBlock elseBlock => do
    match ← searchBlock none (searchBody thenBlock) with
    | some type => return some type
    | none => searchElse elseBlock
  | .whileLoop _ _ body => searchBlock none (searchBody body)
  | .range _ name _ _ _ body => searchBlock (some (name, .int)) (searchBody body)
  | .each _ name iterable body => do
    let element ← follow (Rule.iterated (← checkExpr iterable))
    searchBlock (some (name, element)) (searchBody body)
  | .expression .. | .halt _ | .skip _ | .echo .. | .templateDecl .. => return none
  termination_by structural stmt

/-- The type of the first returned value in a block behind `else`. -/
def searchElse : Option Block → Checker (Option Ty)
  | none => pure none
  | some block => searchBlock none (searchBody block)
  termination_by structural block => block

end

/-- The signature of a function, or of a method of a template, before its body is checked. -/
def prepareSignature (signature : Signature) (template : Option Template) (body : Block) :
    Checker Signature :=
  inferResult signature template body.firstReturn? (searchBody body)

/-- Checks the body of a function, or of a method of a template, and returns the signature with the
result that the body determined. -/
def checkFunction (signature : Signature) (template : Option Template) (body : Block) :
    Checker Signature :=
  inFunction signature template (checkBody body)

/-- Checks a program and returns what it finds out. -/
def Program.check (program : Program) : Except Diagnostic Analysis :=
  match checkStmts program.body CheckState.initial with
  | .ok _ state => .ok state.analysis
  | .error diagnostic _ => .error diagnostic

end ScriptCheck
