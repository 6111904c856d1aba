import ScriptCheck.Grammar.TypeForm

/-!
# The grammar of expressions

Each form of expression is a parser of its own. A form with expressions or statements inside takes
the parsers for those as an argument, and passes a token before it reads anything inside. A form
that continues an expression takes the expression to its left.
-/

namespace ScriptCheck.Parser

/-- The parsers for what stands inside a form. -/
structure Inside where
  expr : Power → Parser Expr
  stmt : Parser Stmt

def block (inside : Inside) : Parser Block := do
  let start ← position
  let _ ← expect .openCurly
  let body ← collectWhile (fun kind => kind != .closeCurly && kind != .eof) inside.stmt
  let _ ← expect .closeCurly
  return { position := start, body }

/-- A numeral: its value, or a fault for a text that denotes no number of its kind. -/
def numeral (token : Token) (value : Option Expr) : Parser Expr :=
  match value with
  | some value => do
    let _ ← advance
    return value
  | none => failAt token.start (.invalidNumber token.value)

def literalExpr : Parser Expr := do
  let token ← current
  match token.kind with
  | .integerLiteral => numeral token ((Number.readInteger? token.value).map Expr.integer)
  | .floatLiteral => numeral token ((Number.Binary64.read? token.value).map Expr.float)
  | .stringLiteral =>
    let _ ← advance
    return .string token.value
  | .booleanLiteral =>
    let _ ← advance
    return .boolean (token.value == "true")
  | .nullLiteral =>
    let _ ← advance
    return .null
  | _ => unexpected

def optionalComma : Parser Unit := do
  if (← kind) = .comma then discard advance else return

/-- An attribute of an entity with its value. The comma behind it may be left out. -/
def attributeValue (inside : Inside) : Parser (String × Expr) := do
  let name ← identifier
  let _ ← expect .colon
  let value ← inside.expr .lowest
  optionalComma
  return (name, value)

/-- The attributes of an entity of the given template between curly brackets. -/
def entityLiteral (inside : Inside) (template : String) : Parser Expr := do
  let _ ← expect .openCurly
  let attributes ← collectWhile (· != .closeCurly) (attributeValue inside)
  let _ ← expect .closeCurly
  return .entity template attributes

/-- A variable, or an entity where a curly bracket follows the name. -/
def identifierExpr (inside : Inside) : Parser Expr := do
  let name ← identifier
  if (← kind) = .openCurly then entityLiteral inside name else return .identifier name

def leadingExpr (inside : Inside) : Parser Expr := do
  match (← kind).leadingOp? with
  | none => unexpected
  | some operator =>
    let _ ← advance
    let operand ← inside.expr .unary
    return .unary operator .before operand

def groupingExpr (inside : Inside) : Parser Expr := do
  let _ ← expect .openParen
  let expr ← inside.expr .lowest
  let _ ← expect .closeParen
  return expr

def arguments (inside : Inside) : Parser (List Expr) := do
  let _ ← expect .openParen
  let values ← itemsUntil .closeParen (inside.expr .lowest)
  let _ ← expect .closeParen
  return values

/-- An arrow and a function that is called with the given arguments, and after them with its own
where it has any. -/
def pipeStage (inside : Inside) (piped : List Expr) : Parser Expr := do
  let _ ← advance
  let callee ← identifier
  if (← kind) = .openParen then
    return .call (.identifier callee) (piped ++ (← arguments inside))
  else
    return .call (.identifier callee) piped

/-- An array. With arrows behind it, its elements are the first arguments of a call, and each call
is the first argument of the next one. -/
def arrayExpr (inside : Inside) : Parser Expr := do
  let _ ← expect .openBracket
  let elements ← itemsUntil .closeBracket (inside.expr .lowest)
  let _ ← expect .closeBracket
  if (← kind) = .arrow then
    let first ← pipeStage inside elements
    repeatWhile (· = .arrow) (fun call => pipeStage inside [call]) first
  else return .array elements

/-- A key and a value with a colon between them. -/
def keyValue (inside : Inside) : Parser (Expr × Expr) := do
  let key ← inside.expr .lowest
  let _ ← expect .colon
  let value ← inside.expr .lowest
  return (key, value)

/-- A set, or a map where a colon follows the first expression. -/
def setOrMapExpr (inside : Inside) : Parser Expr := do
  let _ ← expect .openCurly
  if (← kind) = .closeCurly then
    let _ ← advance
    return .set []
  else
    let first ← inside.expr .lowest
    if (← kind) = .colon then
      let _ ← advance
      let value ← inside.expr .lowest
      let pairs ← moreItems (keyValue inside)
      let _ ← expect .closeCurly
      return .map ((first, value) :: pairs)
    else
      let elements ← moreItems (inside.expr .lowest)
      let _ ← expect .closeCurly
      return .set (first :: elements)

def functionExpr (inside : Inside) : Parser Expr := do
  let _ ← expect .funcWord
  let params ← withTypes parameters
  let _ ← expect .arrow
  let body ← block inside
  return .function params body

def exprStart (inside : Inside) : Parser Expr := do
  match (← kind).exprStart? with
  | none => unexpected
  | some .literal => literalExpr
  | some .identifier => identifierExpr inside
  | some .leadingOperator => leadingExpr inside
  | some .grouping => groupingExpr inside
  | some .array => arrayExpr inside
  | some .setOrMap => setOrMapExpr inside
  | some .function => functionExpr inside

/-- An operator between two operands. The right one binds tighter than the given power. -/
def binaryExpr (inside : Inside) (left : Expr) (power : Power) : Parser Expr := do
  match (← kind).binaryOp? with
  | none => unexpected
  | some operator =>
    let _ ← advance
    let right ← inside.expr power
    return .binary operator left right

def trailingExpr (left : Expr) : Parser Expr := do
  match (← kind).trailingOp? with
  | none => unexpected
  | some operator =>
    let _ ← advance
    return .unary operator .behind left

/-- The value that a kind of assignment gives to its target. -/
def assignedValue (operator : Token) (target value : Expr) : Parser Expr :=
  if operator.kind = .assignment then return value
  else
    match operator.kind.binaryOp? with
    | some combined => return .binary combined target value
    | none => failAt operator.start (.unexpectedToken operator.value)

/-- An assignment. The value may be an assignment itself. -/
def assignmentExpr (inside : Inside) (left : Expr) : Parser Expr := do
  let operator ← advance
  if left.isAssignmentTarget then
    let right ← inside.expr .comma
    let value ← assignedValue operator left right
    return .assignment left value
  else failAt operator.start .invalidAssignmentTarget

def callExpr (inside : Inside) (left : Expr) : Parser Expr :=
  return .call left (← arguments inside)

def indexExpr (inside : Inside) (left : Expr) : Parser Expr := do
  let _ ← expect .openBracket
  let index ← inside.expr .lowest
  let _ ← expect .closeBracket
  return .index left index

/-- A member, or a call of a method where a parenthesis follows the name. -/
def memberExpr (inside : Inside) (left : Expr) : Parser Expr := do
  let _ ← expect .dot
  let name ← identifier
  if (← kind) = .openParen then
    return .methodCall left name (← arguments inside)
  else
    return .member left name

def exprTail (inside : Inside) (left : Expr) : Parser Expr := do
  match (← kind).exprTail? with
  | none => unexpected
  | some (.assignment, _) => assignmentExpr inside left
  | some (.binary, power) => binaryExpr inside left power
  | some (.trailingOperator, _) => trailingExpr left
  | some (.call, _) => callExpr inside left
  | some (.index, _) => indexExpr inside left
  | some (.member, _) => memberExpr inside left

/-- An expression with everything behind it that binds tighter than a power. -/
def exprForm (inside : Inside) (power : Power) : Parser Expr := do
  let left ← exprStart inside
  repeatWhile (Kind.continuesExpr power) (exprTail inside) left

end ScriptCheck.Parser
