import ScriptCheck.Grammar.ExprForm

/-!
# The grammar of statements

Each form of statement is a parser of its own, and takes the parsers for the expressions and
statements inside as an argument. A declaration gets its number when it is complete, so what is
declared inside of it has smaller numbers.
-/

namespace ScriptCheck.Parser

def expressionStmt (inside : Inside) : Parser Stmt := do
  let start ← position
  let expression ← inside.expr .lowest
  let _ ← expect .semicolon
  return .expression start expression

/-- A variable with its type and its first value. -/
def varDeclStmt (inside : Inside) : Parser Stmt := do
  let start ← position
  let declared ← parseType .lowest
  let name ← identifier
  let _ ← expect .assignment
  let initializer ← inside.expr .lowest
  let _ ← expect .semicolon
  return .varDecl start (← freshId) name declared initializer

/-- A variable whose first value is an entity, which gives its type. -/
def entityDeclStmt (inside : Inside) : Parser Stmt := do
  let start ← position
  let _ ← expect .entityWord
  let name ← identifier
  let _ ← expect .assignment
  let template ← expectOr .identifier fun token =>
    .expectedToken "template identifier" token.value
  let initializer ← entityLiteral inside template.value
  let _ ← expect .semicolon
  return .varDecl start (← freshId) name (.named template.value) initializer

def blockStmt (inside : Inside) : Parser Stmt :=
  return .block (← block inside)

def condition (inside : Inside) : Parser Expr := do
  let _ ← expect .openParen
  let expr ← inside.expr .lowest
  let _ ← expect .closeParen
  return expr

def elseBlock (inside : Inside) : Parser (Option Block) := do
  if (← kind) = .elseWord then
    let _ ← advance
    return some (← block inside)
  else
    return none

def ifStmt (inside : Inside) : Parser Stmt := do
  let start ← position
  let _ ← expect .ifWord
  let decision ← condition inside
  let thenBlock ← block inside
  let otherwise ← elseBlock inside
  return .ifElse start decision thenBlock otherwise

def whileStmt (inside : Inside) : Parser Stmt := do
  let start ← position
  let _ ← expect .whileWord
  let decision ← condition inside
  let body ← block inside
  return .whileLoop start decision body

/-- The step of a range, which is one where none is given. -/
def rangeStep (inside : Inside) : Parser Expr := do
  if (← kind) = .byWord then
    let _ ← advance
    inside.expr .lowest
  else
    return .integer 1

def rangeStmt (inside : Inside) : Parser Stmt := do
  let start ← position
  let _ ← expect .rangeWord
  let _ ← expect .openParen
  let name ← identifier
  let _ ← expect .inWord
  let first ← inside.expr .lowest
  let _ ← expect .toWord
  let last ← inside.expr .lowest
  let step ← rangeStep inside
  let _ ← expect .closeParen
  let body ← block inside
  return .range start name first last step body

def eachStmt (inside : Inside) : Parser Stmt := do
  let start ← position
  let _ ← expect .eachWord
  let _ ← expect .openParen
  let name ← identifier
  let _ ← expect .inWord
  let iterable ← inside.expr .lowest
  let _ ← expect .closeParen
  let body ← block inside
  return .each start name iterable body

def haltStmt : Parser Stmt := do
  let start ← position
  let _ ← expect .haltWord
  let _ ← expect .semicolon
  return .halt start

/-- The statement that goes on with the next round of a loop. -/
def skipStmt : Parser Stmt := do
  let start ← position
  let _ ← expect .skipWord
  let _ ← expect .semicolon
  return .skip start

/-- The value that a function returns, where there is one. -/
def returnedValue (inside : Inside) : Parser (Option Expr) := do
  if (← kind) = .semicolon then return none else return some (← inside.expr .lowest)

def returnStmt (inside : Inside) : Parser Stmt := do
  let start ← position
  let _ ← expect .returnWord
  let value ← returnedValue inside
  let _ ← expect .semicolon
  return .returning start value

def fnDecl (inside : Inside) : Parser FnDecl := do
  let start ← position
  let _ ← expect .funcWord
  let name ← identifier
  let _ ← expect .returnArrow
  let result ← withTypes resultType
  let _ ← expect .assignment
  let params ← withTypes parameters
  let _ ← expect .arrow
  let body ← block inside
  return { position := start, id := ← freshId, name, signature := { result, params }, body }

/-- A statement that starts with `func`. The next token tells a variable of a function type and a
function without a name from the declaration of a function. -/
def functionStmt (inside : Inside) : Parser Stmt := do
  match ((← get).peek 1).kind with
  | .less => varDeclStmt inside
  | .openBracket => expressionStmt inside
  | _ => return .fnDecl (← fnDecl inside)

def echoStmt (inside : Inside) : Parser Stmt := do
  let start ← position
  let _ ← expect .echoWord
  let expression ← inside.expr .lowest
  let _ ← expect .semicolon
  return .echo start expression

/-- The members of a template in the order in which they are read. -/
structure Members where
  attributes : List (String × Ty)
  methods : List FnDecl

def Members.count (members : Members) (name : String) : Nat :=
  (members.attributes.filter (·.1 == name)).length +
    (members.methods.filter (·.name == name)).length

/-- One more member: a method, or an attribute with its type. Returns its name too. -/
def member (inside : Inside) (members : Members) : Parser (String × Members) := do
  if (← kind) = .funcWord then
    let method ← fnDecl inside
    return (method.name, { members with methods := members.methods ++ [method] })
  else
    let type ← parseType .lowest
    let name ← identifier
    let _ ← expect .semicolon
    return (name, { members with attributes := members.attributes ++ [(name, type)] })

/-- One more member, whose name no other member of the template may have. -/
def freshMember (inside : Inside) (template : String) (members : Members) : Parser Members := do
  let start ← position
  let (name, members) ← member inside members
  if 1 < members.count name then failAt start (.duplicateTemplateMember template name)
  else return members

def templateStmt (inside : Inside) : Parser Stmt := do
  let start ← position
  let _ ← expect .templateWord
  let name ← identifier
  let _ ← expect .assignment
  let _ ← expect .openCurly
  let members ← repeatWhile (fun kind => kind != .closeCurly && kind != .eof)
    (freshMember inside name) { attributes := [], methods := [] }
  let _ ← expect .closeCurly
  let _ ← expect .semicolon
  return .templateDecl start name members.attributes members.methods

/-- Whether the coming tokens are the type of a declaration that a template name starts. -/
def startsDeclaration : Parser Bool := do
  let state ← get
  return state.current.kind = .identifier &&
    opensDeclaration 0 ((state.upcoming.drop 1).map (·.kind))

def stmtForm (inside : Inside) : Parser Stmt := do
  if ← startsDeclaration then varDeclStmt inside
  else
    match (← kind).stmtForm? with
    | none => expressionStmt inside
    | some .varDecl => varDeclStmt inside
    | some .entityDecl => entityDeclStmt inside
    | some .block => blockStmt inside
    | some .ifElse => ifStmt inside
    | some .whileLoop => whileStmt inside
    | some .range => rangeStmt inside
    | some .each => eachStmt inside
    | some .halt => haltStmt
    | some .skip => skipStmt
    | some .returning => returnStmt inside
    | some .function => functionStmt inside
    | some .echo => echoStmt inside
    | some .templateDecl => templateStmt inside

end ScriptCheck.Parser
