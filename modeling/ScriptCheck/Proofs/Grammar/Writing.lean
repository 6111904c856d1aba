import ScriptCheck.Grammar.Parse
import ScriptCheck.Token.Rule

/-!
# Programs in writing

A program is written as a list of pieces. Every piece stands for one token, and a float is left to
be spelled. What is written inside of an expression is put between parentheses wherever something
else could take hold of it: operands, callees, receivers, elements, arguments, targets of
assignments and conditions, and so is the expression of an expression statement.
-/

namespace ScriptCheck

/-- A token that is to be written. -/
inductive Piece where
  | word (kind : Kind) (value : String)
  | number (value : Number.Binary64)

namespace Piece

def kind : Piece → Kind
  | word kind _ => kind
  | number _ => .floatLiteral

/-- The token of a piece, with floats in the given spelling. -/
def token (spell : Number.Binary64 → String) : Piece → Token
  | word kind value => { kind, value, start := Position.unknown, stop := Position.unknown }
  | number value =>
    { kind := .floatLiteral, value := spell value, start := Position.unknown
      stop := Position.unknown }

/-- The float of a piece, if it is one. -/
def number? : Piece → Option Number.Binary64
  | word .. => none
  | number value => some value

end Piece

/-- The text of the tokens of a kind that is known by its only text. -/
def Kind.spelling (kind : Kind) : String :=
  let word := Kind.reservedWords.findSome? fun entry =>
    if entry.2 = kind then some entry.1 else none
  let operator := Rule.all.findSome? fun rule =>
    match rule with
    | .fixed text other => if other = kind then some text else none
    | _ => none
  (word.or operator).getD ""

example : Kind.spelling .returnWord = "return" := by decide +kernel

/-- A reserved word or an operator. -/
def mark (kind : Kind) : Piece :=
  .word kind kind.spelling

/-- A name. -/
def word (name : String) : Piece :=
  .word .identifier name

@[simp]
theorem kind_mark (kind : Kind) : (mark kind).kind = kind := rfl

@[simp]
theorem kind_word (name : String) : (word name).kind = .identifier := rfl

/-- Pieces between parentheses. -/
def wrapped (pieces : List Piece) : List Piece :=
  mark .openParen :: (pieces ++ [mark .closeParen])

/-- Items with commas between them. -/
def separated : List (List Piece) → List Piece
  | [] => []
  | first :: rest => first ++ rest.flatMap fun item => mark .comma :: item

/-- The kind of the token for a primitive type. -/
def Primitive.kind : Primitive → Kind
  | int => .intWord
  | float => .floatWord
  | bool => .boolWord
  | str => .strWord
  | null => .nullLiteral
  | void => .voidWord
  | infer => .inferWord

/-- The kind of the token for an operator between two operands. -/
def BinaryOp.kind : BinaryOp → Kind
  | add => .plus
  | subtract => .dash
  | multiply => .star
  | divide => .slash
  | equal => .equals
  | notEqual => .notEquals
  | less => .less
  | greater => .greater
  | lessEqual => .lessEquals
  | greaterEqual => .greaterEquals
  | and => .and
  | or => .or

/-- The kind of the token for an operator of one operand. -/
def UnaryOp.kind : UnaryOp → Kind
  | increment => .plusPlus
  | decrement => .minusMinus
  | not => .not
  | negate => .dash

mutual

/-- A type in writing, with the same words and marks as in the form in which it is shown. -/
def Ty.pieces : Ty → List Piece
  | .primitive primitive => [mark primitive.kind]
  | .array element => element.pieces ++ [mark .openBracket, mark .closeBracket]
  | .set element => element.pieces ++ [mark .openCurly, mark .closeCurly]
  | .map key value => value.pieces ++ mark .openCurly :: (key.pieces ++ [mark .closeCurly])
  | .function signature => signature.pieces
  | .named name => [word name]
  | .template template => [word template.name]
  termination_by structural type => type

def Signature.pieces : Signature → List Piece
  | ⟨result, params⟩ =>
    mark .funcWord :: mark .less :: (result.pieces ++ mark .comma :: mark .openBracket ::
      (separated (paramPieces params) ++ [mark .closeBracket, mark .greater]))
  termination_by structural signature => signature

/-- Parameters in writing: the type and then the name. -/
def paramPieces : List (String × Ty) → List (List Piece)
  | [] => []
  | (name, type) :: rest => (type.pieces ++ [word name]) :: paramPieces rest
  termination_by structural params => params

end

mutual

@[simp]
def Expr.pieces : Expr → List Piece
  | .integer value => [.word .integerLiteral (toString value)]
  | .float value => [.number value]
  | .string value => [.word .stringLiteral value]
  | .boolean value => [.word .booleanLiteral (toString value)]
  | .null => [mark .nullLiteral]
  | .array elements =>
    mark .openBracket :: (separated (wrappedPieces elements) ++ [mark .closeBracket])
  | .set elements => mark .openCurly :: (separated (wrappedPieces elements) ++ [mark .closeCurly])
  | .map pairs => mark .openCurly :: (separated (pairPieces pairs) ++ [mark .closeCurly])
  | .entity name attributes =>
    word name :: mark .openCurly :: (separated (attributePieces attributes) ++ [mark .closeCurly])
  | .function params body =>
    mark .funcWord :: mark .openBracket ::
      (separated (paramPieces params) ++ mark .closeBracket :: mark .arrow :: body.pieces)
  | .identifier name => [word name]
  | .unary operator .before operand => mark operator.kind :: wrapped operand.pieces
  | .unary operator .behind operand => wrapped operand.pieces ++ [mark operator.kind]
  | .binary operator left right =>
    wrapped left.pieces ++ mark operator.kind :: wrapped right.pieces
  | .assignment target value => wrapped target.pieces ++ mark .assignment :: value.pieces
  | .index base index =>
    wrapped base.pieces ++ mark .openBracket :: (index.pieces ++ [mark .closeBracket])
  | .call callee arguments =>
    wrapped callee.pieces ++
      mark .openParen :: (separated (wrappedPieces arguments) ++ [mark .closeParen])
  | .member object name => wrapped object.pieces ++ [mark .dot, word name]
  | .methodCall object name arguments =>
    wrapped object.pieces ++ mark .dot :: word name ::
      mark .openParen :: (separated (wrappedPieces arguments) ++ [mark .closeParen])
  termination_by structural expr => expr

def wrappedPieces : List Expr → List (List Piece)
  | [] => []
  | expr :: rest => wrapped expr.pieces :: wrappedPieces rest
  termination_by structural exprs => exprs

def pairPieces : List (Expr × Expr) → List (List Piece)
  | [] => []
  | (key, value) :: rest =>
    (wrapped key.pieces ++ mark .colon :: wrapped value.pieces) :: pairPieces rest
  termination_by structural pairs => pairs

def attributePieces : List (String × Expr) → List (List Piece)
  | [] => []
  | (name, value) :: rest => (word name :: mark .colon :: value.pieces) :: attributePieces rest
  termination_by structural attributes => attributes

@[simp]
def Stmt.pieces : Stmt → List Piece
  | .varDecl _ _ name declared initializer =>
    declared.pieces ++ word name :: mark .assignment :: (initializer.pieces ++ [mark .semicolon])
  | .expression _ expression => wrapped expression.pieces ++ [mark .semicolon]
  | .block content => content.pieces
  | .ifElse _ condition thenBlock elseBlock =>
    mark .ifWord :: (wrapped condition.pieces ++ (thenBlock.pieces ++ elsePieces elseBlock))
  | .whileLoop _ condition body => mark .whileWord :: (wrapped condition.pieces ++ body.pieces)
  | .range _ name first last step body =>
    mark .rangeWord :: mark .openParen :: word name :: mark .inWord ::
      (first.pieces ++ mark .toWord :: (last.pieces ++ mark .byWord ::
        (step.pieces ++ mark .closeParen :: body.pieces)))
  | .each _ name iterable body =>
    mark .eachWord :: mark .openParen :: word name :: mark .inWord ::
      (iterable.pieces ++ mark .closeParen :: body.pieces)
  | .halt _ => [mark .haltWord, mark .semicolon]
  | .skip _ => [mark .skipWord, mark .semicolon]
  | .returning _ value => mark .returnWord :: (returnedPieces value ++ [mark .semicolon])
  | .fnDecl declaration => declaration.pieces
  | .echo _ expression => mark .echoWord :: (expression.pieces ++ [mark .semicolon])
  | .templateDecl _ name attributes methods =>
    mark .templateWord :: word name :: mark .assignment :: mark .openCurly ::
      ((paramPieces attributes).flatMap (· ++ [mark .semicolon]) ++
        (methodPieces methods ++ [mark .closeCurly, mark .semicolon]))
  termination_by structural stmt => stmt

def elsePieces : Option Block → List Piece
  | none => []
  | some block => mark .elseWord :: block.pieces
  termination_by structural block => block

def returnedPieces : Option Expr → List Piece
  | none => []
  | some expr => expr.pieces
  termination_by structural value => value

def Block.pieces : Block → List Piece
  | ⟨_, body⟩ => mark .openCurly :: (bodyPieces body ++ [mark .closeCurly])
  termination_by structural block => block

def bodyPieces : List Stmt → List Piece
  | [] => []
  | stmt :: rest => stmt.pieces ++ bodyPieces rest
  termination_by structural body => body

def FnDecl.pieces : FnDecl → List Piece
  | ⟨_, _, name, signature, body⟩ =>
    mark .funcWord :: word name :: mark .returnArrow ::
      (signature.result.pieces ++ mark .assignment :: mark .openBracket ::
        (separated (paramPieces signature.params) ++
          mark .closeBracket :: mark .arrow :: body.pieces))
  termination_by structural declaration => declaration

def methodPieces : List FnDecl → List Piece
  | [] => []
  | method :: rest => method.pieces ++ methodPieces rest
  termination_by structural methods => methods

end

namespace Program

/-- The tokens of a program in writing, closed by an end token. -/
def tokens (program : Program) (spell : Number.Binary64 → String) : List Token :=
  (bodyPieces program.body).map (Piece.token spell) ++ [Token.eofAt Position.unknown]

/-- The floats in a program, in the order in which they are written. -/
def floats (program : Program) : List Number.Binary64 :=
  (bodyPieces program.body).filterMap Piece.number?

end Program

mutual

/-- The expression without the positions and numbers of the statements in it. -/
@[simp]
def Expr.erased : Expr → Expr
  | .array elements => .array (erasedExprs elements)
  | .set elements => .set (erasedExprs elements)
  | .map pairs => .map (erasedPairs pairs)
  | .entity name attributes => .entity name (erasedAttributes attributes)
  | .function params body => .function params body.erased
  | .unary operator fixity operand => .unary operator fixity operand.erased
  | .binary operator left right => .binary operator left.erased right.erased
  | .assignment target value => .assignment target.erased value.erased
  | .index base index => .index base.erased index.erased
  | .call callee arguments => .call callee.erased (erasedExprs arguments)
  | .member object name => .member object.erased name
  | .methodCall object name arguments => .methodCall object.erased name (erasedExprs arguments)
  | .integer value => .integer value
  | .float value => .float value
  | .string value => .string value
  | .boolean value => .boolean value
  | .null => .null
  | .identifier name => .identifier name
  termination_by structural expr => expr

def erasedExprs : List Expr → List Expr
  | [] => []
  | expr :: rest => expr.erased :: erasedExprs rest
  termination_by structural exprs => exprs

def erasedPairs : List (Expr × Expr) → List (Expr × Expr)
  | [] => []
  | (key, value) :: rest => (key.erased, value.erased) :: erasedPairs rest
  termination_by structural pairs => pairs

def erasedAttributes : List (String × Expr) → List (String × Expr)
  | [] => []
  | (name, value) :: rest => (name, value.erased) :: erasedAttributes rest
  termination_by structural attributes => attributes

/-- The statement without positions, and with zero for the numbers of declarations. -/
@[simp]
def Stmt.erased : Stmt → Stmt
  | .varDecl _ _ name declared initializer =>
    .varDecl Position.unknown 0 name declared initializer.erased
  | .expression _ expression => .expression Position.unknown expression.erased
  | .block content => .block content.erased
  | .ifElse _ condition thenBlock elseBlock =>
    .ifElse Position.unknown condition.erased thenBlock.erased (erasedElse elseBlock)
  | .whileLoop _ condition body => .whileLoop Position.unknown condition.erased body.erased
  | .range _ name first last step body =>
    .range Position.unknown name first.erased last.erased step.erased body.erased
  | .each _ name iterable body => .each Position.unknown name iterable.erased body.erased
  | .halt _ => .halt Position.unknown
  | .skip _ => .skip Position.unknown
  | .returning _ value => .returning Position.unknown (erasedReturned value)
  | .fnDecl declaration => .fnDecl declaration.erased
  | .echo _ expression => .echo Position.unknown expression.erased
  | .templateDecl _ name attributes methods =>
    .templateDecl Position.unknown name attributes (erasedMethods methods)
  termination_by structural stmt => stmt

def erasedElse : Option Block → Option Block
  | none => none
  | some block => some block.erased
  termination_by structural block => block

def erasedReturned : Option Expr → Option Expr
  | none => none
  | some expr => some expr.erased
  termination_by structural value => value

def Block.erased : Block → Block
  | ⟨_, body⟩ => ⟨Position.unknown, erasedBody body⟩
  termination_by structural block => block

def erasedBody : List Stmt → List Stmt
  | [] => []
  | stmt :: rest => stmt.erased :: erasedBody rest
  termination_by structural body => body

def FnDecl.erased : FnDecl → FnDecl
  | ⟨_, _, name, signature, body⟩ => ⟨Position.unknown, 0, name, signature, body.erased⟩
  termination_by structural declaration => declaration

def erasedMethods : List FnDecl → List FnDecl
  | [] => []
  | method :: rest => method.erased :: erasedMethods rest
  termination_by structural methods => methods

end

def Program.erased (program : Program) : Program :=
  { body := erasedBody program.body }

end ScriptCheck
