import ScriptCheck.Program
import ScriptCheck.Token

/-!
# Forms and binding powers

The grammar as data: which form of expression, statement or type a token of each kind starts, and
which form it continues and how tightly. Operators of one power group from the left, since a right
operand takes only what binds tighter than its operator.
-/

namespace ScriptCheck

/-- How tightly a form binds, from the loosest to the tightest. -/
inductive Power where
  | lowest
  | comma
  | assignment
  | logicalOr
  | logicalAnd
  | equality
  | relational
  | additive
  | multiplicative
  | unary
  | call
  | member
  | primary
  deriving DecidableEq, Repr, Inhabited

/-- The place of a power in the order from the loosest to the tightest. -/
def Power.rank : Power → Nat
  | lowest => 0
  | comma => 1
  | assignment => 2
  | logicalOr => 3
  | logicalAnd => 4
  | equality => 5
  | relational => 6
  | additive => 7
  | multiplicative => 8
  | unary => 9
  | call => 10
  | member => 11
  | primary => 12

inductive ExprStart where
  | literal
  | identifier
  | leadingOperator
  | grouping
  | array
  | setOrMap
  | function
  deriving DecidableEq, Repr

inductive ExprTail where
  | assignment
  | binary
  | trailingOperator
  | call
  | index
  | member
  deriving DecidableEq, Repr

/-- The forms of statements that are known by their first token. -/
inductive StmtForm where
  | varDecl
  | entityDecl
  | block
  | ifElse
  | whileLoop
  | range
  | each
  | halt
  | skip
  | returning
  | function
  | echo
  | templateDecl
  deriving DecidableEq, Repr

inductive TypeStart where
  | primitive
  | named
  | function
  deriving DecidableEq, Repr

inductive TypeTail where
  | array
  | setOrMap
  deriving DecidableEq, Repr

namespace Kind

/-- The form of expression that a token of the given kind starts. -/
def exprStart? : Kind → Option ExprStart
  | integerLiteral | floatLiteral | stringLiteral | booleanLiteral | nullLiteral => some .literal
  | identifier => some .identifier
  | dash | not | plusPlus | minusMinus => some .leadingOperator
  | openParen => some .grouping
  | openBracket => some .array
  | openCurly => some .setOrMap
  | funcWord => some .function
  | _ => none

/-- The form that a token of the given kind continues an expression with, and its power. -/
def exprTail? : Kind → Option (ExprTail × Power)
  | assignment | plusEquals | minusEquals | starEquals | slashEquals =>
    some (.assignment, .assignment)
  | or => some (.binary, .logicalOr)
  | and => some (.binary, .logicalAnd)
  | equals | notEquals => some (.binary, .equality)
  | less | lessEquals | greater | greaterEquals => some (.binary, .relational)
  | plus | dash => some (.binary, .additive)
  | star | slash => some (.binary, .multiplicative)
  | plusPlus | minusMinus => some (.trailingOperator, .call)
  | openParen => some (.call, .call)
  | openBracket => some (.index, .call)
  | dot => some (.member, .member)
  | _ => none

/-- Whether a token of the given kind continues an expression that binds tighter than a power. -/
def continuesExpr (power : Power) (kind : Kind) : Bool :=
  kind.exprTail?.any fun tail => power.rank < tail.2.rank

/-- The form of statement that a token of the given kind starts. -/
def stmtForm? : Kind → Option StmtForm
  | intWord | floatWord | boolWord | strWord | inferWord => some .varDecl
  | entityWord => some .entityDecl
  | openCurly => some .block
  | ifWord => some .ifElse
  | whileWord => some .whileLoop
  | rangeWord => some .range
  | eachWord => some .each
  | haltWord => some .halt
  | skipWord => some .skip
  | returnWord => some .returning
  | funcWord => some .function
  | echoWord => some .echo
  | templateWord => some .templateDecl
  | _ => none

/-- The form of type that a token of the given kind starts. -/
def typeStart? : Kind → Option TypeStart
  | intWord | floatWord | boolWord | strWord | inferWord | nullLiteral => some .primitive
  | identifier => some .named
  | funcWord => some .function
  | _ => none

/-- The form that a token of the given kind continues a type with, and its power. -/
def typeTail? : Kind → Option (TypeTail × Power)
  | openBracket => some (.array, .call)
  | openCurly => some (.setOrMap, .call)
  | _ => none

/-- Whether a token of the given kind continues a type that binds tighter than a power. -/
def continuesType (power : Power) (kind : Kind) : Bool :=
  kind.typeTail?.any fun tail => power.rank < tail.2.rank

/-- The primitive type that a token of the given kind names. -/
def primitive? : Kind → Option Primitive
  | intWord => some .int
  | floatWord => some .float
  | boolWord => some .bool
  | strWord => some .str
  | inferWord => some .infer
  | nullLiteral => some .null
  | _ => none

/-- The operator that a token of the given kind stands for, alone or before an equals sign. -/
def binaryOp? : Kind → Option BinaryOp
  | plus | plusEquals => some .add
  | dash | minusEquals => some .subtract
  | star | starEquals => some .multiply
  | slash | slashEquals => some .divide
  | equals => some .equal
  | notEquals => some .notEqual
  | less => some .less
  | greater => some .greater
  | lessEquals => some .lessEqual
  | greaterEquals => some .greaterEqual
  | and => some .and
  | or => some .or
  | _ => none

/-- The operator that a token of the given kind stands for in front of an operand. -/
def leadingOp? : Kind → Option UnaryOp
  | plusPlus => some .increment
  | minusMinus => some .decrement
  | not => some .not
  | dash => some .negate
  | _ => none

/-- The operator that a token of the given kind stands for behind an operand. -/
def trailingOp? : Kind → Option UnaryOp
  | plusPlus => some .increment
  | minusMinus => some .decrement
  | _ => none

/-- Whether a token of the given kind may stand between the brackets of a key type where a
declaration is told apart from an expression. -/
def isKeyTypePart : Kind → Bool
  | intWord | floatWord | boolWord | strWord | identifier | openBracket | closeBracket => true
  | _ => false

end Kind

/-- Whether tokens behind an identifier make it the type of a declaration: suffixes of types, and
then the declared name. `depth` curly brackets are open, and between them only parts of key types
may stand, since anything else belongs to an entity. -/
def opensDeclaration : Nat → List Kind → Bool
  | _, [] => false
  | 0, .identifier :: _ => true
  | 0, .openBracket :: .closeBracket :: rest => opensDeclaration 0 rest
  | 0, .openCurly :: rest => opensDeclaration 1 rest
  | 0, _ :: _ => false
  | depth + 1, .openCurly :: rest => opensDeclaration (depth + 2) rest
  | depth + 1, .closeCurly :: rest => opensDeclaration depth rest
  | depth + 1, kind :: rest => kind.isKeyTypePart && opensDeclaration (depth + 1) rest

end ScriptCheck
