import ScriptCheck.Number.Binary64
import ScriptCheck.Position
import ScriptCheck.Ty

/-!
# Programs

The syntax trees of expressions and statements. Statements carry the position of their first token,
and expressions carry none. Declarations of variables and functions carry a number of their own, so
that what is found out about them can be looked up.
-/

namespace ScriptCheck

inductive BinaryOp where
  | add
  | subtract
  | multiply
  | divide
  | equal
  | notEqual
  | less
  | greater
  | lessEqual
  | greaterEqual
  | and
  | or
  deriving DecidableEq, Repr, Inhabited

namespace BinaryOp

/-- Whether an operator computes a number or a text from two operands. -/
def isArithmetic : BinaryOp → Bool
  | add | subtract | multiply | divide => true
  | _ => false

def isComparison : BinaryOp → Bool
  | equal | notEqual | less | greater | lessEqual | greaterEqual => true
  | _ => false

def symbol : BinaryOp → String
  | add => "+"
  | subtract => "-"
  | multiply => "*"
  | divide => "/"
  | equal => "=="
  | notEqual => "!="
  | less => "<"
  | greater => ">"
  | lessEqual => "<="
  | greaterEqual => ">="
  | and => "&&"
  | or => "||"

end BinaryOp

inductive UnaryOp where
  | increment
  | decrement
  | not
  | negate
  deriving DecidableEq, Repr, Inhabited

namespace UnaryOp

def isStep : UnaryOp → Bool
  | increment | decrement => true
  | not | negate => false

def symbol : UnaryOp → String
  | increment => "++"
  | decrement => "--"
  | not => "!"
  | negate => "-"

end UnaryOp

/-- Whether an operator stands before or behind its operand. -/
inductive Fixity where
  | before
  | behind
  deriving DecidableEq, Repr, Inhabited

mutual

inductive Expr where
  | integer (value : Int)
  | float (value : Number.Binary64)
  | string (value : String)
  | boolean (value : Bool)
  | null
  | array (elements : List Expr)
  | set (elements : List Expr)
  | map (pairs : List (Expr × Expr))
  | entity (template : String) (attributes : List (String × Expr))
  | function (params : List (String × Ty)) (body : Block)
  | identifier (name : String)
  | unary (operator : UnaryOp) (fixity : Fixity) (operand : Expr)
  | binary (operator : BinaryOp) (left right : Expr)
  | assignment (target value : Expr)
  | index (base index : Expr)
  | call (callee : Expr) (arguments : List Expr)
  | member (object : Expr) (name : String)
  | methodCall (object : Expr) (method : String) (arguments : List Expr)

inductive Stmt where
  | varDecl (position : Position) (id : Nat) (name : String) (declared : Ty) (initializer : Expr)
  | expression (position : Position) (expression : Expr)
  | block (content : Block)
  | ifElse (position : Position) (condition : Expr) (thenBlock : Block) (elseBlock : Option Block)
  | whileLoop (position : Position) (condition : Expr) (body : Block)
  | range (position : Position) (name : String) (first last step : Expr) (body : Block)
  | each (position : Position) (name : String) (iterable : Expr) (body : Block)
  | halt (position : Position)
  | skip (position : Position)
  | returning (position : Position) (value : Option Expr)
  | fnDecl (declaration : FnDecl)
  | echo (position : Position) (expression : Expr)
  | templateDecl (position : Position) (name : String) (attributes : List (String × Ty))
      (methods : List FnDecl)

structure Block where
  position : Position
  body : List Stmt

structure FnDecl where
  position : Position
  id : Nat
  name : String
  signature : Signature
  body : Block

end

instance : Inhabited Expr := ⟨.null⟩

instance : Inhabited Stmt := ⟨.halt Position.unknown⟩

/-- A whole program. -/
structure Program where
  body : List Stmt

namespace Expr

/-- Whether an expression is a variable, or an element or a member of one at any depth. -/
def isAssignable : Expr → Bool
  | identifier _ => true
  | index base _ => base.isAssignable
  | member object _ => object.isAssignable
  | _ => false

/-- Whether an expression has the form of the left-hand side of an assignment. -/
def isAssignmentTarget : Expr → Bool
  | identifier _ | index .. | member .. => true
  | _ => false

end Expr

/-- The position of the first token of a statement. -/
def Stmt.position : Stmt → Position
  | varDecl position .. => position
  | expression position _ => position
  | block content => content.position
  | ifElse position .. => position
  | whileLoop position .. => position
  | range position .. => position
  | each position .. => position
  | halt position => position
  | skip position => position
  | returning position _ => position
  | fnDecl declaration => declaration.position
  | echo position _ => position
  | templateDecl position .. => position

end ScriptCheck
