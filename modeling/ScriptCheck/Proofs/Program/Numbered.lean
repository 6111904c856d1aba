import ScriptCheck.Program

/-!
# Numbered declarations

The declarations in a program that carry numbers: those of variables, and those of functions and
methods. They are listed in the order in which they are complete, with what is declared inside of a
declaration before the declaration itself, and they may stand at any depth, also in the bodies of
functions without a name.
-/

namespace ScriptCheck

/-- A declaration, known by its number. -/
inductive Numbered where
  | variable (id : Nat)
  | function (id : Nat)
  deriving DecidableEq, Repr

def Numbered.id : Numbered → Nat
  | .variable id | .function id => id

mutual

/-- The declarations in an expression. -/
def Expr.numbered : Expr → List Numbered
  | .array elements => numberedInExprs elements
  | .set elements => numberedInExprs elements
  | .map pairs => numberedInPairs pairs
  | .entity _ attributes => numberedInAttributes attributes
  | .function _ body => body.numbered
  | .unary _ _ operand => operand.numbered
  | .binary _ left right => left.numbered ++ right.numbered
  | .assignment target value => target.numbered ++ value.numbered
  | .index base index => base.numbered ++ index.numbered
  | .call callee arguments => callee.numbered ++ numberedInExprs arguments
  | .member object _ => object.numbered
  | .methodCall object _ arguments => object.numbered ++ numberedInExprs arguments
  | .integer _ | .float _ | .string _ | .boolean _ | .null | .identifier _ => []
  termination_by structural expr => expr

def numberedInExprs : List Expr → List Numbered
  | [] => []
  | expr :: rest => expr.numbered ++ numberedInExprs rest
  termination_by structural exprs => exprs

def numberedInPairs : List (Expr × Expr) → List Numbered
  | [] => []
  | (key, value) :: rest => key.numbered ++ value.numbered ++ numberedInPairs rest
  termination_by structural pairs => pairs

def numberedInAttributes : List (String × Expr) → List Numbered
  | [] => []
  | (_, value) :: rest => value.numbered ++ numberedInAttributes rest
  termination_by structural attributes => attributes

/-- The declarations in a statement, which may be a declaration itself. -/
def Stmt.numbered : Stmt → List Numbered
  | .varDecl _ id _ _ initializer => initializer.numbered ++ [.variable id]
  | .expression _ expression => expression.numbered
  | .block content => content.numbered
  | .ifElse _ condition thenBlock elseBlock =>
    condition.numbered ++ thenBlock.numbered ++ numberedInElse elseBlock
  | .whileLoop _ condition body => condition.numbered ++ body.numbered
  | .range _ _ first last step body =>
    first.numbered ++ last.numbered ++ step.numbered ++ body.numbered
  | .each _ _ iterable body => iterable.numbered ++ body.numbered
  | .returning _ value => numberedInReturned value
  | .fnDecl declaration => declaration.numbered
  | .echo _ expression => expression.numbered
  | .templateDecl _ _ _ methods => numberedInMethods methods
  | .halt _ | .skip _ => []
  termination_by structural stmt => stmt

def numberedInElse : Option Block → List Numbered
  | none => []
  | some block => block.numbered
  termination_by structural block => block

def numberedInReturned : Option Expr → List Numbered
  | none => []
  | some expr => expr.numbered
  termination_by structural value => value

def Block.numbered : Block → List Numbered
  | ⟨_, body⟩ => numberedInBody body
  termination_by structural block => block

def numberedInBody : List Stmt → List Numbered
  | [] => []
  | stmt :: rest => stmt.numbered ++ numberedInBody rest
  termination_by structural body => body

/-- The declarations in the body of a function, and the function itself. -/
def FnDecl.numbered : FnDecl → List Numbered
  | ⟨_, id, _, _, body⟩ => body.numbered ++ [.function id]
  termination_by structural declaration => declaration

def numberedInMethods : List FnDecl → List Numbered
  | [] => []
  | method :: rest => method.numbered ++ numberedInMethods rest
  termination_by structural methods => methods

end

section Lists

theorem numberedInExprs_eq (exprs : List Expr) :
    numberedInExprs exprs = exprs.flatMap Expr.numbered := by
  induction exprs with
  | nil => rfl
  | cons expr rest ih => rw [numberedInExprs, ih, List.flatMap_cons]

theorem numberedInPairs_eq (pairs : List (Expr × Expr)) :
    numberedInPairs pairs = pairs.flatMap fun pair => pair.1.numbered ++ pair.2.numbered := by
  induction pairs with
  | nil => rfl
  | cons pair rest ih => rw [numberedInPairs, ih, List.flatMap_cons]

theorem numberedInAttributes_eq (attributes : List (String × Expr)) :
    numberedInAttributes attributes = attributes.flatMap fun entry => entry.2.numbered := by
  induction attributes with
  | nil => rfl
  | cons entry rest ih => rw [numberedInAttributes, ih, List.flatMap_cons]

theorem numberedInBody_eq (body : List Stmt) :
    numberedInBody body = body.flatMap Stmt.numbered := by
  induction body with
  | nil => rfl
  | cons stmt rest ih => rw [numberedInBody, ih, List.flatMap_cons]

theorem numberedInMethods_eq (methods : List FnDecl) :
    numberedInMethods methods = methods.flatMap FnDecl.numbered := by
  induction methods with
  | nil => rfl
  | cons method rest ih => rw [numberedInMethods, ih, List.flatMap_cons]

theorem Block.numbered_eq (block : Block) :
    block.numbered = block.body.flatMap Stmt.numbered := by
  rcases block with ⟨position, body⟩
  rw [Block.numbered, numberedInBody_eq]

theorem FnDecl.numbered_eq (declaration : FnDecl) :
    declaration.numbered = declaration.body.numbered ++ [.function declaration.id] := by
  rcases declaration with ⟨position, id, name, signature, body⟩
  rw [FnDecl.numbered]

end Lists

/-- The declarations in a program. -/
def Program.numbered (program : Program) : List Numbered :=
  numberedInBody program.body

end ScriptCheck
