import ScriptCheck.Program

/-!
# Programs with other numbers

A program in which the numbers of all declarations are greater by the same amount. Nothing else in
it changes.
-/

namespace ScriptCheck

mutual

/-- The expression with greater numbers for the declarations in it. -/
def Expr.shifted (shift : Nat) : Expr → Expr
  | .array elements => .array (shiftedExprs shift elements)
  | .set elements => .set (shiftedExprs shift elements)
  | .map pairs => .map (shiftedPairs shift pairs)
  | .entity name attributes => .entity name (shiftedAttributes shift attributes)
  | .function params body => .function params (body.shifted shift)
  | .unary operator fixity operand => .unary operator fixity (operand.shifted shift)
  | .binary operator left right => .binary operator (left.shifted shift) (right.shifted shift)
  | .assignment target value => .assignment (target.shifted shift) (value.shifted shift)
  | .index base index => .index (base.shifted shift) (index.shifted shift)
  | .call callee arguments => .call (callee.shifted shift) (shiftedExprs shift arguments)
  | .member object name => .member (object.shifted shift) name
  | .methodCall object name arguments =>
    .methodCall (object.shifted shift) name (shiftedExprs shift arguments)
  | .integer value => .integer value
  | .float value => .float value
  | .string value => .string value
  | .boolean value => .boolean value
  | .null => .null
  | .identifier name => .identifier name
  termination_by structural expr => expr

def shiftedExprs (shift : Nat) : List Expr → List Expr
  | [] => []
  | expr :: rest => expr.shifted shift :: shiftedExprs shift rest
  termination_by structural exprs => exprs

def shiftedPairs (shift : Nat) : List (Expr × Expr) → List (Expr × Expr)
  | [] => []
  | (key, value) :: rest => (key.shifted shift, value.shifted shift) :: shiftedPairs shift rest
  termination_by structural pairs => pairs

def shiftedAttributes (shift : Nat) : List (String × Expr) → List (String × Expr)
  | [] => []
  | (name, value) :: rest => (name, value.shifted shift) :: shiftedAttributes shift rest
  termination_by structural attributes => attributes

/-- The statement with greater numbers for the declarations in it. -/
def Stmt.shifted (shift : Nat) : Stmt → Stmt
  | .varDecl position id name declared initializer =>
    .varDecl position (id + shift) name declared (initializer.shifted shift)
  | .expression position expression => .expression position (expression.shifted shift)
  | .block content => .block (content.shifted shift)
  | .ifElse position condition thenBlock elseBlock =>
    .ifElse position (condition.shifted shift) (thenBlock.shifted shift)
      (shiftedElse shift elseBlock)
  | .whileLoop position condition body =>
    .whileLoop position (condition.shifted shift) (body.shifted shift)
  | .range position name first last step body =>
    .range position name (first.shifted shift) (last.shifted shift) (step.shifted shift)
      (body.shifted shift)
  | .each position name iterable body =>
    .each position name (iterable.shifted shift) (body.shifted shift)
  | .halt position => .halt position
  | .skip position => .skip position
  | .returning position value => .returning position (shiftedReturned shift value)
  | .fnDecl declaration => .fnDecl (declaration.shifted shift)
  | .echo position expression => .echo position (expression.shifted shift)
  | .templateDecl position name attributes methods =>
    .templateDecl position name attributes (shiftedMethods shift methods)
  termination_by structural stmt => stmt

def shiftedElse (shift : Nat) : Option Block → Option Block
  | none => none
  | some block => some (block.shifted shift)
  termination_by structural block => block

def shiftedReturned (shift : Nat) : Option Expr → Option Expr
  | none => none
  | some expr => some (expr.shifted shift)
  termination_by structural value => value

def Block.shifted (shift : Nat) : Block → Block
  | ⟨position, body⟩ => ⟨position, shiftedBody shift body⟩
  termination_by structural block => block

def shiftedBody (shift : Nat) : List Stmt → List Stmt
  | [] => []
  | stmt :: rest => stmt.shifted shift :: shiftedBody shift rest
  termination_by structural body => body

def FnDecl.shifted (shift : Nat) : FnDecl → FnDecl
  | ⟨position, id, name, signature, body⟩ =>
    ⟨position, id + shift, name, signature, body.shifted shift⟩
  termination_by structural declaration => declaration

def shiftedMethods (shift : Nat) : List FnDecl → List FnDecl
  | [] => []
  | method :: rest => method.shifted shift :: shiftedMethods shift rest
  termination_by structural methods => methods

end

/-- The program with greater numbers for the declarations in it. -/
def Program.shifted (program : Program) (shift : Nat) : Program :=
  { body := shiftedBody shift program.body }

@[simp]
theorem Expr.isAssignmentTarget_shifted (shift : Nat) (expr : Expr) :
    (expr.shifted shift).isAssignmentTarget = expr.isAssignmentTarget := by
  cases expr <;> rfl

section Lists

variable (shift : Nat)

theorem shiftedExprs_eq (exprs : List Expr) :
    shiftedExprs shift exprs = exprs.map (Expr.shifted shift) := by
  induction exprs with
  | nil => rfl
  | cons expr rest ih => rw [shiftedExprs, ih, List.map_cons]

theorem shiftedPairs_eq (pairs : List (Expr × Expr)) :
    shiftedPairs shift pairs =
      pairs.map fun pair => (pair.1.shifted shift, pair.2.shifted shift) := by
  induction pairs with
  | nil => rfl
  | cons pair rest ih => rw [shiftedPairs, ih, List.map_cons]

theorem shiftedAttributes_eq (attributes : List (String × Expr)) :
    shiftedAttributes shift attributes =
      attributes.map fun entry => (entry.1, entry.2.shifted shift) := by
  induction attributes with
  | nil => rfl
  | cons entry rest ih => rw [shiftedAttributes, ih, List.map_cons]

theorem shiftedBody_eq (body : List Stmt) :
    shiftedBody shift body = body.map (Stmt.shifted shift) := by
  induction body with
  | nil => rfl
  | cons stmt rest ih => rw [shiftedBody, ih, List.map_cons]

theorem shiftedMethods_eq (methods : List FnDecl) :
    shiftedMethods shift methods = methods.map (FnDecl.shifted shift) := by
  induction methods with
  | nil => rfl
  | cons method rest ih => rw [shiftedMethods, ih, List.map_cons]

end Lists

mutual

theorem Expr.shifted_zero (expr : Expr) : expr.shifted 0 = expr := by
  cases expr with
  | array elements => rw [Expr.shifted, shiftedExprs_zero]
  | set elements => rw [Expr.shifted, shiftedExprs_zero]
  | map pairs => rw [Expr.shifted, shiftedPairs_zero]
  | entity name attributes => rw [Expr.shifted, shiftedAttributes_zero]
  | function params body => rw [Expr.shifted, Block.shifted_zero]
  | unary operator fixity operand => rw [Expr.shifted, Expr.shifted_zero operand]
  | binary operator left right =>
      rw [Expr.shifted, Expr.shifted_zero left, Expr.shifted_zero right]
  | assignment target value =>
      rw [Expr.shifted, Expr.shifted_zero target, Expr.shifted_zero value]
  | index base index => rw [Expr.shifted, Expr.shifted_zero base, Expr.shifted_zero index]
  | call callee arguments =>
      rw [Expr.shifted, Expr.shifted_zero callee, shiftedExprs_zero]
  | member object name => rw [Expr.shifted, Expr.shifted_zero object]
  | methodCall object name arguments =>
      rw [Expr.shifted, Expr.shifted_zero object, shiftedExprs_zero]
  | _ => rw [Expr.shifted]
  termination_by structural expr

theorem shiftedExprs_zero (exprs : List Expr) : shiftedExprs 0 exprs = exprs := by
  cases exprs with
  | nil => rfl
  | cons expr rest => rw [shiftedExprs, Expr.shifted_zero, shiftedExprs_zero]
  termination_by structural exprs

theorem shiftedPairs_zero (pairs : List (Expr × Expr)) : shiftedPairs 0 pairs = pairs := by
  cases pairs with
  | nil => rfl
  | cons pair rest =>
      rcases pair with ⟨key, value⟩
      rw [shiftedPairs, Expr.shifted_zero, Expr.shifted_zero, shiftedPairs_zero]
  termination_by structural pairs

theorem shiftedAttributes_zero (attributes : List (String × Expr)) :
    shiftedAttributes 0 attributes = attributes := by
  cases attributes with
  | nil => rfl
  | cons entry rest =>
      rcases entry with ⟨name, value⟩
      rw [shiftedAttributes, Expr.shifted_zero, shiftedAttributes_zero]
  termination_by structural attributes

theorem Stmt.shifted_zero (stmt : Stmt) : stmt.shifted 0 = stmt := by
  cases stmt with
  | varDecl position id name declared initializer =>
      rw [Stmt.shifted, Expr.shifted_zero, Nat.add_zero]
  | expression position expression => rw [Stmt.shifted, Expr.shifted_zero]
  | block content => rw [Stmt.shifted, Block.shifted_zero]
  | ifElse position condition thenBlock elseBlock =>
      rw [Stmt.shifted, Expr.shifted_zero, Block.shifted_zero, shiftedElse_zero]
  | whileLoop position condition body =>
      rw [Stmt.shifted, Expr.shifted_zero, Block.shifted_zero]
  | range position name first last step body =>
      rw [Stmt.shifted, Expr.shifted_zero, Expr.shifted_zero, Expr.shifted_zero,
        Block.shifted_zero]
  | each position name iterable body =>
      rw [Stmt.shifted, Expr.shifted_zero, Block.shifted_zero]
  | returning position value => rw [Stmt.shifted, shiftedReturned_zero]
  | fnDecl declaration => rw [Stmt.shifted, FnDecl.shifted_zero]
  | echo position expression => rw [Stmt.shifted, Expr.shifted_zero]
  | templateDecl position name attributes methods => rw [Stmt.shifted, shiftedMethods_zero]
  | halt position => rw [Stmt.shifted]
  | skip position => rw [Stmt.shifted]
  termination_by structural stmt

theorem shiftedElse_zero (elseBlock : Option Block) : shiftedElse 0 elseBlock = elseBlock := by
  cases elseBlock with
  | none => rfl
  | some block => rw [shiftedElse, Block.shifted_zero]
  termination_by structural elseBlock

theorem shiftedReturned_zero (value : Option Expr) : shiftedReturned 0 value = value := by
  cases value with
  | none => rfl
  | some expr => rw [shiftedReturned, Expr.shifted_zero]
  termination_by structural value

theorem Block.shifted_zero (block : Block) : block.shifted 0 = block := by
  rcases block with ⟨position, body⟩
  rw [Block.shifted, shiftedBody_zero]
  termination_by structural block

theorem shiftedBody_zero (body : List Stmt) : shiftedBody 0 body = body := by
  cases body with
  | nil => rfl
  | cons stmt rest => rw [shiftedBody, Stmt.shifted_zero, shiftedBody_zero]
  termination_by structural body

theorem FnDecl.shifted_zero (declaration : FnDecl) : declaration.shifted 0 = declaration := by
  rcases declaration with ⟨position, id, name, signature, body⟩
  rw [FnDecl.shifted, Block.shifted_zero, Nat.add_zero]
  termination_by structural declaration

theorem shiftedMethods_zero (methods : List FnDecl) : shiftedMethods 0 methods = methods := by
  cases methods with
  | nil => rfl
  | cons method rest => rw [shiftedMethods, FnDecl.shifted_zero, shiftedMethods_zero]
  termination_by structural methods

end

end ScriptCheck
