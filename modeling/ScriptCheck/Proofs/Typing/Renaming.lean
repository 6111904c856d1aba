import ScriptCheck.Proofs.Typing.Visit

/-!
# Renaming a variable

One variable of a function gets another name, with everything that reads or calls it: the variable
that a `varDecl` with a given number declares. The same name may be in use for other variables,
parameters or functions, in the same function or elsewhere, and these keep it. So the renaming keeps
track of what the old name stands for in the scopes within the function. Names are read as far as
the nearest function and called through all scopes, as the checker looks them up.

A declaration that is refused because its name is taken already goes with the declaration that takes
it, so that its renamed form is refused as well. What is renamed has the same form as before.
-/

namespace ScriptCheck

/-- What a name stands for: the variable that is renamed, or anything else. -/
inductive Binding where
  | kept
  | renamed
  deriving DecidableEq

/-- What is known of a scope where names are resolved: whether it is the scope of a function, and
what it binds the old name to, if it binds it. -/
structure Level where
  isFunction : Bool
  bound : Option Binding
  deriving DecidableEq

/-- The scopes out to that of the function with the variable, the innermost one first. Outside of
such a function there are none. -/
abbrev Shape := List Level

namespace Shape

/-- What the name stands for where it is read. -/
def read : Shape → Option Binding
  | [] => none
  | level :: outer => level.bound.or (if level.isFunction then none else read outer)

/-- What the name stands for where it is called. -/
def call : Shape → Option Binding
  | [] => none
  | level :: outer => level.bound.or (call outer)

/-- What the name stands for in the innermost scope. -/
def own : Shape → Option Binding
  | [] => none
  | level :: _ => level.bound

/-- The renamed variable is in scope. -/
def Hides (shape : Shape) : Prop :=
  ∃ level ∈ shape, level.bound = some .renamed

/-- The name is bound in the innermost scope, unless it is bound there already. -/
def bind (binding : Binding) : Shape → Shape
  | [] => []
  | level :: outer => { level with bound := level.bound.or (some binding) } :: outer

/-- A scope is entered that is not that of a function. -/
def enter (bound : Option Binding) : Shape → Shape
  | [] => []
  | level :: outer => ⟨false, bound⟩ :: level :: outer

end Shape

/-- Another name for the variable that is declared under a number. -/
structure Renaming where
  number : Nat
  old : String
  new : String

namespace Renaming

/-- The names that are bound in the scope of a function before its body is checked. -/
def boundNames (signature : Signature) (template : Option Template) : List String :=
  (template.elim [] fun declared =>
    declared.attributes.map (·.1) ++ declared.methods.map (·.1)) ++ signature.params.map (·.1)

variable (names : Renaming)

/-- The name of something that the given name stands for. -/
def name (binding : Option Binding) (written : String) : String :=
  if written = names.old ∧ binding = some .renamed then names.new else written

/-- What a variable is bound to by its declaration. -/
def declared (shape : Shape) (id : Nat) : Binding :=
  shape.read.getD (if id = names.number ∧ shape ≠ [] then .renamed else .kept)

/-- The scopes after a name is bound in the innermost one. -/
def bound (shape : Shape) (name : String) (binding : Binding) : Shape :=
  if name = names.old then shape.bind binding else shape

/-- The scopes within a loop with a variable. -/
def loop (shape : Shape) (name : String) : Shape :=
  shape.enter (if name = names.old then some .kept else none)

/-- The scopes behind a statement. -/
def after (shape : Shape) : Stmt → Shape
  | .varDecl _ id name _ _ => names.bound shape name (names.declared shape id)
  | .fnDecl declaration => names.bound shape declaration.name .kept
  | .templateDecl _ name _ _ => names.bound shape name .kept
  | .expression .. | .block _ | .ifElse .. | .whileLoop .. | .range .. | .each .. | .halt _
  | .skip _ | .returning .. | .echo .. => shape

/-- The scopes behind all statements of a list. -/
def afterAll (shape : Shape) (body : List Stmt) : Shape :=
  body.foldl names.after shape

mutual

/-- The variable is declared in a statement, and not in a function in it. -/
def declares : Stmt → Bool
  | .varDecl _ id name _ _ => id == names.number && name == names.old
  | .block content => declaresIn content
  | .ifElse _ _ thenBlock elseBlock => declaresIn thenBlock || declaresElse elseBlock
  | .whileLoop _ _ body => declaresIn body
  | .range _ _ _ _ _ body => declaresIn body
  | .each _ _ _ body => declaresIn body
  | .expression .. | .halt _ | .skip _ | .returning .. | .fnDecl _ | .echo ..
  | .templateDecl .. => false
  termination_by structural stmt => stmt

def declaresIn : Block → Bool
  | ⟨_, body⟩ => declaresAny body
  termination_by structural block => block

def declaresElse : Option Block → Bool
  | none => false
  | some block => declaresIn block
  termination_by structural block => block

def declaresAny : List Stmt → Bool
  | [] => false
  | stmt :: rest => declares stmt || declaresAny rest
  termination_by structural body => body

end

/-- The scopes within a function, where the given names are bound before its body. -/
def function (shape : Shape) (bound : List String) (body : Block) : Shape :=
  if shape = [] ∧ names.declaresIn body = false then []
  else ⟨true, if names.old ∈ bound then some .kept else none⟩ :: shape

mutual

def expr (shape : Shape) : Expr → Expr
  | .integer value => .integer value
  | .float value => .float value
  | .string value => .string value
  | .boolean value => .boolean value
  | .null => .null
  | .array elements => .array (exprs shape elements)
  | .set elements => .set (exprs shape elements)
  | .map entries => .map (pairs shape entries)
  | .entity template entries => .entity template (values shape entries)
  | .function params body =>
    .function params
      (block (names.function shape (boundNames { result := .infer, params } none) body) body)
  | .identifier name => .identifier (names.name shape.read name)
  | .unary operator fixity operand => .unary operator fixity (expr shape operand)
  | .binary operator left right => .binary operator (expr shape left) (expr shape right)
  | .assignment target value => .assignment (expr shape target) (expr shape value)
  | .index base index => .index (expr shape base) (expr shape index)
  | .call callee arguments =>
    .call
      (match callee with
        | .identifier name => .identifier (names.name shape.call name)
        | _ => expr shape callee)
      (exprs shape arguments)
  | .member object name => .member (expr shape object) name
  | .methodCall object method arguments =>
    .methodCall (expr shape object) method (exprs shape arguments)
  termination_by structural expr => expr

def exprs (shape : Shape) : List Expr → List Expr
  | [] => []
  | first :: rest => expr shape first :: exprs shape rest
  termination_by structural list => list

def pairs (shape : Shape) : List (Expr × Expr) → List (Expr × Expr)
  | [] => []
  | (first, second) :: rest => (expr shape first, expr shape second) :: pairs shape rest
  termination_by structural list => list

/-- The renamed values of attributes. -/
def values (shape : Shape) : List (String × Expr) → List (String × Expr)
  | [] => []
  | (name, value) :: rest => (name, expr shape value) :: values shape rest
  termination_by structural list => list

def stmt (shape : Shape) : Stmt → Stmt
  | .varDecl position id name declared initializer =>
    .varDecl position id (names.name (some (names.declared shape id)) name) declared
      (expr shape initializer)
  | .expression position value => .expression position (expr shape value)
  | .block content => .block (block (shape.enter none) content)
  | .ifElse position condition thenBlock elseBlock =>
    .ifElse position (expr shape condition) (block (shape.enter none) thenBlock)
      (elseBranch (shape.enter none) elseBlock)
  | .whileLoop position condition body =>
    .whileLoop position (expr shape condition) (block (shape.enter none) body)
  | .range position name first last step body =>
    .range position name (expr shape first) (expr shape last) (expr shape step)
      (block (names.loop shape name) body)
  | .each position name iterable body =>
    .each position name (expr shape iterable) (block (names.loop shape name) body)
  | .halt position => .halt position
  | .skip position => .skip position
  | .returning position value => .returning position (returned shape value)
  | .fnDecl declaration => .fnDecl (fnDecl shape declaration)
  | .echo position value => .echo position (expr shape value)
  | .templateDecl position name attributes declared =>
    .templateDecl position name attributes
      (methods (names.bound shape name .kept) (declaredTemplate name attributes declared) declared)
  termination_by structural stmt => stmt

def elseBranch (shape : Shape) : Option Block → Option Block
  | none => none
  | some content => some (block shape content)
  termination_by structural branch => branch

def returned (shape : Shape) : Option Expr → Option Expr
  | none => none
  | some value => some (expr shape value)
  termination_by structural value => value

def block (shape : Shape) : Block → Block
  | ⟨position, body⟩ => ⟨position, stmts shape body⟩
  termination_by structural block => block

def stmts (shape : Shape) : List Stmt → List Stmt
  | [] => []
  | first :: rest => stmt shape first :: stmts (names.after shape first) rest
  termination_by structural body => body

/-- The name of a function is bound around its body. -/
def fnDecl (shape : Shape) : FnDecl → FnDecl
  | ⟨position, id, name, signature, body⟩ =>
    ⟨position, id, names.name shape.own name, signature,
      block (names.function (names.bound shape name .kept) (boundNames signature none) body) body⟩
  termination_by structural declaration => declaration

/-- The methods of a template, whose members are bound in each of them. -/
def methods (shape : Shape) (template : Template) : List FnDecl → List FnDecl
  | [] => []
  | ⟨position, id, name, signature, body⟩ :: rest =>
    ⟨position, id, name, signature,
      block (names.function shape (boundNames signature (some template)) body) body⟩ ::
        methods shape template rest
  termination_by structural list => list

end

/-- The program with the renamed variable. -/
def program (whole : Program) : Program :=
  ⟨names.stmts [] whole.body⟩

end Renaming

section Shapes

variable {shape : Shape} {level : Level} {binding : Binding}

namespace Shape

@[simp]
theorem read_nil : read [] = none := rfl

@[simp]
theorem call_nil : call [] = none := rfl

@[simp]
theorem own_nil : own [] = none := rfl

@[simp]
theorem own_cons : own (level :: shape) = level.bound := rfl

@[simp]
theorem bind_nil : bind binding [] = [] := rfl

@[simp]
theorem enter_nil (bound : Option Binding) : enter bound [] = [] := rfl

@[simp]
theorem enter_cons (bound : Option Binding) :
    enter bound (level :: shape) = ⟨false, bound⟩ :: level :: shape := rfl

@[simp]
theorem not_hides_nil : ¬Hides [] := nofun

@[simp]
theorem hides_cons : Hides (level :: shape) ↔ level.bound = some .renamed ∨ Hides shape := by
  simp [Hides]

/-- Where the variable is not in scope, its name stands for something else. -/
theorem read_ne_of_not_hides (free : ¬shape.Hides) : shape.read ≠ some .renamed := by
  induction shape with
  | nil => simp
  | cons level outer ih =>
      rw [hides_cons, not_or] at free
      rw [read]
      cases bound : level.bound with
      | some binding =>
          rw [bound] at free
          simpa using free.1
      | none =>
          cases level.isFunction with
          | true => simp
          | false => simpa using ih free.2

theorem call_ne_of_not_hides (free : ¬shape.Hides) : shape.call ≠ some .renamed := by
  induction shape with
  | nil => simp
  | cons level outer ih =>
      rw [hides_cons, not_or] at free
      rw [call]
      cases bound : level.bound with
      | some binding =>
          rw [bound] at free
          simpa using free.1
      | none => simpa using ih free.2

theorem own_ne_of_not_hides (free : ¬shape.Hides) : shape.own ≠ some .renamed := by
  cases shape with
  | nil => simp
  | cons level outer => exact fun isRenamed => free (hides_cons.mpr (.inl isRenamed))

theorem hides_enter {bound : Option Binding} (plain : bound ≠ some .renamed) :
    (shape.enter bound).Hides ↔ shape.Hides := by
  cases shape with
  | nil => simp
  | cons level outer => simp [plain]

@[simp]
theorem hides_enter_none : (shape.enter none).Hides ↔ shape.Hides := by
  apply hides_enter
  simp

theorem hides_bind_kept : (shape.bind .kept).Hides ↔ shape.Hides := by
  cases shape with
  | nil => simp
  | cons level outer => cases bound : level.bound <;> simp [bind, bound]

@[simp]
theorem bind_eq_nil : shape.bind binding = [] ↔ shape = [] := by
  cases shape <;> simp [bind]

@[simp]
theorem enter_eq_nil {bound : Option Binding} : shape.enter bound = [] ↔ shape = [] := by
  cases shape <;> simp

end Shape

namespace Renaming

variable (names : Renaming) {name : String}

@[simp]
theorem name_none (written : String) : names.name none written = written := by
  simp [Renaming.name]

theorem name_of_ne {binding : Option Binding} (other : name ≠ names.old) :
    names.name binding name = name := by
  simp [Renaming.name, other]

theorem name_of_ne_renamed {binding : Option Binding} (other : binding ≠ some .renamed) :
    names.name binding name = name := by
  simp [Renaming.name, other]

@[simp]
theorem name_renamed : names.name (some .renamed) names.old = names.new := by
  simp [Renaming.name]

@[simp]
theorem name_kept (written : String) : names.name (some .kept) written = written := by
  simp [Renaming.name]

@[simp]
theorem declared_nil (id : Nat) : names.declared [] id = .kept := by
  simp [declared]

@[simp]
theorem bound_nil (name : String) (binding : Binding) : names.bound [] name binding = [] := by
  simp [bound]

theorem bound_of_ne {binding : Binding} (other : name ≠ names.old) :
    names.bound shape name binding = shape := by
  simp [bound, other]

@[simp]
theorem bound_old (binding : Binding) :
    names.bound shape names.old binding = shape.bind binding := by
  simp [bound]

@[simp]
theorem bound_eq_nil {binding : Binding} : names.bound shape name binding = [] ↔ shape = [] := by
  rw [bound]
  split <;> simp

theorem hides_bound_kept : (names.bound shape name .kept).Hides ↔ shape.Hides := by
  rw [bound]
  split
  · exact Shape.hides_bind_kept
  · rfl

@[simp]
theorem loop_nil (name : String) : names.loop [] name = [] := rfl

@[simp]
theorem loop_eq_nil : names.loop shape name = [] ↔ shape = [] :=
  Shape.enter_eq_nil

theorem hides_loop : (names.loop shape name).Hides ↔ shape.Hides := by
  apply Shape.hides_enter
  split <;> simp

theorem hides_function {bound : List String} {body : Block} :
    (names.function shape bound body).Hides ↔ shape.Hides := by
  rw [function]
  split
  · rename_i outside
    simp [outside.1]
  · rw [Shape.hides_cons]
    split <;> simp

@[simp]
theorem after_nil (statement : Stmt) : names.after [] statement = [] := by
  cases statement <;> simp [after]

/-- A statement only binds names in the innermost scope. -/
theorem after_cons (level : Level) (outer : Shape) (statement : Stmt) :
    ∃ bound, names.after (level :: outer) statement = ⟨level.isFunction, bound⟩ :: outer := by
  have binds (name : String) (binding : Binding) :
      ∃ bound, names.bound (level :: outer) name binding = ⟨level.isFunction, bound⟩ :: outer := by
    rw [bound]
    split
    · exact ⟨_, rfl⟩
    · exact ⟨level.bound, rfl⟩
  cases statement with
  | varDecl position id name declared initializer => exact binds _ _
  | fnDecl declaration => exact binds _ _
  | templateDecl position name attributes methods => exact binds _ _
  | _ => exact ⟨level.bound, rfl⟩

@[simp]
theorem after_eq_nil {statement : Stmt} : names.after shape statement = [] ↔ shape = [] := by
  cases shape with
  | nil => simp
  | cons level outer =>
      rcases names.after_cons level outer statement with ⟨bound, same⟩
      simp [same]

/-- A name that stands for something else is bound as it was known before. -/
theorem name_own_bound_kept :
    names.name (names.bound shape name .kept).own name = names.name shape.own name := by
  by_cases isOld : name = names.old
  case neg => rw [names.name_of_ne isOld, names.name_of_ne isOld]
  subst isOld
  rw [names.bound_old]
  cases shape with
  | nil => rfl
  | cons level outer =>
      rw [Shape.bind, Shape.own_cons, Shape.own_cons]
      cases bound : level.bound with
      | none => simp
      | some known => rfl

@[simp]
theorem afterAll_nil_list : names.afterAll shape [] = shape := rfl

@[simp]
theorem afterAll_cons_list (first : Stmt) (rest : List Stmt) :
    names.afterAll shape (first :: rest) = names.afterAll (names.after shape first) rest := rfl

end Renaming

end Shapes

namespace Renaming

section Form

variable (names : Renaming) (shape : Shape)

/-- What is called is renamed as it is looked up: a name through all scopes. -/
def callee : Expr → Expr
  | .identifier name => .identifier (names.name shape.call name)
  | other => names.expr shape other

theorem expr_call (called : Expr) (arguments : List Expr) :
    names.expr shape (.call called arguments) =
      .call (names.callee shape called) (names.exprs shape arguments) := by
  cases called <;> rfl

@[simp]
theorem name?_callee (called : Expr) :
    (names.callee shape called).name? = called.name?.map (names.name shape.call) := by
  cases called <;> rfl

theorem callee_of_nameless {called : Expr} (nameless : called.name? = none) :
    names.callee shape called = names.expr shape called := by
  cases called with
  | identifier name => contradiction
  | _ => rfl

@[simp]
theorem isBoolean_expr (value : Expr) (truth : Bool) :
    (names.expr shape value).isBoolean truth = value.isBoolean truth := by
  cases value <;> rfl

theorem isAssignable_expr (value : Expr) :
    (names.expr shape value).isAssignable = value.isAssignable := by
  cases value with
  | index base position =>
      rw [expr, Expr.isAssignable, Expr.isAssignable]
      exact isAssignable_expr base
  | member object name =>
      rw [expr, Expr.isAssignable, Expr.isAssignable]
      exact isAssignable_expr object
  | _ => rfl
  termination_by structural value

@[simp]
theorem stepOperand_expr (operator : UnaryOp) (operand : Expr) :
    Rule.stepOperand operator (names.expr shape operand) =
      Rule.stepOperand operator operand := by
  rw [Rule.stepOperand, Rule.stepOperand, isAssignable_expr]

@[simp]
theorem length_exprs (list : List Expr) : (names.exprs shape list).length = list.length := by
  induction list with
  | nil => rfl
  | cons first rest ih => rw [exprs, List.length_cons, List.length_cons, ih]

@[simp]
theorem isEmpty_exprs (list : List Expr) :
    (names.exprs shape list).isEmpty = list.isEmpty := by
  cases list <;> rfl

@[simp]
theorem isEmpty_body_block (content : Block) :
    (names.block shape content).body.isEmpty = content.body.isEmpty := by
  rcases content with ⟨position, body⟩
  cases body <;> rfl

@[simp]
theorem isSome_elseBranch (branch : Option Block) :
    (names.elseBranch shape branch).isSome = branch.isSome := by
  cases branch <;> rfl

@[simp]
theorem position_block (content : Block) :
    (names.block shape content).position = content.position := by
  rcases content with ⟨position, body⟩
  rfl

@[simp]
theorem position_stmt (statement : Stmt) :
    (names.stmt shape statement).position = statement.position := by
  cases statement with
  | block content => exact names.position_block _ content
  | fnDecl declaration =>
      rcases declaration with ⟨position, id, name, signature, body⟩
      rfl
  | _ => rfl

@[simp]
theorem asMethod_methods (template : Template) (declared : List FnDecl) :
    (names.methods shape template declared).map FnDecl.asMethod =
      declared.map FnDecl.asMethod := by
  induction declared with
  | nil => rfl
  | cons first rest ih =>
      rcases first with ⟨position, id, name, signature, body⟩
      rw [methods, List.map_cons, List.map_cons, ih]
      rfl

end Form

mutual

/-- What is returned first is a value in both forms, or in neither of them. -/
theorem firstReturn?_stmt (names : Renaming) (shape : Shape) (statement : Stmt) :
    (names.stmt shape statement).firstReturn?.map Option.isSome =
      statement.firstReturn?.map Option.isSome := by
  cases statement with
  | returning position value => cases value <;> rfl
  | block content =>
      rw [stmt, Stmt.firstReturn?, Stmt.firstReturn?]
      exact firstReturn?_block names _ content
  | ifElse position condition thenBlock elseBlock =>
      rw [stmt, Stmt.firstReturn?, Stmt.firstReturn?, Option.map_or, Option.map_or,
        firstReturn?_block names _ thenBlock, firstReturnElse?_elseBranch names _ elseBlock]
  | whileLoop position condition body =>
      rw [stmt, Stmt.firstReturn?, Stmt.firstReturn?]
      exact firstReturn?_block names _ body
  | range position name first last step body =>
      rw [stmt, Stmt.firstReturn?, Stmt.firstReturn?]
      exact firstReturn?_block names _ body
  | each position name iterable body =>
      rw [stmt, Stmt.firstReturn?, Stmt.firstReturn?]
      exact firstReturn?_block names _ body
  | _ => rfl
  termination_by structural statement

theorem firstReturn?_block (names : Renaming) (shape : Shape) (content : Block) :
    (names.block shape content).firstReturn?.map Option.isSome =
      content.firstReturn?.map Option.isSome := by
  rcases content with ⟨position, body⟩
  rw [block, Block.firstReturn?, Block.firstReturn?]
  exact firstReturnIn?_stmts names shape body
  termination_by structural content

theorem firstReturnElse?_elseBranch (names : Renaming) (shape : Shape) (branch : Option Block) :
    (firstReturnElse? (names.elseBranch shape branch)).map Option.isSome =
      (firstReturnElse? branch).map Option.isSome := by
  cases branch with
  | none => rfl
  | some content =>
      rw [elseBranch, firstReturnElse?, firstReturnElse?]
      exact firstReturn?_block names shape content
  termination_by structural branch

theorem firstReturnIn?_stmts (names : Renaming) (shape : Shape) (body : List Stmt) :
    (firstReturnIn? (names.stmts shape body)).map Option.isSome =
      (firstReturnIn? body).map Option.isSome := by
  cases body with
  | nil => rfl
  | cons first rest =>
      rw [stmts, firstReturnIn?, firstReturnIn?, Option.map_or, Option.map_or,
        firstReturn?_stmt names shape first, firstReturnIn?_stmts names _ rest]
  termination_by structural body

end

/-- A function that returns a value first still does. -/
theorem returns_block (names : Renaming) (shape : Shape) (body : Block) :
    (names.block shape body).firstReturn?.any (·.isSome) =
      body.firstReturn?.any (·.isSome) := by
  have same := firstReturn?_block names shape body
  generalize body.firstReturn? = first, (names.block shape body).firstReturn? = second at same
  cases first <;> cases second <;> simp_all

end Renaming

end ScriptCheck
