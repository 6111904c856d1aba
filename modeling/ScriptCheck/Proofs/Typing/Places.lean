import ScriptCheck.Proofs.Typing.Visit

/-!
# Places in a program

Where an expression, a statement or a list of statements stands in a program, as far as this
decides what may stand there: whether a loop lies around it within the nearest function, and
whether there is a function at all. `Place.Contains` goes from a place to the places that lie
directly in it. It knows nothing of checks and scopes.

`Place.Breaks` says which rules of placement are broken at a place itself: that nothing comes after
a statement that is never completed, that rounds are left only in loops, and that only functions
return.
-/

namespace ScriptCheck

mutual

/-- Whether nothing that comes after a statement can be reached, as far as the rule goes: a choice
has to leave through statements that stand directly in both of its blocks. -/
def Stmt.isExiting : Stmt → Bool
  | .returning .. | .halt _ | .skip _ => true
  | .ifElse _ _ thenBlock elseBlock => thenBlock.exits && elseExits elseBlock
  | .varDecl .. | .expression .. | .block _ | .whileLoop .. | .range .. | .each .. | .fnDecl _
  | .echo .. | .templateDecl .. => false
  termination_by structural stmt => stmt

/-- Whether an exiting statement stands directly in a block. -/
def Block.exits : Block → Bool
  | ⟨_, body⟩ => exitsIn body
  termination_by structural block => block

/-- Whether an exiting statement stands directly in a block behind `else`. -/
def elseExits : Option Block → Bool
  | none => false
  | some block => block.exits
  termination_by structural block => block

/-- Whether there is an exiting statement in a list. -/
def exitsIn : List Stmt → Bool
  | [] => false
  | stmt :: rest => stmt.isExiting || exitsIn rest
  termination_by structural body => body

end

theorem Block.exits_eq (block : Block) : block.exits = exitsIn block.body := by
  rcases block with ⟨position, body⟩
  rw [Block.exits]

/-- What lies around a place: a loop, with no function in between, and a function. -/
structure Surroundings where
  inLoop : Bool
  inFunction : Bool
  deriving DecidableEq

namespace Surroundings

/-- Around the statements of a program there is nothing. -/
def outermost : Surroundings := { inLoop := false, inFunction := false }

/-- Around the body of a function, the loops outside of the function do not count. -/
def ofFunction : Surroundings := { inLoop := false, inFunction := true }

end Surroundings

/-- Around the blocks of a statement. -/
def Stmt.aroundBlocks (around : Surroundings) : Stmt → Surroundings
  | .whileLoop .. | .range .. | .each .. => { around with inLoop := true }
  | _ => around

/-- The rule that a statement breaks for what does not lie around it. -/
def Stmt.misplacement? (around : Surroundings) : Stmt → Option FlowFault
  | .halt _ => if around.inLoop then none else some .haltOutsideLoop
  | .skip _ => if around.inLoop then none else some .skipOutsideLoop
  | .returning .. => if around.inFunction then none else some .returnOutsideFunction
  | _ => none

theorem Stmt.misplacement?_eq_some {stmt : Stmt} {around : Surroundings} {fault : FlowFault}
    (outside : stmt.misplacement? around = some fault) :
    (∃ position, stmt = .halt position ∧ fault = .haltOutsideLoop ∧ around.inLoop = false) ∨
      (∃ position, stmt = .skip position ∧ fault = .skipOutsideLoop ∧ around.inLoop = false) ∨
      ∃ position value, stmt = .returning position value ∧ fault = .returnOutsideFunction ∧
        around.inFunction = false := by
  cases stmt with
  | halt position | skip position | returning position value =>
      simp only [Stmt.misplacement?] at outside
      split at outside
      · contradiction
      · rename_i outer
        cases outside
        simpa using outer
  | _ => contradiction

/-- The functions that a statement declares. -/
def Stmt.functions : Stmt → List FnDecl
  | .fnDecl declaration => [declaration]
  | .templateDecl _ _ _ methods => methods
  | _ => []

/-- A part of a program with what lies around it. -/
structure Place where
  part : Part
  around : Surroundings

namespace Place

/-- The second place lies in the first one, with nothing in between. -/
inductive Contains : Place → Place → Prop where
  | operand {expr operand : Expr} (around : Surroundings) (member : operand ∈ expr.operands) :
      Contains ⟨.expr expr, around⟩ ⟨.expr operand, around⟩
  | literal (params : List (String × Ty)) (body : Block) (around : Surroundings) :
      Contains ⟨.expr (.function params body), around⟩ ⟨.stmts body.body, .ofFunction⟩
  | stmt {body : List Stmt} {stmt : Stmt} (around : Surroundings) (member : stmt ∈ body) :
      Contains ⟨.stmts body, around⟩ ⟨.stmt stmt, around⟩
  | stmtOperand {stmt : Stmt} {operand : Expr} (around : Surroundings)
      (member : operand ∈ stmt.operands) : Contains ⟨.stmt stmt, around⟩ ⟨.expr operand, around⟩
  | block {stmt : Stmt} {block : Block} (around : Surroundings) (among : block ∈ stmt.blocks) :
      Contains ⟨.stmt stmt, around⟩ ⟨.stmts block.body, stmt.aroundBlocks around⟩
  | function {stmt : Stmt} {declaration : FnDecl} (around : Surroundings)
      (among : declaration ∈ stmt.functions) :
      Contains ⟨.stmt stmt, around⟩ ⟨.stmts declaration.body.body, .ofFunction⟩

/-- A rule of placement is broken at a place itself, by the statement at a position. -/
inductive Breaks : Place → FlowFault → Position → Prop where
  | unreachable (before : List Stmt) {stmt : Stmt} (next : Stmt) (after : List Stmt)
      (around : Surroundings) (exiting : stmt.isExiting = true) :
      Breaks ⟨.stmts (before ++ stmt :: next :: after), around⟩ .unreachableCode next.position
  | misplaced {stmt : Stmt} {around : Surroundings} {fault : FlowFault}
      (outside : stmt.misplacement? around = some fault) :
      Breaks ⟨.stmt stmt, around⟩ fault stmt.position

/-- A rule of placement is broken somewhere in a place. -/
def Broken (place : Place) (fault : FlowFault) (position : Position) : Prop :=
  ∃ inner, Relation.ReflTransGen Contains place inner ∧ inner.Breaks fault position

end Place

/-- A place in a program. -/
def Program.Places (program : Program) (place : Place) : Prop :=
  Relation.ReflTransGen Place.Contains ⟨.stmts program.body, .outermost⟩ place

namespace Place

variable {place : Place} {around : Surroundings} {fault : FlowFault} {position : Position}

theorem broken_iff : place.Broken fault position ↔
    place.Breaks fault position ∨ ∃ inner, place.Contains inner ∧ inner.Broken fault position := by
  constructor
  · rintro ⟨inner, inside, breaks⟩
    rcases inside.cases_head with rfl | ⟨next, contains, further⟩
    · exact .inl breaks
    · exact .inr ⟨next, contains, inner, further, breaks⟩
  · rintro (breaks | ⟨next, contains, inner, further, breaks⟩)
    · exact ⟨place, .refl, breaks⟩
    · exact ⟨inner, further.head contains, breaks⟩

/-- A rule is broken in one of several expressions. -/
def BrokenIn (around : Surroundings) (exprs : List Expr) (fault : FlowFault)
    (position : Position) : Prop :=
  ∃ expr ∈ exprs, Broken ⟨.expr expr, around⟩ fault position

@[simp]
theorem brokenIn_nil : BrokenIn around [] fault position ↔ False := by
  simp [BrokenIn]

@[simp]
theorem brokenIn_cons (expr : Expr) (rest : List Expr) :
    BrokenIn around (expr :: rest) fault position ↔
      Broken ⟨.expr expr, around⟩ fault position ∨ BrokenIn around rest fault position := by
  simp [BrokenIn]

/-- A rule is broken in one of several blocks. -/
def BrokenBlocks (around : Surroundings) (blocks : List Block) (fault : FlowFault)
    (position : Position) : Prop :=
  ∃ block ∈ blocks, Broken ⟨.stmts block.body, around⟩ fault position

@[simp]
theorem brokenBlocks_nil : BrokenBlocks around [] fault position ↔ False := by
  simp [BrokenBlocks]

@[simp]
theorem brokenBlocks_cons (block : Block) (rest : List Block) :
    BrokenBlocks around (block :: rest) fault position ↔
      Broken ⟨.stmts block.body, around⟩ fault position ∨
        BrokenBlocks around rest fault position := by
  simp [BrokenBlocks]

/-- A rule is broken in one of several functions. -/
def BrokenFunctions (declarations : List FnDecl) (fault : FlowFault) (position : Position) :
    Prop :=
  ∃ declaration ∈ declarations, Broken ⟨.stmts declaration.body.body, .ofFunction⟩ fault position

@[simp]
theorem brokenFunctions_nil : BrokenFunctions [] fault position ↔ False := by
  simp [BrokenFunctions]

@[simp]
theorem brokenFunctions_cons (declaration : FnDecl) (rest : List FnDecl) :
    BrokenFunctions (declaration :: rest) fault position ↔
      Broken ⟨.stmts declaration.body.body, .ofFunction⟩ fault position ∨
        BrokenFunctions rest fault position := by
  simp [BrokenFunctions]

/-- A literal of a function has no operands, and nothing else has a body. -/
theorem broken_literal (params : List (String × Ty)) (body : Block) :
    Broken ⟨.expr (.function params body), around⟩ fault position ↔
      Broken ⟨.stmts body.body, .ofFunction⟩ fault position := by
  rw [broken_iff]
  constructor
  · rintro (breaks | ⟨inner, contains, broken⟩)
    · cases breaks
    · cases contains with
      | operand _ member => contradiction
      | literal => exact broken
  · intro broken
    exact .inr ⟨_, .literal params body around, broken⟩

theorem broken_expr {expr : Expr} (noBody : ∀ params body, expr ≠ .function params body) :
    Broken ⟨.expr expr, around⟩ fault position ↔
      BrokenIn around expr.operands fault position := by
  rw [broken_iff]
  constructor
  · rintro (breaks | ⟨inner, contains, broken⟩)
    · cases breaks
    · cases contains with
      | operand _ member => exact ⟨_, member, broken⟩
      | literal params body => exact absurd rfl (noBody params body)
  · rintro ⟨operand, member, broken⟩
    exact .inr ⟨_, .operand around member, broken⟩

@[simp]
theorem broken_nil : Broken ⟨.stmts [], around⟩ fault position ↔ False := by
  rw [broken_iff, iff_false]
  rintro (breaks | ⟨inner, contains, -⟩)
  · generalize same : Place.mk (.stmts []) around = place at breaks
    cases breaks <;> simp at same
  · cases contains with
    | stmt _ member => contradiction

/-- A list of statements is broken in its first statement, in the others, or between the first one
and the others. -/
theorem broken_cons (stmt : Stmt) (rest : List Stmt) :
    Broken ⟨.stmts (stmt :: rest), around⟩ fault position ↔
      Broken ⟨.stmt stmt, around⟩ fault position ∨
        Broken ⟨.stmts rest, around⟩ fault position ∨
        stmt.isExiting = true ∧ fault = .unreachableCode ∧
          ∃ next after, rest = next :: after ∧ position = next.position := by
  constructor
  · intro somewhere
    rcases broken_iff.mp somewhere with breaks | ⟨inner, contains, broken⟩
    · generalize same : stmt :: rest = body at breaks
      cases breaks with
      | unreachable before next after _ exiting =>
          cases before with
          | nil =>
              obtain ⟨rfl, rfl⟩ := List.cons_eq_cons.mp same
              exact .inr (.inr ⟨exiting, rfl, next, after, rfl, rfl⟩)
          | cons first before =>
              obtain ⟨rfl, rfl⟩ := List.cons_eq_cons.mp same
              exact .inr (.inl (broken_iff.mpr (.inl (.unreachable before next after _ exiting))))
    · cases contains with
      | stmt _ member =>
          rcases List.mem_cons.mp member with rfl | later
          · exact .inl broken
          · exact .inr (.inl (broken_iff.mpr (.inr ⟨_, .stmt around later, broken⟩)))
  · rintro (broken | broken | ⟨exiting, rfl, next, after, rfl, rfl⟩)
    · exact broken_iff.mpr (.inr ⟨_, .stmt around List.mem_cons_self, broken⟩)
    · rcases broken_iff.mp broken with breaks | ⟨inner, contains, broken⟩
      · cases breaks with
        | unreachable before next after _ exiting =>
            exact broken_iff.mpr (.inl (.unreachable (stmt :: before) next after around exiting))
      · cases contains with
        | stmt _ member =>
            have later := List.mem_cons_of_mem stmt member
            exact broken_iff.mpr (.inr ⟨_, .stmt around later, broken⟩)
    · exact broken_iff.mpr (.inl (.unreachable [] next after around exiting))

/-- A statement is broken itself, in its operands, in its blocks, or in the functions that it
declares. -/
theorem broken_stmt (stmt : Stmt) :
    Broken ⟨.stmt stmt, around⟩ fault position ↔
      stmt.misplacement? around = some fault ∧ position = stmt.position ∨
        BrokenIn around stmt.operands fault position ∨
        BrokenBlocks (stmt.aroundBlocks around) stmt.blocks fault position ∨
        BrokenFunctions stmt.functions fault position := by
  rw [broken_iff]
  constructor
  · rintro (breaks | ⟨inner, contains, broken⟩)
    · cases breaks with
      | misplaced outside => exact .inl ⟨outside, rfl⟩
    · cases contains with
      | stmtOperand _ member => exact .inr (.inl ⟨_, member, broken⟩)
      | block _ among => exact .inr (.inr (.inl ⟨_, among, broken⟩))
      | function _ among => exact .inr (.inr (.inr ⟨_, among, broken⟩))
  · rintro (⟨outside, rfl⟩ | ⟨operand, member, broken⟩ | ⟨block, among, broken⟩ |
      ⟨declaration, among, broken⟩)
    · exact .inl (.misplaced outside)
    · exact .inr ⟨_, .stmtOperand around member, broken⟩
    · exact .inr ⟨_, .block around among, broken⟩
    · exact .inr ⟨_, .function around among, broken⟩

end Place

end ScriptCheck
