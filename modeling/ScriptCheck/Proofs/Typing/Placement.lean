import ScriptCheck.Proofs.Typing.Heeding

/-!
# Placement of statements

The rules of placement come to the same as the flags and the scopes that the checker looks at:
nothing comes after a statement that is never completed, rounds are left inside of loops only, and
values are returned inside of functions only. Accepted programs break none of these rules, and a
program that is refused for one of them breaks this rule at the reported position.

The induction follows the recursion of the checker. It needs no case for the search of a first
returned value, whose faults are caught and whose effects are undone.
-/

namespace ScriptCheck

open Checker

/-- A statement that cannot be reached is refused before anything in it is checked. -/
theorem checkStmt_of_unreachable (stmt : Stmt) {state : CheckState}
    (unreachable : state.scopes.isReachable = false) :
    checkStmt stmt state = .error { cause := .flow .unreachableCode, position := stmt.position }
      (state.movedTo stmt.position) := by
  cases stmt <;> (rw [checkStmt]; exact atStmt_of_unreachable unreachable _ _)

/-- Nothing may come after an exiting statement. -/
theorem heeds_exiting {around : Surroundings} {stmt : Stmt} (rest : List Stmt)
    (exiting : stmt.isExiting = true)
    (heeds : Heeds around (Place.Broken ⟨.stmt stmt, around⟩) (fun _ reachable => reachable = false)
      (checkStmt stmt)) :
    Heeds around (Place.Broken ⟨.stmts (stmt :: rest), around⟩)
      (fun _ reachable => reachable = false) (checkStmts (stmt :: rest)) := by
  intro state same reachable
  have heeded := heeds state same reachable
  rw [checkStmts, bind_apply]
  cases ran : checkStmt stmt state with
  | error diagnostic after =>
      rw [ran] at heeded
      intro fault placement cause
      exact (Place.broken_cons stmt rest).mpr (.inl (heeded fault placement cause))
  | ok value after =>
      rw [ran] at heeded
      obtain ⟨clear, sameAfter, ended⟩ := heeded
      cases rest with
      | nil =>
          simp only [checkStmts]
          refine ⟨?_, sameAfter, ended⟩
          intro fault position broken
          simp [Place.broken_cons, exiting, clear] at broken
      | cons next others =>
          simp only
          rw [checkStmts, bind_apply, checkStmt_of_unreachable next ended]
          intro fault placement cause
          have named : fault = .unreachableCode := (Cause.flow.inj cause).symm
          exact (Place.broken_cons stmt _).mpr
            (.inr (.inr ⟨exiting, named, next, others, rfl, rfl⟩))

/-- The operands of an expression are checked one after another. -/
theorem heeds_operand {α β : Type} {around : Surroundings} {expr : Expr} {exprs : List Expr}
    {last : β → Bool → Prop} {action : Checker α} {rest : α → Checker β}
    (heeds : Heeds around (Place.Broken ⟨.expr expr, around⟩) onward action)
    (heedsRest : ∀ value, Heeds around (Place.BrokenIn around exprs) last (rest value)) :
    Heeds around (Place.BrokenIn around (expr :: exprs)) last (action >>= rest) :=
  (heeds.bind fun value _ => heedsRest value).congr
    fun _ _ => (Place.brokenIn_cons expr exprs).symm

theorem heeds_noOperand {α : Type} {around : Surroundings} {ends : α → Bool → Prop}
    {action : Checker α} (heeds : Heeds around nothing ends action) :
    Heeds around (Place.BrokenIn around []) ends action :=
  heeds.congr fun _ _ => Place.brokenIn_nil.symm

/-- A statement that does not leave its list breaks what is broken in its parts. -/
theorem heeds_plain {around : Surroundings} {stmt : Stmt} {position : Position}
    {broken : FlowFault → Position → Prop} {action : Checker Unit}
    (plain : stmt.isExiting = false) (heeds : Heeds around broken onward action)
    (same : ∀ fault position,
      broken fault position ↔ Place.Broken ⟨.stmt stmt, around⟩ fault position) :
    Heeds around (Place.Broken ⟨.stmt stmt, around⟩)
      (fun _ reachable => reachable = !stmt.isExiting) (atStmt position action) := by
  apply (heeds_atStmt position (heeds.congr same)).mono
  rintro _ reachable ⟨reached, -⟩
  rw [reached, plain]
  rfl

mutual

theorem heeds_checkExpr (expr : Expr) (around : Surroundings) :
    Heeds around (Place.Broken ⟨.expr expr, around⟩) onward (checkExpr expr) := by
  have resolved {action : Checker Ty} (noBody : ∀ params body, expr ≠ .function params body)
      (heeds : Heeds around (Place.BrokenIn around expr.operands) onward action) :
      Heeds around (Place.Broken ⟨.expr expr, around⟩) onward (resolve =<< action) :=
    (heeds.finish fun type _ => passes_resolve type).congr
      fun _ _ => (Place.broken_expr noBody).symm
  cases expr with
  | integer value => exact resolved (by simp) (heeds_noOperand (passes_pure _))
  | float value => exact resolved (by simp) (heeds_noOperand (passes_pure _))
  | string value => exact resolved (by simp) (heeds_noOperand (passes_pure _))
  | boolean value => exact resolved (by simp) (heeds_noOperand (passes_pure _))
  | null => exact resolved (by simp) (heeds_noOperand (passes_pure _))
  | array elements =>
      rw [checkExpr]
      apply resolved (by simp)
      apply (heeds_checkElements "array" elements around).finish
      intro element _
      exact passes_pure _
  | set elements =>
      rw [checkExpr]
      apply resolved (by simp)
      apply (heeds_checkElements "set" elements around).finish
      intro element _
      apply (passes_follow _).then
      intro _
      exact passes_pure _
  | map pairs =>
      rw [checkExpr]
      exact resolved (by simp) (heeds_checkMap pairs around)
  | entity name attributes =>
      rw [checkExpr]
      apply resolved (by simp)
      apply (passes_templateOr _ name).then
      intro template
      apply (heeds_checkAttributes template attributes around).finish
      intro _ _
      exact passes_pure _
  | function params body =>
      rw [checkExpr]
      have heeds : Heeds around (Place.Broken ⟨.stmts body.body, .ofFunction⟩) onward (do
          let signature : Signature := { result := .infer, params }
          validateSignature signature
          let prepared ← inferResult signature none body.firstReturn? (searchBody body)
          let resolved ← inFunction prepared none (checkBody body)
          pure (.function resolved : Ty)) := by
        apply (passes_mentions _).then
        intro _
        apply (passes_inferResult _ _ _ _).then
        intro prepared
        apply (heeds_inFunction (keeps_checkBody body) (heeds_checkBody body .ofFunction)).finish
        intro resolved _
        exact passes_pure _
      exact (heeds.finish fun type _ => passes_resolve type).congr
        fun _ _ => (Place.broken_literal params body).symm
  | identifier name =>
      apply resolved (by simp)
      apply heeds_noOperand
      apply (passes_lookup? _ name).then
      intro found
      cases found with
      | none => exact heeds_fail (by simp)
      | some type => exact passes_pure _
  | unary operator fixity operand =>
      rw [checkExpr]
      apply resolved (by simp)
      apply (passes_follow _).then
      intro _
      apply heeds_operand (heeds_checkExpr operand around)
      intro type
      exact heeds_noOperand (passes_follow _)
  | binary operator left right =>
      rw [checkExpr]
      apply resolved (by simp)
      apply heeds_operand (heeds_checkExpr left around)
      intro leftType
      apply heeds_operand (heeds_checkExpr right around)
      intro rightType
      exact heeds_noOperand (passes_follow _)
  | assignment target value =>
      rw [checkExpr]
      apply resolved (by simp)
      apply heeds_operand (heeds_checkExpr target around)
      intro targetType
      apply heeds_operand (heeds_checkExpr value around)
      intro valueType
      exact heeds_noOperand (passes_follow _)
  | index base index =>
      rw [checkExpr]
      apply resolved (by simp)
      apply heeds_operand (heeds_checkExpr base around)
      intro baseType
      apply heeds_operand (heeds_checkExpr index around)
      intro indexType
      exact heeds_noOperand (passes_follow _)
  | call callee arguments =>
      rw [checkExpr]
      apply resolved (by simp)
      rw [Expr.operands]
      cases called : callee.name? with
      | some name =>
          apply (heeds_calledByName name _).then
          intro signature sameLength
          apply (heeds_checkArguments sameLength around).finish
          intro _ _
          exact passes_pure _
      | none =>
          simp only [calleeSignature, bind_assoc]
          apply heeds_operand (heeds_checkExpr callee around)
          intro type
          apply (heeds_follow fun signature => length_params_of_callee).then
          intro signature sameLength
          apply (heeds_checkArguments sameLength around).finish
          intro _ _
          exact passes_pure _
  | member object name =>
      rw [checkExpr]
      apply resolved (by simp)
      apply heeds_operand (heeds_checkExpr object around)
      intro type
      exact heeds_noOperand (passes_follow _)
  | methodCall object name arguments =>
      rw [checkExpr]
      apply resolved (by simp)
      apply heeds_operand (heeds_checkExpr object around)
      intro type
      apply (heeds_follow fun signature => length_params_of_method).then
      intro signature sameLength
      apply (heeds_checkArguments sameLength around).finish
      intro _ _
      exact passes_pure _
  termination_by structural expr

theorem heeds_checkElements (collection : String) (elements : List Expr) (around : Surroundings) :
    Heeds around (Place.BrokenIn around elements) onward (checkElements collection elements) := by
  cases elements with
  | nil =>
      rw [checkElements]
      exact heeds_noOperand (passes_pure _)
  | cons first rest =>
      rw [checkElements]
      apply heeds_operand (heeds_checkExpr first around)
      intro expected
      apply (heeds_checkRest collection expected rest around).finish
      intro _ _
      exact passes_pure _
  termination_by structural elements

theorem heeds_checkRest (collection : String) (expected : Ty) (elements : List Expr)
    (around : Surroundings) :
    Heeds around (Place.BrokenIn around elements) onward
      (checkRest collection expected elements) := by
  cases elements with
  | nil =>
      rw [checkRest]
      exact heeds_noOperand (passes_pure _)
  | cons next rest =>
      rw [checkRest]
      apply heeds_operand (heeds_checkExpr next around)
      intro received
      apply (passes_follow _).then
      intro _
      exact heeds_checkRest collection expected rest around
  termination_by structural elements

theorem heeds_checkMap (pairs : List (Expr × Expr)) (around : Surroundings) :
    Heeds around (Place.BrokenIn around (pairs.flatMap fun pair => [pair.1, pair.2])) onward
      (checkMap pairs) := by
  cases pairs with
  | nil =>
      rw [checkMap]
      exact heeds_noOperand (passes_pure _)
  | cons pair rest =>
      rcases pair with ⟨first, second⟩
      rw [checkMap]
      apply heeds_operand (heeds_checkExpr first around)
      intro key
      apply heeds_operand (heeds_checkExpr second around)
      intro value
      apply (passes_follow _).then
      intro _
      apply (heeds_checkPairs key value rest around).finish
      intro _ _
      exact passes_pure _
  termination_by structural pairs

theorem heeds_checkPairs (key value : Ty) (pairs : List (Expr × Expr)) (around : Surroundings) :
    Heeds around (Place.BrokenIn around (pairs.flatMap fun pair => [pair.1, pair.2])) onward
      (checkPairs key value pairs) := by
  cases pairs with
  | nil =>
      rw [checkPairs]
      exact heeds_noOperand (passes_pure _)
  | cons pair rest =>
      rcases pair with ⟨first, second⟩
      rw [checkPairs]
      apply heeds_operand (heeds_checkExpr first around)
      intro receivedKey
      apply (passes_follow _).then
      intro _
      apply heeds_operand (heeds_checkExpr second around)
      intro receivedValue
      apply (passes_follow _).then
      intro _
      exact heeds_checkPairs key value rest around
  termination_by structural pairs

theorem heeds_checkAttributes (template : Template) (attributes : List (String × Expr))
    (around : Surroundings) :
    Heeds around (Place.BrokenIn around (attributes.map (·.2))) onward
      (checkAttributes template attributes) := by
  cases attributes with
  | nil =>
      rw [checkAttributes]
      exact heeds_noOperand (passes_pure _)
  | cons entry rest =>
      rcases entry with ⟨name, expr⟩
      rw [checkAttributes]
      apply (passes_declaredAttribute template name).then
      intro declared
      apply heeds_operand (heeds_checkExpr expr around)
      intro actual
      apply (passes_follow _).then
      intro _
      exact heeds_checkAttributes template rest around
  termination_by structural attributes

theorem heeds_checkArguments {params : List (String × Ty)} {arguments : List Expr}
    (sameLength : params.length = arguments.length) (around : Surroundings) :
    Heeds around (Place.BrokenIn around arguments) onward (checkArguments params arguments) := by
  cases arguments with
  | nil =>
      rw [checkArguments]
      exact heeds_noOperand (passes_pure _)
  | cons next rest =>
      cases params with
      | nil => contradiction
      | cons param others =>
          rcases param with ⟨name, expected⟩
          rw [checkArguments]
          apply heeds_operand (heeds_checkExpr next around)
          intro received
          apply (passes_follow _).then
          intro _
          exact heeds_checkArguments (Nat.succ.inj sameLength) around
  termination_by structural arguments

theorem heeds_checkBody (block : Block) (around : Surroundings) :
    Heeds around (Place.Broken ⟨.stmts block.body, around⟩)
      (fun _ reachable => reachable = !exitsIn block.body) (checkBody block) := by
  rcases block with ⟨position, body⟩
  rw [checkBody]
  exact heeds_checkStmts body around
  termination_by structural block

theorem heeds_checkStmts (body : List Stmt) (around : Surroundings) :
    Heeds around (Place.Broken ⟨.stmts body, around⟩)
      (fun _ reachable => reachable = !exitsIn body) (checkStmts body) := by
  cases body with
  | nil =>
      rw [checkStmts]
      apply Heeds.congr
      · exact heeds_pure rfl
      · simp [nothing]
  | cons stmt rest =>
      have heeds := heeds_checkStmt stmt around
      cases exiting : stmt.isExiting with
      | true =>
          rw [exiting] at heeds
          rw [exitsIn, exiting]
          exact heeds_exiting rest exiting heeds
      | false =>
          rw [exiting] at heeds
          rw [exitsIn, exiting, checkStmts]
          have reached : Heeds around _ onward (checkStmt stmt) :=
            heeds.mono fun _ _ held => ⟨held, trivial⟩
          have both := reached.bind fun _ _ => heeds_checkStmts rest around
          exact both.congr fun _ _ => by simp [Place.broken_cons, exiting]
  termination_by structural body

theorem heeds_checkStmt (stmt : Stmt) (around : Surroundings) :
    Heeds around (Place.Broken ⟨.stmt stmt, around⟩)
      (fun _ reachable => reachable = !stmt.isExiting) (checkStmt stmt) := by
  cases stmt with
  | varDecl position id name declared initializer =>
      rw [checkStmt]
      apply heeds_plain rfl
      · apply (heeds_checkExpr initializer around).finish
        intro actual _
        exact passes_declareVariable id name declared actual
      · simp [Place.broken_stmt, Stmt.misplacement?, Stmt.operands, Stmt.blocks, Stmt.functions]
  | expression position expr =>
      rw [checkStmt]
      apply heeds_plain rfl (heeds_checkExpr expr around).discard
      simp [Place.broken_stmt, Stmt.misplacement?, Stmt.operands, Stmt.blocks, Stmt.functions]
  | echo position expr =>
      rw [checkStmt]
      apply heeds_plain rfl (heeds_checkExpr expr around).discard
      simp [Place.broken_stmt, Stmt.misplacement?, Stmt.operands, Stmt.blocks, Stmt.functions]
  | block content =>
      rw [checkStmt]
      have inside := heeds_within .block (keeps_checkBody content)
        (heeds_checkBody content around)
      apply heeds_plain rfl inside.discard
      · simp [Place.broken_stmt, Stmt.misplacement?, Stmt.operands, Stmt.blocks, Stmt.functions,
          Stmt.aroundBlocks]
  | ifElse position condition thenBlock elseBlock =>
      rw [checkStmt]
      have inThen := heeds_within .branch (keeps_checkBody thenBlock)
        (heeds_checkBody thenBlock around)
      have inElse := heeds_checkElse elseBlock around
      apply Heeds.congr
      · apply heeds_atStmt
        apply (heeds_checkExpr condition around).bind
        intro type _
        apply (passes_follow _).then
        intro _
        apply (passes_require _ (by simp [FlowFault.isPlacement])).then
        intro _
        apply inThen.bind
        intro first firstReachable
        apply (passes_require _ (by simp [FlowFault.isPlacement])).then
        intro _
        apply inElse.finish
        intro goesOn elseReachable
        have exits : (first.reachable || goesOn) =
            !(Stmt.ifElse position condition thenBlock elseBlock).isExiting := by
          simp [firstReachable, elseReachable, Stmt.isExiting, Block.exits_eq]
        rw [exits]
        exact heeds_closeChoice _
      · simp [Place.broken_stmt, Stmt.misplacement?, Stmt.operands, Stmt.blocks, Stmt.functions,
          Stmt.aroundBlocks]
  | whileLoop position condition body =>
      rw [checkStmt]
      have inside : Heeds around _ _ (within .loop (checkBody body)) :=
        heeds_within .loop (keeps_checkBody body)
          (heeds_checkBody body { around with inLoop := true })
      apply heeds_plain rfl
      · apply (heeds_checkExpr condition around).bind
        intro type _
        apply (passes_follow _).then
        intro _
        exact inside.discard
      · simp [Place.broken_stmt, Stmt.misplacement?, Stmt.operands, Stmt.blocks, Stmt.functions,
          Stmt.aroundBlocks]
  | range position name first last step body =>
      rw [checkStmt]
      have inside := heeds_loop name .int (heeds_checkBody body { around with inLoop := true })
      apply heeds_plain rfl
      · apply (heeds_checkExpr first around).bind
        intro firstType _
        apply (passes_follow _).then
        intro _
        apply (heeds_checkExpr last around).bind
        intro lastType _
        apply (passes_follow _).then
        intro _
        apply (heeds_checkExpr step around).bind
        intro stepType _
        apply (passes_follow _).then
        intro _
        exact inside.discard
      · simp [Place.broken_stmt, Stmt.misplacement?, Stmt.operands, Stmt.blocks, Stmt.functions,
          Stmt.aroundBlocks, or_assoc]
  | each position name iterable body =>
      rw [checkStmt]
      have heeds := heeds_checkBody body { around with inLoop := true }
      apply heeds_plain rfl
      · apply (heeds_checkExpr iterable around).bind
        intro type _
        apply (passes_follow _).then
        intro element
        exact (heeds_loop name element heeds).discard
      · simp [Place.broken_stmt, Stmt.misplacement?, Stmt.operands, Stmt.blocks, Stmt.functions,
          Stmt.aroundBlocks]
  | halt position =>
      rw [checkStmt]
      apply (heeds_leaveRound position .haltOutsideLoop).congr
      simp [Place.broken_stmt, Stmt.misplacement?, Stmt.operands, Stmt.blocks, Stmt.functions,
        Stmt.position, and_assoc]
  | skip position =>
      rw [checkStmt]
      apply (heeds_leaveRound position .skipOutsideLoop).congr
      simp [Place.broken_stmt, Stmt.misplacement?, Stmt.operands, Stmt.blocks, Stmt.functions,
        Stmt.position, and_assoc]
  | returning position value =>
      rw [checkStmt]
      apply (heeds_returning position (heeds_checkReturned value around)).congr
      simp [Place.broken_stmt, Stmt.misplacement?, Stmt.operands, Stmt.blocks, Stmt.functions,
        Stmt.position, and_assoc]
  | fnDecl declaration =>
      rw [checkStmt]
      apply heeds_plain rfl (heeds_checkFnDecl declaration around)
      simp [Place.broken_stmt, Stmt.misplacement?, Stmt.operands, Stmt.blocks, Stmt.functions]
  | templateDecl position name attributes methods =>
      rw [checkStmt]
      apply heeds_plain rfl
      · apply (passes_declareTemplate _).then
        intro _
        apply (passes_prepareMethods _ 0 methods).then
        intro prepared
        exact heeds_checkMethods prepared 0 methods around
      · simp [Place.broken_stmt, Stmt.misplacement?, Stmt.operands, Stmt.blocks, Stmt.functions]
  termination_by structural stmt

theorem heeds_checkElse (elseBlock : Option Block) (around : Surroundings) :
    Heeds around (Place.BrokenBlocks around elseBlock.toList)
      (having fun goesOn => goesOn = !elseExits elseBlock) (checkElse elseBlock) := by
  cases elseBlock with
  | none =>
      rw [checkElse]
      apply Heeds.congr
      · exact heeds_pure ⟨rfl, rfl⟩
      · simp [nothing]
  | some block =>
      rw [checkElse]
      apply Heeds.congr
      · apply (heeds_within .branch (keeps_checkBody block)
          (heeds_checkBody block around)).finish
        intro scope reachable
        apply heeds_pure
        rw [reachable, elseExits, Block.exits_eq]
        exact ⟨rfl, rfl⟩
      · simp
  termination_by structural elseBlock

theorem heeds_checkReturned (value : Option Expr) (around : Surroundings) :
    Heeds around (Place.BrokenIn around value.toList) onward (checkReturned value) := by
  cases value with
  | none =>
      rw [checkReturned]
      exact heeds_noOperand (passes_pure _)
  | some expr =>
      rw [checkReturned]
      apply (heeds_checkExpr expr around).congr
      simp
  termination_by structural value

theorem heeds_checkFnDecl (declaration : FnDecl) (around : Surroundings) :
    Heeds around (Place.Broken ⟨.stmts declaration.body.body, .ofFunction⟩) onward
      (checkFnDecl declaration) := by
  rcases declaration with ⟨position, id, name, signature, body⟩
  rw [checkFnDecl]
  apply passes_scopes.then
  intro stack
  apply (passes_require _ (by simp)).then
  intro _
  apply (passes_mentions _).then
  intro _
  apply (passes_follow _).then
  intro _
  apply (passes_define name _).then
  intro _
  apply (passes_inferResult _ _ _ _).then
  intro prepared
  apply (passes_update name _).then
  intro _
  apply (heeds_inFunction (keeps_checkBody body) (heeds_checkBody body .ofFunction)).finish
  intro resolved _
  apply (passes_replaceFunction name prepared resolved).then
  intro _
  exact passes_modifyAnalysis _
  termination_by structural declaration

theorem heeds_checkMethods (template : Template) (index : Nat) (methods : List FnDecl)
    (around : Surroundings) :
    Heeds around (Place.BrokenFunctions methods) onward (checkMethods template index methods) := by
  cases methods with
  | nil =>
      rw [checkMethods]
      apply (passes_pure ()).congr
      simp [nothing]
  | cons method rest =>
      rcases method with ⟨position, id, name, signature, body⟩
      rw [checkMethods]
      apply Heeds.congr
      · apply (heeds_inFunction (keeps_checkBody body) (heeds_checkBody body .ofFunction)).bind
        intro resolved _
        apply (passes_updateMethod template index resolved).then
        intro updated
        apply (passes_modifyAnalysis _).then
        intro _
        exact heeds_checkMethods updated (index + 1) rest around
      · simp
  termination_by structural methods

end

namespace Program

variable {program : Program}

/-- In an accepted program nothing is misplaced. -/
theorem not_breaks_of_check {analysis : Analysis} (accepted : program.check = .ok analysis)
    {place : Place} (stands : program.Places place) (fault : FlowFault) (position : Position) :
    ¬place.Breaks fault position := by
  have heeded := heeds_checkStmts program.body .outermost CheckState.initial rfl rfl
  rcases ok_of_check accepted with ⟨after, ran, -⟩
  rw [ran] at heeded
  intro breaks
  exact heeded.1 fault position ⟨place, stands, breaks⟩

/-- A program that is refused for a fault of placement breaks this very rule somewhere. -/
theorem breaks_of_check {diagnostic : Diagnostic} (refused : program.check = .error diagnostic)
    {fault : FlowFault} (placement : fault.isPlacement = true)
    (cause : diagnostic.cause = .flow fault) :
    ∃ place, program.Places place ∧ place.Breaks fault diagnostic.position := by
  have heeded := heeds_checkStmts program.body .outermost CheckState.initial rfl rfl
  rcases error_of_check refused with ⟨after, failed⟩
  rw [failed] at heeded
  exact heeded fault placement cause

end Program

/-- In every list of statements of an accepted program, only the last one can be exiting. A program
that is refused for unreachable code has a list in which an exiting statement comes directly before
the statement that is reported. -/
theorem exiting_statements_come_last (program : Program) :
    (∀ analysis, program.check = .ok analysis → ∀ body around before stmt after,
      program.Places ⟨.stmts body, around⟩ → body = before ++ stmt :: after →
        stmt.isExiting = true → after = []) ∧
    ∀ diagnostic, program.check = .error diagnostic →
      diagnostic.cause = .flow .unreachableCode →
        ∃ body around before stmt next after, program.Places ⟨.stmts body, around⟩ ∧
          body = before ++ stmt :: next :: after ∧ stmt.isExiting = true ∧
          next.position = diagnostic.position := by
  constructor
  · rintro analysis accepted body around before stmt after stands rfl exiting
    cases after with
    | nil => rfl
    | cons next after =>
        exact absurd (.unreachable before next after around exiting)
          (Program.not_breaks_of_check accepted stands .unreachableCode next.position)
  · intro diagnostic refused cause
    obtain ⟨place, stands, breaks⟩ := Program.breaks_of_check refused rfl cause
    generalize diagnostic.position = position at breaks
    cases breaks with
    | unreachable before next after around exiting =>
        exact ⟨_, around, before, _, next, after, stands, rfl, exiting, rfl⟩
    | misplaced outside =>
        rcases Stmt.misplacement?_eq_some outside with ⟨_, -, other, -⟩ | ⟨_, -, other, -⟩ |
          ⟨_, _, -, other, -⟩
        · contradiction
        · contradiction
        · contradiction

/-- A loop that is left in both blocks of a choice, with some more statements behind the choice. The
column of a statement is its number. -/
def choiceInLoop (behind : List Stmt) : Program :=
  let place (column : Nat) : Position := { offset := 0, line := 1, column, file := "a" }
  { body :=
      [.varDecl (place 1) 1024 "b" .bool (.boolean true),
       .whileLoop (place 2) (.identifier "b")
         { position := place 3
           body := .ifElse (place 4) (.identifier "b")
             { position := place 5, body := [.halt (place 6)] }
             (some { position := place 7, body := [.skip (place 8)] }) :: behind }] }

theorem choiceInLoop_comes_last :
    (∃ analysis, (choiceInLoop []).check = .ok analysis ∧ ∀ body around before stmt after,
      (choiceInLoop []).Places ⟨.stmts body, around⟩ → body = before ++ stmt :: after →
        stmt.isExiting = true → after = []) ∧
    ∃ diagnostic,
      (choiceInLoop [.echo Position.unknown .null]).check = .error diagnostic ∧
      diagnostic.cause = .flow .unreachableCode ∧
      ∃ body around before stmt next after,
        (choiceInLoop [.echo Position.unknown .null]).Places ⟨.stmts body, around⟩ ∧
          body = before ++ stmt :: next :: after ∧ stmt.isExiting = true ∧
          next.position = diagnostic.position := by
  constructor
  · refine ⟨_, rfl, ?_⟩
    exact (exiting_statements_come_last (choiceInLoop [])).1 _ rfl
  · refine ⟨_, rfl, rfl, ?_⟩
    exact (exiting_statements_come_last (choiceInLoop [.echo Position.unknown .null])).2 _ rfl rfl

/-- In an accepted program rounds are left inside of loops and values are returned inside of
functions. A program that is refused since this is not so has such a statement, at the position
that is reported, with nothing of the kind around it. -/
theorem leaving_statements_are_enclosed (program : Program) :
    (∀ analysis, program.check = .ok analysis → ∀ position around,
      (program.Places ⟨.stmt (.halt position), around⟩ → around.inLoop = true) ∧
      (program.Places ⟨.stmt (.skip position), around⟩ → around.inLoop = true) ∧
      ∀ value, program.Places ⟨.stmt (.returning position value), around⟩ →
        around.inFunction = true) ∧
    ∀ diagnostic, program.check = .error diagnostic →
      (diagnostic.cause = .flow .haltOutsideLoop → ∃ around,
        program.Places ⟨.stmt (.halt diagnostic.position), around⟩ ∧ around.inLoop = false) ∧
      (diagnostic.cause = .flow .skipOutsideLoop → ∃ around,
        program.Places ⟨.stmt (.skip diagnostic.position), around⟩ ∧ around.inLoop = false) ∧
      (diagnostic.cause = .flow .returnOutsideFunction → ∃ value around,
        program.Places ⟨.stmt (.returning diagnostic.position value), around⟩ ∧
          around.inFunction = false) := by
  constructor
  · intro analysis accepted position around
    have enclosed (stmt : Stmt) (stands : program.Places ⟨.stmt stmt, around⟩) :
        stmt.misplacement? around = none := by
      cases outside : stmt.misplacement? around with
      | none => rfl
      | some fault =>
          exact absurd (.misplaced outside)
            (Program.not_breaks_of_check accepted stands fault stmt.position)
    refine ⟨?_, ?_, ?_⟩
    · intro stands
      simpa [Stmt.misplacement?] using enclosed _ stands
    · intro stands
      simpa [Stmt.misplacement?] using enclosed _ stands
    · intro value stands
      simpa [Stmt.misplacement?] using enclosed _ stands
  · intro diagnostic refused
    have exposed {fault : FlowFault} (placement : fault.isPlacement = true)
        (other : fault ≠ .unreachableCode) (cause : diagnostic.cause = .flow fault) :
        ∃ stmt around, program.Places ⟨.stmt stmt, around⟩ ∧
          stmt.misplacement? around = some fault ∧ stmt.position = diagnostic.position := by
      obtain ⟨place, stands, breaks⟩ := Program.breaks_of_check refused placement cause
      generalize diagnostic.position = position at breaks
      cases breaks with
      | unreachable => contradiction
      | misplaced outside => exact ⟨_, _, stands, outside, rfl⟩
    refine ⟨?_, ?_, ?_⟩
    · intro cause
      obtain ⟨stmt, around, stands, outside, same⟩ := exposed rfl (by decide) cause
      rcases Stmt.misplacement?_eq_some outside with ⟨position, rfl, -, outer⟩ |
        ⟨_, -, other, -⟩ | ⟨_, _, -, other, -⟩
      · cases same
        exact ⟨around, stands, outer⟩
      · contradiction
      · contradiction
    · intro cause
      obtain ⟨stmt, around, stands, outside, same⟩ := exposed rfl (by decide) cause
      rcases Stmt.misplacement?_eq_some outside with ⟨_, -, other, -⟩ |
        ⟨position, rfl, -, outer⟩ | ⟨_, _, -, other, -⟩
      · contradiction
      · cases same
        exact ⟨around, stands, outer⟩
      · contradiction
    · intro cause
      obtain ⟨stmt, around, stands, outside, same⟩ := exposed rfl (by decide) cause
      rcases Stmt.misplacement?_eq_some outside with ⟨_, -, other, -⟩ | ⟨_, -, other, -⟩ |
        ⟨position, value, rfl, -, outer⟩
      · contradiction
      · contradiction
      · cases same
        exact ⟨value, around, stands, outer⟩

/-- A function in a loop, with a statement in its body. -/
def functionInLoop (inner : Stmt) : Program :=
  { body :=
      [.whileLoop Position.unknown (.boolean true)
        { position := Position.unknown
          body := [.fnDecl
            { position := Position.unknown, id := 1024, name := "f"
              signature := { result := .void, params := [] }
              body := { position := Position.unknown, body := [inner] } }] }] }

theorem functionInLoop_encloses :
    (∃ analysis, (functionInLoop (.returning Position.unknown none)).check = .ok analysis ∧
      ∀ around, (functionInLoop (.returning Position.unknown none)).Places
        ⟨.stmt (.returning Position.unknown none), around⟩ → around.inFunction = true) ∧
    ∃ diagnostic, (functionInLoop (.halt Position.unknown)).check = .error diagnostic ∧
      ∃ around, (functionInLoop (.halt Position.unknown)).Places
        ⟨.stmt (.halt diagnostic.position), around⟩ ∧ around.inLoop = false := by
  constructor
  · refine ⟨_, rfl, ?_⟩
    intro around
    exact ((leaving_statements_are_enclosed _).1 _ rfl Position.unknown around).2.2 none
  · refine ⟨_, rfl, ?_⟩
    exact ((leaving_statements_are_enclosed _).2 _ rfl).1 rfl

end ScriptCheck
