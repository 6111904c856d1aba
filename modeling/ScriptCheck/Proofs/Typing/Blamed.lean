import ScriptCheck.Proofs.Typing.Blaming

/-!
# Every fault is blamed on what is checked

One case for each form of expression and statement: whatever covers it admits every fault of its
check.
-/

namespace ScriptCheck

namespace Checker

variable {blame : Blame}

mutual

theorem blames_checkExpr (expr : Expr) (covers : blame.Covers (.expr expr)) :
    Blames blame anyScopes (checkExpr expr) := by
  have resolved {action : Checker Ty} (blames : Blames blame anyScopes action) :
      Blames blame anyScopes (resolve =<< action) :=
    blames.then fun type => (plain_resolve type).blames
  have operand := covers.operands
  cases expr with
  | integer value => exact resolved (blames_pure _)
  | float value => exact resolved (blames_pure _)
  | string value => exact resolved (blames_pure _)
  | boolean value => exact resolved (blames_pure _)
  | null => exact resolved (blames_pure _)
  | array elements =>
      rw [checkExpr]
      apply resolved
      apply (blames_checkElements "array" elements operand).then
      intro element
      exact blames_pure _
  | set elements =>
      rw [checkExpr]
      apply resolved
      apply (blames_checkElements "set" elements operand).then
      intro element
      exact (blames_follow _).then fun _ => blames_pure _
  | map pairs =>
      rw [checkExpr]
      exact resolved (blames_checkMap pairs operand)
  | entity name attributes =>
      rw [checkExpr]
      apply resolved
      apply (plain_templateOr name (by simp)).blames.then
      intro template
      exact (blames_checkAttributes template attributes operand).then fun _ => blames_pure _
  | function params body =>
      rw [checkExpr]
      apply resolved
      have names := covers.name _ .refl _ List.mem_cons_self
      have blamesBody := blames_checkBody body fun stmt member =>
        covers.held (.literalBody params member)
      apply (plain_mentions _).blames.then
      intro _
      apply blames_prepared
      intro prepared settles
      rw [← Renaming.boundNames_of_settles settles] at names
      apply blames_checked names blamesBody
      intro _ _
      exact blames_pure _
  | identifier name =>
      rw [checkExpr]
      apply resolved
      apply (plain_lookup? _ name).blames.then
      intro found
      cases found with
      | none => exact (plain_fail ⟨rfl, by simp⟩).blames
      | some type => exact blames_pure _
  | unary operator fixity argument =>
      rw [checkExpr]
      apply resolved
      apply (blames_follow _).then
      intro _
      apply (blames_checkExpr argument (operand argument (by simp [Expr.operands]))).then
      intro type
      exact blames_follow _
  | binary operator left right =>
      rw [checkExpr]
      apply resolved
      apply (blames_checkExpr left (operand left (by simp [Expr.operands]))).then
      intro leftType
      apply (blames_checkExpr right (operand right (by simp [Expr.operands]))).then
      intro rightType
      exact blames_follow _
  | assignment target value =>
      rw [checkExpr]
      apply resolved
      apply (blames_checkExpr target (operand target (by simp [Expr.operands]))).then
      intro targetType
      apply (blames_checkExpr value (operand value (by simp [Expr.operands]))).then
      intro valueType
      exact blames_follow _
  | index base index =>
      rw [checkExpr]
      apply resolved
      apply (blames_checkExpr base (operand base (by simp [Expr.operands]))).then
      intro baseType
      apply (blames_checkExpr index (operand index (by simp [Expr.operands]))).then
      intro indexType
      exact blames_follow _
  | call callee arguments =>
      rw [checkExpr]
      apply resolved
      have blamesArguments := blames_checkArguments arguments fun argument member =>
        operand argument (by simp only [Expr.operands]; split <;> simp [member])
      have calls : Blames blame anyScopes
          (calleeSignature callee.name? arguments.length (checkExpr callee)) := by
        cases called : callee.name? with
        | some name => exact (plain_calledByName name _).blames
        | none =>
            have among : callee ∈ (Expr.call callee arguments).operands := by
              simp [Expr.operands, called]
            exact (blames_checkExpr callee (operand callee among)).then fun type =>
              blames_follow _
      apply calls.then
      intro signature
      exact (blamesArguments signature.params).then fun _ => blames_pure _
  | member object name =>
      rw [checkExpr]
      apply resolved
      apply (blames_checkExpr object (operand object (by simp [Expr.operands]))).then
      intro type
      exact blames_follow _
  | methodCall object name arguments =>
      rw [checkExpr]
      apply resolved
      have blamesArguments := blames_checkArguments arguments fun argument member =>
        operand argument (List.mem_cons_of_mem _ member)
      apply (blames_checkExpr object (operand object (by simp [Expr.operands]))).then
      intro type
      apply (blames_follow _).then
      intro signature
      exact (blamesArguments signature.params).then fun _ => blames_pure _
  termination_by structural expr

theorem blames_checkElements (collection : String) (elements : List Expr)
    (covers : ∀ element ∈ elements, blame.Covers (.expr element)) :
    Blames blame anyScopes (checkElements collection elements) := by
  cases elements with
  | nil =>
      rw [checkElements]
      exact blames_pure _
  | cons first rest =>
      rcases List.forall_mem_cons.mp covers with ⟨coversFirst, coversRest⟩
      rw [checkElements]
      apply (blames_checkExpr first coversFirst).then
      intro expected
      apply (blames_checkRest collection expected rest coversRest).then
      intro _
      exact blames_pure _
  termination_by structural elements

theorem blames_checkRest (collection : String) (expected : Ty) (elements : List Expr)
    (covers : ∀ element ∈ elements, blame.Covers (.expr element)) :
    Blames blame anyScopes (checkRest collection expected elements) := by
  cases elements with
  | nil =>
      rw [checkRest]
      exact blames_pure _
  | cons next rest =>
      rcases List.forall_mem_cons.mp covers with ⟨coversNext, coversRest⟩
      rw [checkRest]
      apply (blames_checkExpr next coversNext).then
      intro received
      apply (blames_follow _).then
      intro _
      exact blames_checkRest collection expected rest coversRest
  termination_by structural elements

theorem blames_checkMap (pairs : List (Expr × Expr))
    (covers : ∀ part ∈ pairs.flatMap fun pair => [pair.1, pair.2], blame.Covers (.expr part)) :
    Blames blame anyScopes (checkMap pairs) := by
  cases pairs with
  | nil =>
      rw [checkMap]
      exact blames_pure _
  | cons pair rest =>
      rcases pair with ⟨first, second⟩
      simp only [List.flatMap_cons, List.cons_append, List.nil_append, List.forall_mem_cons]
        at covers
      rcases covers with ⟨coversFirst, coversSecond, coversRest⟩
      rw [checkMap]
      apply (blames_checkExpr first coversFirst).then
      intro key
      apply (blames_checkExpr second coversSecond).then
      intro value
      apply (blames_follow _).then
      intro _
      apply (blames_checkPairs key value rest coversRest).then
      intro _
      exact blames_pure _
  termination_by structural pairs

theorem blames_checkPairs (key value : Ty) (pairs : List (Expr × Expr))
    (covers : ∀ part ∈ pairs.flatMap fun pair => [pair.1, pair.2], blame.Covers (.expr part)) :
    Blames blame anyScopes (checkPairs key value pairs) := by
  cases pairs with
  | nil =>
      rw [checkPairs]
      exact blames_pure _
  | cons pair rest =>
      rcases pair with ⟨first, second⟩
      simp only [List.flatMap_cons, List.cons_append, List.nil_append, List.forall_mem_cons]
        at covers
      rcases covers with ⟨coversFirst, coversSecond, coversRest⟩
      rw [checkPairs]
      apply (blames_checkExpr first coversFirst).then
      intro receivedKey
      apply (blames_follow _).then
      intro _
      apply (blames_checkExpr second coversSecond).then
      intro receivedValue
      apply (blames_follow _).then
      intro _
      exact blames_checkPairs key value rest coversRest
  termination_by structural pairs

theorem blames_checkAttributes (template : Template) (attributes : List (String × Expr))
    (covers : ∀ value ∈ attributes.map (·.2), blame.Covers (.expr value)) :
    Blames blame anyScopes (checkAttributes template attributes) := by
  cases attributes with
  | nil =>
      rw [checkAttributes]
      exact blames_pure _
  | cons entry rest =>
      rcases entry with ⟨name, expr⟩
      rcases List.forall_mem_cons.mp covers with ⟨coversFirst, coversRest⟩
      rw [checkAttributes]
      apply (plain_declaredAttribute template name).blames.then
      intro declared
      apply (blames_checkExpr expr coversFirst).then
      intro actual
      apply (blames_follow _).then
      intro _
      exact blames_checkAttributes template rest coversRest
  termination_by structural attributes

theorem blames_checkArguments (arguments : List Expr)
    (covers : ∀ argument ∈ arguments, blame.Covers (.expr argument))
    (params : List (String × Ty)) : Blames blame anyScopes (checkArguments params arguments) := by
  cases arguments with
  | nil =>
      rw [checkArguments]
      exact blames_pure _
  | cons next rest =>
      rcases List.forall_mem_cons.mp covers with ⟨coversNext, coversRest⟩
      cases params with
      | nil =>
          rw [checkArguments]
          exact blames_pure _
      | cons param others =>
          rcases param with ⟨name, expected⟩
          rw [checkArguments]
          apply (blames_checkExpr next coversNext).then
          intro received
          apply (blames_follow _).then
          intro _
          exact blames_checkArguments rest coversRest others
  termination_by structural arguments

theorem blames_checkBody (block : Block) (covers : ∀ stmt ∈ block.body, blame.Covers (.stmt stmt)) :
    BlamesAnywhere blame (checkBody block) := by
  rcases block with ⟨position, body⟩
  rw [checkBody]
  exact blames_checkStmts body covers
  termination_by structural block

theorem blames_checkStmts (body : List Stmt) (covers : ∀ stmt ∈ body, blame.Covers (.stmt stmt)) :
    BlamesAnywhere blame (checkStmts body) := by
  cases body with
  | nil =>
      rw [checkStmts]
      exact fun _ => rfl
  | cons stmt rest =>
      rcases List.forall_mem_cons.mp covers with ⟨coversFirst, coversRest⟩
      rw [checkStmts]
      exact (blames_checkStmt stmt coversFirst).andThen (blames_checkStmts rest coversRest)
  termination_by structural body

theorem blames_checkStmt (stmt : Stmt) (covers : blame.Covers (.stmt stmt)) :
    BlamesAnywhere blame (checkStmt stmt) := by
  have operand := covers.stmtOperands
  have block := covers.blocks
  have here := covers.here
  cases stmt with
  | varDecl position id name declared initializer =>
      rw [checkStmt]
      apply blames_atStmt here
      apply (blames_checkExpr initializer (operand _ List.mem_cons_self)).then
      intro actual
      exact blames_declareVariable id name declared actual
  | expression position expression =>
      rw [checkStmt]
      apply blames_atStmt here
      exact (blames_checkExpr expression (operand _ List.mem_cons_self)).discard
  | block content =>
      rw [checkStmt]
      apply blames_atStmt here
      have blamesBody := blames_checkBody content (block _ List.mem_cons_self)
      exact (blames_within .block blamesBody.from).discard
  | ifElse position condition thenBlock elseBlock =>
      rw [checkStmt]
      apply blames_atStmt here
      have blamesThen := blames_checkBody thenBlock (block _ List.mem_cons_self)
      have blamesElse := blames_checkElse elseBlock fun branch member =>
        block branch (List.mem_cons_of_mem _ (Option.mem_toList.mpr member))
      apply (blames_checkExpr condition (operand _ List.mem_cons_self)).then
      intro type
      apply (blames_follow _).then
      intro _
      apply (plain_require _ ⟨rfl, by simp⟩).blames.then
      intro _
      apply (blames_within .branch blamesThen.from).then
      intro first
      apply (plain_require _ ⟨rfl, by simp⟩).blames.then
      intro _
      apply blamesElse.then
      intro goesOn
      split
      · exact blames_pure ()
      · exact (plain_modifyScopes _).blames
  | whileLoop position condition body =>
      rw [checkStmt]
      apply blames_atStmt here
      have blamesBody := blames_checkBody body (block _ List.mem_cons_self)
      apply (blames_checkExpr condition (operand _ List.mem_cons_self)).then
      intro type
      apply (blames_follow _).then
      intro _
      exact (blames_within .loop blamesBody.from).discard
  | range position name first last step body =>
      rw [checkStmt]
      apply blames_atStmt here
      have blamesBody := blames_checkBody body (block _ List.mem_cons_self)
      apply (blames_checkExpr first (operand _ (by simp [Stmt.operands]))).then
      intro firstType
      apply (blames_follow _).then
      intro _
      apply (blames_checkExpr last (operand _ (by simp [Stmt.operands]))).then
      intro lastType
      apply (blames_follow _).then
      intro _
      apply (blames_checkExpr step (operand _ (by simp [Stmt.operands]))).then
      intro stepType
      apply (blames_follow _).then
      intro _
      exact (blames_loop name .int blamesBody).discard
  | each position name iterable body =>
      rw [checkStmt]
      apply blames_atStmt here
      have blamesBody := blames_checkBody body (block _ List.mem_cons_self)
      apply (blames_checkExpr iterable (operand _ List.mem_cons_self)).then
      intro type
      apply (blames_follow _).then
      intro element
      exact (blames_loop name element blamesBody).discard
  | halt position =>
      rw [checkStmt]
      exact blames_atStmt here (plain_leaveRound _).blames
  | skip position =>
      rw [checkStmt]
      exact blames_atStmt here (plain_leaveRound _).blames
  | returning position value =>
      rw [checkStmt]
      apply blames_atStmt here
      have blamesValue := blames_checkReturned value fun expr member =>
        operand expr (Option.mem_toList.mpr member)
      apply plain_expectedResult.blames.then
      intro expected
      apply blamesValue.then
      intro actual
      exact blames_returnType expected actual
  | fnDecl declaration =>
      rw [checkStmt]
      apply blames_atStmt here
      apply blames_checkFnDecl declaration
      · exact covers.name _ .refl _ List.mem_cons_self
      · exact fun stmt member => covers.held (.functionBody member)
  | echo position expression =>
      rw [checkStmt]
      apply blames_atStmt here
      exact (blames_checkExpr expression (operand _ List.mem_cons_self)).discard
  | templateDecl position name attributes methods =>
      rw [checkStmt]
      apply blames_atStmt here
      apply (blames_declareTemplate _).then
      intro _
      have declares := declares_declaredTemplate name attributes methods
      have checks (prepared : Template)
          (version : (declaredTemplate name attributes methods).Version prepared) :
          Blames blame anyScopes (checkMethods prepared 0 methods) := by
        apply blames_checkMethods _ prepared 0 methods version declares
        · intro method among
          exact covers.name _ .refl _ (List.mem_map_of_mem among)
        · intro method among stmt member
          exact covers.held (.methodBody position name attributes among member)
      have prepares : Blames blame anyScopes
          (prepareMethods (declaredTemplate name attributes methods) 0 methods) :=
        (plain_prepareMethods _ 0 methods).blames
      apply prepares.relying _ checks
      intro state prepared after ran
      exact Template.Version.of_prepareMethods (.refl _) declares ran
  termination_by structural stmt

theorem blames_checkElse (elseBlock : Option Block)
    (covers : ∀ block ∈ elseBlock, ∀ stmt ∈ block.body, blame.Covers (.stmt stmt)) :
    Blames blame anyScopes (checkElse elseBlock) := by
  cases elseBlock with
  | none =>
      rw [checkElse]
      exact blames_pure _
  | some block =>
      rw [checkElse]
      have blamesBody := blames_checkBody block (covers block rfl)
      exact (blames_within .branch blamesBody.from).then fun _ => blames_pure _
  termination_by structural elseBlock

theorem blames_checkReturned (value : Option Expr)
    (covers : ∀ expr ∈ value, blame.Covers (.expr expr)) :
    Blames blame anyScopes (checkReturned value) := by
  cases value with
  | none =>
      rw [checkReturned]
      exact blames_pure _
  | some expr =>
      rw [checkReturned]
      exact blames_checkExpr expr (covers expr rfl)
  termination_by structural value

theorem blames_checkFnDecl (declaration : FnDecl)
    (names : ∀ name, 2 ≤ (Renaming.boundNames declaration.signature none).count name →
      blame.name name)
    (covers : ∀ stmt ∈ declaration.body.body, blame.Covers (.stmt stmt)) :
    Blames blame anyScopes (checkFnDecl declaration) := by
  rcases declaration with ⟨position, id, name, signature, body⟩
  rw [checkFnDecl]
  apply blames_requireFree ⟨rfl, by simp⟩
  apply (plain_mentions _).blames.carry (keeps_mentions _)
  intro _
  apply (blames_follow _).carry (keeps_follow _)
  intro _
  apply (blames_define name _).then
  intro _
  apply blames_prepared
  intro prepared settles
  rw [← Renaming.boundNames_of_settles settles] at names
  apply Blames.then (plain_modifyScopes _).blames
  intro _
  apply blames_checked names (blames_checkBody body covers)
  intro resolved _
  apply (plain_replaceFunction name prepared resolved).blames.then
  intro _
  exact (plain_modifyAnalysis _).blames
  termination_by structural declaration

theorem blames_checkMethods (written template : Template) (index : Nat) (methods : List FnDecl)
    (version : written.Version template)
    (declares : written.Declares index methods)
    (names : ∀ method ∈ methods, ∀ name,
      2 ≤ (Renaming.boundNames method.signature (some written)).count name → blame.name name)
    (covers : ∀ method ∈ methods, ∀ stmt ∈ method.body.body, blame.Covers (.stmt stmt)) :
    Blames blame anyScopes (checkMethods template index methods) := by
  cases methods with
  | nil =>
      rw [checkMethods]
      exact blames_pure ()
  | cons method rest =>
      rcases List.forall_mem_cons.mp names with ⟨namesFirst, namesRest⟩
      rcases List.forall_mem_cons.mp covers with ⟨coversFirst, coversRest⟩
      have settlesPrepared : method.signature.Settles (template.preparedMethod index method) :=
        version.settles_preparedMethod declares.head
      rw [← Renaming.boundNames_of_version version settlesPrepared] at namesFirst
      rcases method with ⟨position, id, name, signature, body⟩
      rw [checkMethods]
      apply blames_checked namesFirst (blames_checkBody body coversFirst)
      intro resolved settles
      have settled := Template.settles_of_prepared settles
      apply (plain_updateMethod template index resolved).blames.relying
        fun _ _ _ => eq_of_updateMethod
      rintro updated rfl
      apply (plain_modifyAnalysis _).blames.then
      intro _
      exact blames_checkMethods written _ (index + 1) rest (version.setMethod settled)
        declares.tail namesRest coversRest
  termination_by structural methods

end

end Checker

/-- A fault of a program is admitted by what covers all its statements. -/
theorem Program.admits_of_check {blame : Blame} {program : Program} {diagnostic : Diagnostic}
    (covers : ∀ stmt ∈ program.body, blame.Covers (.stmt stmt))
    (refused : program.check = .error diagnostic) : blame.Admits diagnostic := by
  have blamed := Checker.blames_checkStmts program.body covers CheckState.initial
  rcases Program.error_of_check refused with ⟨after, failed⟩
  rw [failed] at blamed
  exact blamed

end ScriptCheck
