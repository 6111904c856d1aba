import Mathlib
import ScriptCheck.Check
import ScriptCheck.Proofs.Program.Numbered
import ScriptCheck.Proofs.Token.Tiling
import ScriptCheck.Proofs.Typing.Accepted

/-!
# What an analysis covers

A check that succeeds has entries for exactly the declarations in what it checked, whatever was
recorded before. Nothing is passed over, also not the arguments of a call, since there are as many
of them as there are parameters, and nothing is recorded by a search, since its effects are undone.

The induction follows the recursion of the checker, and each form adds what its parts add.
-/

namespace ScriptCheck

namespace Table

variable {α : Type}

/-- The numbers that a table has entries for. -/
def ids (table : Table α) : List Nat :=
  table.map (·.1)

theorem mem_ids_cons (table : Table α) (entry : Nat × α) (id : Nat) :
    id ∈ ids (entry :: table) ↔ id = entry.1 ∨ id ∈ table.ids :=
  List.mem_cons

theorem mem_ids_insert (table : Table α) (id other : Nat) (value : α) :
    other ∈ (table.insert id value).ids ↔ other ∈ table.ids ∨ other = id := by
  induction table with
  | nil => exact (mem_ids_cons [] (id, value) other).trans or_comm
  | cons entry rest ih =>
      rcases entry with ⟨first, old⟩
      rw [insert]
      split
      · exact (mem_ids_cons _ _ other).trans or_comm
      · split
        · rename_i same
          subst same
          simp only [mem_ids_cons]
          rw [or_right_comm, or_self]
        · simp only [mem_ids_cons, ih, or_assoc]

end Table

/-- An analysis has an entry for a declaration. -/
def Analysis.Covers (analysis : Analysis) : Numbered → Prop
  | .variable id => id ∈ analysis.types.ids
  | .function id => id ∈ analysis.signatures.ids

theorem Analysis.covers_addVariable (analysis : Analysis) (id : Nat) (type : Ty)
    (declaration : Numbered) :
    (analysis.addVariable id type).Covers declaration ↔
      analysis.Covers declaration ∨ declaration ∈ [.variable id] := by
  cases declaration with
  | «variable» other => simp [Covers, addVariable, Table.mem_ids_insert]
  | function other => simp [Covers, addVariable]

theorem Analysis.covers_addFunction (analysis : Analysis) (id : Nat) (signature : Signature)
    (declaration : Numbered) :
    (analysis.addFunction id signature).Covers declaration ↔
      analysis.Covers declaration ∨ declaration ∈ [.function id] := by
  cases declaration with
  | «variable» other => simp [Covers, addFunction]
  | function other => simp [Covers, addFunction, Table.mem_ids_insert]

namespace Checker

variable {α β : Type}

/-- Where an action succeeds, it has made entries for the given declarations, and for no others. -/
def Adds (declared : List Numbered) (action : Checker α) : Prop :=
  ∀ state value after, action state = .ok value after → ∀ declaration,
    after.analysis.Covers declaration ↔
      state.analysis.Covers declaration ∨ declaration ∈ declared

section Combinators

variable {first second : List Numbered}

/-- What is known of the value that the first action returned may be needed for the second. -/
theorem Adds.bindReturning {action : Checker α} {rest : α → Checker β} (adds : Adds first action)
    (returned : α → Prop)
    (returns : ∀ state value after, action state = .ok value after → returned value)
    (addsRest : ∀ value, returned value → Adds second (rest value)) :
    Adds (first ++ second) (action >>= rest) := by
  intro state value after ran declaration
  rcases ok_of_bind_eq_ok ran with ⟨found, between, ranAction, ranRest⟩
  have later := addsRest found (returns _ _ _ ranAction) _ _ _ ranRest declaration
  rw [later, adds _ _ _ ranAction declaration, List.mem_append, or_assoc]

theorem Adds.bind {action : Checker α} {rest : α → Checker β} (adds : Adds first action)
    (addsRest : ∀ value, Adds second (rest value)) : Adds (first ++ second) (action >>= rest) :=
  adds.bindReturning (fun _ => True) (fun _ _ _ _ => trivial) fun value _ => addsRest value

/-- What comes after an action that makes no entries decides what is added. -/
theorem Adds.then {action : Checker α} {rest : α → Checker β} (adds : Adds [] action)
    (addsRest : ∀ value, Adds second (rest value)) : Adds second (action >>= rest) :=
  adds.bind addsRest

/-- What comes before an action that makes no entries decides what is added. -/
theorem Adds.finish {action : Checker α} {rest : α → Checker β} (adds : Adds first action)
    (addsRest : ∀ value, Adds [] (rest value)) : Adds first (action >>= rest) := by
  have both := adds.bind addsRest
  rwa [List.append_nil] at both

theorem Adds.discard {action : Checker α} (adds : Adds first action) :
    Adds first (discard action) :=
  adds.finish fun _ _ _ _ ran _ => by simp [← (EStateM.Result.ok.inj ran).2]

/-- An action that leaves the analysis alone makes no entries. -/
theorem adds_nothing {action : Checker α}
    (same : ∀ state value after, action state = .ok value after →
      after.analysis = state.analysis) : Adds [] action := by
  intro state value after ran declaration
  rw [same _ _ _ ran]
  simp

theorem adds_pure (value : α) : Adds [] (pure value : Checker α) :=
  adds_nothing fun _ _ _ ran => by rw [(EStateM.Result.ok.inj ran).2]

theorem adds_fail (cause : Cause) : Adds first (fail cause : Checker α) :=
  fun _ _ _ ran => nomatch ran

theorem adds_scopes : Adds [] scopes :=
  adds_nothing fun _ _ _ ran => by rw [← (EStateM.Result.ok.inj ran).2]

theorem adds_lookup? (reach : Reach) (name : String) : Adds [] (lookup? reach name) :=
  adds_scopes.then fun _ => adds_pure _

theorem adds_modifyScopes (change : ScopeStack → ScopeStack) :
    Adds [] (modifyScopes change) :=
  adds_nothing fun _ _ _ ran => by rw [← (EStateM.Result.ok.inj ran).2]

theorem adds_require (holds : Bool) (cause : Cause) : Adds [] (require holds cause) :=
  adds_nothing fun _ _ _ ran => by rw [(ok_of_require ran).2]

theorem adds_follow (result : Except TypeFault α) : Adds [] (follow result) :=
  adds_nothing fun _ _ _ ran => by rw [(ok_of_follow ran).2]

theorem adds_forM {Item : Type} {step : Item → Checker Unit} (items : List Item)
    (adds : ∀ item, Adds [] (step item)) : Adds [] (items.forM step) := by
  induction items with
  | nil => exact adds_pure ()
  | cons item rest ih => exact (adds item).then fun _ => ih

end Combinators

section Blocks

variable {declared : List Numbered}

theorem adds_templateOr (missing : NameFault) (name : String) :
    Adds [] (templateOr missing name) :=
  adds_nothing fun _ _ _ ran => by rw [(state_of_templateOr ran).1]

theorem adds_resolve (type : Ty) : Adds [] (resolve type) :=
  adds_nothing fun _ _ _ ran => by rw [state_of_resolve ran]

theorem adds_mentions (names : List String) :
    Adds [] (names.forM fun name => Functor.discard (mentionedTemplate name)) :=
  adds_forM names fun _ => (adds_templateOr _ _).discard

theorem adds_inferResult (signature : Signature) (template : Option Template)
    (firstReturn : Option (Option Expr)) (search : Checker (Option Ty)) :
    Adds [] (inferResult signature template firstReturn search) := by
  refine adds_nothing fun state value after ran => ?_
  rcases inferResult_apply signature template firstReturn search state with ⟨found, prepares⟩
  rw [ran] at prepares
  rw [(EStateM.Result.ok.inj prepares).2]

theorem adds_define (name : String) (type : Ty) : Adds [] (define name type) := by
  refine adds_scopes.then fun stack => ?_
  split
  · exact adds_fail _
  · exact adds_modifyScopes _

theorem adds_defineResolved (entries : List (String × Ty)) : Adds [] (defineResolved entries) :=
  adds_forM entries fun _ => (adds_resolve _).then fun _ => adds_define _ _

theorem adds_defineMembers (template : Option Template) : Adds [] (defineMembers template) := by
  cases template with
  | none => exact adds_pure ()
  | some declared =>
      exact (adds_defineResolved _).then fun _ => adds_forM _ fun _ => adds_define _ _

theorem adds_exit : Adds [] exit := by
  refine adds_scopes.then fun stack => ?_
  split
  · exact adds_fail _
  · exact (adds_modifyScopes _).then fun _ => adds_pure _

theorem adds_inFunction (signature : Signature) (template : Option Template)
    {body : Checker Unit} (adds : Adds declared body) :
    Adds declared (inFunction signature template body) := by
  have enters : Adds [] (enterFunction signature template) :=
    (adds_modifyScopes _).then fun _ => (adds_defineMembers template).then fun _ =>
      adds_defineResolved signature.params
  exact enters.then fun _ => adds.finish fun _ => adds_exit.then fun _ => adds_pure _

theorem adds_within (kind : ScopeKind) {action : Checker Unit} (adds : Adds declared action) :
    Adds declared (within kind action) :=
  (adds_modifyScopes _).then fun _ => adds.finish fun _ => adds_exit

theorem adds_atStmt (position : Position) {action : Checker Unit} (adds : Adds declared action) :
    Adds declared (atStmt position action) := by
  intro state value after ran
  rcases after_of_atStmt ran with ⟨last, ranAction, ended⟩
  rw [ended]
  exact adds (state.movedTo position) () last ranAction

theorem adds_calleeSignature (name : Option String) (count : Nat) {value : Checker Ty}
    (adds : name = none → Adds declared value) (unchecked : name ≠ none → declared = []) :
    Adds declared (calleeSignature name count value) := by
  cases name with
  | none => exact (adds rfl).finish fun _ => adds_follow _
  | some name =>
      rw [unchecked nofun]
      exact adds_nothing fun _ _ _ ran => by rw [(ok_of_calledByName ran).1]

theorem adds_declareVariable (id : Nat) (name : String) (type actual : Ty) :
    Adds [.variable id] (declareVariable id name type actual) := by
  have free : Adds [] (requireUnbound name) := by
    refine adds_scopes.then fun stack => ?_
    split
    · exact adds_pure ()
    · split
      · exact adds_fail _
      · exact adds_fail _
  have typed : Adds [] (variableType type actual) := by
    unfold variableType
    split
    · exact adds_pure _
    · exact (adds_mentions _).then fun _ => adds_resolve type
  refine free.then fun _ => typed.then fun type => (adds_follow _).then fun _ => ?_
  refine (adds_follow _).then fun _ => (adds_define name type).then fun _ => ?_
  intro state value after ran declaration
  rw [← (EStateM.Result.ok.inj ran).2]
  exact Analysis.covers_addVariable _ _ _ _

theorem adds_addFunction (id : Nat) (signature : Signature) :
    Adds [.function id] (modifyAnalysis (·.addFunction id signature)) := by
  intro state value after ran declaration
  rw [← (EStateM.Result.ok.inj ran).2]
  exact Analysis.covers_addFunction _ _ _ _

end Blocks

section Forms

theorem length_params_of_calleeSignature {name : Option String} {count : Nat}
    {value : Checker Ty} {signature : Signature} {state after : CheckState}
    (ran : calleeSignature name count value state = .ok signature after) :
    signature.params.length = count := by
  cases name with
  | some name => exact (ok_of_calledByName ran).2
  | none =>
      rcases ok_of_bind_eq_ok ran with ⟨type, between, _, followed⟩
      exact length_params_of_callee (ok_of_follow followed).1

/-- A name declares nothing. -/
theorem numbered_of_name? {expr : Expr} (named : expr.name? ≠ none) : expr.numbered = [] := by
  cases expr with
  | identifier name => rfl
  | _ => exact absurd rfl named

theorem adds_expectedResult : Adds [] expectedResult := by
  refine adds_scopes.then fun stack => ?_
  split
  · exact adds_pure _
  · exact adds_fail _

theorem adds_returnType (expected actual : Ty) : Adds [] (returnType expected actual) := by
  have gives : Adds [] (giveResult expected actual) := by
    unfold giveResult
    split
    · exact adds_modifyScopes _
    · exact adds_follow _
  exact gives.then fun _ => adds_modifyScopes _

theorem adds_leaveRound (outside : FlowFault) : Adds [] (leaveRound outside) :=
  adds_scopes.then fun _ => (adds_require _ _).then fun _ => adds_modifyScopes _

theorem adds_declareTemplate (template : Template) : Adds [] (declareTemplate template) := by
  refine (adds_lookup? _ _).then fun _ => (adds_require _ _).then fun _ => ?_
  refine (adds_define _ _).then fun _ => adds_forM _ fun entry => ?_
  exact (adds_mentions _).then fun _ => adds_follow _

theorem adds_updateMethod (template : Template) (index : Nat) (signature : Signature) :
    Adds [] (updateMethod template index signature) :=
  (adds_modifyScopes _).then fun _ => adds_pure _

theorem adds_replaceFunction (name : String) (prepared resolved : Signature) :
    Adds [] (replaceFunction name prepared resolved) := by
  unfold replaceFunction
  split
  · exact adds_pure ()
  · exact adds_modifyScopes _

/-- Whatever is found out about methods before their bodies are checked is not recorded. -/
theorem adds_prepareMethods (template : Template) (index : Nat) (methods : List FnDecl) :
    Adds [] (prepareMethods template index methods) := by
  induction methods generalizing template index with
  | nil =>
      rw [prepareMethods]
      exact adds_pure _
  | cons method rest ih =>
      rcases method with ⟨position, id, name, signature, body⟩
      rw [prepareMethods]
      refine (adds_mentions _).then fun _ => (adds_inferResult _ _ _ _).then fun prepared => ?_
      exact (adds_updateMethod _ _ _).then fun _ => ih _ _

end Forms

mutual

theorem adds_checkExpr (expr : Expr) : Adds expr.numbered (checkExpr expr) := by
  rw [checkExpr.eq_def]
  refine Adds.finish ?_ adds_resolve
  cases expr with
  | integer value => exact adds_pure _
  | float value => exact adds_pure _
  | string value => exact adds_pure _
  | boolean value => exact adds_pure _
  | null => exact adds_pure _
  | array elements =>
      exact (adds_checkElements "array" elements).finish fun _ => adds_pure _
  | set elements =>
      refine (adds_checkElements "set" elements).finish fun _ => ?_
      exact (adds_follow _).then fun _ => adds_pure _
  | map pairs => exact adds_checkMap pairs
  | entity name attributes =>
      refine (adds_templateOr _ _).then fun template => ?_
      exact (adds_checkAttributes template attributes).finish fun _ => adds_pure _
  | function params body =>
      refine (adds_mentions _).then fun _ => (adds_inferResult _ _ _ _).then fun prepared => ?_
      exact (adds_inFunction prepared none (adds_checkBody body)).finish fun _ => adds_pure _
  | identifier name =>
      refine (adds_lookup? _ _).then fun found => ?_
      split
      · exact adds_pure _
      · exact adds_fail _
  | unary operator fixity operand =>
      refine (adds_follow _).then fun _ => (adds_checkExpr operand).finish fun _ => ?_
      exact adds_follow _
  | binary operator left right =>
      refine (adds_checkExpr left).bind fun _ => (adds_checkExpr right).finish fun _ => ?_
      exact adds_follow _
  | assignment target value =>
      refine (adds_checkExpr target).bind fun _ => (adds_checkExpr value).finish fun _ => ?_
      exact adds_follow _
  | index base index =>
      refine (adds_checkExpr base).bind fun _ => (adds_checkExpr index).finish fun _ => ?_
      exact adds_follow _
  | call callee arguments =>
      have called : Adds callee.numbered
          (calleeSignature callee.name? arguments.length (checkExpr callee)) :=
        adds_calleeSignature _ _ (fun _ => adds_checkExpr callee) numbered_of_name?
      refine called.bindReturning (fun signature => signature.params.length = arguments.length)
        (fun _ _ _ => length_params_of_calleeSignature) fun signature sameLength => ?_
      exact (adds_checkArguments _ _ sameLength).finish fun _ => adds_pure _
  | member object name =>
      exact (adds_checkExpr object).finish fun _ => adds_follow _
  | methodCall object name arguments =>
      refine (adds_checkExpr object).bind fun type => ?_
      have called : Adds [] (follow (Rule.method type name arguments.length)) := adds_follow _
      refine called.bindReturning (fun signature => signature.params.length = arguments.length)
        (fun _ _ _ ran => length_params_of_method (ok_of_follow ran).1)
        fun signature sameLength => ?_
      exact (adds_checkArguments _ _ sameLength).finish fun _ => adds_pure _
  termination_by structural expr

theorem adds_checkElements (collection : String) (elements : List Expr) :
    Adds (numberedInExprs elements) (checkElements collection elements) := by
  cases elements with
  | nil =>
      rw [checkElements]
      exact adds_pure _
  | cons first rest =>
      rw [checkElements]
      refine (adds_checkExpr first).bind fun expected => ?_
      exact (adds_checkRest collection expected rest).finish fun _ => adds_pure _
  termination_by structural elements

theorem adds_checkRest (collection : String) (expected : Ty) (elements : List Expr) :
    Adds (numberedInExprs elements) (checkRest collection expected elements) := by
  cases elements with
  | nil =>
      rw [checkRest]
      exact adds_pure _
  | cons next rest =>
      rw [checkRest]
      refine (adds_checkExpr next).bind fun _ => (adds_follow _).then fun _ => ?_
      exact adds_checkRest collection expected rest
  termination_by structural elements

theorem adds_checkMap (pairs : List (Expr × Expr)) :
    Adds (numberedInPairs pairs) (checkMap pairs) := by
  cases pairs with
  | nil =>
      rw [checkMap]
      exact adds_pure _
  | cons pair rest =>
      rcases pair with ⟨first, second⟩
      rw [checkMap, numberedInPairs, List.append_assoc]
      refine (adds_checkExpr first).bind fun key => (adds_checkExpr second).bind fun value => ?_
      refine (adds_follow _).then fun _ => ?_
      exact (adds_checkPairs key value rest).finish fun _ => adds_pure _
  termination_by structural pairs

theorem adds_checkPairs (key value : Ty) (pairs : List (Expr × Expr)) :
    Adds (numberedInPairs pairs) (checkPairs key value pairs) := by
  cases pairs with
  | nil =>
      rw [checkPairs]
      exact adds_pure _
  | cons pair rest =>
      rcases pair with ⟨first, second⟩
      rw [checkPairs, numberedInPairs, List.append_assoc]
      refine (adds_checkExpr first).bind fun _ => (adds_follow _).then fun _ => ?_
      refine (adds_checkExpr second).bind fun _ => (adds_follow _).then fun _ => ?_
      exact adds_checkPairs key value rest
  termination_by structural pairs

theorem adds_checkAttributes (template : Template) (attributes : List (String × Expr)) :
    Adds (numberedInAttributes attributes) (checkAttributes template attributes) := by
  cases attributes with
  | nil =>
      rw [checkAttributes]
      exact adds_pure _
  | cons entry rest =>
      rcases entry with ⟨name, expr⟩
      rw [checkAttributes]
      have declared : Adds [] (declaredAttribute template name) :=
        adds_nothing fun _ _ _ ran => by rw [state_of_declaredAttribute ran]
      refine declared.then fun _ => (adds_checkExpr expr).bind fun _ => ?_
      exact (adds_follow _).then fun _ => adds_checkAttributes template rest
  termination_by structural attributes

theorem adds_checkArguments (params : List (String × Ty)) (arguments : List Expr)
    (sameLength : params.length = arguments.length) :
    Adds (numberedInExprs arguments) (checkArguments params arguments) := by
  cases arguments with
  | nil =>
      rw [checkArguments]
      exact adds_pure _
  | cons next rest =>
      cases params with
      | nil => simp at sameLength
      | cons param others =>
          rcases param with ⟨name, expected⟩
          rw [checkArguments]
          refine (adds_checkExpr next).bind fun _ => (adds_follow _).then fun _ => ?_
          exact adds_checkArguments others rest (by simpa using sameLength)
  termination_by structural arguments

theorem adds_checkStmt (stmt : Stmt) : Adds stmt.numbered (checkStmt stmt) := by
  rw [checkStmt.eq_def]
  cases stmt with
  | varDecl position id name declared initializer =>
      refine adds_atStmt position ((adds_checkExpr initializer).bind fun actual => ?_)
      exact adds_declareVariable id name declared actual
  | expression position expression =>
      exact adds_atStmt position (adds_checkExpr expression).discard
  | block content =>
      exact adds_atStmt content.position (adds_within .block (adds_checkBody content)).discard
  | ifElse position condition thenBlock elseBlock =>
      rw [Stmt.numbered, List.append_assoc]
      refine adds_atStmt position ((adds_checkExpr condition).bind fun type => ?_)
      refine (adds_follow _).then fun _ => (adds_require _ _).then fun _ => ?_
      refine (adds_within .branch (adds_checkBody thenBlock)).bind fun first => ?_
      refine (adds_require _ _).then fun _ => (adds_checkElse elseBlock).finish fun goesOn => ?_
      split
      · exact adds_pure ()
      · exact adds_modifyScopes _
  | whileLoop position condition body =>
      refine adds_atStmt position ((adds_checkExpr condition).bind fun type => ?_)
      exact (adds_follow _).then fun _ => (adds_within .loop (adds_checkBody body)).discard
  | range position name first last step body =>
      rw [Stmt.numbered, List.append_assoc, List.append_assoc]
      refine adds_atStmt position ((adds_checkExpr first).bind fun _ => (adds_follow _).then ?_)
      refine fun _ => (adds_checkExpr last).bind fun _ => (adds_follow _).then fun _ => ?_
      refine (adds_checkExpr step).bind fun _ => (adds_follow _).then fun _ => ?_
      exact (adds_within .loop ((adds_define name .int).then fun _ => adds_checkBody body)).discard
  | each position name iterable body =>
      refine adds_atStmt position ((adds_checkExpr iterable).bind fun _ => ?_)
      refine (adds_follow _).then fun element => ?_
      refine (adds_within .loop ?_).discard
      exact (adds_define name element).then fun _ => adds_checkBody body
  | halt position => exact adds_atStmt position (adds_leaveRound _)
  | skip position => exact adds_atStmt position (adds_leaveRound _)
  | returning position value =>
      refine adds_atStmt position (adds_expectedResult.then fun expected => ?_)
      exact (adds_checkReturned value).finish fun actual => adds_returnType expected actual
  | fnDecl declaration => exact adds_atStmt declaration.position (adds_checkFnDecl declaration)
  | echo position expression => exact adds_atStmt position (adds_checkExpr expression).discard
  | templateDecl position name attributes methods =>
      refine adds_atStmt position ((adds_declareTemplate _).then fun _ => ?_)
      exact (adds_prepareMethods _ _ _).then fun prepared => adds_checkMethods prepared 0 methods
  termination_by structural stmt

theorem adds_checkElse (elseBlock : Option Block) :
    Adds (numberedInElse elseBlock) (checkElse elseBlock) := by
  cases elseBlock with
  | none =>
      rw [checkElse]
      exact adds_pure _
  | some block =>
      rw [checkElse]
      exact (adds_within .branch (adds_checkBody block)).finish fun _ => adds_pure _
  termination_by structural elseBlock

theorem adds_checkReturned (value : Option Expr) :
    Adds (numberedInReturned value) (checkReturned value) := by
  cases value with
  | none =>
      rw [checkReturned]
      exact adds_pure _
  | some expr =>
      rw [checkReturned]
      exact adds_checkExpr expr
  termination_by structural value

theorem adds_checkBody (block : Block) : Adds block.numbered (checkBody block) := by
  rcases block with ⟨position, body⟩
  rw [checkBody]
  exact adds_checkStmts body
  termination_by structural block

theorem adds_checkStmts (body : List Stmt) : Adds (numberedInBody body) (checkStmts body) := by
  cases body with
  | nil =>
      rw [checkStmts]
      exact adds_pure _
  | cons stmt rest =>
      rw [checkStmts]
      exact (adds_checkStmt stmt).bind fun _ => adds_checkStmts rest
  termination_by structural body

theorem adds_checkFnDecl (declaration : FnDecl) :
    Adds declaration.numbered (checkFnDecl declaration) := by
  rcases declaration with ⟨position, id, name, signature, body⟩
  rw [checkFnDecl]
  refine adds_scopes.then fun _ => (adds_require _ _).then fun _ => ?_
  refine (adds_mentions _).then fun _ => (adds_follow _).then fun _ => ?_
  refine (adds_define _ _).then fun _ => (adds_inferResult _ _ _ _).then fun prepared => ?_
  refine (adds_modifyScopes _).then fun _ => ?_
  refine (adds_inFunction prepared none (adds_checkBody body)).bind fun resolved => ?_
  exact (adds_replaceFunction _ _ _).then fun _ => adds_addFunction id resolved
  termination_by structural declaration

theorem adds_checkMethods (template : Template) (index : Nat) (methods : List FnDecl) :
    Adds (numberedInMethods methods) (checkMethods template index methods) := by
  cases methods with
  | nil =>
      rw [checkMethods]
      exact adds_pure _
  | cons method rest =>
      rcases method with ⟨position, id, name, signature, body⟩
      rw [checkMethods, numberedInMethods, FnDecl.numbered, List.append_assoc]
      refine (adds_inFunction _ _ (adds_checkBody body)).bind fun resolved => ?_
      refine (adds_updateMethod _ _ _).then fun updated => ?_
      exact (adds_addFunction id resolved).bind fun _ => adds_checkMethods updated _ rest
  termination_by structural methods

end

end Checker

/-- What the check of a program finds out has entries for exactly the declarations in it. -/
theorem Program.check_covers {program : Program} {analysis : Analysis}
    (accepted : program.check = .ok analysis) (declaration : Numbered) :
    analysis.Covers declaration ↔ declaration ∈ program.numbered := by
  rcases Program.ok_of_check accepted with ⟨after, ran, rfl⟩
  rw [Checker.adds_checkStmts program.body _ _ _ ran declaration]
  refine or_iff_right fun covered => ?_
  cases declaration <;> exact List.not_mem_nil covered

/-- The analysis of an accepted source text has entries for exactly the variables, functions and
methods that are declared anywhere in the program. -/
theorem analysis_covers_program {source file : String} {program : Program} {analysis : Analysis}
    (accepted : checkSource source file = .ok (program, analysis)) :
    (∀ id, id ∈ analysis.types.ids ↔ .variable id ∈ program.numbered) ∧
      ∀ id, id ∈ analysis.signatures.ids ↔ .function id ∈ program.numbered := by
  have checked : program.check = .ok analysis := by
    unfold checkSource at accepted
    cases tokenized : tokenize source file with
    | error diagnostic =>
        rw [tokenized] at accepted
        contradiction
    | ok tokens =>
        rw [tokenized] at accepted
        cases parsed : Program.ofTokens tokens file with
        | error diagnostic =>
            simp [bind, Except.bind, parsed] at accepted
        | ok found =>
            simp only [bind, Except.bind, parsed] at accepted
            cases checked : found.check with
            | error diagnostic =>
                rw [checked] at accepted
                contradiction
            | ok entries =>
                rw [checked] at accepted
                rcases Except.ok.inj accepted with ⟨rfl, rfl⟩
                exact checked
  exact ⟨fun id => Program.check_covers checked (.variable id),
    fun id => Program.check_covers checked (.function id)⟩

/-- A variable in a function without a name, which stands in a function. -/
def innerVariable : String :=
  "func f->infer=[]>>\x7binfer g=func[]>>\x7bbool x=true;\x7d;\x7d"

def innerVariableTokens : List Token :=
  let place (offset : Nat) : Position := { offset, line := 1, column := offset + 1, file := "a" }
  let token (kind : Kind) (value : String) (first last : Nat) : Token :=
    { kind, value, start := place first, stop := place last }
  [token .funcWord "func" 0 4, token .identifier "f" 5 6, token .returnArrow "->" 6 8,
   token .inferWord "infer" 8 13, token .assignment "=" 13 14, token .openBracket "[" 14 15,
   token .closeBracket "]" 15 16, token .arrow ">>" 16 18, token .openCurly "\x7b" 18 19,
   token .inferWord "infer" 19 24, token .identifier "g" 25 26, token .assignment "=" 26 27,
   token .funcWord "func" 27 31, token .openBracket "[" 31 32, token .closeBracket "]" 32 33,
   token .arrow ">>" 33 35, token .openCurly "\x7b" 35 36, token .boolWord "bool" 36 40,
   token .identifier "x" 41 42, token .assignment "=" 42 43, token .booleanLiteral "true" 43 47,
   token .semicolon ";" 47 48, token .closeCurly "\x7d" 48 49, token .semicolon ";" 49 50,
   token .closeCurly "\x7d" 50 51, Token.eofAt (place 51)]

def innerVariableProgram : Program :=
  let place (offset : Nat) : Position := { offset, line := 1, column := offset + 1, file := "a" }
  ⟨[.fnDecl ⟨place 0, 1026, "f", { result := .infer, params := [] }, ⟨place 18,
      [.varDecl (place 19) 1025 "g" .infer (.function [] ⟨place 35,
        [.varDecl (place 36) 1024 "x" .bool (.boolean true)]⟩)]⟩⟩]⟩

def innerVariableAnalysis : Analysis where
  types := [(1024, .bool), (1025, .function { result := .void, params := [] })]
  signatures := [(1026, { result := .void, params := [] })]

theorem innerVariable_covered :
    checkSource innerVariable "a" = .ok (innerVariableProgram, innerVariableAnalysis) ∧
      (∀ id, id ∈ innerVariableAnalysis.types.ids ↔
        .variable id ∈ innerVariableProgram.numbered) ∧
      ∀ id, id ∈ innerVariableAnalysis.signatures.ids ↔
        .function id ∈ innerVariableProgram.numbered := by
  have tokenized : tokenize innerVariable "a" = .ok innerVariableTokens := by
    apply Option.some.inj
    rw [tokenize, ← tokensWithin_eq (Nat.le_refl innerVariable.toList.length)]
    rfl
  have parsed : Program.ofTokens innerVariableTokens "a" = .ok innerVariableProgram := by cbv
  have checked : innerVariableProgram.check = .ok innerVariableAnalysis := by cbv
  have accepted : checkSource innerVariable "a" =
      .ok (innerVariableProgram, innerVariableAnalysis) := by
    simp only [checkSource, tokenized, parsed, checked, bind, Except.bind, pure, Except.pure]
  exact ⟨accepted, analysis_covers_program accepted⟩

end ScriptCheck
