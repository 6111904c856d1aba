import ScriptCheck.Proofs.Typing.Route

/-!
# What accepted forms consist of

A form that is accepted has been checked step by step, and each step has been accepted in the state
that the steps before it left. For every form of expressions, statements and declarations there is
one lemma that names these steps and the state at the end.
-/

namespace ScriptCheck

open Checker

/-- The expressions that an expression is made of, in the order in which they are checked. The name
of a called function is not among them. -/
def Expr.operands : Expr → List Expr
  | .array elements => elements
  | .set elements => elements
  | .map pairs => pairs.flatMap fun pair => [pair.1, pair.2]
  | .entity _ attributes => attributes.map (·.2)
  | .unary _ _ operand => [operand]
  | .binary _ left right => [left, right]
  | .assignment target value => [target, value]
  | .index base position => [base, position]
  | .call callee arguments => if callee.name?.isSome then arguments else callee :: arguments
  | .member object _ => [object]
  | .methodCall object _ arguments => object :: arguments
  | .integer _ | .float _ | .string _ | .boolean _ | .null | .function .. | .identifier _ => []

/-- The expressions of a statement, apart from those in its blocks. -/
def Stmt.operands : Stmt → List Expr
  | .varDecl _ _ _ _ initializer => [initializer]
  | .expression _ expr => [expr]
  | .ifElse _ condition _ _ => [condition]
  | .whileLoop _ condition _ => [condition]
  | .range _ _ first last step _ => [first, last, step]
  | .each _ _ iterable _ => [iterable]
  | .returning _ value => value.toList
  | .echo _ expr => [expr]
  | .block _ | .halt _ | .skip _ | .fnDecl _ | .templateDecl .. => []

/-- The blocks of a statement that belong to the function around it. -/
def Stmt.blocks : Stmt → List Block
  | .block content => [content]
  | .ifElse _ _ thenBlock elseBlock => thenBlock :: elseBlock.toList
  | .whileLoop _ _ body => [body]
  | .range _ _ _ _ _ body => [body]
  | .each _ _ _ body => [body]
  | .varDecl .. | .expression .. | .halt _ | .skip _ | .returning .. | .fnDecl _ | .echo ..
  | .templateDecl .. => []

/-- The template that a statement declares, with the signatures of its methods as written. -/
def declaredTemplate (name : String) (attributes : List (String × Ty)) (methods : List FnDecl) :
    Template :=
  { name, attributes, methods := methods.map FnDecl.asMethod }

/-- The signature that a method has been prepared with. -/
def Template.preparedMethod (template : Template) (index : Nat) (method : FnDecl) : Signature :=
  (template.methods[index]?.map (·.2)).getD method.signature

/-- The check of expressions one after another. -/
def checkExprs (exprs : List Expr) : Checker Unit :=
  exprs.forM fun expr => discard (checkExpr expr)

namespace CheckState

/-- The state at a statement. -/
def movedTo (state : CheckState) (position : Position) : CheckState :=
  { state with position }

/-- The state in a new scope. -/
def entered (state : CheckState) (kind : ScopeKind) : CheckState :=
  { state with scopes := state.scopes.enter kind }

/-- The state after a name got another type. -/
def updated (state : CheckState) (name : String) (type : Ty) : CheckState :=
  { state with scopes := state.scopes.update name type }

/-- The state after the signature of a function was found. -/
def recorded (state : CheckState) (id : Nat) (signature : Signature) : CheckState :=
  { state with analysis := state.analysis.addFunction id signature }

end CheckState

section Operands

variable {state between after : CheckState}

theorem ok_of_discard {α : Type} {action : Checker α}
    (ran : Functor.discard action state = .ok () after) :
    ∃ value, action state = .ok value after := by
  have opened : (action >>= fun _ => pure ()) state = .ok () after := ran
  rcases ok_of_bind_eq_ok opened with ⟨value, between, ranAction, ended⟩
  rcases EStateM.Result.ok.inj ended with ⟨_, rfl⟩
  exact ⟨value, ranAction⟩

theorem discard_of_ok {α : Type} {action : Checker α} {value : α}
    (ran : action state = .ok value after) : Functor.discard action state = .ok () after :=
  (bind_of_ok ran fun _ => pure ()).trans rfl

/-- Steps that are accepted one after another are each accepted. -/
theorem ok_of_forM_cons {Item : Type} {step : Item → Checker Unit} {item : Item}
    {rest : List Item} (ran : (item :: rest).forM step state = .ok () after) :
    ∃ between, step item state = .ok () between ∧ rest.forM step between = .ok () after := by
  have opened : (step item >>= fun _ => rest.forM step) state = .ok () after := ran
  rcases ok_of_bind_eq_ok opened with ⟨_, between, ranFirst, ranRest⟩
  exact ⟨between, ranFirst, ranRest⟩

theorem checkExprs_cons {expr : Expr} {type : Ty} (rest : List Expr)
    (ran : checkExpr expr state = .ok type between) :
    checkExprs (expr :: rest) state = checkExprs rest between :=
  bind_of_ok (discard_of_ok ran) fun _ => checkExprs rest

theorem keeps_checkExprs (exprs : List Expr) : Keeps Eq (checkExprs exprs) :=
  keeps_forM (fun _ => rfl) (fun _ _ _ => Eq.trans) exprs fun expr _ =>
    (keeps_checkExpr expr).discard

theorem ok_of_checkExprs_cons {expr : Expr} {rest : List Expr}
    (ran : checkExprs (expr :: rest) state = .ok () after) :
    ∃ type between, checkExpr expr state = .ok type between ∧
      checkExprs rest between = .ok () after := by
  rcases ok_of_forM_cons ran with ⟨between, ranFirst, ranRest⟩
  rcases ok_of_discard ranFirst with ⟨type, ranExpr⟩
  exact ⟨type, between, ranExpr, ranRest⟩

theorem checkExprs_of_checkRest {collection : String} {expected : Ty} {elements : List Expr}
    (ran : checkRest collection expected elements state = .ok () after) :
    checkExprs elements state = .ok () after := by
  induction elements generalizing state with
  | nil =>
      rw [checkRest] at ran
      exact ran
  | cons next rest ih =>
      rw [checkRest] at ran
      rcases ok_of_bind_eq_ok ran with ⟨received, between, ranNext, ran⟩
      rcases ok_of_bind_eq_ok ran with ⟨_, same, followed, ranRest⟩
      rw [(ok_of_follow followed).2] at ranRest
      rw [checkExprs_cons rest ranNext]
      exact ih ranRest

theorem checkExprs_of_checkElements {collection : String} {elements : List Expr} {type : Ty}
    (ran : checkElements collection elements state = .ok type after) :
    checkExprs elements state = .ok () after := by
  cases elements with
  | nil =>
      rw [checkElements, pure_apply, EStateM.Result.ok.injEq] at ran
      rw [← ran.2]
      rfl
  | cons first rest =>
      rw [checkElements] at ran
      rcases ok_of_bind_eq_ok ran with ⟨expected, between, ranFirst, ran⟩
      rcases ok_of_bind_eq_ok ran with ⟨_, last, ranRest, ended⟩
      rw [← (EStateM.Result.ok.inj ended).2, checkExprs_cons rest ranFirst]
      exact checkExprs_of_checkRest ranRest

theorem checkExprs_of_checkPairs {key value : Ty} {pairs : List (Expr × Expr)}
    (ran : checkPairs key value pairs state = .ok () after) :
    checkExprs (pairs.flatMap fun pair => [pair.1, pair.2]) state = .ok () after := by
  induction pairs generalizing state with
  | nil =>
      rw [checkPairs] at ran
      exact ran
  | cons pair rest ih =>
      rcases pair with ⟨first, second⟩
      rw [checkPairs] at ran
      rcases ok_of_bind_eq_ok ran with ⟨receivedKey, between, ranKey, ran⟩
      rcases ok_of_bind_eq_ok ran with ⟨_, keyed, followedKey, ran⟩
      rcases ok_of_bind_eq_ok ran with ⟨receivedValue, filled, ranValue, ran⟩
      rcases ok_of_bind_eq_ok ran with ⟨_, same, followedValue, ranRest⟩
      rw [(ok_of_follow followedKey).2] at ranValue
      rw [(ok_of_follow followedValue).2] at ranRest
      rw [List.flatMap_cons, List.cons_append, checkExprs_cons _ ranKey, List.cons_append,
        checkExprs_cons _ ranValue]
      exact ih ranRest

theorem checkExprs_of_checkMap {pairs : List (Expr × Expr)} {type : Ty}
    (ran : checkMap pairs state = .ok type after) :
    checkExprs (pairs.flatMap fun pair => [pair.1, pair.2]) state = .ok () after := by
  cases pairs with
  | nil =>
      rw [checkMap, pure_apply, EStateM.Result.ok.injEq] at ran
      rw [← ran.2]
      rfl
  | cons pair rest =>
      rcases pair with ⟨first, second⟩
      rw [checkMap] at ran
      rcases ok_of_bind_eq_ok ran with ⟨key, between, ranKey, ran⟩
      rcases ok_of_bind_eq_ok ran with ⟨value, filled, ranValue, ran⟩
      rcases ok_of_bind_eq_ok ran with ⟨_, same, followed, ran⟩
      rcases ok_of_bind_eq_ok ran with ⟨_, last, ranRest, ended⟩
      rw [(ok_of_follow followed).2] at ranRest
      rw [← (EStateM.Result.ok.inj ended).2, List.flatMap_cons, List.cons_append,
        checkExprs_cons _ ranKey, List.cons_append, checkExprs_cons _ ranValue]
      exact checkExprs_of_checkPairs ranRest

theorem state_of_declaredAttribute {template : Template} {name : String} {type : Ty}
    (ran : declaredAttribute template name state = .ok type after) : after = state := by
  cases found : template.attribute? name with
  | none =>
      rw [declaredAttribute, found] at ran
      contradiction
  | some declared =>
      rw [declaredAttribute, found] at ran
      exact (EStateM.Result.ok.inj ran).2.symm

theorem checkExprs_of_checkAttributes {template : Template} {attributes : List (String × Expr)}
    (ran : checkAttributes template attributes state = .ok () after) :
    checkExprs (attributes.map (·.2)) state = .ok () after := by
  induction attributes generalizing state with
  | nil =>
      rw [checkAttributes] at ran
      exact ran
  | cons entry rest ih =>
      rcases entry with ⟨name, expr⟩
      rw [checkAttributes] at ran
      rcases ok_of_bind_eq_ok ran with ⟨declared, looked, found, ran⟩
      rcases ok_of_bind_eq_ok ran with ⟨actual, between, ranExpr, ran⟩
      rcases ok_of_bind_eq_ok ran with ⟨_, same, followed, ranRest⟩
      rw [state_of_declaredAttribute found] at ranExpr
      rw [(ok_of_follow followed).2] at ranRest
      rw [List.map_cons, checkExprs_cons _ ranExpr]
      exact ih ranRest

/-- Arguments are all checked where there are as many of them as there are parameters. -/
theorem checkExprs_of_checkArguments {params : List (String × Ty)} {arguments : List Expr}
    (sameLength : params.length = arguments.length)
    (ran : checkArguments params arguments state = .ok () after) :
    checkExprs arguments state = .ok () after := by
  induction arguments generalizing params state with
  | nil =>
      rw [checkArguments] at ran
      exact ran
  | cons next rest ih =>
      cases params with
      | nil => simp at sameLength
      | cons param others =>
          rcases param with ⟨name, expected⟩
          rw [checkArguments] at ran
          rcases ok_of_bind_eq_ok ran with ⟨received, between, ranNext, ran⟩
          rcases ok_of_bind_eq_ok ran with ⟨_, same, followed, ranRest⟩
          rw [(ok_of_follow followed).2] at ranRest
          rw [checkExprs_cons _ ranNext]
          exact ih (by simpa using sameLength) ranRest

theorem length_params_of_called {name : String} {signature found : Signature} {count : Nat}
    {arity : TypeFault} (called : Rule.called name signature count arity = .ok found) :
    found.params.length = count := by
  unfold Rule.called at called
  split at called
  · contradiction
  · rename_i same
    split at called
    · contradiction
    · rw [← Except.ok.inj called]
      exact Classical.not_not.mp same

theorem length_params_of_namedCallee {name : String} {type : Ty} {found : Signature} {count : Nat}
    (called : Rule.namedCallee name type count = .ok found) : found.params.length = count := by
  cases type with
  | function signature => exact length_params_of_called called
  | _ => contradiction

theorem length_params_of_callee {type : Ty} {found : Signature} {count : Nat}
    (called : Rule.callee type count = .ok found) : found.params.length = count := by
  cases type with
  | function signature =>
      rw [Rule.callee] at called
      split at called
      · rename_i same
        rw [← Except.ok.inj called]
        exact same
      · contradiction
  | _ => contradiction

theorem length_params_of_method {object : Ty} {name : String} {found : Signature} {count : Nat}
    (called : Rule.method object name count = .ok found) : found.params.length = count := by
  unfold Rule.method at called
  split at called
  · split at called
    · exact length_params_of_called called
    · contradiction
  · contradiction

/-- A called name is found without a trace, and the signature has a parameter for each argument. -/
theorem ok_of_calledByName {name : String} {count : Nat} {signature : Signature}
    (ran : calledByName name count state = .ok signature after) :
    after = state ∧ signature.params.length = count := by
  rcases ok_of_bind_eq_ok ran with ⟨found, looked, ranLookup, ran⟩
  have same : looked = state := (EStateM.Result.ok.inj ranLookup).2.symm
  cases found with
  | none => contradiction
  | some type =>
      rcases ok_of_follow ran with ⟨called, stayed⟩
      exact ⟨stayed.trans same, length_params_of_namedCallee called⟩

theorem state_of_templateOr {missing : NameFault} {name : String} {template : Template}
    (ran : templateOr missing name state = .ok template after) :
    after = state ∧ state.scopes.lookup? .everywhere name = some (.template template) := by
  rcases ok_of_bind_eq_ok ran with ⟨found, looked, ranLookup, ran⟩
  rcases EStateM.Result.ok.inj ranLookup with ⟨sameFound, rfl⟩
  split at ran
  · rcases EStateM.Result.ok.inj ran with ⟨rfl, rfl⟩
    exact ⟨rfl, sameFound⟩
  · contradiction
  · contradiction

theorem state_of_resolve {type resolved : Ty} (ran : resolve type state = .ok resolved after) :
    after = state := by
  unfold resolve at ran
  split at ran
  · rcases ok_of_bind_eq_ok ran with ⟨template, looked, found, ended⟩
    rw [← (EStateM.Result.ok.inj ended).2]
    exact (state_of_templateOr found).1
  · exact (EStateM.Result.ok.inj ran).2.symm

/-- The operands of an accepted expression are accepted, one after another. -/
theorem checkExprs_operands {expr : Expr} {type : Ty}
    (ran : checkExpr expr state = .ok type after) :
    ∃ after, checkExprs expr.operands state = .ok () after := by
  cases expr with
  | integer value => exact ⟨state, rfl⟩
  | float value => exact ⟨state, rfl⟩
  | string value => exact ⟨state, rfl⟩
  | boolean value => exact ⟨state, rfl⟩
  | null => exact ⟨state, rfl⟩
  | function params body => exact ⟨state, rfl⟩
  | identifier name => exact ⟨state, rfl⟩
  | array elements =>
      rw [checkExpr] at ran
      rcases ok_of_bind_eq_ok ran with ⟨_, _, ran, _⟩
      rcases ok_of_bind_eq_ok ran with ⟨_, between, ranElements, _⟩
      exact ⟨between, checkExprs_of_checkElements ranElements⟩
  | set elements =>
      rw [checkExpr] at ran
      rcases ok_of_bind_eq_ok ran with ⟨_, _, ran, _⟩
      rcases ok_of_bind_eq_ok ran with ⟨_, between, ranElements, _⟩
      exact ⟨between, checkExprs_of_checkElements ranElements⟩
  | map pairs =>
      rw [checkExpr] at ran
      rcases ok_of_bind_eq_ok ran with ⟨_, between, ranPairs, _⟩
      exact ⟨between, checkExprs_of_checkMap ranPairs⟩
  | entity name attributes =>
      rw [checkExpr] at ran
      rcases ok_of_bind_eq_ok ran with ⟨_, _, ran, _⟩
      rcases ok_of_bind_eq_ok ran with ⟨template, looked, found, ran⟩
      rcases ok_of_bind_eq_ok ran with ⟨_, between, ranAttributes, _⟩
      rw [(state_of_templateOr found).1] at ranAttributes
      exact ⟨between, checkExprs_of_checkAttributes ranAttributes⟩
  | unary operator fixity operand =>
      rw [checkExpr] at ran
      rcases ok_of_bind_eq_ok ran with ⟨_, _, ran, _⟩
      rcases ok_of_bind_eq_ok ran with ⟨_, same, followed, ran⟩
      rcases ok_of_bind_eq_ok ran with ⟨_, between, ranOperand, _⟩
      rw [(ok_of_follow followed).2] at ranOperand
      exact ⟨between, checkExprs_cons [] ranOperand⟩
  | binary operator left right =>
      rw [checkExpr] at ran
      rcases ok_of_bind_eq_ok ran with ⟨_, _, ran, _⟩
      rcases ok_of_bind_eq_ok ran with ⟨_, between, ranLeft, ran⟩
      rcases ok_of_bind_eq_ok ran with ⟨_, last, ranRight, _⟩
      exact ⟨last, (checkExprs_cons _ ranLeft).trans (checkExprs_cons [] ranRight)⟩
  | assignment target value =>
      rw [checkExpr] at ran
      rcases ok_of_bind_eq_ok ran with ⟨_, _, ran, _⟩
      rcases ok_of_bind_eq_ok ran with ⟨_, between, ranTarget, ran⟩
      rcases ok_of_bind_eq_ok ran with ⟨_, last, ranValue, _⟩
      exact ⟨last, (checkExprs_cons _ ranTarget).trans (checkExprs_cons [] ranValue)⟩
  | index base index =>
      rw [checkExpr] at ran
      rcases ok_of_bind_eq_ok ran with ⟨_, _, ran, _⟩
      rcases ok_of_bind_eq_ok ran with ⟨_, between, ranBase, ran⟩
      rcases ok_of_bind_eq_ok ran with ⟨_, last, ranIndex, _⟩
      exact ⟨last, (checkExprs_cons _ ranBase).trans (checkExprs_cons [] ranIndex)⟩
  | call callee arguments =>
      rw [checkExpr] at ran
      rcases ok_of_bind_eq_ok ran with ⟨_, _, ran, _⟩
      rcases ok_of_bind_eq_ok ran with ⟨signature, between, ranCallee, ran⟩
      rcases ok_of_bind_eq_ok ran with ⟨_, last, ranArguments, _⟩
      cases called : callee.name? with
      | some name =>
          rw [called] at ranCallee
          rcases ok_of_calledByName ranCallee with ⟨same, sameLength⟩
          rw [same] at ranArguments
          refine ⟨last, ?_⟩
          rw [Expr.operands, called]
          exact checkExprs_of_checkArguments sameLength ranArguments
      | none =>
          rw [called] at ranCallee
          rcases ok_of_bind_eq_ok ranCallee with ⟨_, valued, ranValue, followed⟩
          rcases ok_of_follow followed with ⟨found, same⟩
          rw [same] at ranArguments
          refine ⟨last, ?_⟩
          rw [Expr.operands, called]
          exact (checkExprs_cons arguments ranValue).trans
            (checkExprs_of_checkArguments (length_params_of_callee found) ranArguments)
  | member object name =>
      rw [checkExpr] at ran
      rcases ok_of_bind_eq_ok ran with ⟨_, _, ran, _⟩
      rcases ok_of_bind_eq_ok ran with ⟨_, between, ranObject, _⟩
      exact ⟨between, checkExprs_cons [] ranObject⟩
  | methodCall object name arguments =>
      rw [checkExpr] at ran
      rcases ok_of_bind_eq_ok ran with ⟨_, _, ran, _⟩
      rcases ok_of_bind_eq_ok ran with ⟨_, between, ranObject, ran⟩
      rcases ok_of_bind_eq_ok ran with ⟨signature, same, followed, ran⟩
      rcases ok_of_bind_eq_ok ran with ⟨_, last, ranArguments, _⟩
      rcases ok_of_follow followed with ⟨found, stayed⟩
      rw [stayed] at ranArguments
      exact ⟨last, (checkExprs_cons arguments ranObject).trans
        (checkExprs_of_checkArguments (length_params_of_method found) ranArguments)⟩

end Operands

section Statements

variable {position : Position} {name : String} {state after : CheckState}

theorem after_of_atStmt {action : Checker Unit}
    (ran : atStmt position action state = .ok () after) :
    ∃ last, action (state.movedTo position) = .ok () last ∧
      after = last.movedTo state.position := by
  rw [atStmt_apply (isReachable_of_atStmt ran)] at ran
  rcases ok_of_bind_eq_ok ran with ⟨_, last, ranAction, moved⟩
  exact ⟨last, ranAction, (EStateM.Result.ok.inj moved).2.symm⟩

/-- A choice of names that are accepted in a type has no effect, and they all stand for
templates. -/
theorem ok_of_mentions {names : List String}
    (ran : names.forM (fun name => discard (mentionedTemplate name)) state = .ok () after) :
    after = state ∧ ∀ name ∈ names, ∃ template,
      state.scopes.lookup? .everywhere name = some (.template template) := by
  induction names with
  | nil => exact ⟨(EStateM.Result.ok.inj ran).2.symm, by simp⟩
  | cons first rest ih =>
      rcases ok_of_forM_cons ran with ⟨between, ranFirst, ranRest⟩
      rcases ok_of_discard ranFirst with ⟨template, found⟩
      rcases state_of_templateOr found with ⟨rfl, bound⟩
      rcases ih ranRest with ⟨same, others⟩
      refine ⟨same, fun name member => ?_⟩
      rcases List.mem_cons.mp member with rfl | later
      · exact ⟨template, bound⟩
      · exact others name later

theorem state_of_requireUnbound (ran : requireUnbound name state = .ok () after) :
    after = state := by
  rw [requireUnbound, bind_of_ok (scopes_apply state)] at ran
  cases found : state.scopes.locate? .function name with
  | none =>
      rw [found] at ran
      exact (EStateM.Result.ok.inj ran).2.symm
  | some place =>
      simp only [found] at ran
      split at ran <;> contradiction

theorem locate?_of_requireUnbound (ran : requireUnbound name state = .ok () after) :
    state.scopes.locate? .function name = none := by
  rw [requireUnbound, bind_of_ok (scopes_apply state)] at ran
  cases found : state.scopes.locate? .function name with
  | none => rfl
  | some place =>
      simp only [found] at ran
      split at ran <;> contradiction

theorem ok_of_checkStmt_varDecl {id : Nat} {declared : Ty} {initializer : Expr}
    (ran : checkStmt (.varDecl position id name declared initializer) state = .ok () after) :
    ∃ actual between last, checkExpr initializer (state.movedTo position) = .ok actual between ∧
      declareVariable id name declared actual between = .ok () last ∧
      after = last.movedTo state.position := by
  rw [checkStmt] at ran
  rcases after_of_atStmt ran with ⟨last, ran, ended⟩
  rcases ok_of_bind_eq_ok ran with ⟨actual, between, ranExpr, ranDeclare⟩
  exact ⟨actual, between, last, ranExpr, ranDeclare, ended⟩

theorem ok_of_checkStmt_block {content : Block}
    (ran : checkStmt (.block content) state = .ok () after) :
    ∃ scope last, within .block (checkBody content) (state.movedTo content.position) =
        .ok scope last ∧ after = last.movedTo state.position := by
  rw [checkStmt] at ran
  rcases after_of_atStmt ran with ⟨last, ran, ended⟩
  rcases ok_of_discard ran with ⟨scope, ranBlock⟩
  exact ⟨scope, last, ranBlock, ended⟩

theorem ok_of_checkElse {elseBlock : Option Block} {goesOn : Bool}
    (ran : checkElse elseBlock state = .ok goesOn after) :
    match elseBlock with
    | none => goesOn = true ∧ after = state
    | some block => ∃ scope, within .branch (checkBody block) state = .ok scope after ∧
        goesOn = scope.reachable := by
  cases elseBlock with
  | none =>
      rw [checkElse, pure_apply, EStateM.Result.ok.injEq] at ran
      exact ⟨ran.1.symm, ran.2.symm⟩
  | some block =>
      rw [checkElse] at ran
      rcases ok_of_bind_eq_ok ran with ⟨scope, past, ranElse, ended⟩
      rcases EStateM.Result.ok.inj ended with ⟨rfl, rfl⟩
      exact ⟨scope, ranElse, rfl⟩

/-- Nothing comes after a choice of which no way goes on. -/
theorem ok_of_checkStmt_ifElse {condition : Expr} {thenBlock : Block} {elseBlock : Option Block}
    (ran : checkStmt (.ifElse position condition thenBlock elseBlock) state = .ok () after) :
    ∃ type between first past goesOn last,
      checkExpr condition (state.movedTo position) = .ok type between ∧
      within .branch (checkBody thenBlock) between = .ok first past ∧
      checkElse elseBlock past = .ok goesOn last ∧
      (after = last.movedTo state.position ∨
        after = { last with
          scopes := last.scopes.setUnreachable, position := state.position }) := by
  rw [checkStmt] at ran
  rcases after_of_atStmt ran with ⟨moved, ran, ended⟩
  rcases ok_of_bind_eq_ok ran with ⟨type, between, ranCondition, ran⟩
  rcases ok_of_bind_eq_ok ran with ⟨_, held, followed, ran⟩
  rcases ok_of_bind_eq_ok ran with ⟨_, ready, required, ran⟩
  rcases ok_of_bind_eq_ok ran with ⟨first, past, ranThen, ran⟩
  rcases ok_of_bind_eq_ok ran with ⟨_, allowed, requiredElse, ran⟩
  rcases ok_of_bind_eq_ok ran with ⟨goesOn, last, ranElse, ran⟩
  rw [(ok_of_require required).2, (ok_of_follow followed).2] at ranThen
  rw [(ok_of_require requiredElse).2] at ranElse
  refine ⟨type, between, first, past, goesOn, last, ranCondition, ranThen, ranElse, ?_⟩
  cases open' : first.reachable || goesOn with
  | true =>
      rw [open'] at ran
      rw [ended, ← (EStateM.Result.ok.inj ran).2]
      exact .inl rfl
  | false =>
      rw [open'] at ran
      rw [ended, ← (EStateM.Result.ok.inj ran).2]
      exact .inr rfl

theorem ok_of_checkStmt_whileLoop {condition : Expr} {body : Block}
    (ran : checkStmt (.whileLoop position condition body) state = .ok () after) :
    ∃ type between scope last, checkExpr condition (state.movedTo position) = .ok type between ∧
      within .loop (checkBody body) between = .ok scope last ∧
      after = last.movedTo state.position := by
  rw [checkStmt] at ran
  rcases after_of_atStmt ran with ⟨last, ran, ended⟩
  rcases ok_of_bind_eq_ok ran with ⟨type, between, ranCondition, ran⟩
  rcases ok_of_bind_eq_ok ran with ⟨_, held, followed, ran⟩
  rcases ok_of_discard ran with ⟨scope, ranLoop⟩
  rw [(ok_of_follow followed).2] at ranLoop
  exact ⟨type, between, scope, last, ranCondition, ranLoop, ended⟩

theorem ok_of_checkStmt_range {first last step : Expr} {body : Block}
    (ran : checkStmt (.range position name first last step body) state = .ok () after) :
    ∃ between scope left, checkExprs [first, last, step] (state.movedTo position) =
        .ok () between ∧
      within .loop (do define name .int; checkBody body) between = .ok scope left ∧
      after = left.movedTo state.position := by
  rw [checkStmt] at ran
  rcases after_of_atStmt ran with ⟨left, ran, ended⟩
  rcases ok_of_bind_eq_ok ran with ⟨_, begun, ranFirst, ran⟩
  rcases ok_of_bind_eq_ok ran with ⟨_, _, followedFirst, ran⟩
  rcases ok_of_bind_eq_ok ran with ⟨_, ended', ranLast, ran⟩
  rcases ok_of_bind_eq_ok ran with ⟨_, _, followedLast, ran⟩
  rcases ok_of_bind_eq_ok ran with ⟨_, between, ranStep, ran⟩
  rcases ok_of_bind_eq_ok ran with ⟨_, _, followedStep, ran⟩
  rcases ok_of_discard ran with ⟨scope, ranLoop⟩
  rw [(ok_of_follow followedFirst).2] at ranLast
  rw [(ok_of_follow followedLast).2] at ranStep
  rw [(ok_of_follow followedStep).2] at ranLoop
  refine ⟨between, scope, left, ?_, ranLoop, ended⟩
  rw [checkExprs_cons _ ranFirst, checkExprs_cons _ ranLast, checkExprs_cons _ ranStep]
  rfl

theorem ok_of_checkStmt_each {iterable : Expr} {body : Block}
    (ran : checkStmt (.each position name iterable body) state = .ok () after) :
    ∃ element between scope last,
      checkExpr iterable (state.movedTo position) = .ok (.array element) between ∧
      within .loop (do define name element; checkBody body) between = .ok scope last ∧
      after = last.movedTo state.position := by
  rw [checkStmt] at ran
  rcases after_of_atStmt ran with ⟨last, ran, ended⟩
  rcases ok_of_bind_eq_ok ran with ⟨type, between, ranIterable, ran⟩
  rcases ok_of_bind_eq_ok ran with ⟨element, _, followed, ran⟩
  rcases ok_of_discard ran with ⟨scope, ranLoop⟩
  rcases ok_of_follow followed with ⟨iterated, same⟩
  rw [same] at ranLoop
  cases type with
  | array inner =>
      rw [← Except.ok.inj iterated] at ranLoop
      exact ⟨inner, between, scope, last, ranIterable, ranLoop, ended⟩
  | _ => contradiction

/-- A return statement finds the result of the function where it is still open, and nothing comes
after it. -/
theorem ok_of_checkStmt_returning {value : Option Expr}
    (ran : checkStmt (.returning position value) state = .ok () after) :
    ∃ signature actual between given,
      state.scopes.signature? = some signature ∧
      checkReturned value (state.movedTo position) = .ok actual between ∧
      giveResult signature.result actual between = .ok () given ∧
      after = { given with
        scopes := given.scopes.setUnreachable, position := state.position } := by
  rw [checkStmt] at ran
  rcases after_of_atStmt ran with ⟨last, ran, ended⟩
  rcases ok_of_bind_eq_ok ran with ⟨expected, looked, ranExpected, ran⟩
  rcases ok_of_bind_eq_ok ran with ⟨actual, between, ranValue, ran⟩
  rcases ok_of_bind_eq_ok ran with ⟨_, given, ranGive, leaves⟩
  rw [expectedResult_apply] at ranExpected
  cases nearest : state.scopes.signature? with
  | none =>
      have sameNearest : (state.movedTo position).scopes.signature? = none := nearest
      rw [sameNearest] at ranExpected
      contradiction
  | some signature =>
      have sameNearest : (state.movedTo position).scopes.signature? = some signature := nearest
      rw [sameNearest] at ranExpected
      rcases EStateM.Result.ok.inj ranExpected with ⟨rfl, rfl⟩
      refine ⟨signature, actual, between, given, rfl, ranValue, ranGive, ?_⟩
      rw [ended, ← (EStateM.Result.ok.inj leaves).2]
      rfl

theorem checkExprs_of_checkReturned {value : Option Expr} {actual : Ty}
    (ran : checkReturned value state = .ok actual after) :
    checkExprs value.toList state = .ok () after := by
  cases value with
  | none =>
      rw [checkReturned, pure_apply, EStateM.Result.ok.injEq] at ran
      rw [← ran.2]
      rfl
  | some expr =>
      rw [checkReturned] at ran
      exact checkExprs_cons [] ran

/-- A function is bound with the signature as it is written, then with the prepared one, and at
last with the resolved one where that is another one. -/
theorem ok_of_checkFnDecl {declaration : FnDecl}
    (ran : checkFnDecl declaration state = .ok () after) :
    ∃ declared prepared resolved checked replaced,
      validateSignature declaration.signature state = .ok () state ∧
      define declaration.name (.function declaration.signature) state = .ok () declared ∧
      prepareSignature declaration.signature none declaration.body declared =
        .ok prepared declared ∧
      checkFunction prepared none declaration.body
        (declared.updated declaration.name (.function prepared)) = .ok resolved checked ∧
      replaceFunction declaration.name prepared resolved checked = .ok () replaced ∧
      after = replaced.recorded declaration.id resolved := by
  rcases declaration with ⟨position, id, name, signature, body⟩
  rw [checkFnDecl] at ran
  rcases ok_of_bind_eq_ok ran with ⟨stack, looked, ranScopes, ran⟩
  rcases ok_of_bind_eq_ok ran with ⟨_, free, required, ran⟩
  rcases ok_of_bind_eq_ok ran with ⟨_, valid, ranValid, ran⟩
  rcases ok_of_bind_eq_ok ran with ⟨_, hashable, followed, ran⟩
  rcases ok_of_bind_eq_ok ran with ⟨_, declared, ranDefine, ran⟩
  rcases ok_of_bind_eq_ok ran with ⟨prepared, found, ranPrepare, ran⟩
  rcases ok_of_bind_eq_ok ran with ⟨_, updated, ranUpdate, ran⟩
  rcases ok_of_bind_eq_ok ran with ⟨resolved, checked, ranBody, ran⟩
  rcases ok_of_bind_eq_ok ran with ⟨_, replaced, ranReplace, ranTable⟩
  rw [(ok_of_require required).2, ← (EStateM.Result.ok.inj ranScopes).2] at ranValid
  have sameValid := (ok_of_mentions ranValid).1
  rw [(ok_of_follow followed).2, sameValid] at ranDefine
  rcases inferResult_apply signature none body.firstReturn? (searchBody body) declared with
    ⟨again, prepares⟩
  rw [ranPrepare] at prepares
  rcases EStateM.Result.ok.inj prepares with ⟨rfl, rfl⟩
  rw [← (EStateM.Result.ok.inj ranUpdate).2] at ranBody
  rw [sameValid] at ranValid
  exact ⟨found, prepared, resolved, checked, replaced, ranValid, ranDefine, ranPrepare, ranBody,
    ranReplace, (EStateM.Result.ok.inj ranTable).2.symm⟩

theorem ok_of_checkStmt_fnDecl {declaration : FnDecl}
    (ran : checkStmt (.fnDecl declaration) state = .ok () after) :
    ∃ last, checkFnDecl declaration (state.movedTo declaration.position) = .ok () last ∧
      after = last.movedTo state.position := by
  rw [checkStmt] at ran
  exact after_of_atStmt ran

/-- The types of attributes are accepted after the template is bound. -/
theorem ok_of_declareTemplate {template : Template}
    (ran : declareTemplate template state = .ok () after) :
    state.scopes.lookup? .everywhere template.name = none ∧
      define template.name (.template template) state = .ok () after ∧
      ∀ entry ∈ template.attributes, validate entry.2 after = .ok () after := by
  rcases ok_of_bind_eq_ok ran with ⟨found, looked, ranLookup, ran⟩
  rcases ok_of_bind_eq_ok ran with ⟨_, free, required, ran⟩
  rcases ok_of_bind_eq_ok ran with ⟨_, declared, ranDefine, ranTypes⟩
  rcases EStateM.Result.ok.inj ranLookup with ⟨sameFound, rfl⟩
  rcases ok_of_require required with ⟨unbound, rfl⟩
  have accepted (entries : List (String × Ty))
      (ran : (entries.forM fun entry : String × Ty => do
        validate entry.2; follow entry.2.checkHashable) declared = .ok () after) :
      after = declared ∧ ∀ entry ∈ entries, validate entry.2 declared = .ok () declared := by
    induction entries with
    | nil => exact ⟨(EStateM.Result.ok.inj ran).2.symm, by simp⟩
    | cons first rest ih =>
        rcases ok_of_forM_cons ran with ⟨between, ranFirst, ranRest⟩
        rcases ok_of_bind_eq_ok ranFirst with ⟨_, valid, ranValid, followed⟩
        have sameValid := (ok_of_mentions ranValid).1
        rw [(ok_of_follow followed).2, sameValid] at ranRest
        rw [sameValid] at ranValid
        rcases ih ranRest with ⟨same, others⟩
        refine ⟨same, fun entry member => ?_⟩
        rcases List.mem_cons.mp member with rfl | later
        · exact ranValid
        · exact others entry later
  rcases accepted template.attributes ranTypes with ⟨rfl, valid⟩
  refine ⟨?_, ranDefine, valid⟩
  rw [← sameFound] at unbound
  exact Option.isNone_iff_eq_none.mp unbound

theorem ok_of_checkStmt_templateDecl {attributes : List (String × Ty)} {methods : List FnDecl}
    (ran : checkStmt (.templateDecl position name attributes methods) state = .ok () after) :
    ∃ declared prepared ready last,
      declareTemplate (declaredTemplate name attributes methods) (state.movedTo position) =
        .ok () declared ∧
      prepareMethods (declaredTemplate name attributes methods) 0 methods declared =
        .ok prepared ready ∧
      checkMethods prepared 0 methods ready = .ok () last ∧
      after = last.movedTo state.position := by
  rw [checkStmt] at ran
  rcases after_of_atStmt ran with ⟨last, ran, ended⟩
  rcases ok_of_bind_eq_ok ran with ⟨_, declared, ranDeclare, ran⟩
  rcases ok_of_bind_eq_ok ran with ⟨prepared, ready, ranPrepare, ranMethods⟩
  exact ⟨declared, prepared, ready, last, ranDeclare, ranPrepare, ranMethods, ended⟩

theorem ok_of_prepareMethods_cons {template prepared : Template} {index : Nat} {method : FnDecl}
    {rest : List FnDecl}
    (ran : prepareMethods template index (method :: rest) state = .ok prepared after) :
    ∃ signature, validateSignature method.signature state = .ok () state ∧
      prepareSignature method.signature (some template) method.body state =
        .ok signature state ∧
      prepareMethods (template.setMethod index signature) (index + 1) rest
        (state.updated template.name (.template (template.setMethod index signature))) =
        .ok prepared after := by
  rcases method with ⟨position, id, name, signature, body⟩
  rw [prepareMethods] at ran
  rcases ok_of_bind_eq_ok ran with ⟨_, valid, ranValid, ran⟩
  rcases ok_of_bind_eq_ok ran with ⟨found, looked, ranPrepare, ran⟩
  rcases ok_of_bind_eq_ok ran with ⟨updated, past, ranUpdate, ranRest⟩
  have sameValid := (ok_of_mentions ranValid).1
  rw [sameValid] at ranValid ranPrepare
  rcases inferResult_apply signature (some template) body.firstReturn? (searchBody body) state with
    ⟨again, prepares⟩
  rw [ranPrepare] at prepares
  rcases EStateM.Result.ok.inj prepares with ⟨rfl, rfl⟩
  rcases EStateM.Result.ok.inj ranUpdate with ⟨rfl, rfl⟩
  exact ⟨found, ranValid, ranPrepare, ranRest⟩

theorem ok_of_checkMethods_cons {template : Template} {index : Nat} {method : FnDecl}
    {rest : List FnDecl}
    (ran : checkMethods template index (method :: rest) state = .ok () after) :
    ∃ resolved checked,
      checkFunction (template.preparedMethod index method) (some template) method.body state =
        .ok resolved checked ∧
      checkMethods (template.setMethod index resolved) (index + 1) rest
        ((checked.updated template.name
          (.template (template.setMethod index resolved))).recorded method.id resolved) =
        .ok () after := by
  rcases method with ⟨position, id, name, signature, body⟩
  rw [checkMethods] at ran
  rcases ok_of_bind_eq_ok ran with ⟨resolved, checked, ranBody, ran⟩
  rcases ok_of_bind_eq_ok ran with ⟨updated, past, ranUpdate, ran⟩
  rcases ok_of_bind_eq_ok ran with ⟨_, recorded, ranTable, ranRest⟩
  rcases EStateM.Result.ok.inj ranUpdate with ⟨rfl, rfl⟩
  rcases EStateM.Result.ok.inj ranTable with ⟨_, rfl⟩
  exact ⟨resolved, checked, ranBody, ranRest⟩

theorem ok_of_within {kind : ScopeKind} {action : Checker Unit} {scope : Scope}
    (ran : within kind action state = .ok scope after) :
    ∃ inside, action (state.entered kind) = .ok () inside ∧ exit inside = .ok scope after := by
  rw [within_apply] at ran
  rcases ok_of_bind_eq_ok ran with ⟨_, inside, ranAction, left⟩
  exact ⟨inside, ranAction, left⟩

/-- The body of an accepted function is accepted in the scope of the function. -/
theorem ok_of_checkFunction {signature resolved : Signature} {template : Option Template}
    {body : Block} (ran : checkFunction signature template body state = .ok resolved after) :
    ∃ inside bodyEnd, enterFunction signature template state = .ok () inside ∧
      checkBody body inside = .ok () bodyEnd := by
  rcases ok_of_bind_eq_ok ran with ⟨_, inside, ranEnter, ran⟩
  rcases ok_of_bind_eq_ok ran with ⟨_, bodyEnd, ranBody, _⟩
  exact ⟨inside, bodyEnd, ranEnter, ranBody⟩

theorem ok_of_literal {params : List (String × Ty)} {body : Block} {type : Ty}
    (ran : checkExpr (.function params body) state = .ok type after) :
    ∃ prepared resolved, validateSignature { result := .infer, params } state = .ok () state ∧
      prepareSignature { result := .infer, params } none body state = .ok prepared state ∧
      checkFunction prepared none body state = .ok resolved after ∧ type = .function resolved := by
  rw [checkExpr] at ran
  rcases ok_of_bind_eq_ok ran with ⟨found, last, ran, resolving⟩
  rcases ok_of_bind_eq_ok ran with ⟨_, valid, ranValid, ran⟩
  rcases ok_of_bind_eq_ok ran with ⟨prepared, looked, ranPrepare, ran⟩
  rcases ok_of_bind_eq_ok ran with ⟨resolved, left, ranBody, ended⟩
  have sameValid := (ok_of_mentions ranValid).1
  rw [sameValid] at ranValid ranPrepare
  rcases inferResult_apply { result := .infer, params } none body.firstReturn? (searchBody body)
    state with ⟨again, prepares⟩
  rw [ranPrepare] at prepares
  rcases EStateM.Result.ok.inj prepares with ⟨rfl, rfl⟩
  rcases EStateM.Result.ok.inj ended with ⟨rfl, rfl⟩
  rcases EStateM.Result.ok.inj resolving with ⟨rfl, rfl⟩
  exact ⟨prepared, resolved, ranValid, ranPrepare, ranBody, rfl⟩

end Statements

end ScriptCheck
