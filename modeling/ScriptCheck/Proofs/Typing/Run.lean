import ScriptCheck.Proofs.Run
import ScriptCheck.Typing.Check

/-!
# Running checkers

What the building blocks of the checker answer in a given state. Proofs about the checker open a
block by these equations and never look at how states and faults are passed on. What is found out
about a whole program comes from a run of its statements.
-/

namespace ScriptCheck

namespace Checker

variable {α β : Type}

@[simp]
theorem pure_apply (value : α) (state : CheckState) :
    (pure value : Checker α) state = .ok value state := rfl

@[simp]
theorem get_apply (state : CheckState) : (get : Checker CheckState) state = .ok state state := rfl

@[simp]
theorem scopes_apply (state : CheckState) : scopes state = .ok state.scopes state := rfl

@[simp]
theorem fail_apply (cause : Cause) (state : CheckState) :
    (fail cause : Checker α) state = .error { cause, position := state.position } state := rfl

@[simp]
theorem moveTo_apply (position : Position) (state : CheckState) :
    moveTo position state = .ok () { state with position } := rfl

@[simp]
theorem modifyScopes_apply (change : ScopeStack → ScopeStack) (state : CheckState) :
    modifyScopes change state = .ok () { state with scopes := change state.scopes } := rfl

@[simp]
theorem enter_apply (kind : ScopeKind) (state : CheckState) :
    enter kind state = .ok () { state with scopes := state.scopes.enter kind } := rfl

@[simp]
theorem update_apply (name : String) (type : Ty) (state : CheckState) :
    update name type state = .ok () { state with scopes := state.scopes.update name type } := rfl

@[simp]
theorem updateMethod_apply (template : Template) (index : Nat) (signature : Signature)
    (state : CheckState) :
    updateMethod template index signature state =
      .ok (template.setMethod index signature)
        { state with
          scopes := state.scopes.update template.name
            (.template (template.setMethod index signature)) } := rfl

/-- The template that comes back is the one that is bound from now on. -/
theorem eq_of_updateMethod {template updated : Template} {index : Nat} {signature : Signature}
    {state after : CheckState}
    (ran : updateMethod template index signature state = .ok updated after) :
    updated = template.setMethod index signature := by
  rw [updateMethod_apply] at ran
  exact (EStateM.Result.ok.inj ran).1.symm

@[simp]
theorem lookup?_apply (reach : Reach) (name : String) (state : CheckState) :
    lookup? reach name state = .ok (state.scopes.lookup? reach name) state := rfl

theorem require_apply (holds : Bool) (cause : Cause) (state : CheckState) :
    require holds cause state =
      if holds then .ok () state
      else .error { cause, position := state.position } state := by
  cases holds <;> rfl

theorem ok_of_require {holds : Bool} {cause : Cause} {state after : CheckState}
    (ran : require holds cause state = .ok () after) : holds = true ∧ after = state := by
  cases holds with
  | false => contradiction
  | true => exact ⟨rfl, (EStateM.Result.ok.inj ran).2.symm⟩

theorem follow_apply (result : Except TypeFault α) (state : CheckState) :
    follow result state =
      match result with
      | .ok value => .ok value state
      | .error fault => .error { cause := .typing fault, position := state.position } state := by
  cases result <;> rfl

theorem ok_of_follow {result : Except TypeFault α} {state after : CheckState} {value : α}
    (ran : follow result state = .ok value after) : result = .ok value ∧ after = state := by
  cases result with
  | error fault => contradiction
  | ok other =>
      rcases EStateM.Result.ok.inj ran with ⟨rfl, rfl⟩
      exact ⟨rfl, rfl⟩

theorem exit_apply (state : CheckState) :
    exit state =
      match state.scopes.exit? with
      | none => .error { cause := .flow .globalScopeExit, position := state.position } state
      | some (scope, outside) => .ok scope { state with scopes := outside } := by
  cases left : state.scopes.exit? with
  | none => simp only [exit, bind_apply, scopes_apply, left, fail_apply]
  | some found => simp only [exit, bind_apply, scopes_apply, left, modifyScopes_apply, pure_apply]

theorem define_apply (name : String) (type : Ty) (state : CheckState) :
    define name type state =
      match state.scopes.define? name type with
      | none =>
        .error { cause := .naming (.symbolAlreadyDefined name), position := state.position } state
      | some extended => .ok () { state with scopes := extended } := by
  cases defined : state.scopes.define? name type with
  | none => simp only [define, bind_apply, scopes_apply, defined, fail_apply]
  | some extended => simp only [define, bind_apply, scopes_apply, defined, modifyScopes_apply]

theorem attempt_apply (action : Checker α) (state : CheckState) :
    attempt action state =
      match action state with
      | .ok value after => .ok (some value) after
      | .error _ after => .ok none after := rfl

/-- What is only tried leaves no trace. -/
theorem tentatively_apply (action : Checker α) (state : CheckState) :
    tentatively action state =
      .ok (match action state with | .ok value _ => some value | .error _ _ => none) state := by
  unfold tentatively
  cases action state <;> rfl

/-- A statement that can be reached is checked at its position, and the enclosing position comes
back. -/
theorem atStmt_apply {position : Position} {state : CheckState}
    (reachable : state.scopes.isReachable = true) (action : Checker Unit) :
    atStmt position action state =
      (action >>= fun _ => moveTo state.position) { state with position } := by
  simp only [atStmt, bind_apply, get_apply, moveTo_apply, scopes_apply, require_apply, reachable,
    if_true]

/-- A statement that cannot be reached is refused at its position before anything in it is
checked. -/
theorem atStmt_of_unreachable {state : CheckState}
    (unreachable : state.scopes.isReachable = false) (position : Position)
    (action : Checker Unit) :
    atStmt position action state =
      .error { cause := .flow .unreachableCode, position } { state with position } := by
  simp only [atStmt, bind_apply, get_apply, moveTo_apply, scopes_apply, require_apply, unreachable]
  rfl

theorem isReachable_of_atStmt {position : Position} {action : Checker Unit}
    {state after : CheckState} (ran : atStmt position action state = .ok () after) :
    state.scopes.isReachable = true := by
  cases reachable : state.scopes.isReachable with
  | true => rfl
  | false =>
      rw [atStmt_of_unreachable reachable] at ran
      contradiction

/-- A statement that is accepted can be reached, and only its position is taken back. -/
theorem ok_of_atStmt {position : Position} {action : Checker Unit} {state after : CheckState}
    (ran : atStmt position action state = .ok () after) :
    state.scopes.isReachable = true ∧ ∃ between,
      action { state with position } = .ok () between ∧ between.scopes = after.scopes := by
  have reachable := isReachable_of_atStmt ran
  rw [atStmt_apply reachable] at ran
  rcases ok_of_bind_eq_ok ran with ⟨_, between, ranAction, moved⟩
  refine ⟨reachable, between, ranAction, ?_⟩
  rw [← (EStateM.Result.ok.inj moved).2]

theorem within_apply (kind : ScopeKind) (action : Checker Unit) (state : CheckState) :
    within kind action state =
      (action >>= fun _ => exit) { state with scopes := state.scopes.enter kind } := rfl

theorem expectedResult_apply (state : CheckState) :
    expectedResult state =
      match state.scopes.signature? with
      | some signature => .ok signature.result state
      | none =>
        .error { cause := .flow .returnOutsideFunction, position := state.position } state := by
  cases nearest : state.scopes.signature? with
  | none => simp only [expectedResult, bind_apply, scopes_apply, nearest, fail_apply]
  | some signature => simp only [expectedResult, bind_apply, scopes_apply, nearest, pure_apply]

theorem inferResult_of_known {signature : Signature} (known : signature.result.isInfer = false)
    (template : Option Template) (firstReturn : Option (Option Expr))
    (search : Checker (Option Ty)) (state : CheckState) :
    inferResult signature template firstReturn search state = .ok signature state := by
  rw [inferResult, known]
  rfl

/-- The signature of a function is found before its body without any effect. -/
theorem inferResult_apply (signature : Signature) (template : Option Template)
    (firstReturn : Option (Option Expr)) (search : Checker (Option Ty)) (state : CheckState) :
    ∃ prepared, inferResult signature template firstReturn search state = .ok prepared state := by
  unfold inferResult
  split
  · exact ⟨_, rfl⟩
  · split
    · exact ⟨_, rfl⟩
    · rw [bind_of_ok (tentatively_apply _ state)]
      exact ⟨_, rfl⟩

end Checker

namespace Program

variable {program : Program}

/-- Accepted programs are those whose statements are, and the findings are the last ones. -/
theorem ok_of_check {analysis : Analysis} (accepted : program.check = .ok analysis) :
    ∃ after, checkStmts program.body CheckState.initial = .ok () after ∧
      after.analysis = analysis := by
  unfold check at accepted
  cases ran : checkStmts program.body CheckState.initial with
  | ok value after =>
      rw [ran] at accepted
      exact ⟨after, rfl, Except.ok.inj accepted⟩
  | error diagnostic after =>
      rw [ran] at accepted
      contradiction

theorem error_of_check {diagnostic : Diagnostic} (refused : program.check = .error diagnostic) :
    ∃ after, checkStmts program.body CheckState.initial = .error diagnostic after := by
  unfold check at refused
  cases ran : checkStmts program.body CheckState.initial with
  | ok value after =>
      rw [ran] at refused
      contradiction
  | error found after =>
      rw [ran] at refused
      rcases Except.error.inj refused with rfl
      exact ⟨after, rfl⟩

end Program

end ScriptCheck
