import ScriptCheck.Proofs.Typing.Accepted

/-!
# Redeclared and shadowed variables

A variable is redeclared where the innermost scope binds its name, and it is shadowed where only
another scope does that is not outside the nearest function. The scope of the function itself still
counts, and so does the global scope where no function lies around. What is bound further out is of
no account.

Its first value is checked before the name is looked up, which leaves the scopes as they are.
Nothing else in a declaration reports either fault.
-/

namespace ScriptCheck

open Checker

/-- The scopes up to that of the nearest function, from the inside out. -/
def withinFunction : List Scope → List Scope
  | [] => []
  | scope :: outer => scope :: if scope.isFunction then [] else withinFunction outer

namespace ScopeStack

variable {stack : ScopeStack} {name : String}

theorem isSome_locateIn_function (name : String) (scopes : List Scope) :
    (locateIn .function name scopes).isSome = (withinFunction scopes).any (·.binds name) := by
  induction scopes with
  | nil => rfl
  | cons scope outer ih =>
      rw [locateIn, withinFunction, List.any_cons, Scope.binds]
      cases scope.lookup? name with
      | some type => rfl
      | none => cases passed : scope.isFunction <;> simp [ih]

theorem lt_of_locateIn {reach : Reach} {scopes : List Scope} {place : Nat × Ty}
    (located : locateIn reach name scopes = some place) : place.1 < scopes.length := by
  induction scopes with
  | nil => contradiction
  | cons scope outer ih =>
      rw [locateIn] at located
      split at located
      · cases located
        exact Nat.lt_succ_self _
      · split at located
        · contradiction
        · exact Nat.lt_succ_of_lt (ih located)

/-- A name is located in the innermost scope where this scope binds it, and nowhere else. -/
theorem depth_eq_iff_of_locate? {reach : Reach} {place : Nat × Ty}
    (located : stack.locate? reach name = some place) :
    place.1 = stack.depth ↔ stack.inner.binds name = true := by
  rw [locate?, scopes, locateIn] at located
  rw [Scope.binds, depth]
  split at located
  · rename_i type here
    cases located
    simp [here]
  · rename_i missing
    split at located
    · contradiction
    · have further := lt_of_locateIn located
      simp [missing, Nat.ne_of_lt further]

end ScopeStack

namespace Checker

variable {α β : Type} {state after : CheckState} {name : String}

theorem requireUnbound_apply (name : String) (state : CheckState) :
    requireUnbound name state =
      if state.scopes.inner.binds name then
        .error { cause := .naming (.variableRedeclared name), position := state.position } state
      else if (withinFunction state.scopes.scopes).any (·.binds name) then
        .error { cause := .naming (.variableShadowed name), position := state.position } state
      else .ok () state := by
  have found : (state.scopes.locate? .function name).isSome =
      (withinFunction state.scopes.scopes).any (·.binds name) :=
    ScopeStack.isSome_locateIn_function name state.scopes.scopes
  rw [requireUnbound, bind_of_ok (scopes_apply state), ← found]
  cases located : state.scopes.locate? .function name with
  | none =>
      have free : state.scopes.inner.binds name = false := by
        rw [located, ScopeStack.scopes, withinFunction, List.any_cons] at found
        exact (Bool.or_eq_false_iff.mp found.symm).1
      rw [free]
      rfl
  | some place =>
      simp only [← ScopeStack.depth_eq_iff_of_locate? located, Option.isSome_some, if_true]
      split <;> rfl

end Checker

/-! ### Faults of other kinds -/

/-- A variable is bound already. -/
def Cause.rebinds : Cause → Bool
  | .naming (.variableRedeclared _) | .naming (.variableShadowed _) => true
  | _ => false

namespace Checker

variable {action : Checker α} {rest : α → Checker β}

/-- An action never fails since a variable is bound already. -/
def NeverRebinds (action : Checker α) : Prop :=
  ∀ state,
    match action state with
    | .ok _ _ => True
    | .error diagnostic _ => diagnostic.cause.rebinds = false

theorem NeverRebinds.then (never : NeverRebinds action)
    (neverRest : ∀ value, NeverRebinds (rest value)) : NeverRebinds (action >>= rest) := by
  intro state
  have other := never state
  rw [bind_apply]
  cases ran : action state with
  | error diagnostic between =>
      rw [ran] at other
      exact other
  | ok value between => exact neverRest value between

theorem neverRebinds_pure (value : α) : NeverRebinds (pure value) :=
  fun _ => trivial

theorem neverRebinds_fail {cause : Cause} (other : cause.rebinds = false) :
    NeverRebinds (fail cause : Checker α) :=
  fun _ => other

theorem neverRebinds_follow (result : Except TypeFault α) : NeverRebinds (follow result) := by
  cases result with
  | error fault => exact neverRebinds_fail rfl
  | ok value => exact neverRebinds_pure value

theorem neverRebinds_define (name : String) (type : Ty) : NeverRebinds (define name type) := by
  apply NeverRebinds.then fun _ => trivial
  intro stack
  split
  · exact neverRebinds_fail rfl
  · exact fun _ => trivial

theorem neverRebinds_mentionedTemplate (name : String) :
    NeverRebinds (mentionedTemplate name) := by
  apply NeverRebinds.then fun _ => trivial
  intro found
  split
  · exact neverRebinds_pure _
  · exact neverRebinds_fail rfl
  · exact neverRebinds_fail rfl

theorem neverRebinds_validate (type : Ty) : NeverRebinds (validate type) := by
  unfold validate
  induction type.referencedNames with
  | nil => exact neverRebinds_pure ()
  | cons name rest ih =>
      exact ((neverRebinds_mentionedTemplate name).then fun _ => neverRebinds_pure _).then
        fun _ => ih

theorem neverRebinds_variableType (declared actual : Ty) :
    NeverRebinds (variableType declared actual) := by
  unfold variableType
  split
  · exact neverRebinds_pure actual
  · apply (neverRebinds_validate declared).then
    intro _
    unfold resolve
    split
    · exact (neverRebinds_mentionedTemplate _).then fun _ => neverRebinds_pure _
    · exact neverRebinds_pure _

/-- What a declaration does once its name is known to be free. -/
theorem neverRebinds_declare (id : Nat) (name : String) (declared actual : Ty) :
    NeverRebinds (do
      let type ← variableType declared actual
      follow (Rule.initializer name type actual)
      follow type.checkHashable
      define name type
      modifyAnalysis (·.addVariable id type)) := by
  apply (neverRebinds_variableType declared actual).then
  intro type
  apply (neverRebinds_follow _).then
  intro _
  apply (neverRebinds_follow _).then
  intro _
  apply (neverRebinds_define name type).then
  exact fun _ _ => trivial

/-- An action fails for the given cause. -/
def FailsFor (cause : Cause) (action : Checker α) (state : CheckState) : Prop :=
  ∃ diagnostic after, action state = .error diagnostic after ∧ diagnostic.cause = cause

theorem failsFor_of_error {cause : Cause} {diagnostic : Diagnostic}
    (ran : action state = .error diagnostic after) :
    FailsFor cause (action >>= rest) state ↔ diagnostic.cause = cause := by
  rw [FailsFor, bind_of_error ran]
  constructor
  · rintro ⟨_, _, ⟨⟩, same⟩
    exact same
  · exact fun same => ⟨_, _, rfl, same⟩

theorem failsFor_of_ok {cause : Cause} {value : α} (ran : action state = .ok value after) :
    FailsFor cause (action >>= rest) state ↔ FailsFor cause (rest value) after := by
  rw [FailsFor, bind_of_ok ran, FailsFor]

theorem NeverRebinds.not_failsFor (never : NeverRebinds action) {cause : Cause}
    (rebinds : cause.rebinds = true) : ¬FailsFor cause action state := by
  rintro ⟨diagnostic, after, failed, rfl⟩
  have other := never state
  rw [failed] at other
  exact Bool.false_ne_true (other.symm.trans rebinds)

/-- A statement that can be reached fails for the same causes as what it does. -/
theorem failsFor_atStmt {cause : Cause} {position : Position} {action : Checker Unit}
    (reachable : state.scopes.isReachable = true) :
    FailsFor cause (atStmt position action) state ↔
      FailsFor cause action (state.movedTo position) := by
  have ran : atStmt position action state =
      (action >>= fun _ => moveTo state.position) (state.movedTo position) :=
    atStmt_apply reachable action
  rw [FailsFor, FailsFor, ran, bind_apply]
  cases action (state.movedTo position) with
  | error diagnostic after => rfl
  | ok value after => constructor <;> rintro ⟨_, _, ⟨⟩, _⟩

/-- A declaration of a variable fails because of a binding exactly where its name is not free. -/
theorem declareVariable_failsFor (id : Nat) (declared actual : Ty) {cause : Cause}
    (rebinds : cause.rebinds = true) :
    FailsFor cause (declareVariable id name declared actual) state ↔
      if state.scopes.inner.binds name then cause = .naming (.variableRedeclared name)
      else cause = .naming (.variableShadowed name) ∧
        (withinFunction state.scopes.scopes).any (·.binds name) = true := by
  have ran := requireUnbound_apply name state
  rw [declareVariable]
  split at ran
  · rename_i inner
    rw [failsFor_of_error ran, if_pos inner, eq_comm]
  · rename_i free
    rw [if_neg free]
    split at ran
    · rename_i bound
      rw [failsFor_of_error ran, eq_comm, and_iff_left bound]
    · rename_i unbound
      rw [failsFor_of_ok ran]
      exact iff_of_false ((neverRebinds_declare id name declared actual).not_failsFor rebinds)
        fun both => unbound both.2

/-- Whether a declaration with an accepted first value fails because of a binding is decided by the
scopes in front of it, as far as the nearest function. -/
theorem rebinding_of_varDecl {between : CheckState} {position : Position} {id : Nat}
    {declared actual : Ty} {initializer : Expr} (reachable : state.scopes.isReachable = true)
    (accepted : checkExpr initializer (state.movedTo position) = .ok actual between) :
    (∀ other, FailsFor (.naming (.variableRedeclared other))
        (checkStmt (.varDecl position id name declared initializer)) state ↔
      other = name ∧ state.scopes.inner.binds name = true) ∧
    (∀ other, FailsFor (.naming (.variableShadowed other))
        (checkStmt (.varDecl position id name declared initializer)) state ↔
      other = name ∧ state.scopes.inner.binds name = false ∧
        ∃ scope ∈ withinFunction state.scopes.scopes, scope.binds name = true) := by
  have same : between.scopes = state.scopes :=
    ((keeps_checkExpr initializer).of_ok accepted).2.symm
  have declares (cause : Cause) :
      FailsFor cause (checkStmt (.varDecl position id name declared initializer)) state ↔
        FailsFor cause (declareVariable id name declared actual) between := by
    rw [checkStmt, failsFor_atStmt reachable, failsFor_of_ok accepted]
  constructor
  · intro other
    rw [declares, declareVariable_failsFor id declared actual rfl, same]
    split <;> simp [*]
  · intro other
    rw [declares, declareVariable_failsFor id declared actual rfl, same]
    split <;> simp [*]

/-- In a block of a function that binds the name, where the global scope binds it as well. -/
theorem rebinding_of_varDecl_in_block :
    let scope (kind : ScopeKind) : Scope := { kind, symbols := [("x", .int)], reachable := true }
    let scopes : ScopeStack :=
      { inner := Scope.empty .block
        outer := [scope (.function { result := .void, params := [] }), scope .global] }
    let state : CheckState := { CheckState.initial with scopes }
    let stmt : Stmt := .varDecl Position.unknown 0 "x" .infer (.boolean true)
    scopes.isReachable = true ∧
      checkExpr (.boolean true) (state.movedTo Position.unknown) = .ok .bool state ∧
      FailsFor (.naming (.variableShadowed "x")) (checkStmt stmt) state := by
  intro scope scopes state stmt
  have reachable : state.scopes.isReachable = true := rfl
  have accepted : checkExpr (.boolean true) (state.movedTo Position.unknown) = .ok .bool state :=
    rfl
  refine ⟨reachable, accepted,
    ((rebinding_of_varDecl reachable accepted).2 "x").mpr ⟨rfl, rfl, ?_⟩⟩
  exact ⟨scope (.function { result := .void, params := [] }), .tail _ (.head _), rfl⟩

end Checker

end ScriptCheck
