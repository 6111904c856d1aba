import ScriptCheck.Proofs.Typing.Mirror
import ScriptCheck.Proofs.Typing.Route

/-!
# Declaring the result in advance

The check of a function whose result is still to be found, next to that of the same function with a
declared result. Up to the first return statement both go the same way, because nothing but a
return statement looks at the result. There the first one finds its result. If the declared one is
the same, the runs are one from then on, and if the returned type does not agree with it, the
second one fails.
-/

namespace ScriptCheck

open Checker

/-- The state in which the nearest function has the given result. -/
def CheckState.answered (state : CheckState) (result : Ty) : CheckState :=
  { state with scopes := state.scopes.setResult result }

/-- The likeness of runs that differ in the results of functions only. -/
def Likeness.answering : Likeness where
  veiled := False
  sameLoops := True
  unveiled := fun _ => False.elim
  tables := Eq
  addVariable := Likeness.eq_addVariable
  addFunction := Likeness.eq_addFunction

namespace Likeness

theorem answering_eq_of_types {first second : Ty} (types : answering.Types first second) :
    first = second :=
  types.resolve_right fun veiled => veiled.1

theorem scopes_setResult (scope : Scope) (result : Ty) :
    answering.Scopes scope (scope.setResult result) := by
  rcases scope with ⟨kind, symbols, reachable⟩
  cases kind with
  | function signature => exact ⟨rfl, fun _ => rfl, rfl, fun name => option_rel_refl Types.refl _⟩
  | global | block | loop | branch => exact Scopes.refl _

theorem states_answered (state : CheckState) (result : Ty) :
    answering.States [] state (state.answered result) := by
  refine ⟨rfl, rfl, [], List.Sublist.refl [], .base (by simp [ScopeStack.scopes]) ?_⟩
  rw [CheckState.answered, ScopeStack.setResult, ScopeStack.scopes_modifyInnermost]
  generalize state.scopes.scopes = scopes
  induction scopes with
  | nil => exact .nil
  | cons scope outer ih =>
      simp only [ScopeStack.modifyFirst]
      split
      · refine .cons (scopes_setResult scope result) ?_
        exact List.forall₂_same.mpr fun other _ => Scopes.refl other
      · exact .cons (Scopes.refl scope) ih

end Likeness

namespace ScopeStack

theorem setResult_enter {kind : ScopeKind} (stack : ScopeStack) (result : Ty)
    (outside : (Scope.empty kind).isFunction = false) :
    (stack.enter kind).setResult result = (stack.setResult result).enter kind := by
  rcases stack with ⟨inner, outer⟩
  by_cases function : inner.isFunction = true
  · simp [enter, setResult, modifyInnermost, modifyFirst, outside, scopes, function]
  · simp [enter, setResult, modifyInnermost, modifyFirst, outside, scopes, function]

theorem inner_symbols_setResult (stack : ScopeStack) (result : Ty) :
    (stack.setResult result).inner.symbols = stack.inner.symbols := by
  by_cases function : stack.inner.isFunction = true
  · simp [setResult, modifyInnermost, function]
  · simp [setResult, modifyInnermost, function]

/-- The innermost scopes bind the same where they have gained the same name. -/
theorem symbols_eq_of_gained {declared : Option String} {returns returns' : Prop}
    {before before' after other : ScopeStack} (first : before.Gained declared returns after)
    (second : before'.Gained declared returns' other)
    (same : before'.inner.symbols = before.inner.symbols)
    (alike : Likeness.answering.Scopes after.inner other.inner) :
    other.inner.symbols = after.inner.symbols := by
  have unbound {name : String} {scope : Scope} (free : scope.binds name = false) :
      List.lookup name scope.symbols = none := by
    simpa [Scope.binds, Scope.lookup?] using free
  rcases first.symbols with kept | ⟨name, type, declares, free, gained⟩
  · rcases second.symbols with kept' | ⟨name', type', _, free', gained'⟩
    · rw [kept', same, kept]
    · have names := alike.names name'
      rw [Scope.lookup?, Scope.lookup?, kept, gained', List.lookup_cons_self, ← same,
        unbound free'] at names
      contradiction
  · rcases second.symbols with kept' | ⟨name', type', declares', free', gained'⟩
    · have names := alike.names name
      rw [Scope.lookup?, Scope.lookup?, gained, kept', List.lookup_cons_self, same,
        unbound free] at names
      contradiction
    · rw [declares, Option.some.injEq] at declares'
      subst declares'
      have names := alike.names name
      rw [Scope.lookup?, Scope.lookup?, gained, gained', List.lookup_cons_self,
        List.lookup_cons_self] at names
      cases names with
      | some types => rw [gained, gained', same, Likeness.answering_eq_of_types types]

/-- Two stacks that have gained the same, one of them from a stack with another result. -/
theorem eq_setResult_of_gained {declared : Option String} {before after other : ScopeStack}
    {result : Ty} (first : before.Gained declared False after)
    (second : (before.setResult result).Gained declared False other)
    (alike : Likeness.answering.Scopes after.inner other.inner) :
    other = after.setResult result := by
  have sameFirst := Settled.eq_of_not_returns first.kept (fun never => never)
  have sameSecond := Settled.eq_of_not_returns second.kept (fun never => never)
  have sameSymbols := symbols_eq_of_gained first second
    (inner_symbols_setResult before result) alike
  have sameReachable := alike.reachable
  rcases before with ⟨⟨kind, symbols, reachable⟩, outer⟩
  rcases after with ⟨⟨kind', symbols', reachable'⟩, outer'⟩
  rcases other with ⟨⟨kind'', symbols'', reachable''⟩, outer''⟩
  simp only [scopes, restored, List.cons.injEq, Scope.mk.injEq, and_true] at sameFirst
  simp only at sameSymbols sameReachable
  rcases sameFirst with ⟨rfl, rfl⟩
  subst sameSymbols sameReachable
  cases kind' with
  | function signature =>
      simp only [scopes, restored, setResult, modifyInnermost, Scope.isFunction, Scope.signature?,
        Option.isSome_some, if_true, Scope.setResult, List.cons.injEq, Scope.mk.injEq, and_true]
        at sameSecond ⊢
      rw [sameSecond.1, sameSecond.2]
  | global | block | loop | branch =>
      simp only [scopes, restored, setResult, modifyInnermost, Scope.isFunction, Scope.signature?,
        Option.isSome_none, Bool.false_eq_true, if_false, List.cons.injEq, Scope.mk.injEq,
        and_true] at sameSecond ⊢
      rw [sameSecond.1, sameSecond.2]

end ScopeStack

namespace Checker

variable {α β : Type}

/-- Wherever an action succeeds, it succeeds with the same value where the nearest function has the
given result, and changes nothing else than there. -/
def Ignores (result : Ty) (action : Checker α) : Prop :=
  ∀ state value after, action state = .ok value after →
    action (state.answered result) = .ok value (after.answered result)

variable {result : Ty}

theorem ignores_of_gained {declared : Option String} {action : Checker α}
    (mirrors : Likeness.answering.Mirrors [] [] action)
    (keeps : Keeps (ScopeStack.Gained declared False) action) : Ignores result action := by
  intro state value after ran
  have outcomes := mirrors state (state.answered result) (Likeness.states_answered state result)
  have keptFirst := keeps state
  have keptSecond := keeps (state.answered result)
  rw [ran] at outcomes keptFirst
  generalize action (state.answered result) = ranSecond at outcomes keptSecond
  cases outcomes with
  | @ok _ _ other alike =>
      -- That the outcomes are alike leaves the names of the innermost scope open up to their types.
      have sameScopes := ScopeStack.eq_setResult_of_gained keptFirst.2 keptSecond.2 alike.inner
      rcases other with ⟨scopes, analysis, position⟩
      simp only [CheckState.answered, EStateM.Result.ok.injEq, CheckState.mk.injEq, true_and]
      exact ⟨sameScopes, alike.analysis.symm, alike.position.symm⟩

theorem ignores_of_same {action : Checker α} (mirrors : Likeness.answering.Mirrors [] [] action)
    (keeps : Keeps Eq action) : Ignores result action := by
  have gained : Keeps (ScopeStack.Gained none False) action :=
    keeps.mono fun before _ same => same ▸ (ScopeStack.Settles.refl before).gained none
  exact ignores_of_gained mirrors gained

theorem Ignores.bind {action : Checker α} {rest : α → Checker β} (ignores : Ignores result action)
    (ignoresRest : ∀ value, Ignores result (rest value)) : Ignores result (action >>= rest) := by
  intro state value after ran
  rcases ok_of_bind_eq_ok ran with ⟨first, between, ranFirst, ranRest⟩
  rw [bind_of_ok (ignores _ _ _ ranFirst)]
  exact ignoresRest first _ _ _ ranRest

theorem ignores_forM {Item : Type} {step : Item → Checker Unit} (items : List Item)
    (ignores : ∀ item, Ignores result (step item)) : Ignores result (items.forM step) := by
  induction items with
  | nil => exact ignores_of_same (Likeness.mirrors_pure ()) (keeps_pure ())
  | cons item rest ih => exact (ignores item).bind fun _ => ih

theorem ignores_define (name : String) (type : Ty) : Ignores result (define name type) :=
  ignores_of_gained (Likeness.mirrors_define name type)
    ((keeps_define name type).mono fun _ _ declared => declared.gained_self)

theorem ignores_defineResolved (entries : List (String × Ty)) :
    Ignores result (defineResolved entries) :=
  ignores_forM entries fun entry =>
    (ignores_of_same (Likeness.mirrors_resolve entry.2) (keeps_resolve entry.2)).bind fun type =>
      ignores_define entry.1 type

theorem ignores_defineMembers (template : Option Template) :
    Ignores result (defineMembers template) := by
  cases template with
  | none => exact ignores_of_same (Likeness.mirrors_pure ()) (keeps_pure ())
  | some declared =>
      refine (ignores_defineResolved declared.attributes).bind fun _ => ?_
      exact ignores_forM declared.methods fun method => ignores_define method.1 _

theorem ignores_defineBound (bound : Option (String × Ty)) :
    Ignores result (defineBound bound) := by
  cases bound with
  | none => exact ignores_of_same (Likeness.mirrors_pure ()) (keeps_pure ())
  | some entry => exact ignores_define entry.1 entry.2

theorem enterFunction_answered {signature : Signature} {template : Option Template}
    {state entered : CheckState}
    (ran : enterFunction signature template state = .ok () entered) :
    enterFunction (signature.withResult result) template state =
      .ok () (entered.answered result) := by
  rw [enterFunction, bind_apply, enter_apply] at ran ⊢
  exact ((ignores_defineMembers template).bind fun _ => ignores_defineResolved signature.params)
    _ _ _ ran

end Checker

open Likeness

theorem ignores_checkStmt {result : Ty} {stmt : Stmt} (never : stmt.firstReturn? = none) :
    Ignores result (checkStmt stmt) := by
  have keeps := keeps_checkStmt stmt
  simp only [never, Option.isSome_none, Bool.false_eq_true] at keeps
  exact ignores_of_gained (mirrors_checkStmt stmt (.inr ⟨trivial, never⟩)) keeps

theorem ignores_checkStmts {result : Ty} {body : List Stmt} (never : firstReturnIn? body = none) :
    Ignores result (checkStmts body) := by
  induction body with
  | nil =>
      rw [checkStmts]
      exact ignores_of_same (mirrors_pure ()) (keeps_pure ())
  | cons stmt rest ih =>
      rw [firstReturnIn?, Option.or_eq_none_iff] at never
      rw [checkStmts]
      exact (ignores_checkStmt never.1).bind fun _ => ih never.2

theorem mirrors_head_of_entrance? {stmt : Stmt} {entrance : Entrance}
    (enters : stmt.entrance? = some entrance) : answering.Mirrors [] [] entrance.head := by
  have sees : answering.veiled → true ∈ ([] : List Bool) := False.elim
  cases stmt with
  | block content =>
      simp only [Stmt.entrance?, Option.some.injEq] at enters
      rw [← enters]
      exact mirrors_pure _
  | whileLoop position condition body =>
      simp only [Stmt.entrance?, Option.some.injEq] at enters
      rw [← enters]
      exact (mirrors_checkExpr sees condition).then fun _ =>
        (mirrors_follow _).then fun _ => mirrors_pure _
  | range position name first last step body =>
      simp only [Stmt.entrance?, Option.some.injEq] at enters
      rw [← enters]
      refine (mirrors_checkExpr sees first).then fun _ => (mirrors_follow _).then fun _ => ?_
      refine (mirrors_checkExpr sees last).then fun _ => (mirrors_follow _).then fun _ => ?_
      exact (mirrors_checkExpr sees step).then fun _ =>
        (mirrors_follow _).then fun _ => mirrors_pure _
  | each position name iterable body =>
      simp only [Stmt.entrance?, Option.some.injEq] at enters
      rw [← enters]
      exact (mirrors_checkExpr sees iterable).then fun _ =>
        (mirrors_follow _).then fun _ => mirrors_pure _
  | ifElse position condition thenBlock elseBlock =>
      have tested : answering.Mirrors [] [] (checkCondition condition thenBlock) :=
        (mirrors_checkExpr sees condition).then fun _ =>
          (mirrors_follow _).then fun _ => mirrors_require _ _
      rcases Stmt.entrance?_ifElse enters with ⟨returns, rfl⟩ | ⟨block, rfl, never, rfl⟩
      · exact tested.then fun _ => mirrors_pure _
      · refine tested.then fun _ => ?_
        refine (mirrors_within .branch
          (mirrors_checkBody thenBlock (.inr ⟨trivial, never⟩))).then ?_
        exact fun _ => (mirrors_require _ _).then fun _ => mirrors_pure _
  | _ => simp [Stmt.entrance?] at enters

section Answered

variable {stmt : Stmt} {entrance : Entrance} {rest body : List Stmt} {result type : Ty}
variable {state opened entered : CheckState} {bound : Option (String × Ty)} {past : Bool}

theorem isReachable_answered (state : CheckState) (result : Ty) :
    (state.answered result).scopes.isReachable = state.scopes.isReachable :=
  (states_answered state result).isReachable.symm

/-- With a declared result the block that holds the first return statement is entered as well. -/
theorem checkStmts_inside_answered (enters : stmt.entrance? = some entrance)
    (reachable : state.scopes.isReachable = true)
    (passed : entrance.head { state with position := stmt.position } = .ok (bound, past) opened)
    (defined : defineBound bound { opened with scopes := opened.scopes.enter entrance.kind } =
      .ok () entered) :
    checkStmts (stmt :: rest) (state.answered result) =
      (checkStmts entrance.block.body >>= fun _ =>
        entrance.continue past state.position rest) (entered.answered result) := by
  have ignoresHead : Ignores result entrance.head :=
    ignores_of_same (mirrors_head_of_entrance? enters) (Stmt.keeps_head_of_entrance? enters)
  have passedAnswered := ignoresHead _ _ _ passed
  have ignoresBound : Ignores result (defineBound bound) := ignores_defineBound bound
  have definedAnswered := ignoresBound _ _ _ defined
  rw [CheckState.answered, ScopeStack.setResult_enter _ _ (Stmt.isFunction_of_entrance? enters)]
    at definedAnswered
  have reachableAnswered := (isReachable_answered state result).trans reachable
  exact checkStmts_inside enters reachableAnswered passedAnswered definedAnswered

/-- With a declared result the first return statement finds the same type. -/
theorem checkStmt_returning_answered {position : Position} {value : Option Expr}
    {valued : CheckState} (isOpen : state.scopes.result? = some .infer)
    (reachable : state.scopes.isReachable = true)
    (found : checkReturned value { state with position } = .ok type valued) :
    checkStmt (.returning position value) (state.answered result) =
      (returnType result type >>= fun _ => moveTo state.position) (valued.answered result) := by
  have ignoresValue : Ignores result (checkReturned value) :=
    ignores_of_same (mirrors_checkReturned False.elim value) (keeps_checkReturned value)
  have foundAnswered := ignoresValue _ _ _ found
  have reachableAnswered := (isReachable_answered state result).trans reachable
  have settled : (state.answered result).scopes.result? = some result := by
    rw [ScopeStack.result?, Option.map_eq_some_iff] at isOpen
    rcases isOpen with ⟨signature, nearest, _⟩
    rw [ScopeStack.result?, CheckState.answered, ScopeStack.signature?_setResult result nearest]
    rfl
  exact checkStmt_returning settled reachableAnswered foundAnswered

/-- When the result that the first return statement finds is declared, nothing changes. -/
theorem Reaches.checkStmts_answered (reaches : Reaches body state type)
    (isOpen : state.scopes.result? = some .infer) (known : type.isInfer = false) :
    checkStmts body (state.answered type) = checkStmts body state := by
  induction reaches with
  | @here position value rest state valued type reachable found =>
      have returned : (returnType type type >>= fun _ => moveTo state.position)
            (valued.answered type) =
          (returnType .infer type >>= fun _ => moveTo state.position) valued := by
        simp only [returnType, giveResult, known, Rule.returned, Rule.agree, Ty.agrees_refl,
          bind_apply, follow_apply, if_true, Bool.false_eq_true, if_false]
        rfl
      rw [checkStmts, bind_apply, bind_apply, checkStmt_returning isOpen reachable found,
        checkStmt_returning_answered isOpen reachable found, returned]
  | @later stmt rest state between type never passed reaches ih =>
      have stillOpen := (result?_of_checkStmt never passed).trans isOpen
      rw [checkStmts, bind_of_ok passed, bind_of_ok (ignores_checkStmt never _ _ _ passed)]
      exact ih stillOpen known
  | @inside stmt entrance rest state opened entered bound past type enters returns reachable
      passed defined reaches ih =>
      have sameOpen := result?_entered enters passed defined
      rw [checkStmts_inside enters reachable passed defined,
        checkStmts_inside_answered enters reachable passed defined, bind_apply, bind_apply,
        ih (sameOpen.trans isOpen) known]

/-- When another result is declared, the first return statement is refused. -/
theorem Reaches.error_of_answered (reaches : Reaches body state type)
    (isOpen : state.scopes.result? = some .infer) (known : result.isInfer = false)
    (disagree : result.agrees type = false) :
    ∃ diagnostic after, checkStmts body (state.answered result) = .error diagnostic after := by
  induction reaches with
  | @here position value rest state valued type reachable found =>
      have refused : ∃ diagnostic after, (returnType result type >>= fun _ =>
          moveTo state.position) (valued.answered result) = .error diagnostic after := by
        simp only [returnType, giveResult, known, Rule.returned, Rule.agree, disagree,
          bind_apply, follow_apply, Bool.false_eq_true, if_false]
        exact ⟨_, _, rfl⟩
      rcases refused with ⟨diagnostic, after, refused⟩
      rw [checkStmts]
      refine ⟨diagnostic, after, bind_of_error ?_ _⟩
      rw [checkStmt_returning_answered isOpen reachable found, refused]
  | @later stmt rest state between type never passed reaches ih =>
      have stillOpen := (result?_of_checkStmt never passed).trans isOpen
      rw [checkStmts, bind_of_ok (ignores_checkStmt never _ _ _ passed)]
      exact ih stillOpen disagree
  | @inside stmt entrance rest state opened entered bound past type enters returns reachable
      passed defined reaches ih =>
      have sameOpen := result?_entered enters passed defined
      rcases ih (sameOpen.trans isOpen) disagree with ⟨diagnostic, after, refused⟩
      rw [checkStmts_inside_answered enters reachable passed defined]
      exact ⟨diagnostic, after, bind_of_error refused _⟩

end Answered

end ScriptCheck
