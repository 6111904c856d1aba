import ScriptCheck.Proofs.Typing.Discipline

/-!
# The way to the first return statement

The first return statement of a function body lies in its list of statements or in blocks within
blocks. `Stmt.entrance?` is one step of the way there, from a statement into the block that holds
the return statement, and `Reaches` is the whole way: what is checked before is accepted, and the
returned value has the given type.
-/

namespace ScriptCheck

open Checker

theorem Block.firstReturn?_eq (block : Block) :
    block.firstReturn? = firstReturnIn? block.body := by
  rcases block with ⟨position, body⟩
  rw [Block.firstReturn?]

theorem checkBody_eq (block : Block) : checkBody block = checkStmts block.body := by
  rcases block with ⟨position, body⟩
  rw [checkBody]

/-- The check of a statement around one of its blocks: what is checked before the block, which may
bind a variable in it and tells whether the statement can be passed without the block, the kind of
its scope, and what is done after it. -/
structure Entrance where
  head : Checker (Option (String × Ty) × Bool)
  kind : ScopeKind
  block : Block
  tail : Bool → Scope → Checker Unit

/-- The check of the block, in a scope of its own. -/
def Entrance.inside (entrance : Entrance) (bound : Option (String × Ty)) : Checker Unit := do
  defineBound bound
  checkBody entrance.block

def Entrance.check (entrance : Entrance) : Checker Unit := do
  let (bound, past) ← entrance.head
  let scope ← within entrance.kind (entrance.inside bound)
  entrance.tail past scope

/-- What is checked of a choice before its blocks. -/
def checkCondition (condition : Expr) (thenBlock : Block) : Checker Unit := do
  let type ← checkExpr condition
  follow (Rule.condition "if" type)
  require (!(condition.isBoolean false && !thenBlock.body.isEmpty)) (.flow .unreachableIf)

/-- The statement behind a choice can be reached through one of the blocks, or it cannot. -/
def closeChoice (goesOn : Bool) : Checker Unit :=
  unless goesOn do modifyScopes (·.setUnreachable)

/-- The block of a statement that holds its first return statement, if there is one. -/
def Stmt.entrance? : Stmt → Option Entrance
  | .block content =>
    some { head := pure (none, true), kind := .block, block := content, tail := fun _ _ => pure () }
  | .ifElse _ condition thenBlock elseBlock =>
    if thenBlock.firstReturn?.isSome then
      some
        { head := do
            checkCondition condition thenBlock
            return (none, true)
          kind := .branch
          block := thenBlock
          tail := fun _ first => do
            require (!(condition.isBoolean true && elseBlock.isSome)) (.flow .unreachableElse)
            let goesOn ← checkElse elseBlock
            closeChoice (first.reachable || goesOn) }
    else
      elseBlock.map fun block =>
        { head := do
            checkCondition condition thenBlock
            let first ← within .branch (checkBody thenBlock)
            require (!(condition.isBoolean true && elseBlock.isSome)) (.flow .unreachableElse)
            return (none, first.reachable)
          kind := .branch
          block
          tail := fun past second => closeChoice (past || second.reachable) }
  | .whileLoop _ condition body =>
    some
      { head := do
          let type ← checkExpr condition
          follow (Rule.condition "while" type)
          return (none, true)
        kind := .loop
        block := body
        tail := fun _ _ => pure () }
  | .range _ name first last step body =>
    some
      { head := do
          follow (Rule.rangePart (← checkExpr first))
          follow (Rule.rangePart (← checkExpr last))
          follow (Rule.rangePart (← checkExpr step))
          return (some (name, .int), true)
        kind := .loop
        block := body
        tail := fun _ _ => pure () }
  | .each _ name iterable body =>
    some
      { head := do
          let element ← follow (Rule.iterated (← checkExpr iterable))
          return (some (name, element), true)
        kind := .loop
        block := body
        tail := fun _ _ => pure () }
  | _ => none

/-- Checking the statements from a state on comes to a first return statement, and the value that it
returns has the given type. -/
inductive Reaches : List Stmt → CheckState → Ty → Prop where
  | here {position : Position} {value : Option Expr} {rest : List Stmt} {state after : CheckState}
      {type : Ty} (reachable : state.scopes.isReachable = true)
      (found : checkReturned value { state with position } = .ok type after) :
      Reaches (.returning position value :: rest) state type
  | later {stmt : Stmt} {rest : List Stmt} {state between : CheckState} {type : Ty}
      (never : stmt.firstReturn? = none) (passed : checkStmt stmt state = .ok () between)
      (reaches : Reaches rest between type) : Reaches (stmt :: rest) state type
  | inside {stmt : Stmt} {entrance : Entrance} {rest : List Stmt}
      {state opened entered : CheckState} {bound : Option (String × Ty)} {past : Bool} {type : Ty}
      (enters : stmt.entrance? = some entrance)
      (returns : entrance.block.firstReturn?.isSome = true)
      (reachable : state.scopes.isReachable = true)
      (passed : entrance.head { state with position := stmt.position } = .ok (bound, past) opened)
      (defined : defineBound bound { opened with scopes := opened.scopes.enter entrance.kind } =
        .ok () entered)
      (reaches : Reaches entrance.block.body entered type) : Reaches (stmt :: rest) state type

namespace Checker

theorem keeps_checkCondition (condition : Expr) (thenBlock : Block) :
    Keeps Eq (checkCondition condition thenBlock) :=
  (keeps_checkExpr condition).then fun _ => (keeps_follow _).then fun _ => keeps_require _ (by simp)

theorem keeps_within_of_firstReturn?_eq_none (kind : ScopeKind) {block : Block}
    (never : block.firstReturn? = none) : Keeps Eq (within kind (checkBody block)) := by
  refine (keeps_within (keeps_checkBody block)).mono fun before after settles => ?_
  have same := Settled.eq_of_not_returns settles (by simp [never])
  rcases before with ⟨inner, outer⟩
  rcases after with ⟨inner', outer'⟩
  simp only [ScopeStack.scopes, List.cons.injEq] at same
  rw [same.1, same.2]

theorem keeps_closeChoice (goesOn : Bool) :
    Keeps (ScopeStack.Kept True) (closeChoice goesOn) := by
  cases goesOn with
  | false => exact (keeps_setUnreachable none).mono fun _ _ gained => gained.kept
  | true => exact (keeps_pure ()).mono fun before _ same => same ▸ ScopeStack.Kept.refl before

theorem keeps_defineBound (returns : Prop) (bound : Option (String × Ty)) :
    Keeps (ScopeStack.Kept returns) (defineBound bound) := by
  cases bound with
  | none => exact (keeps_pure ()).mono fun before _ same => same ▸ ScopeStack.Kept.refl before
  | some entry => exact keeps_define_kept entry.1 entry.2

theorem signature?_enter {kind : ScopeKind} (stack : ScopeStack)
    (outside : (Scope.empty kind).isFunction = false) :
    (stack.enter kind).signature? = stack.signature? := by
  have passed : (Scope.empty kind).signature? = none :=
    Option.isNone_iff_eq_none.mp (Option.isSome_eq_false_iff.mp outside)
  simp only [ScopeStack.signature?, ScopeStack.enter, ScopeStack.scopes, List.findSome?_cons,
    passed]

/-- The nearest function outside of a block is the one inside of it. -/
theorem signature?_of_exit {kind : ScopeKind} {before : ScopeStack} {state after : CheckState}
    {scope : Scope} (inside : Inside kind True before state.scopes)
    (outside : (Scope.empty kind).isFunction = false) (left : exit state = .ok scope after) :
    after.scopes.signature? = state.scopes.signature? := by
  rcases state with ⟨⟨⟨innerKind, symbols, reachable⟩, outer⟩, analysis, position⟩
  have passed : (Scope.mk innerKind symbols reachable).signature? = none := by
    cases inside with
    | same => exact Option.isNone_iff_eq_none.mp (Option.isSome_eq_false_iff.mp outside)
    | found => simp [Scope.isFunction, Scope.signature?, Scope.empty] at outside
    | around => exact Option.isNone_iff_eq_none.mp (Option.isSome_eq_false_iff.mp outside)
  cases outer with
  | nil => simp [exit_apply, ScopeStack.exit?] at left
  | cons scope outer =>
      rw [exit_apply] at left
      simp only [ScopeStack.exit?, EStateM.Result.ok.injEq] at left
      rw [← left.2]
      simp only [ScopeStack.signature?, ScopeStack.scopes, List.findSome?_cons, passed]

end Checker

namespace Stmt

variable {stmt : Stmt} {entrance : Entrance}

theorem entrance?_ifElse {position : Position} {condition : Expr} {thenBlock : Block}
    {elseBlock : Option Block}
    (enters : (Stmt.ifElse position condition thenBlock elseBlock).entrance? = some entrance) :
    (thenBlock.firstReturn?.isSome = true ∧ entrance =
      { head := do
          checkCondition condition thenBlock
          return (none, true)
        kind := .branch
        block := thenBlock
        tail := fun _ first => do
          require (!(condition.isBoolean true && elseBlock.isSome)) (.flow .unreachableElse)
          let goesOn ← checkElse elseBlock
          closeChoice (first.reachable || goesOn) }) ∨
    ∃ block, elseBlock = some block ∧ thenBlock.firstReturn? = none ∧ entrance =
      { head := do
          checkCondition condition thenBlock
          let first ← within .branch (checkBody thenBlock)
          require (!(condition.isBoolean true && elseBlock.isSome)) (.flow .unreachableElse)
          return (none, first.reachable)
        kind := .branch
        block
        tail := fun past second => closeChoice (past || second.reachable) } := by
  simp only [entrance?] at enters
  split at enters
  · rename_i returns
    exact Or.inl ⟨returns, (Option.some.inj enters).symm⟩
  · rename_i never
    right
    cases elseBlock with
    | none => simp at enters
    | some block =>
        refine ⟨block, rfl, by simpa using never, ?_⟩
        simpa using enters.symm

theorem firstReturn?_of_entrance? (enters : stmt.entrance? = some entrance) :
    stmt.firstReturn? = entrance.block.firstReturn? := by
  cases stmt with
  | block content | whileLoop _ _ _ | range _ _ _ _ _ _ | each _ _ _ _ =>
      cases Option.some.inj enters
      rw [Stmt.firstReturn?]
  | ifElse position condition thenBlock elseBlock =>
      rcases entrance?_ifElse enters with ⟨returns, rfl⟩ | ⟨block, rfl, never, rfl⟩
      · rw [Stmt.firstReturn?, Option.or_of_isSome returns]
      · rw [Stmt.firstReturn?, never, Option.none_or, firstReturnElse?]
  | _ => contradiction

/-- A statement with a return statement in it returns itself or holds it in a block. -/
theorem returns_or_enters {value : Option Expr} (first : stmt.firstReturn? = some value) :
    (∃ position, stmt = .returning position value) ∨
      ∃ entrance, stmt.entrance? = some entrance := by
  cases stmt with
  | returning position other =>
      simp only [Stmt.firstReturn?, Option.some.injEq] at first
      exact Or.inl ⟨position, by rw [first]⟩
  | block content | whileLoop _ _ _ | range _ _ _ _ _ _ | each _ _ _ _ =>
      exact Or.inr ⟨_, rfl⟩
  | ifElse position condition thenBlock elseBlock =>
      right
      simp only [entrance?]
      split
      · exact ⟨_, rfl⟩
      · rename_i never
        cases elseBlock with
        | none =>
            rw [Stmt.firstReturn?, firstReturnElse?, Option.or_none] at first
            simp [first] at never
        | some block => exact ⟨_, rfl⟩
  | _ => simp [Stmt.firstReturn?] at first

theorem sizeOf_entrance? (enters : stmt.entrance? = some entrance) :
    sizeOf entrance.block.body < sizeOf stmt := by
  have body_lt (block : Block) : sizeOf block.body < sizeOf block := by
    rcases block with ⟨position, body⟩
    simp only [Block.mk.sizeOf_spec]
    omega
  cases stmt with
  | block content =>
      cases Option.some.inj enters
      have smaller := body_lt content
      simp only [Stmt.block.sizeOf_spec]
      omega
  | whileLoop position condition body =>
      cases Option.some.inj enters
      have smaller := body_lt body
      simp only [Stmt.whileLoop.sizeOf_spec]
      omega
  | range position name first last step body =>
      cases Option.some.inj enters
      have smaller := body_lt body
      simp only [Stmt.range.sizeOf_spec]
      omega
  | each position name iterable body =>
      cases Option.some.inj enters
      have smaller := body_lt body
      simp only [Stmt.each.sizeOf_spec]
      omega
  | ifElse position condition thenBlock elseBlock =>
      rcases entrance?_ifElse enters with ⟨returns, rfl⟩ | ⟨block, rfl, never, rfl⟩
      · have smaller := body_lt thenBlock
        simp only [Stmt.ifElse.sizeOf_spec]
        omega
      · have smaller := body_lt block
        simp only [Stmt.ifElse.sizeOf_spec, Option.some.sizeOf_spec]
        omega
  | _ => contradiction

theorem checkStmt_of_entrance? (enters : stmt.entrance? = some entrance) :
    checkStmt stmt = atStmt stmt.position entrance.check := by
  cases stmt with
  | block content =>
      cases Option.some.inj enters
      rw [checkStmt]
      rfl
  | whileLoop position condition body =>
      cases Option.some.inj enters
      rw [checkStmt]
      simp only [Entrance.check, Entrance.inside, defineBound, bind_assoc, pure_bind]
      rfl
  | range position name first last step body =>
      cases Option.some.inj enters
      rw [checkStmt]
      simp only [Entrance.check, Entrance.inside, defineBound, bind_assoc, pure_bind]
      rfl
  | each position name iterable body =>
      cases Option.some.inj enters
      rw [checkStmt]
      simp only [Entrance.check, Entrance.inside, defineBound, bind_assoc, pure_bind]
      rfl
  | ifElse position condition thenBlock elseBlock =>
      rcases entrance?_ifElse enters with ⟨returns, rfl⟩ | ⟨block, rfl, never, rfl⟩
      · rw [checkStmt]
        simp only [Entrance.check, Entrance.inside, defineBound, checkCondition, bind_assoc,
          pure_bind]
        rfl
      · rw [checkStmt]
        simp only [Entrance.check, Entrance.inside, defineBound, checkCondition, bind_assoc,
          pure_bind, checkElse]
        rfl
  | _ => contradiction

theorem isFunction_of_entrance? (enters : stmt.entrance? = some entrance) :
    (Scope.empty entrance.kind).isFunction = false := by
  cases stmt with
  | block content | whileLoop _ _ _ | range _ _ _ _ _ _ | each _ _ _ _ =>
      cases Option.some.inj enters
      rfl
  | ifElse position condition thenBlock elseBlock =>
      rcases entrance?_ifElse enters with ⟨returns, rfl⟩ | ⟨block, rfl, never, rfl⟩
      · rfl
      · rfl
  | _ => contradiction

theorem keeps_head_of_entrance? (enters : stmt.entrance? = some entrance) :
    Keeps Eq entrance.head := by
  cases stmt with
  | block content =>
      cases Option.some.inj enters
      exact keeps_pure _
  | whileLoop position condition body =>
      cases Option.some.inj enters
      exact (keeps_checkExpr condition).then fun _ => (keeps_follow _).then fun _ => keeps_pure _
  | range position name first last step body =>
      cases Option.some.inj enters
      refine (keeps_checkExpr first).then fun _ => (keeps_follow _).then fun _ => ?_
      refine (keeps_checkExpr last).then fun _ => (keeps_follow _).then fun _ => ?_
      exact (keeps_checkExpr step).then fun _ => (keeps_follow _).then fun _ => keeps_pure _
  | each position name iterable body =>
      cases Option.some.inj enters
      exact (keeps_checkExpr iterable).then fun _ => (keeps_follow _).then fun _ => keeps_pure _
  | ifElse position condition thenBlock elseBlock =>
      rcases entrance?_ifElse enters with ⟨returns, rfl⟩ | ⟨block, rfl, never, rfl⟩
      · exact (keeps_checkCondition condition thenBlock).then fun _ => keeps_pure _
      · refine (keeps_checkCondition condition thenBlock).then fun _ => ?_
        refine (keeps_within_of_firstReturn?_eq_none .branch never).then fun _ => ?_
        exact (keeps_require _ (by simp)).then fun _ => keeps_pure _
  | _ => contradiction

theorem keeps_tail_of_entrance? (enters : stmt.entrance? = some entrance) (past : Bool)
    (scope : Scope) : Keeps (ScopeStack.Kept True) (entrance.tail past scope) := by
  have nothing : Keeps (ScopeStack.Kept True) (pure () : Checker Unit) :=
    (keeps_pure ()).mono fun before _ same => same ▸ ScopeStack.Kept.refl before
  cases stmt with
  | block content | whileLoop _ _ _ | range _ _ _ _ _ _ | each _ _ _ _ =>
      cases Option.some.inj enters
      exact nothing
  | ifElse position condition thenBlock elseBlock =>
      rcases entrance?_ifElse enters with ⟨returns, rfl⟩ | ⟨block, rfl, never, rfl⟩
      · have inElse : Keeps (ScopeStack.Kept True) (checkElse elseBlock) :=
          (keeps_checkElse elseBlock).mono fun _ _ settles => settles.kept.mono fun _ => trivial
        refine (keeps_require _ (by simp)).then fun _ => ?_
        exact inElse.bind (fun _ => keeps_closeChoice _) fun _ _ _ => ScopeStack.Kept.trans
      · exact keeps_closeChoice _
  | _ => contradiction

end Stmt

/-- What follows after the block of a statement: the rest of the statement, and those behind it. -/
def Entrance.continue (entrance : Entrance) (past : Bool) (position : Position)
    (rest : List Stmt) : Checker Unit := do
  let scope ← exit
  entrance.tail past scope
  moveTo position
  checkStmts rest

section Runs

variable {stmt : Stmt} {entrance : Entrance} {rest : List Stmt}
variable {state opened entered : CheckState} {bound : Option (String × Ty)} {past : Bool}

/-- From the block on that holds the first return statement. -/
theorem checkStmts_inside (enters : stmt.entrance? = some entrance)
    (reachable : state.scopes.isReachable = true)
    (passed : entrance.head { state with position := stmt.position } = .ok (bound, past) opened)
    (defined : defineBound bound { opened with scopes := opened.scopes.enter entrance.kind } =
      .ok () entered) :
    checkStmts (stmt :: rest) state =
      (checkStmts entrance.block.body >>= fun _ =>
        entrance.continue past state.position rest) entered := by
  have inside : entrance.inside bound { opened with
      scopes := opened.scopes.enter entrance.kind } = checkStmts entrance.block.body entered := by
    rw [Entrance.inside, bind_of_ok defined, checkBody_eq]
  rw [checkStmts, Stmt.checkStmt_of_entrance? enters, bind_apply, atStmt_apply reachable,
    Entrance.check, bind_apply, bind_of_ok passed]
  simp only [bind_apply, within_apply, inside, Entrance.continue]
  cases checkStmts entrance.block.body entered with
  | error diagnostic after => rfl
  | ok _ after =>
      simp only
      cases exit after with
      | error diagnostic after => rfl
      | ok scope after =>
          simp only
          cases entrance.tail past scope after with
          | error diagnostic after => rfl
          | ok _ after => rfl

theorem state_of_expectedResult {expected : Ty} {state after : CheckState}
    (ran : expectedResult state = .ok expected after) : after = state := by
  rw [expectedResult_apply] at ran
  split at ran
  · exact (EStateM.Result.ok.inj ran).2.symm
  · contradiction

/-- A return statement that is accepted can be reached, and its value has a type. -/
theorem ok_of_returning {position : Position} {value : Option Expr} {after : CheckState}
    (ran : checkStmt (.returning position value) state = .ok () after) :
    state.scopes.isReachable = true ∧
      ∃ type valued, checkReturned value { state with position } = .ok type valued := by
  rw [checkStmt] at ran
  rcases ok_of_atStmt ran with ⟨reachable, _, ranAction, _⟩
  rcases ok_of_bind_eq_ok ranAction with ⟨_, opened, ranExpected, ranValue⟩
  rcases ok_of_bind_eq_ok ranValue with ⟨type, valued, found, _⟩
  rw [state_of_expectedResult ranExpected] at found
  exact ⟨reachable, type, valued, found⟩

/-- A statement that is accepted has passed the check of its block. -/
theorem ok_of_entrance? (enters : stmt.entrance? = some entrance) {after : CheckState}
    (ran : checkStmt stmt state = .ok () after) :
    state.scopes.isReachable = true ∧ ∃ bound past opened entered blockEnd,
      entrance.head { state with position := stmt.position } = .ok (bound, past) opened ∧
      defineBound bound { opened with scopes := opened.scopes.enter entrance.kind } =
        .ok () entered ∧
      checkStmts entrance.block.body entered = .ok () blockEnd := by
  rw [Stmt.checkStmt_of_entrance? enters] at ran
  rcases ok_of_atStmt ran with ⟨reachable, _, ranCheck, _⟩
  rcases ok_of_bind_eq_ok ranCheck with ⟨⟨bound, past⟩, opened, ranHead, ranBlock⟩
  rcases ok_of_bind_eq_ok ranBlock with ⟨_, _, ranWithin, _⟩
  rw [within_apply] at ranWithin
  rcases ok_of_bind_eq_ok ranWithin with ⟨_, blockEnd, ranInside, _⟩
  rcases ok_of_bind_eq_ok ranInside with ⟨_, entered, defined, ranBody⟩
  rw [checkBody_eq] at ranBody
  exact ⟨reachable, bound, past, opened, entered, blockEnd, ranHead, defined, ranBody⟩

/-- An accepted list of statements with a return statement in it comes to its first one. -/
theorem reaches_of_checkStmts {body : List Stmt} {state after : CheckState}
    (ran : checkStmts body state = .ok () after)
    (first : (firstReturnIn? body).isSome = true) : ∃ type, Reaches body state type := by
  -- A block is part of a statement of the list, but not one that the recursion of the list meets.
  induction size : sizeOf body using Nat.strongRecOn generalizing body state after with
  | ind size ih =>
      subst size
      cases body with
      | nil => simp [firstReturnIn?] at first
      | cons stmt rest =>
          rw [checkStmts] at ran
          rcases ok_of_bind_eq_ok ran with ⟨_, between, passed, ranRest⟩
          cases returned : stmt.firstReturn? with
          | none =>
              rw [firstReturnIn?, returned, Option.none_or] at first
              have shorter : sizeOf rest < sizeOf (stmt :: rest) := by
                simp only [List.cons.sizeOf_spec]
                omega
              rcases ih _ shorter ranRest first rfl with ⟨type, reaches⟩
              exact ⟨type, .later returned passed reaches⟩
          | some found =>
              rcases Stmt.returns_or_enters returned with ⟨position, rfl⟩ | ⟨entrance, enters⟩
              · rcases ok_of_returning passed with ⟨reachable, type, _, foundType⟩
                exact ⟨type, .here reachable foundType⟩
              · rcases ok_of_entrance? enters passed with
                  ⟨reachable, bound, past, opened, entered, blockEnd, ranHead, defined, ranBody⟩
                have sameFirst := Stmt.firstReturn?_of_entrance? enters
                have smaller := Stmt.sizeOf_entrance? enters
                have shorter : sizeOf entrance.block.body < sizeOf (stmt :: rest) := by
                  simp only [List.cons.sizeOf_spec]
                  omega
                have returns : entrance.block.firstReturn?.isSome = true := by
                  rw [← sameFirst, returned]
                  rfl
                have returnsIn : (firstReturnIn? entrance.block.body).isSome = true := by
                  rwa [← Block.firstReturn?_eq]
                rcases ih _ shorter ranBody returnsIn rfl with ⟨type, reaches⟩
                exact ⟨type, .inside enters returns reachable ranHead defined reaches⟩

theorem Reaches.eq_void {body : List Stmt} {state : CheckState} {type : Ty}
    (reaches : Reaches body state type) (first : firstReturnIn? body = some none) :
    type = .void := by
  induction reaches with
  | here reachable found =>
      rw [firstReturnIn?, Stmt.firstReturn?, Option.some_or, Option.some.injEq] at first
      rw [first, checkReturned, pure_apply, EStateM.Result.ok.injEq] at found
      exact found.1.symm
  | later never passed reaches ih =>
      rw [firstReturnIn?, never, Option.none_or] at first
      exact ih first
  | @inside stmt entrance rest _ _ _ _ _ _ enters returns _ _ _ reaches ih =>
      rw [firstReturnIn?, Stmt.firstReturn?_of_entrance? enters, Option.or_of_isSome returns]
        at first
      rw [Block.firstReturn?_eq] at first
      exact ih first

/-- A return statement in a function whose result is known. -/
theorem checkStmt_returning {position : Position} {value : Option Expr} {state after : CheckState}
    {expected type : Ty} (nearest : state.scopes.result? = some expected)
    (reachable : state.scopes.isReachable = true)
    (found : checkReturned value { state with position } = .ok type after) :
    checkStmt (.returning position value) state =
      (returnType expected type >>= fun _ => moveTo state.position) after := by
  rw [ScopeStack.result?, Option.map_eq_some_iff] at nearest
  rcases nearest with ⟨signature, nearest, sameResult⟩
  rw [checkStmt, atStmt_apply reachable]
  simp only [bind_apply, expectedResult_apply, nearest, found, sameResult]

/-- The scopes at the end of a block are those around it, with one more. -/
theorem inside_of_checkStmts {blockEnd : CheckState}
    (defined : defineBound bound { opened with scopes := opened.scopes.enter entrance.kind } =
      .ok () entered)
    (ranBlock : checkStmts entrance.block.body entered = .ok () blockEnd) :
    Inside entrance.kind True opened.scopes blockEnd.scopes := by
  have keptBound := ((keeps_defineBound True bound).of_ok defined).2
  have keptBlock := ((keeps_checkStmts entrance.block.body).of_ok ranBlock).2
  exact keptBound.trans (keptBlock.mono fun _ => trivial)

/-- The block is checked while the result is still open. -/
theorem result?_entered (enters : stmt.entrance? = some entrance)
    (passed : entrance.head { state with position := stmt.position } = .ok (bound, past) opened)
    (defined : defineBound bound { opened with scopes := opened.scopes.enter entrance.kind } =
      .ok () entered) : entered.scopes.result? = state.scopes.result? := by
  have sameScopes := ((Stmt.keeps_head_of_entrance? enters).of_ok passed).2
  have keptBound := ((keeps_defineBound False bound).of_ok defined).2
  have outer := Stmt.isFunction_of_entrance? enters
  rw [ScopeStack.result?, ScopeStack.result?, keptBound.signature?_eq (fun never => never),
    signature?_enter _ outer, ← sameScopes]

theorem result?_of_checkStmt (never : stmt.firstReturn? = none) {after : CheckState}
    (passed : checkStmt stmt state = .ok () after) :
    after.scopes.result? = state.scopes.result? := by
  have kept := ((keeps_checkStmt stmt).of_ok passed).2.kept
  rw [ScopeStack.result?, ScopeStack.result?, kept.signature?_eq (by simp [never])]

/-- The result that the first return statement finds stays until the end. -/
theorem Reaches.result?_eq {body : List Stmt} {state after : CheckState} {type : Ty}
    (reaches : Reaches body state type) (opened : state.scopes.result? = some .infer)
    (known : type.isInfer = false) (ran : checkStmts body state = .ok () after) :
    after.scopes.result? = some type := by
  induction reaches generalizing after with
  | @here position value rest state valued type reachable found =>
      rw [checkStmts] at ran
      rcases ok_of_bind_eq_ok ran with ⟨_, between, passed, ranRest⟩
      rw [checkStmt_returning opened reachable found] at passed
      have sameScopes := ((keeps_checkReturned value).of_ok found).2
      have kept := ((keeps_checkStmts rest).of_ok ranRest).2
      refine kept.result?_of_known ?_ known
      rw [ScopeStack.result?, Option.map_eq_some_iff] at opened
      rcases opened with ⟨signature, nearest, _⟩
      rw [sameScopes] at nearest
      have settled := ScopeStack.signature?_setResult type nearest
      have returned : between.scopes = (valued.scopes.setResult type).setUnreachable :=
        congrArg CheckState.scopes (EStateM.Result.ok.inj passed).2.symm
      rw [ScopeStack.result?, returned, ScopeStack.signature?_setUnreachable, settled]
      rfl
  | @later stmt rest state between type never passed reaches ih =>
      rw [checkStmts, bind_of_ok passed] at ran
      exact ih ((result?_of_checkStmt never passed).trans opened) known ran
  | @inside stmt entrance rest state between entered bound past type enters returns reachable
      passed defined reaches ih =>
      rw [checkStmts_inside enters reachable passed defined] at ran
      rcases ok_of_bind_eq_ok ran with ⟨_, blockEnd, ranBlock, ranRest⟩
      rcases ok_of_bind_eq_ok ranRest with ⟨scope, outside, left, ranTail⟩
      rcases ok_of_bind_eq_ok ranTail with ⟨_, passedOver, ranTail, ranMove⟩
      rcases ok_of_bind_eq_ok ranMove with ⟨_, moved, ranMove, ranRest⟩
      have sameOpen := result?_entered enters passed defined
      have foundInside := ih (sameOpen.trans opened) known ranBlock
      have outer := Stmt.isFunction_of_entrance? enters
      have foundOutside : outside.scopes.result? = some type := by
        rw [ScopeStack.result?, signature?_of_exit (inside_of_checkStmts defined ranBlock) outer
          left]
        exact foundInside
      have keptTail := ((Stmt.keeps_tail_of_entrance? enters past scope).of_ok ranTail).2
      have sameScopes : moved.scopes = passedOver.scopes := by
        rw [← (EStateM.Result.ok.inj ranMove).2]
      have keptRest := ((keeps_checkStmts rest).of_ok ranRest).2
      refine keptRest.result?_of_known ?_ known
      rw [sameScopes]
      exact keptTail.result?_of_known foundOutside known

end Runs

end ScriptCheck
