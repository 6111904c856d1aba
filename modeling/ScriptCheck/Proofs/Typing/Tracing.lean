import ScriptCheck.Proofs.Typing.ReturnPaths

/-!
# Traced checks and searches

A traced check does what the check does, and writes down every return statement of the function at
the moment when its value is about to be typed, in the order in which the check comes to them. A
traced search does the same for the search of a first returned value. The bodies of functions within
the function are checked without a trace, since their return statements are not its own.

`Traces` says that nothing else is different: with the visits left out, a traced action answers and
fails as the action itself does, and leaves the same state.
-/

namespace ScriptCheck

open Checker

/-- A return statement, and the state in which its value is about to be typed. -/
structure ReturnVisit where
  stmt : ReturnStmt
  state : CheckState

/-- A checker that writes down the return statements that it comes to. -/
abbrev Tracer := EStateM Diagnostic (CheckState × List ReturnVisit)

namespace Tracer

variable {α : Type}

/-- A checker that comes to no return statement of the function. -/
def silent (action : Checker α) : Tracer α := fun (state, visits) =>
  match action state with
  | .ok value after => .ok value (after, visits)
  | .error diagnostic after => .error diagnostic (after, visits)

instance : MonadLift Checker Tracer := ⟨silent⟩

theorem silent_of_ok {action : Checker α} {state after : CheckState} {value : α}
    (ran : action state = .ok value after) (visits : List ReturnVisit) :
    (liftM action : Tracer α) (state, visits) = .ok value (after, visits) := by
  change silent action (state, visits) = _
  rw [silent, ran]

theorem silent_of_error {action : Checker α} {state after : CheckState} {diagnostic : Diagnostic}
    (failed : action state = .error diagnostic after) (visits : List ReturnVisit) :
    (liftM action : Tracer α) (state, visits) = .error diagnostic (after, visits) := by
  change silent action (state, visits) = _
  rw [silent, failed]

def comeTo (stmt : ReturnStmt) : Tracer Unit :=
  modify fun (state, visits) => (state, visits ++ [⟨stmt, state⟩])

/-- As `Checker.atStmt`. -/
def atStmt (position : Position) (traced : Tracer Unit) : Tracer Unit := do
  let enclosing := (← (get : Checker CheckState)).position
  moveTo position
  require (← scopes).isReachable (.flow .unreachableCode)
  traced
  moveTo enclosing

/-- As `Checker.within`. -/
def within (kind : ScopeKind) (traced : Tracer Unit) : Tracer Scope := do
  enter kind
  traced
  exit

/-- As `Checker.searchBlock`. -/
def searchBlock (bound : Option (String × Ty)) (traced : Tracer (Option Ty)) :
    Tracer (Option Ty) := do
  enter .block
  defineBound bound
  let found ← traced
  let _ ← exit
  return found

end Tracer

mutual

/-- The traced check of a statement. `place` leads from the paths in the statement on its own to the
paths around it, as in `Stmt.locateReturn?`. -/
def traceStmt (place : StmtPath → StmtPath) (stmt : Stmt) : Tracer Unit :=
  match stmt with
  | .block content =>
    Tracer.atStmt content.position do
      discard (Tracer.within .block (traceBody (place ∘ .inside 0) content))
  | .ifElse position condition thenBlock elseBlock =>
    Tracer.atStmt position do
      let type ← checkExpr condition
      follow (Rule.condition "if" type)
      require (!(condition.isBoolean false && !thenBlock.body.isEmpty)) (.flow .unreachableIf)
      let first ← Tracer.within .branch (traceBody (place ∘ .inside 0) thenBlock)
      require (!(condition.isBoolean true && elseBlock.isSome)) (.flow .unreachableElse)
      let goesOn ← traceElse (place ∘ .inside 1) elseBlock
      unless first.reachable || goesOn do modifyScopes (·.setUnreachable)
  | .whileLoop position condition body =>
    Tracer.atStmt position do
      let type ← checkExpr condition
      follow (Rule.condition "while" type)
      discard (Tracer.within .loop (traceBody (place ∘ .inside 0) body))
  | .range position name first last step body =>
    Tracer.atStmt position do
      follow (Rule.rangePart (← checkExpr first))
      follow (Rule.rangePart (← checkExpr last))
      follow (Rule.rangePart (← checkExpr step))
      discard (Tracer.within .loop do define name .int; traceBody (place ∘ .inside 0) body)
  | .each position name iterable body =>
    Tracer.atStmt position do
      let element ← follow (Rule.iterated (← checkExpr iterable))
      discard (Tracer.within .loop do define name element; traceBody (place ∘ .inside 0) body)
  | .returning position value =>
    Tracer.atStmt position do
      let expected ← expectedResult
      Tracer.comeTo { path := place .here, position, value }
      let actual ← checkReturned value
      returnType expected actual
  | .varDecl .. | .expression .. | .halt _ | .skip _ | .fnDecl _ | .echo .. | .templateDecl .. =>
    checkStmt stmt
  termination_by structural stmt

/-- The traced check of a block behind `else`. -/
def traceElse (place : StmtPath → StmtPath) : Option Block → Tracer Bool
  | none => pure true
  | some block => do
    let scope ← Tracer.within .branch (traceBody place block)
    return scope.reachable
  termination_by structural block => block

/-- The traced check of the statements of a block, in the current scope. -/
def traceBody (place : StmtPath → StmtPath) : Block → Tracer Unit
  | ⟨_, body⟩ => traceStmts place body
  termination_by structural block => block

/-- The traced check of statements. -/
def traceStmts (place : StmtPath → StmtPath) : List Stmt → Tracer Unit
  | [] => pure ()
  | stmt :: rest => do
    traceStmt place stmt
    traceStmts (place ∘ .later) rest
  termination_by structural body => body

end

mutual

/-- The traced search of a statement. -/
def traceSearchStmt (place : StmtPath → StmtPath) (stmt : Stmt) : Tracer (Option Ty) :=
  match stmt with
  | .returning position value => do
    moveTo position
    Tracer.comeTo { path := place .here, position, value }
    let type ← checkReturned value
    return some type
  | .block content => do
    moveTo content.position
    Tracer.searchBlock none (traceSearch (place ∘ .inside 0) content)
  | .ifElse position _ thenBlock elseBlock => do
    moveTo position
    match ← Tracer.searchBlock none (traceSearch (place ∘ .inside 0) thenBlock) with
    | some type => return some type
    | none => traceSearchElse (place ∘ .inside 1) elseBlock
  | .whileLoop position _ body => do
    moveTo position
    Tracer.searchBlock none (traceSearch (place ∘ .inside 0) body)
  | .range position name _ _ _ body => do
    moveTo position
    Tracer.searchBlock (some (name, .int)) (traceSearch (place ∘ .inside 0) body)
  | .each position name iterable body => do
    moveTo position
    let element ← follow (Rule.iterated (← checkExpr iterable))
    Tracer.searchBlock (some (name, element)) (traceSearch (place ∘ .inside 0) body)
  | .varDecl .. | .expression .. | .halt _ | .skip _ | .fnDecl _ | .echo .. | .templateDecl .. =>
    searchStmt stmt
  termination_by structural stmt

/-- The traced search of a block behind `else`. -/
def traceSearchElse (place : StmtPath → StmtPath) : Option Block → Tracer (Option Ty)
  | none => pure none
  | some block => Tracer.searchBlock none (traceSearch place block)
  termination_by structural block => block

/-- The traced search of a block. -/
def traceSearch (place : StmtPath → StmtPath) : Block → Tracer (Option Ty)
  | ⟨_, body⟩ => traceSearchStmts place body
  termination_by structural block => block

/-- The traced search of statements. -/
def traceSearchStmts (place : StmtPath → StmtPath) : List Stmt → Tracer (Option Ty)
  | [] => pure none
  | stmt :: rest => do
    match ← traceSearchStmt place stmt with
    | some type => return some type
    | none => traceSearchStmts (place ∘ .later) rest
  termination_by structural body => body

end

/-- A traced action does what the action does, and `made` holds of its answer and of what it has
written down. -/
def Traces {α : Type} (traced : Tracer α) (action : Checker α)
    (made : α → List ReturnVisit → Prop) : Prop :=
  ∀ state before,
    match action state with
    | .ok value after =>
      ∃ visits, traced (state, before) = .ok value (after, before ++ visits) ∧ made value visits
    | .error diagnostic after =>
      ∃ visits, traced (state, before) = .error diagnostic (after, before ++ visits)

/-- Where the action succeeds, the traced one succeeds with the same answer. -/
theorem Traces.of_ok {α : Type} {traced : Tracer α} {action : Checker α}
    {made : α → List ReturnVisit → Prop} {state after : CheckState} {value : α}
    (traces : Traces traced action made) (ran : action state = .ok value after) :
    ∃ visits, traced (state, []) = .ok value (after, visits) ∧ made value visits := by
  have outcome := traces state []
  rw [ran] at outcome
  exact outcome

section Rules

variable {α β : Type} {made : α → List ReturnVisit → Prop} {all : β → List ReturnVisit → Prop}

theorem Traces.mono {traced : Tracer α} {action : Checker α}
    {more : α → List ReturnVisit → Prop} (traces : Traces traced action made)
    (implies : ∀ value visits, made value visits → more value visits) :
    Traces traced action more := by
  intro state before
  have outcome := traces state before
  cases ran : action state with
  | ok value after =>
      rw [ran] at outcome
      rcases outcome with ⟨visits, ranTraced, holds⟩
      exact ⟨visits, ranTraced, implies value visits holds⟩
  | error diagnostic after =>
      rw [ran] at outcome
      exact outcome

theorem Traces.bind {traced : Tracer α} {action : Checker α} {tracedRest : α → Tracer β}
    {rest : α → Checker β} (first : Traces traced action made)
    (next : ∀ value visits, made value visits →
      Traces (tracedRest value) (rest value) fun result later => all result (visits ++ later)) :
    Traces (traced >>= tracedRest) (action >>= rest) all := by
  intro state before
  have outcome := first state before
  cases ran : action state with
  | error diagnostic after =>
      rw [ran] at outcome
      rcases outcome with ⟨visits, ranTraced⟩
      rw [bind_of_error ran]
      exact ⟨visits, bind_of_error ranTraced tracedRest⟩
  | ok value between =>
      rw [ran] at outcome
      rcases outcome with ⟨visits, ranTraced, holds⟩
      rw [bind_of_ok ran, bind_of_ok ranTraced]
      have outcomeRest := next value visits holds between (before ++ visits)
      cases ranRest : rest value between with
      | ok result after =>
          rw [ranRest] at outcomeRest
          rcases outcomeRest with ⟨later, ranTracedRest, holdsAll⟩
          exact ⟨visits ++ later, by rw [ranTracedRest, List.append_assoc], holdsAll⟩
      | error diagnostic after =>
          rw [ranRest] at outcomeRest
          rcases outcomeRest with ⟨later, ranTracedRest⟩
          exact ⟨visits ++ later, by rw [ranTracedRest, List.append_assoc]⟩

theorem traces_pure (value : α) (holds : made value []) :
    Traces (pure value) (pure value) made := by
  intro state before
  exact ⟨[], by rw [List.append_nil]; rfl, holds⟩

/-- Nothing is written down where no return statement of the function is come to. -/
theorem traces_silent {action : Checker α}
    (answers : ∀ state value after, action state = .ok value after → made value []) :
    Traces (liftM action) action made := by
  intro state before
  cases ran : action state with
  | ok value after =>
      refine ⟨[], ?_, answers state value after ran⟩
      rw [Tracer.silent_of_ok ran, List.append_nil]
  | error diagnostic after =>
      exact ⟨[], by rw [Tracer.silent_of_error ran, List.append_nil]⟩

/-- A step without a trace comes first. -/
theorem Traces.after {action : Checker α} {tracedRest : α → Tracer β} {rest : α → Checker β}
    (next : ∀ value, Traces (tracedRest value) (rest value) all) :
    Traces (liftM action >>= tracedRest) (action >>= rest) all := by
  have silent : Traces (liftM action) action fun _ visits => visits = [] :=
    traces_silent fun _ _ _ _ => rfl
  refine silent.bind fun value visits none => ?_
  rw [none]
  exact next value

/-- A return statement is come to, and an action is run from there. -/
theorem Traces.visiting {action : Checker α} {tracedRest : α → Tracer β} {rest : α → Checker β}
    (stmt : ReturnStmt)
    (next : ∀ state value after, action state = .ok value after →
      Traces (tracedRest value) (rest value) fun result later =>
        all result (⟨stmt, state⟩ :: later)) :
    Traces (Tracer.comeTo stmt >>= fun _ => liftM action >>= tracedRest) (action >>= rest) all := by
  have visited : Traces (Tracer.comeTo stmt >>= fun _ => liftM action) action fun value visits =>
      ∃ state after, visits = [⟨stmt, state⟩] ∧ action state = .ok value after := by
    intro state before
    have came : Tracer.comeTo stmt (state, before) = .ok () (state, before ++ [⟨stmt, state⟩]) :=
      rfl
    rw [bind_of_ok came]
    cases ran : action state with
    | ok value after =>
        exact ⟨[⟨stmt, state⟩], Tracer.silent_of_ok ran _, state, after, rfl, ran⟩
    | error diagnostic after => exact ⟨[⟨stmt, state⟩], Tracer.silent_of_error ran _⟩
  -- The visit is bound together with the action, since it is the action's answer that the visited
  -- state is known by.
  rw [← bind_assoc]
  refine visited.bind fun value visits made => ?_
  rcases made with ⟨state, after, rfl, ran⟩
  exact next state value after ran

/-- A step without a trace comes last. -/
theorem Traces.before {traced : Tracer α} {action : Checker α} {last : α → Checker β}
    {kept : List ReturnVisit → Prop} (first : Traces traced action fun _ => kept) :
    Traces (traced >>= fun value => liftM (last value)) (action >>= last) fun _ => kept := by
  refine first.bind fun value visits holds => traces_silent fun _ _ _ _ => ?_
  rwa [List.append_nil]

theorem Traces.atStmt {kept : List ReturnVisit → Prop} {traced : Tracer Unit}
    {action : Checker Unit} (position : Position) (traces : Traces traced action fun _ => kept) :
    Traces (Tracer.atStmt position traced) (atStmt position action) fun _ => kept :=
  .after fun _ => .after fun _ => .after fun _ => .after fun _ => traces.before

theorem Traces.within {kept : List ReturnVisit → Prop} {traced : Tracer Unit}
    {action : Checker Unit} (kind : ScopeKind) (traces : Traces traced action fun _ => kept) :
    Traces (Tracer.within kind traced) (within kind action) fun _ => kept :=
  .after fun _ => traces.before

theorem Traces.discard {kept : List ReturnVisit → Prop} {traced : Tracer α} {action : Checker α}
    (traces : Traces traced action fun _ => kept) :
    Traces (Functor.discard traced) (Functor.discard action) fun _ => kept := by
  have bound : Traces (traced >>= fun _ => pure ()) (action >>= fun _ => pure ()) fun _ => kept :=
    traces.bind fun _ visits holds => traces_pure () (by rwa [List.append_nil])
  exact bound

theorem Traces.searchBlock {found : Option Ty → List ReturnVisit → Prop}
    {traced : Tracer (Option Ty)} {action : Checker (Option Ty)} (bound : Option (String × Ty))
    (traces : Traces traced action found) :
    Traces (Tracer.searchBlock bound traced) (searchBlock bound action) found := by
  refine .after fun _ => .after fun _ => traces.bind fun value visits holds => .after fun _ => ?_
  exact traces_pure value (by rwa [List.append_nil])

end Rules

end ScriptCheck
