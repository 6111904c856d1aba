import ScriptCheck.Proofs.Typing.Holes
import ScriptCheck.Proofs.Typing.Symbols
import ScriptCheck.Proofs.Typing.Visit

/-!
# What a function returns

A function with an open result is given the type of the first value that it returns, and every
return statement after it is compared with this result. What holds in the body is one fact: a result
that has been found stays until the body is left, through all blocks around the return statement. So
all returned types agree with the result that the function ends with.

They need not agree with each other. Where the result has holes, as that of a function that returns
an empty array first, returned values of different types agree with it.
-/

namespace ScriptCheck

open Checker

/-- A statement of a body at any depth of blocks. The statements of functions that are declared
inside are none of them. -/
inductive Stmt.OwnOf : List Stmt → Stmt → Prop where
  | here {body : List Stmt} {stmt : Stmt} (member : stmt ∈ body) : OwnOf body stmt
  | inside {body : List Stmt} {outer stmt : Stmt} {block : Block} (member : outer ∈ body)
      (among : block ∈ outer.blocks) (own : OwnOf block.body stmt) : OwnOf body stmt

/-- Whether a part is a statement or a list of statements. -/
def Part.isStatement : Part → Bool
  | .stmts _ | .stmt _ => true
  | .exprs _ | .expr _ | .type _ | .function .. | .signatures .. | .methods .. => false

namespace Visit

variable {visit next : Visit}

/-- The check of the first visit makes the second one, at a statement of the same function. -/
def LeadsWithin (visit next : Visit) : Prop :=
  visit.Leads next ∧ next.part.isStatement = true

/-- A value of the given type is returned by one of the own return statements of a function. A bare
return statement returns `void`. -/
def Returns (visit : Visit) (position : Position) (value : Option Expr) (type : Ty) : Prop :=
  ∃ state binders after,
    Relation.ReflTransGen LeadsWithin visit ⟨.stmt (.returning position value), state, binders⟩ ∧
      checkReturned value (state.movedTo position) = .ok type after

/-- The part of a visit is accepted, and the nearest function has the given result after it. -/
def Ends (visit : Visit) (result : Ty) : Prop :=
  ∃ after, visit.part.check visit.state = .ok () after ∧ after.scopes.result? = some result

section Coverage

variable {state : CheckState} {binders : List (String × Binder)}

theorem within_of_stmts {body : List Stmt} {stmt : Stmt} (member : stmt ∈ body)
    (accepted : Accepted ⟨.stmts body, state, binders⟩) :
    ∃ reached bound, Relation.ReflTransGen LeadsWithin ⟨.stmts body, state, binders⟩
      ⟨.stmt stmt, reached, bound⟩ := by
  induction body generalizing state binders with
  | nil => contradiction
  | cons first rest ih =>
      rcases List.mem_cons.mp member with rfl | later
      · exact ⟨state, binders, .single ⟨.firstStmt stmt rest state binders, rfl⟩⟩
      · rcases accepted with ⟨after, ran⟩
        rw [Part.check, checkStmts] at ran
        rcases ok_of_bind_eq_ok ran with ⟨_, between, ranFirst, ranRest⟩
        rcases ih later ⟨after, ranRest⟩ with ⟨reached, bound, within⟩
        exact ⟨reached, bound, within.head ⟨.laterStmts rest binders ranFirst, rfl⟩⟩

theorem accepted_of_within (within : Relation.ReflTransGen LeadsWithin visit next)
    (accepted : visit.Accepted) : next.Accepted := by
  induction within with
  | refl => exact accepted
  | tail _ leads ih => exact leads.1.accepted ih

/-- Every own statement of an accepted body is visited. -/
theorem within_of_ownOf {body : List Stmt} {stmt : Stmt} (own : Stmt.OwnOf body stmt)
    (accepted : Accepted ⟨.stmts body, state, binders⟩) :
    ∃ reached bound, Relation.ReflTransGen LeadsWithin ⟨.stmts body, state, binders⟩
      ⟨.stmt stmt, reached, bound⟩ := by
  induction own generalizing state binders with
  | here member => exact within_of_stmts member accepted
  | @inside body outer stmt block member among own ih =>
      rcases within_of_stmts member accepted with ⟨reached, bound, toOuter⟩
      have acceptedOuter := accepted_of_within toOuter accepted
      rcases leads_of_blocks among acceptedOuter with ⟨_, _, leads⟩
      rcases ih (leads.accepted acceptedOuter) with ⟨last, boundLast, toStmt⟩
      exact ⟨last, boundLast, (toOuter.tail ⟨leads, rfl⟩).trans toStmt⟩

end Coverage

section Ending

variable {state after : CheckState} {result : Ty}

/-- What a block returns is the result of the function around it. -/
theorem result?_of_block {body : List Stmt} {inside last : CheckState} {scope : Scope}
    (outside : inside.scopes.inner.isFunction = false)
    (ran : checkStmts body inside = .ok () last) (left : exit last = .ok scope after)
    (found : last.scopes.result? = some result) : after.scopes.result? = some result := by
  have kept := ((keeps_checkStmts body).of_ok ran).2
  rw [exit_apply] at left
  cases leaves : last.scopes.exit? with
  | none => simp [leaves] at left
  | some place =>
      rcases place with ⟨other, around⟩
      rw [leaves] at left
      rw [← (EStateM.Result.ok.inj left).2]
      rw [ScopeStack.result?] at found ⊢
      rw [← ScopeStack.signature?_of_exit? leaves (kept.inner_isFunction.trans outside)]
      exact found

theorem result?_of_within {kind : ScopeKind} {block : Block} {scope : Scope}
    {binders : List (String × Binder)} (outside : (Scope.empty kind).isFunction = false)
    (ran : within kind (checkBody block) state = .ok scope after)
    (ends : Ends ⟨.stmts block.body, state.entered kind, binders⟩ result) :
    after.scopes.result? = some result := by
  rcases ends with ⟨last, ranBody, found⟩
  rcases ok_of_within ran with ⟨inside, ranInside, left⟩
  rw [checkBody_eq] at ranInside
  rcases EStateM.Result.ok.inj (ranInside.symm.trans ranBody) with ⟨_, rfl⟩
  exact result?_of_block outside ranBody left found

theorem result?_of_loop {name : String} {type : Ty} {block : Block} {scope : Scope}
    {inside : CheckState} {binders : List (String × Binder)}
    (defined : define name type (state.entered .loop) = .ok () inside)
    (ran : within .loop (do define name type; checkBody block) state = .ok scope after)
    (ends : Ends ⟨.stmts block.body, inside, binders⟩ result) :
    after.scopes.result? = some result := by
  rcases ends with ⟨last, ranBody, found⟩
  rcases ok_of_within ran with ⟨blockEnd, ranInside, left⟩
  rw [bind_of_ok defined, checkBody_eq] at ranInside
  rcases EStateM.Result.ok.inj (ranInside.symm.trans ranBody) with ⟨_, rfl⟩
  have kept : (state.entered .loop).scopes.Kept False inside.scopes :=
    ((keeps_define_kept name type).of_ok defined).2
  exact result?_of_block (kept.inner_isFunction.trans rfl) ranBody left found

/-- A result that has been found stays until the statements around are done. -/
theorem LeadsWithin.ends (leads : visit.LeadsWithin next) (own : visit.part.isStatement = true)
    (accepted : visit.Accepted) (known : result.isInfer = false) (ends : next.Ends result) :
    visit.Ends result := by
  rcases leads with ⟨leads, nextOwn⟩
  rcases accepted with ⟨after, ran⟩
  refine ⟨after, ran, ?_⟩
  cases leads with
  | firstStmt stmt rest state binders =>
      rcases ends with ⟨between, ranStmt, found⟩
      rw [Part.check, checkStmts] at ran
      rcases ok_of_bind_eq_ok ran with ⟨_, _, ranAgain, ranRest⟩
      rcases EStateM.Result.ok.inj (ranAgain.symm.trans ranStmt) with ⟨_, rfl⟩
      exact ((keeps_checkStmts rest).of_ok ranRest).2.result?_of_known found known
  | laterStmts rest binders ranFirst =>
      rcases ends with ⟨last, ranRest, found⟩
      rw [Part.check, checkStmts, bind_of_ok ranFirst] at ran
      rcases EStateM.Result.ok.inj (ran.symm.trans ranRest) with ⟨_, rfl⟩
      exact found
  | block content state binders =>
      rcases ok_of_checkStmt_block ran with ⟨scope, last, ranBlock, rfl⟩
      have found := result?_of_within rfl ranBlock ends
      exact found
  | thenBlock thenBlock elseBlock binders ranCondition =>
      rcases ok_of_checkStmt_ifElse ran with
        ⟨_, _, _, past, _, last, ranAgain, ranThen, ranElse, ended⟩
      rcases EStateM.Result.ok.inj (ranAgain.symm.trans ranCondition) with ⟨_, rfl⟩
      have found := result?_of_within rfl ranThen ends
      have kept := ((keeps_checkElse elseBlock).of_ok ranElse).2.kept
      have foundLast := kept.result?_of_known found known
      rcases ended with rfl | rfl
      · exact foundLast
      · exact foundLast
  | elseBlock elseBlock binders ranCondition ranThen =>
      rcases ok_of_checkStmt_ifElse ran with
        ⟨_, _, _, _, _, last, ranAgain, ranThenAgain, ranElse, ended⟩
      rcases EStateM.Result.ok.inj (ranAgain.symm.trans ranCondition) with ⟨_, rfl⟩
      rcases EStateM.Result.ok.inj (ranThenAgain.symm.trans ranThen) with ⟨_, rfl⟩
      rcases ok_of_checkElse ranElse with ⟨scope, ranBlock, _⟩
      have foundLast := result?_of_within rfl ranBlock ends
      rcases ended with rfl | rfl
      · exact foundLast
      · exact foundLast
  | whileBody body binders ranCondition =>
      rcases ok_of_checkStmt_whileLoop ran with ⟨_, _, _, _, ranAgain, ranLoop, rfl⟩
      rcases EStateM.Result.ok.inj (ranAgain.symm.trans ranCondition) with ⟨_, rfl⟩
      have found := result?_of_within rfl ranLoop ends
      exact found
  | rangeBody body binders ranParts defined =>
      rcases ok_of_checkStmt_range ran with ⟨_, _, _, ranAgain, ranLoop, rfl⟩
      rcases EStateM.Result.ok.inj (ranAgain.symm.trans ranParts) with ⟨_, rfl⟩
      have found := result?_of_loop defined ranLoop ends
      exact found
  | eachBody body binders ranIterable defined =>
      rcases ok_of_checkStmt_each ran with ⟨_, _, _, _, ranAgain, ranLoop, rfl⟩
      rcases EStateM.Result.ok.inj (ranAgain.symm.trans ranIterable) with ⟨sameType, rfl⟩
      rw [Ty.array.inj sameType] at ranLoop
      have found := result?_of_loop defined ranLoop ends
      exact found
  | _ => contradiction

/-- After a return statement the function has a result, and the returned type agrees with it. -/
theorem ends_of_returning {position : Position} {value : Option Expr} {type : Ty}
    {valued : CheckState} {binders : List (String × Binder)}
    (accepted : Accepted ⟨.stmt (.returning position value), state, binders⟩)
    (typed : checkReturned value (state.movedTo position) = .ok type valued)
    (known : type.isInfer = false) :
    ∃ result, result.isInfer = false ∧ result.agrees type = true ∧
      Ends ⟨.stmt (.returning position value), state, binders⟩ result := by
  rcases accepted with ⟨after, ran⟩
  rcases ok_of_checkStmt_returning ran with
    ⟨signature, actual, between, given, nearest, typedAgain, gives, rfl⟩
  rcases EStateM.Result.ok.inj (typedAgain.symm.trans typed) with ⟨rfl, rfl⟩
  have sameScopes := ((keeps_checkReturned value).of_ok typed).2
  have nearestAfter : between.scopes.signature? = some signature := by
    rw [← sameScopes]
    exact nearest
  unfold giveResult at gives
  split at gives
  · rw [← (EStateM.Result.ok.inj gives).2] at ran
    refine ⟨actual, known, Ty.agrees_refl actual, _, ran, ?_⟩
    have found := ScopeStack.signature?_setResult actual nearestAfter
    rw [ScopeStack.result?, ScopeStack.signature?_setUnreachable, found]
    rfl
  · rename_i isKnown
    rcases ok_of_follow gives with ⟨returned, rfl⟩
    rw [Bool.not_eq_true] at isKnown
    refine ⟨signature.result, isKnown, ?_, _, ran, ?_⟩
    · cases agrees : signature.result.agrees actual with
      | true => rfl
      | false => simp [Rule.returned, Rule.agree, agrees] at returned
    · rw [ScopeStack.result?, ScopeStack.signature?_setUnreachable, nearestAfter]
      rfl

theorem ends_of_path (own : visit.part.isStatement = true) (accepted : visit.Accepted)
    (within : Relation.ReflTransGen LeadsWithin visit next) (known : result.isInfer = false)
    (ends : next.Ends result) : visit.Ends result := by
  induction within using Relation.ReflTransGen.head_induction_on with
  | refl => exact ends
  | head leads _ ih => exact leads.ends own accepted known (ih leads.2 (leads.1.accepted accepted))

end Ending

end Visit

section Functions

variable {signature resolved : Signature} {template : Option Template} {body : Block}
variable {state after : CheckState} {binders : List (String × Binder)}

/-- A returned type agrees with the result that the function ends with. -/
theorem result_agrees_of_returns
    (ran : checkFunction signature template body state = .ok resolved after)
    {position : Position} {value : Option Expr} {type : Ty}
    (returns : Visit.Returns ⟨.function signature template body, state, binders⟩ position value
      type)
    (known : type.isInfer = false) : resolved.result.agrees type = true := by
  rcases returns with ⟨moment, bound, valued, within, typed⟩
  rcases ok_of_inFunction (keeps_checkBody body) ran with
    ⟨entered, bodyEnd, found, ranEnter, ranBody, nearest, rfl⟩
  rcases Relation.ReflTransGen.cases_head within with same | ⟨next, leads, within⟩
  · simp at same
  · rcases leads with ⟨leads, own⟩
    cases leads with
    | body _ binders ranAgain =>
        rcases EStateM.Result.ok.inj (ranAgain.symm.trans ranEnter) with ⟨_, rfl⟩
        rw [checkBody_eq] at ranBody
        have acceptedReturn := Visit.accepted_of_within within ⟨bodyEnd, ranBody⟩
        rcases Visit.ends_of_returning acceptedReturn typed known with
          ⟨result, isKnown, agrees, ends⟩
        rcases Visit.ends_of_path own ⟨bodyEnd, ranBody⟩ within isKnown ends with
          ⟨last, ranLast, result?⟩
        rcases EStateM.Result.ok.inj (ranBody.symm.trans ranLast) with ⟨_, rfl⟩
        rw [ScopeStack.result?, nearest, Option.map_some, Option.some.injEq] at result?
        rw [Signature.settled, result?, isKnown]
        simpa [result?] using agrees

/-- The types that the own return statements of an accepted function return agree with its result,
and with each other where the result has no holes. -/
theorem own_returns_agree (ran : checkFunction signature template body state = .ok resolved after)
    (binders : List (String × Binder)) :
    (∀ position value, Stmt.OwnOf body.body (.returning position value) → ∃ type,
      Visit.Returns ⟨.function signature template body, state, binders⟩ position value type) ∧
    (∀ position value type,
      Visit.Returns ⟨.function signature template body, state, binders⟩ position value type →
        type.isInfer = false → resolved.result.agrees type = true) ∧
    (resolved.result.isFilled = true → ∀ position value type position' value' other,
      Visit.Returns ⟨.function signature template body, state, binders⟩ position value type →
      Visit.Returns ⟨.function signature template body, state, binders⟩ position' value' other →
        type.isInfer = false → other.isInfer = false → type.agrees other = true) := by
  refine ⟨fun position value own => ?_, fun _ _ _ => result_agrees_of_returns ran,
    fun filled _ _ type _ _ other first second known knownToo => ?_⟩
  · rcases ok_of_checkFunction ran with ⟨inside, bodyEnd, ranEnter, ranBody⟩
    rw [checkBody_eq] at ranBody
    have leads := Visit.Leads.body body binders ranEnter
    rcases Visit.within_of_ownOf own ⟨bodyEnd, ranBody⟩ with ⟨moment, bound, within⟩
    rcases Visit.accepted_of_within within ⟨bodyEnd, ranBody⟩ with ⟨last, ranReturn⟩
    rcases ok_of_checkStmt_returning ranReturn with ⟨_, type, between, _, _, typed, _⟩
    exact ⟨type, moment, bound, between, within.head ⟨leads, rfl⟩, typed⟩
  · have agrees := result_agrees_of_returns ran first known
    rw [Ty.agrees_comm] at agrees
    exact Ty.agrees_through filled agrees (result_agrees_of_returns ran second knownToo)

end Functions

/-- A choice whose block only returns a value. -/
def returnIf (condition : String) (value : Expr) : Stmt :=
  .ifElse Position.unknown (.identifier condition)
    ⟨Position.unknown, [.returning Position.unknown (some value)]⟩ none

/-- An empty array that is returned last makes no difference. -/
theorem numbersThenEmpty_returns_agree :
    let signature : Signature := { result := .infer, params := [("a", .bool)] }
    let body : Block := ⟨Position.unknown, [returnIf "a" (.array [.integer 1]),
      .returning Position.unknown (some (.array []))]⟩
    let visit : Visit := ⟨.function signature none body, CheckState.initial, []⟩
    ∃ resolved after, checkFunction signature none body CheckState.initial = .ok resolved after ∧
      resolved.result = .array .int ∧
      (∀ position value, Stmt.OwnOf body.body (.returning position value) →
        ∃ type, visit.Returns position value type) ∧
      (∀ position value type, visit.Returns position value type →
        type.isInfer = false → resolved.result.agrees type = true) ∧
      (resolved.result.isFilled = true → ∀ position value type position' value' other,
        visit.Returns position value type → visit.Returns position' value' other →
          type.isInfer = false → other.isInfer = false → type.agrees other = true) := by
  intro signature body visit
  have ran : checkFunction signature none body CheckState.initial =
    .ok (signature.withResult (.array .int)) CheckState.initial := rfl
  exact ⟨_, _, ran, rfl, own_returns_agree ran []⟩

/-- Where an empty array is returned first, an array of integers and an array of texts are both
accepted behind it, though they do not agree. -/
theorem emptyThenMixed_returns_disagree :
    let signature : Signature := { result := .infer, params := [("a", .bool), ("b", .bool)] }
    let body : Block := ⟨Position.unknown, [returnIf "a" (.array []),
      returnIf "b" (.array [.integer 1]),
      .returning Position.unknown (some (.array [.string "c"]))]⟩
    let prepared := signature.withResult (.array .void)
    let visit : Visit := ⟨.function prepared none body, CheckState.initial, []⟩
    prepareSignature signature none body CheckState.initial = .ok prepared CheckState.initial ∧
      (∃ after, checkFunction prepared none body CheckState.initial = .ok prepared after) ∧
      visit.Returns Position.unknown (some (.array [.integer 1])) (.array .int) ∧
      visit.Returns Position.unknown (some (.array [.string "c"])) (.array .str) ∧
      (Ty.array .int).agrees (.array .str) = false := by
  intro signature body prepared visit
  let inside : CheckState := { CheckState.initial with
    scopes := ⟨⟨.function prepared, [("b", .bool), ("a", .bool)], true⟩, [Scope.empty .global]⟩ }
  have entered : enterFunction prepared none CheckState.initial = .ok () inside := rfl
  have passedFirst : checkStmt (returnIf "a" (.array [])) inside = .ok () inside := rfl
  have passedSecond : checkStmt (returnIf "b" (.array [.integer 1])) inside = .ok () inside := rfl
  have tested : checkExpr (.identifier "b") (inside.movedTo Position.unknown) =
    .ok .bool inside := rfl
  have toSecond : Relation.ReflTransGen Visit.LeadsWithin visit
      ⟨.stmts body.body.tail, inside, functionBinders prepared none⟩ :=
    (Relation.ReflTransGen.single ⟨.body body [] entered, rfl⟩).tail
      ⟨.laterStmts _ _ passedFirst, rfl⟩
  have secondReturn : Relation.ReflTransGen Visit.LeadsWithin visit
      ⟨.stmt (.returning Position.unknown (some (.array [.integer 1]))), inside.entered .branch,
        functionBinders prepared none⟩ :=
    ((toSecond.tail ⟨.firstStmt _ _ _ _, rfl⟩).tail ⟨.thenBlock _ _ _ tested, rfl⟩).tail
      ⟨.firstStmt _ _ _ _, rfl⟩
  have lastReturn : Relation.ReflTransGen Visit.LeadsWithin visit
      ⟨.stmt (.returning Position.unknown (some (.array [.string "c"]))), inside,
        functionBinders prepared none⟩ :=
    (toSecond.tail ⟨.laterStmts _ _ passedSecond, rfl⟩).tail ⟨.firstStmt _ _ _ _, rfl⟩
  exact ⟨rfl, ⟨_, rfl⟩, ⟨_, _, _, secondReturn, rfl⟩, ⟨_, _, _, lastReturn, rfl⟩, rfl⟩

end ScriptCheck
