import ScriptCheck.Proofs.Typing.Mirror
import ScriptCheck.Proofs.Typing.Route

/-!
# The search for the first returned value

The search walks the same way as the check, but it passes over most statements, and it binds names
by looks. On plain ways it comes to the first return statement in the same scopes as the check, up
to what loops and branches are and to what can be reached. Not every way is plain: the search takes
no notice of templates, and it binds a function after it has looked for the result of the function,
where the check binds it before.
-/

namespace ScriptCheck

open Checker

mutual

/-- Whether no template and no function with an open result is declared in a statement before the
first return statement. -/
def Stmt.isPlain : Stmt → Bool
  | .block content => content.isPlain
  | .ifElse _ _ thenBlock elseBlock =>
    thenBlock.isPlain && (thenBlock.firstReturn?.isSome || isPlainElse elseBlock)
  | .whileLoop _ _ body => body.isPlain
  | .range _ _ _ _ _ body => body.isPlain
  | .each _ _ _ body => body.isPlain
  | .fnDecl declaration => !declaration.signature.result.isInfer
  | .templateDecl .. => false
  | .varDecl .. | .expression .. | .halt _ | .skip _ | .returning .. | .echo .. => true
  termination_by structural stmt => stmt

/-- Whether the way to the first return statement of a block is plain. -/
def Block.isPlain : Block → Bool
  | ⟨_, body⟩ => isPlainIn body
  termination_by structural block => block

/-- Whether the way to the first return statement of a block behind `else` is plain. -/
def isPlainElse : Option Block → Bool
  | none => true
  | some block => block.isPlain
  termination_by structural block => block

/-- Whether the way to the first return statement in a list of statements is plain. -/
def isPlainIn : List Stmt → Bool
  | [] => true
  | stmt :: rest => stmt.isPlain && (stmt.firstReturn?.isSome || isPlainIn rest)
  termination_by structural body => body

end

theorem Block.isPlain_eq (block : Block) : block.isPlain = isPlainIn block.body := by
  rcases block with ⟨position, body⟩
  rw [Block.isPlain]

theorem searchBody_eq (block : Block) : searchBody block = searchStmts block.body := by
  rcases block with ⟨position, body⟩
  rw [searchBody]

/-- The likeness of a search and a check that are at the same statement. -/
def Likeness.tracking : Likeness where
  veiled := False
  sameLoops := False
  unveiled := False.elim
  tables := fun _ _ => True
  addVariable := fun _ _ _ => trivial
  addFunction := fun _ _ _ => trivial

/-- The scopes of a search are those of a check, but loops and branches are mere blocks, and every
statement can be reached. -/
structure ScopeStack.Tracks (search real : ScopeStack) : Prop where
  scopes : List.Forall₂
    (fun scope other => scope.isFunction = other.isFunction ∧ scope.symbols = other.symbols)
    search.scopes real.scopes
  reachable : search.isReachable = true

namespace ScopeStack.Tracks

variable {search real : ScopeStack}

theorem refl {stack : ScopeStack} (reachable : stack.isReachable = true) : stack.Tracks stack :=
  ⟨List.forall₂_same.mpr fun _ _ => ⟨rfl, rfl⟩, reachable⟩

theorem depth_eq (tracks : search.Tracks real) : search.depth = real.depth := by
  simpa [ScopeStack.scopes, depth] using tracks.scopes.length_eq

theorem enter (tracks : search.Tracks real) {kind : ScopeKind}
    (outside : (Scope.empty kind).isFunction = false) :
    (search.enter .block).Tracks (real.enter kind) := by
  refine ⟨.cons ⟨outside.symm, rfl⟩ tracks.scopes, ?_⟩
  have reachable := tracks.reachable
  simpa [isReachable, ScopeStack.scopes, ScopeStack.enter, Scope.empty] using reachable

theorem exit {scope scope' : Scope} {search' real' : ScopeStack} (tracks : search.Tracks real)
    (leftSearch : search.exit? = some (scope, search'))
    (leftReal : real.exit? = some (scope', real')) : search'.Tracks real' := by
  rcases search with ⟨inner, outer⟩
  rcases real with ⟨inner', outer'⟩
  cases outer with
  | nil => simp [exit?] at leftSearch
  | cons next outer =>
      cases outer' with
      | nil => simp [exit?] at leftReal
      | cons next' outer' =>
          simp only [exit?, Option.some.injEq, Prod.mk.injEq] at leftSearch leftReal
          rw [← leftSearch.2, ← leftReal.2]
          have reachable := tracks.reachable
          simp only [isReachable, ScopeStack.scopes, List.all_cons, Bool.and_eq_true] at reachable
          refine ⟨(List.forall₂_cons.mp tracks.scopes).2, ?_⟩
          simpa only [isReachable, ScopeStack.scopes, List.all_cons, Bool.and_eq_true]
            using reachable.2

theorem bound (tracks : search.Tracks real) (name : String) (type : Ty) :
    (search.bound name type).Tracks (real.bound name type) := by
  have parts := List.forall₂_cons.mp tracks.scopes
  refine ⟨.cons ⟨parts.1.1, ?_⟩ parts.2, tracks.reachable⟩
  exact congrArg (fun symbols => (name, type) :: symbols) parts.1.2

theorem inner_symbols (tracks : search.Tracks real) :
    search.inner.symbols = real.inner.symbols :=
  (List.forall₂_cons.mp tracks.scopes).1.2

/-- Where nothing is declared and nothing returns, the scopes are tracked as before. -/
theorem of_gained {after : ScopeStack} (tracks : search.Tracks real)
    (gained : real.Gained none False after) : search.Tracks after := by
  refine ⟨?_, tracks.reachable⟩
  have same := Settled.eq_of_not_returns gained.kept (fun never => never)
  have symbols : after.inner.symbols = real.inner.symbols :=
    gained.symbols.resolve_right fun ⟨_, _, declares, _⟩ => by simp at declares
  have parts := List.forall₂_cons.mp tracks.scopes
  rcases after with ⟨⟨kind, names, reachable⟩, outer⟩
  rcases real with ⟨⟨kind', names', reachable'⟩, outer'⟩
  simp only [ScopeStack.scopes, restored, List.cons.injEq, Scope.mk.injEq, and_true] at same
  simp only at symbols
  rcases same with ⟨rfl, rfl⟩
  subst symbols
  exact .cons parts.1 parts.2

/-- A check and a search that are at a statement that can be reached. -/
theorem states {search real : CheckState} (tracks : search.scopes.Tracks real.scopes)
    (reachable : real.scopes.isReachable = true) (position : Position) :
    Likeness.tracking.States [] { search with position } { real with position } := by
  refine ⟨rfl, trivial, [], List.Sublist.refl [], .base (by simp [ScopeStack.scopes]) ?_⟩
  have reachableSearch := tracks.reachable
  rw [isReachable, List.all_eq_true] at reachable reachableSearch
  have scopes := tracks.scopes
  generalize search.scopes.scopes = first, real.scopes.scopes = second
    at scopes reachable reachableSearch
  induction scopes with
  | nil => exact .nil
  | @cons scope other outer outer' alike rest ih =>
      refine .cons ⟨alike.1, False.elim, ?_, fun name => ?_⟩ (ih ?_ ?_)
      · rw [reachable other (by simp), reachableSearch scope (by simp)]
      · rw [Scope.lookup?, Scope.lookup?, alike.2]
        exact Likeness.option_rel_refl Likeness.Types.refl _
      · exact fun scope scopeMem => reachable scope (by simp [scopeMem])
      · exact fun scope scopeMem => reachableSearch scope (by simp [scopeMem])

end ScopeStack.Tracks

section Follow

variable {α : Type} {search real after : CheckState}

/-- What the check finds in an expression, the search finds as well. -/
theorem found_of_tracks {action : Checker α} {value : α} {position : Position}
    (mirrors : Likeness.tracking.Mirrors [] [] action) (keeps : Keeps Eq action)
    (tracks : search.scopes.Tracks real.scopes) (reachable : real.scopes.isReachable = true)
    (ran : action { real with position } = .ok value after) :
    ∃ searched, action { search with position } = .ok value searched ∧
      searched.scopes = search.scopes := by
  have outcomes := mirrors _ _ (tracks.states reachable position)
  have kept := keeps { search with position }
  rw [ran] at outcomes
  generalize action { search with position } = ranSearch at outcomes kept
  cases outcomes with
  | @ok _ searched _ alike => exact ⟨searched, rfl, kept.2.symm⟩

theorem scopes_of_define {name : String} {type : Ty}
    (defined : define name type real = .ok () after) :
    real.scopes.inner.binds name = false ∧ after.scopes = real.scopes.bound name type := by
  rw [define_apply, ScopeStack.define?] at defined
  cases bound : real.scopes.inner.binds name with
  | true =>
      rw [bound] at defined
      simp at defined
  | false =>
      rw [bound] at defined
      simp only [Bool.false_eq_true, if_false, EStateM.Result.ok.injEq, true_and] at defined
      rw [← defined]
      exact ⟨rfl, rfl⟩

/-- What the check binds, the search can bind as well. -/
theorem define_of_tracks (search : CheckState) {name : String} {type : Ty}
    (tracks : search.scopes.Tracks real.scopes)
    (defined : define name type real = .ok () after) :
    ∃ searched, define name type search = .ok () searched ∧
      searched.scopes.Tracks after.scopes := by
  rcases scopes_of_define defined with ⟨unbound, bound⟩
  have free : search.scopes.inner.binds name = false := by
    rw [Scope.binds, Scope.lookup?] at unbound ⊢
    rw [tracks.inner_symbols]
    exact unbound
  refine ⟨{ search with scopes := search.scopes.bound name type }, ?_, ?_⟩
  · rw [define_apply, ScopeStack.define?, free]
    rfl
  · rw [bound]
    exact tracks.bound name type

theorem exit_of_tracks {scope : Scope} (tracks : search.scopes.Tracks real.scopes)
    (left : exit real = .ok scope after) :
    ∃ other searched, exit search = .ok other searched ∧
      searched.scopes.Tracks after.scopes := by
  rw [exit_apply] at left ⊢
  cases leftReal : real.scopes.exit? with
  | none => simp [leftReal] at left
  | some found =>
      cases leftSearch : search.scopes.exit? with
      | none =>
          rw [ScopeStack.exit?_eq_none_iff, tracks.depth_eq, ← ScopeStack.exit?_eq_none_iff,
            leftReal] at leftSearch
          contradiction
      | some other =>
          rw [leftReal] at left
          rcases EStateM.Result.ok.inj left with ⟨_, sameState⟩
          refine ⟨_, _, rfl, ?_⟩
          rw [← sameState]
          exact tracks.exit leftSearch leftReal

theorem enter_of_tracks {kind : ScopeKind} {bound : Option (String × Ty)}
    (outside : (Scope.empty kind).isFunction = false)
    (tracks : search.scopes.Tracks real.scopes)
    (defined : defineBound bound { real with scopes := real.scopes.enter kind } = .ok () after) :
    ∃ searched, defineBound bound { search with scopes := search.scopes.enter .block } =
        .ok () searched ∧ searched.scopes.Tracks after.scopes := by
  cases bound with
  | none =>
      rw [defineBound, pure_apply, EStateM.Result.ok.injEq] at defined
      refine ⟨_, rfl, ?_⟩
      rw [← defined.2]
      exact tracks.enter outside
  | some entry =>
      exact define_of_tracks { search with scopes := search.scopes.enter .block }
        (tracks.enter outside) defined

/-- Whatever the check accepts, the search passes it and finds nothing in it, and is in the scopes
of the check again. -/
def Passes (action : Checker (Option Ty)) (check : Checker α) : Prop :=
  ∀ (search real after : CheckState) (value : α), search.scopes.Tracks real.scopes →
    check real = .ok value after →
      ∃ searched, action search = .ok none searched ∧ searched.scopes.Tracks after.scopes

theorem passes_within {kind : ScopeKind} (bound : Option (String × Ty)) {content : Block}
    (outside : (Scope.empty kind).isFunction = false)
    (passes : Passes (searchBody content) (checkBody content)) :
    Passes (searchBlock bound (searchBody content))
      (within kind (do defineBound bound; checkBody content)) := by
  intro search real after scope tracks ran
  rw [within_apply] at ran
  rcases ok_of_bind_eq_ok ran with ⟨_, blockEnd, ranInside, left⟩
  rcases ok_of_bind_eq_ok ranInside with ⟨_, entered, defined, ranBody⟩
  rcases enter_of_tracks outside tracks defined with ⟨searchEntered, searchDefined, inEntered⟩
  rcases passes _ _ _ _ inEntered ranBody with ⟨searchEnd, searchedBody, inEnd⟩
  rcases exit_of_tracks inEnd left with ⟨other, searched, searchLeft, outsideAgain⟩
  refine ⟨searched, ?_, outsideAgain⟩
  rw [searchBlock, bind_apply, enter_apply]
  simp only
  rw [bind_of_ok searchDefined, bind_of_ok searchedBody, bind_of_ok searchLeft]
  rfl

theorem passes_within_checkBody {kind : ScopeKind} {content : Block}
    (outside : (Scope.empty kind).isFunction = false)
    (passes : Passes (searchBody content) (checkBody content)) :
    Passes (searchBlock none (searchBody content)) (within kind (checkBody content)) :=
  passes_within none outside passes

/-- The search comes to a block that is not a part of a choice. -/
theorem searchStmt_of_head {stmt : Stmt} {entrance : Entrance} {opened : CheckState}
    {bound : Option (String × Ty)} {past : Bool} (enters : stmt.entrance? = some entrance)
    (single : ∀ position condition thenBlock elseBlock,
      stmt ≠ .ifElse position condition thenBlock elseBlock)
    (tracks : search.scopes.Tracks real.scopes) (reachable : real.scopes.isReachable = true)
    (passed : entrance.head { real with position := stmt.position } = .ok (bound, past) opened) :
    ∃ moved, moved.scopes = search.scopes ∧
      searchStmt stmt search = searchBlock bound (searchBody entrance.block) moved := by
  cases stmt with
  | block content =>
      simp only [Stmt.entrance?, Option.some.injEq] at enters
      subst enters
      have none_eq := (Prod.mk.inj (EStateM.Result.ok.inj passed).1).1
      rw [searchStmt, ← none_eq]
      exact ⟨{ search with position := content.position }, rfl, rfl⟩
  | whileLoop position condition body =>
      simp only [Stmt.entrance?, Option.some.injEq] at enters
      subst enters
      rcases ok_of_bind_eq_ok passed with ⟨_, _, _, passed⟩
      rcases ok_of_bind_eq_ok passed with ⟨_, _, _, passed⟩
      have none_eq := (Prod.mk.inj (EStateM.Result.ok.inj passed).1).1
      rw [searchStmt, ← none_eq]
      exact ⟨{ search with position }, rfl, rfl⟩
  | range position name first last step body =>
      simp only [Stmt.entrance?, Option.some.injEq] at enters
      subst enters
      rcases ok_of_bind_eq_ok passed with ⟨_, _, _, passed⟩
      rcases ok_of_bind_eq_ok passed with ⟨_, _, _, passed⟩
      rcases ok_of_bind_eq_ok passed with ⟨_, _, _, passed⟩
      rcases ok_of_bind_eq_ok passed with ⟨_, _, _, passed⟩
      rcases ok_of_bind_eq_ok passed with ⟨_, _, _, passed⟩
      rcases ok_of_bind_eq_ok passed with ⟨_, _, _, passed⟩
      have bound_eq := (Prod.mk.inj (EStateM.Result.ok.inj passed).1).1
      rw [searchStmt, ← bound_eq]
      exact ⟨{ search with position }, rfl, rfl⟩
  | each position name iterable body =>
      simp only [Stmt.entrance?, Option.some.injEq] at enters
      subst enters
      rcases ok_of_bind_eq_ok passed with ⟨type, typed, ranIterable, passed⟩
      rcases ok_of_bind_eq_ok passed with ⟨element, _, ranElement, passed⟩
      have bound_eq := (Prod.mk.inj (EStateM.Result.ok.inj passed).1).1
      rcases found_of_tracks (mirrors_checkExpr False.elim iterable) (keeps_checkExpr iterable)
        tracks reachable ranIterable with ⟨searched, found, sameScopes⟩
      refine ⟨searched, sameScopes, ?_⟩
      rw [searchStmt, bind_apply, moveTo_apply, ← bound_eq]
      apply (bind_of_ok found _).trans
      rw [(ok_of_follow ranElement).1]
      rfl
  | ifElse position condition thenBlock elseBlock => exact absurd rfl (single _ _ _ _)
  | _ => simp [Stmt.entrance?] at enters

/-- A statement around one block that holds no return statement. -/
theorem passes_of_entrance? {stmt : Stmt} {entrance : Entrance}
    (enters : stmt.entrance? = some entrance)
    (single : ∀ position condition thenBlock elseBlock,
      stmt ≠ .ifElse position condition thenBlock elseBlock)
    (passes : Passes (searchBody entrance.block) (checkBody entrance.block)) :
    Passes (searchStmt stmt) (checkStmt stmt) := by
  have tail (past : Bool) (scope : Scope) : entrance.tail past scope = pure () := by
    cases stmt with
    | ifElse position condition thenBlock elseBlock => exact absurd rfl (single _ _ _ _)
    | block _ | whileLoop _ _ _ | range _ _ _ _ _ _ | each _ _ _ _ =>
        simp only [Stmt.entrance?, Option.some.injEq] at enters
        rw [← enters]
    | _ => simp [Stmt.entrance?] at enters
  intro search real after _ tracks ran
  rw [Stmt.checkStmt_of_entrance? enters] at ran
  rcases ok_of_atStmt ran with ⟨reachable, between, ranCheck, sameScopes⟩
  rcases ok_of_bind_eq_ok ranCheck with ⟨⟨bound, past⟩, opened, passed, ranBlock⟩
  rcases ok_of_bind_eq_ok ranBlock with ⟨scope, outside, ranWithin, ranTail⟩
  rw [tail, pure_apply, EStateM.Result.ok.injEq] at ranTail
  have keptHead := ((Stmt.keeps_head_of_entrance? enters).of_ok passed).2
  rcases searchStmt_of_head enters single tracks reachable passed with ⟨moved, sameMoved, searches⟩
  have inMoved : moved.scopes.Tracks opened.scopes := by
    rw [sameMoved, ← keptHead]
    exact tracks
  rw [searches, ← sameScopes, ← ranTail.2]
  exact passes_within bound (Stmt.isFunction_of_entrance? enters) passes _ _ _ _ inMoved ranWithin

theorem scopes_of_checkFnDecl {declaration : FnDecl}
    (known : declaration.signature.result.isInfer = false)
    (ran : checkFnDecl declaration real = .ok () after) :
    real.scopes.inner.binds declaration.name = false ∧
      after.scopes = real.scopes.bound declaration.name (.function declaration.signature) := by
  rcases declaration with ⟨position, id, name, signature, body⟩
  rw [checkFnDecl] at ran
  rcases ok_of_bind_eq_ok ran with ⟨stack, free, ranScopes, ran⟩
  rcases ok_of_bind_eq_ok ran with ⟨_, required, ranRequire, ran⟩
  rcases ok_of_bind_eq_ok ran with ⟨_, valid, ranValid, ran⟩
  rcases ok_of_bind_eq_ok ran with ⟨_, hashable, ranHashable, ran⟩
  rcases ok_of_bind_eq_ok ran with ⟨_, defined, ranDefine, ran⟩
  rcases ok_of_bind_eq_ok ran with ⟨prepared, found, ranInfer, ran⟩
  rcases ok_of_bind_eq_ok ran with ⟨_, updated, ranUpdate, ran⟩
  rcases ok_of_bind_eq_ok ran with ⟨resolved, checked, ranBody, ran⟩
  rcases ok_of_bind_eq_ok ran with ⟨_, replaced, ranReplace, ranTable⟩
  have sameFree : free = real := (EStateM.Result.ok.inj ranScopes).2.symm
  have sameRequired := (ok_of_require ranRequire).2
  have sameValid := ((keeps_mentions signature.referencedNames).of_ok ranValid).2
  have sameHashable := (ok_of_follow ranHashable).2
  have sameScopes : hashable.scopes = real.scopes := by
    rw [sameHashable, ← sameValid, sameRequired, sameFree]
  rcases scopes_of_define ranDefine with ⟨unbound, bound⟩
  rw [sameScopes] at unbound bound
  rw [inferResult_of_known known, EStateM.Result.ok.injEq] at ranInfer
  rcases ranInfer with ⟨rfl, rfl⟩
  have sameUpdated : updated.scopes = real.scopes.bound name (.function signature) := by
    rw [← (EStateM.Result.ok.inj ranUpdate).2]
    simp only [bound, ScopeStack.update_bound unbound]
  have sameResolved := eq_of_inFunction known (keeps_checkBody body) ranBody
  have sameChecked := ((keeps_inFunction signature none (keeps_checkBody body)).of_ok ranBody).2
  rw [sameResolved, replaceFunction, Signature.agrees_refl, if_pos rfl, pure_apply,
    EStateM.Result.ok.injEq] at ranReplace
  refine ⟨unbound, ?_⟩
  rw [← (EStateM.Result.ok.inj ranTable).2, ← ranReplace.2, ← sameUpdated, sameChecked]

/-- The type of a variable is found before it is bound, and nothing else happens to the scopes. -/
theorem ok_of_declareVariable {id : Nat} {name : String} {declared actual : Ty}
    (ran : declareVariable id name declared actual real = .ok () after) :
    ∃ before type typed, before.scopes = real.scopes ∧ before.position = real.position ∧
      variableType declared actual before = .ok type typed ∧
      real.scopes.inner.binds name = false ∧ after.scopes = real.scopes.bound name type := by
  rcases ok_of_bind_eq_ok ran with ⟨_, before, ranFree, ran⟩
  rcases ok_of_bind_eq_ok ran with ⟨type, typed, ranType, ran⟩
  rcases ok_of_bind_eq_ok ran with ⟨_, initialized, ranInitial, ran⟩
  rcases ok_of_bind_eq_ok ran with ⟨_, hashable, ranHashable, ran⟩
  rcases ok_of_bind_eq_ok ran with ⟨_, defined, ranDefine, ranTable⟩
  have sameBefore := (keeps_requireUnbound name).of_ok ranFree
  have sameTyped := (keeps_variableType declared actual).of_ok ranType
  have sameScopes : hashable.scopes = real.scopes := by
    rw [(ok_of_follow ranHashable).2, (ok_of_follow ranInitial).2, ← sameTyped.2, ← sameBefore.2]
  rcases scopes_of_define ranDefine with ⟨unbound, bound⟩
  rw [sameScopes] at unbound bound
  refine ⟨before, type, typed, sameBefore.2.symm, sameBefore.1, ranType, unbound, ?_⟩
  rw [← (EStateM.Result.ok.inj ranTable).2]
  exact bound

theorem defineFound_of_tracks (search : CheckState) {stack : ScopeStack}
    (tracks : search.scopes.Tracks stack) {name : String}
    (unbound : stack.inner.binds name = false) (type : Ty) :
    ∃ searched, defineFound name (some type) search = .ok () searched ∧
      searched.scopes.Tracks (stack.bound name type) := by
  have free : search.scopes.inner.binds name = false := by
    rw [Scope.binds, Scope.lookup?] at unbound ⊢
    rw [tracks.inner_symbols]
    exact unbound
  have defined : define name type search =
      .ok () { search with scopes := search.scopes.bound name type } := by
    rw [define_apply, ScopeStack.define?, free]
    rfl
  have attempted : attempt (define name type) search =
      .ok (some ()) { search with scopes := search.scopes.bound name type } := by
    rw [attempt_apply, defined]
  exact ⟨_, bind_of_ok attempted _, tracks.bound name type⟩

/-- A variable is bound by the search as it is by the check. -/
theorem passes_varDecl (position : Position) (id : Nat) (name : String) (declared : Ty)
    (initializer : Expr) :
    Passes (searchStmt (.varDecl position id name declared initializer))
      (checkStmt (.varDecl position id name declared initializer)) := by
  intro search real after _ tracks ran
  rw [checkStmt] at ran
  rcases ok_of_atStmt ran with ⟨reachable, between, ranAction, sameScopes⟩
  rcases ok_of_bind_eq_ok ranAction with ⟨actual, valued, ranValue, ranDeclare⟩
  have sameValued := (keeps_checkExpr initializer).of_ok ranValue
  rcases ok_of_declareVariable ranDeclare with
    ⟨before, type, typed, scopesBefore, positionBefore, ranType, unbound, bound⟩
  rw [← sameValued.2] at unbound bound
  -- The check has found the type of the initializer in any case, the search needs it for an open
  -- declaration only.
  have found : ∃ searched, (if declared.isInfer then checkExpr initializer else resolve declared)
        { search with position } = .ok type searched ∧ searched.scopes = search.scopes := by
    cases opened : declared.isInfer with
    | true =>
        rw [variableType, opened, if_pos rfl, pure_apply, EStateM.Result.ok.injEq] at ranType
        rw [if_pos rfl, ← ranType.1]
        exact found_of_tracks (mirrors_checkExpr False.elim initializer)
          (keeps_checkExpr initializer) tracks reachable ranValue
    | false =>
        rw [variableType, opened, if_neg (by simp)] at ranType
        rcases ok_of_bind_eq_ok ranType with ⟨_, valid, ranValid, ranResolve⟩
        have sameValid := (keeps_mentions declared.referencedNames).of_ok ranValid
        have validScopes : valid.scopes = real.scopes := by
          rw [← sameValid.2, scopesBefore, ← sameValued.2]
        have validPosition : valid.position = position := by
          rw [sameValid.1, positionBefore, sameValued.1]
        have inPlace : valid = { valid with position } := by rw [← validPosition]
        rw [inPlace] at ranResolve
        rw [← validScopes] at tracks reachable
        exact found_of_tracks (Likeness.mirrors_resolve declared) (keeps_resolve declared) tracks
          reachable ranResolve
  rcases found with ⟨searchTyped, foundType, sameTyped⟩
  have attempted : attempt (if declared.isInfer then checkExpr initializer else resolve declared)
      { search with position } = .ok (some type) searchTyped := by
    rw [attempt_apply, foundType]
  have inTyped : searchTyped.scopes.Tracks real.scopes := by
    rw [sameTyped]
    exact tracks
  rcases defineFound_of_tracks searchTyped inTyped unbound type with ⟨searched, defined, inAfter⟩
  refine ⟨searched, ?_, ?_⟩
  · rw [searchStmt, bind_apply, moveTo_apply]
    apply (bind_of_ok attempted _).trans
    rw [bind_of_ok defined]
    rfl
  · rw [← sameScopes, bound]
    exact inAfter

/-- A function with a declared result is bound by the search as it is by the check. -/
theorem passes_fnDecl {declaration : FnDecl}
    (known : declaration.signature.result.isInfer = false) :
    Passes (searchStmt (.fnDecl declaration)) (checkStmt (.fnDecl declaration)) := by
  intro search real after _ tracks ran
  rw [checkStmt] at ran
  rcases ok_of_atStmt ran with ⟨_, between, ranDeclare, sameScopes⟩
  rcases scopes_of_checkFnDecl known ranDeclare with ⟨unbound, bound⟩
  rcases declaration with ⟨position, id, name, signature, body⟩
  rcases defineFound_of_tracks { search with position } tracks unbound
    (.function signature) with ⟨searched, defined, inAfter⟩
  refine ⟨searched, ?_, ?_⟩
  · rw [searchStmt, bind_apply, moveTo_apply]
    apply (bind_of_ok (inferResult_of_known known _ _ _ _) _).trans
    apply (bind_of_ok defined _).trans
    rfl
  · rw [← sameScopes, bound]
    exact inAfter

end Follow

mutual

/-- A statement that the check passes without a return statement is passed by the search, which
finds nothing in it. -/
theorem passes_checkStmt (stmt : Stmt) (plain : stmt.isPlain = true)
    (never : stmt.firstReturn? = none) : Passes (searchStmt stmt) (checkStmt stmt) := by
  have unseen (declares : stmt.declaredName? = none)
      (skipped : ∀ search, searchStmt stmt search =
        .ok none { search with position := stmt.position }) :
      Passes (searchStmt stmt) (checkStmt stmt) := by
    intro search real after _ tracks ran
    have kept := ((keeps_checkStmt stmt).of_ok ran).2
    simp only [never, declares, Option.isSome_none, Bool.false_eq_true] at kept
    exact ⟨_, skipped search, tracks.of_gained kept⟩
  cases stmt with
  | expression position expression => exact unseen rfl fun _ => rfl
  | halt position => exact unseen rfl fun _ => rfl
  | skip position => exact unseen rfl fun _ => rfl
  | echo position expression => exact unseen rfl fun _ => rfl
  | returning position value => simp [Stmt.firstReturn?] at never
  | templateDecl position name attributes methods => simp [Stmt.isPlain] at plain
  | varDecl position id name declared initializer =>
      exact passes_varDecl position id name declared initializer
  | fnDecl declaration =>
      rw [Stmt.isPlain, Bool.not_eq_true'] at plain
      exact passes_fnDecl plain
  | block content =>
      rw [Stmt.isPlain] at plain
      rw [Stmt.firstReturn?] at never
      exact passes_of_entrance? rfl (by simp) (passes_checkBody content plain never)
  | whileLoop position condition body =>
      rw [Stmt.isPlain] at plain
      rw [Stmt.firstReturn?] at never
      exact passes_of_entrance? rfl (by simp) (passes_checkBody body plain never)
  | range position name first last step body =>
      rw [Stmt.isPlain] at plain
      rw [Stmt.firstReturn?] at never
      exact passes_of_entrance? rfl (by simp) (passes_checkBody body plain never)
  | each position name iterable body =>
      rw [Stmt.isPlain] at plain
      rw [Stmt.firstReturn?] at never
      exact passes_of_entrance? rfl (by simp) (passes_checkBody body plain never)
  | ifElse position condition thenBlock elseBlock =>
      rw [Stmt.firstReturn?, Option.or_eq_none_iff] at never
      rw [Stmt.isPlain, never.1, Option.isSome_none, Bool.false_or, Bool.and_eq_true] at plain
      intro search real after _ tracks ran
      rw [checkStmt] at ran
      rcases ok_of_atStmt ran with ⟨reachable, between, ranAction, sameScopes⟩
      rcases ok_of_bind_eq_ok ranAction with ⟨type, tested, ranCondition, ran⟩
      rcases ok_of_bind_eq_ok ran with ⟨_, typed, ranTyped, ran⟩
      rcases ok_of_bind_eq_ok ran with ⟨_, live, ranLive, ran⟩
      rcases ok_of_bind_eq_ok ran with ⟨first, afterThen, ranThen, ran⟩
      rcases ok_of_bind_eq_ok ran with ⟨_, required, ranRequired, ran⟩
      rcases ok_of_bind_eq_ok ran with ⟨goesOn, afterElse, ranElse, ranClose⟩
      have sameTested := ((keeps_checkExpr condition).of_ok ranCondition).2
      have sameLive : live.scopes = real.scopes := by
        rw [(ok_of_require ranLive).2, (ok_of_follow ranTyped).2, ← sameTested]
      rw [← sameLive] at tracks
      have passesThen : Passes _ (within .branch (checkBody thenBlock)) :=
        passes_within_checkBody rfl (passes_checkBody thenBlock plain.1 never.1)
      rcases passesThen { search with position } _ _ _ tracks ranThen with
        ⟨searchThen, searchedThen, inThen⟩
      rw [← (ok_of_require ranRequired).2] at inThen
      rcases passes_checkElse elseBlock plain.2 never.2 _ _ _ _ inThen ranElse with
        ⟨searched, searchedElse, inElse⟩
      have closed : Keeps (ScopeStack.Gained none False)
          (unless first.reachable || goesOn do modifyScopes (·.setUnreachable)) := by
        split
        · exact (keeps_pure ()).mono fun before _ same =>
            same ▸ (ScopeStack.Settles.refl before).gained none
        · exact keeps_setUnreachable none
      refine ⟨searched, ?_, ?_⟩
      · rw [searchStmt, bind_apply, moveTo_apply]
        apply (bind_of_ok searchedThen _).trans
        exact searchedElse
      · rw [← sameScopes]
        exact inElse.of_gained (closed.of_ok ranClose).2
  termination_by structural stmt

theorem passes_checkElse (elseBlock : Option Block) (plain : isPlainElse elseBlock = true)
    (never : firstReturnElse? elseBlock = none) :
    Passes (searchElse elseBlock) (checkElse elseBlock) := by
  cases elseBlock with
  | none =>
      intro search real after goesOn tracks ran
      rw [checkElse, pure_apply, EStateM.Result.ok.injEq] at ran
      rw [searchElse, ← ran.2]
      exact ⟨_, rfl, tracks⟩
  | some block =>
      rw [isPlainElse] at plain
      rw [firstReturnElse?] at never
      have passes : Passes _ (within .branch (checkBody block)) :=
        passes_within_checkBody rfl (passes_checkBody block plain never)
      intro search real after goesOn tracks ran
      rw [checkElse] at ran
      rcases ok_of_bind_eq_ok ran with ⟨scope, outside, ranWithin, ranPure⟩
      rw [pure_apply, EStateM.Result.ok.injEq] at ranPure
      rw [searchElse, ← ranPure.2]
      exact passes _ _ _ _ tracks ranWithin
  termination_by structural elseBlock

theorem passes_checkBody (block : Block) (plain : block.isPlain = true)
    (never : block.firstReturn? = none) : Passes (searchBody block) (checkBody block) := by
  rcases block with ⟨position, body⟩
  rw [Block.isPlain] at plain
  rw [Block.firstReturn?] at never
  rw [checkBody, searchBody]
  exact passes_checkStmts body plain never
  termination_by structural block

theorem passes_checkStmts (body : List Stmt) (plain : isPlainIn body = true)
    (never : firstReturnIn? body = none) : Passes (searchStmts body) (checkStmts body) := by
  cases body with
  | nil =>
      intro search real after _ tracks ran
      rw [checkStmts, pure_apply, EStateM.Result.ok.injEq] at ran
      rw [searchStmts, ← ran.2]
      exact ⟨_, rfl, tracks⟩
  | cons stmt rest =>
      rw [firstReturnIn?, Option.or_eq_none_iff] at never
      rw [isPlainIn, never.1, Option.isSome_none, Bool.false_or, Bool.and_eq_true] at plain
      intro search real after _ tracks ran
      rw [checkStmts] at ran
      rcases ok_of_bind_eq_ok ran with ⟨_, between, ranStmt, ranRest⟩
      rcases passes_checkStmt stmt plain.1 never.1 _ _ _ _ tracks ranStmt with
        ⟨searchBetween, searchedStmt, inBetween⟩
      rcases passes_checkStmts rest plain.2 never.2 _ _ _ _ inBetween ranRest with
        ⟨searched, searchedRest, inAfter⟩
      refine ⟨searched, ?_, inAfter⟩
      rw [searchStmts, bind_of_ok searchedStmt]
      exact searchedRest
  termination_by structural body

end

section Found

variable {real : CheckState} {type : Ty}

/-- A search in the scopes of a check finds the type, and comes back to its depth. -/
def Discovers (type : Ty) (stack : ScopeStack) (action : Checker (Option Ty)) : Prop :=
  ∀ search : CheckState, search.scopes.Tracks stack →
    ∃ searched, action search = .ok (some type) searched ∧
      searched.scopes.depth = search.scopes.depth

/-- What is found in a block is found with the scopes around it. -/
theorem discovers_block {entrance : Entrance} {opened entered : CheckState}
    {bound : Option (String × Ty)} (outside : (Scope.empty entrance.kind).isFunction = false)
    (defined : defineBound bound { opened with scopes := opened.scopes.enter entrance.kind } =
      .ok () entered)
    (discovers : Discovers type entered.scopes (searchStmts entrance.block.body)) :
    Discovers type opened.scopes (searchBlock bound (searchBody entrance.block)) := by
  intro moved tracks
  rcases enter_of_tracks outside tracks defined with ⟨searchEntered, searchDefined, inEntered⟩
  rcases discovers _ inEntered with ⟨searchEnd, searchedBody, sameDepth⟩
  have deeper : searchEnd.scopes.depth = moved.scopes.depth + 1 := by
    have keptBound := ((keeps_defineBound False bound).of_ok searchDefined).2
    rw [sameDepth, keptBound.depth_eq, ScopeStack.depth_enter]
  have searchedBlock : searchBody entrance.block searchEntered = .ok (some type) searchEnd := by
    rw [searchBody_eq]
    exact searchedBody
  rcases searchEnd with ⟨⟨inner, outer⟩, analysis, position⟩
  cases outer with
  | nil => simp [ScopeStack.depth] at deeper
  | cons scope outer =>
      refine ⟨{ scopes := { inner := scope, outer }, analysis, position }, ?_, ?_⟩
      · rw [searchBlock, bind_apply, enter_apply]
        apply (bind_of_ok searchDefined _).trans
        rw [bind_of_ok searchedBlock]
        rfl
      · simpa [ScopeStack.depth] using deeper

theorem isPlain_of_entrance? {stmt : Stmt} {entrance : Entrance}
    (enters : stmt.entrance? = some entrance) (plain : stmt.isPlain = true) :
    entrance.block.isPlain = true := by
  cases stmt with
  | block content | whileLoop _ _ _ | range _ _ _ _ _ _ | each _ _ _ _ =>
      simp only [Stmt.entrance?, Option.some.injEq] at enters
      rwa [← enters, ← Stmt.isPlain]
  | ifElse position condition thenBlock elseBlock =>
      rw [Stmt.isPlain, Bool.and_eq_true] at plain
      rcases Stmt.entrance?_ifElse enters with ⟨returns, rfl⟩ | ⟨block, rfl, never, rfl⟩
      · exact plain.1
      · rw [never, Option.isSome_none, Bool.false_or, isPlainElse] at plain
        exact plain.2
  | _ => simp [Stmt.entrance?] at enters

/-- What is found in a block of a choice is found in the choice. -/
theorem discovers_ifElse {position : Position} {condition : Expr} {thenBlock : Block}
    {elseBlock : Option Block} {entrance : Entrance} {opened entered : CheckState}
    {bound : Option (String × Ty)} {past : Bool}
    (enters : (Stmt.ifElse position condition thenBlock elseBlock).entrance? = some entrance)
    (plain : (Stmt.ifElse position condition thenBlock elseBlock).isPlain = true)
    (passed : entrance.head { real with position } = .ok (bound, past) opened)
    (defined : defineBound bound { opened with scopes := opened.scopes.enter entrance.kind } =
      .ok () entered)
    (discovers : Discovers type entered.scopes (searchStmts entrance.block.body)) :
    Discovers type real.scopes (searchStmt (.ifElse position condition thenBlock elseBlock)) := by
  intro search tracks
  have outside := Stmt.isFunction_of_entrance? enters
  have keptHead := ((Stmt.keeps_head_of_entrance? enters).of_ok passed).2
  rw [Stmt.isPlain, Bool.and_eq_true] at plain
  rcases Stmt.entrance?_ifElse enters with ⟨inThen, rfl⟩ | ⟨block, rfl, never, rfl⟩
  · rcases ok_of_bind_eq_ok passed with ⟨_, tested, ranCondition, passed⟩
    have none_eq := (Prod.mk.inj (EStateM.Result.ok.inj passed).1).1
    rw [← none_eq] at defined
    rw [keptHead] at tracks
    rcases discovers_block outside defined discovers { search with position } tracks with
      ⟨searched, searchedBlock, sameDepth⟩
    refine ⟨searched, ?_, sameDepth⟩
    rw [searchStmt, bind_apply, moveTo_apply]
    apply (bind_of_ok searchedBlock _).trans
    rfl
  · rw [never, Option.isSome_none, Bool.false_or, isPlainElse] at plain
    rcases ok_of_bind_eq_ok passed with ⟨_, tested, ranCondition, passed⟩
    rcases ok_of_bind_eq_ok passed with ⟨scope, afterThen, ranThen, passed⟩
    rcases ok_of_bind_eq_ok passed with ⟨_, required, ranRequire, passed⟩
    have none_eq := (Prod.mk.inj (EStateM.Result.ok.inj passed).1).1
    have sameOpened := (EStateM.Result.ok.inj passed).2
    have keptCondition := ((keeps_checkCondition condition thenBlock).of_ok ranCondition).2
    rw [keptCondition] at tracks
    have passesThen : Passes _ (within .branch (checkBody thenBlock)) :=
      passes_within_checkBody rfl (passes_checkBody thenBlock plain.1 never)
    rcases passesThen { search with position } _ _ _ tracks ranThen with
      ⟨searchThen, searchedThen, inThen⟩
    rw [← (ok_of_require ranRequire).2, sameOpened] at inThen
    rw [← none_eq] at defined
    have sameThen : searchThen.scopes.depth = search.scopes.depth := by
      rw [inThen.depth_eq, ← keptHead, keptCondition, tracks.depth_eq]
    rcases discovers_block outside defined discovers searchThen inThen with
      ⟨searched, searchedBlock, sameDepth⟩
    refine ⟨searched, ?_, sameDepth.trans sameThen⟩
    rw [searchStmt, bind_apply, moveTo_apply]
    apply (bind_of_ok searchedThen _).trans
    simp only [searchElse]
    exact searchedBlock

/-- What is found in a block is found in the statement that the block belongs to. -/
theorem discovers_of_entrance? {stmt : Stmt} {entrance : Entrance} {opened entered : CheckState}
    {bound : Option (String × Ty)} {past : Bool} (enters : stmt.entrance? = some entrance)
    (plain : stmt.isPlain = true) (reachable : real.scopes.isReachable = true)
    (passed : entrance.head { real with position := stmt.position } = .ok (bound, past) opened)
    (defined : defineBound bound { opened with scopes := opened.scopes.enter entrance.kind } =
      .ok () entered)
    (discovers : Discovers type entered.scopes (searchStmts entrance.block.body)) :
    Discovers type real.scopes (searchStmt stmt) := by
  by_cases single : ∀ position condition thenBlock elseBlock,
      stmt ≠ .ifElse position condition thenBlock elseBlock
  · intro search tracks
    have keptHead := ((Stmt.keeps_head_of_entrance? enters).of_ok passed).2
    rcases searchStmt_of_head enters single tracks reachable passed with
      ⟨moved, sameMoved, searches⟩
    rw [← sameMoved] at tracks
    rw [keptHead] at tracks
    rcases discovers_block (Stmt.isFunction_of_entrance? enters) defined discovers moved tracks
      with ⟨searched, searchedBlock, sameDepth⟩
    rw [searches]
    exact ⟨searched, searchedBlock, sameDepth.trans (congrArg ScopeStack.depth sameMoved)⟩
  · simp only [ne_eq, not_forall, Classical.not_not] at single
    rcases single with ⟨position, condition, thenBlock, elseBlock, rfl⟩
    exact discovers_ifElse enters plain passed defined discovers

/-- On a plain way the search finds the type that the first return statement has in the check. -/
theorem discovers_of_reaches {body : List Stmt} (reaches : Reaches body real type)
    (plain : isPlainIn body = true) : Discovers type real.scopes (searchStmts body) := by
  induction reaches with
  | @here position value rest real valued type reachable found =>
      intro search tracks
      rcases found_of_tracks (mirrors_checkReturned False.elim value) (keeps_checkReturned value)
        tracks reachable found with ⟨searched, foundType, sameScopes⟩
      refine ⟨searched, ?_, by rw [sameScopes]⟩
      rw [searchStmts, searchStmt, bind_apply, bind_apply, moveTo_apply]
      simp only [Stmt.position]
      rw [bind_of_ok foundType]
      rfl
  | @later stmt rest real between type never passed reaches ih =>
      rw [isPlainIn, never, Option.isSome_none, Bool.false_or, Bool.and_eq_true] at plain
      intro search tracks
      rcases passes_checkStmt stmt plain.1 never _ _ _ _ tracks passed with
        ⟨searchBetween, searchedStmt, inBetween⟩
      rcases ih plain.2 _ inBetween with ⟨searched, searchedRest, sameDepth⟩
      refine ⟨searched, ?_, ?_⟩
      · rw [searchStmts, bind_of_ok searchedStmt]
        exact searchedRest
      · have kept := ((keeps_checkStmt stmt).of_ok passed).2.kept
        rw [sameDepth, inBetween.depth_eq, kept.depth_eq, tracks.depth_eq]
  | @inside stmt entrance rest real opened entered bound past type enters returns reachable
      passed defined reaches ih =>
      have first : stmt.firstReturn?.isSome = true := by
        rw [Stmt.firstReturn?_of_entrance? enters]
        exact returns
      rw [isPlainIn, first, Bool.true_or, Bool.and_true] at plain
      have plainBlock := isPlain_of_entrance? enters plain
      rw [Block.isPlain_eq] at plainBlock
      intro search tracks
      rcases discovers_of_entrance? enters plain reachable passed defined (ih plainBlock) _ tracks
        with ⟨searched, searchedStmt, sameDepth⟩
      refine ⟨searched, ?_, sameDepth⟩
      rw [searchStmts, bind_of_ok searchedStmt]
      rfl

end Found

end ScriptCheck
