import ScriptCheck.Proofs.Typing.Run
import ScriptCheck.Proofs.Typing.Stack

/-!
# Stack discipline

Every check leaves the stack of scopes as it found it, up to what it is there to record. The type of
an expression is found without any trace in the scopes, also where a function without a name is
checked on the way. A statement declares at most its own name and may settle the result of the
function around it. Since every scope that is entered is still there when it is left, no program is
refused for leaving the global scope.

The induction follows the recursion of the checker. The search for a first returned value needs no
case in it: whatever the search does to the scopes is undone before anything else is checked.
-/

namespace ScriptCheck

namespace Checker

variable {α β : Type}

/-- Where an action succeeds, the scopes before and after it are related and the current position
is the same. Where it fails, the reason is not that the global scope was left. -/
def Keeps (relation : ScopeStack → ScopeStack → Prop) (action : Checker α) : Prop :=
  ∀ state,
    match action state with
    | .ok _ after => after.position = state.position ∧ relation state.scopes after.scopes
    | .error diagnostic _ => diagnostic.cause ≠ .flow .globalScopeExit

section Combinators

variable {first second third : ScopeStack → ScopeStack → Prop}

theorem Keeps.of_ok {action : Checker α} {state after : CheckState} {value : α}
    (keeps : Keeps first action) (ran : action state = .ok value after) :
    after.position = state.position ∧ first state.scopes after.scopes := by
  have kept := keeps state
  rw [ran] at kept
  exact kept

theorem Keeps.mono {action : Checker α} (keeps : Keeps first action)
    (weaker : ∀ before after, first before after → second before after) : Keeps second action := by
  intro state
  have kept := keeps state
  cases ran : action state with
  | ok value after =>
      rw [ran] at kept
      exact ⟨kept.1, weaker _ _ kept.2⟩
  | error diagnostic after =>
      rw [ran] at kept
      exact kept

theorem Keeps.bindReturning {action : Checker α} {rest : α → Checker β} (keeps : Keeps first action)
    (returned : α → Prop)
    (returns : ∀ state value after, action state = .ok value after → returned value)
    (keepsRest : ∀ value, returned value → Keeps second (rest value))
    (compose : ∀ before between after, first before between → second between after →
      third before after) : Keeps third (action >>= rest) := by
  intro state
  have kept := keeps state
  rw [bind_apply]
  cases ran : action state with
  | error diagnostic between =>
      rw [ran] at kept
      exact kept
  | ok value between =>
      rw [ran] at kept
      have keptRest := keepsRest value (returns state value between ran) between
      simp only
      cases ranRest : rest value between with
      | error diagnostic after =>
          rw [ranRest] at keptRest
          exact keptRest
      | ok result after =>
          rw [ranRest] at keptRest
          exact ⟨keptRest.1.trans kept.1, compose _ _ _ kept.2 keptRest.2⟩

theorem Keeps.bind {action : Checker α} {rest : α → Checker β} (keeps : Keeps first action)
    (keepsRest : ∀ value, Keeps second (rest value))
    (compose : ∀ before between after, first before between → second between after →
      third before after) : Keeps third (action >>= rest) :=
  keeps.bindReturning (fun _ => True) (fun _ _ _ _ => trivial) (fun value _ => keepsRest value)
    compose

/-- What comes after an action that leaves the scopes alone decides how they change. -/
theorem Keeps.then {action : Checker α} {rest : α → Checker β} (keeps : Keeps Eq action)
    (keepsRest : ∀ value, Keeps second (rest value)) : Keeps second (action >>= rest) :=
  keeps.bind keepsRest fun _ _ _ same related => same ▸ related

/-- What comes before an action that leaves the scopes alone decides how they change. -/
theorem Keeps.finish {action : Checker α} {rest : α → Checker β} (keeps : Keeps first action)
    (keepsRest : ∀ value, Keeps Eq (rest value)) : Keeps first (action >>= rest) :=
  keeps.bind keepsRest fun _ _ _ related same => same ▸ related

theorem keeps_pure (value : α) : Keeps Eq (pure value : Checker α) :=
  fun _ => ⟨rfl, rfl⟩

theorem Keeps.discard {action : Checker α} (keeps : Keeps first action) :
    Keeps first (discard action) :=
  keeps.finish fun _ => keeps_pure _

theorem keeps_fail {cause : Cause} (other : cause ≠ .flow .globalScopeExit) :
    Keeps first (fail cause : Checker α) :=
  fun _ => other

theorem keeps_require (holds : Bool) {cause : Cause} (other : cause ≠ .flow .globalScopeExit) :
    Keeps Eq (require holds cause) := by
  cases holds with
  | false => exact keeps_fail other
  | true => exact keeps_pure ()

theorem keeps_follow (result : Except TypeFault α) : Keeps Eq (follow result) := by
  cases result with
  | ok value => exact keeps_pure value
  | error fault => exact keeps_fail (by simp)

theorem keeps_scopes : Keeps Eq scopes :=
  fun _ => ⟨rfl, rfl⟩

theorem keeps_lookup? (reach : Reach) (name : String) : Keeps Eq (lookup? reach name) :=
  fun _ => ⟨rfl, rfl⟩

theorem keeps_modifyAnalysis (change : Analysis → Analysis) : Keeps Eq (modifyAnalysis change) :=
  fun _ => ⟨rfl, rfl⟩

theorem keeps_setUnreachable {returns : Prop} (declared : Option String) :
    Keeps (ScopeStack.Gained declared returns) (modifyScopes (·.setUnreachable)) :=
  fun state => ⟨rfl, ScopeStack.gained_setUnreachable state.scopes declared⟩

theorem keeps_update (name : String) (type : Ty) :
    Keeps (ScopeStack.Retyped name) (update name type) :=
  fun state => ⟨rfl, ScopeStack.retyped_update state.scopes name type⟩

theorem keeps_define (name : String) (type : Ty) :
    Keeps (ScopeStack.Declared name) (define name type) := by
  intro state
  rw [define_apply]
  cases defined : state.scopes.define? name type with
  | none => simp
  | some extended => exact ⟨rfl, ScopeStack.declared_of_define? defined⟩

theorem keeps_forM {Item : Type} {relation : ScopeStack → ScopeStack → Prop}
    (same : ∀ stack, relation stack stack)
    (compose : ∀ before between after, relation before between → relation between after →
      relation before after)
    {step : Item → Checker Unit} (items : List Item)
    (keeps : ∀ item ∈ items, Keeps relation (step item)) : Keeps relation (items.forM step) := by
  induction items with
  | nil => exact fun state => ⟨rfl, same state.scopes⟩
  | cons item rest ih =>
      show Keeps relation (step item >>= fun _ => rest.forM step)
      refine (keeps item (by simp)).bind (fun _ => ih ?_) compose
      intro other otherMem
      exact keeps other (by simp [otherMem])

/-- Declarations one after another keep everything but the names of the innermost scope. -/
theorem keeps_forM_define {Item : Type} {returns : Prop} {step : Item → Checker Unit}
    (items : List Item) (keeps : ∀ item ∈ items, Keeps (ScopeStack.Kept returns) (step item)) :
    Keeps (ScopeStack.Kept returns) (items.forM step) :=
  keeps_forM ScopeStack.Kept.refl (fun _ _ _ => ScopeStack.Kept.trans) items keeps

end Combinators

section Blocks

variable {returns : Prop}

theorem keeps_templateOr (missing : NameFault) (name : String) :
    Keeps Eq (templateOr missing name) := by
  refine (keeps_lookup? .everywhere name).then fun found => ?_
  split
  · exact keeps_pure _
  · exact keeps_fail (by simp)
  · exact keeps_fail (by simp)

theorem keeps_mentions (names : List String) :
    Keeps Eq (names.forM fun name => Functor.discard (mentionedTemplate name)) :=
  keeps_forM (fun _ => rfl) (fun _ _ _ => Eq.trans) names
    fun name _ => (keeps_templateOr (.typeNotDefined name) name).discard

theorem keeps_resolve (type : Ty) : Keeps Eq (resolve type) := by
  unfold resolve
  split
  · exact (keeps_templateOr _ _).then fun _ => keeps_pure _
  · exact keeps_pure _

theorem keeps_inferResult (signature : Signature) (template : Option Template)
    (firstReturn : Option (Option Expr)) (search : Checker (Option Ty)) :
    Keeps Eq (inferResult signature template firstReturn search) := by
  intro state
  rcases inferResult_apply signature template firstReturn search state with ⟨prepared, ran⟩
  rw [ran]
  exact ⟨rfl, rfl⟩

theorem keeps_calledByName (name : String) (count : Nat) : Keeps Eq (calledByName name count) := by
  refine (keeps_lookup? .everywhere name).then fun found => ?_
  split
  · exact keeps_fail (by simp)
  · exact keeps_follow _

theorem keeps_calleeSignature (name : Option String) (count : Nat) {value : Checker Ty}
    (keeps : Keeps Eq value) : Keeps Eq (calleeSignature name count value) := by
  cases name with
  | none => exact keeps.then fun _ => keeps_follow _
  | some name => exact keeps_calledByName name count

theorem keeps_declaredAttribute (template : Template) (name : String) :
    Keeps Eq (declaredAttribute template name) := by
  unfold declaredAttribute
  split
  · exact keeps_pure _
  · exact keeps_fail (by simp)

theorem keeps_requireUnbound (name : String) : Keeps Eq (requireUnbound name) := by
  refine keeps_scopes.then fun stack => ?_
  split
  · exact keeps_pure ()
  · split
    · exact keeps_fail (by simp)
    · exact keeps_fail (by simp)

theorem keeps_variableType (declared actual : Ty) : Keeps Eq (variableType declared actual) := by
  unfold variableType
  split
  · exact keeps_pure _
  · exact (keeps_mentions _).then fun _ => keeps_resolve declared

theorem keeps_declareVariable (id : Nat) (name : String) (declared actual : Ty) :
    Keeps (ScopeStack.Gained (some name) returns) (declareVariable id name declared actual) := by
  refine (keeps_requireUnbound name).then fun _ => ?_
  refine (keeps_variableType declared actual).then fun type => ?_
  refine (keeps_follow _).then fun _ => (keeps_follow _).then fun _ => ?_
  refine Keeps.finish ?_ fun _ => keeps_modifyAnalysis _
  exact (keeps_define name type).mono fun _ _ => ScopeStack.Declared.gained_self

theorem keeps_define_kept (name : String) (type : Ty) :
    Keeps (ScopeStack.Kept returns) (define name type) :=
  (keeps_define name type).mono fun _ _ => ScopeStack.Declared.kept

theorem keeps_defineResolved (entries : List (String × Ty)) :
    Keeps (ScopeStack.Kept returns) (defineResolved entries) :=
  keeps_forM_define entries fun entry _ =>
    (keeps_resolve entry.2).then fun type => keeps_define_kept entry.1 type

theorem keeps_defineMembers (template : Option Template) :
    Keeps (ScopeStack.Kept returns) (defineMembers template) := by
  cases template with
  | none => exact (keeps_pure ()).mono fun _ _ same => same ▸ ScopeStack.Kept.refl _
  | some declared =>
      refine (keeps_defineResolved declared.attributes).bind (fun _ => ?_)
        fun _ _ _ => ScopeStack.Kept.trans
      exact keeps_forM_define declared.methods fun method _ => keeps_define_kept _ _

/-- A scope that was entered is still the innermost one, with whatever names it binds by now. -/
def Inside (kind : ScopeKind) (returns : Prop) (before after : ScopeStack) : Prop :=
  (before.enter kind).Kept returns after

theorem keeps_enter (kind : ScopeKind) : Keeps (Inside kind returns) (enter kind) :=
  fun _ => ⟨rfl, ScopeStack.Kept.refl _⟩

theorem Keeps.inside {first : Checker α} {rest : α → Checker β} {kind : ScopeKind}
    (keeps : Keeps (Inside kind returns) first)
    (keepsRest : ∀ value, Keeps (ScopeStack.Kept returns) (rest value)) :
    Keeps (Inside kind returns) (first >>= rest) :=
  keeps.bind keepsRest fun _ _ _ => ScopeStack.Kept.trans

theorem keeps_enterFunction (signature : Signature) (template : Option Template) :
    Keeps (Inside (.function signature) returns) (enterFunction signature template) :=
  ((keeps_enter _).inside fun _ => keeps_defineMembers template).inside
    fun _ => keeps_defineResolved signature.params

/-- The scope that was entered can be left, and the scopes around it are still there. -/
theorem exit_of_inside {kind : ScopeKind} {before : ScopeStack} {state : CheckState}
    (inside : Inside kind returns before state.scopes) :
    ∃ outside, exit state = .ok state.scopes.inner { state with scopes := outside } ∧
      before.Settles returns outside ∧
        ((Scope.empty kind).isFunction = true → outside = before) := by
  rcases state with ⟨⟨⟨innerKind, symbols, reachable⟩, outer⟩, analysis, position⟩
  rcases before with ⟨inner, rest⟩
  cases outer with
  | nil => simpa [ScopeStack.depth, ScopeStack.enter, ScopeStack.scopes] using inside.depth_eq
  | cons scope outer =>
      refine ⟨{ inner := scope, outer }, by rw [exit_apply]; rfl, ?_, ?_⟩
      · exact Settled.outer_settled inside
      · intro isFunction
        have same := Settled.outer_eq_of_function inside isFunction
        have equal : scope :: outer = inner :: rest := same
        simp only [List.cons.injEq] at equal
        rw [equal.1, equal.2]

theorem keeps_exit {kind : ScopeKind} {action : Checker α}
    (keeps : Keeps (Inside kind returns) action)
    (rest : α → Scope → Checker β) (keepsRest : ∀ value scope, Keeps Eq (rest value scope)) :
    Keeps (fun before after => before.Settles returns after ∧
        ((Scope.empty kind).isFunction = true → before = after))
      (action >>= fun value => exit >>= rest value) := by
  intro state
  have kept := keeps state
  rw [bind_apply]
  cases ran : action state with
  | error diagnostic between =>
      rw [ran] at kept
      exact kept
  | ok value between =>
      rw [ran] at kept
      rcases exit_of_inside kept.2 with ⟨outside, left, settles, returned⟩
      simp only
      rw [bind_of_ok left]
      have keptRest := keepsRest value between.scopes.inner { between with scopes := outside }
      cases ranRest : rest value between.scopes.inner { between with scopes := outside } with
      | error diagnostic after =>
          rw [ranRest] at keptRest
          exact keptRest
      | ok result after =>
          rw [ranRest] at keptRest
          rcases keptRest with ⟨position, same⟩
          refine ⟨position.trans kept.1, ?_, ?_⟩
          · exact same ▸ settles
          · intro isFunction
            exact (returned isFunction).symm.trans same

/-- A body that keeps the scope of its function is checked without a trace in the scopes. -/
theorem keeps_inFunction (signature : Signature) (template : Option Template)
    {body : Checker Unit} (keeps : Keeps (ScopeStack.Kept returns) body) :
    Keeps Eq (inFunction signature template body) := by
  have inside : Keeps (Inside (.function signature) returns) (do
      enterFunction signature template
      body) :=
    (keeps_enterFunction signature template).inside fun _ => keeps
  have left := keeps_exit inside
    (fun _ scope => pure (scope.signature?.getD signature).settled) fun _ _ => keeps_pure _
  rw [bind_assoc] at left
  exact left.mono fun _ _ kept => kept.2 rfl

/-- What happens to a function when its body is left. -/
theorem exit_of_inFunction {signature : Signature} {template : Option Template}
    {state entered bodyEnd : CheckState} {body : Checker Unit}
    (keeps : Keeps (ScopeStack.Kept returns) body)
    (ranEnter : enterFunction signature template state = .ok () entered)
    (ranBody : body entered = .ok () bodyEnd) :
    exit bodyEnd = .ok bodyEnd.scopes.inner { bodyEnd with scopes := state.scopes } ∧
      ∃ found, bodyEnd.scopes.inner.signature? = some found ∧
        bodyEnd.scopes.signature? = some found := by
  have inside : Keeps (Inside (.function signature) returns) (do
      enterFunction signature template
      body) :=
    (keeps_enterFunction signature template).inside fun _ => keeps
  have ranBoth : (enterFunction signature template >>= fun _ => body) state = .ok () bodyEnd := by
    rw [bind_of_ok ranEnter, ranBody]
  have kept := inside.of_ok ranBoth
  rcases exit_of_inside kept.2 with ⟨outside, left, _, returned⟩
  rw [returned rfl] at left
  have isFunction : bodyEnd.scopes.inner.isFunction = true := by
    rcases bodyEnd with ⟨⟨⟨kind, symbols, reachable⟩, outer⟩, analysis, position⟩
    cases kept.2 with
    | same => rfl
    | found => rfl
    | around => rfl
  rcases Option.isSome_iff_exists.mp isFunction with ⟨found, here⟩
  refine ⟨left, found, here, ?_⟩
  simp only [ScopeStack.signature?, ScopeStack.scopes, List.findSome?_cons, here]

/-- The result of a function is what its body has found. -/
theorem inFunction_apply {signature found : Signature} {template : Option Template}
    {state entered bodyEnd : CheckState} {body : Checker Unit}
    (keeps : Keeps (ScopeStack.Kept returns) body)
    (ranEnter : enterFunction signature template state = .ok () entered)
    (ranBody : body entered = .ok () bodyEnd)
    (nearest : bodyEnd.scopes.signature? = some found) :
    inFunction signature template body state =
      .ok found.settled { bodyEnd with scopes := state.scopes } := by
  rcases exit_of_inFunction keeps ranEnter ranBody with ⟨left, other, here, same⟩
  rw [nearest, Option.some.injEq] at same
  rw [inFunction, bind_of_ok ranEnter, bind_of_ok ranBody, bind_of_ok left, pure_apply, here, same]
  rfl

theorem ok_of_inFunction {signature resolved : Signature} {template : Option Template}
    {state after : CheckState} {body : Checker Unit}
    (keeps : Keeps (ScopeStack.Kept returns) body)
    (ran : inFunction signature template body state = .ok resolved after) :
    ∃ entered bodyEnd found, enterFunction signature template state = .ok () entered ∧
      body entered = .ok () bodyEnd ∧ bodyEnd.scopes.signature? = some found ∧
      resolved = found.settled := by
  rcases ok_of_bind_eq_ok ran with ⟨_, entered, ranEnter, ranRest⟩
  rcases ok_of_bind_eq_ok ranRest with ⟨_, bodyEnd, ranBody, _⟩
  rcases exit_of_inFunction keeps ranEnter ranBody with ⟨_, found, _, nearest⟩
  rw [inFunction_apply keeps ranEnter ranBody nearest, EStateM.Result.ok.injEq] at ran
  exact ⟨entered, bodyEnd, found, ranEnter, ranBody, nearest, ran.1.symm⟩

theorem signature?_of_enterFunction {signature : Signature} {template : Option Template}
    {state entered : CheckState} (ran : enterFunction signature template state = .ok () entered) :
    entered.scopes.signature? = some signature := by
  have inside : Inside (.function signature) False state.scopes entered.scopes :=
    ((keeps_enterFunction signature template).of_ok ran).2
  rw [inside.signature?_eq (fun never => never)]
  rfl

/-- A declared result stays as it is. -/
theorem eq_of_inFunction {signature resolved : Signature} {template : Option Template}
    {state after : CheckState} {body : Checker Unit} (known : signature.result.isInfer = false)
    (keeps : Keeps (ScopeStack.Kept returns) body)
    (ran : inFunction signature template body state = .ok resolved after) :
    resolved = signature := by
  rcases ok_of_inFunction keeps ran with ⟨entered, bodyEnd, found, ranEnter, ranBody, nearest, rfl⟩
  have declared := (keeps.of_ok ranBody).2.signature?_of_known
    (signature?_of_enterFunction ranEnter) known
  rw [nearest, Option.some.injEq] at declared
  rw [declared, Signature.settled, known]
  rfl

theorem keeps_within {kind : ScopeKind} {body : Checker Unit}
    (keeps : Keeps (ScopeStack.Kept returns) body) :
    Keeps (ScopeStack.Settles returns) (within kind body) := by
  have left := keeps_exit ((keeps_enter kind).inside fun _ => keeps)
    (fun _ scope => pure scope) fun _ _ => keeps_pure _
  rw [bind_assoc] at left
  simp only [bind_pure] at left
  exact left.mono fun _ _ kept => kept.1

theorem keeps_atStmt {relation : ScopeStack → ScopeStack → Prop} (position : Position)
    {action : Checker Unit} (keeps : Keeps relation action) :
    Keeps relation (atStmt position action) := by
  intro state
  have kept := keeps { state with position }
  cases reached : state.scopes.isReachable with
  | false =>
      rw [atStmt_of_unreachable reached]
      simp
  | true =>
      rw [atStmt_apply reached, bind_apply]
      cases ran : action { state with position } with
      | error diagnostic after =>
          rw [ran] at kept
          exact kept
      | ok value after =>
          rw [ran] at kept
          exact ⟨rfl, kept.2⟩

theorem keeps_leaveRound (fault : FlowFault) (other : fault ≠ .globalScopeExit) :
    Keeps (ScopeStack.Gained none returns) (leaveRound fault) :=
  keeps_scopes.then fun _ =>
    (keeps_require _ (by simpa using other)).then fun _ => keeps_setUnreachable none

/-- The result of a function is only given to it while it is open. -/
theorem keeps_returning (returning : returns) {value : Checker Ty} (keeps : Keeps Eq value) :
    Keeps (ScopeStack.Gained none returns) (do
      let expected ← expectedResult
      let actual ← value
      returnType expected actual) := by
  intro state
  have kept := keeps state
  simp only [expectedResult, bind_apply, scopes_apply]
  cases nearest : state.scopes.signature? with
  | none => simp
  | some signature =>
      simp only [pure_apply]
      cases ran : value state with
      | error diagnostic after =>
          rw [ran] at kept
          exact kept
      | ok actual after =>
          rw [ran] at kept
          rcases kept with ⟨position, same⟩
          simp only [returnType, bind_apply, giveResult]
          cases opened : signature.result.isInfer with
          | true =>
              simp only [if_true, modifyScopes_apply]
              refine ⟨position, ScopeStack.Gained.of_settles ?_
                (ScopeStack.gained_setUnreachable _ none)⟩
              rw [same] at nearest ⊢
              exact ScopeStack.settles_setResult returning actual nearest opened
          | false =>
              simp only [Bool.false_eq_true, if_false, follow_apply]
              cases Rule.returned signature.result actual with
              | error fault => simp
              | ok _ =>
                  exact ⟨position, same ▸ ScopeStack.gained_setUnreachable _ none⟩

theorem keeps_declareTemplate (template : Template) :
    Keeps (ScopeStack.Declared template.name) (declareTemplate template) := by
  refine (keeps_lookup? _ _).then fun _ => (keeps_require _ (by simp)).then fun _ => ?_
  refine (keeps_define template.name _).finish fun _ => ?_
  refine keeps_forM (fun _ => rfl) (fun _ _ _ => Eq.trans) _ fun member _ => ?_
  exact (keeps_mentions _).then fun _ => keeps_follow _

theorem keeps_updateMethod (template : Template) (index : Nat) (signature : Signature) :
    Keeps (ScopeStack.Retyped template.name) (updateMethod template index signature) :=
  (keeps_update template.name _).finish fun _ => keeps_pure _

/-- A template keeps its name, and so the rest may bind it anew. -/
theorem keeps_updatedMethod {template : Template} {index : Nat} {signature : Signature}
    {rest : Template → Checker α}
    (keepsRest : Keeps (ScopeStack.Retyped template.name)
      (rest (template.setMethod index signature))) :
    Keeps (ScopeStack.Retyped template.name)
      (updateMethod template index signature >>= rest) := by
  refine (keeps_updateMethod template index signature).bindReturning
    (fun updated => updated = template.setMethod index signature)
    (fun _ _ _ => eq_of_updateMethod) ?_ fun _ _ _ => ScopeStack.Retyped.trans
  rintro updated rfl
  exact keepsRest

theorem keeps_replaceFunction (name : String) (prepared resolved : Signature) :
    Keeps (ScopeStack.Retyped name) (replaceFunction name prepared resolved) := by
  unfold replaceFunction
  split
  · exact (keeps_pure ()).mono fun before _ same => same ▸ ScopeStack.Retyped.refl name before
  · exact keeps_update name _

end Blocks

end Checker

/-- The name that a statement declares in the scope where it stands. -/
def Stmt.declaredName? : Stmt → Option String
  | .varDecl _ _ name _ _ => some name
  | .fnDecl declaration => some declaration.name
  | .templateDecl _ name _ _ => some name
  | _ => none

open Checker

theorem keeps_prepareMethods (template : Template) (index : Nat) (methods : List FnDecl) :
    Keeps (ScopeStack.Retyped template.name) (prepareMethods template index methods) := by
  induction methods generalizing template index with
  | nil =>
      rw [prepareMethods]
      exact (keeps_pure _).mono fun before _ same => same ▸ ScopeStack.Retyped.refl _ before
  | cons method rest ih =>
      rcases method with ⟨position, id, name, signature, body⟩
      rw [prepareMethods]
      refine (keeps_mentions _).then fun _ => (keeps_inferResult _ _ _ _).then fun prepared => ?_
      exact keeps_updatedMethod (ih (template.setMethod index prepared) (index + 1))

theorem name_of_prepareMethods {template prepared : Template} {index : Nat}
    {methods : List FnDecl} {state after : CheckState}
    (ran : prepareMethods template index methods state = .ok prepared after) :
    prepared.name = template.name := by
  induction methods generalizing template index state with
  | nil =>
      rw [prepareMethods, pure_apply, EStateM.Result.ok.injEq] at ran
      rw [← ran.1]
  | cons method rest ih =>
      rcases method with ⟨position, id, name, signature, body⟩
      rw [prepareMethods] at ran
      rcases ok_of_bind_eq_ok ran with ⟨_, _, _, ran⟩
      rcases ok_of_bind_eq_ok ran with ⟨_, _, _, ran⟩
      rcases ok_of_bind_eq_ok ran with ⟨updated, _, updating, ran⟩
      rw [ih ran, eq_of_updateMethod updating]
      rfl

mutual

theorem keeps_checkExpr (expr : Expr) : Keeps Eq (checkExpr expr) := by
  have resolved (action : Checker Ty) (keeps : Keeps Eq action) : Keeps Eq (resolve =<< action) :=
    keeps.then keeps_resolve
  cases expr with
  | integer value => exact resolved _ (keeps_pure _)
  | float value => exact resolved _ (keeps_pure _)
  | string value => exact resolved _ (keeps_pure _)
  | boolean value => exact resolved _ (keeps_pure _)
  | null => exact resolved _ (keeps_pure _)
  | array elements =>
      rw [checkExpr]
      exact resolved _ ((keeps_checkElements "array" elements).then fun _ => keeps_pure _)
  | set elements =>
      rw [checkExpr]
      refine resolved _ ((keeps_checkElements "set" elements).then fun _ => ?_)
      exact (keeps_follow _).then fun _ => keeps_pure _
  | map pairs =>
      rw [checkExpr]
      exact resolved _ (keeps_checkMap pairs)
  | entity name attributes =>
      rw [checkExpr]
      refine resolved _ ((keeps_templateOr _ _).then fun template => ?_)
      exact (keeps_checkAttributes template attributes).then fun _ => keeps_pure _
  | function params body =>
      rw [checkExpr]
      refine resolved _ ((keeps_mentions _).then fun _ => (keeps_inferResult _ _ _ _).then ?_)
      intro prepared
      -- The body only settles the result of its own scope, which is gone when it is left.
      exact (keeps_inFunction prepared none (keeps_checkBody body)).then fun _ => keeps_pure _
  | identifier name =>
      rw [checkExpr]
      refine resolved _ ((keeps_lookup? _ _).then fun found => ?_)
      split
      · exact keeps_pure _
      · exact keeps_fail (by simp)
  | unary operator fixity operand =>
      rw [checkExpr]
      refine resolved _ ((keeps_follow _).then fun _ => ?_)
      exact (keeps_checkExpr operand).then fun _ => keeps_follow _
  | binary operator left right =>
      rw [checkExpr]
      refine resolved _ ((keeps_checkExpr left).then fun _ => ?_)
      exact (keeps_checkExpr right).then fun _ => keeps_follow _
  | assignment target value =>
      rw [checkExpr]
      refine resolved _ ((keeps_checkExpr target).then fun _ => ?_)
      exact (keeps_checkExpr value).then fun _ => keeps_follow _
  | index base index =>
      rw [checkExpr]
      refine resolved _ ((keeps_checkExpr base).then fun _ => ?_)
      exact (keeps_checkExpr index).then fun _ => keeps_follow _
  | call callee arguments =>
      rw [checkExpr]
      refine resolved _ ((keeps_calleeSignature _ _ (keeps_checkExpr callee)).then ?_)
      intro signature
      exact (keeps_checkArguments signature.params arguments).then fun _ => keeps_pure _
  | member object name =>
      rw [checkExpr]
      exact resolved _ ((keeps_checkExpr object).then fun _ => keeps_follow _)
  | methodCall object name arguments =>
      rw [checkExpr]
      refine resolved _ ((keeps_checkExpr object).then fun _ => (keeps_follow _).then ?_)
      intro signature
      exact (keeps_checkArguments signature.params arguments).then fun _ => keeps_pure _
  termination_by structural expr

theorem keeps_checkElements (collection : String) (elements : List Expr) :
    Keeps Eq (checkElements collection elements) := by
  cases elements with
  | nil =>
      rw [checkElements]
      exact keeps_pure _
  | cons first rest =>
      rw [checkElements]
      refine (keeps_checkExpr first).then fun expected => ?_
      exact (keeps_checkRest collection expected rest).then fun _ => keeps_pure _
  termination_by structural elements

theorem keeps_checkRest (collection : String) (expected : Ty) (elements : List Expr) :
    Keeps Eq (checkRest collection expected elements) := by
  cases elements with
  | nil =>
      rw [checkRest]
      exact keeps_pure _
  | cons next rest =>
      rw [checkRest]
      refine (keeps_checkExpr next).then fun _ => (keeps_follow _).then fun _ => ?_
      exact keeps_checkRest collection expected rest
  termination_by structural elements

theorem keeps_checkMap (pairs : List (Expr × Expr)) : Keeps Eq (checkMap pairs) := by
  cases pairs with
  | nil =>
      rw [checkMap]
      exact keeps_pure _
  | cons pair rest =>
      rcases pair with ⟨first, second⟩
      rw [checkMap]
      refine (keeps_checkExpr first).then fun key => (keeps_checkExpr second).then fun value => ?_
      refine (keeps_follow _).then fun _ => ?_
      exact (keeps_checkPairs key value rest).then fun _ => keeps_pure _
  termination_by structural pairs

theorem keeps_checkPairs (key value : Ty) (pairs : List (Expr × Expr)) :
    Keeps Eq (checkPairs key value pairs) := by
  cases pairs with
  | nil =>
      rw [checkPairs]
      exact keeps_pure _
  | cons pair rest =>
      rcases pair with ⟨first, second⟩
      rw [checkPairs]
      refine (keeps_checkExpr first).then fun _ => (keeps_follow _).then fun _ => ?_
      refine (keeps_checkExpr second).then fun _ => (keeps_follow _).then fun _ => ?_
      exact keeps_checkPairs key value rest
  termination_by structural pairs

theorem keeps_checkAttributes (template : Template) (attributes : List (String × Expr)) :
    Keeps Eq (checkAttributes template attributes) := by
  cases attributes with
  | nil =>
      rw [checkAttributes]
      exact keeps_pure _
  | cons entry rest =>
      rcases entry with ⟨name, expr⟩
      rw [checkAttributes]
      refine (keeps_declaredAttribute template name).then fun _ => ?_
      refine (keeps_checkExpr expr).then fun _ => (keeps_follow _).then fun _ => ?_
      exact keeps_checkAttributes template rest
  termination_by structural attributes

theorem keeps_checkArguments (params : List (String × Ty)) (arguments : List Expr) :
    Keeps Eq (checkArguments params arguments) := by
  cases arguments with
  | nil =>
      rw [checkArguments]
      exact keeps_pure _
  | cons next rest =>
      cases params with
      | nil =>
          rw [checkArguments]
          exact keeps_pure _
      | cons param others =>
          rcases param with ⟨name, expected⟩
          rw [checkArguments]
          refine (keeps_checkExpr next).then fun _ => (keeps_follow _).then fun _ => ?_
          exact keeps_checkArguments others rest
  termination_by structural arguments

theorem keeps_checkStmt (stmt : Stmt) :
    Keeps (ScopeStack.Gained stmt.declaredName? (stmt.firstReturn?.isSome = true))
      (checkStmt stmt) := by
  have gains {returns : Prop} {action : Checker Unit}
      (keeps : Keeps (ScopeStack.Settles returns) action) :
      Keeps (ScopeStack.Gained none returns) action :=
    keeps.mono fun _ _ settles => settles.gained none
  have gainsOfSame {returns : Prop} {action : Checker Unit} (keeps : Keeps Eq action) :
      Keeps (ScopeStack.Gained none returns) action :=
    keeps.mono fun before _ same => same ▸ (ScopeStack.Settles.refl before).gained none
  cases stmt with
  | varDecl position id name declared initializer =>
      rw [checkStmt]
      refine keeps_atStmt position ((keeps_checkExpr initializer).then fun actual => ?_)
      exact keeps_declareVariable id name declared actual
  | expression position expression =>
      rw [checkStmt]
      exact keeps_atStmt position (gainsOfSame (keeps_checkExpr expression).discard)
  | block content =>
      rw [checkStmt, Stmt.firstReturn?]
      exact keeps_atStmt content.position (gains (keeps_within (keeps_checkBody content)).discard)
  | ifElse position condition thenBlock elseBlock =>
      rw [checkStmt, Stmt.firstReturn?, Option.isSome_or]
      have inThen : Keeps (ScopeStack.Settles ((thenBlock.firstReturn?.isSome ||
          (firstReturnElse? elseBlock).isSome) = true)) (within .branch (checkBody thenBlock)) :=
        (keeps_within (keeps_checkBody thenBlock)).mono fun _ _ settles =>
          settles.mono fun returns => by simp [returns]
      have inElse : Keeps (ScopeStack.Settles ((thenBlock.firstReturn?.isSome ||
          (firstReturnElse? elseBlock).isSome) = true)) (checkElse elseBlock) :=
        (keeps_checkElse elseBlock).mono fun _ _ settles =>
          settles.mono fun returns => by simp [returns]
      refine keeps_atStmt position ((keeps_checkExpr condition).then fun type => ?_)
      refine (keeps_follow _).then fun _ => (keeps_require _ (by simp)).then fun _ => ?_
      refine inThen.bind (fun first => ?_) fun _ _ _ => ScopeStack.Gained.of_settles
      refine (keeps_require _ (by simp)).then fun _ => ?_
      refine inElse.bind (fun goesOn => ?_) fun _ _ _ => ScopeStack.Gained.of_settles
      split
      · exact gainsOfSame (keeps_pure ())
      · exact keeps_setUnreachable none
  | whileLoop position condition body =>
      rw [checkStmt, Stmt.firstReturn?]
      refine keeps_atStmt position ((keeps_checkExpr condition).then fun type => ?_)
      refine (keeps_follow _).then fun _ => ?_
      exact gains (keeps_within (keeps_checkBody body)).discard
  | range position name first last step body =>
      rw [checkStmt, Stmt.firstReturn?]
      refine keeps_atStmt position ((keeps_checkExpr first).then fun _ => (keeps_follow _).then ?_)
      refine fun _ => (keeps_checkExpr last).then fun _ => (keeps_follow _).then fun _ => ?_
      refine (keeps_checkExpr step).then fun _ => (keeps_follow _).then fun _ => ?_
      refine gains (keeps_within ?_).discard
      exact (keeps_define_kept name .int).bind (fun _ => keeps_checkBody body)
        fun _ _ _ => ScopeStack.Kept.trans
  | each position name iterable body =>
      rw [checkStmt, Stmt.firstReturn?]
      refine keeps_atStmt position ((keeps_checkExpr iterable).then fun _ => ?_)
      refine (keeps_follow _).then fun element => ?_
      refine gains (keeps_within ?_).discard
      exact (keeps_define_kept name element).bind (fun _ => keeps_checkBody body)
        fun _ _ _ => ScopeStack.Kept.trans
  | halt position =>
      rw [checkStmt]
      exact keeps_atStmt position (keeps_leaveRound .haltOutsideLoop (by simp))
  | skip position =>
      rw [checkStmt]
      exact keeps_atStmt position (keeps_leaveRound .skipOutsideLoop (by simp))
  | returning position value =>
      rw [checkStmt, Stmt.firstReturn?]
      exact keeps_atStmt position (keeps_returning rfl (keeps_checkReturned value))
  | fnDecl declaration =>
      rw [checkStmt]
      exact keeps_atStmt declaration.position (keeps_checkFnDecl declaration)
  | echo position expression =>
      rw [checkStmt]
      exact keeps_atStmt position (gainsOfSame (keeps_checkExpr expression).discard)
  | templateDecl position name attributes methods =>
      rw [checkStmt]
      apply keeps_atStmt position
      -- The template is declared first, and its methods give its name another type again and again.
      refine (keeps_declareTemplate _).bind (fun _ => ?_)
        fun _ _ _ => ScopeStack.Declared.gained
      refine (keeps_prepareMethods _ 0 methods).bindReturning
        (fun prepared => prepared.name = name) ?_ ?_
        fun _ _ _ => ScopeStack.Retyped.trans
      · intro state prepared after ran
        exact name_of_prepareMethods ran
      · intro prepared sameName
        exact sameName ▸ keeps_checkMethods prepared 0 methods
  termination_by structural stmt

theorem keeps_checkElse (elseBlock : Option Block) :
    Keeps (ScopeStack.Settles ((firstReturnElse? elseBlock).isSome = true))
      (checkElse elseBlock) := by
  cases elseBlock with
  | none =>
      rw [checkElse]
      exact (keeps_pure _).mono fun before _ same => same ▸ ScopeStack.Settles.refl before
  | some block =>
      rw [checkElse, firstReturnElse?]
      exact (keeps_within (keeps_checkBody block)).finish fun _ => keeps_pure _
  termination_by structural elseBlock

theorem keeps_checkReturned (value : Option Expr) : Keeps Eq (checkReturned value) := by
  cases value with
  | none =>
      rw [checkReturned]
      exact keeps_pure _
  | some expr =>
      rw [checkReturned]
      exact keeps_checkExpr expr
  termination_by structural value

theorem keeps_checkBody (block : Block) :
    Keeps (ScopeStack.Kept (block.firstReturn?.isSome = true)) (checkBody block) := by
  rcases block with ⟨position, body⟩
  rw [checkBody, Block.firstReturn?]
  exact keeps_checkStmts body
  termination_by structural block

theorem keeps_checkStmts (body : List Stmt) :
    Keeps (ScopeStack.Kept ((firstReturnIn? body).isSome = true)) (checkStmts body) := by
  cases body with
  | nil =>
      rw [checkStmts]
      exact (keeps_pure _).mono fun before _ same => same ▸ ScopeStack.Kept.refl before
  | cons stmt rest =>
      rw [checkStmts, firstReturnIn?, Option.isSome_or]
      refine (keeps_checkStmt stmt).bind (fun _ => keeps_checkStmts rest) ?_
      intro before between after gained kept
      refine (gained.kept.mono fun returns => ?_).trans (kept.mono fun returns => ?_)
      · simp [returns]
      · simp [returns]
  termination_by structural body

theorem keeps_checkFnDecl {returns : Prop} (declaration : FnDecl) :
    Keeps (ScopeStack.Gained (some declaration.name) returns) (checkFnDecl declaration) := by
  rcases declaration with ⟨position, id, name, signature, body⟩
  have retypes (action : Checker Signature) (keeps : Keeps Eq action) :
      Keeps (ScopeStack.Retyped name) action :=
    keeps.mono fun before _ same => same ▸ ScopeStack.Retyped.refl name before
  rw [checkFnDecl]
  refine keeps_scopes.then fun stack => (keeps_require _ (by simp)).then fun _ => ?_
  refine (keeps_mentions _).then fun _ => (keeps_follow _).then fun _ => ?_
  refine (keeps_define name _).bind (fun _ => ?_) fun _ _ _ => ScopeStack.Declared.gained
  refine (keeps_inferResult _ _ _ _).then fun prepared => ?_
  refine (keeps_update name _).bind (fun _ => ?_) fun _ _ _ => ScopeStack.Retyped.trans
  refine (keeps_inFunction prepared none (keeps_checkBody body)).then fun resolved => ?_
  exact (keeps_replaceFunction name prepared resolved).finish fun _ => keeps_modifyAnalysis _
  termination_by structural declaration

theorem keeps_checkMethods (template : Template) (index : Nat) (methods : List FnDecl) :
    Keeps (ScopeStack.Retyped template.name) (checkMethods template index methods) := by
  cases methods with
  | nil =>
      rw [checkMethods]
      exact (keeps_pure _).mono fun before _ same => same ▸ ScopeStack.Retyped.refl _ before
  | cons method rest =>
      rcases method with ⟨position, id, name, signature, body⟩
      rw [checkMethods]
      refine (keeps_inFunction _ (some template) (keeps_checkBody body)).then fun resolved => ?_
      refine keeps_updatedMethod ((keeps_modifyAnalysis _).then fun _ => ?_)
      exact keeps_checkMethods (template.setMethod index resolved) (index + 1) rest
  termination_by structural methods

end

/-- The type of an expression is found without a trace in the scopes and the position. A statement
that is accepted comes back to its position and to its depth, and of the scopes it changes no more
than `ScopeStack.Gained` allows. So no program is refused for leaving the global scope. -/
theorem checks_keep_scopes :
    (∀ (expr : Expr) (state after : CheckState) (type : Ty),
      checkExpr expr state = .ok type after →
        after.scopes = state.scopes ∧ after.position = state.position) ∧
    (∀ (stmt : Stmt) (state after : CheckState), checkStmt stmt state = .ok () after →
      after.position = state.position ∧ after.scopes.depth = state.scopes.depth ∧
        state.scopes.Gained stmt.declaredName? (stmt.firstReturn?.isSome = true) after.scopes) ∧
    ∀ (program : Program) (diagnostic : Diagnostic), program.check = .error diagnostic →
      diagnostic.cause ≠ .flow .globalScopeExit := by
  refine ⟨?_, ?_, ?_⟩
  · intro expr state after type ran
    have kept := (keeps_checkExpr expr).of_ok ran
    exact ⟨kept.2.symm, kept.1⟩
  · intro stmt state after ran
    have kept := (keeps_checkStmt stmt).of_ok ran
    exact ⟨kept.1, kept.2.kept.depth_eq, kept.2⟩
  · intro program diagnostic refused
    have kept := keeps_checkStmts program.body CheckState.initial
    unfold Program.check at refused
    cases ran : checkStmts program.body CheckState.initial with
    | ok _ after =>
        rw [ran] at refused
        contradiction
    | error found after =>
        rw [ran] at kept refused
        simp only [Except.error.injEq] at refused
        exact refused ▸ kept

/-- A function without a name is checked in the global scope, a block returns from the function
around it, and a program that leaves no loop is refused for another reason. -/
theorem checks_keep_scopes_in_function :
    (∃ type after, checkExpr (.function [("a", .int)]
        ⟨Position.unknown, [.returning Position.unknown (some (.identifier "a"))]⟩)
          CheckState.initial = .ok type after ∧ after.scopes = ScopeStack.initial) ∧
    (∃ after, checkStmt (.block
        ⟨Position.unknown, [.returning Position.unknown (some (.integer 1))]⟩)
          { CheckState.initial with
            scopes := ScopeStack.initial.enter (.function { result := .infer, params := [] }) } =
          .ok () after ∧ after.scopes.depth = 1 ∧
        (ScopeStack.initial.enter (.function { result := .infer, params := [] })).Gained none
          ((some (some (Expr.integer 1))).isSome = true) after.scopes) ∧
    ∃ diagnostic, (Program.mk [.halt Position.unknown]).check = .error diagnostic ∧
      diagnostic.cause ≠ .flow .globalScopeExit := by
  refine ⟨?_, ?_, ?_⟩
  · have ran : checkExpr (.function [("a", .int)]
        ⟨Position.unknown, [.returning Position.unknown (some (.identifier "a"))]⟩)
          CheckState.initial =
            .ok (.function { result := .int, params := [("a", .int)] }) CheckState.initial := rfl
    exact ⟨_, _, ran, (checks_keep_scopes.1 _ _ _ _ ran).1⟩
  · have ran : checkStmt (.block
        ⟨Position.unknown, [.returning Position.unknown (some (.integer 1))]⟩)
          { CheckState.initial with
            scopes := ScopeStack.initial.enter (.function { result := .infer, params := [] }) } =
          .ok () { CheckState.initial with
            scopes := ScopeStack.initial.enter (.function { result := .int, params := [] }) } := rfl
    exact ⟨_, ran, (checks_keep_scopes.2.1 _ _ _ ran).2⟩
  · have refused : (Program.mk [.halt Position.unknown]).check =
        .error { cause := .flow .haltOutsideLoop, position := Position.unknown } := rfl
    exact ⟨_, refused, checks_keep_scopes.2.2 _ _ refused⟩

end ScriptCheck
