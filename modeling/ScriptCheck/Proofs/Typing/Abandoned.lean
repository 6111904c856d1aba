import ScriptCheck.Proofs.Typing.Visit

/-!
# Scopes that a fault leaves behind

A check that fails leaves the scopes that it had entered. Below them, all scopes are as they were if
it is an expression that fails. A statement may have changed the scopes of its own function by then,
but what lies beyond that function is as it was. So a failing expression that leaves no more scopes
than there were leaves the scopes alone. Only functions without a name enter scopes in expressions.

What a fault leaves is told by a relation, as `Keeps` tells what is kept where there is none. The
induction follows the recursion of the checker. The search for a first returned value needs no case
in it, since whatever it leaves is undone.
-/

namespace ScriptCheck

namespace ScopeStack

/-- Scopes have been entered, and those that were there before are still the same below them. -/
def Entered (before after : ScopeStack) : Prop :=
  before.scopes <:+ after.scopes

/-- The scopes around the nearest function. -/
def beyondFunction : List Scope → List Scope
  | [] => []
  | scope :: outer => if scope.isFunction then outer else beyondFunction outer

def beyond (stack : ScopeStack) : List Scope :=
  beyondFunction stack.scopes

/-- The scopes beyond the nearest function are still the same. -/
def Confined (before after : ScopeStack) : Prop :=
  before.beyond <:+ after.scopes

/-- The scopes beyond the nearest function are still the same, provided that a name has just been
declared. -/
def ConfinedAt (name : String) (before after : ScopeStack) : Prop :=
  ∀ (base : ScopeStack) (type : Ty), base.inner.binds name = false →
    before = base.bound name type → before.Confined after

variable {returns : Prop} {before between after : ScopeStack}

theorem Entered.refl (stack : ScopeStack) : stack.Entered stack :=
  List.suffix_rfl

theorem Entered.depth_le (entered : before.Entered after) : before.depth ≤ after.depth := by
  have lengths := entered.length_le
  simpa [scopes, depth] using lengths

/-- No scope has been entered where there are no more than before. -/
theorem Entered.eq_of_depth (entered : before.Entered after) (depth : after.depth = before.depth) :
    after = before := by
  have same := entered.eq_of_length (by simpa [scopes, ScopeStack.depth] using depth.symm)
  rcases before with ⟨inner, outer⟩
  rcases after with ⟨inner', outer'⟩
  simp only [scopes, List.cons.injEq] at same
  rw [same.1, same.2]

theorem beyondFunction_suffix (scopes : List Scope) : beyondFunction scopes <:+ scopes := by
  induction scopes with
  | nil => exact List.suffix_rfl
  | cons scope outer ih =>
      rw [beyondFunction]
      split
      · exact List.suffix_cons scope outer
      · exact ih.trans (List.suffix_cons scope outer)

theorem Entered.confined (entered : before.Entered after) : before.Confined after :=
  (beyondFunction_suffix before.scopes).trans entered

theorem Confined.at (confined : before.Confined after) (name : String) :
    before.ConfinedAt name after :=
  fun _ _ _ _ => confined

theorem beyond_enter {kind : ScopeKind} (plain : (Scope.empty kind).isFunction = false) :
    (before.enter kind).beyond = before.beyond := by
  rw [beyond, enter, scopes, beyondFunction, plain, if_neg (by simp)]
  rfl

theorem Kept.beyond_eq (kept : before.Kept returns after) : after.beyond = before.beyond := by
  have settled {first second : List Scope} (settles : Settled returns first second) :
      beyondFunction second = beyondFunction first := by
    induction settles with
    | same => rfl
    | found => rfl
    | around scope outside _ ih =>
        rw [beyondFunction, beyondFunction, outside, if_neg (by simp), if_neg (by simp), ih]
  have same := settled kept
  exact same

theorem Confined.of_kept (kept : before.Kept returns between) (confined : between.Confined after) :
    before.Confined after := by
  rwa [Confined, kept.beyond_eq] at confined

theorem Confined.of_declared {name : String} (declared : before.Declared name between)
    (confined : between.ConfinedAt name after) : before.Confined after := by
  have kept : before.Kept False between := declared.kept
  rcases declared with ⟨unbound, type, bound⟩
  exact (confined before type unbound bound).of_kept kept

theorem ConfinedAt.of_retyped {name : String} (retyped : before.Retyped name between)
    (confined : between.ConfinedAt name after) : before.ConfinedAt name after := by
  intro base type unbound bound
  rcases retyped base type unbound bound with ⟨other, boundBetween⟩
  have reached := confined base other unbound boundBetween
  rw [Confined, boundBetween] at reached
  rw [Confined, bound]
  exact reached

end ScopeStack

namespace Checker

variable {α β : Type}

/-- Where an action fails, the scopes before it and those that it leaves are related. -/
def Leaves (relation : ScopeStack → ScopeStack → Prop) (action : Checker α) : Prop :=
  ∀ state diagnostic after, action state = .error diagnostic after →
    relation state.scopes after.scopes

section Combinators

variable {first second third : ScopeStack → ScopeStack → Prop} {action : Checker α}
  {rest : α → Checker β}

theorem Leaves.mono (leaves : Leaves first action)
    (weaker : ∀ before after, first before after → second before after) : Leaves second action :=
  fun state diagnostic after ran => weaker _ _ (leaves state diagnostic after ran)

theorem Leaves.entered (leaves : Leaves Eq action) : Leaves ScopeStack.Entered action :=
  leaves.mono fun before _ same => same ▸ ScopeStack.Entered.refl before

theorem Leaves.confined (leaves : Leaves ScopeStack.Entered action) :
    Leaves ScopeStack.Confined action :=
  leaves.mono fun _ _ => ScopeStack.Entered.confined

theorem Leaves.bind (leaves : Leaves third action) (keeps : Keeps first action)
    (leavesRest : ∀ state value after, action state = .ok value after →
      Leaves second (rest value))
    (compose : ∀ before between after, first before between → second between after →
      third before after) : Leaves third (action >>= rest) := by
  intro state diagnostic after failed
  rcases error_of_bind_eq_error failed with failedFirst | ⟨value, between, ran, failedRest⟩
  · exact leaves state diagnostic after failedFirst
  · exact compose _ _ _ (keeps.of_ok ran).2
      (leavesRest state value between ran between diagnostic after failedRest)

theorem Leaves.then (leaves : Leaves first action) (keeps : Keeps Eq action)
    (leavesRest : ∀ value, Leaves first (rest value)) : Leaves first (action >>= rest) :=
  leaves.bind keeps (fun _ value _ _ => leavesRest value) fun _ _ _ same related =>
    same ▸ related

/-- What never fails leaves nothing. -/
theorem leaves_of_ok (succeeds : ∀ state, ∃ value after, action state = .ok value after) :
    Leaves first action := by
  intro state diagnostic after failed
  rcases succeeds state with ⟨value, reached, ran⟩
  rw [ran] at failed
  contradiction

/-- What comes behind cannot fail. -/
theorem Leaves.finish (leaves : Leaves first action)
    (succeeds : ∀ value state, ∃ result after, rest value state = .ok result after) :
    Leaves first (action >>= rest) := by
  intro state diagnostic after failed
  rcases error_of_bind_eq_error failed with failedFirst | ⟨value, between, -, failedRest⟩
  · exact leaves state diagnostic after failedFirst
  · rcases succeeds value between with ⟨result, reached, ranRest⟩
    rw [ranRest] at failedRest
    contradiction

theorem leaves_pure (value : α) : Leaves first (pure value : Checker α) :=
  leaves_of_ok fun _ => ⟨_, _, rfl⟩

theorem Leaves.discard (leaves : Leaves first action) : Leaves first (discard action) :=
  leaves.finish fun _ _ => ⟨_, _, rfl⟩

theorem leaves_fail (cause : Cause) : Leaves Eq (fail cause : Checker α) := by
  intro state diagnostic after failed
  rw [fail_apply] at failed
  rw [(EStateM.Result.error.inj failed).2]

theorem leaves_define (name : String) (type : Ty) : Leaves Eq (define name type) := by
  intro state diagnostic after failed
  rw [define_apply] at failed
  cases defined : state.scopes.define? name type with
  | none =>
      rw [defined] at failed
      rw [(EStateM.Result.error.inj failed).2]
  | some extended =>
      rw [defined] at failed
      contradiction

theorem leaves_exit : Leaves Eq exit := by
  intro state diagnostic after failed
  rw [exit_apply] at failed
  cases left : state.scopes.exit? with
  | none =>
      rw [left] at failed
      rw [(EStateM.Result.error.inj failed).2]
  | some place =>
      rw [left] at failed
      contradiction

end Combinators

/-- An action that leaves the scopes alone where it succeeds, and where it fails leaves nothing but
scopes that it has entered. It enters none where it is flat. -/
structure Unwinds (flat : Prop) (action : Checker α) : Prop where
  keeps : Keeps Eq action
  leaves : Leaves ScopeStack.Entered action
  level : flat → Leaves Eq action

section Unwinding

variable {flat : Prop} {action : Checker α} {rest : α → Checker β}

theorem Unwinds.of_level (keeps : Keeps Eq action) (level : Leaves Eq action) :
    Unwinds flat action :=
  ⟨keeps, level.entered, fun _ => level⟩

theorem Unwinds.mono {flatter : Prop} (unwinds : Unwinds flat action) (implies : flatter → flat) :
    Unwinds flatter action :=
  ⟨unwinds.keeps, unwinds.leaves, fun isFlat => unwinds.level (implies isFlat)⟩

theorem Unwinds.then (unwinds : Unwinds flat action)
    (unwindsRest : ∀ value, Unwinds flat (rest value)) : Unwinds flat (action >>= rest) :=
  ⟨unwinds.keeps.then fun value => (unwindsRest value).keeps,
    unwinds.leaves.then unwinds.keeps fun value => (unwindsRest value).leaves,
    fun isFlat => (unwinds.level isFlat).then unwinds.keeps fun value =>
      (unwindsRest value).level isFlat⟩

theorem Unwinds.confined (unwinds : Unwinds False action) : Leaves ScopeStack.Confined action :=
  unwinds.leaves.confined

theorem Unwinds.confinedAt (unwinds : Unwinds False action) (name : String) :
    Leaves (ScopeStack.ConfinedAt name) action :=
  unwinds.confined.mono fun _ _ confined => confined.at name

/-- What unwinds may come first in the check of a statement. -/
theorem Unwinds.ahead (unwinds : Unwinds False action)
    (leavesRest : ∀ value, Leaves ScopeStack.Confined (rest value)) :
    Leaves ScopeStack.Confined (action >>= rest) :=
  unwinds.confined.then unwinds.keeps leavesRest

theorem unwinds_pure (value : α) : Unwinds flat (pure value : Checker α) :=
  .of_level (keeps_pure value) (leaves_pure value)

theorem unwinds_fail {cause : Cause} (other : cause ≠ .flow .globalScopeExit) :
    Unwinds flat (fail cause : Checker α) :=
  .of_level (keeps_fail other) (leaves_fail cause)

theorem unwinds_require (holds : Bool) {cause : Cause} (other : cause ≠ .flow .globalScopeExit) :
    Unwinds flat (require holds cause) := by
  cases holds with
  | false => exact unwinds_fail other
  | true => exact unwinds_pure ()

theorem unwinds_follow (result : Except TypeFault α) : Unwinds flat (follow result) := by
  cases result with
  | ok value => exact unwinds_pure value
  | error fault => exact unwinds_fail (by simp)

theorem unwinds_scopes : Unwinds flat scopes :=
  .of_level keeps_scopes (leaves_of_ok fun _ => ⟨_, _, rfl⟩)

theorem unwinds_lookup? (reach : Reach) (name : String) : Unwinds flat (lookup? reach name) :=
  .of_level (keeps_lookup? reach name) (leaves_of_ok fun _ => ⟨_, _, rfl⟩)

theorem unwinds_templateOr (missing : NameFault) (name : String) :
    Unwinds flat (templateOr missing name) := by
  refine (unwinds_lookup? .everywhere name).then fun found => ?_
  split
  · exact unwinds_pure _
  · exact unwinds_fail (by simp)
  · exact unwinds_fail (by simp)

theorem unwinds_forM {Item : Type} {step : Item → Checker Unit}
    (unwinds : ∀ item, Unwinds flat (step item)) (items : List Item) :
    Unwinds flat (items.forM step) := by
  induction items with
  | nil => exact unwinds_pure ()
  | cons item rest ih => exact (unwinds item).then fun _ => ih

theorem unwinds_mentions (names : List String) :
    Unwinds flat (names.forM fun name => Functor.discard (mentionedTemplate name)) :=
  unwinds_forM (fun name => (unwinds_templateOr (.typeNotDefined name) name).then fun _ =>
    unwinds_pure ()) names

theorem unwinds_resolve (type : Ty) : Unwinds flat (resolve type) := by
  unfold resolve
  split
  · exact (unwinds_templateOr _ _).then fun _ => unwinds_pure _
  · exact unwinds_pure _

theorem unwinds_inferResult (signature : Signature) (template : Option Template)
    (firstReturn : Option (Option Expr)) (search : Checker (Option Ty)) :
    Unwinds flat (inferResult signature template firstReturn search) := by
  refine .of_level (keeps_inferResult _ _ _ _) (leaves_of_ok fun state => ?_)
  rcases inferResult_apply signature template firstReturn search state with ⟨prepared, ran⟩
  exact ⟨prepared, state, ran⟩

theorem unwinds_calledByName (name : String) (count : Nat) :
    Unwinds flat (calledByName name count) := by
  refine (unwinds_lookup? .everywhere name).then fun found => ?_
  split
  · exact unwinds_fail (by simp)
  · exact unwinds_follow _

theorem unwinds_calleeSignature (name : Option String) (count : Nat) {value : Checker Ty}
    (unwinds : name = none → Unwinds flat value) :
    Unwinds flat (calleeSignature name count value) := by
  cases name with
  | none => exact (unwinds rfl).then fun _ => unwinds_follow _
  | some name => exact unwinds_calledByName name count

theorem unwinds_declaredAttribute (template : Template) (name : String) :
    Unwinds flat (declaredAttribute template name) := by
  unfold declaredAttribute
  split
  · exact unwinds_pure _
  · exact unwinds_fail (by simp)

theorem unwinds_requireUnbound (name : String) : Unwinds flat (requireUnbound name) := by
  refine unwinds_scopes.then fun stack => ?_
  split
  · exact unwinds_pure ()
  · split
    · exact unwinds_fail (by simp)
    · exact unwinds_fail (by simp)

theorem unwinds_variableType (declared actual : Ty) :
    Unwinds flat (variableType declared actual) := by
  unfold variableType
  split
  · exact unwinds_pure _
  · exact (unwinds_mentions _).then fun _ => unwinds_resolve declared

theorem unwinds_expectedResult : Unwinds flat expectedResult := by
  refine unwinds_scopes.then fun stack => ?_
  split
  · exact unwinds_pure _
  · exact unwinds_fail (by simp)

end Unwinding

section Statements

theorem confined_define (name : String) (type : Ty) :
    Leaves ScopeStack.Confined (define name type) :=
  (leaves_define name type).entered.confined

theorem confined_declareVariable (id : Nat) (name : String) (declared actual : Ty) :
    Leaves ScopeStack.Confined (declareVariable id name declared actual) := by
  refine (unwinds_requireUnbound name).ahead fun _ => ?_
  refine (unwinds_variableType declared actual).ahead fun type => ?_
  refine (unwinds_follow _).ahead fun _ => (unwinds_follow _).ahead fun _ => ?_
  exact (confined_define name type).finish fun _ _ => ⟨_, _, rfl⟩

theorem confined_leaveRound (fault : FlowFault) (other : fault ≠ .globalScopeExit) :
    Leaves ScopeStack.Confined (leaveRound fault) :=
  unwinds_scopes.ahead fun _ => (unwinds_require _ (by simpa using other)).confined.finish
    fun _ _ => ⟨_, _, rfl⟩

theorem confined_returnType (expected actual : Ty) :
    Leaves ScopeStack.Confined (returnType expected actual) := by
  have gives : Leaves ScopeStack.Confined (giveResult expected actual) := by
    unfold giveResult
    split
    · exact leaves_of_ok fun _ => ⟨_, _, rfl⟩
    · exact (unwinds_follow _).confined
  exact gives.finish fun _ _ => ⟨_, _, rfl⟩

end Statements

section Blocks

variable {returns : Prop} {body : Checker Unit}

/-- What comes behind statements and declarations of the same function. -/
theorem Leaves.behind {action : Checker α} {rest : α → Checker β}
    (leaves : Leaves ScopeStack.Confined action) (keeps : Keeps (ScopeStack.Kept returns) action)
    (leavesRest : ∀ value, Leaves ScopeStack.Confined (rest value)) :
    Leaves ScopeStack.Confined (action >>= rest) :=
  leaves.bind keeps (fun _ value _ _ => leavesRest value) fun _ _ _ => ScopeStack.Confined.of_kept

theorem confined_forM {Item : Type} {step : Item → Checker Unit}
    (keeps : ∀ item, Keeps (ScopeStack.Kept returns) (step item))
    (leaves : ∀ item, Leaves ScopeStack.Confined (step item)) (items : List Item) :
    Leaves ScopeStack.Confined (items.forM step) := by
  induction items with
  | nil => exact leaves_pure ()
  | cons item rest ih => exact (leaves item).behind (keeps item) fun _ => ih

theorem confined_defineResolved (entries : List (String × Ty)) :
    Leaves ScopeStack.Confined (defineResolved entries) := by
  have keeps (entry : String × Ty) : Keeps (ScopeStack.Kept False)
      (do define entry.1 (← resolve entry.2)) :=
    (keeps_resolve entry.2).then fun type => keeps_define_kept entry.1 type
  exact confined_forM keeps (fun entry =>
    (unwinds_resolve entry.2).ahead fun type => confined_define entry.1 type) entries

theorem confined_defineMembers (template : Option Template) :
    Leaves ScopeStack.Confined (defineMembers template) := by
  cases template with
  | none => exact leaves_pure ()
  | some declared =>
      have attributes : Keeps (ScopeStack.Kept False) (defineResolved declared.attributes) :=
        keeps_defineResolved _
      have keeps (method : String × Signature) : Keeps (ScopeStack.Kept False)
          (define method.1 (.function method.2)) := keeps_define_kept _ _
      exact (confined_defineResolved declared.attributes).behind attributes fun _ =>
        confined_forM keeps (fun method => confined_define _ _) declared.methods

/-- The scope of a function is the nearest one where its body is checked, so all scopes around the
function stay. -/
theorem unwinds_inFunction (signature : Signature) (template : Option Template)
    (keeps : Keeps (ScopeStack.Kept returns) body) (leaves : Leaves ScopeStack.Confined body) :
    Unwinds False (inFunction signature template body) := by
  have inside : Leaves ScopeStack.Confined (do
      defineMembers template
      defineResolved signature.params
      body
      let scope ← exit
      let resolved := scope.signature?.getD signature
      return resolved.settled) := by
    have members : Keeps (ScopeStack.Kept False) (defineMembers template) :=
      keeps_defineMembers template
    have params : Keeps (ScopeStack.Kept False) (defineResolved signature.params) :=
      keeps_defineResolved _
    refine (confined_defineMembers template).behind members fun _ => ?_
    refine (confined_defineResolved signature.params).behind params fun _ => ?_
    refine leaves.behind keeps fun _ => ?_
    exact (leaves_exit.finish fun _ _ => ⟨_, _, rfl⟩).entered.confined
  refine ⟨keeps_inFunction signature template keeps, ?_, False.elim⟩
  intro state diagnostic after failed
  rw [inFunction, enterFunction, bind_assoc, bind_assoc] at failed
  exact inside (state.entered (.function signature)) diagnostic after failed

theorem confined_within {kind : ScopeKind} (plain : (Scope.empty kind).isFunction = false)
    (keeps : Keeps (ScopeStack.Kept returns) body) (leaves : Leaves ScopeStack.Confined body) :
    Leaves ScopeStack.Confined (within kind body) := by
  have inside : Leaves ScopeStack.Confined (body >>= fun _ => exit) :=
    leaves.behind keeps fun _ => leaves_exit.entered.confined
  intro state diagnostic after failed
  have confined := inside (state.entered kind) diagnostic after failed
  rwa [ScopeStack.Confined, CheckState.entered, ScopeStack.beyond_enter plain] at confined

theorem confined_atStmt (position : Position) {action : Checker Unit}
    (leaves : Leaves ScopeStack.Confined action) :
    Leaves ScopeStack.Confined (atStmt position action) := by
  intro state diagnostic after failed
  cases reached : state.scopes.isReachable with
  | true =>
      have moves : Leaves ScopeStack.Confined (action >>= fun _ => moveTo state.position) :=
        leaves.finish fun _ _ => ⟨_, _, rfl⟩
      rw [atStmt_apply reached] at failed
      exact moves { state with position } diagnostic after failed
  | false =>
      rw [atStmt_of_unreachable reached] at failed
      rw [← (EStateM.Result.error.inj failed).2]
      exact (ScopeStack.Entered.refl _).confined

/-- What comes behind the declaration of a name. -/
theorem Leaves.declared {name : String} {action : Checker α} {rest : α → Checker β}
    (leaves : Leaves ScopeStack.Confined action) (keeps : Keeps (ScopeStack.Declared name) action)
    (leavesRest : ∀ value, Leaves (ScopeStack.ConfinedAt name) (rest value)) :
    Leaves ScopeStack.Confined (action >>= rest) :=
  leaves.bind keeps (fun _ value _ _ => leavesRest value)
    fun _ _ _ => ScopeStack.Confined.of_declared

theorem confined_declareTemplate (template : Template) :
    Leaves ScopeStack.Confined (declareTemplate template) := by
  refine (unwinds_lookup? _ _).ahead fun _ => (unwinds_require _ (by simp)).ahead fun _ => ?_
  refine (confined_define _ _).declared (keeps_define template.name _) fun _ => ?_
  refine Unwinds.confinedAt (unwinds_forM (fun entry => ?_) template.attributes) template.name
  exact (unwinds_mentions _).then fun _ => unwinds_follow _

/-- A declared function or template gets another type, which no fault can prevent. -/
theorem Leaves.retyped {name : String} {action : Checker α} {rest : α → Checker β}
    (succeeds : ∀ state, ∃ value after, action state = .ok value after)
    (keeps : Keeps (ScopeStack.Retyped name) action)
    (leavesRest : ∀ state value after, action state = .ok value after →
      Leaves (ScopeStack.ConfinedAt name) (rest value)) :
    Leaves (ScopeStack.ConfinedAt name) (action >>= rest) :=
  (leaves_of_ok succeeds).bind keeps leavesRest fun _ _ _ => ScopeStack.ConfinedAt.of_retyped

/-- What unwinds may come first where a name has been declared. -/
theorem Unwinds.aheadAt {name : String} {action : Checker α} {rest : α → Checker β}
    (unwinds : Unwinds False action)
    (leavesRest : ∀ value, Leaves (ScopeStack.ConfinedAt name) (rest value)) :
    Leaves (ScopeStack.ConfinedAt name) (action >>= rest) :=
  (unwinds.confinedAt name).then unwinds.keeps leavesRest

end Blocks

end Checker

open Checker

theorem confined_prepareMethods (template : Template) (index : Nat) (methods : List FnDecl) :
    Leaves (ScopeStack.ConfinedAt template.name) (prepareMethods template index methods) := by
  induction methods generalizing template index with
  | nil =>
      rw [prepareMethods]
      exact leaves_pure _
  | cons method rest ih =>
      rcases method with ⟨position, id, name, signature, body⟩
      rw [prepareMethods]
      refine (unwinds_mentions _).aheadAt fun _ => (unwinds_inferResult _ _ _ _).aheadAt ?_
      intro prepared
      refine Leaves.retyped (fun _ => ⟨_, _, rfl⟩) (keeps_updateMethod template index prepared) ?_
      intro state updated after ran
      rw [eq_of_updateMethod ran]
      exact ih (template.setMethod index prepared) (index + 1)

theorem confined_looped (name : String) (type : Ty) {body : Block}
    (leaves : Leaves ScopeStack.Confined (checkBody body)) :
    Leaves ScopeStack.Confined (within .loop do define name type; checkBody body) := by
  have keeps := (keeps_define_kept name type).bind (fun _ => keeps_checkBody body)
    fun _ _ _ => ScopeStack.Kept.trans
  have defines : Keeps (ScopeStack.Kept False) (define name type) := keeps_define_kept name type
  exact confined_within rfl keeps ((confined_define name type).behind defines fun _ => leaves)

/-- No function without a name stands in an expression. -/
def Expr.IsFlat (expr : Expr) : Prop :=
  ∀ params body, ¬ Relation.ReflTransGen Part.Holds (.expr expr) (.expr (.function params body))

theorem Expr.IsFlat.operand {expr operand : Expr} (isFlat : expr.IsFlat)
    (member : operand ∈ expr.operands) : operand.IsFlat :=
  fun params body within => isFlat params body (.head (.operand member) within)

mutual

theorem unwinds_checkExpr {flat : Prop} (expr : Expr) (plain : flat → expr.IsFlat) :
    Unwinds flat (checkExpr expr) := by
  have resolved (action : Checker Ty) (unwinds : Unwinds flat action) :
      Unwinds flat (resolve =<< action) := unwinds.then unwinds_resolve
  have inner {operand : Expr} (member : operand ∈ expr.operands) (isFlat : flat) :
      operand.IsFlat := (plain isFlat).operand member
  cases expr with
  | integer value => exact resolved _ (unwinds_pure _)
  | float value => exact resolved _ (unwinds_pure _)
  | string value => exact resolved _ (unwinds_pure _)
  | boolean value => exact resolved _ (unwinds_pure _)
  | null => exact resolved _ (unwinds_pure _)
  | array elements =>
      rw [checkExpr]
      exact resolved _ ((unwinds_checkElements "array" elements fun _ => inner).then fun _ =>
        unwinds_pure _)
  | set elements =>
      rw [checkExpr]
      exact resolved _ ((unwinds_checkElements "set" elements fun _ => inner).then fun _ =>
        (unwinds_follow _).then fun _ => unwinds_pure _)
  | map pairs =>
      rw [checkExpr]
      refine resolved _ (unwinds_checkMap pairs fun pair member => ⟨inner ?_, inner ?_⟩)
      · exact List.mem_flatMap.mpr ⟨pair, member, List.mem_cons_self⟩
      · exact List.mem_flatMap.mpr ⟨pair, member, List.mem_cons_of_mem _ List.mem_cons_self⟩
  | entity name attributes =>
      rw [checkExpr]
      refine resolved _ ((unwinds_templateOr _ _).then fun template => ?_)
      exact (unwinds_checkAttributes template attributes fun entry member =>
        inner (List.mem_map_of_mem member)).then fun _ => unwinds_pure _
  | function params body =>
      rw [checkExpr]
      have never (isFlat : flat) : False := plain isFlat params body .refl
      refine resolved _ ((unwinds_mentions _).then fun _ => (unwinds_inferResult _ _ _ _).then ?_)
      intro prepared
      have unwinds := unwinds_inFunction prepared none (keeps_checkBody body)
        (confined_checkBody body)
      exact (unwinds.mono never).then fun _ => unwinds_pure _
  | identifier name =>
      rw [checkExpr]
      refine resolved _ ((unwinds_lookup? _ _).then fun found => ?_)
      split
      · exact unwinds_pure _
      · exact unwinds_fail (by simp)
  | unary operator fixity operand =>
      rw [checkExpr]
      refine resolved _ ((unwinds_follow _).then fun _ => ?_)
      exact (unwinds_checkExpr operand (inner List.mem_cons_self)).then fun _ => unwinds_follow _
  | binary operator left right =>
      rw [checkExpr]
      refine resolved _ ((unwinds_checkExpr left (inner List.mem_cons_self)).then fun _ => ?_)
      exact (unwinds_checkExpr right (inner (by simp [Expr.operands]))).then
        fun _ => unwinds_follow _
  | assignment target value =>
      rw [checkExpr]
      refine resolved _ ((unwinds_checkExpr target (inner List.mem_cons_self)).then fun _ => ?_)
      exact (unwinds_checkExpr value (inner (by simp [Expr.operands]))).then
        fun _ => unwinds_follow _
  | index base index =>
      rw [checkExpr]
      refine resolved _ ((unwinds_checkExpr base (inner List.mem_cons_self)).then fun _ => ?_)
      exact (unwinds_checkExpr index (inner (by simp [Expr.operands]))).then
        fun _ => unwinds_follow _
  | call callee arguments =>
      rw [checkExpr]
      refine resolved _ ((unwinds_calleeSignature _ _ fun unnamed =>
        unwinds_checkExpr callee (inner (by simp [Expr.operands, unnamed]))).then ?_)
      intro signature
      refine (unwinds_checkArguments signature.params arguments fun argument member =>
        inner ?_).then fun _ => unwinds_pure _
      rw [Expr.operands]
      split
      · exact member
      · exact List.mem_cons_of_mem _ member
  | member object name =>
      rw [checkExpr]
      exact resolved _ ((unwinds_checkExpr object (inner List.mem_cons_self)).then
        fun _ => unwinds_follow _)
  | methodCall object name arguments =>
      rw [checkExpr]
      refine resolved _ ((unwinds_checkExpr object (inner List.mem_cons_self)).then fun _ => ?_)
      refine (unwinds_follow _).then fun signature => ?_
      exact (unwinds_checkArguments signature.params arguments fun argument member =>
        inner (List.mem_cons_of_mem _ member)).then fun _ => unwinds_pure _
  termination_by structural expr

theorem unwinds_checkElements {flat : Prop} (collection : String) (elements : List Expr)
    (plain : ∀ expr ∈ elements, flat → expr.IsFlat) :
    Unwinds flat (checkElements collection elements) := by
  cases elements with
  | nil =>
      rw [checkElements]
      exact unwinds_pure _
  | cons first rest =>
      rw [checkElements]
      rcases List.forall_mem_cons.mp plain with ⟨plainFirst, plainRest⟩
      refine (unwinds_checkExpr first plainFirst).then fun expected => ?_
      exact (unwinds_checkRest collection expected rest plainRest).then fun _ => unwinds_pure _
  termination_by structural elements

theorem unwinds_checkRest {flat : Prop} (collection : String) (expected : Ty)
    (elements : List Expr) (plain : ∀ expr ∈ elements, flat → expr.IsFlat) :
    Unwinds flat (checkRest collection expected elements) := by
  cases elements with
  | nil =>
      rw [checkRest]
      exact unwinds_pure _
  | cons next rest =>
      rw [checkRest]
      rcases List.forall_mem_cons.mp plain with ⟨plainNext, plainRest⟩
      refine (unwinds_checkExpr next plainNext).then fun _ => (unwinds_follow _).then fun _ => ?_
      exact unwinds_checkRest collection expected rest plainRest
  termination_by structural elements

theorem unwinds_checkMap {flat : Prop} (pairs : List (Expr × Expr))
    (plain : ∀ pair ∈ pairs, (flat → pair.1.IsFlat) ∧ (flat → pair.2.IsFlat)) :
    Unwinds flat (checkMap pairs) := by
  cases pairs with
  | nil =>
      rw [checkMap]
      exact unwinds_pure _
  | cons pair rest =>
      rcases pair with ⟨first, second⟩
      rw [checkMap]
      rcases List.forall_mem_cons.mp plain with ⟨⟨plainFirst, plainSecond⟩, plainRest⟩
      refine (unwinds_checkExpr first plainFirst).then fun key => ?_
      refine (unwinds_checkExpr second plainSecond).then fun value => ?_
      refine (unwinds_follow _).then fun _ => ?_
      exact (unwinds_checkPairs key value rest plainRest).then fun _ => unwinds_pure _
  termination_by structural pairs

theorem unwinds_checkPairs {flat : Prop} (key value : Ty) (pairs : List (Expr × Expr))
    (plain : ∀ pair ∈ pairs, (flat → pair.1.IsFlat) ∧ (flat → pair.2.IsFlat)) :
    Unwinds flat (checkPairs key value pairs) := by
  cases pairs with
  | nil =>
      rw [checkPairs]
      exact unwinds_pure _
  | cons pair rest =>
      rcases pair with ⟨first, second⟩
      rw [checkPairs]
      rcases List.forall_mem_cons.mp plain with ⟨⟨plainFirst, plainSecond⟩, plainRest⟩
      refine (unwinds_checkExpr first plainFirst).then fun _ => (unwinds_follow _).then fun _ => ?_
      refine (unwinds_checkExpr second plainSecond).then fun _ => (unwinds_follow _).then ?_
      exact fun _ => unwinds_checkPairs key value rest plainRest
  termination_by structural pairs

theorem unwinds_checkAttributes {flat : Prop} (template : Template)
    (attributes : List (String × Expr)) (plain : ∀ entry ∈ attributes, flat → entry.2.IsFlat) :
    Unwinds flat (checkAttributes template attributes) := by
  cases attributes with
  | nil =>
      rw [checkAttributes]
      exact unwinds_pure _
  | cons entry rest =>
      rcases entry with ⟨name, expr⟩
      rw [checkAttributes]
      rcases List.forall_mem_cons.mp plain with ⟨plainFirst, plainRest⟩
      refine (unwinds_declaredAttribute template name).then fun _ => ?_
      refine (unwinds_checkExpr expr plainFirst).then fun _ => (unwinds_follow _).then fun _ => ?_
      exact unwinds_checkAttributes template rest plainRest
  termination_by structural attributes

theorem unwinds_checkArguments {flat : Prop} (params : List (String × Ty))
    (arguments : List Expr) (plain : ∀ expr ∈ arguments, flat → expr.IsFlat) :
    Unwinds flat (checkArguments params arguments) := by
  cases arguments with
  | nil =>
      rw [checkArguments]
      exact unwinds_pure _
  | cons next rest =>
      cases params with
      | nil =>
          rw [checkArguments]
          exact unwinds_pure _
      | cons param others =>
          rcases param with ⟨name, expected⟩
          rw [checkArguments]
          rcases List.forall_mem_cons.mp plain with ⟨plainNext, plainRest⟩
          refine (unwinds_checkExpr next plainNext).then fun _ => (unwinds_follow _).then ?_
          exact fun _ => unwinds_checkArguments others rest plainRest
  termination_by structural arguments

theorem confined_checkStmt (stmt : Stmt) : Leaves ScopeStack.Confined (checkStmt stmt) := by
  cases stmt with
  | varDecl position id name declared initializer =>
      rw [checkStmt]
      exact confined_atStmt position ((unwinds_checkExpr initializer False.elim).ahead fun actual =>
        confined_declareVariable id name declared actual)
  | expression position expression =>
      rw [checkStmt]
      exact confined_atStmt position
        (unwinds_checkExpr expression False.elim).confined.discard
  | block content =>
      rw [checkStmt]
      exact confined_atStmt content.position
        (confined_within rfl (keeps_checkBody content) (confined_checkBody content)).discard
  | ifElse position condition thenBlock elseBlock =>
      rw [checkStmt]
      refine confined_atStmt position
        ((unwinds_checkExpr condition False.elim).ahead fun type => ?_)
      refine (unwinds_follow _).ahead fun _ => (unwinds_require _ (by simp)).ahead fun _ => ?_
      have settles : Keeps (ScopeStack.Kept _) (within .branch (checkBody thenBlock)) :=
        (keeps_within (keeps_checkBody thenBlock)).mono fun _ _ => ScopeStack.Settles.kept
      refine (confined_within rfl (keeps_checkBody thenBlock)
        (confined_checkBody thenBlock)).behind settles fun first => ?_
      refine (unwinds_require _ (by simp)).ahead fun _ => ?_
      refine (confined_checkElse elseBlock).finish fun goesOn _ => ?_
      split
      · exact ⟨_, _, rfl⟩
      · exact ⟨_, _, rfl⟩
  | whileLoop position condition body =>
      rw [checkStmt]
      refine confined_atStmt position
        ((unwinds_checkExpr condition False.elim).ahead fun type => ?_)
      refine (unwinds_follow _).ahead fun _ => ?_
      exact (confined_within rfl (keeps_checkBody body) (confined_checkBody body)).discard
  | range position name first last step body =>
      rw [checkStmt]
      refine confined_atStmt position ((unwinds_checkExpr first False.elim).ahead fun _ => ?_)
      refine (unwinds_follow _).ahead fun _ => (unwinds_checkExpr last False.elim).ahead fun _ => ?_
      refine (unwinds_follow _).ahead fun _ => (unwinds_checkExpr step False.elim).ahead fun _ => ?_
      exact (unwinds_follow _).ahead fun _ => (confined_looped name .int
        (confined_checkBody body)).discard
  | each position name iterable body =>
      rw [checkStmt]
      refine confined_atStmt position ((unwinds_checkExpr iterable False.elim).ahead fun _ => ?_)
      exact (unwinds_follow _).ahead fun element =>
        (confined_looped name element (confined_checkBody body)).discard
  | halt position =>
      rw [checkStmt]
      exact confined_atStmt position (confined_leaveRound .haltOutsideLoop (by simp))
  | skip position =>
      rw [checkStmt]
      exact confined_atStmt position (confined_leaveRound .skipOutsideLoop (by simp))
  | returning position value =>
      rw [checkStmt]
      refine confined_atStmt position (unwinds_expectedResult.ahead fun expected => ?_)
      exact (unwinds_checkReturned value).ahead fun actual => confined_returnType expected actual
  | fnDecl declaration =>
      rw [checkStmt]
      exact confined_atStmt declaration.position (confined_checkFnDecl declaration)
  | echo position expression =>
      rw [checkStmt]
      exact confined_atStmt position
        (unwinds_checkExpr expression False.elim).confined.discard
  | templateDecl position name attributes methods =>
      rw [checkStmt]
      refine confined_atStmt position ((confined_declareTemplate _).declared
        (keeps_declareTemplate _) fun _ => ?_)
      refine (confined_prepareMethods _ 0 methods).bind (keeps_prepareMethods _ 0 methods)
        (fun state prepared after ran => ?_) fun _ _ _ => ScopeStack.ConfinedAt.of_retyped
      have sameName := name_of_prepareMethods ran
      exact sameName ▸ confined_checkMethods prepared 0 methods
  termination_by structural stmt

theorem confined_checkElse (elseBlock : Option Block) :
    Leaves ScopeStack.Confined (checkElse elseBlock) := by
  cases elseBlock with
  | none =>
      rw [checkElse]
      exact leaves_pure _
  | some block =>
      rw [checkElse]
      exact (confined_within rfl (keeps_checkBody block) (confined_checkBody block)).finish
        fun _ _ => ⟨_, _, rfl⟩
  termination_by structural elseBlock

theorem unwinds_checkReturned (value : Option Expr) : Unwinds False (checkReturned value) := by
  cases value with
  | none =>
      rw [checkReturned]
      exact unwinds_pure _
  | some expr =>
      rw [checkReturned]
      exact unwinds_checkExpr expr False.elim
  termination_by structural value

theorem confined_checkBody (block : Block) : Leaves ScopeStack.Confined (checkBody block) := by
  rcases block with ⟨position, body⟩
  rw [checkBody]
  exact confined_checkStmts body
  termination_by structural block

theorem confined_checkStmts (body : List Stmt) :
    Leaves ScopeStack.Confined (checkStmts body) := by
  cases body with
  | nil =>
      rw [checkStmts]
      exact leaves_pure ()
  | cons stmt rest =>
      rw [checkStmts]
      have keeps := (keeps_checkStmt stmt).mono fun _ _ => ScopeStack.Gained.kept
      exact (confined_checkStmt stmt).behind keeps fun _ => confined_checkStmts rest
  termination_by structural body

theorem confined_checkFnDecl (declaration : FnDecl) :
    Leaves ScopeStack.Confined (checkFnDecl declaration) := by
  rcases declaration with ⟨position, id, name, signature, body⟩
  rw [checkFnDecl]
  refine unwinds_scopes.ahead fun stack => (unwinds_require _ (by simp)).ahead fun _ => ?_
  refine (unwinds_mentions _).ahead fun _ => (unwinds_follow _).ahead fun _ => ?_
  refine (confined_define name _).declared (keeps_define name _) fun _ => ?_
  refine (unwinds_inferResult _ _ _ _).aheadAt fun prepared => ?_
  refine Leaves.retyped (fun _ => ⟨_, _, rfl⟩) (keeps_update name _) fun _ _ _ _ => ?_
  have unwinds := unwinds_inFunction prepared none (keeps_checkBody body) (confined_checkBody body)
  refine unwinds.aheadAt fun resolved => leaves_of_ok fun state => ?_
  unfold replaceFunction
  split
  · exact ⟨_, _, rfl⟩
  · exact ⟨_, _, rfl⟩
  termination_by structural declaration

theorem confined_checkMethods (template : Template) (index : Nat) (methods : List FnDecl) :
    Leaves (ScopeStack.ConfinedAt template.name) (checkMethods template index methods) := by
  cases methods with
  | nil =>
      rw [checkMethods]
      exact leaves_pure _
  | cons method rest =>
      rcases method with ⟨position, id, name, signature, body⟩
      rw [checkMethods]
      have unwinds (prepared : Signature) := unwinds_inFunction prepared (some template)
        (keeps_checkBody body) (confined_checkBody body)
      refine (unwinds _).aheadAt fun resolved => ?_
      refine Leaves.retyped (fun _ => ⟨_, _, rfl⟩) (keeps_updateMethod template index resolved) ?_
      intro state updated after ran
      rw [eq_of_updateMethod ran]
      refine (leaves_of_ok fun _ => ⟨_, _, rfl⟩).then
        (keeps_modifyAnalysis (·.addFunction id resolved)) fun _ => ?_
      exact confined_checkMethods (template.setMethod index resolved) (index + 1) rest
  termination_by structural methods

end

end ScriptCheck
