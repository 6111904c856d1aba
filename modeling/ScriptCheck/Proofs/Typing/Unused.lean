import ScriptCheck.Proofs.Typing.Provenance
import ScriptCheck.Proofs.Typing.RenamedBlocks

/-!
# Names that are not used

An action overlooks some names if it makes no difference whether they are bound: with their bindings
taken out of all scopes it has the same outcome, and the scopes after it are those of the original
run, again without these bindings. An action overlooks the names that it neither binds nor looks up,
also where it fails.

Types must not mention the names either. A type name is looked up where the type is used. That no
such type comes up is a matter of the limits on types, which is proved along with the rest.
-/

namespace ScriptCheck

open Checker Limits

/-- The scope without the bindings of some names. -/
def Scope.without (hidden : List String) (scope : Scope) : Scope :=
  { scope with symbols := scope.symbols.filter fun symbol => decide (symbol.1 ∉ hidden) }

def ScopeStack.without (hidden : List String) (stack : ScopeStack) : ScopeStack :=
  { inner := stack.inner.without hidden, outer := stack.outer.map (Scope.without hidden) }

def CheckState.without (hidden : List String) (state : CheckState) : CheckState :=
  { state with scopes := state.scopes.without hidden }

section Scopes

variable {hidden : List String} {name : String} (scope : Scope)

@[simp]
theorem Scope.isFunction_without : (scope.without hidden).isFunction = scope.isFunction := rfl

theorem Scope.lookup?_without (used : name ∉ hidden) :
    (scope.without hidden).lookup? name = scope.lookup? name := by
  simp only [without, lookup?]
  induction scope.symbols with
  | nil => rfl
  | cons symbol rest ih =>
      rcases symbol with ⟨bound, type⟩
      by_cases isHidden : bound ∈ hidden
      · have other : name ≠ bound := fun same => used (same ▸ isHidden)
        rw [List.filter_cons_of_neg (by simpa using isHidden), ih, List.lookup_cons,
          beq_eq_false_iff_ne.mpr other]
      · rw [List.filter_cons_of_pos (by simpa using isHidden), List.lookup_cons, List.lookup_cons,
          ih]

theorem Scope.binds_without (used : name ∉ hidden) :
    (scope.without hidden).binds name = scope.binds name := by
  rw [binds, binds, lookup?_without scope used]

theorem Scope.without_bind (used : name ∉ hidden) (type : Ty) :
    (scope.bind name type).without hidden = (scope.without hidden).bind name type := by
  simp [without, bind, used]

/-- A name that is left out does not matter where it gets bound. -/
theorem Scope.without_bind_hidden (isHidden : name ∈ hidden) (type : Ty) :
    (scope.bind name type).without hidden = scope.without hidden := by
  simp [without, bind, isHidden]

theorem Scope.without_rebind (name : String) (type : Ty) :
    (scope.rebind name type).without hidden = (scope.without hidden).rebind name type := by
  simp only [without, rebind, Scope.mk.injEq, true_and, and_true, List.filter_map]
  congr 1
  apply List.filter_congr
  intro symbol _
  by_cases same : symbol.1 = name <;> simp [same]

theorem Scope.without_setResult (result : Ty) :
    (scope.setResult result).without hidden = (scope.without hidden).setResult result := by
  rcases scope with ⟨kind, symbols, reachable⟩
  cases kind <;> rfl

end Scopes

namespace ScopeStack

variable {hidden : List String} {name : String} (stack : ScopeStack)

theorem scopes_without :
    (stack.without hidden).scopes = stack.scopes.map (Scope.without hidden) := rfl

@[simp]
theorem depth_without : (stack.without hidden).depth = stack.depth :=
  List.length_map _

theorem exit?_without : (stack.without hidden).exit? =
    stack.exit?.map fun place => (place.1.without hidden, place.2.without hidden) := by
  rcases stack with ⟨inner, outer⟩
  cases outer <;> rfl

theorem locateIn_without (used : name ∉ hidden) (reach : Reach) (scopes : List Scope) :
    locateIn reach name (scopes.map (Scope.without hidden)) = locateIn reach name scopes := by
  induction scopes with
  | nil => rfl
  | cons scope outer ih =>
      rw [List.map_cons, locateIn, locateIn, Scope.lookup?_without scope used, List.length_map, ih,
        Scope.isFunction_without]

theorem locate?_without (used : name ∉ hidden) (reach : Reach) :
    (stack.without hidden).locate? reach name = stack.locate? reach name :=
  locateIn_without used reach stack.scopes

theorem lookup?_without (used : name ∉ hidden) (reach : Reach) :
    (stack.without hidden).lookup? reach name = stack.lookup? reach name := by
  rw [lookup?, lookup?, locate?_without stack used]

@[simp]
theorem signature?_without : (stack.without hidden).signature? = stack.signature? := by
  rw [signature?, signature?, scopes_without, List.findSome?_map]
  rfl

@[simp]
theorem inLoop_without : (stack.without hidden).inLoop = stack.inLoop := by
  rw [inLoop, inLoop, scopes_without, List.find?_map, Option.map_map]
  rfl

@[simp]
theorem isReachable_without : (stack.without hidden).isReachable = stack.isReachable := by
  rw [isReachable, isReachable, scopes_without, List.all_map]
  rfl

theorem without_bound (used : name ∉ hidden) (type : Ty) :
    (stack.bound name type).without hidden = (stack.without hidden).bound name type := by
  simp only [without, bound, Scope.without_bind stack.inner used]

theorem without_modifyInnermost {property : Scope → Bool} {change : Scope → Scope}
    (sameProperty : ∀ scope : Scope, property (scope.without hidden) = property scope)
    (sameChange : ∀ scope : Scope,
      (change scope).without hidden = change (scope.without hidden)) :
    (stack.modifyInnermost property change).without hidden =
      (stack.without hidden).modifyInnermost property change := by
  have around (outer : List Scope) :
      (modifyFirst property change outer).map (Scope.without hidden) =
        modifyFirst property change (outer.map (Scope.without hidden)) := by
    induction outer with
    | nil => rfl
    | cons scope rest ih =>
        rw [List.map_cons, modifyFirst, modifyFirst, sameProperty]
        split
        · rw [List.map_cons, sameChange]
        · rw [List.map_cons, ih]
  unfold modifyInnermost
  simp only [without, sameProperty]
  split
  · simp only [sameChange]
  · simp only [around]

theorem without_update (used : name ∉ hidden) (type : Ty) :
    (stack.update name type).without hidden = (stack.without hidden).update name type :=
  without_modifyInnermost stack (fun scope => scope.binds_without used)
    fun scope => scope.without_rebind name type

theorem without_setResult (result : Ty) :
    (stack.setResult result).without hidden = (stack.without hidden).setResult result :=
  without_modifyInnermost stack (fun _ => rfl) fun scope => scope.without_setResult result

end ScopeStack

namespace Unused

variable {α β γ : Type}

/-- Types do not mention the names that are left out. -/
def limits (hidden : List String) : Limits where
  mentions
    | .name written => written ∉ hidden
    | .template _ => True
  records _ := True

/-- The outcome of a run, with some names left out afterwards. -/
def outcome (hidden : List String) :
    EStateM.Result Diagnostic CheckState α → EStateM.Result Diagnostic CheckState α
  | .ok value after => .ok value (after.without hidden)
  | .error diagnostic after => .error diagnostic (after.without hidden)

/-- An action keeps to the limits, and it makes no difference to it whether the names are bound. -/
structure Overlooks (hidden : List String) (watched : Bool) (found : α → Prop)
    (action : Checker α) : Prop where
  upholds : (limits hidden).Upholds watched found action
  same : ∀ state : CheckState, (limits hidden).Obeyed watched (state.without hidden) →
    action (state.without hidden) = outcome hidden (action state)

variable {hidden : List String} {watched : Bool} {name : String}

/-- Type names that are within the limits are not left out. -/
theorem used_of_within (within : (Ty.named name).Within (limits hidden).mentions) :
    name ∉ hidden :=
  (Ty.within_named name).mp within

theorem recordsVariable (id : Nat) : (limits hidden).RecordsVariable id :=
  fun _ _ _ _ => trivial

theorem recordsFunction (id : Nat) : (limits hidden).RecordsFunction id :=
  fun _ _ _ _ => trivial

theorem mayDeclare (name : String) (attributes : List (String × Ty)) :
    (limits hidden).MayDeclare name attributes :=
  fun _ _ _ => trivial

theorem within_template_iff {template : Template} :
    (Ty.template template).Within (limits hidden).mentions ↔
      template.Within (limits hidden).mentions :=
  (Ty.within_template template).trans ⟨And.right, fun within => ⟨trivial, within⟩⟩

section Combinators

variable {first : α → Prop} {second : β → Prop}

theorem Overlooks.then {action : Checker α} {rest : α → Checker β}
    (overlooks : Overlooks hidden watched first action)
    (overlooksRest : ∀ value, first value → Overlooks hidden watched second (rest value)) :
    Overlooks hidden watched second (action >>= rest) where
  upholds := overlooks.upholds.bind fun value holds => (overlooksRest value holds).upholds
  same state obeyed := by
    have ran := overlooks.same state obeyed
    rw [bind_apply, bind_apply, ran]
    cases found : action state with
    | ok value after =>
        rw [found] at ran
        have upheld := overlooks.upholds.of_ok obeyed ran
        exact (overlooksRest value upheld.1).same after upheld.2
    | error diagnostic after => rfl

theorem overlooks_pure {value : α} (holds : first value) :
    Overlooks hidden watched first (pure value) :=
  ⟨upholds_pure holds, fun _ _ => rfl⟩

theorem overlooks_fail (cause : Cause) :
    Overlooks hidden watched first (fail cause : Checker α) :=
  ⟨upholds_fail cause, fun _ _ => rfl⟩

theorem Overlooks.discard {action : Checker α}
    (overlooks : Overlooks hidden watched first action) :
    Overlooks hidden watched (fun _ => True) (Functor.discard action) :=
  overlooks.then fun _ _ => overlooks_pure trivial

theorem overlooks_require (holds : Bool) (cause : Cause) :
    Overlooks hidden watched (fun _ => True) (require holds cause) := by
  cases holds with
  | true => exact overlooks_pure trivial
  | false => exact overlooks_fail cause

theorem overlooks_follow {result : Except TypeFault α}
    (holds : ∀ value, result = .ok value → first value) :
    Overlooks hidden watched first (follow result) := by
  refine ⟨upholds_follow holds, fun state _ => ?_⟩
  cases result <;> rfl

theorem overlooks_check (result : Except TypeFault α) :
    Overlooks hidden watched (fun _ => True) (follow result) :=
  overlooks_follow fun _ _ => trivial

theorem overlooks_moveTo (position : Position) :
    Overlooks hidden watched (fun _ => True) (moveTo position) :=
  ⟨upholds_moveTo position, fun _ _ => rfl⟩

theorem overlooks_addVariable (id : Nat) {type : Ty}
    (within : type.Within (limits hidden).mentions) :
    Overlooks hidden watched (fun _ => True) (modifyAnalysis (·.addVariable id type)) :=
  ⟨upholds_addVariable (recordsVariable id) within, fun _ _ => rfl⟩

theorem overlooks_addFunction (id : Nat) {signature : Signature}
    (within : signature.Within (limits hidden).mentions) :
    Overlooks hidden watched (fun _ => True) (modifyAnalysis (·.addFunction id signature)) :=
  ⟨upholds_addFunction (recordsFunction id) within, fun _ _ => rfl⟩

/-- A change of the scopes that is the same without the names. -/
theorem same_modifyScopes {change : ScopeStack → ScopeStack}
    (same : ∀ stack : ScopeStack,
      (change stack).without hidden = change (stack.without hidden)) (state : CheckState) :
    modifyScopes change (state.without hidden) = outcome hidden (modifyScopes change state) := by
  rw [modifyScopes_apply, modifyScopes_apply, outcome, CheckState.without, CheckState.without,
    same]

theorem overlooks_setUnreachable :
    Overlooks hidden watched (fun _ => True) (modifyScopes (·.setUnreachable)) :=
  ⟨upholds_setUnreachable, fun _ _ => rfl⟩

theorem overlooks_setResult {result : Ty} (within : result.Within (limits hidden).mentions) :
    Overlooks hidden watched (fun _ => True) (modifyScopes (·.setResult result)) :=
  ⟨upholds_setResult within, fun state _ =>
    same_modifyScopes (fun stack => stack.without_setResult result) state⟩

theorem overlooks_update (used : name ∉ hidden) {type : Ty}
    (within : type.Within (limits hidden).mentions) :
    Overlooks hidden watched (fun _ => True) (update name type) :=
  ⟨upholds_update name within, fun state _ =>
    same_modifyScopes (fun stack => stack.without_update used type) state⟩

theorem overlooks_define (used : name ∉ hidden) {type : Ty}
    (within : type.Within (limits hidden).mentions) :
    Overlooks hidden watched (fun _ => True) (define name type) := by
  refine ⟨upholds_define name within, fun state _ => ?_⟩
  have binds : (state.without hidden).scopes.inner.binds name = state.scopes.inner.binds name :=
    state.scopes.inner.binds_without used
  have bound := state.scopes.without_bound used type
  rw [define_apply, define_apply, ScopeStack.define?, ScopeStack.define?, binds]
  cases state.scopes.inner.binds name with
  | true => rfl
  | false => exact congrArg (fun scopes => EStateM.Result.ok () { state with scopes }) bound.symm

theorem overlooks_forM {Item : Type} {step : Item → Checker Unit} (items : List Item)
    (overlooks : ∀ item ∈ items, Overlooks hidden watched (fun _ => True) (step item)) :
    Overlooks hidden watched (fun _ => True) (items.forM step) := by
  induction items with
  | nil => exact overlooks_pure trivial
  | cons item rest ih =>
      rcases List.forall_mem_cons.mp overlooks with ⟨overlooksFirst, overlooksRest⟩
      exact overlooksFirst.then fun _ _ => ih overlooksRest

theorem overlooks_attempt {action : Checker α}
    (overlooks : Overlooks hidden watched first action) :
    Overlooks hidden watched (fun found => ∀ value ∈ found, first value) (attempt action) := by
  refine ⟨upholds_attempt overlooks.upholds, fun state obeyed => ?_⟩
  rw [attempt_apply, attempt_apply, overlooks.same state obeyed]
  cases action state <;> rfl

/-- What is read from the states does not depend on the names. -/
theorem overlooks_reading {read : Checker γ} {view : CheckState → γ} {rest : γ → Checker β}
    (reads : ∀ state, read state = .ok (view state) state)
    (upholds : (limits hidden).Upholds watched second (read >>= rest))
    (same : ∀ state : CheckState, (limits hidden).Obeyed watched (state.without hidden) →
      rest (view (state.without hidden)) (state.without hidden) =
        outcome hidden (rest (view state) state)) :
    Overlooks hidden watched second (read >>= rest) := by
  refine ⟨upholds, fun state obeyed => ?_⟩
  rw [bind_of_ok (reads _), bind_of_ok (reads _)]
  exact same state obeyed

end Combinators

section Leaves

theorem overlooks_templateOr (missing : NameFault) (used : name ∉ hidden) :
    Overlooks hidden watched
      (fun template => (Ty.template template).Within (limits hidden).mentions)
      (templateOr missing name) := by
  refine overlooks_reading (lookup?_apply .everywhere name) (upholds_templateOr missing name) ?_
  intro state _
  rw [CheckState.without, state.scopes.lookup?_without used]
  rcases state.scopes.lookup? .everywhere name with _ | type
  · rfl
  · cases type <;> rfl

theorem overlooks_lookup? (reach : Reach) (used : name ∉ hidden) :
    Overlooks hidden watched (limits hidden).WithinOption (lookup? reach name) := by
  refine ⟨upholds_lookup? reach name, fun state _ => ?_⟩
  rw [lookup?_apply, lookup?_apply, CheckState.without, state.scopes.lookup?_without used]
  rfl

theorem overlooks_mentions {list : List String} (used : ∀ name ∈ list, name ∉ hidden) :
    Overlooks hidden watched (fun _ => True)
      (list.forM fun name => discard (mentionedTemplate name)) :=
  overlooks_forM list fun name member => (overlooks_templateOr _ (used name member)).discard

theorem overlooks_validate {type : Ty} (within : type.Within (limits hidden).mentions) :
    Overlooks hidden watched (fun _ => True) (validate type) :=
  overlooks_mentions fun _ member => within _ (Ty.name_mem_mentions type member)

theorem overlooks_validateSignature {signature : Signature}
    (within : signature.Within (limits hidden).mentions) :
    Overlooks hidden watched (fun _ => True) (validateSignature signature) :=
  overlooks_mentions fun _ member => within _ (Signature.name_mem_mentions signature member)

theorem overlooks_resolve {type : Ty} (within : type.Within (limits hidden).mentions) :
    Overlooks hidden watched (·.Within (limits hidden).mentions) (resolve type) := by
  unfold resolve
  split
  · exact (overlooks_templateOr _ (used_of_within within)).then fun template found =>
      overlooks_pure found
  · exact overlooks_pure within

theorem overlooks_calledByName (count : Nat) (used : name ∉ hidden) :
    Overlooks hidden watched (·.Within (limits hidden).mentions) (calledByName name count) := by
  refine overlooks_reading (lookup?_apply .everywhere name) (upholds_calledByName name count) ?_
  intro state _
  rw [CheckState.without, state.scopes.lookup?_without used]
  rcases state.scopes.lookup? .everywhere name with _ | type
  · rfl
  · simp only [follow_apply]
    cases Rule.namedCallee name type count <;> rfl

theorem overlooks_calleeSignature {callee : Option String} (count : Nat) {value : Checker Ty}
    (used : ∀ name ∈ callee, name ∉ hidden)
    (overlooks : callee = none →
      Overlooks hidden watched (·.Within (limits hidden).mentions) value) :
    Overlooks hidden watched (·.Within (limits hidden).mentions)
      (calleeSignature callee count value) := by
  cases callee with
  | some name => exact overlooks_calledByName count (used name rfl)
  | none =>
      refine (overlooks rfl).then fun type within => ?_
      exact overlooks_follow fun signature typed =>
        (Ty.within_function signature).mp ((mentionLaw _).holds_callee within typed)

theorem overlooks_declaredAttribute {template : Template} (name : String)
    (within : template.Within (limits hidden).mentions) :
    Overlooks hidden watched (·.Within (limits hidden).mentions)
      (declaredAttribute template name) := by
  unfold declaredAttribute
  cases found : template.attribute? name with
  | none => exact overlooks_fail _
  | some type =>
      have members := (mentionLaw_members template).mpr within
      exact overlooks_pure ((mentionLaw _).holds_attribute? members found)

theorem overlooks_requireUnbound (used : name ∉ hidden) :
    Overlooks hidden watched (fun _ => True) (requireUnbound name) := by
  refine overlooks_reading scopes_apply (upholds_requireUnbound name) ?_
  intro state _
  rw [CheckState.without, state.scopes.locate?_without used, state.scopes.depth_without]
  rcases state.scopes.locate? .function name with _ | ⟨depth, type⟩
  · rfl
  · by_cases here : depth = state.scopes.depth
    · simp only [here, if_true]
      rfl
    · simp only [here, if_false]
      rfl

theorem overlooks_variableType {declared actual : Ty}
    (withinDeclared : declared.Within (limits hidden).mentions)
    (withinActual : actual.Within (limits hidden).mentions) :
    Overlooks hidden watched (·.Within (limits hidden).mentions)
      (variableType declared actual) := by
  unfold variableType
  split
  · exact overlooks_pure withinActual
  · exact (overlooks_validate withinDeclared).then fun _ _ => overlooks_resolve withinDeclared

theorem overlooks_declareVariable (id : Nat) {declared actual : Ty} (used : name ∉ hidden)
    (withinDeclared : declared.Within (limits hidden).mentions)
    (withinActual : actual.Within (limits hidden).mentions) :
    Overlooks hidden watched (fun _ => True) (declareVariable id name declared actual) := by
  refine (overlooks_requireUnbound used).then fun _ _ => ?_
  refine (overlooks_variableType withinDeclared withinActual).then fun type within => ?_
  refine (overlooks_check _).then fun _ _ => (overlooks_check _).then fun _ _ => ?_
  exact (overlooks_define used within).then fun _ _ => overlooks_addVariable id within

theorem overlooks_replaceFunction (prepared : Signature) {resolved : Signature}
    (used : name ∉ hidden) (within : resolved.Within (limits hidden).mentions) :
    Overlooks hidden watched (fun _ => True) (replaceFunction name prepared resolved) := by
  unfold replaceFunction
  split
  · exact overlooks_pure trivial
  · exact overlooks_update used ((Ty.within_function resolved).mpr within)

theorem overlooks_defineFound {type : Option Ty} (used : name ∉ hidden)
    (within : (limits hidden).WithinOption type) :
    Overlooks hidden watched (fun _ => True) (defineFound name type) := by
  cases type with
  | none => exact overlooks_pure trivial
  | some type => exact (overlooks_attempt (overlooks_define used (within type rfl))).discard

theorem overlooks_expectedResult :
    Overlooks hidden watched (fun _ => True) expectedResult := by
  refine overlooks_reading scopes_apply upholds_expectedResult ?_
  intro state _
  rw [CheckState.without, state.scopes.signature?_without]
  cases state.scopes.signature? <;> rfl

theorem overlooks_returnType (expected : Ty) {actual : Ty}
    (within : actual.Within (limits hidden).mentions) :
    Overlooks hidden watched (fun _ => True) (returnType expected actual) := by
  have gives : Overlooks hidden watched (fun _ => True) (giveResult expected actual) := by
    unfold giveResult
    split
    · exact overlooks_setResult within
    · exact overlooks_check _
  exact gives.then fun _ _ => overlooks_setUnreachable

theorem overlooks_leaveRound (outside : FlowFault) :
    Overlooks hidden watched (fun _ => True) (leaveRound outside) := by
  refine overlooks_reading scopes_apply (upholds_leaveRound outside) ?_
  intro state obeyed
  have sameLoop : (state.without hidden).scopes.inLoop = state.scopes.inLoop :=
    state.scopes.inLoop_without
  rw [sameLoop]
  have leaves : Overlooks hidden watched (fun _ => True) _ :=
    (overlooks_require state.scopes.inLoop (.flow outside)).then fun _ _ =>
      overlooks_setUnreachable
  exact leaves.same state obeyed

theorem overlooks_declareTemplate {template : Template} (used : template.name ∉ hidden)
    (within : (Ty.template template).Within (limits hidden).mentions) :
    Overlooks hidden watched (fun _ => True) (declareTemplate template) := by
  rcases (Template.within_iff _).mp (within_template_iff.mp within) with ⟨entries, _⟩
  refine (overlooks_lookup? .everywhere used).then fun found _ => ?_
  refine (overlooks_require _ _).then fun _ _ => (overlooks_define used within).then fun _ _ => ?_
  exact overlooks_forM template.attributes fun entry member =>
    (overlooks_validate (entries entry member)).then fun _ _ => overlooks_check _

theorem overlooks_updateMethod {template : Template} (index : Nat) {signature : Signature}
    (used : template.name ∉ hidden) (within : template.Within (limits hidden).mentions)
    (withinMethod : signature.Within (limits hidden).mentions) :
    Overlooks hidden watched (fun updated => updated = template.setMethod index signature)
      (updateMethod template index signature) := by
  have withinUpdated := Template.within_setMethod index within withinMethod
  exact (overlooks_update used (within_template_iff.mpr withinUpdated)).then fun _ _ =>
    overlooks_pure rfl

theorem overlooks_atStmt (position : Position) {action : Checker Unit}
    (overlooks : Overlooks hidden watched (fun _ => True) action) :
    Overlooks hidden watched (fun _ => True) (atStmt position action) := by
  refine overlooks_reading get_apply (upholds_atStmt position overlooks.upholds) ?_
  intro state obeyed
  have reached (enclosing : Position) : Overlooks hidden watched (fun _ => True)
      (do require (← scopes).isReachable (.flow .unreachableCode)
          action
          moveTo enclosing) := by
    refine overlooks_reading scopes_apply ?_ fun state obeyed => ?_
    · exact upholds_scopes.bind fun _ _ => (upholds_require _ _).bind fun _ _ =>
        overlooks.upholds.bind fun _ _ => upholds_moveTo _
    · have sameReachable : (state.without hidden).scopes.isReachable = state.scopes.isReachable :=
        state.scopes.isReachable_without
      rw [sameReachable]
      have rest : Overlooks hidden watched (fun _ => True) _ :=
        (overlooks_require state.scopes.isReachable (.flow .unreachableCode)).then fun _ _ =>
          overlooks.then fun _ _ => overlooks_moveTo enclosing
      exact rest.same state obeyed
  have whole : Overlooks hidden watched (fun _ => True) _ :=
    (overlooks_moveTo position).then fun _ _ => reached state.position
  exact whole.same state obeyed

end Leaves

section Blocks

variable {signature : Signature} {template : Option Template}

theorem overlooks_defineResolved {entries : List (String × Ty)}
    (used : ∀ entry ∈ entries, entry.1 ∉ hidden)
    (within : ∀ entry ∈ entries, entry.2.Within (limits hidden).mentions) :
    Overlooks hidden watched (fun _ => True) (defineResolved entries) :=
  overlooks_forM entries fun entry member =>
    (overlooks_resolve (within entry member)).then fun _ found =>
      overlooks_define (used entry member) found

theorem overlooks_defineMembers
    (used : ∀ name ∈ Renaming.boundNames signature template, name ∉ hidden)
    (within : ∀ declared ∈ template, declared.Within (limits hidden).mentions) :
    Overlooks hidden watched (fun _ => True) (defineMembers template) := by
  cases template with
  | none => exact overlooks_pure trivial
  | some declared =>
      rcases (Template.within_iff _).mp (within declared rfl) with ⟨withinAttributes, withinMethods⟩
      refine (overlooks_defineResolved (fun entry member => used _ ?_) withinAttributes).then ?_
      · exact List.mem_append_left _ (List.mem_append_left _ (List.mem_map_of_mem member))
      · intro _ _
        refine overlooks_forM _ fun method member => overlooks_define (used _ ?_) ?_
        · exact List.mem_append_left _ (List.mem_append_right _ (List.mem_map_of_mem member))
        · exact (Ty.within_function _).mpr (withinMethods method member)

theorem same_enterFunction
    (used : ∀ name ∈ Renaming.boundNames signature template, name ∉ hidden)
    (within : signature.Within (limits hidden).mentions)
    (withinTemplate : ∀ declared ∈ template, declared.Within (limits hidden).mentions)
    {state : CheckState} (obeyed : (limits hidden).Obeyed watched (state.without hidden)) :
    enterFunction signature template (state.without hidden) =
      outcome hidden (enterFunction signature template state) := by
  have inside :
      (limits hidden).Obeyed true ((state.entered (.function signature)).without hidden) :=
    ⟨obeyed.symbols, fun _ found same => Option.some.inj same ▸ within, trivial⟩
  have binds : Overlooks hidden true (fun _ => True)
      (do defineMembers template; defineResolved signature.params) :=
    (overlooks_defineMembers used withinTemplate).then fun _ _ =>
      overlooks_defineResolved (fun param member => used _
        (List.mem_append_right _ (List.mem_map_of_mem member)))
        ((Signature.within_iff _).mp within).2
  exact binds.same _ inside

theorem same_exit (state : CheckState) :
    exit (state.without hidden) =
      match exit state with
      | .ok scope after => .ok (scope.without hidden) (after.without hidden)
      | .error diagnostic after => .error diagnostic (after.without hidden) := by
  have left : (state.without hidden).scopes.exit? = _ := state.scopes.exit?_without
  rw [exit_apply, exit_apply, left]
  cases state.scopes.exit? <;> rfl

theorem overlooks_inFunction {returns : Prop} {body : Checker Unit}
    (used : ∀ name ∈ Renaming.boundNames signature template, name ∉ hidden)
    (within : signature.Within (limits hidden).mentions)
    (withinTemplate : ∀ declared ∈ template, declared.Within (limits hidden).mentions)
    (keeps : Keeps (ScopeStack.Kept returns) body)
    (overlooks : Overlooks hidden true (fun _ => True) body) :
    Overlooks hidden watched (·.Within (limits hidden).mentions)
      (inFunction signature template body) := by
  refine ⟨upholds_inFunction within withinTemplate keeps overlooks.upholds, fun state obeyed => ?_⟩
  have entering := obeyed_enterFunction within withinTemplate obeyed
  have sameEnter := same_enterFunction used within withinTemplate obeyed
  rw [inFunction, bind_apply, bind_apply, sameEnter]
  rw [sameEnter] at entering
  cases ranEnter : enterFunction signature template state with
  | error diagnostic entered => rfl
  | ok value entered =>
      rw [ranEnter] at entering
      simp only [outcome]
      rw [bind_apply, bind_apply, overlooks.same entered entering]
      cases ranBody : body entered with
      | error diagnostic bodyEnd => rfl
      | ok value bodyEnd =>
          simp only [outcome]
          rw [bind_apply, bind_apply, same_exit]
          cases exit bodyEnd <;> rfl

/-- The scope that is left binds fewer names, which must not matter to what comes next. -/
theorem overlooks_within {α : Type} {second : α → Prop} {returns : Prop} {kind : ScopeKind}
    {body : Checker Unit} {rest : Scope → Checker α}
    (plain : (Scope.empty kind).isFunction = false) (keeps : Keeps (ScopeStack.Kept returns) body)
    (overlooks : Overlooks hidden watched (fun _ => True) body)
    (blind : ∀ scope : Scope, rest (scope.without hidden) = rest scope)
    (overlooksRest : ∀ scope, Overlooks hidden watched second (rest scope)) :
    Overlooks hidden watched second (within kind body >>= rest) := by
  have upheld := upholds_within plain keeps overlooks.upholds
  refine ⟨upheld.bind fun scope _ => (overlooksRest scope).upholds, fun state obeyed => ?_⟩
  have inside : (limits hidden).Obeyed watched ((state.entered kind).without hidden) := by
    refine ⟨obeyed.symbols, ?_, trivial⟩
    have sameNearest : ((state.entered kind).without hidden).scopes.signature? = _ :=
      signature?_enter (state.scopes.without hidden) plain
    rw [sameNearest]
    exact obeyed.nearest
  have ran : within kind body (state.without hidden) =
      match within kind body state with
      | .ok scope after => .ok (scope.without hidden) (after.without hidden)
      | .error diagnostic after => .error diagnostic (after.without hidden) := by
    have ranBody := overlooks.same (state.entered kind) inside
    have whole (state : CheckState) : within kind body state =
        (body >>= fun _ => exit) (state.entered kind) := rfl
    have sameEntered : (state.without hidden).entered kind = (state.entered kind).without hidden :=
      rfl
    rw [whole, whole, sameEntered, bind_apply, bind_apply, ranBody]
    cases body (state.entered kind) with
    | error diagnostic bodyEnd => rfl
    | ok value bodyEnd => exact same_exit bodyEnd
  rw [bind_apply, bind_apply, ran]
  cases left : within kind body state with
  | error diagnostic after => rfl
  | ok scope after =>
      rw [left] at ran
      have obeyedAfter := (upheld.of_ok obeyed ran).2
      simp only [blind]
      exact (overlooksRest scope).same after obeyedAfter

theorem overlooks_inferResult (firstReturn : Option (Option Expr))
    {search : Checker (Option Ty)}
    (used : ∀ name ∈ Renaming.boundNames signature template, name ∉ hidden)
    (within : signature.Within (limits hidden).mentions)
    (withinTemplate : ∀ declared ∈ template, declared.Within (limits hidden).mentions)
    (overlooks : Overlooks hidden false (limits hidden).WithinOption search) :
    Overlooks hidden watched (·.Within (limits hidden).mentions)
      (inferResult signature template firstReturn search) := by
  refine ⟨upholds_inferResult firstReturn within withinTemplate overlooks.upholds,
    fun state obeyed => ?_⟩
  have searched : tentatively (do enterFunction signature template; search)
      (state.without hidden) =
        outcome hidden (tentatively (do enterFunction signature template; search) state) := by
    have entering := obeyed_enterFunction within withinTemplate obeyed
    have sameEnter := same_enterFunction used within withinTemplate obeyed
    rw [tentatively_apply, tentatively_apply, bind_apply, bind_apply, sameEnter]
    rw [sameEnter] at entering
    cases ranEnter : enterFunction signature template state with
    | error diagnostic entered => rfl
    | ok value entered =>
        rw [ranEnter] at entering
        simp only [outcome]
        rw [overlooks.same entered entering.unwatched]
        cases search entered <;> rfl
  unfold inferResult
  split
  · rfl
  · split
    · rfl
    · rw [bind_apply, bind_apply, searched]
      cases tentatively (do enterFunction signature template; search) state <;> rfl

theorem overlooks_searchBlock {bound : Option (String × Ty)} {search : Checker (Option Ty)}
    (used : ∀ entry ∈ bound, entry.1 ∉ hidden)
    (within : ∀ entry ∈ bound, entry.2.Within (limits hidden).mentions)
    (overlooks : Overlooks hidden false (limits hidden).WithinOption search) :
    Overlooks hidden false (limits hidden).WithinOption (searchBlock bound search) := by
  refine ⟨upholds_searchBlock within overlooks.upholds, fun state obeyed => ?_⟩
  have binds : Overlooks hidden false (fun _ => True) (defineBound bound) := by
    cases bound with
    | none => exact overlooks_pure trivial
    | some entry => exact overlooks_define (used entry rfl) (within entry rfl)
  have inside : (limits hidden).Obeyed false ((state.entered .block).without hidden) :=
    ⟨obeyed.symbols, nofun, trivial⟩
  have searched : Overlooks hidden false (limits hidden).WithinOption
      (do defineBound bound; search) := binds.then fun _ _ => overlooks
  have left {action : Checker (Option Ty)} {state : CheckState}
      (ran : action (state.without hidden) = outcome hidden (action state)) :
      (action >>= fun found => exit >>= fun _ => pure found) (state.without hidden) =
        outcome hidden ((action >>= fun found => exit >>= fun _ => pure found) state) := by
    rw [bind_apply, bind_apply, ran]
    cases action state with
    | error diagnostic after => rfl
    | ok found after =>
        simp only [outcome]
        rw [bind_apply, bind_apply, same_exit]
        cases exit after <;> rfl
  have whole (state : CheckState) : searchBlock bound search state =
      ((defineBound bound >>= fun _ => search) >>= fun found => exit >>= fun _ => pure found)
        (state.entered .block) := by
    rw [bind_assoc]
    rfl
  rw [whole, whole]
  exact left (searched.same (state.entered .block) inside)

theorem overlooks_searchUnbound {search : Checker (Option Ty)}
    (overlooks : Overlooks hidden false (limits hidden).WithinOption search) :
    Overlooks hidden false (limits hidden).WithinOption (searchBlock none search) :=
  overlooks_searchBlock (fun _ impossible => absurd impossible (Option.not_mem_none _))
    (fun _ impossible => absurd impossible (Option.not_mem_none _)) overlooks

end Blocks

end Unused

end ScriptCheck
