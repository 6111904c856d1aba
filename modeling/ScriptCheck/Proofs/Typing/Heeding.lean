import ScriptCheck.Proofs.Typing.Places

/-!
# Heeding the rules of placement

The checker keeps no record of where in the program it is. It reads off the stack of scopes whether
a loop or a function lies around a statement, and a flag in each scope tells whether the next
statement can be reached. `ScopeStack.surroundings` is what the stack tells, and no check changes it
by the time that it is over.

`Heeds` is what one step preserves: an action that starts in the surroundings of a place succeeds
only where no rule is broken in it, and a fault of placement names a rule that is broken. There is
one lemma for each building block of the checker. Most of them fail with faults of other kinds only:
such an action `Passes`.
-/

namespace ScriptCheck

/-- The faults that come from where a statement stands. -/
def FlowFault.isPlacement : FlowFault → Bool
  | .unreachableCode | .haltOutsideLoop | .skipOutsideLoop | .returnOutsideFunction => true
  | .unreachableElse | .unreachableIf | .globalScopeExit => false

/-- What lies around a place in a new scope. -/
def Surroundings.entering (around : Surroundings) : ScopeKind → Surroundings
  | .loop => { around with inLoop := true }
  | .function _ => .ofFunction
  | .global | .block | .branch => around

/-! ### Surroundings on the stack -/

/-- What a scope tells about the places in it. -/
def Scope.frame (scope : Scope) : Bool × Bool :=
  (scope.isFunction, scope.isLoop)

/-- What does not look at the result of a function is the same in settled scopes. -/
theorem Settled.map_eq {α : Type} {returns : Prop} {before after : List Scope}
    (settled : Settled returns before after) (view : Scope → α)
    (blind : ∀ signature result symbols reachable,
      view { kind := .function (Signature.withResult signature result), symbols, reachable } =
        view { kind := .function signature, symbols, reachable }) :
    after.map view = before.map view := by
  induction settled with
  | same scopes => rfl
  | found signature result symbols reachable outer => rw [List.map_cons, List.map_cons, blind]
  | around scope outside settled ih => rw [List.map_cons, List.map_cons, ih]

namespace ScopeStack

/-- What the scopes tell about the place that is checked. -/
def surroundings (stack : ScopeStack) : Surroundings :=
  { inLoop := stack.inLoop, inFunction := stack.signature?.isSome }

theorem surroundings_eq_frames (stack : ScopeStack) :
    stack.surroundings =
      { inLoop := (((stack.scopes.map Scope.frame).find? fun frame =>
          frame.1 || frame.2).map (·.2)).getD false
        inFunction := (stack.scopes.map Scope.frame).any (·.1) } := by
  unfold surroundings inLoop signature?
  rw [List.find?_map, Option.map_map, List.isSome_findSome?, List.any_map]
  rfl

variable {returns : Prop} {before after : ScopeStack}

theorem Kept.surroundings_eq (kept : before.Kept returns after) :
    after.surroundings = before.surroundings := by
  have frames := Settled.map_eq kept Scope.frame fun _ _ _ _ => rfl
  rw [surroundings_eq_frames, surroundings_eq_frames, ← frames]
  rfl

theorem Kept.reachable_outer (kept : before.Kept returns after) :
    after.outer.all (·.reachable) = before.outer.all (·.reachable) := by
  have flags : after.outer.map (·.reachable) = before.outer.map (·.reachable) :=
    Settled.map_eq (Settled.outer_settled kept) (·.reachable) fun _ _ _ _ => rfl
  have same := congrArg (List.all · id) flags
  simpa [List.all_map] using same

theorem Settles.isReachable_eq (settles : before.Settles returns after) :
    after.isReachable = before.isReachable := by
  have flags := Settled.map_eq settles (·.reachable) fun _ _ _ _ => rfl
  have same := congrArg (List.all · id) flags
  simpa [isReachable, List.all_map] using same

theorem surroundings_modifyInnermost (stack : ScopeStack) (property : Scope → Bool)
    {change : Scope → Scope} (blind : ∀ scope, (change scope).frame = scope.frame) :
    (stack.modifyInnermost property change).surroundings = stack.surroundings := by
  rw [surroundings_eq_frames, surroundings_eq_frames, map_modifyInnermost _ _ _ blind]

theorem isReachable_modifyInnermost (stack : ScopeStack) (property : Scope → Bool)
    {change : Scope → Scope} (blind : ∀ scope, (change scope).reachable = scope.reachable) :
    (stack.modifyInnermost property change).isReachable = stack.isReachable := by
  have flags := map_modifyInnermost stack property (·.reachable) blind
  have same := congrArg (List.all · id) flags
  simpa [isReachable, List.all_map] using same

theorem surroundings_setUnreachable (stack : ScopeStack) :
    stack.setUnreachable.surroundings = stack.surroundings := by
  rw [surroundings_eq_frames, surroundings_eq_frames]
  rfl

theorem surroundings_enter (stack : ScopeStack) (kind : ScopeKind) :
    (stack.enter kind).surroundings = stack.surroundings.entering kind := by
  cases kind <;> rfl

end ScopeStack

/-! ### Heeding the rules -/

namespace Checker

variable {α β : Type} {around : Surroundings} {broken first second : FlowFault → Position → Prop}

/-- How an action goes on that starts in the given surroundings where it can be reached. If it
succeeds, no rule of placement is broken, the surroundings are the same, and `ends` holds of its
value and of whether what comes next can be reached. A fault of placement that it fails with is one
of the rules that are broken. -/
def Heeds (around : Surroundings) (broken : FlowFault → Position → Prop) (ends : α → Bool → Prop)
    (action : Checker α) : Prop :=
  ∀ state, state.scopes.surroundings = around → state.scopes.isReachable = true →
    match action state with
    | .ok value after =>
      (∀ fault position, ¬broken fault position) ∧ after.scopes.surroundings = around ∧
        ends value after.scopes.isReachable
    | .error diagnostic _ =>
      ∀ fault, fault.isPlacement = true → diagnostic.cause = .flow fault →
        broken fault diagnostic.position

/-- What comes next can be reached, and the value has a property. -/
def having (property : α → Prop) (value : α) (reachable : Bool) : Prop :=
  reachable = true ∧ property value

/-- What comes next can be reached. -/
abbrev onward : α → Bool → Prop :=
  having fun _ => True

/-- No rule is broken. -/
def nothing (_ : FlowFault) (_ : Position) : Prop :=
  False

/-- An action in which nothing is misplaced. -/
abbrev Passes (around : Surroundings) (action : Checker α) : Prop :=
  Heeds around nothing onward action

section Combinators

variable {ends : α → Bool → Prop} {property : α → Prop} {last : β → Bool → Prop}
  {action : Checker α} {rest : α → Checker β}

theorem Heeds.congr (heeds : Heeds around first ends action)
    (same : ∀ fault position, first fault position ↔ second fault position) :
    Heeds around second ends action := by
  have equal : first = second := by
    funext fault position
    exact propext (same fault position)
  exact equal ▸ heeds

theorem Heeds.mono {wider : α → Bool → Prop} (heeds : Heeds around broken ends action)
    (weaker : ∀ value reachable, ends value reachable → wider value reachable) :
    Heeds around broken wider action := by
  intro state same reachable
  have heeded := heeds state same reachable
  cases ran : action state with
  | ok value after =>
      rw [ran] at heeded
      exact ⟨heeded.1, heeded.2.1, weaker _ _ heeded.2.2⟩
  | error diagnostic after =>
      rw [ran] at heeded
      exact heeded

/-- A sequence breaks what its parts break. -/
theorem Heeds.bind (heeds : Heeds around first (having property) action)
    (heedsRest : ∀ value, property value → Heeds around second last (rest value)) :
    Heeds around (fun fault position => first fault position ∨ second fault position) last
      (action >>= rest) := by
  intro state same reachable
  have heeded := heeds state same reachable
  rw [bind_apply]
  cases ran : action state with
  | error diagnostic between =>
      rw [ran] at heeded
      intro fault placement cause
      exact .inl (heeded fault placement cause)
  | ok value between =>
      rw [ran] at heeded
      obtain ⟨clear, sameBetween, reached, held⟩ := heeded
      have heededRest := heedsRest value held between sameBetween reached
      simp only
      cases ranRest : rest value between with
      | error diagnostic after =>
          rw [ranRest] at heededRest
          intro fault placement cause
          exact .inr (heededRest fault placement cause)
      | ok result after =>
          rw [ranRest] at heededRest
          obtain ⟨clearRest, sameAfter, ended⟩ := heededRest
          refine ⟨?_, sameAfter, ended⟩
          rintro fault position (broken | broken)
          · exact clear fault position broken
          · exact clearRest fault position broken

/-- What comes after an action in which nothing is misplaced decides what is broken. -/
theorem Heeds.then (passes : Heeds around nothing (having property) action)
    (heedsRest : ∀ value, property value → Heeds around broken last (rest value)) :
    Heeds around broken last (action >>= rest) :=
  (passes.bind heedsRest).congr fun _ _ => iff_of_eq (false_or _)

/-- What comes before an action in which nothing is misplaced decides what is broken. -/
theorem Heeds.finish (heeds : Heeds around broken (having property) action)
    (heedsRest : ∀ value, property value → Heeds around nothing last (rest value)) :
    Heeds around broken last (action >>= rest) :=
  (heeds.bind heedsRest).congr fun _ _ => iff_of_eq (or_false _)

theorem Passes.then (passes : Passes around action)
    (heedsRest : ∀ value, Heeds around broken last (rest value)) :
    Heeds around broken last (action >>= rest) :=
  Heeds.then passes fun value _ => heedsRest value

end Combinators

section Leaves

theorem heeds_pure {ends : α → Bool → Prop} {value : α} (ended : ends value true) :
    Heeds around nothing ends (pure value) := by
  intro state same reachable
  refine ⟨fun _ _ => id, same, ?_⟩
  rw [reachable]
  exact ended

theorem passes_pure (value : α) : Passes around (pure value) :=
  heeds_pure ⟨rfl, trivial⟩

/-- A fault of another kind says nothing about placement. -/
theorem heeds_fail {ends : α → Bool → Prop} {cause : Cause}
    (harmless : ∀ fault, cause = .flow fault → fault.isPlacement = false) :
    Heeds around broken ends (fail cause) := by
  intro state same reachable fault placement blamed
  rw [harmless fault blamed] at placement
  contradiction

theorem passes_require (holds : Bool) {cause : Cause}
    (harmless : ∀ fault, cause = .flow fault → fault.isPlacement = false) :
    Passes around (require holds cause) := by
  cases holds with
  | true => exact passes_pure ()
  | false => exact heeds_fail harmless

theorem heeds_follow {result : Except TypeFault α} {property : α → Prop}
    (holds : ∀ value, result = .ok value → property value) :
    Heeds around nothing (having property) (follow result) := by
  cases result with
  | error fault => exact heeds_fail (by simp)
  | ok value =>
      intro state same reachable
      exact ⟨fun _ _ => id, same, reachable, holds value rfl⟩

theorem passes_follow (result : Except TypeFault α) : Passes around (follow result) :=
  heeds_follow fun _ _ => trivial

theorem passes_scopes : Passes around scopes := by
  intro state same reachable
  exact ⟨fun _ _ => id, same, reachable, trivial⟩

theorem passes_lookup? (reach : Reach) (name : String) : Passes around (lookup? reach name) := by
  intro state same reachable
  exact ⟨fun _ _ => id, same, reachable, trivial⟩

theorem passes_modifyAnalysis (change : Analysis → Analysis) :
    Passes around (modifyAnalysis change) := by
  intro state same reachable
  exact ⟨fun _ _ => id, same, reachable, trivial⟩

theorem Heeds.discard {property : α → Prop} {action : Checker α}
    (heeds : Heeds around broken (having property) action) :
    Heeds around broken onward (discard action) :=
  heeds.finish fun _ _ => passes_pure ()

theorem passes_define (name : String) (type : Ty) : Passes around (define name type) := by
  intro state same reachable
  rw [define_apply]
  cases defined : state.scopes.define? name type with
  | none =>
      intro fault placement cause
      contradiction
  | some extended =>
      have declared := ScopeStack.declared_of_define? defined
      have kept : state.scopes.Kept False extended := declared.kept
      obtain ⟨-, found, rfl⟩ := declared
      exact ⟨fun _ _ => id, kept.surroundings_eq.trans same, reachable, trivial⟩

theorem passes_update (name : String) (type : Ty) : Passes around (update name type) := by
  intro state same reachable
  have blind (scope : Scope) : (scope.rebind name type).frame = scope.frame ∧
      (scope.rebind name type).reachable = scope.reachable := ⟨rfl, rfl⟩
  have around := ScopeStack.surroundings_modifyInnermost state.scopes (·.binds name)
    fun scope => (blind scope).1
  have onward := ScopeStack.isReachable_modifyInnermost state.scopes (·.binds name)
    fun scope => (blind scope).2
  exact ⟨fun _ _ => id, around.trans same, onward.trans reachable, trivial⟩

theorem passes_forM {Item : Type} {step : Item → Checker Unit} (items : List Item)
    (passes : ∀ item, Passes around (step item)) : Passes around (items.forM step) := by
  induction items with
  | nil => exact passes_pure ()
  | cons item rest ih => exact (passes item).then fun _ => ih

theorem passes_templateOr (missing : NameFault) (name : String) :
    Passes around (templateOr missing name) := by
  apply (passes_lookup? .everywhere name).then
  intro found
  split
  · exact passes_pure _
  · exact heeds_fail (by simp)
  · exact heeds_fail (by simp)

theorem passes_mentions (names : List String) :
    Passes around (names.forM fun name => Functor.discard (mentionedTemplate name)) :=
  passes_forM names fun name => (passes_templateOr (.typeNotDefined name) name).discard

theorem passes_resolve (type : Ty) : Passes around (resolve type) := by
  unfold resolve
  split
  · exact (passes_templateOr _ _).then fun _ => passes_pure _
  · exact passes_pure _

theorem passes_inferResult (signature : Signature) (template : Option Template)
    (firstReturn : Option (Option Expr)) (search : Checker (Option Ty)) :
    Passes around (inferResult signature template firstReturn search) := by
  intro state same reachable
  obtain ⟨prepared, ran⟩ := inferResult_apply signature template firstReturn search state
  rw [ran]
  exact ⟨fun _ _ => id, same, reachable, trivial⟩

theorem passes_declaredAttribute (template : Template) (name : String) :
    Passes around (declaredAttribute template name) := by
  unfold declaredAttribute
  split
  · exact passes_pure _
  · exact heeds_fail (by simp)

theorem passes_requireUnbound (name : String) : Passes around (requireUnbound name) := by
  apply passes_scopes.then
  intro stack
  split
  · exact passes_pure ()
  · split
    · exact heeds_fail (by simp)
    · exact heeds_fail (by simp)

theorem passes_variableType (declared actual : Ty) :
    Passes around (variableType declared actual) := by
  unfold variableType
  split
  · exact passes_pure _
  · exact (passes_mentions _).then fun _ => passes_resolve declared

theorem passes_declareVariable (id : Nat) (name : String) (declared actual : Ty) :
    Passes around (declareVariable id name declared actual) := by
  apply (passes_requireUnbound name).then
  intro _
  apply (passes_variableType declared actual).then
  intro type
  apply (passes_follow _).then
  intro _
  apply (passes_follow _).then
  intro _
  apply (passes_define name type).then
  intro _
  exact passes_modifyAnalysis _

theorem passes_defineResolved (entries : List (String × Ty)) :
    Passes around (defineResolved entries) :=
  passes_forM entries fun entry => (passes_resolve entry.2).then fun type =>
    passes_define entry.1 type

theorem passes_defineMembers (template : Option Template) :
    Passes around (defineMembers template) := by
  cases template with
  | none => exact passes_pure ()
  | some declared =>
      apply (passes_defineResolved declared.attributes).then
      intro _
      exact passes_forM declared.methods fun method => passes_define _ _

theorem passes_replaceFunction (name : String) (prepared resolved : Signature) :
    Passes around (replaceFunction name prepared resolved) := by
  unfold replaceFunction
  split
  · exact passes_pure ()
  · exact passes_update name _

theorem passes_updateMethod (template : Template) (index : Nat) (signature : Signature) :
    Passes around (updateMethod template index signature) :=
  (passes_update template.name _).then fun _ => passes_pure _

theorem passes_declareTemplate (template : Template) :
    Passes around (declareTemplate template) := by
  apply (passes_lookup? _ _).then
  intro found
  apply (passes_require _ (by simp)).then
  intro _
  apply (passes_define template.name _).then
  intro _
  apply passes_forM
  intro entry
  exact (passes_mentions _).then fun _ => passes_follow _

theorem passes_prepareMethods (template : Template) (index : Nat) (methods : List FnDecl) :
    Passes around (prepareMethods template index methods) := by
  induction methods generalizing template index with
  | nil =>
      rw [prepareMethods]
      exact passes_pure _
  | cons method rest ih =>
      obtain ⟨position, id, name, signature, body⟩ := method
      rw [prepareMethods]
      apply (passes_mentions _).then
      intro _
      apply (passes_inferResult _ _ _ _).then
      intro prepared
      apply (passes_updateMethod template index prepared).then
      intro updated
      exact ih updated (index + 1)

/-- A called name stands for a function with a parameter for each argument. -/
theorem heeds_calledByName (name : String) (count : Nat) :
    Heeds around nothing (having fun signature => signature.params.length = count)
      (calledByName name count) := by
  apply (passes_lookup? .everywhere name).then
  intro found
  cases found with
  | none => exact heeds_fail (by simp)
  | some type => exact heeds_follow fun signature => length_params_of_namedCallee

end Leaves

section Blocks

variable {returns : Prop} {goesOn : Bool} {body : Checker Unit}

/-- The scope of a block is left with the flag that the block ends with, and the scopes around it
are as before. -/
theorem heeds_within (kind : ScopeKind) (keeps : Keeps (ScopeStack.Kept returns) body)
    (heeds : Heeds (around.entering kind) broken (fun _ reachable => reachable = goesOn) body) :
    Heeds around broken (having fun scope => scope.reachable = goesOn) (within kind body) := by
  intro state same reachable
  have inner : (state.entered kind).scopes.surroundings = around.entering kind := by
    rw [← same]
    exact ScopeStack.surroundings_enter state.scopes kind
  have heeded := heeds (state.entered kind) inner reachable
  have kept := keeps (state.entered kind)
  have opened : within kind body state = (body >>= fun _ => exit) (state.entered kind) := rfl
  rw [opened, bind_apply]
  cases ran : body (state.entered kind) with
  | error diagnostic after =>
      rw [ran] at heeded
      exact heeded
  | ok value inside =>
      rw [ran] at heeded kept
      obtain ⟨clear, -, ended⟩ := heeded
      obtain ⟨outside, left, settles, -⟩ := exit_of_inside kept.2
      have outer : inside.scopes.outer.all (·.reachable) = true :=
        (ScopeStack.Kept.reachable_outer kept.2).trans reachable
      simp only [left]
      refine ⟨clear, settles.kept.surroundings_eq.trans same,
        settles.isReachable_eq.trans reachable, ?_⟩
      rw [← ended, ScopeStack.isReachable, ScopeStack.scopes, List.all_cons, outer, Bool.and_true]

theorem inFunction_eq_within (signature : Signature) (template : Option Template) :
    inFunction signature template body = (do
      let scope ← within (.function signature) (do
        defineMembers template
        defineResolved signature.params
        body)
      pure (scope.signature?.getD signature).settled) := by
  unfold inFunction within enterFunction
  simp only [bind_assoc]

/-- The loops around a function are none of its body. -/
theorem heeds_inFunction {signature : Signature} {template : Option Template}
    (keeps : Keeps (ScopeStack.Kept returns) body)
    (heeds : Heeds .ofFunction broken (fun _ reachable => reachable = goesOn) body) :
    Heeds around broken onward (inFunction signature template body) := by
  rw [inFunction_eq_within]
  have keepsParams := (keeps_defineResolved signature.params).bind (fun _ => keeps)
    fun _ _ _ => ScopeStack.Kept.trans
  have keepsAll := (keeps_defineMembers template).bind (fun _ => keepsParams)
    fun _ _ _ => ScopeStack.Kept.trans
  have heedsAll : Heeds .ofFunction broken (fun _ reachable => reachable = goesOn) (do
      defineMembers template
      defineResolved signature.params
      body) := by
    apply (passes_defineMembers template).then
    intro _
    apply (passes_defineResolved signature.params).then
    intro _
    exact heeds
  exact (heeds_within (.function signature) keepsAll heedsAll).finish fun _ _ => passes_pure _

theorem heeds_atStmt {ends : Unit → Bool → Prop} (position : Position)
    (heeds : Heeds around broken ends body) : Heeds around broken ends (atStmt position body) := by
  intro state same reachable
  have heeded := heeds (state.movedTo position) same reachable
  have opened : atStmt position body state =
      (body >>= fun _ => moveTo state.position) (state.movedTo position) :=
    atStmt_apply reachable body
  rw [opened, bind_apply]
  cases ran : body (state.movedTo position) with
  | error diagnostic after =>
      rw [ran] at heeded
      exact heeded
  | ok value after =>
      rw [ran] at heeded
      exact heeded

theorem heeds_setUnreachable :
    Heeds around nothing (fun _ reachable => reachable = false)
      (modifyScopes (·.setUnreachable)) := by
  intro state same reachable
  refine ⟨fun _ _ => id, ?_, rfl⟩
  exact (ScopeStack.surroundings_setUnreachable state.scopes).trans same

theorem heeds_closeChoice (goesOn : Bool) :
    Heeds around nothing (fun _ reachable => reachable = goesOn)
      (unless goesOn do modifyScopes (·.setUnreachable)) := by
  cases goesOn with
  | true => exact heeds_pure rfl
  | false => exact heeds_setUnreachable

theorem heeds_loop {block : Block} (name : String) (type : Ty)
    (heeds : Heeds { around with inLoop := true } broken (fun _ reachable => reachable = goesOn)
      (checkBody block)) :
    Heeds around broken (having fun scope => scope.reachable = goesOn)
      (within .loop do define name type; checkBody block) := by
  apply heeds_within
  · exact (keeps_define_kept name type).bind (fun _ => keeps_checkBody block)
      fun _ _ _ => ScopeStack.Kept.trans
  · apply (passes_define name type).then
    intro _
    exact heeds

/-- A round is left where a loop lies around, and the fault is reported at the statement. -/
theorem heeds_leaveRound (position : Position) (outside : FlowFault) :
    Heeds around (fun fault place => around.inLoop = false ∧ outside = fault ∧ place = position)
      (fun _ reachable => reachable = false) (atStmt position (leaveRound outside)) := by
  intro state same reachable
  have inside : state.scopes.inLoop = around.inLoop := congrArg Surroundings.inLoop same
  simp only [atStmt_apply reachable, leaveRound, bind_apply, scopes_apply, require_apply, inside]
  cases loop : around.inLoop with
  | false =>
      intro fault placement cause
      exact ⟨rfl, Cause.flow.inj cause, rfl⟩
  | true =>
      refine ⟨by simp, ?_, rfl⟩
      exact (ScopeStack.surroundings_setUnreachable state.scopes).trans same

theorem passes_giveResult (expected actual : Ty) : Passes around (giveResult expected actual) := by
  unfold giveResult
  split
  · intro state same reachable
    have blind (scope : Scope) : (scope.setResult actual).frame = scope.frame ∧
        (scope.setResult actual).reachable = scope.reachable := by
      rcases scope with ⟨kind, symbols, flag⟩
      cases kind <;> exact ⟨rfl, rfl⟩
    have around := ScopeStack.surroundings_modifyInnermost state.scopes (·.isFunction)
      fun scope => (blind scope).1
    have onward := ScopeStack.isReachable_modifyInnermost state.scopes (·.isFunction)
      fun scope => (blind scope).2
    exact ⟨fun _ _ => id, around.trans same, onward.trans reachable, trivial⟩
  · exact passes_follow _

/-- A value is returned where a function lies around, and the fault is reported at the
statement. -/
theorem heeds_returning (position : Position) {value : Checker Ty}
    (heeds : Heeds around broken onward value) :
    Heeds around (fun fault place =>
        (around.inFunction = false ∧ .returnOutsideFunction = fault ∧ place = position) ∨
          broken fault place)
      (fun _ reachable => reachable = false)
      (atStmt position do
        let expected ← expectedResult
        let actual ← value
        returnType expected actual) := by
  intro state same reachable
  have inside : state.scopes.signature?.isSome = around.inFunction :=
    congrArg Surroundings.inFunction same
  cases nearest : state.scopes.signature? with
  | none =>
      simp only [atStmt_apply reachable, bind_apply, expectedResult_apply, nearest]
      rw [nearest] at inside
      intro fault placement cause
      exact .inl ⟨inside.symm, Cause.flow.inj cause, trivial⟩
  | some signature =>
      have returns : Heeds around broken (fun _ reachable => reachable = false)
          (atStmt position do
            let actual ← value
            returnType signature.result actual) := by
        apply heeds_atStmt
        apply heeds.finish
        intro actual _
        apply (passes_giveResult signature.result actual).then
        intro _
        exact heeds_setUnreachable
      have opened : atStmt position (do
            let expected ← expectedResult
            let actual ← value
            returnType expected actual) state =
          atStmt position (do
            let actual ← value
            returnType signature.result actual) state := by
        simp only [atStmt_apply reachable, bind_apply, expectedResult_apply, nearest]
      rw [nearest] at inside
      have returned := (returns.congr fun fault place => show _ ↔
        (around.inFunction = false ∧ .returnOutsideFunction = fault ∧ place = position) ∨
          broken fault place by simp [← inside]) state same reachable
      rw [opened]
      exact returned

end Blocks

end Checker

end ScriptCheck
