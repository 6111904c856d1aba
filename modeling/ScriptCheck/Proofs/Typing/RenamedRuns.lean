import ScriptCheck.Proofs.Typing.RenamedScopes

/-!
# Runs on a renamed function

The run of an action and that of its renamed form go the same way: from states whose scopes
correspond they come out alike. Both succeed, with scopes that correspond again, or both fail, as
deep in scopes as each other. Names in types are looked up as well, where the types are used. While
the variable is in scope, they must be neither of the two names: there, the variable would be found
under its name.

There is one rule for each combinator, and one for each building block of the checker.
-/

namespace ScriptCheck

open Checker

namespace Renaming

variable (names : Renaming)

structure States (called : Prop) (shape : Shape) (first second : CheckState) : Prop where
  position : first.position = second.position
  analysis : first.analysis = second.analysis
  scopes : names.Stacked called True shape first.scopes.scopes second.scopes.scopes

/-- A name stands for the same in both runs, whatever it is used for. -/
def Steady (shape : Shape) (name : String) : Prop :=
  shape.Hides → names.Apart name

variable {α β : Type}

/-- How an original and a renamed run come out. -/
inductive Outcomes (called : Prop) (shape : Shape) (alike : α → α → Prop) :
    EStateM.Result Diagnostic CheckState α → EStateM.Result Diagnostic CheckState α → Prop where
  | ok {value other : α} {first second : CheckState} (same : alike value other)
      (states : names.States called shape first second) :
      Outcomes called shape alike (.ok value first) (.ok other second)
  | error (diagnostic other : Diagnostic) {first second : CheckState}
      (position : first.position = second.position) (analysis : first.analysis = second.analysis)
      (depth : first.scopes.depth = second.scopes.depth) :
      Outcomes called shape alike (.error diagnostic first) (.error other second)

variable {names} {called : Prop} {shape shape' : Shape} {first second : CheckState} {name : String}

theorem ScopeStack.eq_of_scopes {stack other : ScopeStack} (same : stack.scopes = other.scopes) :
    stack = other := by
  rcases stack with ⟨inner, outer⟩
  rcases other with ⟨inner', outer'⟩
  simpa [ScopeStack.scopes] using same

namespace States

theorem refl (state : CheckState) : names.States called [] state state :=
  ⟨rfl, rfl, .around _⟩

/-- Where the variable is not in scope, the states are the same. -/
theorem eq_of_not_hides (states : names.States called shape first second) (free : ¬shape.Hides) :
    first = second := by
  have scopes := ScopeStack.eq_of_scopes (states.scopes.eq_of_not_hides free)
  rcases first with ⟨stack, analysis, position⟩
  rcases second with ⟨stack', analysis', position'⟩
  rw [CheckState.mk.injEq]
  exact ⟨scopes, states.analysis, states.position⟩

theorem eq_of_outside (states : names.States called [] first second) : first = second :=
  states.eq_of_not_hides Shape.not_hides_nil

theorem depth_eq (states : names.States called shape first second) :
    first.scopes.depth = second.scopes.depth := by
  simpa [ScopeStack.scopes, ScopeStack.depth] using states.scopes.length_eq

theorem movedTo (states : names.States called shape first second) (position : Position) :
    names.States called shape (first.movedTo position) (second.movedTo position) :=
  ⟨rfl, states.analysis, states.scopes⟩

theorem entered (states : names.States called shape first second) {kind : ScopeKind}
    (plain : (Scope.empty kind).isFunction = false) :
    names.States called (shape.enter none) (first.entered kind) (second.entered kind) :=
  ⟨states.position, states.analysis, states.scopes.enter plain⟩

theorem locate?_read (states : names.States called shape first second)
    (usable : shape ≠ [] → name ≠ names.new) :
    first.scopes.locate? .function name =
      second.scopes.locate? .function (names.name shape.read name) :=
  states.scopes.locateIn_read trivial usable

theorem lookup?_called (states : names.States called shape first second)
    (calls : shape.Hides → name = names.old → called) (usable : shape ≠ [] → name ≠ names.new) :
    first.scopes.lookup? .everywhere name =
      second.scopes.lookup? .everywhere (names.name shape.call name) :=
  congrArg (·.map (·.2)) (states.scopes.locateIn_called calls usable)

theorem lookup?_steady (states : names.States called shape first second) (reach : Reach)
    (steady : names.Steady shape name) :
    first.scopes.lookup? reach name = second.scopes.lookup? reach name := by
  by_cases hides : shape.Hides
  · exact congrArg (·.map (·.2)) (states.scopes.locateIn_apart reach (steady hides))
  · rw [states.eq_of_not_hides hides]

/-- A variable can be declared in both runs or in neither of them. -/
theorem locate?_declared (states : names.States called shape first second) (id : Nat)
    (usable : shape ≠ [] → name ≠ names.new) :
    first.scopes.locate? .function name =
      second.scopes.locate? .function (names.name (some (names.declared shape id)) name) := by
  cases read : shape.read with
  | some binding =>
      rw [declared, read, Option.getD_some, ← read]
      exact states.locate?_read usable
  | none =>
      by_cases inside : shape = []
      · subst inside
        rw [names.declared_nil, names.name_kept, states.eq_of_outside]
      · by_cases isOld : name = names.old
        · subst isOld
          rcases states.scopes.locateIn_unread trivial inside read with ⟨unbound, fresh⟩
          have same : first.scopes.locate? .function names.old = _ := states.locate?_read usable
          rw [read, names.name_none] at same
          rw [Renaming.name]
          split
          · exact unbound.trans fresh.symm
          · exact same
        · rw [names.name_of_ne isOld]
          exact states.scopes.locateIn_apart .function ⟨isOld, usable inside⟩

theorem signature?_eq (states : names.States called shape first second) :
    first.scopes.signature? = second.scopes.signature? :=
  states.scopes.findSome?_signature?

theorem inLoop_eq (states : names.States called shape first second) :
    first.scopes.inLoop = second.scopes.inLoop := by
  rw [ScopeStack.inLoop, ScopeStack.inLoop, states.scopes.find?_loop]

theorem isReachable_eq (states : names.States called shape first second) :
    first.scopes.isReachable = second.scopes.isReachable :=
  states.scopes.all_reachable

theorem inner_binds (states : names.States called shape first second)
    (usable : shape ≠ [] → name ≠ names.new) :
    first.scopes.inner.binds name = second.scopes.inner.binds (names.name shape.own name) :=
  states.scopes.inner_binds usable

end States

section Combinators

variable {alike : α → α → Prop} {alike' : β → β → Prop} {action action' : Checker α}
  {rest rest' : α → Checker β}

theorem Outcomes.bind
    (outcomes : names.Outcomes called shape alike (action first) (action' second))
    (next : ∀ value other after after', action first = .ok value after →
      action' second = .ok other after' → alike value other →
      names.States called shape after after' →
      names.Outcomes called shape' alike' (rest value after) (rest' other after')) :
    names.Outcomes called shape' alike' ((action >>= rest) first) ((action' >>= rest') second) := by
  rw [bind_apply, bind_apply]
  generalize ran : action first = result, ran' : action' second = result' at outcomes
  cases outcomes with
  | ok same states => exact next _ _ _ _ ran ran' same states
  | error _ _ position analysis depth => exact .error _ _ position analysis depth

/-- What the two runs find is the same. -/
theorem Outcomes.then
    (outcomes : names.Outcomes called shape Eq (action first) (action' second))
    (next : ∀ value after after', action first = .ok value after →
      names.States called shape after after' →
      names.Outcomes called shape' alike' (rest value after) (rest' value after')) :
    names.Outcomes called shape' alike' ((action >>= rest) first) ((action' >>= rest') second) :=
  outcomes.bind fun value other after after' ran _ same states => by
    subst same
    exact next value after after' ran states

theorem Outcomes.discard
    (outcomes : names.Outcomes called shape alike (action first) (action' second)) :
    names.Outcomes called shape Eq (Functor.discard action first)
      (Functor.discard action' second) :=
  outcomes.bind fun _ _ _ _ _ _ _ states => .ok rfl states

/-- Where an action failed, and how, is forgotten. What it left behind must correspond again. -/
theorem Outcomes.attempt
    (outcomes : names.Outcomes called shape Eq (action first) (action' second))
    (left : ∀ diagnostic other after after', action first = .error diagnostic after →
      action' second = .error other after' → after.position = after'.position →
      after.analysis = after'.analysis → after.scopes.depth = after'.scopes.depth →
      names.States called shape after after') :
    names.Outcomes called shape Eq (Checker.attempt action first)
      (Checker.attempt action' second) := by
  rw [attempt_apply, attempt_apply]
  generalize ran : action first = result, ran' : action' second = result' at outcomes
  cases outcomes with
  | ok same states => exact .ok (congrArg some same) states
  | error _ _ position analysis depth =>
      exact .ok rfl (left _ _ _ _ ran ran' position analysis depth)

/-- Outside of the function, an action goes the same way as itself. -/
theorem outcomes_same (action : Checker α) (states : names.States called [] first second) :
    names.Outcomes called [] Eq (action first) (action second) := by
  rw [states.eq_of_outside]
  cases action second with
  | ok value after => exact .ok rfl (.refl after)
  | error diagnostic after => exact .error _ _ rfl rfl rfl

theorem outcomes_pure {value other : α} (same : alike value other)
    (states : names.States called shape first second) :
    names.Outcomes called shape alike ((pure value : Checker α) first)
      ((pure other : Checker α) second) :=
  .ok same states

theorem outcomes_fail (cause cause' : Cause) (states : names.States called shape first second) :
    names.Outcomes called shape' alike ((fail cause : Checker α) first)
      ((fail cause' : Checker α) second) :=
  .error _ _ states.position states.analysis states.depth_eq

theorem outcomes_require (holds : Bool) (cause cause' : Cause)
    (states : names.States called shape first second) :
    names.Outcomes called shape Eq (require holds cause first) (require holds cause' second) := by
  cases holds with
  | true => exact outcomes_pure rfl states
  | false => exact outcomes_fail cause cause' states

/-- The same rule applies in both runs, or none does. -/
theorem outcomes_follow {result result' : Except TypeFault α}
    (same : result.toOption = result'.toOption)
    (states : names.States called shape first second) :
    names.Outcomes called shape Eq (follow result first) (follow result' second) := by
  cases result with
  | error fault =>
      cases result' with
      | error fault' => exact outcomes_fail _ _ states
      | ok value => contradiction
  | ok value =>
      cases result' with
      | error fault' => contradiction
      | ok other => exact outcomes_pure (Option.some.inj same) states

/-- A rule that applies leaves the states alone. -/
theorem outcomes_afterFollow {result : Except TypeFault α}
    (states : names.States called shape first second)
    (next : ∀ value, result = .ok value →
      names.Outcomes called shape' alike' (rest value first) (rest' value second)) :
    names.Outcomes called shape' alike' ((follow result >>= rest) first)
      ((follow result >>= rest') second) := by
  cases result with
  | error fault => exact outcomes_fail _ _ states
  | ok value => exact next value rfl

theorem outcomes_forM {Item : Type} {step step' : Item → Checker Unit} (items : List Item)
    (steps : ∀ item ∈ items, ∀ first second, names.States called shape first second →
      names.Outcomes called shape Eq (step item first) (step' item second))
    (states : names.States called shape first second) :
    names.Outcomes called shape Eq (items.forM step first) (items.forM step' second) := by
  induction items generalizing first second with
  | nil => exact outcomes_pure rfl states
  | cons item rest ih =>
      refine (steps item List.mem_cons_self first second states).then fun _ _ _ _ next => ?_
      exact ih (fun later member => steps later (List.mem_cons_of_mem item member)) next

end Combinators

section Blocks

theorem outcomes_templateOr (missing : NameFault) (steady : names.Steady shape name)
    (states : names.States called shape first second) :
    names.Outcomes called shape Eq (templateOr missing name first)
      (templateOr missing name second) := by
  rw [templateOr, bind_of_ok (lookup?_apply _ _ _), bind_of_ok (lookup?_apply _ _ _),
    states.lookup?_steady .everywhere steady]
  rcases second.scopes.lookup? .everywhere name with _ | type
  · exact outcomes_fail _ _ states
  · cases type with
    | template declared => exact outcomes_pure rfl states
    | _ => exact outcomes_fail _ _ states

theorem outcomes_mentions {list : List String} (steady : ∀ name ∈ list, names.Steady shape name)
    (states : names.States called shape first second) :
    names.Outcomes called shape Eq
      (list.forM (fun name => discard (mentionedTemplate name)) first)
      (list.forM (fun name => discard (mentionedTemplate name)) second) :=
  outcomes_forM list (fun name member _ _ states =>
    (outcomes_templateOr _ (steady name member) states).discard) states

theorem outcomes_resolve {type : Ty} (steady : ∀ name, type = .named name → names.Steady shape name)
    (states : names.States called shape first second) :
    names.Outcomes called shape Eq (resolve type first) (resolve type second) := by
  unfold resolve
  split
  · refine (outcomes_templateOr _ (steady _ rfl) states).then fun template after after' _ next => ?_
    exact outcomes_pure rfl next
  · exact outcomes_pure rfl states

/-- The type that is found for an expression is looked up where it is a bare name. -/
theorem outcomes_resolved {action action' : Checker Ty}
    (outcomes : names.Outcomes called shape Eq (action first) (action' second))
    (steady : ∀ name after, action first = .ok (.named name) after → names.Steady shape name) :
    names.Outcomes called shape Eq ((resolve =<< action) first) ((resolve =<< action') second) :=
  outcomes.then fun _ after _ ran states =>
    outcomes_resolve (fun name isName => steady name after (isName ▸ ran)) states

theorem toOption_called {name name' : String} (signature : Signature) (count : Nat)
    (arity arity' : TypeFault) : (Rule.called name signature count arity).toOption =
      (Rule.called name' signature count arity').toOption := by
  unfold Rule.called
  split
  · rfl
  · split
    · rfl
    · rfl

theorem toOption_namedCallee {name name' : String} (type : Ty) (count : Nat) :
    (Rule.namedCallee name type count).toOption = (Rule.namedCallee name' type count).toOption := by
  cases type with
  | function signature => exact toOption_called signature count _ _
  | _ => rfl

theorem outcomes_calledByName (count : Nat) (calls : shape.Hides → name = names.old → called)
    (usable : shape ≠ [] → name ≠ names.new) (states : names.States called shape first second) :
    names.Outcomes called shape Eq (calledByName name count first)
      (calledByName (names.name shape.call name) count second) := by
  rw [calledByName, calledByName, bind_of_ok (lookup?_apply _ _ _),
    bind_of_ok (lookup?_apply _ _ _), states.lookup?_called calls usable]
  rcases second.scopes.lookup? .everywhere (names.name shape.call name) with _ | type
  · exact outcomes_fail _ _ states
  · exact outcomes_follow (toOption_namedCallee type count) states

theorem outcomes_declaredAttribute (template : Template) (name : String)
    (states : names.States called shape first second) :
    names.Outcomes called shape Eq (declaredAttribute template name first)
      (declaredAttribute template name second) := by
  unfold declaredAttribute
  cases template.attribute? name with
  | none => exact outcomes_fail _ _ states
  | some type => exact outcomes_pure rfl states

theorem outcomes_requireUnbound (id : Nat) (usable : shape ≠ [] → name ≠ names.new)
    (states : names.States called shape first second) :
    names.Outcomes called shape Eq (requireUnbound name first)
      (requireUnbound (names.name (some (names.declared shape id)) name) second) := by
  rw [requireUnbound, requireUnbound, bind_of_ok (scopes_apply _), bind_of_ok (scopes_apply _),
    states.locate?_declared id usable, states.depth_eq]
  rcases second.scopes.locate? .function _ with _ | ⟨depth, type⟩
  · exact outcomes_pure rfl states
  · by_cases here : depth = second.scopes.depth
    · simp only [here, if_true]
      exact outcomes_fail _ _ states
    · simp only [here, if_false]
      exact outcomes_fail _ _ states

theorem outcomes_variableType {declared : Ty} (actual : Ty)
    (steady : ∀ name ∈ declared.referencedNames, names.Steady shape name)
    (states : names.States called shape first second) :
    names.Outcomes called shape Eq (variableType declared actual first)
      (variableType declared actual second) := by
  unfold variableType
  split
  · exact outcomes_pure rfl states
  · refine (outcomes_mentions steady states).then fun _ after after' _ next => ?_
    refine outcomes_resolve (fun name isName => steady name ?_) next
    simp [isName, Ty.referencedNames]

theorem States.bind {binding : Binding} (states : names.States called shape first second)
    (usable : shape ≠ [] → name ≠ names.new)
    (allowed : binding = .renamed → shape.read ≠ some .kept) (type : Ty) :
    names.States called (names.bound shape name binding)
      { first with scopes := first.scopes.bound name type }
      { second with
        scopes := second.scopes.bound
          (names.name (names.bound shape name binding).own name) type } :=
  ⟨states.position, states.analysis, states.scopes.bind usable (fun _ => allowed) type⟩

/-- A name is bound under the renamed name. -/
theorem outcomes_define {binding : Binding} (usable : shape ≠ [] → name ≠ names.new)
    (allowed : binding = .renamed → shape.read ≠ some .kept) (type : Ty)
    (states : names.States called shape first second) :
    names.Outcomes called (names.bound shape name binding) Eq (define name type first)
      (define (names.name (names.bound shape name binding).own name) type second) := by
  have same : first.scopes.inner.binds name = second.scopes.inner.binds
      (names.name (names.bound shape name binding).own name) :=
    states.scopes.inner_binds_bound usable
  rw [define_apply, define_apply, ScopeStack.define?, ScopeStack.define?, ← same]
  cases first.scopes.inner.binds name with
  | true => exact .error _ _ states.position states.analysis states.depth_eq
  | false => exact .ok rfl (states.bind usable allowed type)

theorem allowed_kept (never : Binding.kept = .renamed) : shape.read ≠ some .kept :=
  nomatch never

/-- A name that does not stand for the variable is bound as it is. -/
theorem outcomes_defineKept (usable : shape ≠ [] → name ≠ names.new)
    (kept : (names.bound shape name .kept).own ≠ some .renamed) (type : Ty)
    (states : names.States called shape first second) :
    names.Outcomes called (names.bound shape name .kept) Eq (define name type first)
      (define name type second) := by
  have defines : names.Outcomes called (names.bound shape name .kept) Eq (define name type first)
      (define (names.name (names.bound shape name .kept).own name) type second) :=
    outcomes_define usable allowed_kept type states
  rwa [names.name_of_ne_renamed kept] at defines

theorem outcomes_addVariable (id : Nat) (type : Ty)
    (states : names.States called shape first second) :
    names.Outcomes called shape Eq (modifyAnalysis (·.addVariable id type) first)
      (modifyAnalysis (·.addVariable id type) second) :=
  .ok rfl ⟨states.position, congrArg (·.addVariable id type) states.analysis, states.scopes⟩

theorem outcomes_addFunction (id : Nat) (signature : Signature)
    (states : names.States called shape first second) :
    names.Outcomes called shape Eq (modifyAnalysis (·.addFunction id signature) first)
      (modifyAnalysis (·.addFunction id signature) second) :=
  .ok rfl ⟨states.position, congrArg (·.addFunction id signature) states.analysis, states.scopes⟩

/-- A variable stands for itself where nothing else of its name is in its way. -/
theorem read_of_declared {id : Nat} (renamed : names.declared shape id = .renamed) :
    shape.read ≠ some .kept := by
  intro read
  simp [declared, read] at renamed

theorem read_of_declared_kept {id : Nat} (kept : names.declared shape id = .kept) :
    shape.read ≠ some .renamed := by
  intro read
  simp [declared, read] at kept

/-- The name of a variable is renamed as it is bound. -/
theorem name_declared (id : Nat) :
    names.name (names.bound shape name (names.declared shape id)).own name =
      names.name (some (names.declared shape id)) name := by
  by_cases isOld : name = names.old
  case neg => rw [names.name_of_ne isOld, names.name_of_ne isOld]
  subst isOld
  rw [names.bound_old]
  cases shape with
  | nil => simp
  | cons level outer =>
      rw [Shape.bind, Shape.own_cons]
      cases bound : level.bound with
      | none => rw [Option.none_or]
      | some known => rw [Option.some_or, declared, Shape.read, bound, Option.some_or]; rfl

theorem outcomes_declareVariable (id : Nat) {declared : Ty} (actual : Ty)
    (usable : shape ≠ [] → name ≠ names.new)
    (steady : ∀ name ∈ declared.referencedNames, names.Steady shape name)
    (states : names.States called shape first second) :
    names.Outcomes called (names.bound shape name (names.declared shape id)) Eq
      (declareVariable id name declared actual first)
      (declareVariable id (names.name (some (names.declared shape id)) name) declared actual
        second) := by
  refine (outcomes_requireUnbound id usable states).then fun _ _ _ _ states => ?_
  refine (outcomes_variableType actual steady states).then fun type _ _ _ states => ?_
  have initialized (other : String) : (Rule.initializer name type actual).toOption =
      (Rule.initializer other type actual).toOption := by
    simp only [Rule.initializer, Rule.agree]
    split <;> rfl
  refine (outcomes_follow (initialized _) states).then fun _ _ _ _ states => ?_
  refine (outcomes_follow rfl states).then fun _ _ _ _ states => ?_
  rw [← name_declared id]
  exact (outcomes_define usable read_of_declared type states).then fun _ _ _ _ states =>
    outcomes_addVariable id type states

/-- A name gets another type, and stands for the same in both runs. -/
theorem outcomes_update (steady : names.Steady shape name) (type : Ty)
    (states : names.States called shape first second) :
    names.Outcomes called shape Eq (update name type first) (update name type second) := by
  refine .ok rfl ⟨states.position, states.analysis, ?_⟩
  change names.Stacked called True shape (first.scopes.update name type).scopes
    (second.scopes.update name type).scopes
  rw [ScopeStack.update, ScopeStack.update, ScopeStack.scopes_modifyInnermost,
    ScopeStack.scopes_modifyInnermost]
  refine states.scopes.modifyFirst (fun _ => rfl) (fun scope => binds_rebind scope name type) ?_
  intro hides scope
  have apart := exchange_of_apart (steady hides)
  refine ⟨?_, ?_⟩
  · have same := @lookup?_scope names scope name
    rw [apart] at same
    rw [Scope.binds, Scope.binds, same]
  · rw [scope_rebind, apart]

/-- A name of the innermost scope gets another type, under the renamed name. -/
theorem outcomes_updateInner (usable : shape ≠ [] → name ≠ names.new)
    (binds : first.scopes.inner.binds name = true) (type : Ty)
    (states : names.States called shape first second) :
    names.Outcomes called shape Eq (update name type first)
      (update (names.name shape.own name) type second) := by
  have binds' := (states.inner_binds usable).symm.trans binds
  refine .ok rfl ⟨states.position, states.analysis, ?_⟩
  change names.Stacked called True shape (first.scopes.update name type).scopes
    (second.scopes.update (names.name shape.own name) type).scopes
  rw [ScopeStack.update, ScopeStack.update, ScopeStack.modifyInnermost,
    ScopeStack.modifyInnermost, if_pos binds, if_pos binds']
  have outside (isOutside : shape = []) :
      first.scopes.inner.rebind (names.name shape.own name) type =
        first.scopes.inner.rebind name type := by
    rw [isOutside, Shape.own_nil, names.name_none]
  exact states.scopes.modifyInner (·.rebind name type)
    (·.rebind (names.name shape.own name) type) rfl (binds_rebind _ name type) outside
    fun inside => (seen_rebind (usable inside) type).symm

theorem outcomes_replaceFunction (prepared resolved : Signature)
    (usable : shape ≠ [] → name ≠ names.new) (binds : first.scopes.inner.binds name = true)
    (states : names.States called shape first second) :
    names.Outcomes called shape Eq (replaceFunction name prepared resolved first)
      (replaceFunction (names.name shape.own name) prepared resolved second) := by
  unfold replaceFunction
  split
  · exact outcomes_pure rfl states
  · exact outcomes_updateInner usable binds _ states

theorem outcomes_expectedResult (states : names.States called shape first second) :
    names.Outcomes called shape Eq (expectedResult first) (expectedResult second) := by
  rw [expectedResult_apply, expectedResult_apply, states.signature?_eq]
  cases second.scopes.signature? with
  | some signature => exact .ok rfl states
  | none => exact .error _ _ states.position states.analysis states.depth_eq

theorem outcomes_setUnreachable (states : names.States called shape first second) :
    names.Outcomes called shape Eq (modifyScopes (·.setUnreachable) first)
      (modifyScopes (·.setUnreachable) second) := by
  refine .ok rfl ⟨states.position, states.analysis, ?_⟩
  let change (scope : Scope) : Scope := { scope with reachable := false }
  have changes : names.seen shape.own (change first.scopes.inner) =
      change (names.seen shape.own first.scopes.inner) := seen_change fun _ => rfl
  exact states.scopes.modifyInner change change rfl (fun _ => rfl) (fun _ => rfl)
    fun _ => changes.symm

theorem outcomes_returnType (expected actual : Ty)
    (states : names.States called shape first second) :
    names.Outcomes called shape Eq (returnType expected actual first)
      (returnType expected actual second) := by
  have gives : names.Outcomes called shape Eq (giveResult expected actual first)
      (giveResult expected actual second) := by
    unfold giveResult
    split
    · refine .ok rfl ⟨states.position, states.analysis, ?_⟩
      change names.Stacked called True shape (first.scopes.setResult actual).scopes
        (second.scopes.setResult actual).scopes
      rw [ScopeStack.setResult, ScopeStack.setResult, ScopeStack.scopes_modifyInnermost,
        ScopeStack.scopes_modifyInnermost]
      exact states.scopes.modifyFirst (fun scope => isFunction_setResult scope actual)
        (fun scope => binds_setResult scope actual)
        fun _ scope => ⟨rfl, scope_setResult scope actual⟩
    · exact outcomes_follow rfl states
  exact gives.then fun _ _ _ _ states => outcomes_setUnreachable states

theorem outcomes_leaveRound (outside : FlowFault)
    (states : names.States called shape first second) :
    names.Outcomes called shape Eq (leaveRound outside first) (leaveRound outside second) := by
  rw [leaveRound, bind_of_ok (scopes_apply _), bind_of_ok (scopes_apply _), states.inLoop_eq]
  exact (outcomes_require _ _ _ states).then fun _ _ _ _ states => outcomes_setUnreachable states

/-- A name that stands for the same in both runs is bound as it is. -/
theorem outcomes_defineSteady (usable : shape ≠ [] → name ≠ names.new)
    (steady : names.Steady shape name) (type : Ty)
    (states : names.States called shape first second) :
    names.Outcomes called (names.bound shape name .kept) Eq (define name type first)
      (define name type second) := by
  by_cases hides : shape.Hides
  · have defines : names.Outcomes called (names.bound shape name .kept) Eq (define name type first)
        (define (names.name (names.bound shape name .kept).own name) type second) :=
      outcomes_define usable allowed_kept type states
    rwa [names.name_of_ne (steady hides).1] at defines
  · refine outcomes_defineKept usable (Shape.own_ne_of_not_hides ?_) type states
    rwa [names.hides_bound_kept]

theorem outcomes_declareTemplate (template : Template)
    (usable : shape ≠ [] → template.name ≠ names.new)
    (steady : names.Steady shape template.name)
    (types : ∀ entry ∈ template.attributes, ∀ name ∈ entry.2.referencedNames,
      names.Steady shape name)
    (states : names.States called shape first second) :
    names.Outcomes called (names.bound shape template.name .kept) Eq
      (declareTemplate template first) (declareTemplate template second) := by
  have hides : (names.bound shape template.name .kept).Hides ↔ shape.Hides :=
    names.hides_bound_kept
  rw [declareTemplate, bind_of_ok (lookup?_apply _ _ _), bind_of_ok (lookup?_apply _ _ _),
    states.lookup?_steady .everywhere steady]
  refine (outcomes_require _ _ _ states).then fun _ _ _ _ states => ?_
  refine (outcomes_defineSteady usable steady (.template template) states).then
    fun _ _ _ _ states => outcomes_forM _ ?_ states
  intro entry member first second states
  refine (outcomes_mentions (fun name among inScope => ?_) states).then fun _ _ _ _ states => ?_
  · exact types entry member name among (hides.mp inScope)
  · exact outcomes_follow rfl states

theorem outcomes_updateMethod (template : Template) (index : Nat) (signature : Signature)
    (steady : names.Steady shape template.name)
    (states : names.States called shape first second) :
    names.Outcomes called shape Eq (updateMethod template index signature first)
      (updateMethod template index signature second) :=
  (outcomes_update steady _ states).then fun _ _ _ _ states => outcomes_pure rfl states

theorem outcomes_atStmt (position : Position) {action action' : Checker Unit}
    (states : names.States called shape first second)
    (outcomes : names.Outcomes called shape' Eq (action (first.movedTo position))
      (action' (second.movedTo position))) :
    names.Outcomes called shape' Eq (atStmt position action first)
      (atStmt position action' second) := by
  cases reachable : first.scopes.isReachable with
  | false =>
      rw [atStmt_of_unreachable reachable,
        atStmt_of_unreachable (states.isReachable_eq.symm.trans reachable)]
      exact .error _ _ rfl states.analysis states.depth_eq
  | true =>
      rw [atStmt_apply reachable, atStmt_apply (states.isReachable_eq.symm.trans reachable)]
      refine outcomes.then fun _ after after' _ ended => ?_
      rw [moveTo_apply, moveTo_apply, states.position]
      exact .ok rfl (ended.movedTo second.position)

end Blocks

end Renaming

end ScriptCheck
