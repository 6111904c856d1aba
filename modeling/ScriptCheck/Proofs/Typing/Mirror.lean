import ScriptCheck.Proofs.Typing.Likeness
import ScriptCheck.Proofs.Typing.Run

/-!
# Two runs that go the same way

An action mirrors itself when it has the same outcome in any two states that look alike, and the
states after it look alike again, also where it fails. Whatever the checker does to find the type
of an expression mirrors itself, because variables are only read as far as the nearest function.
Statements do so inside of a function, whose scope both runs have entered.

Names that are looked up through all scopes are the delicate places. In each of them it does not
matter which type a name has that is neither a function nor a template.
-/

namespace ScriptCheck

open Checker

namespace Likeness

variable (likeness : Likeness) {α β γ : Type}

/-- States of two runs that look alike: both are at the same statement, and the scopes that both
have entered include, from the inside out, scopes of the given shape. -/
structure States (shape : List Bool) (first second : CheckState) : Prop where
  position : first.position = second.position
  analysis : likeness.tables first.analysis second.analysis
  scopes : ∃ entered, shape.Sublist entered ∧
    likeness.Stacked entered first.scopes.scopes second.scopes.scopes

/-- Outcomes of two runs that are the same, with states that look alike. -/
inductive Outcomes (shape : List Bool) :
    EStateM.Result Diagnostic CheckState α → EStateM.Result Diagnostic CheckState α → Prop where
  | ok (value : α) {first second : CheckState} (states : likeness.States shape first second) :
      Outcomes shape (.ok value first) (.ok value second)
  | error (diagnostic : Diagnostic) {first second : CheckState}
      (states : likeness.States shape first second) :
      Outcomes shape (.error diagnostic first) (.error diagnostic second)

/-- In states that look alike, an action has the same outcome and leads to states that look
alike. -/
def Mirrors (before after : List Bool) (action : Checker α) : Prop :=
  ∀ first second, likeness.States before first second →
    likeness.Outcomes after (action first) (action second)

variable {likeness} {shape between after : List Bool}

namespace States

variable {first second : CheckState}

theorem weaken (states : likeness.States shape first second) (fewer : after.Sublist shape) :
    likeness.States after first second := by
  rcases states.scopes with ⟨entered, included, stacked⟩
  exact ⟨states.position, states.analysis, entered, fewer.trans included, stacked⟩

theorem lookup? (states : likeness.States shape first second) (reach : Reach) (name : String) :
    Option.Rel likeness.Types (first.scopes.lookup? reach name)
      (second.scopes.lookup? reach name) := by
  rcases states.scopes with ⟨entered, included, stacked⟩
  exact option_rel_map (fun _ _ related => related.2) (stacked.locateIn reach name)

theorem locate?_function (states : likeness.States shape first second)
    (inside : likeness.veiled → true ∈ shape) (name : String) :
    first.scopes.locate? .function name = second.scopes.locate? .function name := by
  rcases states.scopes with ⟨entered, included, stacked⟩
  exact stacked.locateIn_function (fun veiled => included.subset (inside veiled)) name

theorem isReachable (states : likeness.States shape first second) :
    first.scopes.isReachable = second.scopes.isReachable := by
  rcases states.scopes with ⟨entered, included, stacked⟩
  exact stacked.all_reachable

theorem signature? (states : likeness.States shape first second) (inside : true ∈ shape) :
    first.scopes.signature? = second.scopes.signature? := by
  rcases states.scopes with ⟨entered, included, stacked⟩
  exact stacked.findSome?_signature? (included.subset inside)

theorem inLoop (states : likeness.States shape first second)
    (inside : true ∈ shape ∨ likeness.sameLoops) :
    first.scopes.inLoop = second.scopes.inLoop := by
  rcases states.scopes with ⟨entered, included, stacked⟩
  have found := stacked.find?_loop (inside.imp_left fun found => included.subset found)
  simp only [ScopeStack.inLoop, found]

theorem depth_eq (states : likeness.States shape first second) :
    first.scopes.depth = second.scopes.depth := by
  rcases states.scopes with ⟨entered, included, stacked⟩
  simpa [ScopeStack.scopes, ScopeStack.depth] using stacked.length_eq

theorem inner (states : likeness.States shape first second) :
    likeness.Scopes first.scopes.inner second.scopes.inner := by
  rcases states.scopes with ⟨entered, included, stacked⟩
  exact stacked.inner

theorem modifyInner (states : likeness.States shape first second) (change : Scope → Scope)
    (isFunction : ∀ scope, (change scope).isFunction = scope.isFunction)
    (alike : likeness.Scopes (change first.scopes.inner) (change second.scopes.inner)) :
    likeness.States shape
      { first with scopes := { first.scopes with inner := change first.scopes.inner } }
      { second with scopes := { second.scopes with inner := change second.scopes.inner } } := by
  rcases states.scopes with ⟨entered, included, stacked⟩
  exact ⟨states.position, states.analysis, entered, included,
    stacked.modifyInner change (isFunction _) alike⟩

end States

theorem Mirrors.bind {action : Checker α} {rest : α → Checker β}
    (mirrors : likeness.Mirrors shape between action)
    (mirrorsRest : ∀ value, likeness.Mirrors between after (rest value))
    (fewer : after.Sublist between) : likeness.Mirrors shape after (action >>= rest) := by
  intro first second states
  have mirrored := mirrors first second states
  rw [bind_apply, bind_apply]
  generalize action first = ranFirst, action second = ranSecond at mirrored
  cases mirrored with
  | ok value alike => exact mirrorsRest value _ _ alike
  | error diagnostic alike => exact .error diagnostic (alike.weaken fewer)

theorem Mirrors.then {action : Checker α} {rest : α → Checker β}
    (mirrors : likeness.Mirrors shape shape action)
    (mirrorsRest : ∀ value, likeness.Mirrors shape shape (rest value)) :
    likeness.Mirrors shape shape (action >>= rest) :=
  mirrors.bind mirrorsRest (List.Sublist.refl shape)

/-- What is read from a state may differ, as long as it makes no difference to what follows. -/
theorem Mirrors.reading {read : Checker γ} {view : CheckState → γ} {rest : γ → Checker β}
    (reads : ∀ state, read state = .ok (view state) state)
    (same : ∀ first second, likeness.States shape first second →
      rest (view first) = rest (view second))
    (mirrors : ∀ seen, likeness.Mirrors shape after (rest seen)) :
    likeness.Mirrors shape after (read >>= rest) := by
  intro first second states
  rw [bind_of_ok (reads first), bind_of_ok (reads second), same first second states]
  exact mirrors _ first second states

/-- Of a name that is looked up through all scopes, only its existence matters, unless its type is
that of a function or a template. -/
theorem Mirrors.lookingUp {name : String} {rest : Option Ty → Checker β}
    (blind : ∀ type other, type.isValue = true → other.isValue = true →
      rest (some type) = rest (some other))
    (mirrors : ∀ found, likeness.Mirrors shape after (rest found)) :
    likeness.Mirrors shape after (Checker.lookup? .everywhere name >>= rest) := by
  refine .reading (lookup?_apply .everywhere name) ?_ mirrors
  intro first second states
  have related := states.lookup? .everywhere name
  generalize first.scopes.lookup? .everywhere name = found,
    second.scopes.lookup? .everywhere name = other at related
  cases related with
  | none => rfl
  | some types =>
      rcases types with rfl | ⟨_, firstValue, secondValue⟩
      · rfl
      · exact blind _ _ firstValue secondValue

theorem Mirrors.discard {action : Checker α} (mirrors : likeness.Mirrors shape shape action) :
    likeness.Mirrors shape shape (Functor.discard action) :=
  mirrors.then fun _ _ _ states => .ok () states

section Primitives

theorem mirrors_pure (value : α) : likeness.Mirrors shape shape (pure value) :=
  fun _ _ states => .ok value states

theorem mirrors_fail (cause : Cause) : likeness.Mirrors shape shape (fail cause : Checker α) := by
  intro first second states
  rw [fail_apply, fail_apply, states.position]
  exact .error _ states

theorem mirrors_require (holds : Bool) (cause : Cause) :
    likeness.Mirrors shape shape (require holds cause) := by
  cases holds with
  | false => exact mirrors_fail cause
  | true => exact mirrors_pure ()

theorem mirrors_follow (result : Except TypeFault α) :
    likeness.Mirrors shape shape (follow result) := by
  cases result with
  | ok value => exact mirrors_pure value
  | error fault => exact mirrors_fail _

theorem mirrors_moveTo (position : Position) : likeness.Mirrors shape shape (moveTo position) :=
  fun _ _ states => .ok () ⟨rfl, states.analysis, states.scopes⟩

theorem mirrors_addVariable (id : Nat) (type : Ty) :
    likeness.Mirrors shape shape (modifyAnalysis (·.addVariable id type)) :=
  fun _ _ states =>
    .ok () ⟨states.position, likeness.addVariable id type states.analysis, states.scopes⟩

theorem mirrors_addFunction (id : Nat) (signature : Signature) :
    likeness.Mirrors shape shape (modifyAnalysis (·.addFunction id signature)) :=
  fun _ _ states =>
    .ok () ⟨states.position, likeness.addFunction id signature states.analysis, states.scopes⟩

theorem mirrors_enter (kind : ScopeKind) :
    likeness.Mirrors shape ((Scope.empty kind).isFunction :: shape) (enter kind) := by
  intro first second states
  rcases states.scopes with ⟨entered, included, stacked⟩
  exact .ok () ⟨states.position, states.analysis, _, included.cons_cons _, .shared _ stacked⟩

theorem mirrors_exit (innermost : Bool) : likeness.Mirrors (innermost :: shape) shape exit := by
  intro first second states
  rcases states with ⟨position, analysis, entered, included, stacked⟩
  rcases first with ⟨⟨inner, outer⟩, tables, current⟩
  rcases second with ⟨⟨inner', outer'⟩, tables', current'⟩
  cases stacked with
  | base some alike => simp at included
  | @shared _ deeper _ _ rest =>
      have remaining : shape.Sublist deeper := by
        cases included with
        | cons _ skipped => exact (List.sublist_cons_self _ _).trans skipped
        | cons_cons _ matched => exact matched
      rw [exit_apply, exit_apply]
      cases outer with
      | nil => exact absurd rfl rest.ne_nil
      | cons scope outer =>
          cases outer' with
          | nil => simpa using rest.length_eq
          | cons scope' outer' => exact .ok inner ⟨position, analysis, deeper, remaining, rest⟩

theorem mirrors_define (name : String) (type : Ty) :
    likeness.Mirrors shape shape (define name type) := by
  intro first second states
  have sameBinds := states.inner.binds name
  rw [define_apply, define_apply, ScopeStack.define?, ScopeStack.define?, sameBinds]
  cases second.scopes.inner.binds name with
  | true =>
      simp only [if_true, states.position]
      exact .error _ states
  | false =>
      exact .ok () (states.modifyInner (·.bind name type) (fun _ => rfl)
        (states.inner.bind name type))

theorem mirrors_setUnreachable :
    likeness.Mirrors shape shape (modifyScopes (·.setUnreachable)) := by
  intro first second states
  have alike := states.inner
  exact .ok () (states.modifyInner (fun scope => { scope with reachable := false }) (fun _ => rfl)
    ⟨alike.isFunction, alike.isLoop, rfl, alike.names⟩)

theorem mirrors_update (name : String) (type : Ty) :
    likeness.Mirrors shape shape (update name type) := by
  intro first second states
  rcases states with ⟨position, analysis, entered, included, stacked⟩
  refine .ok () ⟨position, analysis, entered, included, ?_⟩
  simpa only [ScopeStack.update, ScopeStack.scopes_modifyInnermost]
    using stacked.modifyFirst_binds name type

theorem mirrors_setResult (inside : true ∈ shape) (result : Ty) :
    likeness.Mirrors shape shape (modifyScopes (·.setResult result)) := by
  intro first second states
  rcases states with ⟨position, analysis, entered, included, stacked⟩
  refine .ok () ⟨position, analysis, entered, included, ?_⟩
  simpa only [ScopeStack.setResult, ScopeStack.scopes_modifyInnermost]
    using stacked.modifyFirst_isFunction (included.subset inside) result

theorem mirrors_attempt {action : Checker α} (mirrors : likeness.Mirrors shape shape action) :
    likeness.Mirrors shape shape (attempt action) := by
  intro first second states
  have mirrored := mirrors first second states
  rw [attempt_apply, attempt_apply]
  generalize action first = ranFirst, action second = ranSecond at mirrored
  cases mirrored with
  | ok value alike => exact .ok (some value) alike
  | error diagnostic alike => exact .ok none alike

theorem mirrors_tentatively {action : Checker α} (mirrors : likeness.Mirrors shape after action) :
    likeness.Mirrors shape shape (tentatively action) := by
  intro first second states
  have mirrored := mirrors first second states
  rw [tentatively_apply, tentatively_apply]
  generalize action first = ranFirst, action second = ranSecond at mirrored
  cases mirrored with
  | ok value alike => exact .ok (some value) states
  | error diagnostic alike => exact .ok none states

theorem mirrors_forM {Item : Type} {step : Item → Checker Unit} (items : List Item)
    (mirrors : ∀ item, likeness.Mirrors shape shape (step item)) :
    likeness.Mirrors shape shape (items.forM step) := by
  induction items with
  | nil => exact mirrors_pure ()
  | cons item rest ih => exact (mirrors item).then fun _ => ih

end Primitives

section Blocks

theorem mirrors_templateOr (missing : NameFault) (name : String) :
    likeness.Mirrors shape shape (templateOr missing name) := by
  refine .lookingUp ?_ fun found => ?_
  · intro type other typeValue otherValue
    cases type <;> cases other <;> simp_all [Ty.isValue]
  · split
    · exact mirrors_pure _
    · exact mirrors_fail _
    · exact mirrors_fail _

theorem mirrors_mentions (names : List String) :
    likeness.Mirrors shape shape
      (names.forM fun name => Functor.discard (mentionedTemplate name)) :=
  mirrors_forM names fun name => (mirrors_templateOr (.typeNotDefined name) name).discard

theorem mirrors_resolve (type : Ty) : likeness.Mirrors shape shape (resolve type) := by
  unfold resolve
  split
  · exact (mirrors_templateOr _ _).then fun _ => mirrors_pure _
  · exact mirrors_pure _

theorem mirrors_calledByName (name : String) (count : Nat) :
    likeness.Mirrors shape shape (calledByName name count) := by
  refine .lookingUp ?_ fun found => ?_
  · intro type other typeValue otherValue
    cases type <;> cases other <;> simp_all [Ty.isValue, Rule.namedCallee]
  · split
    · exact mirrors_fail _
    · exact mirrors_follow _

theorem mirrors_calleeSignature (name : Option String) (count : Nat) {value : Checker Ty}
    (mirrors : likeness.Mirrors shape shape value) :
    likeness.Mirrors shape shape (calleeSignature name count value) := by
  cases name with
  | none => exact mirrors.then fun _ => mirrors_follow _
  | some name => exact mirrors_calledByName name count

theorem mirrors_declaredAttribute (template : Template) (name : String) :
    likeness.Mirrors shape shape (declaredAttribute template name) := by
  unfold declaredAttribute
  split
  · exact mirrors_pure _
  · exact mirrors_fail _

theorem mirrors_requireUnbound (inside : likeness.veiled → true ∈ shape) (name : String) :
    likeness.Mirrors shape shape (requireUnbound name) := by
  refine .reading scopes_apply ?_ fun stack => ?_
  · intro first second states
    rw [states.locate?_function inside, states.depth_eq]
  · split
    · exact mirrors_pure ()
    · split
      · exact mirrors_fail _
      · exact mirrors_fail _

theorem mirrors_variableType (declared actual : Ty) :
    likeness.Mirrors shape shape (variableType declared actual) := by
  unfold variableType
  split
  · exact mirrors_pure _
  · exact (mirrors_mentions _).then fun _ => mirrors_resolve declared

theorem mirrors_defineFound (name : String) (type : Option Ty) :
    likeness.Mirrors shape shape (defineFound name type) := by
  cases type with
  | none => exact mirrors_pure ()
  | some type => exact (mirrors_attempt (mirrors_define name type)).discard

theorem mirrors_replaceFunction (name : String) (prepared resolved : Signature) :
    likeness.Mirrors shape shape (replaceFunction name prepared resolved) := by
  unfold replaceFunction
  split
  · exact mirrors_pure ()
  · exact mirrors_update name _

theorem mirrors_updateMethod (template : Template) (index : Nat) (signature : Signature) :
    likeness.Mirrors shape shape (updateMethod template index signature) :=
  (mirrors_update template.name _).then fun _ => mirrors_pure _

theorem mirrors_atStmt (position : Position) {action : Checker Unit}
    (mirrors : likeness.Mirrors shape shape action) :
    likeness.Mirrors shape shape (atStmt position action) := by
  refine .reading get_apply ?_ fun state => ?_
  · intro first second states
    rw [states.position]
  · refine (mirrors_moveTo position).then fun _ => .reading scopes_apply ?_ fun stack => ?_
    · intro first second states
      rw [states.isReachable]
    · refine (mirrors_require _ _).then fun _ => ?_
      exact mirrors.then fun _ => mirrors_moveTo _

theorem mirrors_leaveRound (inside : true ∈ shape ∨ likeness.sameLoops) (outside : FlowFault) :
    likeness.Mirrors shape shape (leaveRound outside) := by
  refine .reading scopes_apply ?_ fun stack => ?_
  · intro first second states
    rw [states.inLoop inside]
  · exact (mirrors_require _ _).then fun _ => mirrors_setUnreachable

theorem mirrors_expectedResult (inside : true ∈ shape) :
    likeness.Mirrors shape shape expectedResult := by
  refine .reading scopes_apply ?_ fun stack => ?_
  · intro first second states
    rw [states.signature? inside]
  · split
    · exact mirrors_pure _
    · exact mirrors_fail _

theorem mirrors_returnType (inside : true ∈ shape) (expected actual : Ty) :
    likeness.Mirrors shape shape (returnType expected actual) := by
  refine Mirrors.then ?_ fun _ => mirrors_setUnreachable
  unfold giveResult
  split
  · exact mirrors_setResult inside actual
  · exact mirrors_follow _

theorem mirrors_declareVariable (inside : likeness.veiled → true ∈ shape) (id : Nat)
    (name : String) (declared actual : Ty) :
    likeness.Mirrors shape shape (declareVariable id name declared actual) := by
  refine (mirrors_requireUnbound inside name).then fun _ => ?_
  refine (mirrors_variableType declared actual).then fun type => ?_
  refine (mirrors_follow _).then fun _ => (mirrors_follow _).then fun _ => ?_
  exact (mirrors_define name type).then fun _ => mirrors_addVariable id type

theorem mirrors_declareTemplate (template : Template) :
    likeness.Mirrors shape shape (declareTemplate template) := by
  refine .lookingUp (fun _ _ _ _ => rfl) fun found => ?_
  refine (mirrors_require _ _).then fun _ => ?_
  refine (mirrors_define template.name _).then fun _ => mirrors_forM _ fun entry => ?_
  exact (mirrors_mentions _).then fun _ => mirrors_follow _

theorem mirrors_defineResolved (entries : List (String × Ty)) :
    likeness.Mirrors shape shape (defineResolved entries) :=
  mirrors_forM entries fun entry =>
    (mirrors_resolve entry.2).then fun type => mirrors_define entry.1 type

theorem mirrors_defineMembers (template : Option Template) :
    likeness.Mirrors shape shape (defineMembers template) := by
  cases template with
  | none => exact mirrors_pure ()
  | some declared =>
      refine (mirrors_defineResolved declared.attributes).then fun _ => ?_
      exact mirrors_forM declared.methods fun method => mirrors_define method.1 _

/-- The scope of a function is one that both runs have entered. -/
theorem mirrors_enterFunction (signature : Signature) (template : Option Template) :
    likeness.Mirrors shape (true :: shape) (enterFunction signature template) := by
  refine (mirrors_enter (.function signature)).bind (fun _ => ?_) (List.Sublist.refl _)
  exact (mirrors_defineMembers template).then fun _ => mirrors_defineResolved signature.params

theorem mirrors_inFunction (signature : Signature) (template : Option Template)
    {body : Checker Unit} (mirrors : likeness.Mirrors (true :: shape) (true :: shape) body) :
    likeness.Mirrors shape shape (inFunction signature template body) := by
  have fewer : shape.Sublist (true :: shape) := List.sublist_cons_self _ _
  refine (mirrors_enterFunction signature template).bind (fun _ => ?_) fewer
  refine mirrors.bind (fun _ => ?_) fewer
  exact (mirrors_exit true).bind (fun _ => mirrors_pure _) (List.Sublist.refl _)

theorem mirrors_inferResult (signature : Signature) (template : Option Template)
    (firstReturn : Option (Option Expr)) {search : Checker (Option Ty)}
    (mirrors : likeness.Mirrors (true :: shape) (true :: shape) search) :
    likeness.Mirrors shape shape (inferResult signature template firstReturn search) := by
  unfold inferResult
  split
  · exact mirrors_pure _
  · split
    · exact mirrors_pure _
    · have searched : likeness.Mirrors shape (true :: shape) (do
          enterFunction signature template
          search) :=
        (mirrors_enterFunction signature template).bind (fun _ => mirrors) (List.Sublist.refl _)
      exact (mirrors_tentatively searched).then fun found => mirrors_pure _

theorem mirrors_within (kind : ScopeKind) {action : Checker Unit}
    (mirrors : likeness.Mirrors ((Scope.empty kind).isFunction :: shape)
      ((Scope.empty kind).isFunction :: shape) action) :
    likeness.Mirrors shape shape (within kind action) := by
  have fewer : shape.Sublist ((Scope.empty kind).isFunction :: shape) :=
    List.sublist_cons_self _ _
  refine (mirrors_enter kind).bind (fun _ => ?_) fewer
  exact mirrors.bind (fun _ => mirrors_exit _) fewer

theorem mirrors_searchBlock (bound : Option (String × Ty)) {search : Checker (Option Ty)}
    (mirrors : likeness.Mirrors (false :: shape) (false :: shape) search) :
    likeness.Mirrors shape shape (searchBlock bound search) := by
  have fewer : shape.Sublist (false :: shape) := List.sublist_cons_self _ _
  have bounds : likeness.Mirrors (false :: shape) (false :: shape) (defineBound bound) := by
    cases bound with
    | none => exact mirrors_pure ()
    | some entry => exact mirrors_define entry.1 entry.2
  refine (mirrors_enter .block).bind (fun _ => ?_) fewer
  refine bounds.bind (fun _ => ?_) fewer
  refine mirrors.bind (fun found => ?_) fewer
  exact (mirrors_exit false).bind (fun _ => mirrors_pure _) (List.Sublist.refl _)

end Blocks

end Likeness

open Likeness

variable {likeness : Likeness}

mutual

theorem mirrors_checkExpr {shape : List Bool} (inside : likeness.veiled → true ∈ shape)
    (expr : Expr) : likeness.Mirrors shape shape (checkExpr expr) := by
  have resolved (action : Checker Ty) (mirrors : likeness.Mirrors shape shape action) :
      likeness.Mirrors shape shape (resolve =<< action) :=
    mirrors.then mirrors_resolve
  cases expr with
  | integer value => exact resolved _ (mirrors_pure _)
  | float value => exact resolved _ (mirrors_pure _)
  | string value => exact resolved _ (mirrors_pure _)
  | boolean value => exact resolved _ (mirrors_pure _)
  | null => exact resolved _ (mirrors_pure _)
  | array elements =>
      rw [checkExpr]
      refine resolved _ ((mirrors_checkElements inside "array" elements).then fun _ => ?_)
      exact mirrors_pure _
  | set elements =>
      rw [checkExpr]
      refine resolved _ ((mirrors_checkElements inside "set" elements).then fun _ => ?_)
      exact (mirrors_follow _).then fun _ => mirrors_pure _
  | map pairs =>
      rw [checkExpr]
      exact resolved _ (mirrors_checkMap inside pairs)
  | entity name attributes =>
      rw [checkExpr]
      refine resolved _ ((mirrors_templateOr _ _).then fun template => ?_)
      exact (mirrors_checkAttributes inside template attributes).then fun _ => mirrors_pure _
  | function params body =>
      rw [checkExpr]
      have within : true ∈ true :: shape := List.mem_cons_self
      refine resolved _ ((mirrors_mentions _).then fun _ => Mirrors.then ?_ fun prepared => ?_)
      · exact mirrors_inferResult _ none _ (mirrors_searchBody within body)
      · refine Mirrors.then ?_ fun _ => mirrors_pure _
        exact mirrors_inFunction prepared none (mirrors_checkBody body (.inl within))
  | identifier name =>
      rw [checkExpr]
      refine resolved _ (.reading (lookup?_apply .function name) ?_ fun found => ?_)
      · intro first second states
        rw [ScopeStack.lookup?, ScopeStack.lookup?, states.locate?_function inside]
      · split
        · exact mirrors_pure _
        · exact mirrors_fail _
  | unary operator fixity operand =>
      rw [checkExpr]
      refine resolved _ ((mirrors_follow _).then fun _ => ?_)
      exact (mirrors_checkExpr inside operand).then fun _ => mirrors_follow _
  | binary operator left right =>
      rw [checkExpr]
      refine resolved _ ((mirrors_checkExpr inside left).then fun _ => ?_)
      exact (mirrors_checkExpr inside right).then fun _ => mirrors_follow _
  | assignment target value =>
      rw [checkExpr]
      refine resolved _ ((mirrors_checkExpr inside target).then fun _ => ?_)
      exact (mirrors_checkExpr inside value).then fun _ => mirrors_follow _
  | index base index =>
      rw [checkExpr]
      refine resolved _ ((mirrors_checkExpr inside base).then fun _ => ?_)
      exact (mirrors_checkExpr inside index).then fun _ => mirrors_follow _
  | call callee arguments =>
      rw [checkExpr]
      refine resolved _ (Mirrors.then ?_ fun signature => ?_)
      · exact mirrors_calleeSignature _ _ (mirrors_checkExpr inside callee)
      · exact (mirrors_checkArguments inside signature.params arguments).then fun _ =>
          mirrors_pure _
  | member object name =>
      rw [checkExpr]
      exact resolved _ ((mirrors_checkExpr inside object).then fun _ => mirrors_follow _)
  | methodCall object name arguments =>
      rw [checkExpr]
      refine resolved _ ((mirrors_checkExpr inside object).then fun _ => ?_)
      refine (mirrors_follow _).then fun signature => ?_
      exact (mirrors_checkArguments inside signature.params arguments).then fun _ => mirrors_pure _
  termination_by structural expr

theorem mirrors_checkElements {shape : List Bool} (inside : likeness.veiled → true ∈ shape)
    (collection : String) (elements : List Expr) :
    likeness.Mirrors shape shape (checkElements collection elements) := by
  cases elements with
  | nil =>
      rw [checkElements]
      exact mirrors_pure _
  | cons first rest =>
      rw [checkElements]
      refine (mirrors_checkExpr inside first).then fun expected => ?_
      exact (mirrors_checkRest inside collection expected rest).then fun _ => mirrors_pure _
  termination_by structural elements

theorem mirrors_checkRest {shape : List Bool} (inside : likeness.veiled → true ∈ shape)
    (collection : String) (expected : Ty) (elements : List Expr) :
    likeness.Mirrors shape shape (checkRest collection expected elements) := by
  cases elements with
  | nil =>
      rw [checkRest]
      exact mirrors_pure _
  | cons next rest =>
      rw [checkRest]
      refine (mirrors_checkExpr inside next).then fun _ => (mirrors_follow _).then fun _ => ?_
      exact mirrors_checkRest inside collection expected rest
  termination_by structural elements

theorem mirrors_checkMap {shape : List Bool} (inside : likeness.veiled → true ∈ shape)
    (pairs : List (Expr × Expr)) : likeness.Mirrors shape shape (checkMap pairs) := by
  cases pairs with
  | nil =>
      rw [checkMap]
      exact mirrors_pure _
  | cons pair rest =>
      rcases pair with ⟨first, second⟩
      rw [checkMap]
      refine (mirrors_checkExpr inside first).then fun key => ?_
      refine (mirrors_checkExpr inside second).then fun value => (mirrors_follow _).then fun _ => ?_
      exact (mirrors_checkPairs inside key value rest).then fun _ => mirrors_pure _
  termination_by structural pairs

theorem mirrors_checkPairs {shape : List Bool} (inside : likeness.veiled → true ∈ shape)
    (key value : Ty) (pairs : List (Expr × Expr)) :
    likeness.Mirrors shape shape (checkPairs key value pairs) := by
  cases pairs with
  | nil =>
      rw [checkPairs]
      exact mirrors_pure _
  | cons pair rest =>
      rcases pair with ⟨first, second⟩
      rw [checkPairs]
      refine (mirrors_checkExpr inside first).then fun _ => (mirrors_follow _).then fun _ => ?_
      refine (mirrors_checkExpr inside second).then fun _ => (mirrors_follow _).then fun _ => ?_
      exact mirrors_checkPairs inside key value rest
  termination_by structural pairs

theorem mirrors_checkAttributes {shape : List Bool} (inside : likeness.veiled → true ∈ shape)
    (template : Template) (attributes : List (String × Expr)) :
    likeness.Mirrors shape shape (checkAttributes template attributes) := by
  cases attributes with
  | nil =>
      rw [checkAttributes]
      exact mirrors_pure _
  | cons entry rest =>
      rcases entry with ⟨name, expr⟩
      rw [checkAttributes]
      refine (mirrors_declaredAttribute template name).then fun _ => ?_
      refine (mirrors_checkExpr inside expr).then fun _ => (mirrors_follow _).then fun _ => ?_
      exact mirrors_checkAttributes inside template rest
  termination_by structural attributes

theorem mirrors_checkArguments {shape : List Bool} (inside : likeness.veiled → true ∈ shape)
    (params : List (String × Ty)) (arguments : List Expr) :
    likeness.Mirrors shape shape (checkArguments params arguments) := by
  cases arguments with
  | nil =>
      rw [checkArguments]
      exact mirrors_pure _
  | cons next rest =>
      cases params with
      | nil =>
          rw [checkArguments]
          exact mirrors_pure _
      | cons param others =>
          rcases param with ⟨name, expected⟩
          rw [checkArguments]
          refine (mirrors_checkExpr inside next).then fun _ => (mirrors_follow _).then fun _ => ?_
          exact mirrors_checkArguments inside others rest
  termination_by structural arguments

theorem mirrors_checkStmt {shape : List Bool} (stmt : Stmt)
    (inside : true ∈ shape ∨ (likeness.sameLoops ∧ stmt.firstReturn? = none)) :
    likeness.Mirrors shape shape (checkStmt stmt) := by
  -- Outside of a function both runs only agree on statements that return nothing, and only where
  -- they see the same loops and types.
  have sees : likeness.veiled → true ∈ shape := fun veiled =>
    inside.resolve_right fun framed => likeness.unveiled framed.1 veiled
  have rounds : true ∈ shape ∨ likeness.sameLoops := inside.imp_right And.left
  have deeper {blockReturn : Option (Option Expr)}
      (covered : stmt.firstReturn? = none → blockReturn = none) :
      true ∈ false :: shape ∨ (likeness.sameLoops ∧ blockReturn = none) :=
    inside.imp (List.mem_cons_of_mem false) (And.imp_right covered)
  cases stmt with
  | varDecl position id name declared initializer =>
      rw [checkStmt]
      refine mirrors_atStmt position ((mirrors_checkExpr sees initializer).then fun actual => ?_)
      exact mirrors_declareVariable sees id name declared actual
  | expression position expression =>
      rw [checkStmt]
      exact mirrors_atStmt position (mirrors_checkExpr sees expression).discard
  | block content =>
      rw [checkStmt]
      have body := mirrors_checkBody content
        (deeper fun never => by rwa [Stmt.firstReturn?] at never)
      exact mirrors_atStmt content.position (mirrors_within .block body).discard
  | ifElse position condition thenBlock elseBlock =>
      rw [checkStmt]
      have inThen := mirrors_checkBody thenBlock (deeper fun never => by
        rw [Stmt.firstReturn?, Option.or_eq_none_iff] at never
        exact never.1)
      have inElse := mirrors_checkElse elseBlock (inside.imp_right (And.imp_right fun never => by
        rw [Stmt.firstReturn?, Option.or_eq_none_iff] at never
        exact never.2))
      refine mirrors_atStmt position ((mirrors_checkExpr sees condition).then fun type => ?_)
      refine (mirrors_follow _).then fun _ => (mirrors_require _ _).then fun _ => ?_
      refine (mirrors_within .branch inThen).then fun first => ?_
      refine (mirrors_require _ _).then fun _ => inElse.then fun goesOn => ?_
      split
      · exact mirrors_pure ()
      · exact mirrors_setUnreachable
  | whileLoop position condition body =>
      rw [checkStmt]
      have inBody := mirrors_checkBody body
        (deeper fun never => by rwa [Stmt.firstReturn?] at never)
      refine mirrors_atStmt position ((mirrors_checkExpr sees condition).then fun type => ?_)
      exact (mirrors_follow _).then fun _ => (mirrors_within .loop inBody).discard
  | range position name first last step body =>
      rw [checkStmt]
      have inBody := mirrors_checkBody body
        (deeper fun never => by rwa [Stmt.firstReturn?] at never)
      refine mirrors_atStmt position
        ((mirrors_checkExpr sees first).then fun _ => (mirrors_follow _).then fun _ => ?_)
      refine (mirrors_checkExpr sees last).then fun _ => (mirrors_follow _).then fun _ => ?_
      refine (mirrors_checkExpr sees step).then fun _ => (mirrors_follow _).then fun _ => ?_
      exact (mirrors_within .loop ((mirrors_define name .int).then fun _ => inBody)).discard
  | each position name iterable body =>
      rw [checkStmt]
      have inBody := mirrors_checkBody body
        (deeper fun never => by rwa [Stmt.firstReturn?] at never)
      refine mirrors_atStmt position ((mirrors_checkExpr sees iterable).then fun _ => ?_)
      refine (mirrors_follow _).then fun element => ?_
      exact (mirrors_within .loop ((mirrors_define name element).then fun _ => inBody)).discard
  | halt position =>
      rw [checkStmt]
      exact mirrors_atStmt position (mirrors_leaveRound rounds .haltOutsideLoop)
  | skip position =>
      rw [checkStmt]
      exact mirrors_atStmt position (mirrors_leaveRound rounds .skipOutsideLoop)
  | returning position value =>
      rw [checkStmt]
      have entered : true ∈ shape := inside.resolve_right fun framed => by
        simp [Stmt.firstReturn?] at framed
      refine mirrors_atStmt position ((mirrors_expectedResult entered).then fun expected => ?_)
      refine (mirrors_checkReturned sees value).then fun actual => ?_
      exact mirrors_returnType entered expected actual
  | fnDecl declaration =>
      rw [checkStmt]
      exact mirrors_atStmt declaration.position (mirrors_checkFnDecl declaration)
  | echo position expression =>
      rw [checkStmt]
      exact mirrors_atStmt position (mirrors_checkExpr sees expression).discard
  | templateDecl position name attributes methods =>
      rw [checkStmt]
      refine mirrors_atStmt position ((mirrors_declareTemplate _).then fun _ => ?_)
      refine (mirrors_prepareMethods _ 0 methods).then fun prepared => ?_
      exact mirrors_checkMethods prepared 0 methods
  termination_by structural stmt

theorem mirrors_checkElse {shape : List Bool} (elseBlock : Option Block)
    (inside : true ∈ shape ∨ (likeness.sameLoops ∧ firstReturnElse? elseBlock = none)) :
    likeness.Mirrors shape shape (checkElse elseBlock) := by
  cases elseBlock with
  | none =>
      rw [checkElse]
      exact mirrors_pure _
  | some block =>
      rw [checkElse]
      rw [firstReturnElse?] at inside
      have body := mirrors_checkBody block (inside.imp_left (List.mem_cons_of_mem false))
      exact (mirrors_within .branch body).then fun _ => mirrors_pure _
  termination_by structural elseBlock

theorem mirrors_checkReturned {shape : List Bool} (inside : likeness.veiled → true ∈ shape)
    (value : Option Expr) : likeness.Mirrors shape shape (checkReturned value) := by
  cases value with
  | none =>
      rw [checkReturned]
      exact mirrors_pure _
  | some expr =>
      rw [checkReturned]
      exact mirrors_checkExpr inside expr
  termination_by structural value

theorem mirrors_checkBody {shape : List Bool} (block : Block)
    (inside : true ∈ shape ∨ (likeness.sameLoops ∧ block.firstReturn? = none)) :
    likeness.Mirrors shape shape (checkBody block) := by
  rcases block with ⟨position, body⟩
  rw [checkBody]
  rw [Block.firstReturn?] at inside
  exact mirrors_checkStmts body inside
  termination_by structural block

theorem mirrors_checkStmts {shape : List Bool} (body : List Stmt)
    (inside : true ∈ shape ∨ (likeness.sameLoops ∧ firstReturnIn? body = none)) :
    likeness.Mirrors shape shape (checkStmts body) := by
  cases body with
  | nil =>
      rw [checkStmts]
      exact mirrors_pure _
  | cons stmt rest =>
      rw [checkStmts]
      rw [firstReturnIn?, Option.or_eq_none_iff] at inside
      refine (mirrors_checkStmt stmt (inside.imp_right (And.imp_right And.left))).then fun _ => ?_
      exact mirrors_checkStmts rest (inside.imp_right (And.imp_right And.right))
  termination_by structural body

theorem mirrors_checkFnDecl {shape : List Bool} (declaration : FnDecl) :
    likeness.Mirrors shape shape (checkFnDecl declaration) := by
  rcases declaration with ⟨position, id, name, signature, body⟩
  -- Nothing is assumed of the shape here: the body runs inside of a function that is entered now.
  have within : true ∈ true :: shape := List.mem_cons_self
  rw [checkFnDecl]
  refine .reading scopes_apply ?_ fun stack => ?_
  · intro first second states
    rw [states.inner.binds name]
  · refine (mirrors_require _ _).then fun _ => (mirrors_mentions _).then fun _ => ?_
    refine (mirrors_follow _).then fun _ => (mirrors_define name _).then fun _ => ?_
    refine (mirrors_inferResult _ none _ (mirrors_searchBody within body)).then fun prepared => ?_
    refine (mirrors_update name _).then fun _ => ?_
    apply (mirrors_inFunction prepared none (mirrors_checkBody body (.inl within))).then
    intro resolved
    exact (mirrors_replaceFunction name prepared resolved).then fun _ =>
      mirrors_addFunction id resolved
  termination_by structural declaration

theorem mirrors_prepareMethods {shape : List Bool} (template : Template) (index : Nat)
    (methods : List FnDecl) :
    likeness.Mirrors shape shape (prepareMethods template index methods) := by
  cases methods with
  | nil =>
      rw [prepareMethods]
      exact mirrors_pure _
  | cons method rest =>
      rcases method with ⟨position, id, name, signature, body⟩
      have within : true ∈ true :: shape := List.mem_cons_self
      rw [prepareMethods]
      refine (mirrors_mentions _).then fun _ => Mirrors.then ?_ fun prepared => ?_
      · exact mirrors_inferResult _ (some template) _ (mirrors_searchBody within body)
      · refine (mirrors_updateMethod template index prepared).then fun updated => ?_
        exact mirrors_prepareMethods updated (index + 1) rest
  termination_by structural methods

theorem mirrors_checkMethods {shape : List Bool} (template : Template) (index : Nat)
    (methods : List FnDecl) :
    likeness.Mirrors shape shape (checkMethods template index methods) := by
  cases methods with
  | nil =>
      rw [checkMethods]
      exact mirrors_pure _
  | cons method rest =>
      rcases method with ⟨position, id, name, signature, body⟩
      have within : true ∈ true :: shape := List.mem_cons_self
      rw [checkMethods]
      refine (mirrors_inFunction _ (some template)
        (mirrors_checkBody body (.inl within))).then ?_
      intro resolved
      refine (mirrors_updateMethod template index resolved).then fun updated => ?_
      refine (mirrors_addFunction id resolved).then fun _ => ?_
      exact mirrors_checkMethods updated (index + 1) rest
  termination_by structural methods

theorem mirrors_searchBody {shape : List Bool} (inside : true ∈ shape) (block : Block) :
    likeness.Mirrors shape shape (searchBody block) := by
  rcases block with ⟨position, body⟩
  rw [searchBody]
  exact mirrors_searchStmts inside body
  termination_by structural block

theorem mirrors_searchStmts {shape : List Bool} (inside : true ∈ shape) (body : List Stmt) :
    likeness.Mirrors shape shape (searchStmts body) := by
  cases body with
  | nil =>
      rw [searchStmts]
      exact mirrors_pure _
  | cons stmt rest =>
      rw [searchStmts]
      refine (mirrors_searchStmt inside stmt).then fun found => ?_
      split
      · exact mirrors_pure _
      · exact mirrors_searchStmts inside rest
  termination_by structural body

theorem mirrors_searchStmt {shape : List Bool} (inside : true ∈ shape) (stmt : Stmt) :
    likeness.Mirrors shape shape (searchStmt stmt) := by
  have deeper : true ∈ false :: shape := List.mem_cons_of_mem false inside
  have moved {action : Checker (Option Ty)} (mirrors : likeness.Mirrors shape shape action) :
      likeness.Mirrors shape shape (moveTo stmt.position >>= fun _ => action) :=
    (mirrors_moveTo stmt.position).then fun _ => mirrors
  cases stmt with
  | returning position value =>
      rw [searchStmt]
      exact moved ((mirrors_checkReturned (fun _ => inside) value).then fun _ => mirrors_pure _)
  | varDecl position id name declared initializer =>
      rw [searchStmt]
      refine moved (Mirrors.then (mirrors_attempt ?_) fun type => ?_)
      · split
        · exact mirrors_checkExpr (fun _ => inside) initializer
        · exact mirrors_resolve declared
      · exact (mirrors_defineFound name type).then fun _ => mirrors_pure _
  | fnDecl declaration =>
      rcases declaration with ⟨position, id, name, signature, body⟩
      have within : true ∈ true :: shape := List.mem_cons_self
      rw [searchStmt]
      refine moved ((mirrors_inferResult _ none _ (mirrors_searchBody within body)).then ?_)
      intro prepared
      exact (mirrors_defineFound name _).then fun _ => mirrors_pure _
  | block content =>
      rw [searchStmt]
      exact moved (mirrors_searchBlock none (mirrors_searchBody deeper content))
  | ifElse position condition thenBlock elseBlock =>
      rw [searchStmt]
      refine moved (Mirrors.then ?_ fun found => ?_)
      · exact mirrors_searchBlock none (mirrors_searchBody deeper thenBlock)
      · split
        · exact mirrors_pure _
        · exact mirrors_searchElse inside elseBlock
  | whileLoop position condition body =>
      rw [searchStmt]
      exact moved (mirrors_searchBlock none (mirrors_searchBody deeper body))
  | range position name first last step body =>
      rw [searchStmt]
      exact moved (mirrors_searchBlock _ (mirrors_searchBody deeper body))
  | each position name iterable body =>
      rw [searchStmt]
      refine moved ((mirrors_checkExpr (fun _ => inside) iterable).then fun _ => ?_)
      refine (mirrors_follow _).then fun element => ?_
      exact mirrors_searchBlock _ (mirrors_searchBody deeper body)
  | expression position expression => exact moved (mirrors_pure none)
  | halt position => exact moved (mirrors_pure none)
  | skip position => exact moved (mirrors_pure none)
  | echo position expression => exact moved (mirrors_pure none)
  | templateDecl position name attributes methods => exact moved (mirrors_pure none)
  termination_by structural stmt

theorem mirrors_searchElse {shape : List Bool} (inside : true ∈ shape) (elseBlock : Option Block) :
    likeness.Mirrors shape shape (searchElse elseBlock) := by
  have deeper : true ∈ false :: shape := List.mem_cons_of_mem false inside
  cases elseBlock with
  | none =>
      rw [searchElse]
      exact mirrors_pure _
  | some block =>
      rw [searchElse]
      exact mirrors_searchBlock none (mirrors_searchBody deeper block)
  termination_by structural elseBlock

end

end ScriptCheck
