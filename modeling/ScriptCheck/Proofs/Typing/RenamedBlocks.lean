import ScriptCheck.Proofs.Typing.Abandoned
import ScriptCheck.Proofs.Typing.RenamedMoments
import ScriptCheck.Proofs.Typing.RenamedRuns
import ScriptCheck.Proofs.Typing.Shadowing

/-!
# Functions and blocks of renamed code

Both runs enter the same scope for a function, and leave it again. Around it the scopes are as
before, so they correspond as before. A block, a branch or a loop is entered and left likewise, and
leaves nothing behind but the result that it found for the function around.

A search passes over what it cannot type. It goes on in the scopes where it was, unless the fault
has left others behind.
-/

namespace ScriptCheck

open Checker

theorem Scope.binds_iff {scope : Scope} {name : String} :
    scope.binds name = true ↔ name ∈ scope.symbols.map (·.1) := by
  rw [binds, lookup?]
  induction scope.symbols with
  | nil => simp
  | cons symbol rest ih =>
      rw [List.lookup_cons, List.map_cons, List.mem_cons, ← ih]
      by_cases found : name = symbol.1
      · simp [found]
      · simp [found, beq_eq_false_iff_ne.mpr found]

namespace Renaming

variable {names : Renaming} {called : Prop} {shape inner inner' : Shape}
  {first second : CheckState} {name : String} {α : Type}

section Functions

variable {signature : Signature} {template : Option Template}

theorem mem_functionBinders : name ∈ (functionBinders signature template).map (·.1) ↔
    name ∈ boundNames signature template := by
  cases template with
  | none => simp [functionBinders, boundNames]
  | some declared =>
      simp [functionBinders, boundNames]
      tauto

/-- What the scope of a function binds when it is entered. -/
theorem binds_of_enterFunction {state after : CheckState}
    (ran : enterFunction signature template state = .ok () after) :
    after.scopes.inner.binds name = true ↔ name ∈ boundNames signature template := by
  rw [Scope.binds_iff, ← (scopes_of_enterFunction ran).2.2, mem_functionBinders]

theorem mem_paramNames {entries : List (String × Ty)} {entry : String × Ty}
    (member : entry ∈ entries) (mentioned : name ∈ entry.2.referencedNames) :
    name ∈ paramNames entries := by
  induction entries with
  | nil => contradiction
  | cons first rest ih =>
      rw [paramNames, List.mem_append]
      rcases List.mem_cons.mp member with rfl | later
      · exact .inl mentioned
      · exact .inr (ih later)

/-- Names are bound in a scope where the old name is known to stand for something else. -/
theorem outcomes_defineAround {outer : Shape} {isFunction : Bool}
    (fresh : name ≠ names.new) (type : Ty)
    (states : names.States called (⟨isFunction, some .kept⟩ :: outer) first second) :
    names.Outcomes called (⟨isFunction, some .kept⟩ :: outer) Eq (define name type first)
      (define name type second) := by
  have same : names.bound (⟨isFunction, some .kept⟩ :: outer) name .kept =
      ⟨isFunction, some .kept⟩ :: outer := by
    rw [bound]
    split <;> rfl
  have defines := outcomes_defineKept (fun _ => fresh) (by simp [same]) type states
  rwa [same] at defines

theorem outcomes_defineResolved {outer : Shape} {isFunction : Bool} {entries : List (String × Ty)}
    (fresh : ∀ entry ∈ entries, entry.1 ≠ names.new)
    (steady : ∀ name ∈ paramNames entries, names.Steady outer name)
    (states : names.States called (⟨isFunction, some .kept⟩ :: outer) first second) :
    names.Outcomes called (⟨isFunction, some .kept⟩ :: outer) Eq (defineResolved entries first)
      (defineResolved entries second) := by
  refine outcomes_forM entries (fun entry member first second states => ?_) states
  refine (outcomes_resolve (fun name isName hides => ?_) states).then fun _ _ _ _ states => ?_
  · refine steady name (mem_paramNames member (by simp [isName, Ty.referencedNames])) ?_
    simpa using hides
  · exact outcomes_defineAround (fresh entry member) _ states

theorem outcomes_defineMembers {outer : Shape} {isFunction : Bool}
    (fresh : names.new ∉ boundNames signature template)
    (steady : ∀ name ∈ Part.enteredNames signature template, names.Steady outer name)
    (states : names.States called (⟨isFunction, some .kept⟩ :: outer) first second) :
    names.Outcomes called (⟨isFunction, some .kept⟩ :: outer) Eq (defineMembers template first)
      (defineMembers template second) := by
  cases template with
  | none => exact outcomes_pure rfl states
  | some declared =>
      have attributes (entry : String × Ty) (member : entry ∈ declared.attributes) :
          entry.1 ≠ names.new := by
        rintro same
        refine fresh (List.mem_append_left _ (List.mem_append_left _ ?_))
        exact same ▸ List.mem_map_of_mem member
      have methods (method : String × Signature) (member : method ∈ declared.methods) :
          method.1 ≠ names.new := by
        rintro same
        refine fresh (List.mem_append_left _ (List.mem_append_right _ ?_))
        exact same ▸ List.mem_map_of_mem member
      refine (outcomes_defineResolved attributes (fun name member => steady name ?_) states).then ?_
      · exact List.mem_append_left _ member
      · intro _ _ _ _ states
        exact outcomes_forM declared.methods (fun method member _ _ states =>
          outcomes_defineAround (methods method member) _ states) states

/-- The two states correspond around a function. From within it, what is around can be called and
cannot be read. -/
structure Around (names : Renaming) (called : Prop) (shape : Shape) (first second : CheckState) :
    Prop where
  position : first.position = second.position
  analysis : first.analysis = second.analysis
  scopes : names.Stacked called False shape first.scopes.scopes second.scopes.scopes

theorem States.around (states : names.States called shape first second) :
    names.Around called shape first second :=
  ⟨states.position, states.analysis, states.scopes.mono id False.elim⟩

theorem Around.eq_of_outside (around : names.Around called [] first second) : first = second := by
  have scopes := ScopeStack.eq_of_scopes (around.scopes.eq_of_not_hides Shape.not_hides_nil)
  rcases first with ⟨stack, analysis, position⟩
  rcases second with ⟨stack', analysis', position'⟩
  rw [CheckState.mk.injEq]
  exact ⟨scopes, around.analysis, around.position⟩

/-- A function is entered. What its scope binds stands for itself. -/
theorem outcomes_enterFunction {body : Block}
    (fresh : names.function shape (boundNames signature template) body ≠ [] →
      names.new ∉ boundNames signature template)
    (steady : ∀ name ∈ Part.enteredNames signature template, names.Steady shape name)
    (around : names.Around called shape first second) :
    names.Outcomes called (names.function shape (boundNames signature template) body) Eq
      (enterFunction signature template first) (enterFunction signature template second) := by
  unfold Renaming.function at fresh ⊢
  split
  · rename_i outside
    obtain ⟨rfl, _⟩ := outside
    rw [around.eq_of_outside]
    exact outcomes_same _ (.refl second)
  rename_i inside
  rw [if_neg inside] at fresh
  have unused := fresh (List.cons_ne_nil _ _)
  -- The names are bound one after another. Until all are bound, nothing is said about calls.
  have entered : names.States False (⟨true, some .kept⟩ :: shape)
      (first.entered (.function signature)) (second.entered (.function signature)) :=
    ⟨around.position, around.analysis, (around.scopes.mono False.elim id).enterFunction (by simp)
      rfl rfl (by simp) False.elim⟩
  have binds : names.Outcomes False (⟨true, some .kept⟩ :: shape) Eq
      (enterFunction signature template first) (enterFunction signature template second) := by
    refine (outcomes_defineMembers unused steady entered).then fun _ _ _ _ states => ?_
    refine outcomes_defineResolved (fun param member same => unused ?_)
      (fun name member => steady name (List.mem_append_right _ member)) states
    exact List.mem_append_right _ (same ▸ List.mem_map_of_mem member)
  generalize ran : enterFunction signature template first = result,
    ran' : enterFunction signature template second = result' at binds
  cases binds with
  | error _ _ position analysis depth => exact .error _ _ position analysis depth
  | @ok _ _ inside inside' same states =>
      refine .ok same ⟨states.position, states.analysis, ?_⟩
      rcases scopes_of_enterFunction ran with ⟨outer, isFunction, _⟩
      rcases scopes_of_enterFunction ran' with ⟨outer', _⟩
      have inner : inside'.scopes.inner = inside.scopes.inner :=
        states.scopes.inner_eq.trans seen_kept
      have binds (name : String) : inside.scopes.inner.binds name = true ↔
          name ∈ boundNames signature template := binds_of_enterFunction ran
      rw [ScopeStack.scopes, ScopeStack.scopes, outer, outer', inner]
      refine around.scopes.enterFunction ?_ isFunction ?_ (fun isNone => ?_) fun _ isSome => ?_
      · split <;> simp
      · exact eq_false_of_ne_true fun isBound => unused ((binds _).mp isBound)
      · refine eq_false_of_ne_true fun isBound => ?_
        rw [if_pos ((binds _).mp isBound)] at isNone
        contradiction
      · split at isSome
        · rename_i isBound
          exact (binds _).mpr isBound
        · contradiction

/-- A function is left as it was entered, with what its body has found. -/
theorem outcomes_inFunction {returns returns' : Prop} {body : Block} {action action' : Checker Unit}
    (keeps : Keeps (ScopeStack.Kept returns) action)
    (keeps' : Keeps (ScopeStack.Kept returns') action')
    (fresh : names.function shape (boundNames signature template) body ≠ [] →
      names.new ∉ boundNames signature template)
    (steady : ∀ name ∈ Part.enteredNames signature template, names.Steady shape name)
    (states : names.States called shape first second)
    (bodies : ∀ inside inside', enterFunction signature template first = .ok () inside →
      names.States called (names.function shape (boundNames signature template) body) inside
        inside' → ∃ ended, names.Outcomes called ended Eq (action inside) (action' inside')) :
    names.Outcomes called shape Eq (inFunction signature template action first)
      (inFunction signature template action' second) := by
  have enters := outcomes_enterFunction fresh steady states.around
  generalize ran : enterFunction signature template first = result,
    ran' : enterFunction signature template second = result' at enters
  cases enters with
  | error _ _ position analysis depth =>
      rw [inFunction, inFunction, bind_of_error ran, bind_of_error ran']
      exact .error _ _ position analysis depth
  | @ok _ _ inside inside' _ entered =>
      rcases bodies inside inside' ran entered with ⟨ended, outcomes⟩
      generalize ranBody : action inside = result, ranBody' : action' inside' = result' at outcomes
      cases outcomes with
      | error _ _ position analysis depth =>
          rw [inFunction, inFunction, bind_of_ok ran, bind_of_ok ran', bind_of_error ranBody,
            bind_of_error ranBody']
          exact .error _ _ position analysis depth
      | @ok _ _ bodyEnd bodyEnd' _ ends =>
          rcases exit_of_inFunction keeps ran ranBody with ⟨_, found, _, nearest⟩
          have nearest' : bodyEnd'.scopes.signature? = some found :=
            ends.signature?_eq ▸ nearest
          rw [inFunction_apply keeps ran ranBody nearest,
            inFunction_apply keeps' ran' ranBody' nearest']
          exact .ok rfl ⟨ends.position, ends.analysis, states.scopes⟩

/-- A result is searched for alike where the first return statements have the same form. Around the
function less may be bound than where the search has started. -/
theorem outcomes_inferResult {around : Shape} {body : Block}
    {firstReturn firstReturn' : Option (Option Expr)} {search search' : Checker (Option Ty)}
    (same : firstReturn'.any (·.isSome) = firstReturn.any (·.isSome))
    (fresh : names.function around (boundNames signature template) body ≠ [] →
      names.new ∉ boundNames signature template)
    (steady : ∀ name ∈ Part.enteredNames signature template, names.Steady around name)
    (states : names.States called shape first second)
    (outside : signature.result.isInfer = true → firstReturn.any (·.isSome) = true →
      names.Around called around first second)
    (searches : ∀ inside inside', signature.result.isInfer = true →
      firstReturn.any (·.isSome) = true →
      enterFunction signature template first = .ok () inside →
      names.States called (names.function around (boundNames signature template) body) inside
        inside' → ∃ ended, names.Outcomes called ended Eq (search inside) (search' inside')) :
    names.Outcomes called shape Eq (inferResult signature template firstReturn search first)
      (inferResult signature template firstReturn' search' second) := by
  unfold inferResult
  rw [same]
  split
  · exact outcomes_pure rfl states
  rename_i known
  split
  · exact outcomes_pure rfl states
  rename_i none
  have isOpen : signature.result.isInfer = true := by simpa using known
  have returns : firstReturn.any (·.isSome) = true := by simpa using none
  rw [bind_of_ok (tentatively_apply _ first), bind_of_ok (tentatively_apply _ second)]
  refine outcomes_pure ?_ states
  have enters := outcomes_enterFunction fresh steady (outside isOpen returns)
  rw [bind_apply, bind_apply]
  generalize ran : enterFunction signature template first = result,
    ran' : enterFunction signature template second = result' at enters
  cases enters with
  | error => rfl
  | @ok _ _ inside inside' _ entered =>
      rcases searches inside inside' isOpen returns ran entered with ⟨ended, outcomes⟩
      simp only
      generalize search inside = result, search' inside' = result' at outcomes
      cases outcomes with
      | ok sameFound _ => rw [sameFound]
      | error => rfl

end Functions

section Scopes

/-- The scopes within a scope that is not that of a function, whatever it binds. -/
def Within (shape inner : Shape) : Prop :=
  (shape = [] ∧ inner = []) ∨ shape ≠ [] ∧ ∃ bound, inner = ⟨false, bound⟩ :: shape

theorem within_enter (shape : Shape) (bound : Option Binding) :
    Within shape (shape.enter bound) := by
  cases shape with
  | nil => exact .inl ⟨rfl, rfl⟩
  | cons level outer => exact .inr ⟨List.cons_ne_nil _ _, bound, rfl⟩

/-- The same scopes, but for what the innermost one binds. -/
def Beside (shape ended : Shape) : Prop :=
  (shape = [] ∧ ended = []) ∨
    ∃ level outer bound, shape = level :: outer ∧ ended = ⟨level.isFunction, bound⟩ :: outer

theorem Beside.refl (shape : Shape) : Beside shape shape := by
  cases shape with
  | nil => exact .inl ⟨rfl, rfl⟩
  | cons level outer => exact .inr ⟨level, outer, level.bound, rfl, rfl⟩

theorem beside_after (shape : Shape) (stmt : Stmt) : Beside shape (names.after shape stmt) := by
  cases shape with
  | nil => exact .inl ⟨rfl, names.after_nil stmt⟩
  | cons level outer =>
      rcases names.after_cons level outer stmt with ⟨bound, same⟩
      exact .inr ⟨level, outer, bound, rfl, same⟩

theorem Beside.trans {shape between ended : Shape} (first : Beside shape between)
    (second : Beside between ended) : Beside shape ended := by
  rcases first with ⟨rfl, rfl⟩ | ⟨level, outer, bound, rfl, rfl⟩
  · rcases second with second | ⟨_, _, _, impossible, _⟩
    · exact .inl second
    · contradiction
  · rcases second with ⟨impossible, _⟩ | ⟨_, _, last, same, rfl⟩
    · contradiction
    · cases same
      exact .inr ⟨level, outer, last, rfl, rfl⟩

theorem beside_afterAll (shape : Shape) (body : List Stmt) :
    Beside shape (names.afterAll shape body) := by
  induction body generalizing shape with
  | nil => exact .refl shape
  | cons first rest ih => exact (beside_after shape first).trans (ih _)

theorem Within.beside {ended : Shape} (within : Within shape inner) (beside : Beside inner ended) :
    Within shape ended := by
  rcases within with ⟨outside, rfl⟩ | ⟨inside, bound, rfl⟩
  · rcases beside with ⟨_, rfl⟩ | ⟨_, _, _, impossible, _⟩
    · exact .inl ⟨outside, rfl⟩
    · contradiction
  · rcases beside with ⟨impossible, _⟩ | ⟨_, _, last, same, rfl⟩
    · contradiction
    · cases same
      exact .inr ⟨inside, last, rfl⟩

/-- A scope is left in both runs, and it can be reached to its end in both or in neither of them. -/
theorem outcomes_exit (within : Within shape inner)
    (states : names.States called inner first second) :
    names.Outcomes called shape (fun scope other => scope.reachable = other.reachable)
      (exit first) (exit second) := by
  rcases within with ⟨rfl, rfl⟩ | ⟨inside, bound, rfl⟩
  · rw [states.eq_of_outside]
    cases exit second with
    | ok scope after => exact .ok rfl (.refl after)
    | error diagnostic after => exact .error _ _ rfl rfl rfl
  · rcases first with ⟨⟨scope, outer⟩, analysis, position⟩
    rcases second with ⟨⟨scope', outer'⟩, analysis', position'⟩
    have left : names.Stacked called True shape outer outer' := states.scopes.leave
    have same : scope'.reachable = scope.reachable :=
      congrArg Scope.reachable states.scopes.inner_eq |>.trans reachable_seen
    cases left with
    | around => contradiction
    | entered stands rest =>
        exact .ok same.symm ⟨states.position, states.analysis, .entered stands rest⟩

theorem outcomes_within {kind : ScopeKind} {action action' : Checker Unit} {body : List Stmt}
    (within : Within shape inner)
    (bodies : names.Outcomes called (names.afterAll inner body) Eq (action (first.entered kind))
      (action' (second.entered kind))) :
    names.Outcomes called shape (fun scope other => scope.reachable = other.reachable)
      (Checker.within kind action first) (Checker.within kind action' second) :=
  bodies.then fun _ _ _ _ states =>
    outcomes_exit (within.beside (beside_afterAll inner body)) states

theorem outcomes_searchBlock {entered : Shape} {bound : Option (String × Ty)}
    {search search' : Checker (Option Ty)} (within : Within shape entered)
    (binds : names.Outcomes called entered Eq (defineBound bound (first.entered .block))
      (defineBound bound (second.entered .block)))
    (searches : ∀ inside inside', defineBound bound (first.entered .block) = .ok () inside →
      names.States called entered inside inside' → ∃ ended, Beside entered ended ∧
        names.Outcomes called ended Eq (search inside) (search' inside')) :
    names.Outcomes called shape Eq (searchBlock bound search first)
      (searchBlock bound search' second) := by
  rw [searchBlock, searchBlock, bind_of_ok (enter_apply _ _), bind_of_ok (enter_apply _ _)]
  refine binds.then fun _ inside inside' ran states => ?_
  rcases searches inside inside' ran states with ⟨ended, beside, outcomes⟩
  refine outcomes.then fun found _ _ _ states => ?_
  exact (outcomes_exit (within.beside beside) states).bind fun _ _ _ _ _ _ _ states =>
    outcomes_pure rfl states

theorem within_loop (shape : Shape) (name : String) : Within shape (names.loop shape name) :=
  within_enter shape _

theorem loop_eq (shape : Shape) (name : String) :
    names.loop shape name = names.bound (shape.enter none) name .kept := by
  cases shape with
  | nil => simp
  | cons level outer =>
      rw [loop, bound]
      split <;> rfl

/-- The variable of a loop stands for itself in the scope of the loop. -/
theorem outcomes_defineLoop (usable : shape ≠ [] → name ≠ names.new) (type : Ty)
    (states : names.States called (shape.enter none) first second) :
    names.Outcomes called (names.loop shape name) Eq (define name type first)
      (define name type second) := by
  have kept : (names.loop shape name).own ≠ some .renamed := by
    cases shape with
    | nil => simp
    | cons level outer =>
        rw [loop, Shape.enter_cons, Shape.own_cons]
        split <;> simp
  rw [loop_eq] at kept ⊢
  exact outcomes_defineKept (fun inside => usable (Shape.enter_eq_nil.not.mp inside)) kept type
    states

end Scopes

section Searches

theorem binds_of_define {type : Ty} {state after : CheckState} {diagnostic : Diagnostic}
    (ran : define name type state = .error diagnostic after) :
    state.scopes.inner.binds name = true := by
  rw [define_apply] at ran
  split at ran
  · rename_i taken
    exact (ScopeStack.define?_eq_none_iff _ _ _).mp taken
  · contradiction

/-- A fault is passed over that has left no scopes behind. -/
theorem outcomes_attempt {action action' : Checker α} (unwinds : Unwinds False action)
    (unwinds' : Unwinds False action')
    (stays : ∀ diagnostic after, action first = .error diagnostic after →
      after.scopes.depth = first.scopes.depth)
    (states : names.States called shape first second)
    (outcomes : names.Outcomes called shape Eq (action first) (action' second)) :
    names.Outcomes called shape Eq (attempt action first) (attempt action' second) := by
  refine outcomes.attempt fun diagnostic other after after' ran ran' position analysis depth => ?_
  have level := stays diagnostic after ran
  have same := (unwinds.leaves _ _ _ ran).eq_of_depth level
  have same' := (unwinds'.leaves _ _ _ ran').eq_of_depth
    (depth.symm.trans (level.trans states.depth_eq))
  exact ⟨position, analysis, same ▸ same' ▸ states.scopes⟩

/-- A name that a search comes by is bound where its type is known, or passed over. -/
theorem outcomes_defineFound {binding : Binding} (type : Option Ty)
    (usable : shape ≠ [] → name ≠ names.new)
    (allowed : binding = .renamed → shape.read ≠ some .kept)
    (unhidden : type = none → binding = .kept → shape.read ≠ some .renamed)
    (free : type = none → called → name = names.old →
      first.scopes.inner.binds names.old = false → binding = .renamed ∨ shape.Hides →
        names.Unbound first.scopes.outer)
    (states : names.States called shape first second) :
    names.Outcomes called (names.bound shape name binding) Eq (defineFound name type first)
      (defineFound (names.name (names.bound shape name binding).own name) type second) := by
  cases type with
  | some type =>
      refine Outcomes.discard (Outcomes.attempt (outcomes_define usable allowed type states) ?_)
      intro diagnostic other after after' ran ran' position analysis _
      -- Where the name is taken, it stands for the same as before.
      refine ⟨position, analysis, ?_⟩
      rw [← leaves_define _ _ _ _ _ ran, ← leaves_define _ _ _ _ _ ran',
        states.scopes.bound_of_binds (binds_of_define ran)]
      exact states.scopes
  | none =>
      refine .ok rfl ⟨states.position, states.analysis, ?_⟩
      by_cases isOld : name = names.old
      case neg =>
        rw [names.bound_of_ne isOld]
        exact states.scopes
      subst isOld
      rw [names.bound_old]
      exact states.scopes.skip (fun _ => allowed) (fun _ => unhidden rfl) fun mayCall =>
        free rfl mayCall rfl

end Searches

end Renaming

end ScriptCheck
