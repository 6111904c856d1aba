import ScriptCheck.Proofs.Grammar.ShownAlike
import ScriptCheck.Proofs.Typing.Holes
import ScriptCheck.Proofs.Typing.NameLaw
import ScriptCheck.Proofs.Typing.Plain

/-!
# What a mismatch shows

A mismatch shows two types that do not agree. Where the names in them are identifiers, the texts in
which they are shown differ, since types that are shown alike agree. All other faults show one type
or none.

An action discerns if it never fails with a mismatch that shows the same text twice. This is asked
of its runs from some states only: there is nothing to ask of the building blocks that compare no
types, and the others start where the names of all types in scope are identifiers.
-/

namespace ScriptCheck

namespace Cause

/-- Two types are never shown by the same text. -/
def Discerning (cause : Cause) : Prop :=
  ∀ first second, cause.shownTypes? = some (first, second) → first ≠ second

theorem discerning_of_none {cause : Cause} (none : cause.shownTypes? = none) :
    cause.Discerning := by
  intro first second shown
  rw [none] at shown
  contradiction

theorem discerning_of_some {cause : Cause} {first second : String}
    (shows : cause.shownTypes? = some (first, second)) (differ : first ≠ second) :
    cause.Discerning := by
  intro other another shown
  rw [shows] at shown
  cases shown
  exact differ

end Cause

/-- Types that do not agree are shown differently. -/
theorem Ty.display_ne {first second : Ty} (spelled : first.Spelled) (spelledSecond : second.Spelled)
    (disagree : first.agrees second = false) : first.display ≠ second.display := by
  intro alike
  rw [Ty.agrees_of_display spelled.shown spelledSecond.shown alike] at disagree
  contradiction

variable {α β : Type}

namespace Rule

variable {fault : TypeFault} {first second : Ty}

/-- A rule that does not apply shows no type twice. -/
def Discerns (result : Except TypeFault α) : Prop :=
  ∀ fault, result = .error fault → (Cause.typing fault).Discerning

theorem Plain.discerns {result : Except TypeFault α} (plain : Plain result) : Discerns result :=
  fun fault failed => Cause.discerning_of_none (plain fault failed)

theorem Discerns.bind {result : Except TypeFault α} {rest : α → Except TypeFault β}
    (discerns : Discerns result) (plainRest : ∀ value, Plain (rest value)) :
    Discerns (result >>= rest) := by
  cases result with
  | error other =>
      rintro _ ⟨⟩
      exact discerns _ rfl
  | ok value => exact (plainRest value).discerns

/-- A fault that shows the two types that were compared. -/
theorem discerns_agree (spelled : first.Spelled) (spelledSecond : second.Spelled)
    (shows : fault.shownTypes? = some (first.display, second.display)) :
    Discerns (agree first second fault) := by
  unfold agree
  split
  · exact (plain_ok ()).discerns
  · rename_i disagree
    rintro _ ⟨⟩
    exact Cause.discerning_of_some shows
      (Ty.display_ne spelled spelledSecond (Bool.eq_false_iff.mpr disagree))

/-- The expected type is shown first and compared last. -/
theorem discerns_agree_swapped (spelled : first.Spelled) (spelledSecond : second.Spelled)
    (shows : fault.shownTypes? = some (second.display, first.display)) :
    Discerns (agree first second fault) := by
  have same : agree first second fault = agree second first fault := by
    unfold agree
    rw [Ty.agrees_comm]
  rw [same]
  exact discerns_agree spelledSecond spelled shows

theorem discerns_binary (operator : BinaryOp) (spelled : first.Spelled)
    (spelledSecond : second.Spelled) : Discerns (binary operator first second) :=
  (discerns_agree spelled spelledSecond rfl).bind fun _ => plain_binaryResult operator first

theorem discerns_assignment (spelled : first.Spelled) (spelledSecond : second.Spelled) :
    Discerns (assignment first second) :=
  (discerns_agree spelled spelledSecond rfl).bind fun _ => plain_ok first

end Rule

/-- All names in the types in scope are identifiers. -/
abbrev CheckState.Spelled (state : CheckState) : Prop :=
  nameLaw.Obeyed true state

namespace Checker

variable {start : CheckState → Prop} {first : Checker α} {rest : α → Checker β}

/-- No run from such a state fails with a mismatch that shows one text twice. -/
def Discerns (start : CheckState → Prop) (action : Checker α) : Prop :=
  ∀ state diagnostic after, start state → action state = .error diagnostic after →
    diagnostic.cause.Discerning

abbrev anyState (_ : CheckState) : Prop :=
  True

section Combinators

/-- A building block with plain faults compares no types. -/
theorem Plain.discerns (plain : Plain first) : Discerns start first := by
  intro state diagnostic after _ failed
  have plainly := plain state
  rw [failed] at plainly
  exact Cause.discerning_of_none plainly.2.shows

/-- What comes after an action starts where the action has ended. -/
theorem Discerns.bindTo {next : α → CheckState → Prop} (discerns : Discerns start first)
    (passes : ∀ state value after, start state → first state = .ok value after → next value after)
    (discernsRest : ∀ value, Discerns (next value) (rest value)) :
    Discerns start (first >>= rest) := by
  intro state diagnostic after started failed
  rcases error_of_bind_eq_error failed with failedFirst | ⟨value, between, ran, failedRest⟩
  · exact discerns state diagnostic after started failedFirst
  · have reached := passes state value between started ran
    exact discernsRest value between diagnostic after reached failedRest

theorem Discerns.then (discerns : Discerns start first)
    (discernsRest : ∀ value, Discerns anyState (rest value)) : Discerns start (first >>= rest) :=
  discerns.bindTo (fun _ _ _ _ _ => trivial) discernsRest

/-- What comes after an action knows what the action finds under the law of names. -/
theorem Discerns.bind {found : α → Prop} (discerns : Discerns CheckState.Spelled first)
    (upholds : nameLaw.Upholds true found first)
    (discernsRest : ∀ value, found value → Discerns CheckState.Spelled (rest value)) :
    Discerns CheckState.Spelled (first >>= rest) := by
  have relies (value : α) :
      Discerns (fun state => found value ∧ state.Spelled) (rest value) :=
    fun state diagnostic after both => discernsRest value both.1 state diagnostic after both.2
  exact discerns.bindTo (fun state value after spelled ran => upholds.of_ok spelled ran) relies

theorem discerns_pure (value : α) : Discerns start (pure value) :=
  (plain_pure value).discerns

theorem discerns_follow {result : Except TypeFault α} (discerns : Rule.Discerns result) :
    Discerns start (follow result) := by
  cases result with
  | ok value => exact discerns_pure value
  | error fault =>
      intro state diagnostic after _ failed
      cases failed
      exact discerns fault rfl

theorem Discerns.discard (discerns : Discerns start first) :
    Discerns start (Functor.discard first) :=
  discerns.then fun _ => discerns_pure ()

theorem discerns_define (name : String) (type : Ty) : Discerns start (define name type) := by
  intro state diagnostic after _ failed
  rw [define_apply] at failed
  cases defined : state.scopes.define? name type with
  | none =>
      rw [defined] at failed
      cases failed
      exact Cause.discerning_of_none rfl
  | some extended =>
      rw [defined] at failed
      contradiction

theorem discerns_forM {Item : Type} {step : Item → Checker Unit} (items : List Item)
    (discerns : ∀ item, Discerns anyState (step item)) : Discerns anyState (items.forM step) := by
  induction items with
  | nil => exact discerns_pure ()
  | cons item rest ih => exact (discerns item).then fun _ => ih

end Combinators

/-! ### Names are bound -/

section Definitions

theorem discerns_defineResolved (entries : List (String × Ty)) :
    Discerns anyState (defineResolved entries) := by
  apply discerns_forM
  intro entry
  exact (plain_resolve entry.2).discerns.then fun _ => discerns_define _ _

theorem discerns_enterFunction (signature : Signature) (template : Option Template) :
    Discerns start (enterFunction signature template) := by
  have members : Discerns anyState (defineMembers template) := by
    cases template with
    | none => exact discerns_pure ()
    | some declared =>
        apply (discerns_defineResolved declared.attributes).then
        intro _
        exact discerns_forM declared.methods fun method => discerns_define _ _
  apply Discerns.then (plain_modifyScopes _).discerns
  intro _
  exact members.then fun _ => discerns_defineResolved signature.params

theorem discerns_declareTemplate (template : Template) :
    Discerns start (declareTemplate template) := by
  apply (plain_lookup? _ _).discerns.then
  intro found
  apply (plain_require _ ⟨rfl, by simp⟩).discerns.then
  intro _
  apply (discerns_define _ _).then
  intro _
  apply Plain.discerns
  apply plain_forM
  intro entry
  exact (plain_mentions _).then fun _ => plain_follow entry.2.plain_checkHashable

end Definitions

/-! ### Where types are compared -/

section Spelled

variable {body : Checker Unit}

/-- What comes after an expression knows a type under the law. -/
theorem Discerns.typed {expr : Expr} {rest : Ty → Checker β}
    (discerns : Discerns CheckState.Spelled (checkExpr expr))
    (admitted : nameLaw.Admitted (.expr expr))
    (discernsRest : ∀ type : Ty, type.Spelled → Discerns CheckState.Spelled (rest type)) :
    Discerns CheckState.Spelled (checkExpr expr >>= rest) :=
  discerns.bind (Law.upholds_checkExpr expr admitted) discernsRest

theorem discerns_check {result : Except TypeFault α} (discerns : Rule.Discerns result)
    (discernsRest : ∀ value, Discerns CheckState.Spelled (rest value)) :
    Discerns CheckState.Spelled (follow result >>= rest) :=
  (discerns_follow discerns).bind (Law.upholds_check result) fun value _ => discernsRest value

theorem discerns_declareVariable (id : Nat) (name : String) {declared actual : Ty}
    (spelledDeclared : declared.Spelled) (spelled : actual.Spelled) :
    Discerns CheckState.Spelled (declareVariable id name declared actual) := by
  apply (plain_requireUnbound name).discerns.bind (Law.upholds_requireUnbound name)
  intro _ _
  apply (plain_variableType declared actual).discerns.bind
    (Law.upholds_variableType spelledDeclared spelled)
  intro type spelledType
  apply (discerns_follow (Rule.discerns_agree spelledType spelled rfl)).then
  intro _
  apply (plain_follow type.plain_checkHashable).discerns.then
  intro _
  exact (discerns_define name type).then fun _ => (plain_modifyAnalysis _).discerns

/-- The result of the nearest function is a type under the law as well. -/
theorem spelled_expectedResult : nameLaw.Upholds true Ty.Spelled expectedResult := by
  intro state spelled
  rw [expectedResult_apply]
  cases nearest : state.scopes.signature? with
  | none => exact spelled
  | some signature =>
      have holds := spelled.nearest rfl signature nearest
      exact ⟨((nameLaw.function_iff signature).mp holds).1, spelled⟩

theorem discerns_returnType {expected actual : Ty} (spelledExpected : expected.Spelled)
    (spelled : actual.Spelled) : Discerns start (returnType expected actual) := by
  have gives : Discerns start (giveResult expected actual) := by
    unfold giveResult
    split
    · exact (plain_modifyScopes _).discerns
    · exact discerns_follow (Rule.discerns_agree spelledExpected spelled rfl)
  exact gives.then fun _ => (plain_modifyScopes _).discerns

theorem discerns_atStmt (position : Position) (discerns : Discerns CheckState.Spelled body) :
    Discerns CheckState.Spelled (atStmt position body) := by
  intro state diagnostic after spelled failed
  cases reachable : state.scopes.isReachable with
  | false =>
      rw [atStmt_of_unreachable reachable] at failed
      cases failed
      exact Cause.discerning_of_none rfl
  | true =>
      rw [atStmt_apply reachable] at failed
      have moved : (state.movedTo position).Spelled :=
        Law.obeyed_iff.mpr ((Law.obeyed_iff.mp spelled).movedTo position)
      have whole : Discerns CheckState.Spelled (body >>= fun _ => moveTo state.position) := by
        apply discerns.then
        intro _ last other final _ failedMove
        cases failedMove
      exact whole _ diagnostic after moved failed

theorem discerns_within {kind : ScopeKind} (plain : (Scope.empty kind).isFunction = false)
    (discerns : Discerns CheckState.Spelled body) :
    Discerns CheckState.Spelled (within kind body) := by
  have enters (state : CheckState) (value : Unit) (inside : CheckState) (spelled : state.Spelled)
      (entered : enter kind state = .ok value inside) : inside.Spelled := by
    cases entered
    exact Law.obeyed_iff.mpr ((Law.obeyed_iff.mp spelled).entered plain)
  apply Discerns.bindTo (plain_modifyScopes _).discerns enters
  intro _
  exact discerns.then fun _ => plain_exit.discerns

/-- The variable of a loop has a type under the law. -/
theorem discerns_loop (name : String) {type : Ty} (spelled : type.Spelled)
    (discerns : Discerns CheckState.Spelled body) :
    Discerns CheckState.Spelled (within .loop do define name type; body) := by
  apply discerns_within rfl
  apply (discerns_define name type).bind (Law.upholds_define name spelled)
  intro _ _
  exact discerns

theorem discerns_inFunction {signature : Signature} {template : Option Template}
    (holds : nameLaw.HoldsFor signature)
    (members : ∀ declared ∈ template, nameLaw.Members declared)
    (discerns : Discerns CheckState.Spelled body) :
    Discerns CheckState.Spelled (inFunction signature template body) := by
  have enters (state : CheckState) (value : Unit) (inside : CheckState) (spelled : state.Spelled)
      (entered : enterFunction signature template state = .ok value inside) : inside.Spelled := by
    have obeyed := Law.obeyed_enterFunction holds members spelled
    rw [entered] at obeyed
    exact obeyed
  apply (discerns_enterFunction signature template).bindTo enters
  intro _
  apply discerns.then
  intro _
  exact plain_exit.discerns.then fun _ => discerns_pure _

end Spelled

end Checker

end ScriptCheck
