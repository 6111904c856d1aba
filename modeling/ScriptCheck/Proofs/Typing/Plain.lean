import ScriptCheck.Proofs.Typing.Run

/-!
# Plain faults

Most rules and most building blocks of the checker have nothing to do with the two faults that need
a closer look: a mismatch, which shows two types, and the definition of a name that the innermost
scope binds already. Their faults are plain. They are reported for the position where the building
block starts, which it does not leave.
-/

namespace ScriptCheck

/-- The two types that a mismatch shows. -/
def TypeFault.shownTypes? : TypeFault → Option (String × String)
  | .variableTypeMismatch _ declared actual => some (declared, actual)
  | .binaryTypeMismatch left right => some (left, right)
  | .assignmentTypeMismatch target value => some (target, value)
  | .returnTypeMismatch expected actual => some (expected, actual)
  | .argumentTypeMismatch expected received => some (expected, received)
  | .attributeTypeMismatch _ declared actual => some (declared, actual)
  | .invalidElementType _ expected received => some (expected, received)
  | .invalidKeyType expected received => some (expected, received)
  | .invalidValueType expected received => some (expected, received)
  | _ => none

namespace Cause

/-- The two types that are shown where types do not match. -/
def shownTypes? : Cause → Option (String × String)
  | .typing fault => fault.shownTypes?
  | _ => none

/-- No two types are shown, and no name is said to be defined already. -/
structure Plain (cause : Cause) : Prop where
  shows : cause.shownTypes? = none
  binds : ∀ name, cause ≠ .naming (.symbolAlreadyDefined name)

end Cause

variable {α β : Type}

namespace Rule

variable {fault : TypeFault}

/-- A rule that does not apply shows no two types. -/
def Plain (result : Except TypeFault α) : Prop :=
  ∀ fault, result = .error fault → fault.shownTypes? = none

theorem plain_ok (value : α) : Plain (.ok value) :=
  nofun

theorem plain_error (none : fault.shownTypes? = none) :
    Plain (.error fault : Except TypeFault α) := by
  rintro _ ⟨⟩
  exact none

theorem plain_unless {condition : Prop} [Decidable condition] {value : α}
    (none : fault.shownTypes? = none) :
    Plain (if condition then .ok value else .error fault) := by
  split
  · exact plain_ok value
  · exact plain_error none

theorem Plain.bind {result : Except TypeFault α} {rest : α → Except TypeFault β}
    (plain : Plain result) (plainRest : ∀ value, Plain (rest value)) : Plain (result >>= rest) := by
  cases result with
  | error other => exact plain_error (plain other rfl)
  | ok value => exact plainRest value

/-- Types that are compared with a fixed one. -/
theorem plain_agree {first second : Ty} (none : fault.shownTypes? = none) :
    Plain (agree first second fault) :=
  plain_unless none

theorem plain_hashableElement (empty : Bool) (type : Ty) : Plain (hashableElement empty type) :=
  plain_unless rfl

theorem plain_hashableKey (type : Ty) : Plain (hashableKey type) :=
  plain_unless rfl

theorem plain_stepOperand (operator : UnaryOp) (operand : Expr) :
    Plain (stepOperand operator operand) := by
  unfold stepOperand
  split
  · exact plain_error rfl
  · exact plain_ok ()

theorem plain_unary (operator : UnaryOp) (operand : Ty) : Plain (unary operator operand) :=
  plain_unless rfl

theorem plain_binaryResult (operator : BinaryOp) (operand : Ty) :
    Plain (binaryResult operator operand) := by
  unfold binaryResult
  simp only
  split
  · exact plain_unless rfl
  · split
    · exact plain_ok _
    · exact plain_unless rfl

theorem plain_index (base position : Ty) : Plain (index base position) := by
  apply (plain_agree rfl).bind
  intro _
  split
  · exact plain_ok _
  · exact plain_error rfl

theorem plain_iterated (type : Ty) : Plain (iterated type) := by
  unfold iterated
  split
  · exact plain_ok _
  · exact plain_error rfl

theorem plain_member (object : Ty) (name : String) : Plain (member object name) := by
  unfold member
  split
  · split
    · exact plain_ok _
    · exact plain_error rfl
  · exact plain_error rfl

theorem plain_called (name : String) (signature : Signature) (count : Nat)
    (none : fault.shownTypes? = none) : Plain (called name signature count fault) := by
  unfold called
  split
  · exact plain_error none
  · split
    · exact plain_error rfl
    · exact plain_ok _

theorem plain_callee (type : Ty) (count : Nat) : Plain (callee type count) := by
  unfold callee
  split
  · exact plain_unless rfl
  · exact plain_error rfl

theorem plain_namedCallee (name : String) (type : Ty) (count : Nat) :
    Plain (namedCallee name type count) := by
  unfold namedCallee
  split
  · exact plain_called name _ count rfl
  · exact plain_error rfl

theorem plain_method (object : Ty) (name : String) (count : Nat) :
    Plain (method object name count) := by
  unfold method
  split
  · split
    · exact plain_called name _ count rfl
    · exact plain_error rfl
  · exact plain_error rfl

end Rule

section Hashable

open Rule

mutual

theorem Ty.plain_checkHashable (type : Ty) : Plain type.checkHashable := by
  cases type with
  | set element =>
      rw [Ty.checkHashable]
      split
      · exact element.plain_checkHashable
      · exact plain_error rfl
  | map key value =>
      rw [Ty.checkHashable]
      split
      · exact key.plain_checkHashable.bind fun _ => value.plain_checkHashable
      · exact plain_error rfl
  | array element =>
      rw [Ty.checkHashable]
      exact element.plain_checkHashable
  | function signature =>
      rw [Ty.checkHashable]
      exact signature.plain_checkHashable
  | primitive primitive => exact plain_ok ()
  | named name => exact plain_ok ()
  | template template => exact plain_ok ()
  termination_by structural type

theorem Signature.plain_checkHashable (signature : Signature) :
    Plain signature.checkHashable := by
  rcases signature with ⟨result, params⟩
  rw [Signature.checkHashable]
  exact result.plain_checkHashable.bind fun _ => plain_checkHashableParams params
  termination_by structural signature

theorem plain_checkHashableParams (params : List (String × Ty)) :
    Plain (checkHashableParams params) := by
  cases params with
  | nil => exact plain_ok ()
  | cons param rest =>
      rcases param with ⟨name, type⟩
      rw [checkHashableParams]
      exact type.plain_checkHashable.bind fun _ => plain_checkHashableParams rest
  termination_by structural params

end

end Hashable

namespace Checker

variable {action : Checker α} {rest : α → Checker β}

/-- An action ends at the position where it starts, or fails there with a plain fault. -/
def Plain (action : Checker α) : Prop :=
  ∀ state,
    match action state with
    | .ok _ after => after.position = state.position
    | .error diagnostic _ => diagnostic.position = state.position ∧ diagnostic.cause.Plain

section Combinators

theorem Plain.then (plain : Plain action) (plainRest : ∀ value, Plain (rest value)) :
    Plain (action >>= rest) := by
  intro state
  have plainly := plain state
  rw [bind_apply]
  cases ran : action state with
  | error diagnostic between =>
      rw [ran] at plainly
      exact plainly
  | ok value between =>
      rw [ran] at plainly
      have plainlyRest := plainRest value between
      rw [plainly] at plainlyRest
      exact plainlyRest

theorem plain_of_ok
    (succeeds : ∀ state, ∃ value after, action state = .ok value after ∧
      after.position = state.position) : Plain action := by
  intro state
  rcases succeeds state with ⟨value, after, ran, same⟩
  rw [ran]
  exact same

theorem plain_pure (value : α) : Plain (pure value) :=
  fun _ => rfl

theorem Plain.discard (plain : Plain action) : Plain (Functor.discard action) :=
  plain.then fun _ => plain_pure ()

theorem plain_fail {cause : Cause} (plain : cause.Plain) : Plain (fail cause : Checker α) :=
  fun _ => ⟨rfl, plain⟩

theorem plain_require (holds : Bool) {cause : Cause} (plain : cause.Plain) :
    Plain (require holds cause) := by
  cases holds with
  | true => exact plain_pure ()
  | false => exact plain_fail plain

theorem plain_follow {result : Except TypeFault α} (plain : Rule.Plain result) :
    Plain (follow result) := by
  cases result with
  | error fault => exact plain_fail ⟨plain fault rfl, by simp⟩
  | ok value => exact plain_pure value

theorem plain_scopes : Plain scopes :=
  fun _ => rfl

theorem plain_lookup? (reach : Reach) (name : String) : Plain (lookup? reach name) :=
  fun _ => rfl

theorem plain_modifyScopes (change : ScopeStack → ScopeStack) : Plain (modifyScopes change) :=
  fun _ => rfl

theorem plain_modifyAnalysis (change : Analysis → Analysis) : Plain (modifyAnalysis change) :=
  fun _ => rfl

theorem plain_exit : Plain exit := by
  apply plain_scopes.then
  intro stack
  cases stack.exit? with
  | none => exact plain_fail ⟨rfl, by simp⟩
  | some found => exact (plain_modifyScopes _).then fun _ => plain_pure _

theorem plain_forM {Item : Type} {step : Item → Checker Unit} (items : List Item)
    (plain : ∀ item, Plain (step item)) : Plain (items.forM step) := by
  induction items with
  | nil => exact plain_pure ()
  | cons item rest ih => exact (plain item).then fun _ => ih

end Combinators

section Blocks

theorem plain_templateOr {missing : NameFault} (name : String)
    (other : ∀ name, missing ≠ .symbolAlreadyDefined name) : Plain (templateOr missing name) := by
  apply (plain_lookup? .everywhere name).then
  intro found
  split
  · exact plain_pure _
  · exact plain_fail ⟨rfl, by simp⟩
  · exact plain_fail ⟨rfl, by simpa using other⟩

theorem plain_mentions (names : List String) :
    Plain (names.forM fun name => Functor.discard (mentionedTemplate name)) :=
  plain_forM names fun name => (plain_templateOr name (by simp)).discard

theorem plain_resolve (type : Ty) : Plain (resolve type) := by
  unfold resolve
  split
  · exact (plain_templateOr _ (by simp)).then fun _ => plain_pure _
  · exact plain_pure _

theorem plain_inferResult (signature : Signature) (template : Option Template)
    (firstReturn : Option (Option Expr)) (search : Checker (Option Ty)) :
    Plain (inferResult signature template firstReturn search) := by
  apply plain_of_ok
  intro state
  rcases inferResult_apply signature template firstReturn search state with ⟨prepared, ran⟩
  exact ⟨prepared, state, ran, rfl⟩

theorem plain_declaredAttribute (template : Template) (name : String) :
    Plain (declaredAttribute template name) := by
  unfold declaredAttribute
  split
  · exact plain_pure _
  · exact plain_fail ⟨rfl, by simp⟩

theorem plain_calledByName (name : String) (count : Nat) : Plain (calledByName name count) := by
  apply (plain_lookup? .everywhere name).then
  intro found
  split
  · exact plain_fail ⟨rfl, by simp⟩
  · exact plain_follow (Rule.plain_namedCallee name _ count)

theorem plain_requireUnbound (name : String) : Plain (requireUnbound name) := by
  apply plain_scopes.then
  intro stack
  split
  · exact plain_pure ()
  · split
    · exact plain_fail ⟨rfl, by simp⟩
    · exact plain_fail ⟨rfl, by simp⟩

theorem plain_variableType (declared actual : Ty) : Plain (variableType declared actual) := by
  unfold variableType
  split
  · exact plain_pure _
  · exact (plain_mentions _).then fun _ => plain_resolve declared

theorem plain_expectedResult : Plain expectedResult := by
  apply plain_scopes.then
  intro stack
  split
  · exact plain_pure _
  · exact plain_fail ⟨rfl, by simp⟩

theorem plain_leaveRound (outside : FlowFault) : Plain (leaveRound outside) := by
  apply plain_scopes.then
  intro stack
  exact (plain_require _ ⟨rfl, by simp⟩).then fun _ => plain_modifyScopes _

theorem plain_replaceFunction (name : String) (prepared resolved : Signature) :
    Plain (replaceFunction name prepared resolved) := by
  unfold replaceFunction
  split
  · exact plain_pure ()
  · exact plain_modifyScopes _

theorem plain_updateMethod (template : Template) (index : Nat) (signature : Signature) :
    Plain (updateMethod template index signature) :=
  fun _ => rfl

/-- The faults of a search are caught. -/
theorem plain_prepareMethods (template : Template) (index : Nat) (methods : List FnDecl) :
    Plain (prepareMethods template index methods) := by
  induction methods generalizing template index with
  | nil =>
      rw [prepareMethods]
      exact plain_pure _
  | cons method rest ih =>
      rcases method with ⟨position, id, name, signature, body⟩
      rw [prepareMethods]
      apply (plain_mentions _).then
      intro _
      apply (plain_inferResult _ _ _ _).then
      intro prepared
      apply (plain_updateMethod template index prepared).then
      intro updated
      exact ih updated (index + 1)

end Blocks

end Checker

end ScriptCheck
