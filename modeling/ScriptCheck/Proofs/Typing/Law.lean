import ScriptCheck.Proofs.Typing.Keeping
import ScriptCheck.Proofs.Typing.Settling
import ScriptCheck.Proofs.Typing.TypeLaw

/-!
# Laws of checks

A type in scope comes from the types that were in scope before, from those that are written in the
code, and from the templates that the code declares. So where a law holds for all of these, it holds
for every type that the check finds, whatever the code does, and the search for a first returned
value finds no other types either. What is found out about the declarations of the code is subject
to the law as well.

`Law.Upholds` is this property of a single action. A law keeps its property of a state as any
`Keeping` does, so the rules for the combinators are those of `Keeping`, and so are the building
blocks of the checker that do not look into types.
-/

namespace ScriptCheck

open Checker

/-- The law holds for the result and the parameters of a function. -/
abbrev TypeLaw.HoldsFor (law : TypeLaw) (signature : Signature) : Prop :=
  law.Holds (.function signature)

/-- A law of types, and what has to be true of all that has been found out. -/
structure Law extends TypeLaw where
  Records : Analysis → Prop

namespace Law

variable (law : Law)

/-- Whatever is found out about a variable keeps to the law. It is recorded only where the check for
hashable elements and keys has been passed. -/
def RecordsVariable (id : Nat) : Prop :=
  ∀ (analysis : Analysis) (type : Ty), law.Records analysis → law.Holds type →
    type.checkHashable = .ok () → law.Records (analysis.addVariable id type)

/-- Whatever is found out about a function keeps to the law. Its signature is recorded where the
written one has passed the check for hashable elements and keys, and only a result is found. -/
def RecordsFunction (declaration : FnDecl) : Prop :=
  ∀ (analysis : Analysis) (signature : Signature), law.Records analysis →
    law.HoldsFor signature → declaration.signature.checkHashable = .ok () →
      declaration.signature.Settles signature →
        law.Records (analysis.addFunction declaration.id signature)

/-- Whatever is found out about a method keeps to the law. -/
def RecordsMethod (id : Nat) : Prop :=
  ∀ (analysis : Analysis) (signature : Signature), law.Records analysis →
    law.HoldsFor signature → law.Records (analysis.addFunction id signature)

/-- The law holds for every template with this name and these attributes, where it holds for the
members. -/
def MayDeclare (name : String) (attributes : List (String × Ty)) : Prop :=
  ∀ template : Template, template.name = name → template.attributes = attributes →
    law.Members template → law.Holds (.template template)

/-- A template is declared within the law, also with other methods for which the law holds. -/
structure Declarable (template : Template) : Prop where
  declares : law.MayDeclare template.name template.attributes
  members : law.Members template

/-- What a part writes, declares and records by itself keeps to the law. -/
def Admits : Part → Prop
  | .type written => law.Holds written
  | .stmt (.varDecl _ id _ _ _) => law.RecordsVariable id
  | .stmt (.fnDecl declaration) => law.RecordsFunction declaration
  | .stmt (.templateDecl _ name attributes methods) =>
    law.MayDeclare name attributes ∧ ∀ method ∈ methods, law.RecordsMethod method.id
  | _ => True

/-- A part keeps to the law with everything in it. -/
def Admitted (part : Part) : Prop :=
  ∀ inner, Relation.ReflTransGen Part.Holds part inner → law.Admits inner

/-- The types in scope keep to the law. The signature of the nearest function does so where it
is kept an eye on. -/
structure Obeyed (watched : Bool) (state : CheckState) : Prop where
  symbols : ∀ symbol ∈ state.scopes.symbols, law.Holds symbol.2
  nearest : watched = true → ∀ signature, state.scopes.signature? = some signature →
    law.HoldsFor signature
  records : law.Records state.analysis

variable {α β : Type}

/-- An action that starts where the law is obeyed ends there, also where it fails, and what it finds
has the given property. -/
def Upholds (watched : Bool) (found : α → Prop) (action : Checker α) : Prop :=
  ∀ state, law.Obeyed watched state →
    match action state with
    | .ok value after => found value ∧ law.Obeyed watched after
    | .error _ after => law.Obeyed watched after

/-- The law holds for a type, if there is one. -/
def HoldsOption (type : Option Ty) : Prop :=
  ∀ found ∈ type, law.Holds found

variable {law} {watched : Bool}

theorem Admitted.of_holds {part inner : Part} (admitted : law.Admitted part)
    (holds : part.Holds inner) : law.Admitted inner :=
  fun last inside => admitted last (.head holds inside)

theorem members_no_template (declared : Template) (member : declared ∈ (none : Option Template)) :
    law.Members declared :=
  nomatch member

theorem Admitted.self {part : Part} (admitted : law.Admitted part) : law.Admits part :=
  admitted part .refl

section Keepings

/-- What a law keeps true of a state. -/
def keeping (law : Law) : Keeping where
  Bound _ := law.Holds
  Given := law.HoldsFor
  Records := law.Records
  bound_template holds := holds

theorem obeyed_iff {state : CheckState} :
    law.Obeyed watched state ↔ law.keeping.Obeyed watched state :=
  ⟨fun obeyed => ⟨obeyed.symbols, obeyed.nearest, obeyed.records⟩,
    fun obeyed => ⟨obeyed.symbols, obeyed.nearest, obeyed.records⟩⟩

theorem upholds_iff {found : α → Prop} {action : Checker α} :
    law.Upholds watched found action ↔ law.keeping.Upholds watched found action := by
  refine forall_congr' fun state => ?_
  rw [obeyed_iff]
  refine imp_congr_right fun _ => ?_
  cases action state with
  | ok value after => exact and_congr_right fun _ => obeyed_iff
  | error diagnostic after => exact obeyed_iff

theorem Upholds.of_keeping {found : α → Prop} {action : Checker α}
    (upholds : law.keeping.Upholds watched found action) : law.Upholds watched found action :=
  upholds_iff.mpr upholds

theorem Upholds.kept {found : α → Prop} {action : Checker α}
    (upholds : law.Upholds watched found action) : law.keeping.Upholds watched found action :=
  upholds_iff.mp upholds

end Keepings

section Combinators

variable {first : α → Prop} {second : β → Prop}

theorem Upholds.of_ok {action : Checker α} {state after : CheckState} {value : α}
    (upholds : law.Upholds watched first action) (obeyed : law.Obeyed watched state)
    (ran : action state = .ok value after) : first value ∧ law.Obeyed watched after := by
  have upheld := upholds state obeyed
  rw [ran] at upheld
  exact upheld

theorem Upholds.mono {weaker : α → Prop} {action : Checker α}
    (upholds : law.Upholds watched first action) (implies : ∀ value, first value → weaker value) :
    law.Upholds watched weaker action :=
  .of_keeping fun state obeyed => (upholds.kept state obeyed).mono implies

/-- What is known of every run on the values it finds. -/
theorem Upholds.of_runs {more : α → Prop} {action : Checker α}
    (upholds : law.Upholds watched first action)
    (runs : ∀ state value after, action state = .ok value after → more value) :
    law.Upholds watched (fun value => first value ∧ more value) action := by
  intro state obeyed
  have upheld := upholds state obeyed
  cases ran : action state with
  | ok value after =>
      rw [ran] at upheld
      exact ⟨⟨upheld.1, runs state value after ran⟩, upheld.2⟩
  | error diagnostic after =>
      rw [ran] at upheld
      exact upheld

theorem Upholds.bind {action : Checker α} {rest : α → Checker β}
    (upholds : law.Upholds watched first action)
    (upholdsRest : ∀ value, first value → law.Upholds watched second (rest value)) :
    law.Upholds watched second (action >>= rest) :=
  .of_keeping (upholds.kept.bind fun value holds => (upholdsRest value holds).kept)

theorem upholds_pure {value : α} (holds : first value) :
    law.Upholds watched first (pure value) :=
  .of_keeping (Keeping.upholds_pure holds)

theorem upholds_fail (cause : Cause) : law.Upholds watched first (fail cause : Checker α) :=
  .of_keeping (Keeping.upholds_fail cause)

theorem Upholds.discard {action : Checker α} (upholds : law.Upholds watched first action) :
    law.Upholds watched (fun _ => True) (Functor.discard action) :=
  .of_keeping upholds.kept.discard

theorem upholds_require (holds : Bool) (cause : Cause) :
    law.Upholds watched (fun _ => True) (require holds cause) :=
  .of_keeping (Keeping.upholds_require holds cause)

theorem upholds_follow {result : Except TypeFault α}
    (holds : ∀ value, result = .ok value → first value) :
    law.Upholds watched first (follow result) :=
  .of_keeping (Keeping.upholds_follow holds)

theorem upholds_check (result : Except TypeFault α) :
    law.Upholds watched (fun _ => True) (follow result) :=
  .of_keeping (Keeping.upholds_check result)

theorem upholds_moveTo (position : Position) :
    law.Upholds watched (fun _ => True) (moveTo position) :=
  .of_keeping (Keeping.upholds_moveTo position)

theorem upholds_addVariable {id : Nat} {type : Ty} (records : law.RecordsVariable id)
    (holds : law.Holds type) (hashable : type.checkHashable = .ok ()) :
    law.Upholds watched (fun _ => True) (modifyAnalysis (·.addVariable id type)) :=
  .of_keeping (Keeping.upholds_modifyAnalysis fun analysis recorded =>
    records analysis type recorded holds hashable)

theorem upholds_addFunction {declaration : FnDecl} {signature : Signature}
    (records : law.RecordsFunction declaration) (holds : law.HoldsFor signature)
    (hashable : declaration.signature.checkHashable = .ok ())
    (settles : declaration.signature.Settles signature) :
    law.Upholds watched (fun _ => True)
      (modifyAnalysis (·.addFunction declaration.id signature)) :=
  .of_keeping (Keeping.upholds_modifyAnalysis fun analysis recorded =>
    records analysis signature recorded holds hashable settles)

theorem upholds_addMethod {id : Nat} {signature : Signature} (records : law.RecordsMethod id)
    (holds : law.HoldsFor signature) :
    law.Upholds watched (fun _ => True) (modifyAnalysis (·.addFunction id signature)) :=
  .of_keeping (Keeping.upholds_modifyAnalysis fun analysis recorded =>
    records analysis signature recorded holds)

theorem upholds_scopes : law.Upholds watched (fun _ => True) scopes :=
  .of_keeping Keeping.upholds_scopes

theorem upholds_lookup? (reach : Reach) (name : String) :
    law.Upholds watched law.HoldsOption (lookup? reach name) :=
  .of_keeping (Keeping.upholds_lookup? reach name)

theorem upholds_define (name : String) {type : Ty} (holds : law.Holds type) :
    law.Upholds watched (fun _ => True) (define name type) :=
  .of_keeping (Keeping.upholds_define name holds)

theorem upholds_update (name : String) {type : Ty} (holds : law.Holds type) :
    law.Upholds watched (fun _ => True) (update name type) :=
  .of_keeping (Keeping.upholds_update name holds)

theorem upholds_setUnreachable :
    law.Upholds watched (fun _ => True) (modifyScopes (·.setUnreachable)) :=
  .of_keeping Keeping.upholds_setUnreachable

theorem gives_withResult {result : Ty} (holds : law.Holds result) (signature : Signature)
    (given : law.keeping.Given signature) : law.keeping.Given (signature.withResult result) :=
  law.holds_withResult given holds

theorem upholds_setResult {result : Ty} (holds : law.Holds result) :
    law.Upholds watched (fun _ => True) (modifyScopes (·.setResult result)) :=
  .of_keeping (Keeping.upholds_setResult (gives_withResult holds))

theorem upholds_attempt {action : Checker α} (upholds : law.Upholds watched first action) :
    law.Upholds watched (fun found => ∀ value ∈ found, first value) (attempt action) :=
  .of_keeping upholds.kept.attempt

end Combinators

section Blocks

theorem Obeyed.unwatched {state : CheckState} (obeyed : law.Obeyed watched state) :
    law.Obeyed false state :=
  obeyed_iff.mpr (obeyed_iff.mp obeyed).unwatched

theorem upholds_templateOr (missing : NameFault) (name : String) :
    law.Upholds watched (fun template => law.Holds (.template template))
      (templateOr missing name) :=
  .of_keeping (Keeping.upholds_templateOr missing name)

theorem upholds_mentions (names : List String) :
    law.Upholds watched (fun _ => True)
      (names.forM fun name => discard (mentionedTemplate name)) :=
  .of_keeping (Keeping.upholds_mentions names)

theorem upholds_resolve {type : Ty} (holds : law.Holds type) :
    law.Upholds watched law.Holds (resolve type) :=
  .of_keeping (Keeping.upholds_resolve holds fun _ _ bound => bound)

theorem upholds_calledByName (name : String) (count : Nat) :
    law.Upholds watched law.HoldsFor (calledByName name count) := by
  refine (upholds_lookup? .everywhere name).bind fun found holds => ?_
  split
  · exact upholds_fail _
  · exact upholds_follow fun signature typed => law.holds_namedCallee (holds _ rfl) typed

theorem upholds_calleeSignature (name : Option String) (count : Nat) {value : Checker Ty}
    (upholds : name = none → law.Upholds watched law.Holds value) :
    law.Upholds watched law.HoldsFor (calleeSignature name count value) := by
  cases name with
  | some name => exact upholds_calledByName name count
  | none =>
      refine (upholds rfl).bind fun type holds => ?_
      exact upholds_follow fun signature typed => law.holds_callee holds typed

theorem upholds_declaredAttribute {template : Template} (name : String)
    (members : law.Members template) :
    law.Upholds watched law.Holds (declaredAttribute template name) := by
  unfold declaredAttribute
  cases found : template.attribute? name with
  | none => exact upholds_fail _
  | some type => exact upholds_pure (law.holds_attribute? members found)

theorem upholds_requireUnbound (name : String) :
    law.Upholds watched (fun _ => True) (requireUnbound name) :=
  .of_keeping (Keeping.upholds_requireUnbound name)

theorem upholds_variableType {declared actual : Ty} (holdsDeclared : law.Holds declared)
    (holdsActual : law.Holds actual) :
    law.Upholds watched law.Holds (variableType declared actual) := by
  unfold variableType
  split
  · exact upholds_pure holdsActual
  · exact (upholds_mentions _).bind fun _ _ => upholds_resolve holdsDeclared

theorem upholds_declareVariable {id : Nat} (name : String) {declared actual : Ty}
    (records : law.RecordsVariable id) (holdsDeclared : law.Holds declared)
    (holdsActual : law.Holds actual) :
    law.Upholds watched (fun _ => True) (declareVariable id name declared actual) := by
  refine (upholds_requireUnbound name).bind fun _ _ => ?_
  refine (upholds_variableType holdsDeclared holdsActual).bind fun type holds => ?_
  refine (upholds_check _).bind fun _ _ => ?_
  have checked : law.Upholds watched (fun _ => type.checkHashable = .ok ())
      (follow type.checkHashable) := upholds_follow fun _ typed => typed
  refine checked.bind fun _ hashable => (upholds_define name holds).bind fun _ _ => ?_
  exact upholds_addVariable records holds hashable

theorem upholds_replaceFunction (name : String) (prepared : Signature) {resolved : Signature}
    (holds : law.HoldsFor resolved) :
    law.Upholds watched (fun _ => True) (replaceFunction name prepared resolved) :=
  .of_keeping (Keeping.upholds_replaceFunction name prepared holds)

theorem upholds_defineFound (name : String) {type : Option Ty} (holds : law.HoldsOption type) :
    law.Upholds watched (fun _ => True) (defineFound name type) :=
  .of_keeping (Keeping.upholds_defineFound name holds)

theorem upholds_expectedResult : law.Upholds watched (fun _ => True) expectedResult :=
  .of_keeping Keeping.upholds_expectedResult

theorem upholds_returnType (expected : Ty) {actual : Ty} (holds : law.Holds actual) :
    law.Upholds watched (fun _ => True) (returnType expected actual) :=
  .of_keeping (Keeping.upholds_returnType expected (gives_withResult holds))

theorem upholds_leaveRound (outside : FlowFault) :
    law.Upholds watched (fun _ => True) (leaveRound outside) :=
  .of_keeping (Keeping.upholds_leaveRound outside)

theorem upholds_declareTemplate {template : Template}
    (holds : law.Holds (.template template)) :
    law.Upholds watched (fun _ => True) (declareTemplate template) :=
  .of_keeping (Keeping.upholds_declareTemplate holds)

theorem Declarable.holds {template : Template} (declarable : law.Declarable template) :
    law.Holds (.template template) :=
  declarable.declares template rfl rfl declarable.members

theorem upholds_updateMethod {template : Template} (index : Nat) {signature : Signature}
    (declarable : law.Declarable template) (holds : law.HoldsFor signature) :
    law.Upholds watched law.Declarable (updateMethod template index signature) := by
  have updated : law.Declarable (template.setMethod index signature) :=
    ⟨declarable.declares, law.members_setMethod index declarable.members holds⟩
  exact (upholds_update template.name updated.holds).bind fun _ _ => upholds_pure updated

theorem upholds_atStmt (position : Position) {action : Checker Unit}
    (upholds : law.Upholds watched (fun _ => True) action) :
    law.Upholds watched (fun _ => True) (atStmt position action) :=
  .of_keeping fun state obeyed =>
    .atStmt obeyed (upholds.kept (state.movedTo position) (obeyed.movedTo position))

/-- The scope of a function is entered with an eye on its signature. -/
theorem ends_enterFunction {signature : Signature} {template : Option Template}
    {state : CheckState} (holds : law.HoldsFor signature)
    (members : ∀ declared ∈ template, law.Members declared)
    (obeyed : law.keeping.Obeyed watched state) :
    law.keeping.Ends true (fun _ => True) (enterFunction signature template state) := by
  refine .enterFunction obeyed holds ((Keeping.upholds_defineMembers ?_ ?_).bind fun _ _ => ?_)
  · exact fun declared among => (members declared among).1
  · exact fun declared among => (members declared among).2
  · exact Keeping.upholds_defineResolved fun param among =>
      (((law.function_iff _).mp holds).2 param among).2

theorem obeyed_enterFunction {signature : Signature} {template : Option Template}
    {state : CheckState} (holds : law.HoldsFor signature)
    (members : ∀ declared ∈ template, law.Members declared)
    (obeyed : law.Obeyed watched state) :
    match enterFunction signature template state with
    | .ok _ entered => law.Obeyed true entered
    | .error _ entered => law.Obeyed true entered := by
  have ends := ends_enterFunction holds members (obeyed_iff.mp obeyed)
  cases ran : enterFunction signature template state with
  | ok value entered =>
      rw [ran] at ends
      exact obeyed_iff.mpr ends.2
  | error diagnostic entered =>
      rw [ran] at ends
      exact obeyed_iff.mpr ends

theorem upholds_inFunction {returns : Prop} {signature : Signature} {template : Option Template}
    {body : Checker Unit} (holds : law.HoldsFor signature)
    (members : ∀ declared ∈ template, law.Members declared)
    (keeps : Keeps (ScopeStack.Kept returns) body)
    (upholds : law.Upholds true (fun _ => True) body) :
    law.Upholds watched law.HoldsFor (inFunction signature template body) :=
  .of_keeping fun _ obeyed =>
    .inFunction obeyed (ends_enterFunction holds members obeyed) keeps
      (fun inside _ entered => upholds.kept inside entered) fun _ given => law.holds_settled given

/-- A signature is prepared within the law where the search for its result is. -/
theorem upholds_inferResult {signature : Signature} {template : Option Template}
    (firstReturn : Option (Option Expr)) {search : Checker (Option Ty)}
    (holds : law.HoldsFor signature)
    (members : ∀ declared ∈ template, law.Members declared)
    (upholds : law.Upholds false law.HoldsOption search) :
    law.Upholds watched law.HoldsFor (inferResult signature template firstReturn search) :=
  .of_keeping fun _ obeyed =>
    .inferResult obeyed (ends_enterFunction holds members obeyed)
      (fun inside _ _ _ entered => upholds.kept inside entered) holds
      (law.holds_withResult holds (law.primitive _)) fun _ found => law.holds_withFound holds found

/-- A scope that is not that of a function is entered and left within the law. -/
theorem upholds_within {returns : Prop} {kind : ScopeKind} {body : Checker Unit}
    (plain : (Scope.empty kind).isFunction = false) (keeps : Keeps (ScopeStack.Kept returns) body)
    (upholds : law.Upholds watched (fun _ => True) body) :
    law.Upholds watched (fun _ => True) (within kind body) :=
  .of_keeping fun state obeyed =>
    .within plain keeps (upholds.kept (state.entered kind) (obeyed.entered plain))

/-- A block is searched within the law. -/
theorem upholds_searchBlock {bound : Option (String × Ty)} {search : Checker (Option Ty)}
    (holds : ∀ entry ∈ bound, law.Holds entry.2)
    (upholds : law.Upholds false law.HoldsOption search) :
    law.Upholds false law.HoldsOption (searchBlock bound search) :=
  .of_keeping fun _ obeyed =>
    .searchBlock obeyed holds fun inside _ entered => upholds.kept inside entered

end Blocks

end Law

end ScriptCheck
