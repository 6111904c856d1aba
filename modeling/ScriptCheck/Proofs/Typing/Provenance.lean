import ScriptCheck.Proofs.Typing.Mention
import ScriptCheck.Proofs.Typing.Upholding

/-!
# Where types come from

The law that types mention what is allowed makes no difference between types with the same mentions,
and a template is allowed by itself, whatever its members are. `Limits` is this law together with
what has been found out: every type that a check finds comes from the types that were in scope
before, from those that are written in the code, and from the templates that the code declares.
-/

namespace ScriptCheck

open Checker

/-- What types may mention, and what may have been found out. -/
structure Limits where
  mentions : Mention → Prop
  records : Analysis → Prop

namespace Limits

variable (limits : Limits)

/-- Whatever is found out about a variable keeps to the limits. -/
def RecordsVariable (id : Nat) : Prop :=
  ∀ (analysis : Analysis) (type : Ty), limits.records analysis → type.Within limits.mentions →
    limits.records (analysis.addVariable id type)

/-- Whatever is found out about a function keeps to the limits. -/
def RecordsFunction (id : Nat) : Prop :=
  ∀ (analysis : Analysis) (signature : Signature), limits.records analysis →
    signature.Within limits.mentions → limits.records (analysis.addFunction id signature)

/-- Every template with this name and these attributes may be mentioned. -/
def MayDeclare (name : String) (attributes : List (String × Ty)) : Prop :=
  ∀ template : Template, template.name = name → template.attributes = attributes →
    limits.mentions (.template template)

/-- What a part writes, declares and records by itself keeps to the limits. -/
def Admits : Part → Prop
  | .type written => written.Within limits.mentions
  | .stmt (.varDecl _ id _ _ _) => limits.RecordsVariable id
  | .stmt (.fnDecl declaration) => limits.RecordsFunction declaration.id
  | .stmt (.templateDecl _ name attributes methods) =>
    limits.MayDeclare name attributes ∧ ∀ method ∈ methods, limits.RecordsFunction method.id
  | _ => True

/-- A part keeps to the limits with everything in it. -/
def Admitted (part : Part) : Prop :=
  ∀ inner, Relation.ReflTransGen Part.Holds part inner → limits.Admits inner

/-- The types in scope keep to the limits. The signature of the nearest function does so where it
is kept an eye on. -/
structure Obeyed (watched : Bool) (state : CheckState) : Prop where
  symbols : ∀ symbol ∈ state.scopes.symbols, symbol.2.Within limits.mentions
  nearest : watched = true → ∀ signature, state.scopes.signature? = some signature →
    signature.Within limits.mentions
  records : limits.records state.analysis

variable {α β : Type}

/-- An action that starts within the limits stays within them, also where it fails, and what it
finds has the given property. -/
def Upholds (watched : Bool) (found : α → Prop) (action : Checker α) : Prop :=
  ∀ state, limits.Obeyed watched state →
    match action state with
    | .ok value after => found value ∧ limits.Obeyed watched after
    | .error _ after => limits.Obeyed watched after

/-- A type that keeps to the limits, if there is one. -/
def WithinOption (type : Option Ty) : Prop :=
  ∀ found ∈ type, found.Within limits.mentions

variable {limits} {watched : Bool}

theorem Admitted.of_holds {part inner : Part} (admitted : limits.Admitted part)
    (holds : part.Holds inner) : limits.Admitted inner :=
  fun last within => admitted last (.head holds within)

theorem Admitted.self {part : Part} (admitted : limits.Admitted part) : limits.Admits part :=
  admitted part .refl

theorem within_no_template (declared : Template) (member : declared ∈ (none : Option Template)) :
    declared.Within limits.mentions :=
  nomatch member

section Laws

/-- The limits as a law. -/
def law (limits : Limits) : Law where
  toTypeLaw := mentionLaw limits.mentions
  Records := limits.records

theorem obeyed_iff {state : CheckState} :
    limits.Obeyed watched state ↔ limits.law.Obeyed watched state := by
  constructor
  · intro obeyed
    refine ⟨obeyed.symbols, fun eye signature found => ?_, obeyed.records⟩
    exact (Ty.within_function signature).mpr (obeyed.nearest eye signature found)
  · intro obeyed
    refine ⟨obeyed.symbols, fun eye signature found => ?_, obeyed.records⟩
    exact (Ty.within_function signature).mp (obeyed.nearest eye signature found)

theorem upholds_iff {found : α → Prop} {action : Checker α} :
    limits.Upholds watched found action ↔ limits.law.Upholds watched found action := by
  refine forall_congr' fun state => ?_
  rw [obeyed_iff]
  refine imp_congr_right fun _ => ?_
  cases action state with
  | ok value after => exact and_congr_right fun _ => obeyed_iff
  | error diagnostic after => exact obeyed_iff

theorem MayDeclare.law {name : String} {attributes : List (String × Ty)}
    (declares : limits.MayDeclare name attributes) : limits.law.MayDeclare name attributes :=
  fun template sameName sameAttributes members => (Ty.within_template template).mpr
    ⟨declares template sameName sameAttributes, (mentionLaw_members template).mp members⟩

/-- What is recorded for a method keeps to the law. -/
theorem RecordsFunction.method {id : Nat} (records : limits.RecordsFunction id) :
    limits.law.RecordsMethod id :=
  fun analysis signature recorded within =>
    records analysis signature recorded ((Ty.within_function signature).mp within)

theorem RecordsFunction.function {declaration : FnDecl}
    (records : limits.RecordsFunction declaration.id) : limits.law.RecordsFunction declaration :=
  fun analysis signature recorded within _ _ => records.method analysis signature recorded within

theorem Admitted.law {part : Part} (admitted : limits.Admitted part) :
    limits.law.Admitted part := by
  have recordsVariable {id : Nat} (records : limits.RecordsVariable id) :
      limits.law.RecordsVariable id :=
    fun analysis type recorded within _ => records analysis type recorded within
  intro inner inside
  have admits := admitted inner inside
  cases inner with
  | type written => exact admits
  | stmt written =>
      cases written with
      | varDecl position id name declared initializer => exact recordsVariable admits
      | fnDecl declaration => exact RecordsFunction.function admits
      | templateDecl position name attributes methods =>
          exact ⟨admits.1.law, fun method among => (admits.2 method among).method⟩
      | _ => trivial
  | _ => trivial

theorem Upholds.of_law {found : α → Prop} {action : Checker α}
    (upholds : limits.law.Upholds watched found action) : limits.Upholds watched found action :=
  upholds_iff.mpr upholds

/-- Signatures keep to the limits where the law holds for functions with them. -/
theorem Upholds.of_signatures {action : Checker Signature}
    (upholds : limits.law.Upholds watched limits.law.HoldsFor action) :
    limits.Upholds watched (·.Within limits.mentions) action :=
  upholds_iff.mpr (upholds.mono fun signature => (Ty.within_function signature).mp)

end Laws

section Combinators

variable {first : α → Prop} {second : β → Prop}

theorem Upholds.of_ok {action : Checker α} {state after : CheckState} {value : α}
    (upholds : limits.Upholds watched first action) (obeyed : limits.Obeyed watched state)
    (ran : action state = .ok value after) : first value ∧ limits.Obeyed watched after := by
  have upheld := upholds state obeyed
  rw [ran] at upheld
  exact upheld

/-- What is known of every run on the values it finds. -/
theorem Upholds.of_runs {more : α → Prop} {action : Checker α}
    (upholds : limits.Upholds watched first action)
    (runs : ∀ state value after, action state = .ok value after → more value) :
    limits.Upholds watched (fun value => first value ∧ more value) action := by
  exact .of_law ((upholds_iff.mp upholds).of_runs runs)

theorem Upholds.bind {action : Checker α} {rest : α → Checker β}
    (upholds : limits.Upholds watched first action)
    (upholdsRest : ∀ value, first value → limits.Upholds watched second (rest value)) :
    limits.Upholds watched second (action >>= rest) :=
  .of_law ((upholds_iff.mp upholds).bind fun value holds =>
    upholds_iff.mp (upholdsRest value holds))

theorem upholds_pure {value : α} (holds : first value) :
    limits.Upholds watched first (pure value) :=
  .of_law (Law.upholds_pure holds)

theorem upholds_fail (cause : Cause) : limits.Upholds watched first (fail cause : Checker α) :=
  .of_law (Law.upholds_fail cause)

theorem upholds_require (holds : Bool) (cause : Cause) :
    limits.Upholds watched (fun _ => True) (require holds cause) :=
  .of_law (Law.upholds_require holds cause)

theorem upholds_follow {result : Except TypeFault α}
    (holds : ∀ value, result = .ok value → first value) :
    limits.Upholds watched first (follow result) :=
  .of_law (Law.upholds_follow holds)

theorem upholds_moveTo (position : Position) :
    limits.Upholds watched (fun _ => True) (moveTo position) :=
  .of_law (Law.upholds_moveTo position)

theorem upholds_attempt {action : Checker α} (upholds : limits.Upholds watched first action) :
    limits.Upholds watched (fun found => ∀ value ∈ found, first value) (attempt action) :=
  .of_law (Law.upholds_attempt (upholds_iff.mp upholds))

end Combinators

section Leaves

theorem upholds_scopes : limits.Upholds watched (fun _ => True) scopes :=
  .of_law Law.upholds_scopes

theorem upholds_lookup? (reach : Reach) (name : String) :
    limits.Upholds watched limits.WithinOption (lookup? reach name) :=
  .of_law (Law.upholds_lookup? reach name)

theorem upholds_define (name : String) {type : Ty} (within : type.Within limits.mentions) :
    limits.Upholds watched (fun _ => True) (define name type) :=
  .of_law (Law.upholds_define name within)

theorem upholds_update (name : String) {type : Ty} (within : type.Within limits.mentions) :
    limits.Upholds watched (fun _ => True) (update name type) :=
  .of_law (Law.upholds_update name within)

theorem upholds_setUnreachable :
    limits.Upholds watched (fun _ => True) (modifyScopes (·.setUnreachable)) :=
  .of_law Law.upholds_setUnreachable

theorem upholds_setResult {result : Ty} (within : result.Within limits.mentions) :
    limits.Upholds watched (fun _ => True) (modifyScopes (·.setResult result)) :=
  .of_law (Law.upholds_setResult within)

theorem upholds_addVariable {id : Nat} {type : Ty} (records : limits.RecordsVariable id)
    (within : type.Within limits.mentions) :
    limits.Upholds watched (fun _ => True) (modifyAnalysis (·.addVariable id type)) := by
  refine fun state obeyed => ⟨trivial, obeyed.symbols, obeyed.nearest, ?_⟩
  exact records state.analysis type obeyed.records within

theorem upholds_addFunction {id : Nat} {signature : Signature} (records : limits.RecordsFunction id)
    (within : signature.Within limits.mentions) :
    limits.Upholds watched (fun _ => True) (modifyAnalysis (·.addFunction id signature)) := by
  refine fun state obeyed => ⟨trivial, obeyed.symbols, obeyed.nearest, ?_⟩
  exact records state.analysis signature obeyed.records within

theorem upholds_templateOr (missing : NameFault) (name : String) :
    limits.Upholds watched (fun template => (Ty.template template).Within limits.mentions)
      (templateOr missing name) :=
  .of_law (Law.upholds_templateOr missing name)

theorem upholds_calledByName (name : String) (count : Nat) :
    limits.Upholds watched (·.Within limits.mentions) (calledByName name count) :=
  .of_signatures (Law.upholds_calledByName name count)

theorem upholds_requireUnbound (name : String) :
    limits.Upholds watched (fun _ => True) (requireUnbound name) :=
  .of_law (Law.upholds_requireUnbound name)

theorem upholds_replaceFunction (name : String) (prepared : Signature) {resolved : Signature}
    (within : resolved.Within limits.mentions) :
    limits.Upholds watched (fun _ => True) (replaceFunction name prepared resolved) :=
  .of_law (Law.upholds_replaceFunction name prepared ((Ty.within_function resolved).mpr within))

theorem upholds_expectedResult : limits.Upholds watched (fun _ => True) expectedResult :=
  .of_law Law.upholds_expectedResult

theorem upholds_leaveRound (outside : FlowFault) :
    limits.Upholds watched (fun _ => True) (leaveRound outside) :=
  .of_law (Law.upholds_leaveRound outside)

theorem upholds_declareTemplate {template : Template}
    (within : (Ty.template template).Within limits.mentions) :
    limits.Upholds watched (fun _ => True) (declareTemplate template) :=
  .of_law (Law.upholds_declareTemplate within)

end Leaves

section Blocks

variable {signature : Signature} {template : Option Template}

theorem Obeyed.unwatched {state : CheckState} (obeyed : limits.Obeyed watched state) :
    limits.Obeyed false state :=
  obeyed_iff.mpr (obeyed_iff.mp obeyed).unwatched

theorem upholds_atStmt (position : Position) {action : Checker Unit}
    (upholds : limits.Upholds watched (fun _ => True) action) :
    limits.Upholds watched (fun _ => True) (atStmt position action) :=
  .of_law (Law.upholds_atStmt position (upholds_iff.mp upholds))

theorem members_of_within (within : ∀ declared ∈ template, declared.Within limits.mentions) :
    ∀ declared ∈ template, limits.law.Members declared :=
  fun declared among => (mentionLaw_members declared).mpr (within declared among)

/-- The scope of a function is entered with an eye on its signature. -/
theorem obeyed_enterFunction {state : CheckState} (within : signature.Within limits.mentions)
    (withinTemplate : ∀ declared ∈ template, declared.Within limits.mentions)
    (obeyed : limits.Obeyed watched state) :
    match enterFunction signature template state with
    | .ok _ entered => limits.Obeyed true entered
    | .error _ entered => limits.Obeyed true entered := by
  have entering := Law.obeyed_enterFunction ((Ty.within_function signature).mpr within)
    (members_of_within withinTemplate) (obeyed_iff.mp obeyed)
  cases ran : enterFunction signature template state with
  | ok value entered =>
      rw [ran] at entering
      exact obeyed_iff.mpr entering
  | error diagnostic entered =>
      rw [ran] at entering
      exact obeyed_iff.mpr entering

theorem upholds_inFunction {returns : Prop} {body : Checker Unit}
    (within : signature.Within limits.mentions)
    (withinTemplate : ∀ declared ∈ template, declared.Within limits.mentions)
    (keeps : Keeps (ScopeStack.Kept returns) body)
    (upholds : limits.Upholds true (fun _ => True) body) :
    limits.Upholds watched (·.Within limits.mentions) (inFunction signature template body) :=
  .of_signatures (Law.upholds_inFunction ((Ty.within_function signature).mpr within)
    (members_of_within withinTemplate) keeps (upholds_iff.mp upholds))

theorem upholds_inferResult (firstReturn : Option (Option Expr)) {search : Checker (Option Ty)}
    (within : signature.Within limits.mentions)
    (withinTemplate : ∀ declared ∈ template, declared.Within limits.mentions)
    (upholds : limits.Upholds false limits.WithinOption search) :
    limits.Upholds watched (·.Within limits.mentions)
      (inferResult signature template firstReturn search) :=
  .of_signatures (Law.upholds_inferResult firstReturn
    ((Ty.within_function signature).mpr within) (members_of_within withinTemplate)
    (upholds_iff.mp upholds))

theorem upholds_within {returns : Prop} {kind : ScopeKind} {body : Checker Unit}
    (plain : (Scope.empty kind).isFunction = false) (keeps : Keeps (ScopeStack.Kept returns) body)
    (upholds : limits.Upholds watched (fun _ => True) body) :
    limits.Upholds watched (fun _ => True) (within kind body) :=
  .of_law (Law.upholds_within plain keeps (upholds_iff.mp upholds))

theorem upholds_searchBlock {bound : Option (String × Ty)} {search : Checker (Option Ty)}
    (within : ∀ entry ∈ bound, entry.2.Within limits.mentions)
    (upholds : limits.Upholds false limits.WithinOption search) :
    limits.Upholds false limits.WithinOption (searchBlock bound search) :=
  .of_law (Law.upholds_searchBlock within (upholds_iff.mp upholds))

end Blocks

section Functions

variable {position : Position} {name : String}

/-- What the limits ask of a function or a method. -/
structure AdmittedFunction (limits : Limits) (declaration : FnDecl) : Prop where
  records : limits.RecordsFunction declaration.id
  signature : declaration.signature.Within limits.mentions
  body : ∀ stmt ∈ declaration.body.body, limits.Admitted (.stmt stmt)

theorem Admitted.function {declaration : FnDecl}
    (admitted : limits.Admitted (.stmt (.fnDecl declaration))) :
    limits.AdmittedFunction declaration where
  records := admitted.self
  signature :=
    (Ty.within_function _).mp (admitted.of_holds (.functionType declaration)).self
  body _ member := admitted.of_holds (.functionBody member)

theorem Admitted.method {attributes : List (String × Ty)} {methods : List FnDecl} {method : FnDecl}
    (admitted : limits.Admitted (.stmt (.templateDecl position name attributes methods)))
    (among : method ∈ methods) : limits.AdmittedFunction method where
  records := admitted.self.2 method among
  signature := (Ty.within_function _).mp
    (admitted.of_holds (.methodType position name attributes among)).self
  body _ member := admitted.of_holds (.methodBody position name attributes among member)

/-- A template is declared within the limits. -/
theorem Admitted.template {attributes : List (String × Ty)} {methods : List FnDecl}
    (admitted : limits.Admitted (.stmt (.templateDecl position name attributes methods))) :
    limits.MayDeclare name attributes ∧
      (declaredTemplate name attributes methods).Within limits.mentions :=
  ⟨admitted.self.1, (mentionLaw_members _).mp admitted.law.template.members⟩

theorem within_preparedMethod {template : Template} (index : Nat) {method : FnDecl}
    (within : template.Within limits.mentions)
    (withinMethod : method.signature.Within limits.mentions) :
    (template.preparedMethod index method).Within limits.mentions := by
  have holds : limits.law.HoldsFor (template.preparedMethod index method) :=
    Law.holds_preparedMethod index ((mentionLaw_members template).mpr within)
      ((Ty.within_function _).mpr withinMethod)
  exact (Ty.within_function _).mp holds

theorem AdmittedFunction.law {declaration : FnDecl}
    (admitted : limits.AdmittedFunction declaration) :
    limits.law.AdmittedFunction declaration where
  signature := (Ty.within_function _).mpr admitted.signature
  body stmt member := (admitted.body stmt member).law

end Functions

theorem upholds_checkExpr (expr : Expr) (admitted : limits.Admitted (.expr expr)) :
    limits.Upholds watched (·.Within limits.mentions) (checkExpr expr) :=
  .of_law (Law.upholds_checkExpr expr admitted.law)

theorem upholds_checkStmt (stmt : Stmt) (admitted : limits.Admitted (.stmt stmt)) :
    limits.Upholds watched (fun _ => True) (checkStmt stmt) :=
  .of_law (Law.upholds_checkStmt stmt admitted.law)

theorem upholds_checkBody (block : Block)
    (admitted : ∀ stmt ∈ block.body, limits.Admitted (.stmt stmt)) :
    limits.Upholds watched (fun _ => True) (checkBody block) :=
  .of_law (Law.upholds_checkBody block fun stmt member => (admitted stmt member).law)

theorem upholds_checkFnDecl (declaration : FnDecl)
    (admitted : limits.AdmittedFunction declaration) :
    limits.Upholds watched (fun _ => True) (checkFnDecl declaration) :=
  .of_law (Law.upholds_checkFnDecl declaration admitted.records.function admitted.law)

theorem upholds_searchBody (block : Block)
    (admitted : ∀ stmt ∈ block.body, limits.Admitted (.stmt stmt)) :
    limits.Upholds false limits.WithinOption (searchBody block) :=
  .of_law (Law.upholds_searchBody block fun stmt member => (admitted stmt member).law)

end Limits

end ScriptCheck
