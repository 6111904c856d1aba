import ScriptCheck.Proofs.Typing.RenamedCheck
import ScriptCheck.Proofs.Typing.Unused

/-!
# Checks overlook the names that are not used

The check of an expression or a statement overlooks the names that are written nowhere in it, and so
does the search for a first returned value in a statement. Names are written where they are bound,
looked up or mentioned in a type, also within functions. There is one case for each form.
-/

namespace ScriptCheck

open Checker Limits

namespace Part

/-- The names that are written in a part itself, and not only in what stands in it. -/
def names : Part → List String
  | .type written => written.mentions.map Mention.templateName
  | .expr (.entity name _) => [name]
  | part => part.usedNames ++ part.functions.flatMap (·.1)

/-- A name is written in a part. -/
def Uses (part : Part) (name : String) : Prop :=
  ∃ inner, Relation.ReflTransGen Part.Holds part inner ∧ name ∈ inner.names

theorem Uses.of_holds {part inner : Part} {name : String} (holds : part.Holds inner)
    (uses : inner.Uses name) : part.Uses name := by
  rcases uses with ⟨last, within, member⟩
  exact ⟨last, .head holds within, member⟩

end Part

namespace Unused

/-- None of the names is written in a part. -/
def Fits (hidden : List String) (part : Part) : Prop :=
  ∀ name, part.Uses name → name ∉ hidden

/-- None of the names is bound in the scope of a function before its body, or written in its
body. -/
structure FunctionFits (hidden bound : List String) (body : Block) : Prop where
  bound : ∀ name ∈ bound, name ∉ hidden
  body : ∀ stmt ∈ body.body, Fits hidden (.stmt stmt)

variable {hidden : List String} {part : Part}

theorem Fits.of_holds {inner : Part} (fits : Fits hidden part) (holds : part.Holds inner) :
    Fits hidden inner :=
  fun name uses => fits name (uses.of_holds holds)

theorem Fits.self (fits : Fits hidden part) : ∀ name ∈ part.names, name ∉ hidden :=
  fun name member => fits name ⟨part, .refl, member⟩

theorem Fits.used (fits : Fits hidden part) (name : String) (member : name ∈ part.usedNames) :
    name ∉ hidden := by
  apply fits.self
  unfold Part.names
  split
  · contradiction
  · contradiction
  · exact List.mem_append_left _ member

theorem Fits.function (fits : Fits hidden part) {function : List String × Block}
    (among : function ∈ part.functions)
    (holds : ∀ stmt ∈ function.2.body, part.Holds (.stmt stmt)) :
    FunctionFits hidden function.1 function.2 := by
  have written (name : String) (member : name ∈ function.1) : name ∈ part.names := by
    unfold Part.names
    split
    · contradiction
    · contradiction
    · exact List.mem_append_right _ (List.mem_flatMap.mpr ⟨function, among, member⟩)
  exact ⟨fun name member => fits.self name (written name member),
    fun stmt member => fits.of_holds (holds stmt member)⟩

/-- A type in which none of the names is written. -/
theorem Fits.type {written : Ty} (fits : Fits hidden (.type written)) :
    written.Within (limits hidden).mentions := by
  intro mention member
  cases mention with
  | name name => exact fits.self name (List.mem_map_of_mem member)
  | template template => trivial

theorem Fits.admitted (fits : Fits hidden part) : (limits hidden).Admitted part := by
  intro inner within
  have fitsInner : Fits hidden inner := by
    rintro name ⟨last, further, member⟩
    exact fits name ⟨last, within.trans further, member⟩
  cases inner with
  | type written => exact fitsInner.type
  | stmt stmt =>
      cases stmt with
      | varDecl position id name declared initializer => exact recordsVariable id
      | fnDecl declaration => exact recordsFunction declaration.id
      | templateDecl position name attributes methods =>
          exact ⟨mayDeclare name attributes, fun method _ => recordsFunction method.id⟩
      | _ => trivial
  | _ => trivial

/-- What is known of every run on the values it finds. -/
theorem Overlooks.of_runs {α : Type} {watched : Bool} {found more : α → Prop} {action : Checker α}
    (overlooks : Overlooks hidden watched found action)
    (runs : ∀ state value after, action state = .ok value after → more value) :
    Overlooks hidden watched (fun value => found value ∧ more value) action :=
  ⟨overlooks.upholds.of_runs runs, overlooks.same⟩

section Functions

variable {watched : Bool} {signature : Signature} {template : Option Template} {body : Block}

theorem overlooks_prepareSignature
    (function : FunctionFits hidden (Renaming.boundNames signature template) body)
    (within : signature.Within (limits hidden).mentions)
    (withinTemplate : ∀ declared ∈ template, declared.Within (limits hidden).mentions)
    (search : Overlooks hidden false (limits hidden).WithinOption (searchBody body)) :
    Overlooks hidden watched
      (fun prepared => prepared.Within (limits hidden).mentions ∧ signature.Settles prepared)
      (prepareSignature signature template body) := by
  have infers : Overlooks hidden watched _ (prepareSignature signature template body) :=
    overlooks_inferResult body.firstReturn? function.bound within withinTemplate search
  exact infers.of_runs fun _ _ _ ran => settles_of_prepareSignature ran

theorem overlooks_checkFunction
    (function : FunctionFits hidden (Renaming.boundNames signature template) body)
    (within : signature.Within (limits hidden).mentions)
    (withinTemplate : ∀ declared ∈ template, declared.Within (limits hidden).mentions)
    (checks : Overlooks hidden true (fun _ => True) (checkBody body)) :
    Overlooks hidden watched
      (fun resolved => resolved.Within (limits hidden).mentions ∧ signature.Settles resolved)
      (checkFunction signature template body) := by
  have enters : Overlooks hidden watched _ (checkFunction signature template body) :=
    overlooks_inFunction function.bound within withinTemplate (keeps_checkBody body) checks
  exact enters.of_runs fun _ _ _ ran => settles_of_checkFunction ran

end Functions

mutual

theorem overlooks_checkExpr {watched : Bool} (expr : Expr) (fits : Fits hidden (.expr expr)) :
    Overlooks hidden watched (·.Within (limits hidden).mentions) (checkExpr expr) := by
  have resolved (action : Checker Ty)
      (overlooks : Overlooks hidden watched (·.Within (limits hidden).mentions) action) :
      Overlooks hidden watched (·.Within (limits hidden).mentions) (resolve =<< action) :=
    overlooks.then fun _ within => overlooks_resolve within
  have inner {operand : Expr} (member : operand ∈ expr.operands) : Fits hidden (.expr operand) :=
    fits.of_holds (.operand member)
  cases expr with
  | integer value => exact resolved _ (overlooks_pure (Ty.within_primitive _))
  | float value => exact resolved _ (overlooks_pure (Ty.within_primitive _))
  | string value => exact resolved _ (overlooks_pure (Ty.within_primitive _))
  | boolean value => exact resolved _ (overlooks_pure (Ty.within_primitive _))
  | null => exact resolved _ (overlooks_pure (Ty.within_primitive _))
  | array elements =>
      rw [checkExpr]
      refine resolved _ ((overlooks_checkElements "array" elements fun _ => inner).then ?_)
      exact fun element within => overlooks_pure ((Ty.within_array element).mpr within)
  | set elements =>
      rw [checkExpr]
      refine resolved _ ((overlooks_checkElements "set" elements fun _ => inner).then ?_)
      exact fun element within => (overlooks_check _).then fun _ _ =>
        overlooks_pure ((Ty.within_set element).mpr within)
  | map pairs =>
      rw [checkExpr]
      refine resolved _ (overlooks_checkMap pairs fun pair member => ⟨inner ?_, inner ?_⟩)
      · exact List.mem_flatMap.mpr ⟨pair, member, List.mem_cons_self⟩
      · exact List.mem_flatMap.mpr ⟨pair, member, List.mem_cons_of_mem _ List.mem_cons_self⟩
  | entity name attributes =>
      rw [checkExpr]
      have used := fits.self name List.mem_cons_self
      refine resolved _ ((overlooks_templateOr _ used).then fun template within => ?_)
      have values (entry : String × Expr) (member : entry ∈ attributes) :
          Fits hidden (.expr entry.2) := inner (List.mem_map_of_mem member)
      exact (overlooks_checkAttributes template attributes (within_template_iff.mp within)
        values).then fun _ _ => overlooks_pure within
  | function params body =>
      rw [checkExpr]
      have within : Signature.Within (limits hidden).mentions { result := .infer, params } :=
        (Ty.within_function _).mp (fits.of_holds (.literalType params body)).type
      have function := fits.function List.mem_cons_self fun stmt member =>
        .literalBody params member
      refine resolved _ ((overlooks_validateSignature within).then fun _ _ => ?_)
      refine (overlooks_prepareSignature function within within_no_template
        (overlooks_searchBody body function.body)).then ?_
      rintro prepared ⟨withinPrepared, settles⟩
      have sameNames := Renaming.boundNames_of_settles settles
      refine (overlooks_checkFunction (sameNames ▸ function) withinPrepared within_no_template
        (overlooks_checkBody body function.body)).then ?_
      rintro found ⟨withinFound, _⟩
      exact overlooks_pure ((Ty.within_function found).mpr withinFound)
  | identifier name =>
      rw [checkExpr]
      have used := fits.used name List.mem_cons_self
      refine resolved _ ((overlooks_lookup? .function used).then fun found within => ?_)
      split
      · exact overlooks_pure (within _ rfl)
      · exact overlooks_fail _
  | unary operator fixity operand =>
      rw [checkExpr]
      refine resolved _ ((overlooks_check _).then fun _ _ => ?_)
      refine (overlooks_checkExpr operand (inner List.mem_cons_self)).then fun type within => ?_
      exact overlooks_follow fun _ typed => (mentionLaw _).holds_unary within typed
  | binary operator left right =>
      rw [checkExpr]
      refine resolved _ ((overlooks_checkExpr left (inner List.mem_cons_self)).then ?_)
      intro type within
      refine (overlooks_checkExpr right (inner (by simp [Expr.operands]))).then fun other _ => ?_
      exact overlooks_follow fun _ typed => (mentionLaw _).holds_binary within typed
  | assignment target value =>
      rw [checkExpr]
      refine resolved _ ((overlooks_checkExpr target (inner List.mem_cons_self)).then ?_)
      intro type within
      refine (overlooks_checkExpr value (inner (by simp [Expr.operands]))).then fun other _ => ?_
      exact overlooks_follow fun _ typed => (mentionLaw _).holds_assignment within typed
  | index base index =>
      rw [checkExpr]
      refine resolved _ ((overlooks_checkExpr base (inner List.mem_cons_self)).then ?_)
      intro type within
      refine (overlooks_checkExpr index (inner (by simp [Expr.operands]))).then fun other _ => ?_
      exact overlooks_follow fun _ typed => (mentionLaw _).holds_index within typed
  | call callee arguments =>
      rw [checkExpr]
      have signatures : Overlooks hidden watched (·.Within (limits hidden).mentions)
          (calleeSignature callee.name? arguments.length (checkExpr callee)) := by
        refine overlooks_calleeSignature arguments.length (fun name found => ?_)
          fun unnamed => overlooks_checkExpr callee (inner (by simp [Expr.operands, unnamed]))
        exact fits.used name (Option.mem_toList.mpr found)
      have values (argument : Expr) (member : argument ∈ arguments) :
          Fits hidden (.expr argument) := by
        refine inner ?_
        rw [Expr.operands]
        split
        · exact member
        · exact List.mem_cons_of_mem _ member
      refine resolved _ (signatures.then fun signature within => ?_)
      exact (overlooks_checkArguments signature.params arguments values).then fun _ _ =>
        overlooks_pure ((Signature.within_iff _).mp within).1
  | member object name =>
      rw [checkExpr]
      refine resolved _ ((overlooks_checkExpr object (inner List.mem_cons_self)).then ?_)
      exact fun type within =>
        overlooks_follow fun _ typed => (mentionLaw _).holds_member within typed
  | methodCall object name arguments =>
      rw [checkExpr]
      refine resolved _ ((overlooks_checkExpr object (inner List.mem_cons_self)).then ?_)
      intro type within
      have method : Overlooks hidden watched (·.Within (limits hidden).mentions)
          (follow (Rule.method type name arguments.length)) :=
        overlooks_follow fun found typed =>
          (Ty.within_function found).mp ((mentionLaw _).holds_method within typed)
      refine method.then fun signature withinMethod => ?_
      have values (argument : Expr) (member : argument ∈ arguments) :
          Fits hidden (.expr argument) := inner (List.mem_cons_of_mem _ member)
      exact (overlooks_checkArguments signature.params arguments values).then fun _ _ =>
        overlooks_pure ((Signature.within_iff _).mp withinMethod).1
  termination_by structural expr

theorem overlooks_checkElements {watched : Bool} (collection : String) (elements : List Expr)
    (fits : ∀ expr ∈ elements, Fits hidden (.expr expr)) :
    Overlooks hidden watched (·.Within (limits hidden).mentions)
      (checkElements collection elements) := by
  cases elements with
  | nil =>
      rw [checkElements]
      exact overlooks_pure (Ty.within_primitive _)
  | cons first rest =>
      rw [checkElements]
      rcases List.forall_mem_cons.mp fits with ⟨fitsFirst, fitsRest⟩
      refine (overlooks_checkExpr first fitsFirst).then fun expected within => ?_
      exact (overlooks_checkRest collection expected rest fitsRest).then fun _ _ =>
        overlooks_pure within
  termination_by structural elements

theorem overlooks_checkRest {watched : Bool} (collection : String) (expected : Ty)
    (elements : List Expr) (fits : ∀ expr ∈ elements, Fits hidden (.expr expr)) :
    Overlooks hidden watched (fun _ => True) (checkRest collection expected elements) := by
  cases elements with
  | nil =>
      rw [checkRest]
      exact overlooks_pure trivial
  | cons next rest =>
      rw [checkRest]
      rcases List.forall_mem_cons.mp fits with ⟨fitsNext, fitsRest⟩
      refine (overlooks_checkExpr next fitsNext).then fun _ _ => (overlooks_check _).then ?_
      exact fun _ _ => overlooks_checkRest collection expected rest fitsRest
  termination_by structural elements

theorem overlooks_checkMap {watched : Bool} (pairs : List (Expr × Expr))
    (fits : ∀ pair ∈ pairs, Fits hidden (.expr pair.1) ∧ Fits hidden (.expr pair.2)) :
    Overlooks hidden watched (·.Within (limits hidden).mentions) (checkMap pairs) := by
  cases pairs with
  | nil =>
      rw [checkMap]
      exact overlooks_pure ((Ty.within_map _ _).mpr ⟨Ty.within_primitive _, Ty.within_primitive _⟩)
  | cons pair rest =>
      rcases pair with ⟨first, second⟩
      rw [checkMap]
      rcases List.forall_mem_cons.mp fits with ⟨⟨fitsFirst, fitsSecond⟩, fitsRest⟩
      refine (overlooks_checkExpr first fitsFirst).then fun key withinKey => ?_
      refine (overlooks_checkExpr second fitsSecond).then fun value withinValue => ?_
      refine (overlooks_check _).then fun _ _ => ?_
      exact (overlooks_checkPairs key value rest fitsRest).then fun _ _ =>
        overlooks_pure ((Ty.within_map key value).mpr ⟨withinKey, withinValue⟩)
  termination_by structural pairs

theorem overlooks_checkPairs {watched : Bool} (key value : Ty) (pairs : List (Expr × Expr))
    (fits : ∀ pair ∈ pairs, Fits hidden (.expr pair.1) ∧ Fits hidden (.expr pair.2)) :
    Overlooks hidden watched (fun _ => True) (checkPairs key value pairs) := by
  cases pairs with
  | nil =>
      rw [checkPairs]
      exact overlooks_pure trivial
  | cons pair rest =>
      rcases pair with ⟨first, second⟩
      rw [checkPairs]
      rcases List.forall_mem_cons.mp fits with ⟨⟨fitsFirst, fitsSecond⟩, fitsRest⟩
      refine (overlooks_checkExpr first fitsFirst).then fun _ _ => (overlooks_check _).then ?_
      intro _ _
      refine (overlooks_checkExpr second fitsSecond).then fun _ _ => (overlooks_check _).then ?_
      exact fun _ _ => overlooks_checkPairs key value rest fitsRest
  termination_by structural pairs

theorem overlooks_checkAttributes {watched : Bool} (template : Template)
    (attributes : List (String × Expr)) (within : template.Within (limits hidden).mentions)
    (fits : ∀ entry ∈ attributes, Fits hidden (.expr entry.2)) :
    Overlooks hidden watched (fun _ => True) (checkAttributes template attributes) := by
  cases attributes with
  | nil =>
      rw [checkAttributes]
      exact overlooks_pure trivial
  | cons entry rest =>
      rcases entry with ⟨name, expr⟩
      rw [checkAttributes]
      rcases List.forall_mem_cons.mp fits with ⟨fitsFirst, fitsRest⟩
      refine (overlooks_declaredAttribute name within).then fun _ _ => ?_
      refine (overlooks_checkExpr expr fitsFirst).then fun _ _ => (overlooks_check _).then ?_
      exact fun _ _ => overlooks_checkAttributes template rest within fitsRest
  termination_by structural attributes

theorem overlooks_checkArguments {watched : Bool} (params : List (String × Ty))
    (arguments : List Expr) (fits : ∀ expr ∈ arguments, Fits hidden (.expr expr)) :
    Overlooks hidden watched (fun _ => True) (checkArguments params arguments) := by
  cases arguments with
  | nil =>
      rw [checkArguments]
      exact overlooks_pure trivial
  | cons next rest =>
      rcases List.forall_mem_cons.mp fits with ⟨fitsNext, fitsRest⟩
      cases params with
      | nil =>
          rw [checkArguments]
          exact overlooks_pure trivial
      | cons param others =>
          rcases param with ⟨name, expected⟩
          rw [checkArguments]
          refine (overlooks_checkExpr next fitsNext).then fun _ _ => (overlooks_check _).then ?_
          exact fun _ _ => overlooks_checkArguments others rest fitsRest
  termination_by structural arguments

theorem overlooks_checkStmt {watched : Bool} (stmt : Stmt) (fits : Fits hidden (.stmt stmt)) :
    Overlooks hidden watched (fun _ => True) (checkStmt stmt) := by
  have operand {expr : Expr} (member : expr ∈ stmt.operands) : Fits hidden (.expr expr) :=
    fits.of_holds (.stmtOperand member)
  have nested {block : Block} (among : block ∈ stmt.blocks) (inner : Stmt)
      (member : inner ∈ block.body) : Fits hidden (.stmt inner) :=
    fits.of_holds (.nested among member)
  have nothing (_ : Scope) : Overlooks hidden watched (fun _ => True) (pure ()) :=
    overlooks_pure trivial
  cases stmt with
  | varDecl position id name declared initializer =>
      rw [checkStmt]
      have withinDeclared := (fits.of_holds
        (.declaredType position id name declared initializer)).type
      refine overlooks_atStmt position ((overlooks_checkExpr initializer
        (operand List.mem_cons_self)).then fun actual within => ?_)
      exact overlooks_declareVariable id (fits.used name List.mem_cons_self) withinDeclared
        within
  | expression position expression =>
      rw [checkStmt]
      exact overlooks_atStmt position (overlooks_checkExpr expression
        (operand List.mem_cons_self)).discard
  | block content =>
      rw [checkStmt]
      exact overlooks_atStmt content.position (overlooks_within rfl (keeps_checkBody content)
        (overlooks_checkBody content (nested List.mem_cons_self)) (fun _ => rfl) nothing)
  | ifElse position condition thenBlock elseBlock =>
      rw [checkStmt]
      refine overlooks_atStmt position ((overlooks_checkExpr condition
        (operand List.mem_cons_self)).then fun _ _ => ?_)
      refine (overlooks_check _).then fun _ _ => (overlooks_require _ _).then fun _ _ => ?_
      refine overlooks_within rfl (keeps_checkBody thenBlock) (overlooks_checkBody thenBlock
        (nested List.mem_cons_self)) (fun _ => rfl) fun first => ?_
      refine (overlooks_require _ _).then fun _ _ => ?_
      refine (overlooks_checkElse elseBlock fun block among => nested ?_).then fun goesOn _ => ?_
      · exact List.mem_cons_of_mem _ (Option.mem_toList.mpr among)
      · split
        · exact overlooks_pure trivial
        · exact overlooks_setUnreachable
  | whileLoop position condition body =>
      rw [checkStmt]
      refine overlooks_atStmt position ((overlooks_checkExpr condition
        (operand List.mem_cons_self)).then fun _ _ => (overlooks_check _).then fun _ _ => ?_)
      exact overlooks_within rfl (keeps_checkBody body) (overlooks_checkBody body
        (nested List.mem_cons_self)) (fun _ => rfl) nothing
  | range position name first last step body =>
      rw [checkStmt]
      have used := fits.used name List.mem_cons_self
      have keeps := (keeps_define_kept name .int).bind (fun _ => keeps_checkBody body)
        fun _ _ _ => ScopeStack.Kept.trans
      refine overlooks_atStmt position ((overlooks_checkExpr first
        (operand List.mem_cons_self)).then fun _ _ => (overlooks_check _).then fun _ _ => ?_)
      refine (overlooks_checkExpr last (operand (by simp [Stmt.operands]))).then fun _ _ =>
        (overlooks_check _).then fun _ _ => ?_
      refine (overlooks_checkExpr step (operand (by simp [Stmt.operands]))).then fun _ _ =>
        (overlooks_check _).then fun _ _ => ?_
      exact overlooks_within rfl keeps ((overlooks_define used (Ty.within_primitive .int)).then
        fun _ _ => overlooks_checkBody body (nested List.mem_cons_self)) (fun _ => rfl) nothing
  | each position name iterable body =>
      rw [checkStmt]
      have used := fits.used name List.mem_cons_self
      refine overlooks_atStmt position ((overlooks_checkExpr iterable
        (operand List.mem_cons_self)).then fun type within => ?_)
      have element : Overlooks hidden watched (·.Within (limits hidden).mentions)
          (follow (Rule.iterated type)) :=
        overlooks_follow fun _ typed => (mentionLaw _).holds_iterated within typed
      refine element.then fun found withinFound => ?_
      have keeps := (keeps_define_kept name found).bind (fun _ => keeps_checkBody body)
        fun _ _ _ => ScopeStack.Kept.trans
      exact overlooks_within rfl keeps ((overlooks_define used withinFound).then
        fun _ _ => overlooks_checkBody body (nested List.mem_cons_self)) (fun _ => rfl) nothing
  | halt position =>
      rw [checkStmt]
      exact overlooks_atStmt position (overlooks_leaveRound _)
  | skip position =>
      rw [checkStmt]
      exact overlooks_atStmt position (overlooks_leaveRound _)
  | returning position value =>
      rw [checkStmt]
      refine overlooks_atStmt position (overlooks_expectedResult.then fun expected _ => ?_)
      refine (overlooks_checkReturned value fun expr among => operand ?_).then ?_
      · exact Option.mem_toList.mpr among
      · exact fun actual within => overlooks_returnType expected within
  | fnDecl declaration =>
      rw [checkStmt]
      have function := fits.function List.mem_cons_self fun stmt member => .functionBody member
      have within := (Ty.within_function _).mp (fits.of_holds (.functionType declaration)).type
      exact overlooks_atStmt declaration.position (overlooks_checkFnDecl declaration
        (fits.used declaration.name List.mem_cons_self) within function)
  | echo position expression =>
      rw [checkStmt]
      exact overlooks_atStmt position (overlooks_checkExpr expression
        (operand List.mem_cons_self)).discard
  | templateDecl position name attributes methods =>
      rw [checkStmt]
      have used := fits.used name List.mem_cons_self
      have within := fits.admitted.template.2
      have declares := declares_declaredTemplate name attributes methods
      have functions (method : FnDecl) (among : method ∈ methods) :
          FunctionFits hidden (Renaming.boundNames method.signature
            (some (declaredTemplate name attributes methods))) method.body :=
        fits.function (List.mem_map_of_mem among) fun stmt member =>
          .methodBody position name attributes among member
      have signatures (method : FnDecl) (among : method ∈ methods) :
          method.signature.Within (limits hidden).mentions :=
        (fits.admitted.method among).signature
      refine overlooks_atStmt position ((overlooks_declareTemplate used
        (within_template_iff.mpr within)).then fun _ _ => ?_)
      refine (overlooks_prepareMethods _ _ 0 methods used (.refl _) within declares signatures
        functions).then ?_
      rintro prepared ⟨version, withinPrepared⟩
      exact overlooks_checkMethods _ prepared 0 methods used version withinPrepared declares
        signatures functions
  termination_by structural stmt

theorem overlooks_checkElse {watched : Bool} (elseBlock : Option Block)
    (fits : ∀ block ∈ elseBlock, ∀ stmt ∈ block.body, Fits hidden (.stmt stmt)) :
    Overlooks hidden watched (fun _ => True) (checkElse elseBlock) := by
  cases elseBlock with
  | none =>
      rw [checkElse]
      exact overlooks_pure trivial
  | some block =>
      rw [checkElse]
      exact overlooks_within rfl (keeps_checkBody block) (overlooks_checkBody block
        (fits block rfl)) (fun _ => rfl) fun _ => overlooks_pure trivial
  termination_by structural elseBlock

theorem overlooks_checkReturned {watched : Bool} (value : Option Expr)
    (fits : ∀ expr ∈ value, Fits hidden (.expr expr)) :
    Overlooks hidden watched (·.Within (limits hidden).mentions) (checkReturned value) := by
  cases value with
  | none =>
      rw [checkReturned]
      exact overlooks_pure (Ty.within_primitive _)
  | some expr =>
      rw [checkReturned]
      exact overlooks_checkExpr expr (fits expr rfl)
  termination_by structural value

theorem overlooks_checkBody {watched : Bool} (block : Block)
    (fits : ∀ stmt ∈ block.body, Fits hidden (.stmt stmt)) :
    Overlooks hidden watched (fun _ => True) (checkBody block) := by
  rcases block with ⟨position, body⟩
  rw [checkBody]
  exact overlooks_checkStmts body fits
  termination_by structural block

theorem overlooks_checkStmts {watched : Bool} (body : List Stmt)
    (fits : ∀ stmt ∈ body, Fits hidden (.stmt stmt)) :
    Overlooks hidden watched (fun _ => True) (checkStmts body) := by
  cases body with
  | nil =>
      rw [checkStmts]
      exact overlooks_pure trivial
  | cons stmt rest =>
      rw [checkStmts]
      rcases List.forall_mem_cons.mp fits with ⟨fitsFirst, fitsRest⟩
      exact (overlooks_checkStmt stmt fitsFirst).then fun _ _ => overlooks_checkStmts rest fitsRest
  termination_by structural body

theorem overlooks_checkFnDecl {watched : Bool} (declaration : FnDecl)
    (used : declaration.name ∉ hidden)
    (within : declaration.signature.Within (limits hidden).mentions)
    (function : FunctionFits hidden (Renaming.boundNames declaration.signature none)
      declaration.body) :
    Overlooks hidden watched (fun _ => True) (checkFnDecl declaration) := by
  rcases declaration with ⟨position, id, name, signature, body⟩
  have withinType : (Ty.function signature).Within (limits hidden).mentions :=
    (Ty.within_function _).mpr within
  have admitted (stmt : Stmt) (member : stmt ∈ body.body) : (limits hidden).Admitted (.stmt stmt) :=
    (function.body stmt member).admitted
  have upholds : (limits hidden).Upholds watched _ _ :=
    upholds_checkFnDecl ⟨position, id, name, signature, body⟩
      ⟨recordsFunction id, within, admitted⟩
  rw [checkFnDecl] at upholds
  rw [checkFnDecl]
  refine overlooks_reading scopes_apply upholds fun state obeyed => ?_
  have binds : (state.without hidden).scopes.inner.binds name = state.scopes.inner.binds name :=
    state.scopes.inner.binds_without used
  rw [binds]
  refine Overlooks.same (?_ : Overlooks hidden watched (fun _ => True) _) state obeyed
  refine (overlooks_require _ _).then fun _ _ => (overlooks_validateSignature within).then ?_
  refine fun _ _ => (overlooks_check _).then fun _ _ => ?_
  refine (overlooks_define used withinType).then fun _ _ => ?_
  refine (overlooks_prepareSignature function within within_no_template
    (overlooks_searchBody body function.body)).then ?_
  rintro prepared ⟨withinPrepared, settles⟩
  have sameNames := Renaming.boundNames_of_settles settles
  refine (overlooks_update used ((Ty.within_function _).mpr withinPrepared)).then fun _ _ => ?_
  refine (overlooks_checkFunction (sameNames ▸ function) withinPrepared within_no_template
    (overlooks_checkBody body function.body)).then ?_
  rintro resolved ⟨withinResolved, _⟩
  refine (overlooks_replaceFunction prepared used withinResolved).then fun _ _ => ?_
  exact overlooks_addFunction id withinResolved
  termination_by structural declaration

theorem overlooks_prepareMethods {watched : Bool} (written template : Template) (index : Nat)
    (methods : List FnDecl) (used : written.name ∉ hidden) (version : written.Version template)
    (within : template.Within (limits hidden).mentions)
    (declares : template.Declares index methods)
    (signatures : ∀ method ∈ methods, method.signature.Within (limits hidden).mentions)
    (functions : ∀ method ∈ methods,
      FunctionFits hidden (Renaming.boundNames method.signature (some written)) method.body) :
    Overlooks hidden watched
      (fun prepared => written.Version prepared ∧ prepared.Within (limits hidden).mentions)
      (prepareMethods template index methods) := by
  cases methods with
  | nil =>
      rw [prepareMethods]
      exact overlooks_pure ⟨version, within⟩
  | cons method rest =>
      rcases List.forall_mem_cons.mp signatures with ⟨withinFirst, withinRest⟩
      rcases List.forall_mem_cons.mp functions with ⟨function, functionsRest⟩
      have usedHere : template.name ∉ hidden := version.name ▸ used
      have withinSome (other : Template) (sameTemplate : other ∈ some template) :
          other.Within (limits hidden).mentions := Option.some.inj sameTemplate ▸ within
      have sameNames :=
        Renaming.boundNames_of_version version (Signature.Settles.refl method.signature)
      rcases method with ⟨position, id, name, signature, body⟩
      rw [prepareMethods]
      refine (overlooks_validateSignature withinFirst).then fun _ _ => ?_
      refine (overlooks_prepareSignature (sameNames ▸ function) withinFirst withinSome
        (overlooks_searchBody body function.body)).then ?_
      rintro prepared ⟨withinPrepared, settles⟩
      refine (overlooks_updateMethod index usedHere within withinPrepared).then ?_
      rintro updated rfl
      have settled := Template.settles_of_declared declares.head settles
      exact overlooks_prepareMethods written _ (index + 1) rest used
        (version.setMethod settled) (Template.within_setMethod index within withinPrepared)
        declares.tail.setMethod withinRest functionsRest
  termination_by structural methods

theorem overlooks_checkMethods {watched : Bool} (written template : Template) (index : Nat)
    (methods : List FnDecl) (used : written.name ∉ hidden) (version : written.Version template)
    (within : template.Within (limits hidden).mentions)
    (declares : written.Declares index methods)
    (signatures : ∀ method ∈ methods, method.signature.Within (limits hidden).mentions)
    (functions : ∀ method ∈ methods,
      FunctionFits hidden (Renaming.boundNames method.signature (some written)) method.body) :
    Overlooks hidden watched (fun _ => True) (checkMethods template index methods) := by
  cases methods with
  | nil =>
      rw [checkMethods]
      exact overlooks_pure trivial
  | cons method rest =>
      rcases List.forall_mem_cons.mp signatures with ⟨withinFirst, withinRest⟩
      rcases List.forall_mem_cons.mp functions with ⟨function, functionsRest⟩
      have usedHere : template.name ∉ hidden := version.name ▸ used
      have withinSome (other : Template) (sameTemplate : other ∈ some template) :
          other.Within (limits hidden).mentions := Option.some.inj sameTemplate ▸ within
      have withinPrepared := within_preparedMethod index within withinFirst
      have settlesPrepared : method.signature.Settles (template.preparedMethod index method) :=
        version.settles_preparedMethod declares.head
      have sameNames := Renaming.boundNames_of_version version settlesPrepared
      rcases method with ⟨position, id, name, signature, body⟩
      rw [checkMethods]
      refine (overlooks_checkFunction (sameNames ▸ function) withinPrepared withinSome
        (overlooks_checkBody body function.body)).then ?_
      rintro resolved ⟨withinResolved, settles⟩
      refine (overlooks_updateMethod index usedHere within withinResolved).then ?_
      rintro updated rfl
      refine (overlooks_addFunction id withinResolved).then fun _ _ => ?_
      have settled := Template.settles_of_prepared settles
      exact overlooks_checkMethods written _ (index + 1) rest used
        (version.setMethod settled) (Template.within_setMethod index within withinResolved)
        declares.tail withinRest functionsRest
  termination_by structural methods

theorem overlooks_searchBody (block : Block)
    (fits : ∀ stmt ∈ block.body, Fits hidden (.stmt stmt)) :
    Overlooks hidden false (limits hidden).WithinOption (searchBody block) := by
  rcases block with ⟨position, body⟩
  rw [searchBody]
  exact overlooks_searchStmts body fits
  termination_by structural block

theorem overlooks_searchStmts (body : List Stmt)
    (fits : ∀ stmt ∈ body, Fits hidden (.stmt stmt)) :
    Overlooks hidden false (limits hidden).WithinOption (searchStmts body) := by
  cases body with
  | nil =>
      rw [searchStmts]
      exact overlooks_pure nofun
  | cons stmt rest =>
      rw [searchStmts]
      rcases List.forall_mem_cons.mp fits with ⟨fitsFirst, fitsRest⟩
      refine (overlooks_searchStmt stmt fitsFirst).then fun found within => ?_
      split
      · exact overlooks_pure within
      · exact overlooks_searchStmts rest fitsRest
  termination_by structural body

theorem overlooks_searchStmt (stmt : Stmt) (fits : Fits hidden (.stmt stmt)) :
    Overlooks hidden false (limits hidden).WithinOption (searchStmt stmt) := by
  have operand {expr : Expr} (member : expr ∈ stmt.operands) : Fits hidden (.expr expr) :=
    fits.of_holds (.stmtOperand member)
  have nested {block : Block} (among : block ∈ stmt.blocks) (inner : Stmt)
      (member : inner ∈ block.body) : Fits hidden (.stmt inner) :=
    fits.of_holds (.nested among member)
  have moved {action : Checker (Option Ty)}
      (overlooks : Overlooks hidden false (limits hidden).WithinOption action) :
      Overlooks hidden false (limits hidden).WithinOption
        (moveTo stmt.position >>= fun _ => action) :=
    (overlooks_moveTo stmt.position).then fun _ _ => overlooks
  have nothing : Overlooks hidden false (limits hidden).WithinOption (pure none) :=
    overlooks_pure nofun
  cases stmt with
  | returning position value =>
      rw [searchStmt]
      refine moved (Overlooks.then (overlooks_checkReturned value fun expr among => operand ?_) ?_)
      · exact Option.mem_toList.mpr among
      · exact fun type within => overlooks_pure fun _ found => Option.some.inj found ▸ within
  | varDecl position id name declared initializer =>
      rw [searchStmt]
      have typed : Overlooks hidden false (·.Within (limits hidden).mentions)
          (if declared.isInfer then checkExpr initializer else resolve declared) := by
        split
        · exact overlooks_checkExpr initializer (operand List.mem_cons_self)
        · exact overlooks_resolve
            (fits.of_holds (.declaredType position id name declared initializer)).type
      refine moved ((overlooks_attempt typed).then fun type within => ?_)
      exact (overlooks_defineFound (fits.used name List.mem_cons_self) within).then
        fun _ _ => nothing
  | fnDecl declaration =>
      have used := fits.used declaration.name List.mem_cons_self
      have function := fits.function List.mem_cons_self fun stmt member => .functionBody member
      have withinSignature :=
        (Ty.within_function _).mp (fits.of_holds (.functionType declaration)).type
      rcases declaration with ⟨position, id, name, signature, body⟩
      rw [searchStmt]
      refine moved ((overlooks_prepareSignature function withinSignature within_no_template
        (overlooks_searchBody body function.body)).then ?_)
      rintro prepared ⟨within, _⟩
      have withinFound : (limits hidden).WithinOption (some (.function prepared)) :=
        fun _ found => Option.some.inj found ▸ (Ty.within_function prepared).mpr within
      exact (overlooks_defineFound used withinFound).then fun _ _ => nothing
  | block content =>
      rw [searchStmt]
      exact moved (overlooks_searchUnbound
        (overlooks_searchBody content (nested List.mem_cons_self)))
  | ifElse position condition thenBlock elseBlock =>
      rw [searchStmt]
      refine moved ((overlooks_searchUnbound
        (overlooks_searchBody thenBlock (nested List.mem_cons_self))).then fun found within => ?_)
      split
      · exact overlooks_pure within
      · exact overlooks_searchElse elseBlock fun block among =>
          nested (List.mem_cons_of_mem _ (Option.mem_toList.mpr among))
  | whileLoop position condition body =>
      rw [searchStmt]
      exact moved (overlooks_searchUnbound
        (overlooks_searchBody body (nested List.mem_cons_self)))
  | range position name first last step body =>
      rw [searchStmt]
      have used := fits.used name List.mem_cons_self
      refine moved (overlooks_searchBlock (fun entry found => ?_) (fun entry found => ?_)
        (overlooks_searchBody body (nested List.mem_cons_self)))
      · exact Option.some.inj found ▸ used
      · exact Option.some.inj found ▸ Ty.within_primitive _
  | each position name iterable body =>
      rw [searchStmt]
      have used := fits.used name List.mem_cons_self
      refine moved ((overlooks_checkExpr iterable (operand List.mem_cons_self)).then ?_)
      intro type within
      have element : Overlooks hidden false (·.Within (limits hidden).mentions)
          (follow (Rule.iterated type)) :=
        overlooks_follow fun _ typed => (mentionLaw _).holds_iterated within typed
      refine element.then fun found withinFound => ?_
      refine overlooks_searchBlock (fun entry same => ?_) (fun entry same => ?_)
        (overlooks_searchBody body (nested List.mem_cons_self))
      · exact Option.some.inj same ▸ used
      · exact Option.some.inj same ▸ withinFound
  | expression position expression => exact moved nothing
  | halt position => exact moved nothing
  | skip position => exact moved nothing
  | echo position expression => exact moved nothing
  | templateDecl position name attributes methods => exact moved nothing
  termination_by structural stmt

theorem overlooks_searchElse (elseBlock : Option Block)
    (fits : ∀ block ∈ elseBlock, ∀ stmt ∈ block.body, Fits hidden (.stmt stmt)) :
    Overlooks hidden false (limits hidden).WithinOption (searchElse elseBlock) := by
  cases elseBlock with
  | none =>
      rw [searchElse]
      exact overlooks_pure nofun
  | some block =>
      rw [searchElse]
      exact overlooks_searchUnbound (overlooks_searchBody block (fits block rfl))
  termination_by structural elseBlock

end

end Unused

end ScriptCheck
