import ScriptCheck.Proofs.Typing.Law

/-!
# Checks under a law

Where a law holds for all that a piece of code writes, declares and records, its check upholds the
law, and so does the search for a first returned value. There is one case for each form of
expressions and statements. The literals of sets and maps are the one place where it matters that
elements and keys are checked to be hashable.
-/

namespace ScriptCheck.Law

open Checker

variable {law : Law}

section Functions

variable {position : Position} {name : String}

/-- What a law asks of a function or a method, apart from what is recorded for it. -/
structure AdmittedFunction (law : Law) (declaration : FnDecl) : Prop where
  signature : law.HoldsFor declaration.signature
  body : ∀ stmt ∈ declaration.body.body, law.Admitted (.stmt stmt)

theorem Admitted.function {declaration : FnDecl}
    (admitted : law.Admitted (.stmt (.fnDecl declaration))) :
    law.AdmittedFunction declaration where
  signature := (admitted.of_holds (.functionType declaration)).self
  body _ member := admitted.of_holds (.functionBody member)

theorem Admitted.method {attributes : List (String × Ty)} {methods : List FnDecl} {method : FnDecl}
    (admitted : law.Admitted (.stmt (.templateDecl position name attributes methods)))
    (among : method ∈ methods) : law.AdmittedFunction method where
  signature := (admitted.of_holds (.methodType position name attributes among)).self
  body _ member := admitted.of_holds (.methodBody position name attributes among member)

theorem Admitted.template {attributes : List (String × Ty)} {methods : List FnDecl}
    (admitted : law.Admitted (.stmt (.templateDecl position name attributes methods))) :
    law.Declarable (declaredTemplate name attributes methods) := by
  refine ⟨admitted.self.1, fun entry member => ?_, fun method member => ?_⟩
  · exact (admitted.of_holds (.attributeType position name methods member)).self
  · rcases List.mem_map.mp member with ⟨declaration, among, rfl⟩
    exact (admitted.method among).signature

theorem holds_preparedMethod {template : Template} (index : Nat) {method : FnDecl}
    (members : law.Members template) (holds : law.HoldsFor method.signature) :
    law.HoldsFor (template.preparedMethod index method) := by
  unfold Template.preparedMethod
  cases found : template.methods[index]? with
  | none => exact holds
  | some prepared => exact members.2 prepared (List.mem_of_getElem? found)

end Functions

mutual

theorem upholds_checkExpr {watched : Bool} (expr : Expr) (admitted : law.Admitted (.expr expr)) :
    law.Upholds watched law.Holds (checkExpr expr) := by
  have resolved (action : Checker Ty)
      (upholds : law.Upholds watched law.Holds action) :
      law.Upholds watched law.Holds (resolve =<< action) :=
    upholds.bind fun _ holds => upholds_resolve holds
  have inner {operand : Expr} (member : operand ∈ expr.operands) :
      law.Admitted (.expr operand) := admitted.of_holds (.operand member)
  cases expr with
  | integer value => exact resolved _ (upholds_pure (law.primitive _))
  | float value => exact resolved _ (upholds_pure (law.primitive _))
  | string value => exact resolved _ (upholds_pure (law.primitive _))
  | boolean value => exact resolved _ (upholds_pure (law.primitive _))
  | null => exact resolved _ (upholds_pure (law.primitive _))
  | array elements =>
      rw [checkExpr]
      refine resolved _ ((upholds_checkElements "array" elements fun _ => inner).bind ?_)
      exact fun element found => upholds_pure ((law.array_iff element).mpr found.1)
  | set elements =>
      rw [checkExpr]
      refine resolved _ ((upholds_checkElements "set" elements fun _ => inner).bind ?_)
      rintro element ⟨holds, hashableEmpty⟩
      have checked : law.Upholds watched (fun _ => element.isHashable = true)
          (follow (Rule.hashableElement elements.isEmpty element)) :=
        upholds_follow fun _ typed => Rule.isHashable_of_hashableElement hashableEmpty typed
      exact checked.bind fun _ hashable => upholds_pure (law.set hashable holds)
  | map pairs =>
      rw [checkExpr]
      refine resolved _ (upholds_checkMap pairs fun pair member => ⟨inner ?_, inner ?_⟩)
      · exact List.mem_flatMap.mpr ⟨pair, member, List.mem_cons_self⟩
      · exact List.mem_flatMap.mpr ⟨pair, member, List.mem_cons_of_mem _ List.mem_cons_self⟩
  | entity name attributes =>
      rw [checkExpr]
      refine resolved _ ((upholds_templateOr _ _).bind fun template holds => ?_)
      have values (entry : String × Expr) (member : entry ∈ attributes) :
          law.Admitted (.expr entry.2) := inner (List.mem_map_of_mem member)
      have members := law.members holds
      exact (upholds_checkAttributes template attributes members values).bind fun _ _ =>
        upholds_pure holds
  | function params body =>
      rw [checkExpr]
      have holds : law.HoldsFor { result := .infer, params } :=
        (admitted.of_holds (.literalType params body)).self
      have statements (stmt : Stmt) (member : stmt ∈ body.body) : law.Admitted (.stmt stmt) :=
        admitted.of_holds (.literalBody params member)
      refine resolved _ ((upholds_mentions _).bind fun _ _ => ?_)
      refine (upholds_inferResult _ holds members_no_template
        (upholds_searchBody body statements)).bind fun prepared holdsPrepared => ?_
      refine (upholds_inFunction holdsPrepared members_no_template
        (keeps_checkBody body) (upholds_checkBody body statements)).bind ?_
      exact fun found holdsFound => upholds_pure holdsFound
  | identifier name =>
      rw [checkExpr]
      refine resolved _ ((upholds_lookup? .function name).bind fun found holds => ?_)
      split
      · exact upholds_pure (holds _ rfl)
      · exact upholds_fail _
  | unary operator fixity operand =>
      rw [checkExpr]
      refine resolved _ ((upholds_check _).bind fun _ _ => ?_)
      refine (upholds_checkExpr operand (inner List.mem_cons_self)).bind fun type holds => ?_
      exact upholds_follow fun _ typed => law.holds_unary holds typed
  | binary operator left right =>
      rw [checkExpr]
      refine resolved _ ((upholds_checkExpr left (inner List.mem_cons_self)).bind ?_)
      intro type holds
      refine (upholds_checkExpr right (inner (by simp [Expr.operands]))).bind fun other _ => ?_
      exact upholds_follow fun _ typed => law.holds_binary holds typed
  | assignment target value =>
      rw [checkExpr]
      refine resolved _ ((upholds_checkExpr target (inner List.mem_cons_self)).bind ?_)
      intro type holds
      refine (upholds_checkExpr value (inner (by simp [Expr.operands]))).bind fun other _ => ?_
      exact upholds_follow fun _ typed => law.holds_assignment holds typed
  | index base index =>
      rw [checkExpr]
      refine resolved _ ((upholds_checkExpr base (inner List.mem_cons_self)).bind ?_)
      intro type holds
      refine (upholds_checkExpr index (inner (by simp [Expr.operands]))).bind fun other _ => ?_
      exact upholds_follow fun _ typed => law.holds_index holds typed
  | call callee arguments =>
      rw [checkExpr]
      refine resolved _ (Upholds.bind (upholds_calleeSignature _ _ fun unnamed => ?_) ?_)
      · exact upholds_checkExpr callee (inner (by simp [Expr.operands, unnamed]))
      · intro signature holds
        have values (argument : Expr) (member : argument ∈ arguments) :
            law.Admitted (.expr argument) := inner (by
          rw [Expr.operands]
          split
          · exact member
          · exact List.mem_cons_of_mem _ member)
        exact (upholds_checkArguments signature.params arguments values).bind fun _ _ =>
          upholds_pure ((law.function_iff _).mp holds).1
  | member object name =>
      rw [checkExpr]
      refine resolved _ ((upholds_checkExpr object (inner List.mem_cons_self)).bind ?_)
      exact fun type holds => upholds_follow fun _ typed => law.holds_member holds typed
  | methodCall object name arguments =>
      rw [checkExpr]
      refine resolved _ ((upholds_checkExpr object (inner List.mem_cons_self)).bind ?_)
      intro type holds
      have method : law.Upholds watched law.HoldsFor
          (follow (Rule.method type name arguments.length)) :=
        upholds_follow fun _ typed => law.holds_method holds typed
      refine method.bind fun signature holdsMethod => ?_
      have values (argument : Expr) (member : argument ∈ arguments) :
          law.Admitted (.expr argument) := inner (List.mem_cons_of_mem _ member)
      exact (upholds_checkArguments signature.params arguments values).bind fun _ _ =>
        upholds_pure ((law.function_iff _).mp holdsMethod).1
  termination_by structural expr

theorem upholds_checkElements {watched : Bool} (collection : String) (elements : List Expr)
    (admitted : ∀ expr ∈ elements, law.Admitted (.expr expr)) :
    law.Upholds watched
      (fun element => law.Holds element ∧ (elements.isEmpty = true → element.isHashable = true))
      (checkElements collection elements) := by
  cases elements with
  | nil =>
      rw [checkElements]
      exact upholds_pure ⟨law.primitive _, fun _ => rfl⟩
  | cons first rest =>
      rw [checkElements]
      rcases List.forall_mem_cons.mp admitted with ⟨admittedFirst, admittedRest⟩
      refine (upholds_checkExpr first admittedFirst).bind fun expected holds => ?_
      exact (upholds_checkRest collection expected rest admittedRest).bind fun _ _ =>
        upholds_pure ⟨holds, fun empty => nomatch empty⟩
  termination_by structural elements

theorem upholds_checkRest {watched : Bool} (collection : String) (expected : Ty)
    (elements : List Expr) (admitted : ∀ expr ∈ elements, law.Admitted (.expr expr)) :
    law.Upholds watched (fun _ => True) (checkRest collection expected elements) := by
  cases elements with
  | nil =>
      rw [checkRest]
      exact upholds_pure trivial
  | cons next rest =>
      rw [checkRest]
      rcases List.forall_mem_cons.mp admitted with ⟨admittedNext, admittedRest⟩
      refine (upholds_checkExpr next admittedNext).bind fun _ _ => (upholds_check _).bind ?_
      exact fun _ _ => upholds_checkRest collection expected rest admittedRest
  termination_by structural elements

theorem upholds_checkMap {watched : Bool} (pairs : List (Expr × Expr))
    (admitted : ∀ pair ∈ pairs, law.Admitted (.expr pair.1) ∧ law.Admitted (.expr pair.2)) :
    law.Upholds watched law.Holds (checkMap pairs) := by
  cases pairs with
  | nil =>
      rw [checkMap]
      exact upholds_pure (law.map rfl (law.primitive _) (law.primitive _))
  | cons pair rest =>
      rcases pair with ⟨first, second⟩
      rw [checkMap]
      rcases List.forall_mem_cons.mp admitted with ⟨⟨admittedFirst, admittedSecond⟩, admittedRest⟩
      refine (upholds_checkExpr first admittedFirst).bind fun key holdsKey => ?_
      refine (upholds_checkExpr second admittedSecond).bind fun value holdsValue => ?_
      have checked : law.Upholds watched (fun _ => key.isHashable = true)
          (follow (Rule.hashableKey key)) :=
        upholds_follow fun _ typed => Rule.isHashable_of_hashableKey typed
      refine checked.bind fun _ hashable => ?_
      exact (upholds_checkPairs key value rest admittedRest).bind fun _ _ =>
        upholds_pure (law.map hashable holdsKey holdsValue)
  termination_by structural pairs

theorem upholds_checkPairs {watched : Bool} (key value : Ty) (pairs : List (Expr × Expr))
    (admitted : ∀ pair ∈ pairs, law.Admitted (.expr pair.1) ∧ law.Admitted (.expr pair.2)) :
    law.Upholds watched (fun _ => True) (checkPairs key value pairs) := by
  cases pairs with
  | nil =>
      rw [checkPairs]
      exact upholds_pure trivial
  | cons pair rest =>
      rcases pair with ⟨first, second⟩
      rw [checkPairs]
      rcases List.forall_mem_cons.mp admitted with ⟨⟨admittedFirst, admittedSecond⟩, admittedRest⟩
      refine (upholds_checkExpr first admittedFirst).bind fun _ _ => (upholds_check _).bind ?_
      intro _ _
      refine (upholds_checkExpr second admittedSecond).bind fun _ _ => (upholds_check _).bind ?_
      exact fun _ _ => upholds_checkPairs key value rest admittedRest
  termination_by structural pairs

theorem upholds_checkAttributes {watched : Bool} (template : Template)
    (attributes : List (String × Expr)) (members : law.Members template)
    (admitted : ∀ entry ∈ attributes, law.Admitted (.expr entry.2)) :
    law.Upholds watched (fun _ => True) (checkAttributes template attributes) := by
  cases attributes with
  | nil =>
      rw [checkAttributes]
      exact upholds_pure trivial
  | cons entry rest =>
      rcases entry with ⟨name, expr⟩
      rw [checkAttributes]
      rcases List.forall_mem_cons.mp admitted with ⟨admittedFirst, admittedRest⟩
      refine (upholds_declaredAttribute name members).bind fun _ _ => ?_
      refine (upholds_checkExpr expr admittedFirst).bind fun _ _ => (upholds_check _).bind ?_
      exact fun _ _ => upholds_checkAttributes template rest members admittedRest
  termination_by structural attributes

theorem upholds_checkArguments {watched : Bool} (params : List (String × Ty))
    (arguments : List Expr) (admitted : ∀ expr ∈ arguments, law.Admitted (.expr expr)) :
    law.Upholds watched (fun _ => True) (checkArguments params arguments) := by
  cases arguments with
  | nil =>
      rw [checkArguments]
      exact upholds_pure trivial
  | cons next rest =>
      rcases List.forall_mem_cons.mp admitted with ⟨admittedNext, admittedRest⟩
      cases params with
      | nil =>
          rw [checkArguments]
          exact upholds_pure trivial
      | cons param others =>
          rcases param with ⟨name, expected⟩
          rw [checkArguments]
          refine (upholds_checkExpr next admittedNext).bind fun _ _ => (upholds_check _).bind ?_
          exact fun _ _ => upholds_checkArguments others rest admittedRest
  termination_by structural arguments

theorem upholds_checkStmt {watched : Bool} (stmt : Stmt) (admitted : law.Admitted (.stmt stmt)) :
    law.Upholds watched (fun _ => True) (checkStmt stmt) := by
  have operand {expr : Expr} (member : expr ∈ stmt.operands) : law.Admitted (.expr expr) :=
    admitted.of_holds (.stmtOperand member)
  have nested {block : Block} (among : block ∈ stmt.blocks) (inner : Stmt)
      (member : inner ∈ block.body) : law.Admitted (.stmt inner) :=
    admitted.of_holds (.nested among member)
  cases stmt with
  | varDecl position id name declared initializer =>
      rw [checkStmt]
      have holdsDeclared := (admitted.of_holds
        (.declaredType position id name declared initializer)).self
      refine upholds_atStmt position ((upholds_checkExpr initializer
        (operand List.mem_cons_self)).bind fun actual holds => ?_)
      exact upholds_declareVariable name admitted.self holdsDeclared holds
  | expression position expression =>
      rw [checkStmt]
      exact upholds_atStmt position (upholds_checkExpr expression
        (operand List.mem_cons_self)).discard
  | block content =>
      rw [checkStmt]
      exact upholds_atStmt content.position (upholds_within rfl (keeps_checkBody content)
        (upholds_checkBody content (nested List.mem_cons_self))).discard
  | ifElse position condition thenBlock elseBlock =>
      rw [checkStmt]
      refine upholds_atStmt position ((upholds_checkExpr condition
        (operand List.mem_cons_self)).bind fun _ _ => ?_)
      refine (upholds_check _).bind fun _ _ => (upholds_require _ _).bind fun _ _ => ?_
      refine (upholds_within rfl (keeps_checkBody thenBlock)
        (upholds_checkBody thenBlock (nested List.mem_cons_self))).bind fun first _ => ?_
      refine (upholds_require _ _).bind fun _ _ => ?_
      refine (upholds_checkElse elseBlock fun block among => nested ?_).bind fun goesOn _ => ?_
      · exact List.mem_cons_of_mem _ (Option.mem_toList.mpr among)
      · split
        · exact upholds_pure trivial
        · exact upholds_setUnreachable
  | whileLoop position condition body =>
      rw [checkStmt]
      refine upholds_atStmt position ((upholds_checkExpr condition
        (operand List.mem_cons_self)).bind fun _ _ => (upholds_check _).bind fun _ _ => ?_)
      exact (upholds_within rfl (keeps_checkBody body)
        (upholds_checkBody body (nested List.mem_cons_self))).discard
  | range position name first last step body =>
      rw [checkStmt]
      have inBody : law.Upholds watched (fun _ => True) (do define name .int; checkBody body) :=
        (upholds_define name (law.primitive .int)).bind fun _ _ =>
          upholds_checkBody body (nested List.mem_cons_self)
      have keeps := (keeps_define_kept name .int).bind (fun _ => keeps_checkBody body)
        fun _ _ _ => ScopeStack.Kept.trans
      refine upholds_atStmt position ((upholds_checkExpr first
        (operand List.mem_cons_self)).bind fun _ _ => (upholds_check _).bind fun _ _ => ?_)
      refine (upholds_checkExpr last (operand (by simp [Stmt.operands]))).bind fun _ _ =>
        (upholds_check _).bind fun _ _ => ?_
      refine (upholds_checkExpr step (operand (by simp [Stmt.operands]))).bind fun _ _ =>
        (upholds_check _).bind fun _ _ => ?_
      exact (upholds_within rfl keeps inBody).discard
  | each position name iterable body =>
      rw [checkStmt]
      refine upholds_atStmt position ((upholds_checkExpr iterable
        (operand List.mem_cons_self)).bind fun type holds => ?_)
      have element : law.Upholds watched law.Holds
          (follow (Rule.iterated type)) :=
        upholds_follow fun _ typed => law.holds_iterated holds typed
      refine element.bind fun found holdsFound => ?_
      have keeps := (keeps_define_kept name found).bind (fun _ => keeps_checkBody body)
        fun _ _ _ => ScopeStack.Kept.trans
      exact (upholds_within rfl keeps ((upholds_define name holdsFound).bind fun _ _ =>
        upholds_checkBody body (nested List.mem_cons_self))).discard
  | halt position =>
      rw [checkStmt]
      exact upholds_atStmt position (upholds_leaveRound _)
  | skip position =>
      rw [checkStmt]
      exact upholds_atStmt position (upholds_leaveRound _)
  | returning position value =>
      rw [checkStmt]
      refine upholds_atStmt position (upholds_expectedResult.bind fun expected _ => ?_)
      refine (upholds_checkReturned value fun expr among => operand ?_).bind fun actual holds => ?_
      · exact Option.mem_toList.mpr among
      · exact upholds_returnType expected holds
  | fnDecl declaration =>
      rw [checkStmt]
      exact upholds_atStmt declaration.position
        (upholds_checkFnDecl declaration admitted.self admitted.function)
  | echo position expression =>
      rw [checkStmt]
      exact upholds_atStmt position (upholds_checkExpr expression
        (operand List.mem_cons_self)).discard
  | templateDecl position name attributes methods =>
      rw [checkStmt]
      have functions (method : FnDecl) (among : method ∈ methods) :
          law.AdmittedFunction method := admitted.method among
      refine upholds_atStmt position ((upholds_declareTemplate ?_).bind fun _ _ => ?_)
      · exact admitted.template.holds
      · refine (upholds_prepareMethods _ 0 methods admitted.template functions).bind ?_
        exact fun prepared declarable =>
          upholds_checkMethods prepared 0 methods declarable admitted.self.2 functions
  termination_by structural stmt

theorem upholds_checkElse {watched : Bool} (elseBlock : Option Block)
    (admitted : ∀ block ∈ elseBlock, ∀ stmt ∈ block.body, law.Admitted (.stmt stmt)) :
    law.Upholds watched (fun _ => True) (checkElse elseBlock) := by
  cases elseBlock with
  | none =>
      rw [checkElse]
      exact upholds_pure trivial
  | some block =>
      rw [checkElse]
      exact (upholds_within rfl (keeps_checkBody block)
        (upholds_checkBody block (admitted block rfl))).bind fun _ _ => upholds_pure trivial
  termination_by structural elseBlock

theorem upholds_checkReturned {watched : Bool} (value : Option Expr)
    (admitted : ∀ expr ∈ value, law.Admitted (.expr expr)) :
    law.Upholds watched law.Holds (checkReturned value) := by
  cases value with
  | none =>
      rw [checkReturned]
      exact upholds_pure (law.primitive _)
  | some expr =>
      rw [checkReturned]
      exact upholds_checkExpr expr (admitted expr rfl)
  termination_by structural value

theorem upholds_checkBody {watched : Bool} (block : Block)
    (admitted : ∀ stmt ∈ block.body, law.Admitted (.stmt stmt)) :
    law.Upholds watched (fun _ => True) (checkBody block) := by
  rcases block with ⟨position, body⟩
  rw [checkBody]
  exact upholds_checkStmts body admitted
  termination_by structural block

theorem upholds_checkStmts {watched : Bool} (body : List Stmt)
    (admitted : ∀ stmt ∈ body, law.Admitted (.stmt stmt)) :
    law.Upholds watched (fun _ => True) (checkStmts body) := by
  cases body with
  | nil =>
      rw [checkStmts]
      exact upholds_pure trivial
  | cons stmt rest =>
      rw [checkStmts]
      rcases List.forall_mem_cons.mp admitted with ⟨admittedFirst, admittedRest⟩
      refine (upholds_checkStmt stmt admittedFirst).bind fun _ _ => ?_
      exact upholds_checkStmts rest admittedRest
  termination_by structural body

theorem upholds_checkFnDecl {watched : Bool} (declaration : FnDecl)
    (records : law.RecordsFunction declaration) (admitted : law.AdmittedFunction declaration) :
    law.Upholds watched (fun _ => True) (checkFnDecl declaration) := by
  rcases declaration with ⟨position, id, name, signature, body⟩
  rw [checkFnDecl]
  refine upholds_scopes.bind fun stack _ => (upholds_require _ _).bind fun _ _ => ?_
  have checked : law.Upholds watched (fun _ => signature.checkHashable = .ok ())
      (follow signature.checkHashable) := upholds_follow fun _ typed => typed
  refine (upholds_mentions _).bind fun _ _ => checked.bind fun _ hashable => ?_
  refine (upholds_define name admitted.signature).bind fun _ _ => ?_
  refine ((upholds_inferResult _ admitted.signature members_no_template
    (upholds_searchBody body admitted.body)).of_runs fun _ _ _ prepares =>
      settles_of_prepareSignature prepares).bind ?_
  rintro prepared ⟨holdsPrepared, settles⟩
  refine (upholds_update name holdsPrepared).bind fun _ _ => ?_
  refine ((upholds_inFunction holdsPrepared members_no_template
    (keeps_checkBody body) (upholds_checkBody body admitted.body)).of_runs fun _ _ _ ran =>
      settles_of_checkFunction ran).bind ?_
  rintro resolved ⟨holdsResolved, settlesResolved⟩
  refine (upholds_replaceFunction name prepared holdsResolved).bind fun _ _ => ?_
  exact upholds_addFunction records holdsResolved hashable (settles.trans settlesResolved)
  termination_by structural declaration

theorem upholds_prepareMethods {watched : Bool} (template : Template) (index : Nat)
    (methods : List FnDecl) (declarable : law.Declarable template)
    (admitted : ∀ method ∈ methods, law.AdmittedFunction method) :
    law.Upholds watched law.Declarable (prepareMethods template index methods) := by
  cases methods with
  | nil =>
      rw [prepareMethods]
      exact upholds_pure declarable
  | cons method rest =>
      rcases List.forall_mem_cons.mp admitted with ⟨admittedFirst, admittedRest⟩
      rcases method with ⟨position, id, name, signature, body⟩
      rw [prepareMethods]
      refine (upholds_mentions _).bind fun _ _ => ?_
      have members (declared : Template) (same : declared ∈ some template) :
          law.Members declared := Option.some.inj same ▸ declarable.members
      refine (upholds_inferResult _ admittedFirst.signature members
        (upholds_searchBody body admittedFirst.body)).bind fun prepared holds => ?_
      refine (upholds_updateMethod index declarable holds).bind fun updated declarableUpdated => ?_
      exact upholds_prepareMethods updated (index + 1) rest declarableUpdated admittedRest
  termination_by structural methods

theorem upholds_checkMethods {watched : Bool} (template : Template) (index : Nat)
    (methods : List FnDecl) (declarable : law.Declarable template)
    (records : ∀ method ∈ methods, law.RecordsMethod method.id)
    (admitted : ∀ method ∈ methods, law.AdmittedFunction method) :
    law.Upholds watched (fun _ => True) (checkMethods template index methods) := by
  cases methods with
  | nil =>
      rw [checkMethods]
      exact upholds_pure trivial
  | cons method rest =>
      rcases List.forall_mem_cons.mp admitted with ⟨admittedFirst, admittedRest⟩
      rcases List.forall_mem_cons.mp records with ⟨recordsFirst, recordsRest⟩
      have prepared := holds_preparedMethod index declarable.members admittedFirst.signature
      rcases method with ⟨position, id, name, signature, body⟩
      rw [checkMethods]
      have members (declared : Template) (same : declared ∈ some template) :
          law.Members declared := Option.some.inj same ▸ declarable.members
      refine (upholds_inFunction prepared members (keeps_checkBody body)
        (upholds_checkBody body admittedFirst.body)).bind fun resolved holds => ?_
      refine (upholds_updateMethod index declarable holds).bind fun updated declarableUpdated => ?_
      refine (upholds_addMethod recordsFirst holds).bind fun _ _ => ?_
      exact upholds_checkMethods updated (index + 1) rest declarableUpdated recordsRest
        admittedRest
  termination_by structural methods

theorem upholds_searchBody (block : Block)
    (admitted : ∀ stmt ∈ block.body, law.Admitted (.stmt stmt)) :
    law.Upholds false law.HoldsOption (searchBody block) := by
  rcases block with ⟨position, body⟩
  rw [searchBody]
  exact upholds_searchStmts body admitted
  termination_by structural block

theorem upholds_searchStmts (body : List Stmt)
    (admitted : ∀ stmt ∈ body, law.Admitted (.stmt stmt)) :
    law.Upholds false law.HoldsOption (searchStmts body) := by
  cases body with
  | nil =>
      rw [searchStmts]
      exact upholds_pure fun _ impossible => nomatch impossible
  | cons stmt rest =>
      rw [searchStmts]
      rcases List.forall_mem_cons.mp admitted with ⟨admittedFirst, admittedRest⟩
      refine (upholds_searchStmt stmt admittedFirst).bind fun found holds => ?_
      split
      · exact upholds_pure holds
      · exact upholds_searchStmts rest admittedRest
  termination_by structural body

theorem upholds_searchStmt (stmt : Stmt) (admitted : law.Admitted (.stmt stmt)) :
    law.Upholds false law.HoldsOption (searchStmt stmt) := by
  have operand {expr : Expr} (member : expr ∈ stmt.operands) : law.Admitted (.expr expr) :=
    admitted.of_holds (.stmtOperand member)
  have nested {block : Block} (among : block ∈ stmt.blocks) (inner : Stmt)
      (member : inner ∈ block.body) : law.Admitted (.stmt inner) :=
    admitted.of_holds (.nested among member)
  have moved {action : Checker (Option Ty)}
      (upholds : law.Upholds false law.HoldsOption action) :
      law.Upholds false law.HoldsOption (moveTo stmt.position >>= fun _ => action) :=
    (upholds_moveTo stmt.position).bind fun _ _ => upholds
  have nothing : law.Upholds false law.HoldsOption (pure none) :=
    upholds_pure fun _ impossible => nomatch impossible
  have unbound (entry : String × Ty) (impossible : entry ∈ (none : Option (String × Ty))) :
      law.Holds entry.2 := nomatch impossible
  cases stmt with
  | returning position value =>
      rw [searchStmt]
      refine moved (Upholds.bind (upholds_checkReturned value fun expr among => operand ?_) ?_)
      · exact Option.mem_toList.mpr among
      · exact fun type holds => upholds_pure fun _ same => Option.some.inj same ▸ holds
  | varDecl position id name declared initializer =>
      rw [searchStmt]
      have typed : law.Upholds false law.Holds
          (if declared.isInfer then checkExpr initializer else resolve declared) := by
        split
        · exact upholds_checkExpr initializer (operand List.mem_cons_self)
        · exact upholds_resolve (admitted.of_holds
            (.declaredType position id name declared initializer)).self
      refine moved ((upholds_attempt typed).bind fun type holds => ?_)
      exact (upholds_defineFound name holds).bind fun _ _ => nothing
  | fnDecl declaration =>
      have function := admitted.function
      rcases declaration with ⟨position, id, name, signature, body⟩
      rw [searchStmt]
      refine moved ((upholds_inferResult _ function.signature members_no_template
        (upholds_searchBody body function.body)).bind fun prepared holds => ?_)
      have holdsFound : law.HoldsOption (some (.function prepared)) := fun _ same =>
        Option.some.inj same ▸ holds
      exact (upholds_defineFound name holdsFound).bind fun _ _ => nothing
  | block content =>
      rw [searchStmt]
      exact moved (upholds_searchBlock unbound
        (upholds_searchBody content (nested List.mem_cons_self)))
  | ifElse position condition thenBlock elseBlock =>
      rw [searchStmt]
      refine moved ((upholds_searchBlock unbound
        (upholds_searchBody thenBlock (nested List.mem_cons_self))).bind fun found holds => ?_)
      split
      · exact upholds_pure holds
      · exact upholds_searchElse elseBlock fun block among =>
          nested (List.mem_cons_of_mem _ (Option.mem_toList.mpr among))
  | whileLoop position condition body =>
      rw [searchStmt]
      exact moved (upholds_searchBlock unbound
        (upholds_searchBody body (nested List.mem_cons_self)))
  | range position name first last step body =>
      rw [searchStmt]
      refine moved (upholds_searchBlock (fun entry same => ?_)
        (upholds_searchBody body (nested List.mem_cons_self)))
      exact Option.some.inj same ▸ law.primitive _
  | each position name iterable body =>
      rw [searchStmt]
      refine moved ((upholds_checkExpr iterable (operand List.mem_cons_self)).bind ?_)
      intro type holds
      have element : law.Upholds false law.Holds
          (follow (Rule.iterated type)) :=
        upholds_follow fun _ typed => law.holds_iterated holds typed
      refine element.bind fun found holdsFound => ?_
      refine upholds_searchBlock (fun entry same => ?_)
        (upholds_searchBody body (nested List.mem_cons_self))
      exact Option.some.inj same ▸ holdsFound
  | expression position expression => exact moved nothing
  | halt position => exact moved nothing
  | skip position => exact moved nothing
  | echo position expression => exact moved nothing
  | templateDecl position name attributes methods => exact moved nothing
  termination_by structural stmt

theorem upholds_searchElse (elseBlock : Option Block)
    (admitted : ∀ block ∈ elseBlock, ∀ stmt ∈ block.body, law.Admitted (.stmt stmt)) :
    law.Upholds false law.HoldsOption (searchElse elseBlock) := by
  cases elseBlock with
  | none =>
      rw [searchElse]
      exact upholds_pure fun _ impossible => nomatch impossible
  | some block =>
      rw [searchElse]
      exact upholds_searchBlock (fun _ impossible => nomatch impossible)
        (upholds_searchBody block (admitted block rfl))
  termination_by structural elseBlock

end

end ScriptCheck.Law
