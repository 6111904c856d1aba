import ScriptCheck.Proofs.Typing.Mismatch

/-!
# Mismatches show two different types

One case for each form of expression and statement: where its parts keep to the law of names, its
check discerns. What is compared are the types of parts, written types, and types in scope, and the
law holds for all of them. So where a source is refused for a mismatch, the two types in the
diagnostic are shown differently.
-/

namespace ScriptCheck

namespace Checker

open Law

mutual

theorem discerns_checkExpr (expr : Expr) (admitted : nameLaw.Admitted (.expr expr)) :
    Discerns CheckState.Spelled (checkExpr expr) := by
  have resolved {action : Checker Ty} (discerns : Discerns CheckState.Spelled action) :
      Discerns CheckState.Spelled (resolve =<< action) :=
    discerns.then fun type => (plain_resolve type).discerns
  have inner {operand : Expr} (member : operand ∈ expr.operands) :
      nameLaw.Admitted (.expr operand) := admitted.of_holds (.operand member)
  cases expr with
  | integer value => exact resolved (discerns_pure _)
  | float value => exact resolved (discerns_pure _)
  | string value => exact resolved (discerns_pure _)
  | boolean value => exact resolved (discerns_pure _)
  | null => exact resolved (discerns_pure _)
  | array elements =>
      rw [checkExpr]
      apply resolved
      apply (discerns_checkElements "array" elements fun _ => inner).then
      intro element
      exact discerns_pure _
  | set elements =>
      rw [checkExpr]
      apply resolved
      apply (discerns_checkElements "set" elements fun _ => inner).then
      intro element
      apply (plain_follow (Rule.plain_hashableElement _ element)).discerns.then
      intro _
      exact discerns_pure _
  | map pairs =>
      rw [checkExpr]
      apply resolved
      apply discerns_checkMap pairs
      intro pair member
      refine ⟨inner ?_, inner ?_⟩
      · exact List.mem_flatMap.mpr ⟨pair, member, List.mem_cons_self⟩
      · exact List.mem_flatMap.mpr ⟨pair, member, List.mem_cons_of_mem _ List.mem_cons_self⟩
  | entity name attributes =>
      rw [checkExpr]
      apply resolved
      have values (entry : String × Expr) (member : entry ∈ attributes) :
          nameLaw.Admitted (.expr entry.2) := inner (List.mem_map_of_mem member)
      apply (plain_templateOr name (by simp)).discerns.bind (upholds_templateOr _ name)
      intro template holds
      apply (discerns_checkAttributes template attributes (nameLaw.members holds) values).then
      intro _
      exact discerns_pure _
  | function params body =>
      rw [checkExpr]
      apply resolved
      have holds : nameLaw.HoldsFor { result := .infer, params } :=
        (admitted.of_holds (.literalType params body)).self
      have statements (stmt : Stmt) (member : stmt ∈ body.body) : nameLaw.Admitted (.stmt stmt) :=
        admitted.of_holds (.literalBody params member)
      apply (plain_mentions _).discerns.bind (upholds_mentions _)
      intro _ _
      apply (plain_inferResult _ _ _ _).discerns.bind
        (upholds_inferResult _ holds members_no_template (upholds_searchBody body statements))
      intro prepared holdsPrepared
      apply (discerns_inFunction holdsPrepared members_no_template
        (discerns_checkBody body statements)).then
      intro _
      exact discerns_pure _
  | identifier name =>
      rw [checkExpr]
      apply resolved
      apply (plain_lookup? .function name).discerns.then
      intro found
      split
      · exact discerns_pure _
      · exact (plain_fail ⟨rfl, by simp⟩).discerns
  | unary operator fixity operand =>
      rw [checkExpr]
      apply resolved
      apply discerns_check (Rule.plain_stepOperand operator operand).discerns
      intro _
      apply (discerns_checkExpr operand (inner List.mem_cons_self)).then
      intro type
      exact (plain_follow (Rule.plain_unary operator type)).discerns
  | binary operator left right =>
      rw [checkExpr]
      apply resolved
      have admittedLeft : nameLaw.Admitted (.expr left) := inner List.mem_cons_self
      have admittedRight : nameLaw.Admitted (.expr right) := inner (by simp [Expr.operands])
      apply (discerns_checkExpr left admittedLeft).typed admittedLeft
      intro leftType spelledLeft
      apply (discerns_checkExpr right admittedRight).typed admittedRight
      intro rightType spelledRight
      exact discerns_follow (Rule.discerns_binary operator spelledLeft spelledRight)
  | assignment target value =>
      rw [checkExpr]
      apply resolved
      have admittedTarget : nameLaw.Admitted (.expr target) := inner List.mem_cons_self
      have admittedValue : nameLaw.Admitted (.expr value) := inner (by simp [Expr.operands])
      apply (discerns_checkExpr target admittedTarget).typed admittedTarget
      intro targetType spelledTarget
      apply (discerns_checkExpr value admittedValue).typed admittedValue
      intro valueType spelledValue
      exact discerns_follow (Rule.discerns_assignment spelledTarget spelledValue)
  | index base index =>
      rw [checkExpr]
      apply resolved
      have admittedBase : nameLaw.Admitted (.expr base) := inner List.mem_cons_self
      apply (discerns_checkExpr base admittedBase).typed admittedBase
      intro baseType _
      apply (discerns_checkExpr index (inner (by simp [Expr.operands]))).then
      intro indexType
      exact (plain_follow (Rule.plain_index baseType indexType)).discerns
  | call callee arguments =>
      rw [checkExpr]
      apply resolved
      have values (argument : Expr) (member : argument ∈ arguments) :
          nameLaw.Admitted (.expr argument) := by
        apply inner
        rw [Expr.operands]
        split
        · exact member
        · exact List.mem_cons_of_mem _ member
      have admittedCallee (unnamed : callee.name? = none) : nameLaw.Admitted (.expr callee) :=
        inner (by simp [Expr.operands, unnamed])
      have discernsCallee : Discerns CheckState.Spelled
          (calleeSignature callee.name? arguments.length (checkExpr callee)) := by
        cases called : callee.name? with
        | some name => exact (plain_calledByName name _).discerns
        | none =>
            apply (discerns_checkExpr callee (admittedCallee called)).then
            intro type
            exact (plain_follow (Rule.plain_callee type _)).discerns
      apply discernsCallee.bind (upholds_calleeSignature _ _ fun unnamed =>
        upholds_checkExpr callee (admittedCallee unnamed))
      intro signature holds
      have spelled := ((nameLaw.function_iff signature).mp holds).2
      apply (discerns_checkArguments signature.params
        (fun param among => (spelled param among).2) arguments values).then
      intro _
      exact discerns_pure _
  | member object name =>
      rw [checkExpr]
      apply resolved
      apply (discerns_checkExpr object (inner List.mem_cons_self)).then
      intro type
      exact (plain_follow (Rule.plain_member type name)).discerns
  | methodCall object name arguments =>
      rw [checkExpr]
      apply resolved
      have admittedObject : nameLaw.Admitted (.expr object) := inner List.mem_cons_self
      have values (argument : Expr) (member : argument ∈ arguments) :
          nameLaw.Admitted (.expr argument) := inner (List.mem_cons_of_mem _ member)
      apply (discerns_checkExpr object admittedObject).typed admittedObject
      intro type spelledType
      have found : nameLaw.Upholds true nameLaw.HoldsFor
          (follow (Rule.method type name arguments.length)) :=
        upholds_follow fun _ typed => nameLaw.holds_method spelledType typed
      apply (plain_follow (Rule.plain_method type name _)).discerns.bind found
      intro signature holds
      have spelled := ((nameLaw.function_iff signature).mp holds).2
      apply (discerns_checkArguments signature.params
        (fun param among => (spelled param among).2) arguments values).then
      intro _
      exact discerns_pure _
  termination_by structural expr

theorem discerns_checkElements (collection : String) (elements : List Expr)
    (admitted : ∀ expr ∈ elements, nameLaw.Admitted (.expr expr)) :
    Discerns CheckState.Spelled (checkElements collection elements) := by
  cases elements with
  | nil =>
      rw [checkElements]
      exact discerns_pure _
  | cons first rest =>
      rcases List.forall_mem_cons.mp admitted with ⟨admittedFirst, admittedRest⟩
      rw [checkElements]
      apply (discerns_checkExpr first admittedFirst).typed admittedFirst
      intro expected spelled
      apply (discerns_checkRest collection spelled rest admittedRest).then
      intro _
      exact discerns_pure _
  termination_by structural elements

theorem discerns_checkRest (collection : String) {expected : Ty} (spelled : expected.Spelled)
    (elements : List Expr) (admitted : ∀ expr ∈ elements, nameLaw.Admitted (.expr expr)) :
    Discerns CheckState.Spelled (checkRest collection expected elements) := by
  cases elements with
  | nil =>
      rw [checkRest]
      exact discerns_pure _
  | cons next rest =>
      rcases List.forall_mem_cons.mp admitted with ⟨admittedNext, admittedRest⟩
      rw [checkRest]
      apply (discerns_checkExpr next admittedNext).typed admittedNext
      intro received spelledReceived
      apply discerns_check (Rule.discerns_agree_swapped spelledReceived spelled rfl)
      intro _
      exact discerns_checkRest collection spelled rest admittedRest
  termination_by structural elements

theorem discerns_checkMap (pairs : List (Expr × Expr))
    (admitted : ∀ pair ∈ pairs,
      nameLaw.Admitted (.expr pair.1) ∧ nameLaw.Admitted (.expr pair.2)) :
    Discerns CheckState.Spelled (checkMap pairs) := by
  cases pairs with
  | nil =>
      rw [checkMap]
      exact discerns_pure _
  | cons pair rest =>
      rcases pair with ⟨first, second⟩
      rcases List.forall_mem_cons.mp admitted with ⟨⟨admittedFirst, admittedSecond⟩, admittedRest⟩
      rw [checkMap]
      apply (discerns_checkExpr first admittedFirst).typed admittedFirst
      intro key spelledKey
      apply (discerns_checkExpr second admittedSecond).typed admittedSecond
      intro value spelledValue
      apply discerns_check (Rule.plain_hashableKey key).discerns
      intro _
      apply (discerns_checkPairs spelledKey spelledValue rest admittedRest).then
      intro _
      exact discerns_pure _
  termination_by structural pairs

theorem discerns_checkPairs {key value : Ty} (spelledKey : key.Spelled)
    (spelledValue : value.Spelled) (pairs : List (Expr × Expr))
    (admitted : ∀ pair ∈ pairs,
      nameLaw.Admitted (.expr pair.1) ∧ nameLaw.Admitted (.expr pair.2)) :
    Discerns CheckState.Spelled (checkPairs key value pairs) := by
  cases pairs with
  | nil =>
      rw [checkPairs]
      exact discerns_pure _
  | cons pair rest =>
      rcases pair with ⟨first, second⟩
      rcases List.forall_mem_cons.mp admitted with ⟨⟨admittedFirst, admittedSecond⟩, admittedRest⟩
      rw [checkPairs]
      apply (discerns_checkExpr first admittedFirst).typed admittedFirst
      intro receivedKey spelledReceived
      apply discerns_check (Rule.discerns_agree_swapped spelledReceived spelledKey rfl)
      intro _
      apply (discerns_checkExpr second admittedSecond).typed admittedSecond
      intro receivedValue spelledReceived
      apply discerns_check (Rule.discerns_agree_swapped spelledReceived spelledValue rfl)
      intro _
      exact discerns_checkPairs spelledKey spelledValue rest admittedRest
  termination_by structural pairs

theorem discerns_checkAttributes (template : Template) (attributes : List (String × Expr))
    (members : nameLaw.Members template)
    (admitted : ∀ entry ∈ attributes, nameLaw.Admitted (.expr entry.2)) :
    Discerns CheckState.Spelled (checkAttributes template attributes) := by
  cases attributes with
  | nil =>
      rw [checkAttributes]
      exact discerns_pure _
  | cons entry rest =>
      rcases entry with ⟨name, expr⟩
      rcases List.forall_mem_cons.mp admitted with ⟨admittedFirst, admittedRest⟩
      rw [checkAttributes]
      apply (plain_declaredAttribute template name).discerns.bind
        (upholds_declaredAttribute name members)
      intro declared spelledDeclared
      apply (discerns_checkExpr expr admittedFirst).typed admittedFirst
      intro actual spelled
      apply discerns_check (Rule.discerns_agree_swapped spelled spelledDeclared rfl)
      intro _
      exact discerns_checkAttributes template rest members admittedRest
  termination_by structural attributes

theorem discerns_checkArguments (params : List (String × Ty))
    (spelled : ∀ param ∈ params, param.2.Spelled) (arguments : List Expr)
    (admitted : ∀ expr ∈ arguments, nameLaw.Admitted (.expr expr)) :
    Discerns CheckState.Spelled (checkArguments params arguments) := by
  cases arguments with
  | nil =>
      rw [checkArguments]
      exact discerns_pure _
  | cons next rest =>
      rcases List.forall_mem_cons.mp admitted with ⟨admittedNext, admittedRest⟩
      cases params with
      | nil =>
          rw [checkArguments]
          exact discerns_pure _
      | cons param others =>
          rcases param with ⟨name, expected⟩
          rcases List.forall_mem_cons.mp spelled with ⟨spelledExpected, spelledOthers⟩
          rw [checkArguments]
          apply (discerns_checkExpr next admittedNext).typed admittedNext
          intro received spelledReceived
          apply discerns_check (Rule.discerns_agree_swapped spelledReceived spelledExpected rfl)
          intro _
          exact discerns_checkArguments others spelledOthers rest admittedRest
  termination_by structural arguments

theorem discerns_checkBody (block : Block)
    (admitted : ∀ stmt ∈ block.body, nameLaw.Admitted (.stmt stmt)) :
    Discerns CheckState.Spelled (checkBody block) := by
  rcases block with ⟨position, body⟩
  rw [checkBody]
  exact discerns_checkStmts body admitted
  termination_by structural block

theorem discerns_checkStmts (body : List Stmt)
    (admitted : ∀ stmt ∈ body, nameLaw.Admitted (.stmt stmt)) :
    Discerns CheckState.Spelled (checkStmts body) := by
  cases body with
  | nil =>
      rw [checkStmts]
      exact discerns_pure _
  | cons stmt rest =>
      rcases List.forall_mem_cons.mp admitted with ⟨admittedFirst, admittedRest⟩
      rw [checkStmts]
      apply (discerns_checkStmt stmt admittedFirst).bind (upholds_checkStmt stmt admittedFirst)
      intro _ _
      exact discerns_checkStmts rest admittedRest
  termination_by structural body

theorem discerns_checkStmt (stmt : Stmt) (admitted : nameLaw.Admitted (.stmt stmt)) :
    Discerns CheckState.Spelled (checkStmt stmt) := by
  have operand {expr : Expr} (member : expr ∈ stmt.operands) : nameLaw.Admitted (.expr expr) :=
    admitted.of_holds (.stmtOperand member)
  have nested {block : Block} (among : block ∈ stmt.blocks) (inner : Stmt)
      (member : inner ∈ block.body) : nameLaw.Admitted (.stmt inner) :=
    admitted.of_holds (.nested among member)
  cases stmt with
  | varDecl position id name declared initializer =>
      rw [checkStmt]
      apply discerns_atStmt
      have spelledDeclared : declared.Spelled :=
        (admitted.of_holds (.declaredType position id name declared initializer)).self
      have admittedValue : nameLaw.Admitted (.expr initializer) := operand List.mem_cons_self
      apply (discerns_checkExpr initializer admittedValue).typed admittedValue
      intro actual spelled
      exact discerns_declareVariable id name spelledDeclared spelled
  | expression position expression =>
      rw [checkStmt]
      apply discerns_atStmt
      exact (discerns_checkExpr expression (operand List.mem_cons_self)).discard
  | block content =>
      rw [checkStmt]
      apply discerns_atStmt
      exact (discerns_within rfl
        (discerns_checkBody content (nested List.mem_cons_self))).discard
  | ifElse position condition thenBlock elseBlock =>
      rw [checkStmt]
      apply discerns_atStmt
      have admittedCondition : nameLaw.Admitted (.expr condition) := operand List.mem_cons_self
      have admittedThen (inner : Stmt) (member : inner ∈ thenBlock.body) :
          nameLaw.Admitted (.stmt inner) := nested List.mem_cons_self inner member
      have discernsElse := discerns_checkElse elseBlock fun block among =>
        nested (List.mem_cons_of_mem _ (Option.mem_toList.mpr among))
      apply (discerns_checkExpr condition admittedCondition).typed admittedCondition
      intro type _
      apply discerns_check (Rule.plain_agree rfl).discerns
      intro _
      apply (plain_require _ ⟨rfl, by simp⟩).discerns.bind (upholds_require _ _)
      intro _ _
      apply (discerns_within rfl (discerns_checkBody thenBlock admittedThen)).bind
        (upholds_within rfl (keeps_checkBody thenBlock) (upholds_checkBody thenBlock admittedThen))
      intro first _
      apply (plain_require _ ⟨rfl, by simp⟩).discerns.bind (upholds_require _ _)
      intro _ _
      apply discernsElse.then
      intro goesOn
      split
      · exact discerns_pure ()
      · exact (plain_modifyScopes _).discerns
  | whileLoop position condition body =>
      rw [checkStmt]
      apply discerns_atStmt
      have admittedCondition : nameLaw.Admitted (.expr condition) := operand List.mem_cons_self
      apply (discerns_checkExpr condition admittedCondition).typed admittedCondition
      intro type _
      apply discerns_check (Rule.plain_agree rfl).discerns
      intro _
      exact (discerns_within rfl (discerns_checkBody body (nested List.mem_cons_self))).discard
  | range position name first last step body =>
      rw [checkStmt]
      apply discerns_atStmt
      have admittedFirst : nameLaw.Admitted (.expr first) := operand List.mem_cons_self
      have admittedLast : nameLaw.Admitted (.expr last) := operand (by simp [Stmt.operands])
      have admittedStep : nameLaw.Admitted (.expr step) := operand (by simp [Stmt.operands])
      apply (discerns_checkExpr first admittedFirst).typed admittedFirst
      intro firstType _
      apply discerns_check (Rule.plain_agree rfl).discerns
      intro _
      apply (discerns_checkExpr last admittedLast).typed admittedLast
      intro lastType _
      apply discerns_check (Rule.plain_agree rfl).discerns
      intro _
      apply (discerns_checkExpr step admittedStep).typed admittedStep
      intro stepType _
      apply discerns_check (Rule.plain_agree rfl).discerns
      intro _
      have discernsBody := discerns_checkBody body (nested List.mem_cons_self)
      exact (discerns_loop name (nameLaw.primitive .int) discernsBody).discard
  | each position name iterable body =>
      rw [checkStmt]
      apply discerns_atStmt
      have admittedIterable : nameLaw.Admitted (.expr iterable) := operand List.mem_cons_self
      apply (discerns_checkExpr iterable admittedIterable).typed admittedIterable
      intro type spelled
      have found : nameLaw.Upholds true nameLaw.Holds (follow (Rule.iterated type)) :=
        upholds_follow fun _ typed => nameLaw.holds_iterated spelled typed
      apply (plain_follow (Rule.plain_iterated type)).discerns.bind found
      intro element spelledElement
      have discernsBody := discerns_checkBody body (nested List.mem_cons_self)
      exact (discerns_loop name spelledElement discernsBody).discard
  | halt position =>
      rw [checkStmt]
      exact discerns_atStmt position (plain_leaveRound _).discerns
  | skip position =>
      rw [checkStmt]
      exact discerns_atStmt position (plain_leaveRound _).discerns
  | returning position value =>
      rw [checkStmt]
      apply discerns_atStmt
      have admittedValue (expr : Expr) (among : expr ∈ value) : nameLaw.Admitted (.expr expr) :=
        operand (Option.mem_toList.mpr among)
      apply plain_expectedResult.discerns.bind spelled_expectedResult
      intro expected spelledExpected
      apply (discerns_checkReturned value admittedValue).bind
        (upholds_checkReturned value admittedValue)
      intro actual spelled
      exact discerns_returnType spelledExpected spelled
  | fnDecl declaration =>
      rw [checkStmt]
      exact discerns_atStmt _ (discerns_checkFnDecl declaration admitted.function)
  | echo position expression =>
      rw [checkStmt]
      apply discerns_atStmt
      exact (discerns_checkExpr expression (operand List.mem_cons_self)).discard
  | templateDecl position name attributes methods =>
      rw [checkStmt]
      apply discerns_atStmt
      have functions (method : FnDecl) (among : method ∈ methods) :
          nameLaw.AdmittedFunction method := admitted.method among
      apply (discerns_declareTemplate _).bind (upholds_declareTemplate admitted.template.holds)
      intro _ _
      apply (plain_prepareMethods _ 0 methods).discerns.bind
        (upholds_prepareMethods _ 0 methods admitted.template functions)
      intro prepared declarable
      exact discerns_checkMethods prepared 0 methods declarable functions
  termination_by structural stmt

theorem discerns_checkElse (elseBlock : Option Block)
    (admitted : ∀ block ∈ elseBlock, ∀ stmt ∈ block.body, nameLaw.Admitted (.stmt stmt)) :
    Discerns CheckState.Spelled (checkElse elseBlock) := by
  cases elseBlock with
  | none =>
      rw [checkElse]
      exact discerns_pure _
  | some block =>
      rw [checkElse]
      apply (discerns_within rfl (discerns_checkBody block (admitted block rfl))).then
      intro _
      exact discerns_pure _
  termination_by structural elseBlock

theorem discerns_checkReturned (value : Option Expr)
    (admitted : ∀ expr ∈ value, nameLaw.Admitted (.expr expr)) :
    Discerns CheckState.Spelled (checkReturned value) := by
  cases value with
  | none =>
      rw [checkReturned]
      exact discerns_pure _
  | some expr =>
      rw [checkReturned]
      exact discerns_checkExpr expr (admitted expr rfl)
  termination_by structural value

theorem discerns_checkFnDecl (declaration : FnDecl)
    (admitted : nameLaw.AdmittedFunction declaration) :
    Discerns CheckState.Spelled (checkFnDecl declaration) := by
  rcases declaration with ⟨position, id, name, signature, body⟩
  rw [checkFnDecl]
  apply plain_scopes.discerns.bind upholds_scopes
  intro stack _
  apply (plain_require _ ⟨rfl, by simp⟩).discerns.bind (upholds_require _ _)
  intro _ _
  apply (plain_mentions _).discerns.bind (upholds_mentions _)
  intro _ _
  apply discerns_check signature.plain_checkHashable.discerns
  intro _
  apply (discerns_define name _).bind (upholds_define name admitted.signature)
  intro _ _
  apply (plain_inferResult _ _ _ _).discerns.bind (upholds_inferResult _ admitted.signature
    members_no_template (upholds_searchBody body admitted.body))
  intro prepared holds
  apply Discerns.bind (plain_modifyScopes _).discerns (upholds_update name holds)
  intro _ _
  apply (discerns_inFunction holds members_no_template
    (discerns_checkBody body admitted.body)).then
  intro resolved
  apply (plain_replaceFunction name prepared resolved).discerns.then
  intro _
  exact (plain_modifyAnalysis _).discerns
  termination_by structural declaration

theorem discerns_checkMethods (template : Template) (index : Nat) (methods : List FnDecl)
    (declarable : nameLaw.Declarable template)
    (admitted : ∀ method ∈ methods, nameLaw.AdmittedFunction method) :
    Discerns CheckState.Spelled (checkMethods template index methods) := by
  cases methods with
  | nil =>
      rw [checkMethods]
      exact discerns_pure ()
  | cons method rest =>
      rcases List.forall_mem_cons.mp admitted with ⟨admittedFirst, admittedRest⟩
      have prepared := holds_preparedMethod index declarable.members admittedFirst.signature
      have members (declared : Template) (same : declared ∈ some template) :
          nameLaw.Members declared := Option.some.inj same ▸ declarable.members
      rcases method with ⟨position, id, name, signature, body⟩
      rw [checkMethods]
      apply (discerns_inFunction prepared members
        (discerns_checkBody body admittedFirst.body)).bind
        (upholds_inFunction prepared members (keeps_checkBody body)
          (upholds_checkBody body admittedFirst.body))
      intro resolved holds
      apply (plain_updateMethod template index resolved).discerns.bind
        (upholds_updateMethod index declarable holds)
      intro updated declarableUpdated
      have records : nameLaw.RecordsMethod id := fun _ _ _ _ => trivial
      apply (plain_modifyAnalysis _).discerns.bind (upholds_addMethod records holds)
      intro _ _
      exact discerns_checkMethods updated (index + 1) rest declarableUpdated admittedRest
  termination_by structural methods

end

end Checker

section Phases

variable {source file : String} {diagnostic : Diagnostic}

/-- In the beginning nothing is in scope. -/
theorem CheckState.spelled_initial : CheckState.initial.Spelled :=
  ⟨nofun, nofun, trivial⟩

theorem Program.discerning_of_check {program : Program}
    (admitted : ∀ stmt ∈ program.body, nameLaw.Admitted (.stmt stmt))
    (refused : program.check = .error diagnostic) : diagnostic.cause.Discerning := by
  have discerns := Checker.discerns_checkStmts program.body admitted
  rcases Program.error_of_check refused with ⟨after, failed⟩
  exact discerns CheckState.initial diagnostic after CheckState.spelled_initial failed

theorem discerning_of_checkSource (failed : checkSource source file = .error diagnostic) :
    diagnostic.cause.Discerning := by
  rcases phase_of_checkSource failed with unscanned | ⟨tokens, found, phase⟩
  · rcases lexical_of_tokensFrom _ _ unscanned with ⟨fault, same⟩
    exact Cause.discerning_of_none (by rw [same]; rfl)
  · rcases phase with ⟨after, unparsed⟩ | ⟨program, after, parsed, refused⟩
    · rcases Parser.grammar_of_parse unparsed with ⟨fault, same⟩
      exact Cause.discerning_of_none (by rw [same]; rfl)
    · exact Program.discerning_of_check (admitted_of_parse found parsed) refused

end Phases

/-- A source is never refused with a mismatch of two types that are shown alike: types whose names
are identifiers agree where they are shown alike, also with `void` inside and with templates. -/
theorem mismatches_show_different_types :
    (∀ (source file : String) (diagnostic : Diagnostic) (first second : String),
      checkSource source file = .error diagnostic →
        diagnostic.cause.shownTypes? = some (first, second) → first ≠ second) ∧
    ∀ first second : Ty, (∀ name ∈ first.shownNames, isName name = true) →
      (∀ name ∈ second.shownNames, isName name = true) →
        first.display = second.display → first.agrees second = true := by
  constructor
  · intro source file diagnostic first second failed
    exact discerning_of_checkSource failed first second
  · intro first second named namedSecond
    exact Ty.agrees_of_display named namedSecond

/-- An array of arrays where an array of strings is declared. -/
def nestedEmpty : String := "str[] a = [[]];"

def nestedEmptyTokens : List Token :=
  let place (offset : Nat) : Position := { offset, line := 1, column := offset + 1, file := "s" }
  let token (kind : Kind) (value : String) (offset : Nat) : Token :=
    { kind, value, start := place offset, stop := place (offset + value.length) }
  [token .strWord "str" 0, token .openBracket "[" 3, token .closeBracket "]" 4,
   token .identifier "a" 6, token .assignment "=" 8, token .openBracket "[" 10,
   token .openBracket "[" 11, token .closeBracket "]" 12, token .closeBracket "]" 13,
   token .semicolon ";" 14, Token.eofAt (place 15)]

def nestedEmptyProgram : Program :=
  ⟨[.varDecl { offset := 0, line := 1, column := 1, file := "s" } ParserState.firstId "a"
    (.array .str) (.array [.array []])]⟩

/-- A map from a template to arrays, where the template is given by its name. -/
def pairsByName : Ty := .map (.named "Pair") (.array .void)

/-- The same map, with the template itself. -/
def pairsByTemplate : Ty :=
  .map (.template { name := "Pair", attributes := [("first", .int)], methods := [] }) (.array .void)

theorem nestedEmpty_shown_differently :
    (∃ diagnostic, checkSource nestedEmpty "s" = .error diagnostic ∧
      diagnostic.cause.shownTypes? = some ("str[]", "void[][]") ∧ "str[]" ≠ "void[][]") ∧
    pairsByName.display = pairsByTemplate.display ∧
      pairsByName.agrees pairsByTemplate = true := by
  have tokenized : tokenize nestedEmpty "s" = .ok nestedEmptyTokens := by
    apply Option.some.inj
    rw [← tokensWithin_ofText]
    rfl
  have parsed : Program.ofTokens nestedEmptyTokens "s" = .ok nestedEmptyProgram := by cbv
  have refused : ∃ diagnostic, nestedEmptyProgram.check = .error diagnostic ∧
      diagnostic.cause.shownTypes? = some ("str[]", "void[][]") := ⟨_, rfl, rfl⟩
  rcases refused with ⟨diagnostic, refused, shows⟩
  have failed : checkSource nestedEmpty "s" = .error diagnostic := by
    simp only [checkSource, tokenized, parsed, refused, bind, Except.bind]
  have alike : pairsByName.display = pairsByTemplate.display := rfl
  have named : ∀ name ∈ pairsByName.shownNames, isName name = true := by decide
  have namedTemplate : ∀ name ∈ pairsByTemplate.shownNames, isName name = true := by decide
  exact ⟨⟨diagnostic, failed, shows,
    mismatches_show_different_types.1 nestedEmpty "s" diagnostic _ _ failed shows⟩,
    alike, mismatches_show_different_types.2 _ _ named namedTemplate alike⟩

end ScriptCheck
