import Mathlib.Logic.Relation
import ScriptCheck.Proofs.Typing.Accepted

/-!
# The course of a check

While a program is checked, its parts are checked one after another, each of them in a state of its
own. A visit is one of these moments: a part, the state in which it is checked, and what has bound
the names that the scopes bind by then. `Visit.Leads` goes from a visit to the visits that the check
of its part makes next, as the checker does, and the visits of a program are all that are reached
from its beginning. The search for a first returned value makes no visits, since its effects are
undone.

A visit of an accepted program is accepted itself, and every part of an accepted program is visited.
-/

namespace ScriptCheck

open Checker

/-- What has bound a name. -/
inductive Binder where
  | template
  | function
  | method
  | variable
  | parameter
  | attribute
  | loopVariable
  deriving DecidableEq, Repr

/-- Whether a name is bound to a value, and not by the declaration of a template or a function. -/
def Binder.isValue : Binder → Bool
  | .variable | .parameter | .attribute | .loopVariable => true
  | .template | .function | .method => false

/-- What is checked at a time. A function is checked with the signature that was prepared for it,
and the methods of a template are prepared before they are checked, in both cases from an index
on. -/
inductive Part where
  | exprs (list : List Expr)
  | expr (expr : Expr)
  | stmts (body : List Stmt)
  | stmt (stmt : Stmt)
  | type (type : Ty)
  | function (signature : Signature) (template : Option Template) (body : Block)
  | signatures (template : Template) (index : Nat) (methods : List FnDecl)
  | methods (template : Template) (index : Nat) (methods : List FnDecl)

/-- What a statement binds in the scope where it stands. -/
def Stmt.binders : Stmt → List (String × Binder)
  | .varDecl _ _ name _ _ => [(name, .variable)]
  | .fnDecl declaration => [(declaration.name, .function)]
  | .templateDecl _ name _ _ => [(name, .template)]
  | .expression .. | .block _ | .ifElse .. | .whileLoop .. | .range .. | .each .. | .halt _
  | .skip _ | .returning .. | .echo .. => []

/-- What is bound in the scope of a function before its body is checked, the latest first. -/
def functionBinders (signature : Signature) (template : Option Template) :
    List (String × Binder) :=
  (signature.params.map fun param => (param.1, .parameter)).reverse ++
    match template with
    | none => []
    | some declared =>
      (declared.methods.map fun method => (method.1, .method)).reverse ++
        (declared.attributes.map fun entry => (entry.1, .attribute)).reverse

/-- The check of a part. -/
def Part.check : Part → Checker Unit
  | .exprs list => checkExprs list
  | .expr checked => discard (checkExpr checked)
  | .stmts body => checkStmts body
  | .stmt checked => checkStmt checked
  | .type written => validate written
  | .function signature template body => discard (checkFunction signature template body)
  | .signatures template index list => discard (prepareMethods template index list)
  | .methods template index list => checkMethods template index list

/-- A moment of a check. The binders stand in the same order as the names that the scopes bind, from
the latest to the first. -/
structure Visit where
  part : Part
  state : CheckState
  binders : List (String × Binder)

namespace Visit

/-- The check of the part of the first visit makes the second one. -/
inductive Leads : Visit → Visit → Prop where
  | firstExpr (expr : Expr) (rest : List Expr) (state : CheckState)
      (binders : List (String × Binder)) :
      Leads ⟨.exprs (expr :: rest), state, binders⟩ ⟨.expr expr, state, binders⟩
  | laterExprs {expr : Expr} (rest : List Expr) {state after : CheckState} {type : Ty}
      (binders : List (String × Binder)) (ran : checkExpr expr state = .ok type after) :
      Leads ⟨.exprs (expr :: rest), state, binders⟩ ⟨.exprs rest, after, binders⟩
  | operands (expr : Expr) (state : CheckState) (binders : List (String × Binder)) :
      Leads ⟨.expr expr, state, binders⟩ ⟨.exprs expr.operands, state, binders⟩
  | literalType (params : List (String × Ty)) (body : Block) (state : CheckState)
      (binders : List (String × Binder)) :
      Leads ⟨.expr (.function params body), state, binders⟩
        ⟨.type (.function { result := .infer, params }), state, binders⟩
  | literal {params : List (String × Ty)} {body : Block} {state : CheckState}
      {prepared : Signature} (binders : List (String × Binder))
      (prepares : prepareSignature { result := .infer, params } none body state =
        .ok prepared state) :
      Leads ⟨.expr (.function params body), state, binders⟩
        ⟨.function prepared none body, state, binders⟩
  | firstStmt (stmt : Stmt) (rest : List Stmt) (state : CheckState)
      (binders : List (String × Binder)) :
      Leads ⟨.stmts (stmt :: rest), state, binders⟩ ⟨.stmt stmt, state, binders⟩
  | laterStmts {stmt : Stmt} (rest : List Stmt) {state after : CheckState}
      (binders : List (String × Binder)) (ran : checkStmt stmt state = .ok () after) :
      Leads ⟨.stmts (stmt :: rest), state, binders⟩
        ⟨.stmts rest, after, stmt.binders ++ binders⟩
  | stmtOperands (stmt : Stmt) (state : CheckState) (binders : List (String × Binder)) :
      Leads ⟨.stmt stmt, state, binders⟩
        ⟨.exprs stmt.operands, state.movedTo stmt.position, binders⟩
  | declaredType {position : Position} (id : Nat) (name : String) (declared : Ty)
      {initializer : Expr} {state after : CheckState} {actual : Ty}
      (binders : List (String × Binder))
      (ran : checkExpr initializer (state.movedTo position) = .ok actual after) :
      Leads ⟨.stmt (.varDecl position id name declared initializer), state, binders⟩
        ⟨.type declared, after, binders⟩
  | block (content : Block) (state : CheckState) (binders : List (String × Binder)) :
      Leads ⟨.stmt (.block content), state, binders⟩
        ⟨.stmts content.body, (state.movedTo content.position).entered .block, binders⟩
  | thenBlock {position : Position} {condition : Expr} (thenBlock : Block)
      (elseBlock : Option Block) {state between : CheckState} {type : Ty}
      (binders : List (String × Binder))
      (ran : checkExpr condition (state.movedTo position) = .ok type between) :
      Leads ⟨.stmt (.ifElse position condition thenBlock elseBlock), state, binders⟩
        ⟨.stmts thenBlock.body, between.entered .branch, binders⟩
  | elseBlock {position : Position} {condition : Expr} {thenBlock : Block} (elseBlock : Block)
      {state between past : CheckState} {type : Ty} {scope : Scope}
      (binders : List (String × Binder))
      (ran : checkExpr condition (state.movedTo position) = .ok type between)
      (ranThen : within .branch (checkBody thenBlock) between = .ok scope past) :
      Leads ⟨.stmt (.ifElse position condition thenBlock (some elseBlock)), state, binders⟩
        ⟨.stmts elseBlock.body, past.entered .branch, binders⟩
  | whileBody {position : Position} {condition : Expr} (body : Block)
      {state between : CheckState} {type : Ty} (binders : List (String × Binder))
      (ran : checkExpr condition (state.movedTo position) = .ok type between) :
      Leads ⟨.stmt (.whileLoop position condition body), state, binders⟩
        ⟨.stmts body.body, between.entered .loop, binders⟩
  | rangeBody {position : Position} {name : String} {first last step : Expr} (body : Block)
      {state between inside : CheckState} (binders : List (String × Binder))
      (ran : checkExprs [first, last, step] (state.movedTo position) = .ok () between)
      (defined : define name .int (between.entered .loop) = .ok () inside) :
      Leads ⟨.stmt (.range position name first last step body), state, binders⟩
        ⟨.stmts body.body, inside, (name, .loopVariable) :: binders⟩
  | eachBody {position : Position} {name : String} {iterable : Expr} (body : Block)
      {state between inside : CheckState} {element : Ty} (binders : List (String × Binder))
      (ran : checkExpr iterable (state.movedTo position) = .ok (.array element) between)
      (defined : define name element (between.entered .loop) = .ok () inside) :
      Leads ⟨.stmt (.each position name iterable body), state, binders⟩
        ⟨.stmts body.body, inside, (name, .loopVariable) :: binders⟩
  | functionType (declaration : FnDecl) (state : CheckState) (binders : List (String × Binder)) :
      Leads ⟨.stmt (.fnDecl declaration), state, binders⟩
        ⟨.type (.function declaration.signature), state.movedTo declaration.position, binders⟩
  | function {declaration : FnDecl} {state declared : CheckState} {prepared : Signature}
      (binders : List (String × Binder))
      (defined : define declaration.name (.function declaration.signature)
        (state.movedTo declaration.position) = .ok () declared)
      (prepares : prepareSignature declaration.signature none declaration.body declared =
        .ok prepared declared) :
      Leads ⟨.stmt (.fnDecl declaration), state, binders⟩
        ⟨.function prepared none declaration.body,
          declared.updated declaration.name (.function prepared),
          (declaration.name, .function) :: binders⟩
  | attributeType {position : Position} {name : String} {attributes : List (String × Ty)}
      {methods : List FnDecl} {entry : String × Ty} {state declared : CheckState}
      (binders : List (String × Binder)) (member : entry ∈ attributes)
      (defined : define name (.template (declaredTemplate name attributes methods))
        (state.movedTo position) = .ok () declared) :
      Leads ⟨.stmt (.templateDecl position name attributes methods), state, binders⟩
        ⟨.type entry.2, declared, (name, .template) :: binders⟩
  | signatures {position : Position} {name : String} {attributes : List (String × Ty)}
      {methods : List FnDecl} {state declared : CheckState} (binders : List (String × Binder))
      (ran : declareTemplate (declaredTemplate name attributes methods)
        (state.movedTo position) = .ok () declared) :
      Leads ⟨.stmt (.templateDecl position name attributes methods), state, binders⟩
        ⟨.signatures (declaredTemplate name attributes methods) 0 methods, declared,
          (name, .template) :: binders⟩
  | methods {position : Position} {name : String} {attributes : List (String × Ty)}
      {methods : List FnDecl} {state declared ready : CheckState} {prepared : Template}
      (binders : List (String × Binder))
      (ran : declareTemplate (declaredTemplate name attributes methods)
        (state.movedTo position) = .ok () declared)
      (prepares : prepareMethods (declaredTemplate name attributes methods) 0 methods declared =
        .ok prepared ready) :
      Leads ⟨.stmt (.templateDecl position name attributes methods), state, binders⟩
        ⟨.methods prepared 0 methods, ready, (name, .template) :: binders⟩
  | methodType (template : Template) (index : Nat) (method : FnDecl) (rest : List FnDecl)
      (state : CheckState) (binders : List (String × Binder)) :
      Leads ⟨.signatures template index (method :: rest), state, binders⟩
        ⟨.type (.function method.signature), state, binders⟩
  | laterSignatures {template : Template} {index : Nat} {method : FnDecl} (rest : List FnDecl)
      {state : CheckState} {prepared : Signature} (binders : List (String × Binder))
      (prepares : prepareSignature method.signature (some template) method.body state =
        .ok prepared state) :
      Leads ⟨.signatures template index (method :: rest), state, binders⟩
        ⟨.signatures (template.setMethod index prepared) (index + 1) rest,
          state.updated template.name (.template (template.setMethod index prepared)), binders⟩
  | method (template : Template) (index : Nat) (method : FnDecl) (rest : List FnDecl)
      (state : CheckState) (binders : List (String × Binder)) :
      Leads ⟨.methods template index (method :: rest), state, binders⟩
        ⟨.function (template.preparedMethod index method) (some template) method.body, state,
          binders⟩
  | laterMethods {template : Template} {index : Nat} {method : FnDecl} (rest : List FnDecl)
      {state after : CheckState} {resolved : Signature} (binders : List (String × Binder))
      (ran : checkFunction (template.preparedMethod index method) (some template) method.body
        state = .ok resolved after) :
      Leads ⟨.methods template index (method :: rest), state, binders⟩
        ⟨.methods (template.setMethod index resolved) (index + 1) rest,
          (after.updated template.name
            (.template (template.setMethod index resolved))).recorded method.id resolved, binders⟩
  | body {signature : Signature} {template : Option Template} (body : Block)
      {state inside : CheckState} (binders : List (String × Binder))
      (ran : enterFunction signature template state = .ok () inside) :
      Leads ⟨.function signature template body, state, binders⟩
        ⟨.stmts body.body, inside, functionBinders signature template ++ binders⟩

/-- The part of a visit is accepted. -/
def Accepted (visit : Visit) : Prop :=
  ∃ after, visit.part.check visit.state = .ok () after

/-- A visit that is made, sooner or later, from another one. -/
abbrev Reaches : Visit → Visit → Prop :=
  Relation.ReflTransGen Leads

end Visit

/-- The visit that the check of a program begins with. -/
def Program.start (program : Program) : Visit :=
  ⟨.stmts program.body, CheckState.initial, []⟩

/-- The visits that are made while a program is checked. -/
def Program.Visits (program : Program) (visit : Visit) : Prop :=
  program.start.Reaches visit

namespace Part

/-- An expression, a statement or a written type stands in another expression or statement, with
nothing between them. -/
inductive Holds : Part → Part → Prop where
  | operand {expr operand : Expr} (member : operand ∈ expr.operands) :
      Holds (.expr expr) (.expr operand)
  | literalType (params : List (String × Ty)) (body : Block) :
      Holds (.expr (.function params body)) (.type (.function { result := .infer, params }))
  | literalBody (params : List (String × Ty)) {body : Block} {stmt : Stmt}
      (member : stmt ∈ body.body) : Holds (.expr (.function params body)) (.stmt stmt)
  | stmtOperand {stmt : Stmt} {operand : Expr} (member : operand ∈ stmt.operands) :
      Holds (.stmt stmt) (.expr operand)
  | declaredType (position : Position) (id : Nat) (name : String) (declared : Ty)
      (initializer : Expr) :
      Holds (.stmt (.varDecl position id name declared initializer)) (.type declared)
  | nested {stmt inner : Stmt} {block : Block} (among : block ∈ stmt.blocks)
      (member : inner ∈ block.body) : Holds (.stmt stmt) (.stmt inner)
  | functionType (declaration : FnDecl) :
      Holds (.stmt (.fnDecl declaration)) (.type (.function declaration.signature))
  | functionBody {declaration : FnDecl} {stmt : Stmt} (member : stmt ∈ declaration.body.body) :
      Holds (.stmt (.fnDecl declaration)) (.stmt stmt)
  | attributeType (position : Position) (name : String) {attributes : List (String × Ty)}
      (methods : List FnDecl) {entry : String × Ty} (member : entry ∈ attributes) :
      Holds (.stmt (.templateDecl position name attributes methods)) (.type entry.2)
  | methodType (position : Position) (name : String) (attributes : List (String × Ty))
      {methods : List FnDecl} {method : FnDecl} (among : method ∈ methods) :
      Holds (.stmt (.templateDecl position name attributes methods))
        (.type (.function method.signature))
  | methodBody (position : Position) (name : String) (attributes : List (String × Ty))
      {methods : List FnDecl} {method : FnDecl} {stmt : Stmt} (among : method ∈ methods)
      (member : stmt ∈ method.body.body) :
      Holds (.stmt (.templateDecl position name attributes methods)) (.stmt stmt)

/-- All that stands in an expression or a statement, with nothing between them. -/
def inner : Part → List Part
  | .expr written =>
    written.operands.map .expr ++
      match written with
      | .function params body =>
        .type (.function { result := .infer, params }) :: body.body.map .stmt
      | _ => []
  | .stmt written =>
    written.operands.map .expr ++ written.blocks.flatMap (fun block => block.body.map .stmt) ++
      match written with
      | .varDecl _ _ _ declared _ => [.type declared]
      | .fnDecl declaration =>
        .type (.function declaration.signature) :: declaration.body.body.map .stmt
      | .templateDecl _ _ attributes declared =>
        attributes.map (fun entry => .type entry.2) ++ declared.flatMap fun method =>
          .type (.function method.signature) :: method.body.body.map .stmt
      | _ => []
  | _ => []

theorem Holds.mem_inner {part held : Part} (holds : part.Holds held) : held ∈ part.inner := by
  cases holds with
  | operand member => exact List.mem_append_left _ (List.mem_map_of_mem member)
  | literalType params body => exact List.mem_append_right _ List.mem_cons_self
  | literalBody params member =>
      exact List.mem_append_right _ (List.mem_cons_of_mem _ (List.mem_map_of_mem member))
  | stmtOperand member =>
      exact List.mem_append_left _ (List.mem_append_left _ (List.mem_map_of_mem member))
  | declaredType position id name declared initializer =>
      exact List.mem_append_right _ List.mem_cons_self
  | nested among member =>
      refine List.mem_append_left _ (List.mem_append_right _ (List.mem_flatMap.mpr ?_))
      exact ⟨_, among, List.mem_map_of_mem member⟩
  | functionType declaration => exact List.mem_append_right _ List.mem_cons_self
  | functionBody member =>
      exact List.mem_append_right _ (List.mem_cons_of_mem _ (List.mem_map_of_mem member))
  | attributeType position name methods member =>
      refine List.mem_append_right _ (List.mem_append_left _ (List.mem_map.mpr ?_))
      exact ⟨_, member, rfl⟩
  | methodType position name attributes among =>
      refine List.mem_append_right _ (List.mem_append_right _ (List.mem_flatMap.mpr ?_))
      exact ⟨_, among, List.mem_cons_self⟩
  | methodBody position name attributes among member =>
      refine List.mem_append_right _ (List.mem_append_right _ (List.mem_flatMap.mpr ?_))
      exact ⟨_, among, List.mem_cons_of_mem _ (List.mem_map_of_mem member)⟩

/-- Parts that are given along with all that stands in them. -/
theorem mem_of_inside {parts : List Part} {part held : Part}
    (closed : ∀ whole ∈ parts, ∀ inner ∈ whole.inner, inner ∈ parts) (among : part ∈ parts)
    (inside : Relation.ReflTransGen Holds part held) : held ∈ parts := by
  induction inside with
  | refl => exact among
  | tail _ holds ih => exact closed _ ih _ holds.mem_inner

end Part

/-- An expression, a statement or a written type stands somewhere in a program. -/
def Program.Contains (program : Program) (part : Part) : Prop :=
  ∃ stmt ∈ program.body, Relation.ReflTransGen Part.Holds (.stmt stmt) part

theorem Program.contains_of_inside {program : Program} {holder held : Part}
    (contains : program.Contains holder) (within : Relation.ReflTransGen Part.Holds holder held) :
    program.Contains held := by
  rcases contains with ⟨stmt, member, inside⟩
  exact ⟨stmt, member, inside.trans within⟩

theorem Program.contains_of_holds {program : Program} {holder held : Part}
    (contains : program.Contains holder) (holds : holder.Holds held) : program.Contains held :=
  contains_of_inside contains (.single holds)

variable {state after : CheckState}

/-- The operands of an accepted statement are accepted, one after another. -/
theorem accepted_operands {stmt : Stmt} (ran : checkStmt stmt state = .ok () after) :
    ∃ between, checkExprs stmt.operands (state.movedTo stmt.position) = .ok () between := by
  cases stmt with
  | varDecl position id name declared initializer =>
      rcases ok_of_checkStmt_varDecl ran with ⟨_, between, _, ranExpr, _⟩
      exact ⟨between, checkExprs_cons [] ranExpr⟩
  | expression position expr =>
      rw [checkStmt] at ran
      rcases after_of_atStmt ran with ⟨last, ran, _⟩
      rcases ok_of_discard ran with ⟨type, ranExpr⟩
      exact ⟨last, checkExprs_cons [] ranExpr⟩
  | ifElse position condition thenBlock elseBlock =>
      rcases ok_of_checkStmt_ifElse ran with ⟨_, between, _, _, _, _, ranCondition, _⟩
      exact ⟨between, checkExprs_cons [] ranCondition⟩
  | whileLoop position condition body =>
      rcases ok_of_checkStmt_whileLoop ran with ⟨_, between, _, _, ranCondition, _⟩
      exact ⟨between, checkExprs_cons [] ranCondition⟩
  | range position name first last step body =>
      rcases ok_of_checkStmt_range ran with ⟨between, _, _, ranParts, _⟩
      exact ⟨between, ranParts⟩
  | each position name iterable body =>
      rcases ok_of_checkStmt_each ran with ⟨_, between, _, _, ranIterable, _⟩
      exact ⟨between, checkExprs_cons [] ranIterable⟩
  | returning position value =>
      rcases ok_of_checkStmt_returning ran with ⟨_, _, between, _, _, ranValue, _⟩
      exact ⟨between, checkExprs_of_checkReturned ranValue⟩
  | echo position expr =>
      rw [checkStmt] at ran
      rcases after_of_atStmt ran with ⟨last, ran, _⟩
      rcases ok_of_discard ran with ⟨type, ranExpr⟩
      exact ⟨last, checkExprs_cons [] ranExpr⟩
  | block content => exact ⟨_, rfl⟩
  | halt position => exact ⟨_, rfl⟩
  | skip position => exact ⟨_, rfl⟩
  | fnDecl declaration => exact ⟨_, rfl⟩
  | templateDecl position name attributes methods => exact ⟨_, rfl⟩

theorem accepted_declaredType {id : Nat} {name : String} {declared actual : Ty}
    (ran : declareVariable id name declared actual state = .ok () after) :
    validate declared state = .ok () state := by
  rcases ok_of_bind_eq_ok ran with ⟨_, before, ranFree, ran⟩
  rcases ok_of_bind_eq_ok ran with ⟨type, typed, ranType, _⟩
  rw [state_of_requireUnbound ranFree] at ranType
  unfold variableType at ranType
  split at ranType
  · rename_i isOpen
    rw [Ty.eq_infer_of_isInfer isOpen]
    rfl
  · rcases ok_of_bind_eq_ok ranType with ⟨_, valid, ranValid, _⟩
    rw [(ok_of_mentions ranValid).1] at ranValid
    exact ranValid

theorem accepted_within {kind : ScopeKind} {block : Block} {scope : Scope}
    (ran : within kind (checkBody block) state = .ok scope after) :
    ∃ inside, checkStmts block.body (state.entered kind) = .ok () inside := by
  rcases ok_of_within ran with ⟨inside, ranBody, _⟩
  rw [checkBody_eq] at ranBody
  exact ⟨inside, ranBody⟩

theorem accepted_loop {name : String} {type : Ty} {body : Block} {scope : Scope}
    {inside : CheckState} (defined : define name type (state.entered .loop) = .ok () inside)
    (ran : within .loop (do define name type; checkBody body) state = .ok scope after) :
    ∃ last, checkStmts body.body inside = .ok () last := by
  rcases ok_of_within ran with ⟨last, ranBody, _⟩
  rw [bind_of_ok defined, checkBody_eq] at ranBody
  exact ⟨last, ranBody⟩

namespace Visit

variable {visit next : Visit}

/-- What the check of an accepted part comes to is accepted as well. -/
theorem Leads.accepted (leads : visit.Leads next) (accepted : visit.Accepted) :
    next.Accepted := by
  rcases accepted with ⟨after, ran⟩
  cases leads with
  | firstExpr expr rest state binders =>
      rcases ok_of_checkExprs_cons ran with ⟨type, between, ranFirst, _⟩
      exact ⟨between, discard_of_ok ranFirst⟩
  | laterExprs rest binders ranFirst =>
      exact ⟨after, (checkExprs_cons rest ranFirst).symm.trans ran⟩
  | operands expr state binders =>
      rcases ok_of_discard ran with ⟨type, ranExpr⟩
      exact checkExprs_operands ranExpr
  | literalType params body state binders =>
      rcases ok_of_discard ran with ⟨type, ranExpr⟩
      rcases ok_of_literal ranExpr with ⟨_, _, valid, _⟩
      exact ⟨state, valid⟩
  | literal binders prepares =>
      rcases ok_of_discard ran with ⟨type, ranExpr⟩
      rcases ok_of_literal ranExpr with ⟨prepared, resolved, _, preparesAgain, ranBody, _⟩
      rw [prepares] at preparesAgain
      rw [(EStateM.Result.ok.inj preparesAgain).1]
      exact ⟨after, discard_of_ok ranBody⟩
  | firstStmt stmt rest state binders =>
      rw [Part.check, checkStmts] at ran
      rcases ok_of_bind_eq_ok ran with ⟨_, between, ranFirst, _⟩
      exact ⟨between, ranFirst⟩
  | laterStmts rest binders ranFirst =>
      rw [Part.check, checkStmts, bind_of_ok ranFirst] at ran
      exact ⟨after, ran⟩
  | stmtOperands stmt state binders => exact accepted_operands ran
  | declaredType id name declared binders ranFirst =>
      rcases ok_of_checkStmt_varDecl ran with ⟨actual, between, last, ranExpr, declares, _⟩
      rw [ranFirst] at ranExpr
      rcases EStateM.Result.ok.inj ranExpr with ⟨rfl, rfl⟩
      exact ⟨_, accepted_declaredType declares⟩
  | block content state binders =>
      rcases ok_of_checkStmt_block ran with ⟨scope, last, ranBlock, _⟩
      exact accepted_within ranBlock
  | thenBlock thenBlock elseBlock binders ranCondition =>
      rcases ok_of_checkStmt_ifElse ran with ⟨_, _, _, _, _, _, ranAgain, ranThen, _⟩
      rw [ranCondition] at ranAgain
      rcases EStateM.Result.ok.inj ranAgain with ⟨rfl, rfl⟩
      exact accepted_within ranThen
  | elseBlock elseBlock binders ranCondition ranThen =>
      rcases ok_of_checkStmt_ifElse ran with
        ⟨_, _, _, _, _, _, ranAgain, ranThenAgain, ranElse, _⟩
      rw [ranCondition] at ranAgain
      rcases EStateM.Result.ok.inj ranAgain with ⟨rfl, rfl⟩
      rw [ranThen] at ranThenAgain
      rcases EStateM.Result.ok.inj ranThenAgain with ⟨rfl, rfl⟩
      rcases ok_of_checkElse ranElse with ⟨scope, ranBlock, _⟩
      exact accepted_within ranBlock
  | whileBody body binders ranCondition =>
      rcases ok_of_checkStmt_whileLoop ran with ⟨_, _, _, _, ranAgain, ranLoop, _⟩
      rw [ranCondition] at ranAgain
      rcases EStateM.Result.ok.inj ranAgain with ⟨rfl, rfl⟩
      exact accepted_within ranLoop
  | rangeBody body binders ranParts defined =>
      rcases ok_of_checkStmt_range ran with ⟨_, _, _, ranAgain, ranLoop, _⟩
      rw [ranParts] at ranAgain
      rcases EStateM.Result.ok.inj ranAgain with ⟨_, rfl⟩
      exact accepted_loop defined ranLoop
  | eachBody body binders ranIterable defined =>
      rcases ok_of_checkStmt_each ran with ⟨_, _, _, _, ranAgain, ranLoop, _⟩
      rw [ranIterable] at ranAgain
      rcases EStateM.Result.ok.inj ranAgain with ⟨sameType, rfl⟩
      rw [← Ty.array.inj sameType] at ranLoop
      exact accepted_loop defined ranLoop
  | functionType declaration state binders =>
      rcases ok_of_checkStmt_fnDecl ran with ⟨last, ranDecl, _⟩
      rcases ok_of_checkFnDecl ranDecl with ⟨_, _, _, _, _, valid, _⟩
      exact ⟨_, valid⟩
  | function binders defined prepares =>
      rcases ok_of_checkStmt_fnDecl ran with ⟨last, ranDecl, _⟩
      rcases ok_of_checkFnDecl ranDecl with
        ⟨_, _, resolved, checked, _, _, definesAgain, preparesAgain, ranBody, _⟩
      rw [defined] at definesAgain
      rcases EStateM.Result.ok.inj definesAgain with ⟨_, rfl⟩
      rw [prepares] at preparesAgain
      rw [(EStateM.Result.ok.inj preparesAgain).1]
      exact ⟨checked, discard_of_ok ranBody⟩
  | attributeType binders member defined =>
      rcases ok_of_checkStmt_templateDecl ran with ⟨_, _, _, _, ranDeclare, _⟩
      rcases ok_of_declareTemplate ranDeclare with ⟨_, definesAgain, valid⟩
      rcases EStateM.Result.ok.inj (defined.symm.trans definesAgain) with ⟨_, rfl⟩
      exact ⟨_, valid _ member⟩
  | signatures binders ranDeclare =>
      rcases ok_of_checkStmt_templateDecl ran with ⟨_, _, ready, _, ranAgain, prepares, _⟩
      rw [ranDeclare] at ranAgain
      rcases EStateM.Result.ok.inj ranAgain with ⟨_, rfl⟩
      exact ⟨ready, discard_of_ok prepares⟩
  | methods binders ranDeclare prepares =>
      rcases ok_of_checkStmt_templateDecl ran with
        ⟨_, _, _, last, ranAgain, preparesAgain, ranMethods, _⟩
      rw [ranDeclare] at ranAgain
      rcases EStateM.Result.ok.inj ranAgain with ⟨_, rfl⟩
      rw [prepares] at preparesAgain
      rcases EStateM.Result.ok.inj preparesAgain with ⟨rfl, rfl⟩
      exact ⟨last, ranMethods⟩
  | methodType template index method rest state binders =>
      rcases ok_of_discard ran with ⟨prepared, ranPrepare⟩
      rcases ok_of_prepareMethods_cons ranPrepare with ⟨_, valid, _⟩
      exact ⟨state, valid⟩
  | laterSignatures rest binders prepares =>
      rcases ok_of_discard ran with ⟨last, ranPrepare⟩
      rcases ok_of_prepareMethods_cons ranPrepare with ⟨signature, _, preparesAgain, ranRest⟩
      rw [prepares] at preparesAgain
      rw [(EStateM.Result.ok.inj preparesAgain).1]
      exact ⟨after, discard_of_ok ranRest⟩
  | method template index method rest state binders =>
      rcases ok_of_checkMethods_cons ran with ⟨resolved, checked, ranBody, _⟩
      exact ⟨checked, discard_of_ok ranBody⟩
  | laterMethods rest binders ranFirst =>
      rcases ok_of_checkMethods_cons ran with ⟨resolved, checked, ranAgain, ranRest⟩
      rw [ranFirst] at ranAgain
      rcases EStateM.Result.ok.inj ranAgain with ⟨rfl, rfl⟩
      exact ⟨after, ranRest⟩
  | body body binders ranEnter =>
      rcases ok_of_discard ran with ⟨resolved, ranFunction⟩
      rcases ok_of_checkFunction ranFunction with ⟨inside, bodyEnd, ranAgain, ranBody⟩
      rw [ranEnter] at ranAgain
      rcases EStateM.Result.ok.inj ranAgain with ⟨_, rfl⟩
      rw [checkBody_eq] at ranBody
      exact ⟨bodyEnd, ranBody⟩

theorem Reaches.accepted (reaches : visit.Reaches next) (accepted : visit.Accepted) :
    next.Accepted := by
  induction reaches with
  | refl => exact accepted
  | tail _ leads ih => exact leads.accepted ih

/-- Among the visits that follow, there is one of the given part. -/
def Covers (visit : Visit) (part : Part) : Prop :=
  ∃ next, visit.Reaches next ∧ next.part = part

theorem Covers.head {part : Part} (leads : visit.Leads next) (covers : next.Covers part) :
    visit.Covers part := by
  rcases covers with ⟨last, reaches, same⟩
  exact ⟨last, reaches.head leads, same⟩

theorem Leads.covers (leads : visit.Leads next) : visit.Covers next.part :=
  ⟨next, .single leads, rfl⟩

variable {state : CheckState} {binders : List (String × Binder)}

theorem covers_of_exprs {exprs : List Expr} {expr : Expr} (member : expr ∈ exprs)
    (accepted : Accepted ⟨.exprs exprs, state, binders⟩) :
    Covers ⟨.exprs exprs, state, binders⟩ (.expr expr) := by
  induction exprs generalizing state with
  | nil => contradiction
  | cons first rest ih =>
      rcases List.mem_cons.mp member with rfl | later
      · exact (Leads.firstExpr expr rest state binders).covers
      · rcases accepted with ⟨after, ran⟩
        rcases ok_of_checkExprs_cons ran with ⟨type, between, ranFirst, ranRest⟩
        exact (ih later ⟨after, ranRest⟩).head (.laterExprs rest binders ranFirst)

theorem covers_of_stmts {body : List Stmt} {stmt : Stmt} (member : stmt ∈ body)
    (accepted : Accepted ⟨.stmts body, state, binders⟩) :
    Covers ⟨.stmts body, state, binders⟩ (.stmt stmt) := by
  induction body generalizing state binders with
  | nil => contradiction
  | cons first rest ih =>
      rcases List.mem_cons.mp member with rfl | later
      · exact (Leads.firstStmt stmt rest state binders).covers
      · rcases accepted with ⟨after, ran⟩
        rw [Part.check, checkStmts] at ran
        rcases ok_of_bind_eq_ok ran with ⟨_, between, ranFirst, ranRest⟩
        exact (ih later ⟨after, ranRest⟩).head (.laterStmts rest binders ranFirst)

theorem covers_of_signatures {template : Template} {index : Nat} {methods : List FnDecl}
    {method : FnDecl} (member : method ∈ methods)
    (accepted : Accepted ⟨.signatures template index methods, state, binders⟩) :
    Covers ⟨.signatures template index methods, state, binders⟩
      (.type (.function method.signature)) := by
  induction methods generalizing template index state with
  | nil => contradiction
  | cons first rest ih =>
      rcases List.mem_cons.mp member with rfl | later
      · exact (Leads.methodType template index method rest state binders).covers
      · rcases accepted with ⟨after, ran⟩
        rcases ok_of_discard ran with ⟨last, ranPrepare⟩
        rcases ok_of_prepareMethods_cons ranPrepare with ⟨signature, _, prepares, ranRest⟩
        exact (ih later ⟨after, discard_of_ok ranRest⟩).head
          (.laterSignatures rest binders prepares)

theorem covers_of_function {signature : Signature} {template : Option Template} {body : Block}
    {stmt : Stmt} (member : stmt ∈ body.body)
    (accepted : Accepted ⟨.function signature template body, state, binders⟩) :
    Covers ⟨.function signature template body, state, binders⟩ (.stmt stmt) := by
  rcases accepted with ⟨after, ran⟩
  rcases ok_of_discard ran with ⟨resolved, ranFunction⟩
  rcases ok_of_checkFunction ranFunction with ⟨inside, bodyEnd, ranEnter, ranBody⟩
  rw [checkBody_eq] at ranBody
  exact (covers_of_stmts member ⟨bodyEnd, ranBody⟩).head (.body body binders ranEnter)

theorem covers_of_methods {template : Template} {index : Nat} {methods : List FnDecl}
    {method : FnDecl} {stmt : Stmt} (among : method ∈ methods) (member : stmt ∈ method.body.body)
    (accepted : Accepted ⟨.methods template index methods, state, binders⟩) :
    Covers ⟨.methods template index methods, state, binders⟩ (.stmt stmt) := by
  induction methods generalizing template index state with
  | nil => contradiction
  | cons first rest ih =>
      rcases accepted with ⟨after, ran⟩
      rcases ok_of_checkMethods_cons ran with ⟨resolved, checked, ranBody, ranRest⟩
      rcases List.mem_cons.mp among with rfl | later
      · exact (covers_of_function member ⟨checked, discard_of_ok ranBody⟩).head
          (.method template index method rest state binders)
      · exact (ih later ⟨after, ranRest⟩).head (.laterMethods rest binders ranBody)

/-- The check of an accepted statement comes to each of its blocks. -/
theorem leads_of_blocks {stmt : Stmt} {block : Block} (among : block ∈ stmt.blocks)
    (accepted : Accepted ⟨.stmt stmt, state, binders⟩) :
    ∃ reached bound, Leads ⟨.stmt stmt, state, binders⟩ ⟨.stmts block.body, reached, bound⟩ := by
  rcases accepted with ⟨after, ran⟩
  cases stmt with
  | block content =>
      cases List.mem_singleton.mp among
      exact ⟨_, _, .block block state binders⟩
  | ifElse position condition thenBlock elseBlock =>
      rcases ok_of_checkStmt_ifElse ran with
        ⟨_, _, _, _, _, _, ranCondition, ranThen, _⟩
      rcases List.mem_cons.mp among with rfl | among
      · exact ⟨_, _, .thenBlock block elseBlock binders ranCondition⟩
      · cases elseBlock with
        | none => contradiction
        | some other =>
            cases List.mem_singleton.mp among
            exact ⟨_, _, .elseBlock block binders ranCondition ranThen⟩
  | whileLoop position condition body =>
      rcases ok_of_checkStmt_whileLoop ran with ⟨_, _, _, _, ranCondition, _⟩
      cases List.mem_singleton.mp among
      exact ⟨_, _, .whileBody block binders ranCondition⟩
  | range position name first last step body =>
      rcases ok_of_checkStmt_range ran with ⟨_, _, _, ranParts, ranLoop, _⟩
      rcases ok_of_within ranLoop with ⟨_, ranBody, _⟩
      rcases ok_of_bind_eq_ok ranBody with ⟨_, inside, defined, _⟩
      cases List.mem_singleton.mp among
      exact ⟨_, _, .rangeBody block binders ranParts defined⟩
  | each position name iterable body =>
      rcases ok_of_checkStmt_each ran with ⟨_, _, _, _, ranIterable, ranLoop, _⟩
      rcases ok_of_within ranLoop with ⟨_, ranBody, _⟩
      rcases ok_of_bind_eq_ok ranBody with ⟨_, inside, defined, _⟩
      cases List.mem_singleton.mp among
      exact ⟨_, _, .eachBody block binders ranIterable defined⟩
  | _ => contradiction

/-- Every statement in a block of an accepted statement is visited. -/
theorem covers_of_blocks {stmt inner : Stmt} {block : Block} (among : block ∈ stmt.blocks)
    (member : inner ∈ block.body) (accepted : Accepted ⟨.stmt stmt, state, binders⟩) :
    Covers ⟨.stmt stmt, state, binders⟩ (.stmt inner) := by
  rcases leads_of_blocks among accepted with ⟨reached, bound, leads⟩
  exact (covers_of_stmts member (leads.accepted accepted)).head leads

/-- What an accepted part holds is visited after it. -/
theorem covers_of_holds {part : Part} (holds : visit.part.Holds part)
    (accepted : visit.Accepted) : visit.Covers part := by
  rcases visit with ⟨whole, state, binders⟩
  have through {step : Visit} (leads : Leads ⟨whole, state, binders⟩ step)
      (covers : step.Accepted → step.Covers part) : Covers ⟨whole, state, binders⟩ part :=
    (covers (leads.accepted accepted)).head leads
  cases holds with
  | operand member =>
      exact through (.operands _ state binders) fun ready => covers_of_exprs member ready
  | literalType params body => exact (Leads.literalType params body state binders).covers
  | literalBody params member =>
      rcases inferResult_apply { result := .infer, params } none _ _ state with ⟨_, prepares⟩
      exact through (.literal binders prepares) fun ready => covers_of_function member ready
  | stmtOperand member =>
      exact through (.stmtOperands _ state binders) fun ready => covers_of_exprs member ready
  | declaredType position id name declared initializer =>
      rcases accepted with ⟨after, ran⟩
      rcases ok_of_checkStmt_varDecl ran with ⟨_, _, _, ranExpr, _⟩
      exact (Leads.declaredType id name declared binders ranExpr).covers
  | nested among member => exact covers_of_blocks among member accepted
  | functionType declaration => exact (Leads.functionType declaration state binders).covers
  | functionBody member =>
      rcases accepted with ⟨after, ran⟩
      rcases ok_of_checkStmt_fnDecl ran with ⟨_, ranDecl, _⟩
      rcases ok_of_checkFnDecl ranDecl with ⟨_, _, _, _, _, _, defined, prepares, _⟩
      exact through (.function binders defined prepares)
        fun ready => covers_of_function member ready
  | attributeType position name methods member =>
      rcases accepted with ⟨after, ran⟩
      rcases ok_of_checkStmt_templateDecl ran with ⟨_, _, _, _, ranDeclare, _⟩
      rcases ok_of_declareTemplate ranDeclare with ⟨_, defined, _⟩
      exact (Leads.attributeType binders member defined).covers
  | methodType position name attributes among =>
      rcases accepted with ⟨after, ran⟩
      rcases ok_of_checkStmt_templateDecl ran with ⟨_, _, _, _, ranDeclare, _⟩
      exact through (.signatures binders ranDeclare)
        fun ready => covers_of_signatures among ready
  | methodBody position name attributes among member =>
      rcases accepted with ⟨after, ran⟩
      rcases ok_of_checkStmt_templateDecl ran with ⟨_, _, _, _, ranDeclare, prepares, _⟩
      exact through (.methods binders ranDeclare prepares)
        fun ready => covers_of_methods among member ready

/-- What stands somewhere in an accepted part is visited after it. -/
theorem covers_of_inside {part : Part} (inside : Relation.ReflTransGen Part.Holds visit.part part)
    (accepted : visit.Accepted) : visit.Covers part := by
  induction inside with
  | refl => exact ⟨visit, .refl, rfl⟩
  | tail _ last ih =>
      rcases ih with ⟨between, reaches, rfl⟩
      rcases covers_of_holds last (reaches.accepted accepted) with ⟨next, reachesNext, same⟩
      exact ⟨next, reaches.trans reachesNext, same⟩

/-- What has been bound stays bound. -/
theorem Leads.binders_grow (leads : visit.Leads next) :
    ∃ added, next.binders = added ++ visit.binders := by
  cases leads with
  | laterStmts => exact ⟨_, rfl⟩
  | body => exact ⟨_, rfl⟩
  | rangeBody | eachBody | function | attributeType | signatures | methods => exact ⟨[_], rfl⟩
  | _ => exact ⟨[], rfl⟩

theorem Reaches.binders_grow (reaches : visit.Reaches next) :
    ∃ added, next.binders = added ++ visit.binders := by
  induction reaches with
  | refl => exact ⟨[], rfl⟩
  | tail _ leads ih =>
      rcases ih with ⟨added, same⟩
      rcases leads.binders_grow with ⟨more, sameNext⟩
      exact ⟨more ++ added, by rw [sameNext, same, List.append_assoc]⟩

end Visit

namespace Program

variable {program : Program} {analysis : Analysis}

theorem start_accepted (accepted : program.check = .ok analysis) : program.start.Accepted := by
  rcases ok_of_check accepted with ⟨after, ran, -⟩
  exact ⟨after, ran⟩

/-- Every part of an accepted program is visited. -/
theorem visits_of_contains (accepted : program.check = .ok analysis) {part : Part}
    (contains : program.Contains part) : ∃ visit, program.Visits visit ∧ visit.part = part := by
  rcases contains with ⟨stmt, member, inside⟩
  have begun := start_accepted accepted
  rcases Visit.covers_of_stmts member begun with ⟨visit, reaches, same⟩
  rcases Visit.covers_of_inside (same ▸ inside) (reaches.accepted begun) with
    ⟨next, reachesNext, sameNext⟩
  exact ⟨next, reaches.trans reachesNext, sameNext⟩

end Program

end ScriptCheck
