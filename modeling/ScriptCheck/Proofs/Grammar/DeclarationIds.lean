import Mathlib
import ScriptCheck.Proofs.Grammar.Counting
import ScriptCheck.Proofs.Grammar.StmtReading
import ScriptCheck.Proofs.Typing.Visit

/-!
# The numbers of declarations

The numbers in a program are all those from the first one up to the next one of the parser. An
assignment with an operator is read as an assignment of what the operator computes, with the target
written twice. What is declared in the target then stands in two places with one number. This is the
only way in which a number is used again, and wherever it happens some number is.
-/

namespace ScriptCheck

/-- No assignment in a part has come from one with an operator and a target that declares
something. -/
def Part.DeclaresOnce (part : Part) : Prop :=
  ∀ target operator value, Relation.ReflTransGen Part.Holds part
    (.expr (.assignment target (.binary operator target value))) → target.numbered = []

theorem Part.DeclaresOnce.held {part held : Part} (once : part.DeclaresOnce)
    (holds : part.Holds held) : held.DeclaresOnce :=
  fun target operator value inside => once target operator value (inside.head holds)

section Ledgers

def Expr.ledger (expr : Expr) : Ledger :=
  ⟨expr.numbered, (Part.expr expr).DeclaresOnce⟩

def Stmt.ledger (stmt : Stmt) : Ledger :=
  ⟨stmt.numbered, (Part.stmt stmt).DeclaresOnce⟩

def Block.ledger (block : Block) : Ledger :=
  ⟨block.numbered, ∀ stmt ∈ block.body, (Part.stmt stmt).DeclaresOnce⟩

def FnDecl.ledger (declaration : FnDecl) : Ledger :=
  ⟨declaration.numbered, ∀ stmt ∈ declaration.body.body, (Part.stmt stmt).DeclaresOnce⟩

namespace Part.DeclaresOnce

theorem operand {expr operand : Expr} (once : (Part.expr expr).DeclaresOnce)
    (member : operand ∈ expr.operands) : (Part.expr operand).DeclaresOnce :=
  once.held (.operand member)

theorem stmtOperand {stmt : Stmt} {operand : Expr} (once : (Part.stmt stmt).DeclaresOnce)
    (member : operand ∈ stmt.operands) : (Part.expr operand).DeclaresOnce :=
  once.held (.stmtOperand member)

theorem block {stmt inner : Stmt} {block : Block} (once : (Part.stmt stmt).DeclaresOnce)
    (among : block ∈ stmt.blocks) (member : inner ∈ block.body) :
    (Part.stmt inner).DeclaresOnce :=
  once.held (.nested among member)

/-- A callee that is a name is no operand, but it holds nothing. -/
theorem callee {callee : Expr} {arguments : List Expr}
    (once : (Part.expr (.call callee arguments)).DeclaresOnce) :
    (Part.expr callee).DeclaresOnce ∧
      ∀ argument ∈ arguments, (Part.expr argument).DeclaresOnce := by
  have whole (operand : Expr) (member : operand ∈ (Expr.call callee arguments).operands) :=
    once.operand member
  rw [Expr.operands] at whole
  split at whole
  · rename_i named
    refine ⟨fun target operator value inside => ?_, whole⟩
    rcases inside.cases_head with same | ⟨held, holds, _⟩
    · rw [Part.expr.inj same] at named
      contradiction
    · cases callee with
      | identifier name =>
          cases holds with
          | operand member => contradiction
      | _ => contradiction
  · exact ⟨whole callee List.mem_cons_self, fun argument member =>
      whole argument (List.mem_cons_of_mem _ member)⟩

end Part.DeclaresOnce

end Ledgers

theorem ParserState.ofTokens_nextId (tokens : List Token) (file : String) :
    (ofTokens tokens file).nextId = firstId := by
  unfold ofTokens
  split
  · rfl
  · split <;> rfl

namespace Parser

variable {inside : Inside}

/-- The parsers for what stands inside of a form count what is declared. -/
structure CountsInside (inside : Inside) : Prop where
  expr : ∀ power, Counts .empty Expr.ledger (inside.expr power)
  stmt : Counts .empty Stmt.ledger inside.stmt

section Expressions

theorem counts_block (counts : CountsInside inside) :
    Counts .empty Block.ledger (block inside) := by
  refine steady_position.then fun start => (steady_expect _).then fun _ => ?_
  refine (counts_collectWhile counts.stmt).bind fun body => (steady_expect _).then fun _ => ?_
  exact counts_pure (Block.numbered_eq ⟨start, body⟩).symm id

theorem counts_numeral (token : Token) (value : Option Expr)
    (plain : ∀ expr ∈ value, expr.numbered = []) :
    Counts .empty Expr.ledger (numeral token value) := by
  cases value with
  | none => exact counts_failAt _ _
  | some expr =>
      exact steady_advance.then fun _ => counts_pure (plain expr rfl).symm fun _ => trivial

theorem counts_literalExpr : Counts .empty Expr.ledger literalExpr := by
  refine steady_current.then fun token => ?_
  split
  · refine counts_numeral _ _ fun expr found => ?_
    rcases Option.map_eq_some_iff.mp found with ⟨value, _, rfl⟩
    rfl
  · refine counts_numeral _ _ fun expr found => ?_
    rcases Option.map_eq_some_iff.mp found with ⟨value, _, rfl⟩
    rfl
  · exact steady_advance.then fun _ => counts_pure rfl fun _ => trivial
  · exact steady_advance.then fun _ => counts_pure rfl fun _ => trivial
  · exact steady_advance.then fun _ => counts_pure rfl fun _ => trivial
  · exact counts_unexpected

theorem counts_entityLiteral (counts : CountsInside inside) (name : String) :
    Counts .empty Expr.ledger (entityLiteral inside name) := by
  have comma : Steady optionalComma := by
    refine steady_kind.bind fun kind => ?_
    split
    · exact steady_advance.bind fun _ => steady_pure _
    · exact steady_pure _
  have countsOne : Counts .empty (fun entry => entry.2.ledger) (attributeValue inside) := by
    refine steady_identifier.then fun name => (steady_expect _).then fun _ => ?_
    exact (counts.expr _).bind fun value => comma.then fun _ => counts_pure rfl id
  refine (steady_expect _).then fun _ => (counts_collectWhile countsOne).bind fun attributes => ?_
  refine (steady_expect _).then fun _ => ?_
  refine counts_pure (numberedInAttributes_eq attributes).symm fun once entry member => ?_
  exact once.operand (List.mem_map_of_mem member)

theorem counts_identifierExpr (counts : CountsInside inside) :
    Counts .empty Expr.ledger (identifierExpr inside) := by
  refine steady_identifier.then fun name => steady_kind.then fun kind => ?_
  split
  · exact counts_entityLiteral counts name
  · exact counts_pure rfl fun _ => trivial

theorem counts_leadingExpr (counts : CountsInside inside) :
    Counts .empty Expr.ledger (leadingExpr inside) := by
  refine steady_kind.then fun kind => ?_
  split
  · exact counts_unexpected
  · refine steady_advance.then fun _ => (counts.expr _).bind fun operand => ?_
    exact counts_pure rfl fun once => once.operand List.mem_cons_self

theorem counts_groupingExpr (counts : CountsInside inside) :
    Counts .empty Expr.ledger (groupingExpr inside) := by
  refine (steady_expect _).then fun _ => (counts.expr _).bind fun expr => ?_
  exact (steady_expect _).then fun _ => counts_pure rfl id

theorem counts_arguments (counts : CountsInside inside) :
    Counts .empty (.all Expr.ledger) (arguments inside) := by
  refine (steady_expect _).then fun _ => (counts_itemsUntil (counts.expr _)).bind fun values => ?_
  exact (steady_expect _).then fun _ => counts_pure rfl id

/-- The arguments in front of an arrow come before those behind the name. -/
theorem counts_pipeStage (counts : CountsInside inside) (piped : List Expr) :
    Counts (.all Expr.ledger piped) Expr.ledger (pipeStage inside piped) := by
  refine steady_advance.then fun _ => steady_identifier.then fun callee => ?_
  refine steady_kind.then fun kind => ?_
  split
  · refine ((counts_arguments counts).behind _).bind fun values => counts_pure ?_ fun once => ?_
    · show List.flatMap _ piped ++ List.flatMap _ values = [] ++ numberedInExprs _
      rw [numberedInExprs_eq, List.flatMap_append]
      rfl
    · exact List.forall_mem_append.mp once.callee.2
  · exact counts_pure (numberedInExprs_eq piped).symm fun once => once.callee.2

theorem counts_arrayExpr (counts : CountsInside inside) :
    Counts .empty Expr.ledger (arrayExpr inside) := by
  refine (steady_expect _).then fun _ => (counts_itemsUntil (counts.expr _)).bind fun elements => ?_
  refine (steady_expect _).then fun _ => steady_kind.then fun kind => ?_
  split
  · refine (counts_pipeStage counts elements).bind fun first => ?_
    refine counts_repeatWhile (fun call => ?_) first
    refine (counts_pipeStage counts [call]).from ?_ fun once => once call List.mem_cons_self
    exact (List.flatMap_singleton _ _).symm
  · exact counts_pure (numberedInExprs_eq elements).symm fun once element => once.operand

theorem counts_setOrMapExpr (counts : CountsInside inside) :
    Counts .empty Expr.ledger (setOrMapExpr inside) := by
  refine (steady_expect _).then fun _ => steady_kind.then fun kind => ?_
  split
  · exact steady_advance.then fun _ => counts_pure rfl fun _ => trivial
  · refine (counts.expr _).bind fun first => steady_kind.then fun kind => ?_
    split
    · have countsPair : Counts .empty (fun pair => pair.1.ledger ++ pair.2.ledger)
          (keyValue inside) := by
        refine (counts.expr _).bind fun key => (steady_expect _).then fun _ => ?_
        exact ((counts.expr _).behind _).bind fun value => counts_pure rfl id
      refine steady_advance.then fun _ => ((counts.expr _).behind _).bind fun value => ?_
      refine ((counts_moreItems countsPair).behind _).bind fun pairs => ?_
      refine (steady_expect _).then fun _ => counts_pure ?_ fun once => ?_
      · exact (numberedInPairs_eq ((first, value) :: pairs)).symm
      · have among (pair : Expr × Expr) (member : pair ∈ (first, value) :: pairs) :
            (Part.expr pair.1).DeclaresOnce ∧ (Part.expr pair.2).DeclaresOnce :=
          ⟨once.operand (List.mem_flatMap.mpr ⟨pair, member, by simp⟩),
            once.operand (List.mem_flatMap.mpr ⟨pair, member, by simp⟩)⟩
        exact List.forall_mem_cons.mp among
    · refine ((counts_moreItems (counts.expr _)).behind _).bind fun elements => ?_
      refine (steady_expect _).then fun _ => counts_pure ?_ fun once => ?_
      · exact (numberedInExprs_eq (first :: elements)).symm
      · exact List.forall_mem_cons.mp fun element => once.operand

theorem counts_functionExpr (counts : CountsInside inside) :
    Counts .empty Expr.ledger (functionExpr inside) := by
  refine (steady_expect _).then fun _ => ?_
  refine (steady_withTypes fun _ => steady_parameters).then fun params => ?_
  refine (steady_expect _).then fun _ => (counts_block counts).bind fun body => ?_
  exact counts_pure rfl fun once stmt member => once.held (.literalBody params member)

theorem counts_exprStart (counts : CountsInside inside) :
    Counts .empty Expr.ledger (exprStart inside) := by
  refine steady_kind.then fun kind => ?_
  split
  · exact counts_unexpected
  · exact counts_literalExpr
  · exact counts_identifierExpr counts
  · exact counts_leadingExpr counts
  · exact counts_groupingExpr counts
  · exact counts_arrayExpr counts
  · exact counts_setOrMapExpr counts
  · exact counts_functionExpr counts

end Expressions

section Tails

variable (counts : CountsInside inside) (left : Expr)
include counts

theorem counts_assignmentExpr : Counts left.ledger Expr.ledger (assignmentExpr inside left) := by
  refine steady_advance.then fun operator => ?_
  split
  · refine ((counts.expr _).behind _).bind fun right => ?_
    have countsValue : Counts (left.ledger ++ right.ledger)
        (fun value => (Expr.assignment left value).ledger) (assignedValue operator left right) := by
      rw [assignedValue]
      split
      · exact counts_pure rfl fun once =>
          ⟨once.operand List.mem_cons_self, once.operand (by simp [Expr.operands])⟩
      · split
        · rename_i combined _
          intro first state value after spans ran
          rcases EStateM.Result.ok.inj ran with ⟨rfl, rfl⟩
          refine spans.repeated fun once => ⟨once left combined right .refl, ?_, ?_⟩
          · exact once.operand List.mem_cons_self
          · have value : (Part.expr (.binary combined left right)).DeclaresOnce :=
              once.operand (by simp [Expr.operands])
            exact value.operand (by simp [Expr.operands])
        · exact counts_failAt _ _
    exact countsValue.bind fun value => counts_pure rfl id
  · exact counts_failAt _ _

theorem counts_binaryExpr (power : Power) :
    Counts left.ledger Expr.ledger (binaryExpr inside left power) := by
  refine steady_kind.then fun kind => ?_
  split
  · exact counts_unexpected
  · refine steady_advance.then fun _ => ((counts.expr _).behind _).bind fun right => ?_
    exact counts_pure rfl fun once =>
      ⟨once.operand List.mem_cons_self, once.operand (by simp [Expr.operands])⟩

omit counts in
theorem counts_trailingExpr : Counts left.ledger Expr.ledger (trailingExpr left) := by
  refine steady_kind.then fun kind => ?_
  split
  · exact counts_unexpected
  · exact steady_advance.then fun _ => counts_pure rfl fun once =>
      once.operand List.mem_cons_self

theorem counts_callExpr : Counts left.ledger Expr.ledger (callExpr inside left) := by
  refine ((counts_arguments counts).behind _).bind fun values => counts_pure ?_ fun once => ?_
  · show left.numbered ++ _ = left.numbered ++ numberedInExprs values
    rw [numberedInExprs_eq]
    rfl
  · exact once.callee

theorem counts_indexExpr : Counts left.ledger Expr.ledger (indexExpr inside left) := by
  refine (steady_expect _).then fun _ => ((counts.expr _).behind _).bind fun index => ?_
  exact (steady_expect _).then fun _ => counts_pure rfl fun once =>
    ⟨once.operand List.mem_cons_self, once.operand (by simp [Expr.operands])⟩

theorem counts_memberExpr : Counts left.ledger Expr.ledger (memberExpr inside left) := by
  refine (steady_expect _).then fun _ => steady_identifier.then fun name => ?_
  refine steady_kind.then fun kind => ?_
  split
  · refine ((counts_arguments counts).behind _).bind fun values => counts_pure ?_ fun once => ?_
    · show left.numbered ++ _ = left.numbered ++ numberedInExprs values
      rw [numberedInExprs_eq]
      rfl
    · exact List.forall_mem_cons.mp fun operand => once.operand
  · exact counts_pure rfl fun once => once.operand List.mem_cons_self

theorem counts_exprTail : Counts left.ledger Expr.ledger (exprTail inside left) := by
  refine steady_kind.then fun kind => ?_
  split
  · exact counts_unexpected
  · exact counts_assignmentExpr counts left
  · exact counts_binaryExpr counts left _
  · exact counts_trailingExpr left
  · exact counts_callExpr counts left
  · exact counts_indexExpr counts left
  · exact counts_memberExpr counts left

omit left in
theorem counts_exprForm (power : Power) : Counts .empty Expr.ledger (exprForm inside power) :=
  (counts_exprStart counts).bind fun left =>
    counts_repeatWhile (fun left => counts_exprTail counts left) left

end Tails

section Statements

variable (counts : CountsInside inside)
include counts

theorem counts_expressionStmt : Counts .empty Stmt.ledger (expressionStmt inside) := by
  refine steady_position.then fun start => (counts.expr _).bind fun expr => ?_
  exact (steady_expect _).then fun _ => counts_pure rfl fun once =>
    once.stmtOperand List.mem_cons_self

omit counts in
/-- A variable is declared behind what its first value declares. -/
theorem counts_varDecl {initializer : Parser Expr}
    (countsValue : Counts .empty Expr.ledger initializer) (start : Position) (name : String)
    (declared : Ty) :
    Counts .empty Stmt.ledger (do
      let value ← initializer
      let _ ← expect .semicolon
      return .varDecl start (← freshId) name declared value) := by
  refine countsValue.bind fun value => (steady_expect _).then fun _ => ?_
  refine (counts_freshId .variable fun _ => rfl).bind fun id => ?_
  exact counts_pure rfl fun once => ⟨once.stmtOperand List.mem_cons_self, trivial⟩

theorem counts_varDeclStmt : Counts .empty Stmt.ledger (varDeclStmt inside) := by
  refine steady_position.then fun start => (steady_parseType _).then fun declared => ?_
  refine steady_identifier.then fun name => (steady_expect _).then fun _ => ?_
  exact counts_varDecl (counts.expr _) start name declared

theorem counts_entityDeclStmt : Counts .empty Stmt.ledger (entityDeclStmt inside) := by
  refine steady_position.then fun start => (steady_expect _).then fun _ => ?_
  refine steady_identifier.then fun name => (steady_expect _).then fun _ => ?_
  refine (steady_expectOr _ _).then fun template => ?_
  exact counts_varDecl (counts_entityLiteral counts _) start name _

theorem counts_blockStmt : Counts .empty Stmt.ledger (blockStmt inside) :=
  (counts_block counts).bind fun _ => counts_pure rfl fun once _ =>
    once.block List.mem_cons_self

theorem counts_condition : Counts .empty Expr.ledger (condition inside) := by
  refine (steady_expect _).then fun _ => (counts.expr _).bind fun expr => ?_
  exact (steady_expect _).then fun _ => counts_pure rfl id

theorem counts_ifStmt : Counts .empty Stmt.ledger (ifStmt inside) := by
  have countsElse : Counts .empty (fun otherwise => .all Block.ledger otherwise.toList)
      (elseBlock inside) := by
    refine steady_kind.then fun kind => ?_
    split
    · refine steady_advance.then fun _ => (counts_block counts).bind fun block => ?_
      refine counts_pure ?_ fun once => once block List.mem_cons_self
      exact (List.flatMap_singleton _ _).symm
    · exact counts_pure rfl fun _ => trivial
  refine steady_position.then fun start => (steady_expect _).then fun _ => ?_
  refine (counts_condition counts).bind fun decision => ?_
  refine ((counts_block counts).behind _).bind fun thenBlock => ?_
  refine (countsElse.behind _).bind fun otherwise => counts_pure ?_ fun once => ?_
  · cases otherwise with
    | none => rfl
    | some block =>
        show _ ++ List.flatMap _ [block] = _ ++ block.numbered
        rw [List.flatMap_singleton]
        rfl
  · refine ⟨⟨once.stmtOperand List.mem_cons_self, fun _ => once.block List.mem_cons_self⟩, ?_⟩
    exact fun block among _ => once.block (List.mem_cons_of_mem _ among)

theorem counts_whileStmt : Counts .empty Stmt.ledger (whileStmt inside) := by
  refine steady_position.then fun start => (steady_expect _).then fun _ => ?_
  refine (counts_condition counts).bind fun decision => ?_
  refine ((counts_block counts).behind _).bind fun body => counts_pure rfl fun once => ?_
  exact ⟨once.stmtOperand List.mem_cons_self, fun _ => once.block List.mem_cons_self⟩

theorem counts_rangeStmt : Counts .empty Stmt.ledger (rangeStmt inside) := by
  have countsStep : Counts .empty Expr.ledger (rangeStep inside) := by
    refine steady_kind.then fun kind => ?_
    split
    · exact steady_advance.then fun _ => counts.expr _
    · exact counts_pure rfl fun _ => trivial
  refine steady_position.then fun start => (steady_expect _).then fun _ => ?_
  refine (steady_expect _).then fun _ => steady_identifier.then fun name => ?_
  refine (steady_expect _).then fun _ => (counts.expr _).bind fun first => ?_
  refine (steady_expect _).then fun _ => ((counts.expr _).behind _).bind fun last => ?_
  refine (countsStep.behind _).bind fun step => (steady_expect _).then fun _ => ?_
  refine ((counts_block counts).behind _).bind fun body => counts_pure rfl fun once => ?_
  have parts (part : Expr) (among : part ∈ [first, last, step]) := once.stmtOperand among
  exact ⟨⟨⟨parts first (by simp), parts last (by simp)⟩, parts step (by simp)⟩,
    fun _ => once.block List.mem_cons_self⟩

theorem counts_eachStmt : Counts .empty Stmt.ledger (eachStmt inside) := by
  refine steady_position.then fun start => (steady_expect _).then fun _ => ?_
  refine (steady_expect _).then fun _ => steady_identifier.then fun name => ?_
  refine (steady_expect _).then fun _ => (counts.expr _).bind fun iterable => ?_
  refine (steady_expect _).then fun _ => ?_
  refine ((counts_block counts).behind _).bind fun body => counts_pure rfl fun once => ?_
  exact ⟨once.stmtOperand List.mem_cons_self, fun _ => once.block List.mem_cons_self⟩

omit counts in
theorem counts_haltStmt : Counts .empty Stmt.ledger haltStmt :=
  steady_position.then fun _ => (steady_expect _).then fun _ => (steady_expect _).then fun _ =>
    counts_pure rfl fun _ => trivial

omit counts in
theorem counts_skipStmt : Counts .empty Stmt.ledger skipStmt :=
  steady_position.then fun _ => (steady_expect _).then fun _ => (steady_expect _).then fun _ =>
    counts_pure rfl fun _ => trivial

theorem counts_returnStmt : Counts .empty Stmt.ledger (returnStmt inside) := by
  have countsValue : Counts .empty (fun value => .all Expr.ledger value.toList)
      (returnedValue inside) := by
    refine steady_kind.then fun kind => ?_
    split
    · exact counts_pure rfl fun _ => trivial
    · refine (counts.expr _).bind fun expr => ?_
      refine counts_pure ?_ fun once => once expr List.mem_cons_self
      exact (List.flatMap_singleton _ _).symm
  refine steady_position.then fun start => (steady_expect _).then fun _ => ?_
  refine countsValue.bind fun value => (steady_expect _).then fun _ => counts_pure ?_ fun once => ?_
  · cases value with
    | none => rfl
    | some expr => exact List.flatMap_singleton _ _
  · exact fun expr => once.stmtOperand

/-- A function is declared behind what its body declares. -/
theorem counts_fnDecl : Counts .empty FnDecl.ledger (fnDecl inside) := by
  refine steady_position.then fun start => (steady_expect _).then fun _ => ?_
  refine steady_identifier.then fun name => (steady_expect _).then fun _ => ?_
  refine (steady_withTypes fun _ => steady_resultType).then fun result => ?_
  refine (steady_expect _).then fun _ => ?_
  refine (steady_withTypes fun _ => steady_parameters).then fun params => ?_
  refine (steady_expect _).then fun _ => (counts_block counts).bind fun body => ?_
  refine (counts_freshId .function fun _ => rfl).bind fun id => counts_pure rfl fun once => ?_
  exact ⟨once, trivial⟩

theorem counts_functionStmt : Counts .empty Stmt.ledger (functionStmt inside) := by
  refine steady_get.then fun state => ?_
  split
  · exact counts_varDeclStmt counts
  · exact counts_expressionStmt counts
  · exact (counts_fnDecl counts).bind fun declaration => counts_pure rfl fun once _ member =>
      once.held (.functionBody member)

theorem counts_echoStmt : Counts .empty Stmt.ledger (echoStmt inside) := by
  refine steady_position.then fun start => (steady_expect _).then fun _ => ?_
  refine (counts.expr _).bind fun expr => (steady_expect _).then fun _ => counts_pure rfl ?_
  exact fun once => once.stmtOperand List.mem_cons_self

def Members.ledger (members : Members) : Ledger :=
  .all FnDecl.ledger members.methods

theorem counts_freshMember (template : String) (members : Members) :
    Counts members.ledger Members.ledger (freshMember inside template members) := by
  have countsMember : Counts members.ledger (fun found => found.2.ledger)
      (member inside members) := by
    refine steady_kind.then fun kind => ?_
    split
    · refine ((counts_fnDecl counts).behind _).bind fun method => counts_pure ?_ ?_
      · show _ = List.flatMap _ (members.methods ++ [method])
        rw [List.flatMap_append, List.flatMap_singleton]
        rfl
      · exact fun once => ⟨fun method among => once method (List.mem_append_left _ among),
          once method (List.mem_append_right _ List.mem_cons_self)⟩
    · refine (steady_parseType _).then fun type => steady_identifier.then fun name => ?_
      exact (steady_expect _).then fun _ => counts_pure rfl id
  refine steady_position.then fun start => countsMember.bind fun found => ?_
  rcases found with ⟨name, longer⟩
  dsimp only
  split
  · exact counts_failAt _ _
  · exact counts_pure rfl id

theorem counts_templateStmt : Counts .empty Stmt.ledger (templateStmt inside) := by
  refine steady_position.then fun start => (steady_expect _).then fun _ => ?_
  refine steady_identifier.then fun name => (steady_expect _).then fun _ => ?_
  refine (steady_expect _).then fun _ => ?_
  have countsMembers (again : Kind → Bool) : Counts .empty Members.ledger
      (repeatWhile again (freshMember inside name) { attributes := [], methods := [] }) :=
    (counts_repeatWhile (fun members => counts_freshMember counts name members) _).from rfl
      fun _ => trivial
  refine (countsMembers _).bind fun members => (steady_expect _).then fun _ => ?_
  refine (steady_expect _).then fun _ => counts_pure ?_ fun once method among stmt member => ?_
  · exact (numberedInMethods_eq members.methods).symm
  · exact once.held (.methodBody start name members.attributes among member)

theorem counts_stmtForm : Counts .empty Stmt.ledger (stmtForm inside) := by
  rw [stmtForm_eq]
  refine (steady_get.bind fun _ => steady_pure _).then fun opens => ?_
  split
  · exact counts_varDeclStmt counts
  · refine steady_kind.then fun kind => ?_
    cases kind.stmtForm? with
    | none => exact counts_expressionStmt counts
    | some form =>
        cases form with
        | varDecl => exact counts_varDeclStmt counts
        | entityDecl => exact counts_entityDeclStmt counts
        | block => exact counts_blockStmt counts
        | ifElse => exact counts_ifStmt counts
        | whileLoop => exact counts_whileStmt counts
        | range => exact counts_rangeStmt counts
        | each => exact counts_eachStmt counts
        | halt => exact counts_haltStmt
        | skip => exact counts_skipStmt
        | returning => exact counts_returnStmt counts
        | function => exact counts_functionStmt counts
        | echo => exact counts_echoStmt counts
        | templateDecl => exact counts_templateStmt counts

end Statements

/-- However deep the parsers are nested, they count what is declared. -/
theorem countsInside_nested (depth : Nat) : CountsInside (nested depth) := by
  induction depth with
  | zero => exact ⟨fun _ => counts_unexpected, counts_unexpected⟩
  | succ depth ih => exact ⟨fun power => counts_exprForm ih power, counts_stmtForm ih⟩

theorem counts_parseProgram :
    Counts .empty (fun program => .all Stmt.ledger program.body) parseProgram := by
  have countsStmt : Counts .empty Stmt.ledger parseStmt :=
    steady_get.then fun _ => counts_stmtForm (countsInside_nested _)
  exact (counts_collectWhile countsStmt).bind fun body => counts_pure rfl id

/-- A program declares the numbers that the parser has given out. -/
theorem spans_of_parse {tokens : List Token} {file : String} {program : Program}
    {after : ParserState} (parsed : parse tokens file = .ok program after) :
    (Ledger.all Stmt.ledger program.body).Spans ParserState.firstId after.nextId := by
  have first := ParserState.ofTokens_nextId tokens file
  exact counts_parseProgram _ _ _ _ (first ▸ Ledger.spans_empty _) parsed

end Parser

/-- The declarations in an expression or a statement. -/
def Part.numbered : Part → List Numbered
  | .expr written => written.numbered
  | .stmt written => written.numbered
  | _ => []

section Sublists

theorem sublist_flatMap_of_mem {Item : Type} {item : Item} {items : List Item}
    (member : item ∈ items) (listed : Item → List Numbered) :
    (listed item).Sublist (items.flatMap listed) := by
  have single := (List.singleton_sublist.mpr member).flatMap listed
  rwa [List.flatMap_singleton] at single

theorem Expr.numbered_operands (expr : Expr) :
    (expr.operands.flatMap Expr.numbered).Sublist expr.numbered := by
  cases expr with
  | array elements => simp [Expr.operands, Expr.numbered, numberedInExprs_eq]
  | set elements => simp [Expr.operands, Expr.numbered, numberedInExprs_eq]
  | map pairs => simp [Expr.operands, Expr.numbered, numberedInPairs_eq, List.flatMap_assoc]
  | entity template attributes =>
      simp [Expr.operands, Expr.numbered, numberedInAttributes_eq, List.flatMap_map]
  | call callee arguments =>
      rw [Expr.operands, Expr.numbered, numberedInExprs_eq]
      split
      · exact List.sublist_append_right _ _
      · exact .refl _
  | methodCall object name arguments =>
      simp [Expr.operands, Expr.numbered, numberedInExprs_eq]
  | unary operator fixity operand => simp [Expr.operands, Expr.numbered]
  | binary operator left right => simp [Expr.operands, Expr.numbered]
  | assignment target value => simp [Expr.operands, Expr.numbered]
  | index base index => simp [Expr.operands, Expr.numbered]
  | member object name => simp [Expr.operands, Expr.numbered]
  | _ => exact List.nil_sublist _

theorem Stmt.numbered_operands (stmt : Stmt) :
    (stmt.operands.flatMap Expr.numbered).Sublist stmt.numbered := by
  cases stmt with
  | returning position value =>
      cases value <;> simp [Stmt.operands, Stmt.numbered, numberedInReturned]
  | _ => simp [Stmt.operands, Stmt.numbered]

theorem Stmt.numbered_blocks (stmt : Stmt) :
    (stmt.blocks.flatMap Block.numbered).Sublist stmt.numbered := by
  cases stmt with
  | range position name first last step body =>
      rw [Stmt.blocks, List.flatMap_singleton]
      exact List.sublist_append_right _ _
  | ifElse position condition thenBlock elseBlock =>
      cases elseBlock <;> simp [Stmt.blocks, Stmt.numbered, numberedInElse]
  | _ => simp [Stmt.blocks, Stmt.numbered]

theorem Block.numbered_of_mem {block : Block} {stmt : Stmt} (member : stmt ∈ block.body) :
    stmt.numbered.Sublist block.numbered := by
  rw [Block.numbered_eq]
  exact sublist_flatMap_of_mem member Stmt.numbered

/-- What is declared in a part is declared in whatever the part stands in. -/
theorem Part.Holds.numbered {part held : Part} (holds : part.Holds held) :
    held.numbered.Sublist part.numbered := by
  cases holds with
  | operand member =>
      exact (sublist_flatMap_of_mem member Expr.numbered).trans (Expr.numbered_operands _)
  | literalBody params member => exact Block.numbered_of_mem member
  | stmtOperand member =>
      exact (sublist_flatMap_of_mem member Expr.numbered).trans (Stmt.numbered_operands _)
  | nested among member =>
      refine (Block.numbered_of_mem member).trans ?_
      exact (sublist_flatMap_of_mem among Block.numbered).trans (Stmt.numbered_blocks _)
  | functionBody member =>
      refine (Block.numbered_of_mem member).trans ?_
      rw [Part.numbered, Stmt.numbered, FnDecl.numbered_eq]
      exact List.sublist_append_left _ _
  | methodBody position name attributes among member =>
      refine (Block.numbered_of_mem member).trans ?_
      rw [Part.numbered, Stmt.numbered, numberedInMethods_eq]
      refine List.Sublist.trans ?_ (sublist_flatMap_of_mem among FnDecl.numbered)
      rw [FnDecl.numbered_eq]
      exact List.sublist_append_left _ _
  | literalType => exact List.nil_sublist _
  | declaredType => exact List.nil_sublist _
  | functionType => exact List.nil_sublist _
  | attributeType => exact List.nil_sublist _
  | methodType => exact List.nil_sublist _

theorem Part.numbered_of_inside {part inner : Part}
    (inside : Relation.ReflTransGen Part.Holds part inner) :
    inner.numbered.Sublist part.numbered := by
  induction inside with
  | refl => exact .refl _
  | tail _ holds ih => exact holds.numbered.trans ih

theorem Program.numbered_of_contains {program : Program} {part : Part}
    (contains : program.Contains part) : part.numbered.Sublist program.numbered := by
  rcases contains with ⟨stmt, member, inside⟩
  rw [Program.numbered, numberedInBody_eq]
  exact (Part.numbered_of_inside inside).trans (sublist_flatMap_of_mem member Stmt.numbered)

end Sublists

/-- What is declared in the target of an assignment with an operator stands in two places. -/
theorem numbered_eq_nil_of_nodup {program : Program}
    (distinct : (program.numbered.map Numbered.id).Nodup) {target value : Expr}
    {operator : BinaryOp}
    (contains : program.Contains (.expr (.assignment target (.binary operator target value)))) :
    target.numbered = [] := by
  have inside : (target.numbered ++ (target.numbered ++ value.numbered)).Sublist program.numbered :=
    Program.numbered_of_contains contains
  have twice := (List.Nodup.of_map _ distinct).sublist inside
  refine List.eq_nil_iff_forall_not_mem.mpr fun declaration member => ?_
  exact (List.nodup_append.mp twice).2.2 declaration member declaration
    (List.mem_append_left _ member) rfl

/-- The numbers of the declarations in a program are those from the first one up to the next one of
the parser. They are different just where no assignment with an operator has a target that declares
something. -/
theorem declaration_ids_count_up {tokens : List Token} {file : String} {program : Program}
    {after : ParserState} (parsed : Parser.parse tokens file = .ok program after) :
    (∀ id, id ∈ program.numbered.map Numbered.id ↔
      ParserState.firstId ≤ id ∧ id < after.nextId) ∧
    ((program.numbered.map Numbered.id).Nodup ↔ ∀ target operator value,
      program.Contains (.expr (.assignment target (.binary operator target value))) →
        target.numbered = []) := by
  have spans := Parser.spans_of_parse parsed
  have declared : (Ledger.all Stmt.ledger program.body).declared = program.numbered :=
    (numberedInBody_eq program.body).symm
  refine ⟨fun id => ?_, fun distinct target operator value contains => ?_, fun once => ?_⟩
  · rw [← declared]
    exact spans.mem_iff id
  · exact numbered_eq_nil_of_nodup distinct contains
  · have increasing := spans.increasing fun stmt member target operator value inside =>
      once target operator value ⟨stmt, member, inside⟩
    rw [declared] at increasing
    exact increasing.imp Nat.ne_of_lt

/-- A token that stands nowhere. -/
def placeless (kind : Kind) (value : String) : Token :=
  { kind, value, start := Position.unknown, stop := Position.unknown }

/-- The state behind all tokens of a list, if they stand nowhere. -/
def placelessEnd (nextId : Nat) : ParserState where
  upcoming := []
  final := Token.eofAt Position.unknown
  nextId
  file := "shell"
  final_kind := rfl

/-- An addition to an element of what a function returns for a function without a name, which
declares a variable. -/
def countedTwiceTokens : List Token :=
  [placeless .identifier "f", placeless .openParen "(", placeless .funcWord "func",
    placeless .openBracket "[", placeless .closeBracket "]", placeless .arrow ">>",
    placeless .openCurly "\x7b", placeless .intWord "int", placeless .identifier "x",
    placeless .assignment "=", placeless .integerLiteral "1", placeless .semicolon ";",
    placeless .closeCurly "\x7d", placeless .closeParen ")", placeless .openBracket "[",
    placeless .integerLiteral "0", placeless .closeBracket "]", placeless .plusEquals "+=",
    placeless .integerLiteral "1", placeless .semicolon ";"]

def countedTwiceTarget : Expr :=
  .index (.call (.identifier "f") [.function [] ⟨Position.unknown,
    [.varDecl Position.unknown 1024 "x" .int (.integer 1)]⟩]) (.integer 0)

def countedTwice : Program :=
  ⟨[.expression Position.unknown (.assignment countedTwiceTarget
    (.binary .add countedTwiceTarget (.integer 1)))]⟩

theorem parse_countedTwice :
    Parser.parse countedTwiceTokens "shell" = .ok countedTwice (placelessEnd 1025) := by
  cbv

theorem countedTwice_counts_up :
    Parser.parse countedTwiceTokens "shell" = .ok countedTwice (placelessEnd 1025) ∧
      (∀ id, id ∈ countedTwice.numbered.map Numbered.id ↔
        ParserState.firstId ≤ id ∧ id < 1025) ∧
      ((countedTwice.numbered.map Numbered.id).Nodup ↔ ∀ target operator value,
        countedTwice.Contains (.expr (.assignment target (.binary operator target value))) →
          target.numbered = []) :=
  ⟨parse_countedTwice, declaration_ids_count_up parse_countedTwice⟩

/-- The only variable that is declared stands in the program twice. -/
theorem countedTwice_repeats :
    Parser.parse countedTwiceTokens "shell" = .ok countedTwice (placelessEnd 1025) ∧
      countedTwice.numbered = [.variable 1024, .variable 1024] ∧
      ¬(countedTwice.numbered.map Numbered.id).Nodup := by
  have declared : countedTwice.numbered = [.variable 1024, .variable 1024] := rfl
  refine ⟨parse_countedTwice, declared, ?_⟩
  rw [declared]
  decide

end ScriptCheck
