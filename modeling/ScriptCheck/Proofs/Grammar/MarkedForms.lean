import ScriptCheck.Proofs.Grammar.Marking
import ScriptCheck.Proofs.Grammar.MethodOrder
import ScriptCheck.Proofs.Typing.Places

/-!
# Trees from marked tokens

What is parsed from marked tokens is regular: every statement in it stands at a marked position,
every template in it has a marked name and one member of each name, its functions are numbered in
turn, and all names in the types that are written in it are marked. The parser refuses a member
whose name the template has already, and takes over the position of a statement from the first
token.
-/

namespace ScriptCheck

variable {marked : Marking}

namespace Stmt

/-- The names of the attributes and methods of a template. -/
def memberNames : Stmt → List String
  | .templateDecl _ _ attributes methods => attributes.map (·.1) ++ methods.map (·.name)
  | _ => []

/-- The name of the template that a statement declares. -/
def templateName? : Stmt → Option String
  | .templateDecl _ name _ _ => some name
  | _ => none

structure Regular (marked : Marking) (stmt : Stmt) : Prop where
  isMarked : marked.position stmt.position
  distinct : stmt.memberNames.Nodup
  isNamed : ∀ name ∈ stmt.templateName?, marked.name name
  inTurn : InTurn stmt.functions

end Stmt

/-- What is asked of a statement or a type in a regular part. -/
def Part.IsRegular (marked : Marking) : Part → Prop
  | .stmt written => written.Regular marked
  | .type written => written.Regular marked
  | _ => True

/-- All statements and types in a part are regular. -/
def Part.Regular (marked : Marking) (part : Part) : Prop :=
  ∀ inner, Relation.ReflTransGen Part.Holds part inner → inner.IsRegular marked

structure Block.Regular (marked : Marking) (block : Block) : Prop where
  isMarked : marked.position block.position
  body : ∀ stmt ∈ block.body, (Part.stmt stmt).Regular marked

structure FnDecl.Regular (marked : Marking) (declaration : FnDecl) : Prop where
  isMarked : marked.position declaration.position
  signature : (Ty.function declaration.signature).Regular marked
  body : ∀ stmt ∈ declaration.body.body, (Part.stmt stmt).Regular marked

namespace Part

theorem regular_type {type : Ty} (regular : type.Regular marked) :
    (Part.type type).Regular marked := by
  intro inner inside
  rcases inside.cases_head with rfl | ⟨held, holds, _⟩
  · exact regular
  · contradiction

theorem Regular.held {part held : Part} (regular : part.Regular marked)
    (holds : part.Holds held) : held.Regular marked :=
  fun stmt inside => regular stmt (inside.head holds)

theorem regular_expr {expr : Expr}
    (operands : ∀ operand ∈ expr.operands, (Part.expr operand).Regular marked)
    (bodies : ∀ params body, expr = .function params body →
      (∀ param ∈ params, RegularParam marked param) ∧ body.Regular marked) :
    (Part.expr expr).Regular marked := by
  intro inner inside
  rcases inside.cases_head with rfl | ⟨held, holds, inside⟩
  · trivial
  · cases holds with
    | operand member => exact operands _ member inner inside
    | literalType params body =>
        have regular : (Ty.function { result := .infer, params }).Regular marked :=
          (Ty.regular_primitive .infer).function (bodies params body rfl).1
        exact regular_type regular inner inside
    | literalBody params member => exact (bodies params _ rfl).2.body _ member inner inside

theorem regular_stmt {stmt : Stmt} (regular : stmt.Regular marked)
    (operands : ∀ operand ∈ stmt.operands, (Part.expr operand).Regular marked)
    (blocks : ∀ block ∈ stmt.blocks, block.Regular marked)
    (functions : ∀ declaration ∈ stmt.functions, declaration.Regular marked)
    (types : ∀ type, (Part.stmt stmt).Holds (.type type) → type.Regular marked) :
    (Part.stmt stmt).Regular marked := by
  intro inner inside
  rcases inside.cases_head with rfl | ⟨held, holds, inside⟩
  · exact regular
  · have isType (type : Ty) (same : held = .type type) : inner.IsRegular marked := by
      subst same
      exact regular_type (types type holds) inner inside
    cases holds with
    | stmtOperand member => exact operands _ member inner inside
    | nested among member => exact (blocks _ among).body _ member inner inside
    | functionBody member => exact (functions _ List.mem_cons_self).body _ member inner inside
    | methodBody position name attributes among member =>
        exact (functions _ among).body _ member inner inside
    | declaredType | functionType | attributeType | methodType => exact isType _ rfl

/-- A statement without declarations of functions. -/
theorem regular_plain {stmt : Stmt} (isMarked : marked.position stmt.position)
    (plain : stmt.functions = [] ∧ stmt.memberNames = [] ∧ stmt.templateName? = none)
    (operands : ∀ operand ∈ stmt.operands, (Part.expr operand).Regular marked)
    (blocks : ∀ block ∈ stmt.blocks, block.Regular marked)
    (types : ∀ type, (Part.stmt stmt).Holds (.type type) → type.Regular marked) :
    (Part.stmt stmt).Regular marked := by
  rcases plain with ⟨noFunctions, noMembers, noTemplate⟩
  apply regular_stmt _ operands blocks _ types
  · exact ⟨isMarked, noMembers ▸ List.nodup_nil, by simp [noTemplate], noFunctions ▸ inTurn_nil⟩
  · simp [noFunctions]

theorem regular_call {callee : Expr} {arguments : List Expr}
    (regular : (Part.expr callee).Regular marked)
    (regularArguments : ∀ argument ∈ arguments, (Part.expr argument).Regular marked) :
    (Part.expr (.call callee arguments)).Regular marked := by
  refine regular_expr ?_ nofun
  intro operand member
  rw [Expr.operands] at member
  split at member
  · exact regularArguments operand member
  · rcases List.mem_cons.mp member with rfl | among
    · exact regular
    · exact regularArguments operand among

theorem regular_binary {left right : Expr} (operator : BinaryOp)
    (regular : (Part.expr left).Regular marked) (regularRight : (Part.expr right).Regular marked) :
    (Part.expr (.binary operator left right)).Regular marked :=
  regular_expr (List.forall_mem_cons.mpr
    ⟨regular, List.forall_mem_singleton.mpr regularRight⟩) nofun

theorem regular_assignment {target value : Expr} (regular : (Part.expr target).Regular marked)
    (regularValue : (Part.expr value).Regular marked) :
    (Part.expr (.assignment target value)).Regular marked :=
  regular_expr (List.forall_mem_cons.mpr
    ⟨regular, List.forall_mem_singleton.mpr regularValue⟩) nofun

theorem regular_name (name : String) : (Part.expr (.identifier name)).Regular marked :=
  regular_expr nofun nofun

end Part

namespace Parser

def Members.names (members : Members) : List String :=
  members.attributes.map (·.1) ++ members.methods.map (·.name)

/-- Members with names of their own, attributes with regular types, and methods with
regular bodies. -/
structure Members.Regular (marked : Marking) (members : Members) : Prop where
  distinct : members.names.Nodup
  attributes : ∀ entry ∈ members.attributes, entry.2.Regular marked
  methods : ∀ method ∈ members.methods, method.Regular marked

theorem Members.count_eq (members : Members) (name : String) :
    members.count name = members.names.count name := by
  rw [Members.names, List.count_append]
  simp only [List.count_eq_length_filter, List.filter_map, List.length_map]
  rfl

variable {inside : Inside}

abbrev MarksExpr (marked : Marking) (parser : Parser Expr) : Prop :=
  Marks marked (fun expr => (Part.expr expr).Regular marked) parser

abbrev MarksStmt (marked : Marking) (parser : Parser Stmt) : Prop :=
  Marks marked (fun stmt => (Part.stmt stmt).Regular marked) parser

/-- What stands inside of a form is regular, and what is declared there is counted. -/
structure MarksInside (marked : Marking) (inside : Inside) : Prop where
  counts : CountsInside inside
  expr : ∀ power, MarksExpr marked (inside.expr power)
  stmt : MarksStmt marked inside.stmt

section Expressions

theorem marks_numeral {token : Token} (isMarked : marked.position token.start) (value : Option Expr)
    (regular : ∀ expr ∈ value, (Part.expr expr).Regular marked) :
    MarksExpr marked (numeral token value) := by
  cases value with
  | none => exact marks_failAt isMarked _
  | some expr => exact marks_advance.bind fun _ _ => marks_pure (regular expr rfl)

theorem marks_literalExpr : MarksExpr marked literalExpr := by
  apply marks_current.bind
  intro token isMarked
  split
  · apply marks_numeral isMarked.position
    intro expr found
    rcases Option.map_eq_some_iff.mp found with ⟨value, -, rfl⟩
    exact Part.regular_expr nofun nofun
  · apply marks_numeral isMarked.position
    intro expr found
    rcases Option.map_eq_some_iff.mp found with ⟨value, -, rfl⟩
    exact Part.regular_expr nofun nofun
  · exact marks_advance.bind fun _ _ => marks_pure (Part.regular_expr nofun nofun)
  · exact marks_advance.bind fun _ _ => marks_pure (Part.regular_expr nofun nofun)
  · exact marks_advance.bind fun _ _ => marks_pure (Part.regular_expr nofun nofun)
  · exact marks_unexpected

variable (marks : MarksInside marked inside)
include marks

theorem marks_block : Marks marked (Block.Regular marked) (block inside) := by
  apply marks_position.bind
  intro start isMarked
  apply (marks_expect _).bind
  intro _ _
  apply (marks_collectWhile marks.stmt).bind
  intro body regular
  apply (marks_expect _).bind
  intro _ _
  exact marks_pure ⟨isMarked, regular⟩

theorem marks_entityLiteral (name : String) : MarksExpr marked (entityLiteral inside name) := by
  have comma : Marks marked anything optionalComma := by
    apply marks_kind.bind
    intro kind _
    split
    · exact marks_advance.bind fun _ _ => marks_pure trivial
    · exact marks_pure trivial
  have marksOne : Marks marked (fun entry => (Part.expr entry.2).Regular marked)
      (attributeValue inside) := by
    apply marks_identifier.bind
    intro name _
    apply (marks_expect _).bind
    intro _ _
    apply (marks.expr _).bind
    intro value regular
    exact comma.bind fun _ _ => marks_pure regular
  apply (marks_expect _).bind
  intro _ _
  apply (marks_collectWhile marksOne).bind
  intro attributes regular
  apply (marks_expect _).bind
  intro _ _
  apply marks_pure
  exact Part.regular_expr (List.forall_mem_map.mpr regular) nofun

theorem marks_identifierExpr : MarksExpr marked (identifierExpr inside) := by
  apply marks_identifier.bind
  intro name _
  apply marks_kind.bind
  intro kind _
  split
  · exact marks_entityLiteral marks name
  · exact marks_pure (Part.regular_name name)

theorem marks_leadingExpr : MarksExpr marked (leadingExpr inside) := by
  apply marks_kind.bind
  intro kind _
  split
  · exact marks_unexpected
  · apply marks_advance.bind
    intro _ _
    apply (marks.expr _).bind
    intro operand regular
    exact marks_pure (Part.regular_expr (List.forall_mem_singleton.mpr regular) nofun)

theorem marks_groupingExpr : MarksExpr marked (groupingExpr inside) := by
  apply (marks_expect _).bind
  intro _ _
  apply (marks.expr _).bind
  intro expr regular
  exact (marks_expect _).bind fun _ _ => marks_pure regular

theorem marks_arguments :
    Marks marked (fun values => ∀ value ∈ values, (Part.expr value).Regular marked)
      (arguments inside) := by
  apply (marks_expect _).bind
  intro _ _
  apply (marks_itemsUntil (marks.expr _)).bind
  intro values regular
  exact (marks_expect _).bind fun _ _ => marks_pure regular

theorem marks_pipeStage {piped : List Expr}
    (regular : ∀ value ∈ piped, (Part.expr value).Regular marked) :
    MarksExpr marked (pipeStage inside piped) := by
  apply marks_advance.bind
  intro _ _
  apply marks_identifier.bind
  intro callee _
  apply marks_kind.bind
  intro kind _
  split
  · apply (marks_arguments marks).bind
    intro values regularValues
    apply marks_pure
    apply Part.regular_call (Part.regular_name callee)
    exact List.forall_mem_append.mpr ⟨regular, regularValues⟩
  · exact marks_pure (Part.regular_call (Part.regular_name callee) regular)

theorem marks_arrayExpr : MarksExpr marked (arrayExpr inside) := by
  apply (marks_expect _).bind
  intro _ _
  apply (marks_itemsUntil (marks.expr _)).bind
  intro elements regular
  apply (marks_expect _).bind
  intro _ _
  apply marks_kind.bind
  intro kind _
  split
  · apply (marks_pipeStage marks regular).bind
    intro first regularFirst
    have marksStage (call : Expr) (regularCall : (Part.expr call).Regular marked) :
        MarksExpr marked (pipeStage inside [call]) :=
      marks_pipeStage marks (List.forall_mem_singleton.mpr regularCall)
    exact marks_repeatWhile marksStage regularFirst
  · exact marks_pure (Part.regular_expr regular nofun)

theorem marks_setOrMapExpr : MarksExpr marked (setOrMapExpr inside) := by
  apply (marks_expect _).bind
  intro _ _
  apply marks_kind.bind
  intro kind _
  split
  · exact marks_advance.bind fun _ _ => marks_pure (Part.regular_expr nofun nofun)
  · apply (marks.expr _).bind
    intro first regularFirst
    apply marks_kind.bind
    intro kind _
    split
    · have marksPair : Marks marked (fun pair => (Part.expr pair.1).Regular marked ∧
          (Part.expr pair.2).Regular marked) (keyValue inside) := by
        apply (marks.expr _).bind
        intro key regularKey
        apply (marks_expect _).bind
        intro _ _
        apply (marks.expr _).bind
        intro value regularValue
        exact marks_pure ⟨regularKey, regularValue⟩
      apply marks_advance.bind
      intro _ _
      apply (marks.expr _).bind
      intro value regularValue
      apply (marks_moreItems marksPair).bind
      intro pairs regularPairs
      apply (marks_expect _).bind
      intro _ _
      apply marks_pure
      refine Part.regular_expr ?_ nofun
      have all : ∀ pair ∈ (first, value) :: pairs,
          (Part.expr pair.1).Regular marked ∧ (Part.expr pair.2).Regular marked :=
        List.forall_mem_cons.mpr ⟨⟨regularFirst, regularValue⟩, regularPairs⟩
      intro operand member
      rcases List.mem_flatMap.mp member with ⟨pair, among, isSide⟩
      rcases List.mem_pair.mp isSide with rfl | rfl
      · exact (all pair among).1
      · exact (all pair among).2
    · apply (marks_moreItems (marks.expr _)).bind
      intro elements regular
      apply (marks_expect _).bind
      intro _ _
      apply marks_pure
      exact Part.regular_expr (List.forall_mem_cons.mpr ⟨regularFirst, regular⟩) nofun

theorem marks_functionExpr : MarksExpr marked (functionExpr inside) := by
  apply (marks_expect _).bind
  intro _ _
  apply (marks_withTypes fun _ => marks_parameters).bind
  intro params regularParams
  apply (marks_expect _).bind
  intro _ _
  apply (marks_block marks).bind
  intro body regular
  apply marks_pure
  refine Part.regular_expr nofun ?_
  rintro _ _ ⟨rfl, rfl⟩
  exact ⟨regularParams, regular⟩

theorem marks_exprStart : MarksExpr marked (exprStart inside) := by
  apply marks_kind.bind
  intro kind _
  split
  · exact marks_unexpected
  · exact marks_literalExpr
  · exact marks_identifierExpr marks
  · exact marks_leadingExpr marks
  · exact marks_groupingExpr marks
  · exact marks_arrayExpr marks
  · exact marks_setOrMapExpr marks
  · exact marks_functionExpr marks

end Expressions

section Tails

variable (marks : MarksInside marked inside) {left : Expr}
  (regular : (Part.expr left).Regular marked)
include marks regular

theorem marks_assignmentExpr : MarksExpr marked (assignmentExpr inside left) := by
  apply marks_advance.bind
  intro operator isMarked
  split
  · apply (marks.expr _).bind
    intro right regularRight
    have marksValue : MarksExpr marked (assignedValue operator left right) := by
      rw [assignedValue]
      split
      · exact marks_pure regularRight
      · split
        · exact marks_pure (Part.regular_binary _ regular regularRight)
        · exact marks_failAt isMarked.position _
    apply marksValue.bind
    intro value regularValue
    exact marks_pure (Part.regular_assignment regular regularValue)
  · exact marks_failAt isMarked.position _

theorem marks_binaryExpr (power : Power) : MarksExpr marked (binaryExpr inside left power) := by
  apply marks_kind.bind
  intro kind _
  split
  · exact marks_unexpected
  · apply marks_advance.bind
    intro _ _
    apply (marks.expr _).bind
    intro right regularRight
    exact marks_pure (Part.regular_binary _ regular regularRight)

omit marks in
theorem marks_trailingExpr : MarksExpr marked (trailingExpr left) := by
  apply marks_kind.bind
  intro kind _
  split
  · exact marks_unexpected
  · apply marks_advance.bind
    intro _ _
    exact marks_pure (Part.regular_expr (List.forall_mem_singleton.mpr regular) nofun)

theorem marks_callExpr : MarksExpr marked (callExpr inside left) := by
  apply (marks_arguments marks).bind
  intro values regularValues
  exact marks_pure (Part.regular_call regular regularValues)

theorem marks_indexExpr : MarksExpr marked (indexExpr inside left) := by
  apply (marks_expect _).bind
  intro _ _
  apply (marks.expr _).bind
  intro index regularIndex
  apply (marks_expect _).bind
  intro _ _
  apply marks_pure
  exact Part.regular_expr (List.forall_mem_cons.mpr
    ⟨regular, List.forall_mem_singleton.mpr regularIndex⟩) nofun

theorem marks_memberExpr : MarksExpr marked (memberExpr inside left) := by
  apply (marks_expect _).bind
  intro _ _
  apply marks_identifier.bind
  intro name _
  apply marks_kind.bind
  intro kind _
  split
  · apply (marks_arguments marks).bind
    intro values regularValues
    apply marks_pure
    exact Part.regular_expr (List.forall_mem_cons.mpr ⟨regular, regularValues⟩) nofun
  · exact marks_pure (Part.regular_expr (List.forall_mem_singleton.mpr regular) nofun)

theorem marks_exprTail : MarksExpr marked (exprTail inside left) := by
  apply marks_kind.bind
  intro kind _
  split
  · exact marks_unexpected
  · exact marks_assignmentExpr marks regular
  · exact marks_binaryExpr marks regular _
  · exact marks_trailingExpr regular
  · exact marks_callExpr marks regular
  · exact marks_indexExpr marks regular
  · exact marks_memberExpr marks regular

omit regular in
theorem marks_exprForm (power : Power) : MarksExpr marked (exprForm inside power) := by
  apply (marks_exprStart marks).bind
  intro left regular
  have marksTail (left : Expr) (regular : (Part.expr left).Regular marked) :
      MarksExpr marked (exprTail inside left) := marks_exprTail marks regular
  exact marks_repeatWhile marksTail regular

end Tails

section Statements

variable (marks : MarksInside marked inside)
include marks

theorem marks_expressionStmt : MarksStmt marked (expressionStmt inside) := by
  apply marks_position.bind
  intro start isMarked
  apply (marks.expr _).bind
  intro expr regular
  apply (marks_expect _).bind
  intro _ _
  apply marks_pure
  exact Part.regular_plain isMarked ⟨rfl, rfl, rfl⟩ (List.forall_mem_singleton.mpr regular) nofun
    nofun

omit marks in
theorem marks_varDecl {initializer : Parser Expr} (marks : MarksExpr marked initializer)
    {start : Position} (isMarked : marked.position start) (name : String) {declared : Ty}
    (regularType : declared.Regular marked) :
    MarksStmt marked (do
      let value ← initializer
      let _ ← expect .semicolon
      return .varDecl start (← freshId) name declared value) := by
  apply marks.bind
  intro value regular
  apply (marks_expect _).bind
  intro _ _
  apply marks_freshId.bind
  intro id _
  apply marks_pure
  refine Part.regular_plain isMarked ⟨rfl, rfl, rfl⟩ (List.forall_mem_singleton.mpr regular)
    nofun ?_
  rintro _ ⟨⟩
  exact regularType

theorem marks_varDeclStmt : MarksStmt marked (varDeclStmt inside) := by
  apply marks_position.bind
  intro start isMarked
  apply (marks_parseType _).bind
  intro declared regular
  apply marks_identifier.bind
  intro name _
  apply (marks_expect _).bind
  intro _ _
  exact marks_varDecl (marks.expr _) isMarked name regular

theorem marks_entityDeclStmt : MarksStmt marked (entityDeclStmt inside) := by
  apply marks_position.bind
  intro start isMarked
  apply (marks_expect _).bind
  intro _ _
  apply marks_identifier.bind
  intro name _
  apply (marks_expect _).bind
  intro _ _
  apply (marks_expectOr _ _).bind
  intro template found
  exact marks_varDecl (marks_entityLiteral marks template.value) isMarked name
    (Ty.regular_named (found.1.name found.2))

theorem marks_blockStmt : MarksStmt marked (blockStmt inside) := by
  apply (marks_block marks).bind
  intro block regular
  apply marks_pure
  exact Part.regular_plain regular.isMarked ⟨rfl, rfl, rfl⟩ nofun
    (List.forall_mem_singleton.mpr regular) nofun

theorem marks_condition : MarksExpr marked (condition inside) := by
  apply (marks_expect _).bind
  intro _ _
  apply (marks.expr _).bind
  intro expr regular
  exact (marks_expect _).bind fun _ _ => marks_pure regular

theorem marks_ifStmt : MarksStmt marked (ifStmt inside) := by
  have marksElse : Marks marked (fun otherwise => ∀ block ∈ otherwise.toList, block.Regular marked)
      (elseBlock inside) := by
    apply marks_kind.bind
    intro kind _
    split
    · apply marks_advance.bind
      intro _ _
      apply (marks_block marks).bind
      intro block regular
      exact marks_pure (List.forall_mem_singleton.mpr regular)
    · exact marks_pure nofun
  apply marks_position.bind
  intro start isMarked
  apply (marks_expect _).bind
  intro _ _
  apply (marks_condition marks).bind
  intro decision regular
  apply (marks_block marks).bind
  intro thenBlock regularThen
  apply marksElse.bind
  intro otherwise regularElse
  apply marks_pure
  exact Part.regular_plain isMarked ⟨rfl, rfl, rfl⟩ (List.forall_mem_singleton.mpr regular)
    (List.forall_mem_cons.mpr ⟨regularThen, regularElse⟩) nofun

theorem marks_whileStmt : MarksStmt marked (whileStmt inside) := by
  apply marks_position.bind
  intro start isMarked
  apply (marks_expect _).bind
  intro _ _
  apply (marks_condition marks).bind
  intro decision regular
  apply (marks_block marks).bind
  intro body regularBody
  apply marks_pure
  exact Part.regular_plain isMarked ⟨rfl, rfl, rfl⟩ (List.forall_mem_singleton.mpr regular)
    (List.forall_mem_singleton.mpr regularBody) nofun

theorem marks_rangeStmt : MarksStmt marked (rangeStmt inside) := by
  have marksStep : MarksExpr marked (rangeStep inside) := by
    apply marks_kind.bind
    intro kind _
    split
    · exact marks_advance.bind fun _ _ => marks.expr _
    · exact marks_pure (Part.regular_expr nofun nofun)
  apply marks_position.bind
  intro start isMarked
  apply (marks_expect _).bind
  intro _ _
  apply (marks_expect _).bind
  intro _ _
  apply marks_identifier.bind
  intro name _
  apply (marks_expect _).bind
  intro _ _
  apply (marks.expr _).bind
  intro first regularFirst
  apply (marks_expect _).bind
  intro _ _
  apply (marks.expr _).bind
  intro last regularLast
  apply marksStep.bind
  intro step regularStep
  apply (marks_expect _).bind
  intro _ _
  apply (marks_block marks).bind
  intro body regular
  apply marks_pure
  apply Part.regular_plain isMarked ⟨rfl, rfl, rfl⟩
  · simp [Stmt.operands, regularFirst, regularLast, regularStep]
  · exact List.forall_mem_singleton.mpr regular
  · intro _ holds
    cases holds

theorem marks_eachStmt : MarksStmt marked (eachStmt inside) := by
  apply marks_position.bind
  intro start isMarked
  apply (marks_expect _).bind
  intro _ _
  apply (marks_expect _).bind
  intro _ _
  apply marks_identifier.bind
  intro name _
  apply (marks_expect _).bind
  intro _ _
  apply (marks.expr _).bind
  intro iterable regularIterable
  apply (marks_expect _).bind
  intro _ _
  apply (marks_block marks).bind
  intro body regular
  apply marks_pure
  exact Part.regular_plain isMarked ⟨rfl, rfl, rfl⟩
    (List.forall_mem_singleton.mpr regularIterable) (List.forall_mem_singleton.mpr regular) nofun

omit marks in
/-- A statement of a word alone. -/
theorem marks_wordStmt (word : Kind) (stmt : Position → Stmt)
    (regular : ∀ start, marked.position start → (Part.stmt (stmt start)).Regular marked) :
    MarksStmt marked (do
      let start ← position
      let _ ← expect word
      let _ ← expect .semicolon
      return stmt start) := by
  apply marks_position.bind
  intro start isMarked
  apply (marks_expect _).bind
  intro _ _
  apply (marks_expect _).bind
  intro _ _
  exact marks_pure (regular start isMarked)

theorem marks_returnStmt : MarksStmt marked (returnStmt inside) := by
  have marksValue : Marks marked
      (fun value => ∀ expr ∈ value.toList, (Part.expr expr).Regular marked)
      (returnedValue inside) := by
    apply marks_kind.bind
    intro kind _
    split
    · exact marks_pure nofun
    · apply (marks.expr _).bind
      intro expr regular
      exact marks_pure (List.forall_mem_singleton.mpr regular)
  apply marks_position.bind
  intro start isMarked
  apply (marks_expect _).bind
  intro _ _
  apply marksValue.bind
  intro value regular
  apply (marks_expect _).bind
  intro _ _
  exact marks_pure (Part.regular_plain isMarked ⟨rfl, rfl, rfl⟩ regular nofun nofun)

theorem marks_fnDecl : Marks marked (FnDecl.Regular marked) (fnDecl inside) := by
  apply marks_position.bind
  intro start isMarked
  apply (marks_expect _).bind
  intro _ _
  apply marks_identifier.bind
  intro name _
  apply (marks_expect _).bind
  intro _ _
  apply (marks_withTypes fun _ => marks_resultType).bind
  intro result regularResult
  apply (marks_expect _).bind
  intro _ _
  apply (marks_withTypes fun _ => marks_parameters).bind
  intro params regularParams
  apply (marks_expect _).bind
  intro _ _
  apply (marks_block marks).bind
  intro body regular
  apply marks_freshId.bind
  intro id _
  exact marks_pure ⟨isMarked, regularResult.function regularParams, regular.body⟩

theorem marks_functionStmt : MarksStmt marked (functionStmt inside) := by
  apply marks_get.bind
  intro state _
  split
  · exact marks_varDeclStmt marks
  · exact marks_expressionStmt marks
  · apply ((marks_fnDecl marks).and_yields (yields_behind marks.counts)).bind
    intro declaration ⟨regular, behind⟩
    apply marks_pure
    have inTurn : InTurn [declaration] := inTurn_nil.concat behind nofun
    refine Part.regular_stmt ⟨regular.isMarked, List.nodup_nil, nofun, inTurn⟩ nofun nofun
      (List.forall_mem_singleton.mpr regular) ?_
    rintro _ ⟨⟩
    exact regular.signature

theorem marks_echoStmt : MarksStmt marked (echoStmt inside) := by
  apply marks_position.bind
  intro start isMarked
  apply (marks_expect _).bind
  intro _ _
  apply (marks.expr _).bind
  intro expr regular
  apply (marks_expect _).bind
  intro _ _
  apply marks_pure
  exact Part.regular_plain isMarked ⟨rfl, rfl, rfl⟩ (List.forall_mem_singleton.mpr regular) nofun
    nofun

/-- One more member has a name of its own where it has the same name as no other one. -/
theorem marks_freshMember (template : String) {members : Members}
    (regular : members.Regular marked) :
    Marks marked (Members.Regular marked) (freshMember inside template members) := by
  have marksMember : Marks marked (fun found =>
      found.2.names.Perm (found.1 :: members.names) ∧
        (∀ entry ∈ found.2.attributes, entry.2.Regular marked) ∧
          ∀ method ∈ found.2.methods, method.Regular marked) (member inside members) := by
    apply marks_kind.bind
    intro kind _
    split
    · apply (marks_fnDecl marks).bind
      intro method regularMethod
      apply marks_pure
      refine ⟨?_, regular.attributes, List.forall_mem_append.mpr
        ⟨regular.methods, List.forall_mem_singleton.mpr regularMethod⟩⟩
      simp only [Members.names, List.map_append, List.map_cons, List.map_nil, ← List.append_assoc]
      exact List.perm_append_singleton _ _
    · apply (marks_parseType _).bind
      intro type regularType
      apply marks_identifier.bind
      intro name _
      apply (marks_expect _).bind
      intro _ _
      apply marks_pure
      refine ⟨?_, List.forall_mem_append.mpr
        ⟨regular.attributes, List.forall_mem_singleton.mpr regularType⟩, regular.methods⟩
      simp only [Members.names, List.map_append, List.map_cons, List.map_nil, List.append_assoc]
      exact List.perm_middle
  apply marks_position.bind
  intro start isMarked
  apply marksMember.bind
  rintro ⟨name, longer⟩ ⟨sameNames, regularTypes, regularMethods⟩
  dsimp only
  split
  · exact marks_failAt isMarked _
  · rename_i once
    apply marks_pure
    refine ⟨?_, regularTypes, regularMethods⟩
    have noOther : members.names.count name = 0 := by
      rw [Members.count_eq, sameNames.count_eq, List.count_cons_self] at once
      exact Nat.le_zero.mp (Nat.le_of_lt_succ (Nat.lt_of_succ_le (Nat.not_lt.mp once)))
    apply sameNames.nodup_iff.mpr
    exact List.nodup_cons.mpr ⟨List.count_eq_zero.mp noOther, regular.distinct⟩

theorem marks_templateStmt : MarksStmt marked (templateStmt inside) := by
  apply marks_position.bind
  intro start isMarked
  apply (marks_expect _).bind
  intro _ _
  apply marks_identifier.bind
  intro name isName
  apply (marks_expect _).bind
  intro _ _
  apply (marks_expect _).bind
  intro _ _
  have marksMember (members : Members) (regular : members.Regular marked) :
      Marks marked (Members.Regular marked) (freshMember inside name members) :=
    marks_freshMember marks name regular
  have none : Members.Regular marked { attributes := [], methods := [] } :=
    ⟨List.nodup_nil, nofun, nofun⟩
  apply ((marks_repeatWhile marksMember none).and_yields fun _ _ _ =>
    inTurn_of_members marks.counts).bind
  intro members ⟨regular, inTurn⟩
  apply (marks_expect _).bind
  intro _ _
  apply (marks_expect _).bind
  intro _ _
  apply marks_pure
  refine Part.regular_stmt ⟨isMarked, regular.distinct, ?_, inTurn⟩ nofun nofun regular.methods ?_
  · rintro _ ⟨⟩
    exact isName
  · intro type holds
    cases holds with
    | attributeType position name methods member => exact regular.attributes _ member
    | methodType position name attributes among => exact (regular.methods _ among).signature

theorem marks_stmtForm : MarksStmt marked (stmtForm inside) := by
  rw [stmtForm_eq]
  have opens : Marks marked anything startsDeclaration :=
    marks_get.bind fun _ _ => marks_pure trivial
  apply opens.bind
  intro found _
  split
  · exact marks_varDeclStmt marks
  · apply marks_kind.bind
    intro kind _
    cases kind.stmtForm? with
    | none => exact marks_expressionStmt marks
    | some form =>
        cases form with
        | varDecl => exact marks_varDeclStmt marks
        | entityDecl => exact marks_entityDeclStmt marks
        | block => exact marks_blockStmt marks
        | ifElse => exact marks_ifStmt marks
        | whileLoop => exact marks_whileStmt marks
        | range => exact marks_rangeStmt marks
        | each => exact marks_eachStmt marks
        | halt =>
            exact marks_wordStmt _ .halt fun _ isMarked =>
              Part.regular_plain isMarked ⟨rfl, rfl, rfl⟩ nofun nofun nofun
        | skip =>
            exact marks_wordStmt _ .skip fun _ isMarked =>
              Part.regular_plain isMarked ⟨rfl, rfl, rfl⟩ nofun nofun nofun
        | returning => exact marks_returnStmt marks
        | function => exact marks_functionStmt marks
        | echo => exact marks_echoStmt marks
        | templateDecl => exact marks_templateStmt marks

end Statements

/-- However deep the parsers are nested, what stands inside is regular. -/
theorem marksInside_nested (depth : Nat) : MarksInside marked (nested depth) := by
  induction depth with
  | zero => exact ⟨countsInside_nested 0, fun _ => marks_unexpected, marks_unexpected⟩
  | succ depth ih =>
      exact ⟨countsInside_nested _, fun power => marks_exprForm ih power, marks_stmtForm ih⟩

theorem marks_parseProgram :
    Marks marked (fun program => ∀ stmt ∈ program.body, (Part.stmt stmt).Regular marked)
      parseProgram := by
  have marksStmt : MarksStmt marked parseStmt :=
    marks_get.bind fun _ _ => marks_stmtForm (marksInside_nested _)
  apply (marks_collectWhile marksStmt).bind
  intro body regular
  exact marks_pure regular

/-- What is parsed from marked tokens is regular, and a fault is at a marked position. -/
theorem marks_parse {tokens : List Token} {file : String}
    (starts : (ParserState.ofTokens tokens file).Marked marked) :
    match parse tokens file with
    | .ok program _ => ∀ part, program.Contains part → part.IsRegular marked
    | .error diagnostic _ => diagnostic.Marked marked := by
  have found := marks_parseProgram (ParserState.ofTokens tokens file) starts
  show match parseProgram (ParserState.ofTokens tokens file) with
    | .ok program _ => ∀ part, program.Contains part → part.IsRegular marked
    | .error diagnostic _ => diagnostic.Marked marked
  cases ran : parseProgram (ParserState.ofTokens tokens file) with
  | error diagnostic after =>
      rw [ran] at found
      exact found
  | ok program after =>
      rw [ran] at found
      rintro part ⟨outer, member, inside⟩
      exact found.2 outer member part inside

theorem marked_anything (tokens : List Token) (file : String) :
    (ParserState.ofTokens tokens file).Marked .anything :=
  ⟨fun _ _ => ⟨trivial, fun _ => trivial⟩, trivial, fun _ => trivial⟩

/-- What is parsed is regular, whatever the tokens are. -/
theorem regular_of_parse {tokens : List Token} {file : String} {program : Program}
    {after : ParserState} {part : Part} (parsed : parse tokens file = .ok program after)
    (contains : program.Contains part) : part.IsRegular .anything := by
  have marks := marks_parse (marked_anything tokens file)
  rw [parsed] at marks
  exact marks part contains

/-- No type in a program that is parsed holds a copy of a template. -/
theorem noCopies_of_parse {tokens : List Token} {file : String} {program : Program}
    {after : ParserState} {type : Ty} (parsed : parse tokens file = .ok program after)
    (contains : program.Contains (.type type)) (copy : Template) :
    .template copy ∉ type.mentions :=
  (regular_of_parse parsed contains).noCopies copy

/-- The parser reports faults of the grammar only, whatever the tokens are. -/
theorem grammar_of_parse {tokens : List Token} {file : String} {diagnostic : Diagnostic}
    {after : ParserState} (failed : parse tokens file = .error diagnostic after) :
    ∃ fault, diagnostic.cause = .grammar fault := by
  have marks := marks_parse (marked_anything tokens file)
  rw [failed] at marks
  exact marks.cause

end Parser

end ScriptCheck
