import ScriptCheck.Proofs.Grammar.Declaration
import ScriptCheck.Proofs.Grammar.Following
import ScriptCheck.Proofs.Grammar.StmtReading
import ScriptCheck.Proofs.Program.Shifted

/-!
# Expressions and statements with more tokens behind them

Every form of expression is read in the same way with more tokens behind the list, as long as there
is a token left that ends it, or what comes behind starts with one that ends expressions. A form of
statement that is complete is read in the same way whatever comes behind it, unless that is the
other block of a choice.

A statement that starts with a name looks as far ahead as suffixes of a type go. It finds a
declaration also with more tokens behind it. An expression statement ends with a semicolon, which no
type contains, and the look ahead does not get past it.
-/

namespace ScriptCheck

/-- The look ahead has come to an end, if it has found a declaration or would have to get past a
semicolon. -/
theorem opensDeclaration_append {depth : Nat} {kinds : List Kind}
    (settled : opensDeclaration depth kinds = true ∨ .semicolon ∈ kinds) (more : List Kind) :
    opensDeclaration depth (kinds ++ more) = opensDeclaration depth kinds := by
  fun_induction opensDeclaration depth kinds with
  | case1 depth => simp at settled
  | case2 rest => rfl
  | case3 rest ih => exact ih (by simpa using settled)
  | case4 rest ih => exact ih (by simpa using settled)
  | case5 head rest notName notArray notCurly =>
      rw [List.cons_append, opensDeclaration]
      · exact notName
      · rintro others rfl same
        cases rest with
        | nil => simp at settled
        | cons next rest => exact notArray _ rfl (by rw [(List.cons.inj same).1])
      · exact notCurly
  | case6 depth rest ih => exact ih (by simpa using settled)
  | case7 depth rest ih => exact ih (by simpa using settled)
  | case8 depth kind rest notOpen notClose ih =>
      rw [List.cons_append, opensDeclaration_part _ _ notOpen notClose]
      cases part : kind.isKeyTypePart with
      | false => rfl
      | true =>
          refine ih ?_
          rw [part] at settled
          refine settled.imp id fun member => ?_
          refine (List.mem_cons.mp member).resolve_left ?_
          rintro rfl
          contradiction

/-- A kind of token that belongs to an operand which a name or a bracket may end. -/
def Kind.joinsOperand : Kind → Bool
  | .openCurly | .openParen | .arrow => true
  | _ => false

theorem Kind.joinsOperand_of_endsExpr {kind : Kind} (ended : kind.endsExpr = true) :
    kind.joinsOperand = false := by
  cases kind <;> first | rfl | contradiction

namespace Parser

variable {sequel : Sequel} {closed inner : Bool} {starts : Kind → Prop}
  {inside insideAgain : Inside}

/-- The parsers for what stands inside of a form are followed. Expressions are closed only in front
of what ends them. -/
structure FollowsInside (sequel : Sequel) (closed : Bool) (inside insideAgain : Inside) : Prop where
  expr : ∀ power, Follows sequel anywhere closed true (Expr.shifted sequel.shift)
    (inside.expr power) (insideAgain.expr power)
  stmt : Follows sequel anywhere true true (Stmt.shifted sequel.shift) inside.stmt insideAgain.stmt
  ends : closed = true → (Kind.ahead sequel.tokens).endsExpr = true

/-- What comes behind an operand does not join it, if the operand is closed. -/
abbrev LeavesOperand (sequel : Sequel) (closed : Bool) : Prop :=
  closed = true → (Kind.ahead sequel.tokens).joinsOperand = false

theorem FollowsInside.leaves (follows : FollowsInside sequel closed inside insideAgain) :
    LeavesOperand sequel closed :=
  fun isClosed => Kind.joinsOperand_of_endsExpr (follows.ends isClosed)

theorem LeavesOperand.ne (leaves : LeavesOperand sequel closed) (isClosed : closed = true)
    {expected : Kind} (joins : expected.joinsOperand = true) :
    Kind.ahead sequel.tokens ≠ expected := by
  rintro rfl
  exact Bool.false_ne_true ((leaves isClosed).symm.trans joins)

/-- Expressions are found with other numbers. -/
abbrev FollowsExpr (sequel : Sequel) (closed : Bool) (starts : Kind → Prop)
    (parser again : Parser Expr) : Prop :=
  Follows sequel starts closed true (Expr.shifted sequel.shift) parser again

section Expressions

variable (follows : FollowsInside sequel inner inside insideAgain)
include follows

theorem follows_block :
    Follows sequel starts true true (Block.shifted sequel.shift) (block inside)
      (block insideAgain) := by
  refine follows_position (fun start => ?_) (.inr rfl)
  refine (follows_expect (by simp)).then fun _ => ?_
  refine (follows_collectWhile (follows.stmt.open.from)).closing fun body => ?_
  refine (follows_expect (by simp)).then fun _ => follows_return ?_
  rw [Block.shifted, shiftedBody_eq]

omit follows in
theorem follows_numeral {token : Token} (proper : token.kind ≠ .eof) {value : Option Expr}
    (plain : ∀ expr ∈ value, expr.shifted sequel.shift = expr) :
    FollowsExpr sequel closed (· = token.kind) (numeral token value) (numeral token value) := by
  cases value with
  | none => exact follows_failAt _ _
  | some expr =>
      exact (follows_advance proper).then fun _ => follows_return (plain expr rfl).symm

omit follows in
theorem follows_literalExpr : FollowsExpr sequel closed starts literalExpr literalExpr := by
  refine follows_current (fun token _ => ?_) (.inr rfl)
  split
  · rename_i isInteger
    refine follows_numeral (by simp [isInteger]) fun expr found => ?_
    rcases Option.map_eq_some_iff.mp found with ⟨value, _, rfl⟩
    rfl
  · rename_i isFloat
    refine follows_numeral (by simp [isFloat]) fun expr found => ?_
    rcases Option.map_eq_some_iff.mp found with ⟨value, _, rfl⟩
    rfl
  · rename_i isString
    exact (follows_advance (by simp [isString])).then fun _ => follows_return rfl
  · rename_i isBoolean
    exact (follows_advance (by simp [isBoolean])).then fun _ => follows_return rfl
  · rename_i isNull
    exact (follows_advance (by simp [isNull])).then fun _ => follows_return rfl
  · exact follows_unexpected

theorem follows_entityLiteral (name : String) :
    Follows sequel starts true true (Expr.shifted sequel.shift) (entityLiteral inside name)
      (entityLiteral insideAgain name) := by
  have comma : Follows sequel anywhere false false (fun _ => ()) optionalComma optionalComma := by
    refine follows_kind (fun kind _ => ?_) (.inl rfl)
    split
    · rename_i isComma
      subst isComma
      show Follows _ _ _ _ _ (advance >>= fun _ => pure ()) (advance >>= fun _ => pure ())
      exact (follows_advance (by simp)).then fun _ => follows_return rfl
    · exact follows_return rfl
  have one : Follows sequel anywhere false true
      (fun entry => (entry.1, entry.2.shifted sequel.shift)) (attributeValue inside)
      (attributeValue insideAgain) := by
    refine follows_identifier.then fun name => Follows.lax ?_
    refine (follows_expect (by simp)).then fun _ => ?_
    refine (follows.expr _).opened.lax.going fun value => comma.going fun _ => ?_
    exact follows_return rfl
  refine (follows_expect (by simp)).then fun _ => ?_
  refine (follows_collectWhile one.from).closing fun attributes => ?_
  refine (follows_expect (by simp)).then fun _ => follows_return ?_
  rw [Expr.shifted, shiftedAttributes_eq]

theorem follows_identifierExpr (leaves : LeavesOperand sequel closed) :
    FollowsExpr sequel closed starts (identifierExpr inside) (identifierExpr insideAgain) := by
  refine follows_identifier.then fun name =>
    follows_kind_behind (fun kind _ => ?_) fun isClosed => ?_
  · split
    · exact (follows_entityLiteral follows name).open.lax
    · exact follows_return rfl
  · rw [if_neg (leaves.ne isClosed rfl)]
    rfl

theorem follows_leadingExpr :
    FollowsExpr sequel inner starts (leadingExpr inside) (leadingExpr insideAgain) := by
  refine follows_kind (fun kind _ => ?_) (.inr rfl)
  cases named : kind.leadingOp? with
  | none => exact follows_unexpected
  | some operator =>
      have proper : kind ≠ .eof := by
        rintro rfl
        contradiction
      refine (follows_advance proper).then fun _ => (follows.expr _).lax.going fun operand => ?_
      exact follows_return rfl

theorem follows_groupingExpr :
    FollowsExpr sequel closed starts (groupingExpr inside) (groupingExpr insideAgain) := by
  refine (follows_expect (by simp)).then fun _ => (follows.expr _).closing fun expr => ?_
  exact (follows_expect (by simp)).then fun _ => follows_return rfl

theorem follows_arguments :
    Follows sequel starts true true (List.map (Expr.shifted sequel.shift)) (arguments inside)
      (arguments insideAgain) := by
  refine (follows_expect (by simp)).then fun _ => ?_
  refine (follows_itemsUntil (follows.expr _).opened).closing fun values => ?_
  exact (follows_expect (by simp)).then fun _ => follows_return rfl

theorem follows_pipeStage (leaves : LeavesOperand sequel closed) (piped : List Expr) :
    FollowsExpr sequel closed (· = .arrow) (pipeStage inside piped)
      (pipeStage insideAgain (piped.map (Expr.shifted sequel.shift))) := by
  refine (follows_advance (by simp)).then fun _ => follows_identifier.then fun callee => ?_
  refine follows_kind_behind (fun kind _ => ?_) fun isClosed => ?_
  · split
    · refine (follows_arguments follows).then fun values => follows_return ?_
      rw [Expr.shifted, shiftedExprs_eq, List.map_append]
      rfl
    · refine follows_return ?_
      rw [Expr.shifted, shiftedExprs_eq]
      rfl
  · rw [if_neg (leaves.ne isClosed rfl)]
    rfl

theorem follows_arrayExpr (leaves : LeavesOperand sequel closed) :
    FollowsExpr sequel closed starts (arrayExpr inside) (arrayExpr insideAgain) := by
  refine (follows_expect (by simp)).then fun _ => ?_
  refine (follows_itemsUntil (follows.expr _).opened).closing fun elements => ?_
  refine (follows_expect (by simp)).then fun _ =>
    follows_kind_behind (fun kind _ => ?_) fun isClosed => ?_
  · split
    · rename_i isArrow
      subst isArrow
      refine (follows_pipeStage follows leaves elements).lax.going fun first => ?_
      refine follows_repeatWhile first (fun call => ?_) fun isClosed => ?_
      · exact (follows_pipeStage follows leaves [call]).narrow fun _ same => of_decide_eq_true same
      · rw [decide_eq_false (leaves.ne isClosed rfl)]
        rfl
    · refine follows_return ?_
      rw [Expr.shifted, shiftedExprs_eq]
  · rw [if_neg (leaves.ne isClosed rfl)]
    rfl

theorem follows_setOrMapExpr :
    FollowsExpr sequel closed starts (setOrMapExpr inside) (setOrMapExpr insideAgain) := by
  refine (follows_expect (by simp)).then fun _ => Follows.lax ?_
  refine follows_kind (fun kind _ => ?_) (.inr rfl)
  split
  · rename_i closes
    subst closes
    exact (follows_advance (by simp)).then fun _ => follows_return rfl
  · refine (follows.expr _).from.closing fun first => follows_kind (fun kind _ => ?_) (.inr rfl)
    split
    · rename_i isColon
      subst isColon
      have one : Follows sequel anywhere false true
          (fun pair => (pair.1.shifted sequel.shift, pair.2.shifted sequel.shift))
          (keyValue inside) (keyValue insideAgain) := by
        refine (follows.expr _).closing fun key => (follows_expect (by simp)).then fun _ => ?_
        exact (follows.expr _).opened.lax.going fun value => follows_return rfl
      refine (follows_advance (by simp)).then fun _ => Follows.lax ?_
      refine (follows.expr _).closing fun value => (follows_moreItems one).closing fun pairs => ?_
      refine (follows_expect (by simp)).then fun _ => follows_return ?_
      rw [Expr.shifted, shiftedPairs_eq]
      rfl
    · refine (follows_moreItems (follows.expr _).opened).closing fun elements => ?_
      refine (follows_expect (by simp)).then fun _ => follows_return ?_
      rw [Expr.shifted, shiftedExprs_eq]
      rfl

theorem follows_functionExpr :
    FollowsExpr sequel closed starts (functionExpr inside) (functionExpr insideAgain) := by
  refine (follows_expect (by simp)).then fun _ => Follows.lax ?_
  refine (follows_withTypes fun _ _ follows => follows_parameters follows).then fun params => ?_
  refine Follows.lax ((follows_expect (by simp)).then fun _ => Follows.lax ?_)
  exact (follows_block follows).then fun body => follows_return rfl

theorem follows_exprStart :
    FollowsExpr sequel inner starts (exprStart inside) (exprStart insideAgain) := by
  refine follows_kind (fun kind _ => ?_) (.inr rfl)
  cases kind.exprStart? with
  | none => exact follows_unexpected
  | some form =>
      cases form with
      | literal => exact follows_literalExpr
      | identifier => exact follows_identifierExpr follows follows.leaves
      | leadingOperator => exact follows_leadingExpr follows
      | grouping => exact follows_groupingExpr follows
      | array => exact follows_arrayExpr follows follows.leaves
      | setOrMap => exact follows_setOrMapExpr follows
      | function => exact follows_functionExpr follows

end Expressions

section Tails

variable (follows : FollowsInside sequel inner inside insideAgain) (left : Expr)
include follows

theorem follows_assignmentExpr {kind : Kind} (proper : kind ≠ .eof) :
    FollowsExpr sequel inner (· = kind) (assignmentExpr inside left)
      (assignmentExpr insideAgain (left.shifted sequel.shift)) := by
  refine (follows_advance proper).then fun operator => ?_
  rw [Expr.isAssignmentTarget_shifted]
  split
  · refine (follows.expr _).lax.going fun right => ?_
    have value : Follows sequel anywhere true false (Expr.shifted sequel.shift)
        (assignedValue operator left right)
        (assignedValue operator (left.shifted sequel.shift) (right.shifted sequel.shift)) := by
      rw [assignedValue, assignedValue]
      split
      · exact follows_return rfl
      · cases operator.kind.binaryOp? with
        | none => exact follows_failAt _ _
        | some combined => exact follows_return rfl
    exact value.past fun value => follows_return rfl
  · exact follows_failAt _ _

theorem follows_binaryExpr (power : Power) :
    FollowsExpr sequel inner starts (binaryExpr inside left power)
      (binaryExpr insideAgain (left.shifted sequel.shift) power) := by
  refine follows_kind (fun kind _ => ?_) (.inr rfl)
  cases named : kind.binaryOp? with
  | none => exact follows_unexpected
  | some operator =>
      have proper : kind ≠ .eof := by
        rintro rfl
        contradiction
      refine (follows_advance proper).then fun _ => (follows.expr _).lax.going fun right => ?_
      exact follows_return rfl

omit follows in
theorem follows_trailingExpr :
    FollowsExpr sequel closed starts (trailingExpr left)
      (trailingExpr (left.shifted sequel.shift)) := by
  refine follows_kind (fun kind _ => ?_) (.inr rfl)
  cases named : kind.trailingOp? with
  | none => exact follows_unexpected
  | some operator =>
      have proper : kind ≠ .eof := by
        rintro rfl
        contradiction
      exact (follows_advance proper).then fun _ => follows_return rfl

theorem follows_callExpr :
    FollowsExpr sequel closed starts (callExpr inside left)
      (callExpr insideAgain (left.shifted sequel.shift)) := by
  refine (follows_arguments follows).then fun values => follows_return ?_
  rw [Expr.shifted, shiftedExprs_eq]

theorem follows_indexExpr :
    FollowsExpr sequel closed starts (indexExpr inside left)
      (indexExpr insideAgain (left.shifted sequel.shift)) := by
  refine (follows_expect (by simp)).then fun _ => (follows.expr _).closing fun index => ?_
  exact (follows_expect (by simp)).then fun _ => follows_return rfl

theorem follows_memberExpr (leaves : LeavesOperand sequel closed) :
    FollowsExpr sequel closed starts (memberExpr inside left)
      (memberExpr insideAgain (left.shifted sequel.shift)) := by
  refine (follows_expect (by simp)).then fun _ => follows_identifier.then fun name => ?_
  refine follows_kind_behind (fun kind _ => ?_) fun isClosed => ?_
  · split
    · refine (follows_arguments follows).then fun values => follows_return ?_
      rw [Expr.shifted, shiftedExprs_eq]
    · exact follows_return rfl
  · rw [if_neg (leaves.ne isClosed rfl)]
    rfl

theorem follows_exprTail :
    FollowsExpr sequel inner starts (exprTail inside left)
      (exprTail insideAgain (left.shifted sequel.shift)) := by
  refine follows_kind (fun kind _ => ?_) (.inr rfl)
  cases named : kind.exprTail? with
  | none => exact follows_unexpected
  | some tail =>
      rcases tail with ⟨form, power⟩
      have proper : kind ≠ .eof := by
        rintro rfl
        contradiction
      cases form with
      | assignment => exact follows_assignmentExpr follows left proper
      | binary => exact follows_binaryExpr follows left power
      | trailingOperator => exact follows_trailingExpr left
      | call => exact follows_callExpr follows left
      | index => exact follows_indexExpr follows left
      | member => exact follows_memberExpr follows left follows.leaves

omit left in
theorem follows_exprForm (power : Power) :
    FollowsExpr sequel inner starts (exprForm inside power) (exprForm insideAgain power) :=
  (follows_exprStart follows).going fun left =>
    follows_repeatWhile left (fun left => follows_exprTail follows left) fun isClosed =>
      Kind.continuesExpr_of_endsExpr power (follows.ends isClosed)

end Tails

section Statements

/-- Statements that are complete are found with other numbers. -/
abbrev FollowsStmt (sequel : Sequel) (starts : Kind → Prop) (parser again : Parser Stmt) : Prop :=
  Follows sequel starts true true (Stmt.shifted sequel.shift) parser again

variable (follows : FollowsInside sequel closed inside insideAgain)
include follows

theorem follows_expressionStmt :
    FollowsStmt sequel starts (expressionStmt inside) (expressionStmt insideAgain) := by
  refine follows_position (fun start => ?_) (.inr rfl)
  refine (follows.expr _).from.closing fun expr => ?_
  exact (follows_expect (by simp)).then fun _ => follows_return rfl

omit follows in
/-- A variable gets its number behind the semicolon. -/
theorem follows_varDecl {closed strict : Bool} {initializer again : Parser Expr}
    (followsValue : Follows sequel anywhere closed strict (Expr.shifted sequel.shift) initializer
      again) (start : Position) (name : String) (declared : Ty) :
    FollowsStmt sequel anywhere
      (do
        let value ← initializer
        let _ ← expect .semicolon
        return .varDecl start (← freshId) name declared value)
      (do
        let value ← again
        let _ ← expect .semicolon
        return .varDecl start (← freshId) name declared value) := by
  refine followsValue.closing fun value => (follows_expect (by simp)).then fun _ => ?_
  exact follows_freshId.past fun id => follows_return rfl

theorem follows_varDeclStmt :
    FollowsStmt sequel starts (varDeclStmt inside) (varDeclStmt insideAgain) := by
  refine follows_position (fun start => ?_) (.inr rfl)
  refine (follows_parseType _).from.closing fun declared => ?_
  refine follows_identifier.then fun name => Follows.lax ?_
  refine (follows_expect (by simp)).then fun _ => Follows.lax ?_
  exact follows_varDecl (follows.expr _) start name declared

theorem follows_entityDeclStmt :
    FollowsStmt sequel starts (entityDeclStmt inside) (entityDeclStmt insideAgain) := by
  refine follows_position (fun start => (follows_expect (by simp)).then fun _ => ?_) (.inr rfl)
  refine follows_identifier.then fun name => (follows_expect (by simp)).then fun _ => ?_
  refine (follows_expectOr (by simp) _).then fun template => Follows.lax ?_
  exact follows_varDecl (follows_entityLiteral follows _) start name _

theorem follows_blockStmt :
    FollowsStmt sequel starts (blockStmt inside) (blockStmt insideAgain) :=
  (follows_block follows).then fun _ => follows_return rfl

theorem follows_condition :
    Follows sequel starts true true (Expr.shifted sequel.shift) (condition inside)
      (condition insideAgain) := by
  refine (follows_expect (by simp)).then fun _ => (follows.expr _).closing fun expr => ?_
  exact (follows_expect (by simp)).then fun _ => follows_return rfl

/-- Where the list ends behind the first block of a choice, what comes is no other block. -/
theorem follows_elseBlock :
    Follows sequel starts true false (shiftedElse sequel.shift) (elseBlock inside)
      (elseBlock insideAgain) := by
  refine follows_kind_behind (fun kind _ => ?_) ?_
  · split
    · rename_i isElse
      subst isElse
      refine (follows_advance (by simp)).then fun _ => Follows.lax ?_
      exact (follows_block follows).then fun block => follows_return rfl
    · exact follows_return rfl
  · intro _
    rw [if_neg sequel.noElse]
    rfl

theorem follows_ifStmt : FollowsStmt sequel starts (ifStmt inside) (ifStmt insideAgain) := by
  refine follows_position (fun start => (follows_expect (by simp)).then fun _ => ?_) (.inr rfl)
  refine (follows_condition follows).then fun decision => ?_
  refine (follows_block follows).then fun thenBlock => ?_
  exact (follows_elseBlock follows).past fun otherwise => follows_return rfl

theorem follows_whileStmt :
    FollowsStmt sequel starts (whileStmt inside) (whileStmt insideAgain) := by
  refine follows_position (fun start => (follows_expect (by simp)).then fun _ => ?_) (.inr rfl)
  refine (follows_condition follows).then fun decision => ?_
  exact (follows_block follows).then fun body => follows_return rfl

theorem follows_rangeStmt :
    FollowsStmt sequel starts (rangeStmt inside) (rangeStmt insideAgain) := by
  have step : Follows sequel anywhere false false (Expr.shifted sequel.shift) (rangeStep inside)
      (rangeStep insideAgain) := by
    refine follows_kind (fun kind _ => ?_) (.inl rfl)
    split
    · rename_i isBy
      subst isBy
      exact (follows_advance (by simp)).then fun _ => (follows.expr _).opened.lax
    · exact follows_return rfl
  refine follows_position (fun start => (follows_expect (by simp)).then fun _ => ?_) (.inr rfl)
  refine Follows.lax ((follows_expect (by simp)).then fun _ => Follows.lax ?_)
  refine follows_identifier.then fun name => Follows.lax ?_
  refine (follows_expect (by simp)).then fun _ => (follows.expr _).closing fun first => ?_
  refine (follows_expect (by simp)).then fun _ => (follows.expr _).closing fun last => ?_
  refine step.closing fun step => (follows_expect (by simp)).then fun _ => Follows.lax ?_
  exact (follows_block follows).then fun body => follows_return rfl

theorem follows_eachStmt : FollowsStmt sequel starts (eachStmt inside) (eachStmt insideAgain) := by
  refine follows_position (fun start => (follows_expect (by simp)).then fun _ => ?_) (.inr rfl)
  refine Follows.lax ((follows_expect (by simp)).then fun _ => Follows.lax ?_)
  refine follows_identifier.then fun name => Follows.lax ?_
  refine (follows_expect (by simp)).then fun _ => (follows.expr _).closing fun iterable => ?_
  refine (follows_expect (by simp)).then fun _ => Follows.lax ?_
  exact (follows_block follows).then fun body => follows_return rfl

omit follows in
theorem follows_haltStmt : FollowsStmt sequel starts haltStmt haltStmt :=
  follows_position (fun _ => (follows_expect (by simp)).then fun _ =>
    (follows_expect (by simp)).then fun _ => follows_return rfl) (.inr rfl)

omit follows in
theorem follows_skipStmt : FollowsStmt sequel starts skipStmt skipStmt :=
  follows_position (fun _ => (follows_expect (by simp)).then fun _ =>
    (follows_expect (by simp)).then fun _ => follows_return rfl) (.inr rfl)

theorem follows_returnStmt :
    FollowsStmt sequel starts (returnStmt inside) (returnStmt insideAgain) := by
  have value : Follows sequel anywhere false false (shiftedReturned sequel.shift)
      (returnedValue inside) (returnedValue insideAgain) := by
    refine follows_kind (fun kind _ => ?_) (.inl rfl)
    split
    · exact follows_return rfl
    · exact (follows.expr _).from.opened.lax.going fun expr => follows_return rfl
  refine follows_position (fun start => (follows_expect (by simp)).then fun _ => ?_) (.inr rfl)
  refine value.closing fun value => ?_
  exact (follows_expect (by simp)).then fun _ => follows_return rfl

theorem follows_echoStmt : FollowsStmt sequel starts (echoStmt inside) (echoStmt insideAgain) := by
  refine follows_position (fun start => (follows_expect (by simp)).then fun _ => ?_) (.inr rfl)
  refine (follows.expr _).closing fun expr => ?_
  exact (follows_expect (by simp)).then fun _ => follows_return rfl

theorem follows_fnDecl :
    Follows sequel starts true true (FnDecl.shifted sequel.shift) (fnDecl inside)
      (fnDecl insideAgain) := by
  refine follows_position (fun start => (follows_expect (by simp)).then fun _ => ?_) (.inr rfl)
  refine follows_identifier.then fun name => (follows_expect (by simp)).then fun _ => ?_
  refine (follows_withTypes fun _ _ follows => follows_resultType follows).closing fun result => ?_
  refine (follows_expect (by simp)).then fun _ => Follows.lax ?_
  refine (follows_withTypes fun _ _ follows => follows_parameters follows).then fun params => ?_
  refine (follows_expect (by simp)).then fun _ => ?_
  refine (follows_block follows).then fun body => follows_freshId.past fun id => ?_
  exact follows_return rfl

omit follows in
/-- The declaration of a function has a word and a name at least. -/
theorem remaining_of_fnDecl {state after : ParserState} {declaration : FnDecl}
    (ran : fnDecl inside state = .ok declaration after) : 2 ≤ state.remaining := by
  have plain : Sequel := ⟨[], 0, by simp [Kind.ahead]⟩
  rcases ok_of_bind_eq_ok ran with ⟨start, looked, ranPosition, ran⟩
  rcases ok_of_bind_eq_ok ran with ⟨_, passed, ranWord, ran⟩
  rcases ok_of_bind_eq_ok ran with ⟨name, named, ranName, _⟩
  have same : looked = state := (EStateM.Result.ok.inj ranPosition).2.symm
  have word : Follows plain anywhere true true _ (expect .funcWord) _ := follows_expect (by simp)
  have second : Follows plain anywhere true true _ identifier _ := follows_identifier
  have fewer := (word.passes trivial ranWord).2 rfl
  have fewest := (second.passes trivial ranName).2 rfl
  rw [same] at fewer
  omega

/-- What a statement that starts with `func` is, by the kind of its second token. -/
def functionForm (inside : Inside) : Kind → Parser Stmt
  | .less => varDeclStmt inside
  | .openBracket => expressionStmt inside
  | _ => return .fnDecl (← fnDecl inside)

omit follows in
theorem functionStmt_apply (inside : Inside) (state : ParserState) :
    functionStmt inside state = functionForm inside (state.peek 1).kind state := by
  rw [functionStmt, bind_of_ok (show (get : Parser ParserState) state = .ok state state from rfl)]
  rfl

theorem follows_functionStmt :
    FollowsStmt sequel starts (functionStmt inside) (functionStmt insideAgain) := by
  have form (second : Kind) :
      FollowsStmt sequel starts (functionForm inside second) (functionForm insideAgain second) := by
    unfold functionForm
    split
    · exact follows_varDeclStmt follows
    · exact follows_expressionStmt follows
    · exact (follows_fnDecl follows).then fun _ => follows_return rfl
  intro first second related start
  rw [functionStmt_apply, functionStmt_apply]
  by_cases seen : sequel.tokens = [] ∨ 2 ≤ first.remaining
  · have same : second.peek 1 = first.peek 1 := by
      rw [ParserState.peek, ParserState.peek, related.upcoming]
      rcases seen with ended | enough
      · rw [ended, List.append_nil, related.final ended]
      · rw [List.getElem?_append_left enough, List.getElem?_eq_getElem enough]
        rfl
    rw [same]
    exact form (first.peek 1).kind first second related start
  · -- There is no second token, and no function is declared by a single one.
    have few := not_or.mp seen
    have ended : (first.peek 1).kind = .eof := by
      rw [ParserState.peek_of_remaining_le (by omega), first.final_kind]
    rw [ended]
    cases ran : functionForm inside .eof first with
    | error diagnostic after => exact fun none => absurd none few.1
    | ok stmt after =>
        rcases ok_of_bind_eq_ok ran with ⟨declaration, between, ranDecl, _⟩
        exact absurd (remaining_of_fnDecl ranDecl) few.2

def Members.shifted (shift : Nat) (members : Members) : Members :=
  { members with methods := members.methods.map (FnDecl.shifted shift) }

omit follows in
theorem Members.count_shifted (shift : Nat) (members : Members) (name : String) :
    (members.shifted shift).count name = members.count name := by
  have sameName (method : FnDecl) : (method.shifted shift).name = method.name := by
    rcases method with ⟨position, id, name, signature, body⟩
    rfl
  rw [Members.count, Members.count, Members.shifted, List.filter_map, List.length_map]
  simp [Function.comp_def, sameName]

theorem follows_freshMember (template : String) (members : Members) :
    Follows sequel starts true true (Members.shifted sequel.shift)
      (freshMember inside template members)
      (freshMember insideAgain template (members.shifted sequel.shift)) := by
  have one : Follows sequel anywhere true true
      (fun found => (found.1, found.2.shifted sequel.shift)) (member inside members)
      (member insideAgain (members.shifted sequel.shift)) := by
    refine follows_kind (fun kind _ => ?_) (.inr rfl)
    split
    · refine (follows_fnDecl follows).then fun method => follows_return ?_
      rcases method with ⟨position, id, name, signature, body⟩
      simp [Members.shifted, FnDecl.shifted]
    · refine (follows_parseType _).from.closing fun type => follows_identifier.then fun name => ?_
      exact Follows.lax ((follows_expect (by simp)).then fun _ => follows_return rfl)
  refine follows_position (fun start => one.from.then fun found => ?_) (.inr rfl)
  rcases found with ⟨name, longer⟩
  dsimp only
  rw [Members.count_shifted]
  split
  · exact follows_failAt _ _
  · exact follows_return rfl

theorem follows_templateStmt :
    FollowsStmt sequel starts (templateStmt inside) (templateStmt insideAgain) := by
  refine follows_position (fun start => (follows_expect (by simp)).then fun _ => ?_) (.inr rfl)
  refine follows_identifier.then fun name => (follows_expect (by simp)).then fun _ => ?_
  refine (follows_expect (by simp)).then fun _ => Follows.lax ?_
  have step (members : Members) : Follows sequel anywhere false true
      (Members.shifted sequel.shift) (freshMember inside name members)
      (freshMember insideAgain name (members.shifted sequel.shift)) :=
    (follows_freshMember follows name members).open
  have members (again : Kind → Bool) : Follows sequel anywhere false false
      (Members.shifted sequel.shift) (repeatWhile again (freshMember inside name) ⟨[], []⟩)
      (repeatWhile again (freshMember insideAgain name) (Members.shifted sequel.shift ⟨[], []⟩)) :=
    follows_repeatWhile _ (fun members => (step members).from) nofun
  refine (members _).closing fun members => ?_
  refine (follows_expect (by simp)).then fun _ => Follows.lax ?_
  refine (follows_expect (by simp)).then fun _ => follows_return ?_
  rw [Stmt.shifted, shiftedMethods_eq]
  rfl

theorem follows_formStmt (form : Option StmtForm) :
    FollowsStmt sequel starts (formStmt inside form) (formStmt insideAgain form) := by
  cases form with
  | none => exact follows_expressionStmt follows
  | some form =>
      cases form with
      | varDecl => exact follows_varDeclStmt follows
      | entityDecl => exact follows_entityDeclStmt follows
      | block => exact follows_blockStmt follows
      | ifElse => exact follows_ifStmt follows
      | whileLoop => exact follows_whileStmt follows
      | range => exact follows_rangeStmt follows
      | each => exact follows_eachStmt follows
      | halt => exact follows_haltStmt
      | skip => exact follows_skipStmt
      | returning => exact follows_returnStmt follows
      | function => exact follows_functionStmt follows
      | echo => exact follows_echoStmt follows
      | templateDecl => exact follows_templateStmt follows

theorem semicolon_of_expressionStmt {state after : ParserState} {stmt : Stmt}
    (ran : expressionStmt inside state = .ok stmt after) :
    .semicolon ∈ state.upcoming.map Token.kind := by
  rcases ok_of_bind_eq_ok ran with ⟨start, looked, ranPosition, ran⟩
  rcases ok_of_bind_eq_ok ran with ⟨expr, between, ranExpr, ran⟩
  rcases ok_of_bind_eq_ok ran with ⟨_, last, ranSemicolon, _⟩
  have same : looked = state := (EStateM.Result.ok.inj ranPosition).2.symm
  rw [same] at ranExpr
  have closes : Consumes anywhere (expect .semicolon) fun used _ => used = [.semicolon] :=
    consumes_expect (by simp)
  rcases closes between _ last trivial ranSemicolon with ⟨_, coming, rfl⟩
  refine (((follows.expr _).passes trivial ranExpr).1.suffix.map Token.kind).subset ?_
  rw [coming]
  exact List.mem_cons_self

omit follows in
/-- Whether the coming tokens are the type of a declaration, and a name. -/
def declares (state : ParserState) : Bool :=
  state.current.kind = .identifier && opensDeclaration 0 ((state.upcoming.drop 1).map Token.kind)

omit follows in
theorem declares_of_extends {first second : ParserState} (related : sequel.Extends first second)
    (some : first.upcoming ≠ [])
    (settled : declares first = true ∨ .semicolon ∈ first.upcoming.map Token.kind) :
    declares second = declares first := by
  rcases List.exists_cons_of_ne_nil some with ⟨token, rest, coming⟩
  have comingSecond : second.upcoming = token :: (rest ++ sequel.tokens) := by
    rw [related.upcoming, coming, List.cons_append]
  simp only [declares, coming, comingSecond, ParserState.current_of_cons coming,
    ParserState.current_of_cons comingSecond] at settled ⊢
  by_cases isName : token.kind = .identifier
  · simp only [isName, decide_true, Bool.true_and, List.drop_one, List.tail_cons, List.map_append,
      List.map_cons] at settled ⊢
    refine opensDeclaration_append (settled.imp id fun member => ?_) _
    exact (List.mem_cons.mp member).resolve_left (by simp)
  · simp [isName]

/-- The look ahead for a declaration finds the same with more tokens behind the list, or nothing is
read. -/
theorem follows_stmtForm :
    FollowsStmt sequel anywhere (stmtForm inside) (stmtForm insideAgain) := by
  have declared : FollowsStmt sequel anywhere (varDeclStmt inside) (varDeclStmt insideAgain) :=
    follows_varDeclStmt follows
  have formed : FollowsStmt sequel anywhere
      (kind >>= fun kind => formStmt inside kind.stmtForm?)
      (kind >>= fun kind => formStmt insideAgain kind.stmtForm?) :=
    follows_kind (fun kind _ => follows_formStmt follows _) (.inr rfl)
  have looked (state : ParserState) : startsDeclaration state = .ok (declares state) state := rfl
  intro first second related _
  rw [stmtForm_eq, stmtForm_eq, bind_of_ok (looked first), bind_of_ok (looked second)]
  by_cases same : declares second = declares first
  · rw [same]
    cases declares first with
    | true => exact declared first second related trivial
    | false => exact formed first second related trivial
  · have more : sequel.tokens ≠ [] := by
      intro ended
      refine same ?_
      rw [declares, declares, related.current (.inl ended), related.upcoming, ended,
        List.append_nil]
    cases isDeclared : declares first with
    | true =>
        have some : first.upcoming ≠ [] := by
          intro none
          rw [declares, first.kind_current, none] at isDeclared
          contradiction
        exact absurd (declares_of_extends related some (.inl isDeclared)) same
    | false =>
        simp only [Bool.false_eq_true, if_false]
        cases ran : (kind >>= fun kind => formStmt inside kind.stmtForm?) first with
        | error diagnostic after => exact fun ended => absurd ended more
        | ok stmt after =>
            -- Only an expression starts with a name here, and it ends with a semicolon.
            have some : first.upcoming ≠ [] := by
              intro none
              have fewer := (formed.passes trivial ran).2 rfl
              rw [ParserState.remaining, ParserState.remaining, none] at fewer
              exact Nat.not_lt_zero _ fewer
            have opens : declares second = true := by
              rw [isDeclared] at same
              exact eq_true_of_ne_false same
            have isName : first.current.kind = .identifier := by
              rw [← related.current (.inr some)]
              exact of_decide_eq_true (Bool.and_eq_true_iff.mp opens).1
            rw [bind_of_ok (kind_apply first), ← first.kind_current, isName] at ran
            have ends := semicolon_of_expressionStmt follows ran
            exact absurd (declares_of_extends related some (.inr ends)) same

end Statements

/-- However deep the parsers are nested, they are followed by parsers that are nested deeper. -/
theorem followsInside_nested (ends : closed = true → (Kind.ahead sequel.tokens).endsExpr = true)
    {depth : Nat} :
    ∀ {deeper : Nat}, depth ≤ deeper → (sequel.tokens = [] → depth = deeper) →
      FollowsInside sequel closed (nested depth) (nested deeper) := by
  induction depth with
  | zero =>
      refine fun _ same => ⟨fun power => follows_of_unexpected fun ended => ?_,
        follows_of_unexpected fun ended => ?_, ends⟩
      · rw [← same ended]
        rfl
      · rw [← same ended]
        rfl
  | succ depth ih =>
      intro deeper enough same
      cases deeper with
      | zero => exact absurd enough (Nat.not_succ_le_zero _)
      | succ deeper =>
          have inner := ih (Nat.le_of_succ_le_succ enough) fun ended => Nat.succ.inj (same ended)
          exact ⟨fun power => follows_exprForm inner power, follows_stmtForm inner, ends⟩

theorem follows_parseStmt :
    Follows sequel anywhere true true (Stmt.shifted sequel.shift) parseStmt parseStmt := by
  intro first second related start
  have deep := related.remaining
  have ends : false = true → (Kind.ahead sequel.tokens).endsExpr = true := nofun
  have inner := followsInside_nested ends deep.1 deep.2
  exact follows_stmtForm inner first second related start

/-- An expression that is all of a list is read in the same way in front of what ends it. -/
theorem follows_parseExpr (power : Power)
    (ends : closed = true → (Kind.ahead sequel.tokens).endsExpr = true) :
    FollowsExpr sequel closed anywhere (parseExpr power) (parseExpr power) := by
  intro first second related start
  have deep := related.remaining
  exact follows_exprForm (followsInside_nested ends deep.1 deep.2) power first second related start

end Parser

end ScriptCheck
