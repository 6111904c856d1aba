import ScriptCheck.Proofs.Grammar.FollowedForms
import ScriptCheck.Proofs.Grammar.Tracking

/-!
# Expressions and statements in front of an end token

Every form goes the same way whatever comes behind the end token, since it passes no token of a kind
that it does not know, and the look ahead for a declaration ends there too.

The parsers for what stands inside need to agree on short lists only. An expression passes a token
before it reads an expression inside, and a statement passes one before it reads a statement, but it
may start with an expression. So where expressions inside agree on lists up to some length,
statements inside do on shorter ones.
-/

namespace ScriptCheck

/-- The look ahead does not get past an end token. -/
theorem opensDeclaration_append_eof (depth : Nat) (kinds more : List Kind) :
    opensDeclaration depth (kinds ++ .eof :: more) = opensDeclaration depth kinds := by
  fun_induction opensDeclaration depth kinds with
  | case1 depth =>
      cases depth with
      | zero => rfl
      | succ depth => rfl
  | case2 rest => rfl
  | case3 rest ih => exact ih
  | case4 rest ih => exact ih
  | case5 head rest notName notArray notCurly =>
      rw [List.cons_append, opensDeclaration]
      · exact notName
      · rintro others rfl same
        cases rest with
        | nil => exact absurd (List.cons.inj same).1 (by simp)
        | cons next rest => exact notArray _ rfl (by rw [(List.cons.inj same).1])
      · exact notCurly
  | case6 depth rest ih => exact ih
  | case7 depth rest ih => exact ih
  | case8 depth kind rest notOpen notClose ih =>
      rw [List.cons_append, opensDeclaration_part _ _ notOpen notClose, ih]

namespace Parser

open ParserState (Prolongs)

variable {behind : List Token} {limit : Nat} {starts : Kind → Prop} {inside insideAgain : Inside}

/-- The parsers for what stands inside agree on short lists. -/
structure TracksInside (behind : List Token) (limit : Nat) (inside insideAgain : Inside) :
    Prop where
  expr : ∀ power, Tracks behind limit anywhere true (inside.expr power) (insideAgain.expr power)
  stmt : Tracks behind (limit - 1) anywhere true inside.stmt insideAgain.stmt

section Expressions

variable (tracks : TracksInside behind limit inside insideAgain)
include tracks

theorem tracks_block : Tracks behind limit starts true (block inside) (block insideAgain) := by
  cases limit with
  | zero => exact tracks_zero
  | succ limit =>
      refine tracks_position fun start => (tracks_expect (by simp)).enter fun _ => ?_
      refine (tracks_collectWhile tracks.stmt.from).past fun body => ?_
      exact (tracks_expect (by simp)).past fun _ => tracks_pure _

omit tracks in
theorem tracks_numeral {token : Token} (proper : token.kind ≠ .eof) (value : Option Expr) :
    Tracks behind limit (· = token.kind) true (numeral token value) (numeral token value) := by
  cases value with
  | none => exact tracks_failAt _ _
  | some expr => exact (tracks_advance proper).then fun _ => tracks_pure expr

omit tracks in
theorem tracks_literalExpr : Tracks behind limit starts true literalExpr literalExpr := by
  refine tracks_current fun token => ?_
  split
  · rename_i isInteger
    exact tracks_numeral (by simp [isInteger]) _
  · rename_i isFloat
    exact tracks_numeral (by simp [isFloat]) _
  · rename_i isString
    exact (tracks_advance (by simp [isString])).then fun _ => tracks_pure _
  · rename_i isBoolean
    exact (tracks_advance (by simp [isBoolean])).then fun _ => tracks_pure _
  · rename_i isNull
    exact (tracks_advance (by simp [isNull])).then fun _ => tracks_pure _
  · exact tracks_unexpected

omit tracks in
theorem tracks_optionalComma :
    Tracks behind limit starts false optionalComma optionalComma := by
  refine tracks_kind fun kind _ => ?_
  split
  · rename_i isComma
    subst isComma
    show Tracks _ _ _ _ (advance >>= fun _ => pure ()) (advance >>= fun _ => pure ())
    exact (tracks_advance (by simp)).then fun _ => tracks_pure ()
  · exact tracks_pure ()

theorem tracks_attributeValue :
    Tracks behind limit starts true (attributeValue inside) (attributeValue insideAgain) := by
  refine tracks_identifier.then fun name => (tracks_expect (by simp)).past fun _ => ?_
  refine (tracks.expr _).lax.past fun value => ?_
  exact tracks_optionalComma.past fun _ => tracks_pure _

theorem tracks_entityLiteral (name : String) :
    Tracks behind limit starts true (entityLiteral inside name)
      (entityLiteral insideAgain name) := by
  refine (tracks_expect (by simp)).then fun _ => ?_
  refine (tracks_collectWhile (tracks_attributeValue tracks)).past fun attributes => ?_
  exact (tracks_expect (by simp)).past fun _ => tracks_pure _

theorem tracks_identifierExpr :
    Tracks behind (limit + 1) starts true (identifierExpr inside) (identifierExpr insideAgain) := by
  refine tracks_identifier.enter fun name => tracks_kind fun kind _ => ?_
  split
  · exact (tracks_entityLiteral tracks name).lax
  · exact tracks_pure _

theorem tracks_leadingExpr :
    Tracks behind (limit + 1) starts true (leadingExpr inside) (leadingExpr insideAgain) := by
  refine tracks_kind fun kind _ => ?_
  cases named : kind.leadingOp? with
  | none => exact tracks_unexpected
  | some operator =>
      have proper : kind ≠ .eof := by
        rintro rfl
        contradiction
      refine (tracks_advance proper).enter fun _ => (tracks.expr _).lax.past fun operand => ?_
      exact tracks_pure _

theorem tracks_groupingExpr :
    Tracks behind (limit + 1) starts true (groupingExpr inside) (groupingExpr insideAgain) := by
  refine (tracks_expect (by simp)).enter fun _ => (tracks.expr _).lax.past fun expr => ?_
  exact (tracks_expect (by simp)).past fun _ => tracks_pure expr

theorem tracks_arguments :
    Tracks behind (limit + 1) starts true (arguments inside) (arguments insideAgain) := by
  refine (tracks_expect (by simp)).enter fun _ => ?_
  refine (tracks_itemsUntil (tracks.expr _).lax).past fun values => ?_
  exact (tracks_expect (by simp)).past fun _ => tracks_pure values

theorem tracks_pipeStage (piped : List Expr) :
    Tracks behind (limit + 1) (· = .arrow) true (pipeStage inside piped)
      (pipeStage insideAgain piped) := by
  refine (tracks_advance (by simp)).then fun _ => tracks_identifier.past fun callee => ?_
  refine tracks_kind fun kind _ => ?_
  split
  · exact (tracks_arguments tracks).then fun values => tracks_pure _
  · exact tracks_pure _

theorem tracks_arrayExpr :
    Tracks behind (limit + 1) starts true (arrayExpr inside) (arrayExpr insideAgain) := by
  have stage (piped : List Expr) := (tracks_pipeStage tracks piped).mono (Nat.le_succ limit)
  refine (tracks_expect (by simp)).enter fun _ => ?_
  refine (tracks_itemsUntil (tracks.expr _).lax).past fun elements => ?_
  refine (tracks_expect (by simp)).past fun _ => tracks_kind fun kind _ => ?_
  split
  · rename_i isArrow
    subst isArrow
    refine (stage elements).then fun first => tracks_repeatWhile first fun call => ?_
    exact (stage [call]).narrow fun _ same => of_decide_eq_true same
  · exact tracks_pure _

theorem tracks_keyValue :
    Tracks behind limit starts true (keyValue inside) (keyValue insideAgain) := by
  refine (tracks.expr _).from.then fun key => (tracks_expect (by simp)).past fun _ => ?_
  exact (tracks.expr _).lax.past fun value => tracks_pure _

theorem tracks_setOrMapExpr :
    Tracks behind (limit + 1) starts true (setOrMapExpr inside) (setOrMapExpr insideAgain) := by
  refine (tracks_expect (by simp)).enter fun _ => tracks_kind fun kind _ => ?_
  split
  · rename_i closes
    subst closes
    exact (tracks_advance (by simp)).then fun _ => tracks_pure _
  · refine (tracks.expr _).from.then fun first => tracks_kind fun kind _ => ?_
    split
    · rename_i isColon
      subst isColon
      refine (tracks_advance (by simp)).then fun _ => (tracks.expr _).lax.past fun value => ?_
      refine (tracks_moreItems (tracks_keyValue tracks).lax).past fun pairs => ?_
      exact (tracks_expect (by simp)).past fun _ => tracks_pure _
    · refine (tracks_moreItems (tracks.expr _).lax).past fun elements => ?_
      exact (tracks_expect (by simp)).past fun _ => tracks_pure _

theorem tracks_functionExpr :
    Tracks behind (limit + 1) starts true (functionExpr inside) (functionExpr insideAgain) := by
  refine (tracks_expect (by simp)).enter fun _ => ?_
  refine (tracks_withTypes fun tracks => (tracks_parameters tracks).lax).past fun params => ?_
  refine (tracks_expect (by simp)).past fun _ => ?_
  exact (tracks_block tracks).lax.past fun body => tracks_pure _

theorem tracks_exprStart :
    Tracks behind (limit + 1) starts true (exprStart inside) (exprStart insideAgain) := by
  refine tracks_kind fun kind _ => ?_
  cases kind.exprStart? with
  | none => exact tracks_unexpected
  | some form =>
      cases form with
      | literal => exact tracks_literalExpr
      | identifier => exact tracks_identifierExpr tracks
      | leadingOperator => exact tracks_leadingExpr tracks
      | grouping => exact tracks_groupingExpr tracks
      | array => exact tracks_arrayExpr tracks
      | setOrMap => exact tracks_setOrMapExpr tracks
      | function => exact tracks_functionExpr tracks

end Expressions

section Tails

variable (tracks : TracksInside behind limit inside insideAgain) (left : Expr)
include tracks

theorem tracks_assignmentExpr {kind : Kind} (proper : kind ≠ .eof) :
    Tracks behind (limit + 1) (· = kind) true (assignmentExpr inside left)
      (assignmentExpr insideAgain left) := by
  refine (tracks_advance proper).enter fun operator => ?_
  split
  · refine (tracks.expr _).lax.past fun right => ?_
    have value : Tracks behind limit anywhere false (assignedValue operator left right)
        (assignedValue operator left right) := by
      rw [assignedValue]
      split
      · exact tracks_pure _
      · cases operator.kind.binaryOp? with
        | none => exact tracks_failAt _ _
        | some combined => exact tracks_pure _
    exact value.past fun value => tracks_pure _
  · exact tracks_failAt _ _

theorem tracks_binaryExpr (power : Power) :
    Tracks behind (limit + 1) starts true (binaryExpr inside left power)
      (binaryExpr insideAgain left power) := by
  refine tracks_kind fun kind _ => ?_
  cases named : kind.binaryOp? with
  | none => exact tracks_unexpected
  | some operator =>
      have proper : kind ≠ .eof := by
        rintro rfl
        contradiction
      refine (tracks_advance proper).enter fun _ => (tracks.expr _).lax.past fun right => ?_
      exact tracks_pure _

omit tracks in
theorem tracks_trailingExpr :
    Tracks behind limit starts true (trailingExpr left) (trailingExpr left) := by
  refine tracks_kind fun kind _ => ?_
  cases named : kind.trailingOp? with
  | none => exact tracks_unexpected
  | some operator =>
      have proper : kind ≠ .eof := by
        rintro rfl
        contradiction
      exact (tracks_advance proper).then fun _ => tracks_pure _

theorem tracks_callExpr :
    Tracks behind (limit + 1) starts true (callExpr inside left) (callExpr insideAgain left) :=
  (tracks_arguments tracks).then fun _ => tracks_pure _

theorem tracks_indexExpr :
    Tracks behind (limit + 1) starts true (indexExpr inside left)
      (indexExpr insideAgain left) := by
  refine (tracks_expect (by simp)).enter fun _ => (tracks.expr _).lax.past fun index => ?_
  exact (tracks_expect (by simp)).past fun _ => tracks_pure _

theorem tracks_memberExpr :
    Tracks behind (limit + 1) starts true (memberExpr inside left)
      (memberExpr insideAgain left) := by
  refine (tracks_expect (by simp)).then fun _ => tracks_identifier.past fun name => ?_
  refine tracks_kind fun kind _ => ?_
  split
  · exact (tracks_arguments tracks).then fun values => tracks_pure _
  · exact tracks_pure _

theorem tracks_exprTail :
    Tracks behind (limit + 1) starts true (exprTail inside left) (exprTail insideAgain left) := by
  refine tracks_kind fun kind _ => ?_
  cases named : kind.exprTail? with
  | none => exact tracks_unexpected
  | some tail =>
      rcases tail with ⟨form, power⟩
      have proper : kind ≠ .eof := by
        rintro rfl
        contradiction
      cases form with
      | assignment => exact tracks_assignmentExpr tracks left proper
      | binary => exact tracks_binaryExpr tracks left power
      | trailingOperator => exact tracks_trailingExpr left
      | call => exact tracks_callExpr tracks left
      | index => exact tracks_indexExpr tracks left
      | member => exact tracks_memberExpr tracks left

omit left in
/-- An expression is read as on lists that are shorter by the token that it starts with. -/
theorem tracks_exprForm (power : Power) :
    Tracks behind (limit + 1) starts true (exprForm inside power) (exprForm insideAgain power) :=
  (tracks_exprStart tracks).then fun left =>
    tracks_repeatWhile left fun left => tracks_exprTail tracks left

end Tails

section Statements

variable (tracks : TracksInside behind limit inside insideAgain)
include tracks

theorem tracks_expressionStmt :
    Tracks behind limit starts true (expressionStmt inside) (expressionStmt insideAgain) := by
  refine tracks_position fun start => (tracks.expr _).from.then fun expr => ?_
  exact (tracks_expect (by simp)).past fun _ => tracks_pure _

omit tracks in
/-- A variable gets its number behind the semicolon. -/
theorem tracks_varDecl {initializer again : Parser Expr}
    (tracksValue : Tracks behind limit anywhere false initializer again) (start : Position)
    (name : String) (declared : Ty) :
    Tracks behind limit anywhere false
      (do
        let value ← initializer
        let _ ← expect .semicolon
        return .varDecl start (← freshId) name declared value : Parser Stmt)
      (do
        let value ← again
        let _ ← expect .semicolon
        return .varDecl start (← freshId) name declared value) := by
  refine tracksValue.past fun value => (tracks_expect (by simp)).past fun _ => ?_
  exact tracks_freshId.past fun id => tracks_pure _

theorem tracks_varDeclStmt :
    Tracks behind limit starts true (varDeclStmt inside) (varDeclStmt insideAgain) := by
  refine tracks_position fun start => (tracks_parseType _).from.then fun declared => ?_
  refine tracks_identifier.past fun name => (tracks_expect (by simp)).past fun _ => ?_
  exact tracks_varDecl (tracks.expr _).lax start name declared

theorem tracks_entityDeclStmt :
    Tracks behind limit starts true (entityDeclStmt inside) (entityDeclStmt insideAgain) := by
  refine tracks_position fun start => (tracks_expect (by simp)).then fun _ => ?_
  refine tracks_identifier.past fun name => (tracks_expect (by simp)).past fun _ => ?_
  refine (tracks_expectOr (by simp) _).past fun template => ?_
  exact tracks_varDecl (tracks_entityLiteral tracks _).lax start name _

theorem tracks_blockStmt :
    Tracks behind limit starts true (blockStmt inside) (blockStmt insideAgain) :=
  (tracks_block tracks).then fun _ => tracks_pure _

theorem tracks_condition :
    Tracks behind limit starts false (condition inside) (condition insideAgain) := by
  refine (tracks_expect (by simp)).past fun _ => (tracks.expr _).lax.past fun expr => ?_
  exact (tracks_expect (by simp)).past fun _ => tracks_pure expr

theorem tracks_elseBlock :
    Tracks behind limit starts false (elseBlock inside) (elseBlock insideAgain) := by
  refine tracks_kind fun kind _ => ?_
  split
  · rename_i isElse
    subst isElse
    refine (tracks_advance (by simp)).then fun _ => ?_
    exact (tracks_block tracks).lax.past fun block => tracks_pure _
  · exact tracks_pure none

theorem tracks_ifStmt :
    Tracks behind limit starts true (ifStmt inside) (ifStmt insideAgain) := by
  refine tracks_position fun start => (tracks_expect (by simp)).then fun _ => ?_
  refine (tracks_condition tracks).past fun decision => ?_
  refine (tracks_block tracks).lax.past fun thenBlock => ?_
  exact (tracks_elseBlock tracks).past fun otherwise => tracks_pure _

theorem tracks_whileStmt :
    Tracks behind limit starts true (whileStmt inside) (whileStmt insideAgain) := by
  refine tracks_position fun start => (tracks_expect (by simp)).then fun _ => ?_
  refine (tracks_condition tracks).past fun decision => ?_
  exact (tracks_block tracks).lax.past fun body => tracks_pure _

theorem tracks_rangeStep :
    Tracks behind limit starts false (rangeStep inside) (rangeStep insideAgain) := by
  refine tracks_kind fun kind _ => ?_
  split
  · rename_i isBy
    subst isBy
    exact (tracks_advance (by simp)).then fun _ => (tracks.expr _).lax
  · exact tracks_pure _

theorem tracks_rangeStmt :
    Tracks behind limit starts true (rangeStmt inside) (rangeStmt insideAgain) := by
  refine tracks_position fun start => (tracks_expect (by simp)).then fun _ => ?_
  refine (tracks_expect (by simp)).past fun _ => tracks_identifier.past fun name => ?_
  refine (tracks_expect (by simp)).past fun _ => (tracks.expr _).lax.past fun first => ?_
  refine (tracks_expect (by simp)).past fun _ => (tracks.expr _).lax.past fun last => ?_
  refine (tracks_rangeStep tracks).past fun step => (tracks_expect (by simp)).past fun _ => ?_
  exact (tracks_block tracks).lax.past fun body => tracks_pure _

theorem tracks_eachStmt :
    Tracks behind limit starts true (eachStmt inside) (eachStmt insideAgain) := by
  refine tracks_position fun start => (tracks_expect (by simp)).then fun _ => ?_
  refine (tracks_expect (by simp)).past fun _ => tracks_identifier.past fun name => ?_
  refine (tracks_expect (by simp)).past fun _ => (tracks.expr _).lax.past fun iterable => ?_
  refine (tracks_expect (by simp)).past fun _ => ?_
  exact (tracks_block tracks).lax.past fun body => tracks_pure _

omit tracks in
theorem tracks_haltStmt : Tracks behind limit starts true haltStmt haltStmt :=
  tracks_position fun _ => (tracks_expect (by simp)).then fun _ =>
    (tracks_expect (by simp)).past fun _ => tracks_pure _

omit tracks in
theorem tracks_skipStmt : Tracks behind limit starts true skipStmt skipStmt :=
  tracks_position fun _ => (tracks_expect (by simp)).then fun _ =>
    (tracks_expect (by simp)).past fun _ => tracks_pure _

theorem tracks_returnedValue :
    Tracks behind limit starts false (returnedValue inside) (returnedValue insideAgain) := by
  refine tracks_kind fun kind _ => ?_
  split
  · exact tracks_pure none
  · exact (tracks.expr _).from.lax.past fun expr => tracks_pure _

theorem tracks_returnStmt :
    Tracks behind limit starts true (returnStmt inside) (returnStmt insideAgain) := by
  refine tracks_position fun start => (tracks_expect (by simp)).then fun _ => ?_
  refine (tracks_returnedValue tracks).past fun value => ?_
  exact (tracks_expect (by simp)).past fun _ => tracks_pure _

theorem tracks_echoStmt :
    Tracks behind limit starts true (echoStmt inside) (echoStmt insideAgain) := by
  refine tracks_position fun start => (tracks_expect (by simp)).then fun _ => ?_
  refine (tracks.expr _).lax.past fun expr => ?_
  exact (tracks_expect (by simp)).past fun _ => tracks_pure _

theorem tracks_fnDecl :
    Tracks behind limit starts true (fnDecl inside) (fnDecl insideAgain) := by
  refine tracks_position fun start => (tracks_expect (by simp)).then fun _ => ?_
  refine tracks_identifier.past fun name => (tracks_expect (by simp)).past fun _ => ?_
  refine (tracks_withTypes fun tracks => (tracks_resultType tracks).lax).past fun result => ?_
  refine (tracks_expect (by simp)).past fun _ => ?_
  refine (tracks_withTypes fun tracks => (tracks_parameters tracks).lax).past fun params => ?_
  refine (tracks_expect (by simp)).past fun _ => (tracks_block tracks).lax.past fun body => ?_
  exact tracks_freshId.past fun id => tracks_pure _

/-- The token behind the first one is looked at, but not what comes behind the end token. -/
theorem tracks_functionStmt :
    Tracks behind limit (· ≠ .eof) true (functionStmt inside) (functionStmt insideAgain) := by
  have form (second : Kind) :
      Tracks behind limit anywhere true (functionForm inside second)
        (functionForm insideAgain second) := by
    unfold functionForm
    split
    · exact tracks_varDeclStmt tracks
    · exact tracks_expressionStmt tracks
    · exact (tracks_fnDecl tracks).then fun _ => tracks_pure _
  intro first second prolongs few start
  have some : 1 ≤ first.remaining := by
    rcases exists_cons_of_ahead start with ⟨token, rest, coming, _⟩
    rw [ParserState.remaining, coming]
    exact Nat.le_add_left _ _
  rw [functionStmt_apply, functionStmt_apply, prolongs.peek some]
  exact form _ first second prolongs few trivial

theorem tracks_member (members : Members) :
    Tracks behind limit starts true (member inside members) (member insideAgain members) := by
  refine tracks_kind fun kind _ => ?_
  split
  · exact (tracks_fnDecl tracks).then fun method => tracks_pure _
  · refine (tracks_parseType _).from.then fun type => tracks_identifier.past fun name => ?_
    exact (tracks_expect (by simp)).past fun _ => tracks_pure _

theorem tracks_freshMember (template : String) (members : Members) :
    Tracks behind limit starts true (freshMember inside template members)
      (freshMember insideAgain template members) := by
  refine tracks_position fun start => (tracks_member tracks members).then fun found => ?_
  rcases found with ⟨name, longer⟩
  dsimp only
  split
  · exact tracks_failAt _ _
  · exact tracks_pure longer

theorem tracks_templateStmt :
    Tracks behind limit starts true (templateStmt inside) (templateStmt insideAgain) := by
  refine tracks_position fun start => (tracks_expect (by simp)).then fun _ => ?_
  refine tracks_identifier.past fun name => (tracks_expect (by simp)).past fun _ => ?_
  refine (tracks_expect (by simp)).past fun _ => Tracks.past ?_ fun members => ?_
  · exact tracks_repeatWhile _ fun members => tracks_freshMember tracks name members
  · refine (tracks_expect (by simp)).past fun _ => ?_
    exact (tracks_expect (by simp)).past fun _ => tracks_pure _

theorem tracks_formStmt {kind : Kind} :
    Tracks behind limit (· = kind) true (formStmt inside kind.stmtForm?)
      (formStmt insideAgain kind.stmtForm?) := by
  cases named : kind.stmtForm? with
  | none => exact tracks_expressionStmt tracks
  | some form =>
      cases form with
      | varDecl => exact tracks_varDeclStmt tracks
      | entityDecl => exact tracks_entityDeclStmt tracks
      | block => exact tracks_blockStmt tracks
      | ifElse => exact tracks_ifStmt tracks
      | whileLoop => exact tracks_whileStmt tracks
      | range => exact tracks_rangeStmt tracks
      | each => exact tracks_eachStmt tracks
      | halt => exact tracks_haltStmt
      | skip => exact tracks_skipStmt
      | returning => exact tracks_returnStmt tracks
      | function =>
          refine (tracks_functionStmt tracks).narrow ?_
          rintro _ rfl rfl
          contradiction
      | echo => exact tracks_echoStmt tracks
      | templateDecl => exact tracks_templateStmt tracks

omit tracks in
/-- The look ahead for a declaration finds the same in both states. -/
theorem declares_of_prolongs {first second : ParserState}
    (prolongs : Prolongs behind first second) : declares second = declares first := by
  rw [declares, declares, prolongs.current, prolongs.upcoming]
  cases coming : first.upcoming with
  | nil =>
      have ended : first.current.kind = .eof := by
        rw [first.kind_current, coming]
        rfl
      rw [ended]
      rfl
  | cons token rest =>
      cases behind with
      | nil => rw [List.append_nil]
      | cons wall more =>
          have ended : wall.kind = .eof := by
            rw [← first.final_kind, ← prolongs.final]
            rfl
          simp only [List.cons_append, List.drop_succ_cons, List.drop_zero, List.map_append,
            List.map_cons, ended, opensDeclaration_append_eof]

theorem tracks_stmtForm :
    Tracks behind limit starts true (stmtForm inside) (stmtForm insideAgain) := by
  have looked (state : ParserState) : startsDeclaration state = .ok (declares state) state := rfl
  have declared : Tracks behind limit starts true (varDeclStmt inside) (varDeclStmt insideAgain) :=
    tracks_varDeclStmt tracks
  have formed : Tracks behind limit starts true
      (kind >>= fun kind => formStmt inside kind.stmtForm?)
      (kind >>= fun kind => formStmt insideAgain kind.stmtForm?) :=
    tracks_kind fun kind _ => tracks_formStmt tracks
  intro first second prolongs few start
  rw [stmtForm_eq, stmtForm_eq, bind_of_ok (looked first), bind_of_ok (looked second),
    declares_of_prolongs prolongs]
  cases declares first with
  | true => exact declared first second prolongs few start
  | false => exact formed first second prolongs few start

end Statements

/-- An expression has a token at least. -/
theorem nested_expr_of_ended (depth : Nat) (power : Power) (state : ParserState)
    (ended : Kind.ahead state.upcoming = .eof) :
    (nested depth).expr power state = unexpected state := by
  cases depth with
  | zero => rfl
  | succ depth =>
      show exprForm (nested depth) power state = unexpected state
      rw [exprForm, bind_apply, exprStart, bind_of_ok (kind_apply state), ended]
      rfl

/-- Parsers that are nested deeper go the same way on lists that are not longer than that. -/
theorem tracksInside_nested {depth : Nat} : ∀ {deeper : Nat}, depth ≤ deeper →
    TracksInside behind (depth + 1) (nested depth) (nested deeper) := by
  induction depth with
  | zero =>
      exact fun _ => ⟨fun power => tracks_of_ended (nested_expr_of_ended 0 power)
        (nested_expr_of_ended _ power), tracks_zero⟩
  | succ depth ih =>
      intro deeper enough
      rcases Nat.exists_eq_add_of_le' enough with ⟨more, rfl⟩
      have inner := ih (Nat.le_add_left depth more)
      exact ⟨fun power => tracks_exprForm inner power, tracks_stmtForm inner⟩

theorem tracks_withInside {α : Type} {strict : Bool} {form : Inside → Parser α}
    (tracks : ∀ {limit inside insideAgain}, TracksInside behind limit inside insideAgain →
      Tracks behind limit starts strict (form inside) (form insideAgain)) :
    Tracks behind limit starts strict (withInside form) (withInside form) :=
  fun first second prolongs _ start =>
    tracks (tracksInside_nested prolongs.remaining_le) first second prolongs (Nat.lt_succ_self _)
      start

theorem tracks_parseExpr (power : Power) :
    Tracks behind limit starts true (parseExpr power) (parseExpr power) :=
  tracks_withInside fun tracks => (tracks_exprForm tracks power).mono (Nat.le_succ _)

theorem tracks_parseStmt : Tracks behind limit starts true parseStmt parseStmt :=
  tracks_withInside tracks_stmtForm

theorem tracks_parseProgram : Tracks behind limit starts false parseProgram parseProgram :=
  (tracks_collectWhile tracks_parseStmt).past fun _ => tracks_pure _

end Parser

end ScriptCheck
