import ScriptCheck.Proofs.Grammar.Declaration
import ScriptCheck.Proofs.Grammar.ExprReading

/-!
# Reading statements

Every form of statement is readable if what stands inside of it is. A declaration needs more: its
type is recognised at the start of a statement, and the members of a template have different names.
-/

namespace ScriptCheck

open ScriptCheck.Parser

variable {α : Type} {spell : Number.Binary64 → String} {ends : Kind → Bool} {depth : Nat}
variable {pieces : List Piece} {good : α → Prop}

/-- The type of the result, the parameters and the body are read back. -/
def FnDecl.Readable (spell : Number.Binary64 → String) (declaration : FnDecl) : Prop :=
  declaration.signature.Readable spell ∧ declaration.body.Readable spell

namespace Parser

theorem map_kind_token (spell : Number.Binary64 → String) (pieces : List Piece) :
    (pieces.map (Piece.token spell)).map Token.kind = kinds pieces := by
  rw [List.map_map]
  refine List.map_congr_left fun piece _ => ?_
  cases piece <;> rfl

theorem reads_parseType {type : Ty} (readable : type.Readable spell) :
    Reads spell Kind.endsType (parseType .lowest) type.pieces (Eq type) :=
  reads_withTypes fun _ enough => readable.form (Nat.le_succ_of_le enough)

/-- A statement that does not start with a name is not taken for a declaration. -/
theorem reads_noDeclaration {next : Bool → Parser α} {piece : Piece}
    (notName : piece.kind ≠ .identifier)
    (reads : Reads spell ends (next false) (piece :: pieces) good) :
    Reads spell ends (startsDeclaration >>= next) (piece :: pieces) good := by
  intro spelled state rest coming ended
  have current : state.current.kind = piece.kind := by
    rw [state.kind_current, coming, ahead_token_append]
    rfl
  have ran : startsDeclaration state = .ok false state := by
    show EStateM.Result.ok (state.current.kind = .identifier && _ : Bool) state = _
    rw [current, decide_eq_false notName, Bool.false_and]
  rw [bind_of_ok ran]
  exact reads spelled state rest coming ended

/-- A name and suffixes that open a declaration are taken for one. -/
theorem reads_startsDeclaration {next : Bool → Parser α} {type : Ty} {name : String}
    {rest : List Kind} (starts : kinds type.pieces = .identifier :: rest)
    (opens : type.opensDeclaration = true)
    (reads : Reads spell ends (next true) (type.pieces ++ word name :: pieces) good) :
    Reads spell ends (startsDeclaration >>= next) (type.pieces ++ word name :: pieces) good := by
  intro spelled state behind coming ended
  have upcoming : state.upcoming.map Token.kind =
      kinds type.pieces ++ .identifier :: (kinds pieces ++ behind.map Token.kind) := by
    rw [coming, List.map_append, map_kind_token]
    simp
  have current : state.current.kind = .identifier := by
    rw [state.kind_current, Kind.ahead, ← List.head?_map, upcoming, starts]
    rfl
  have ran : startsDeclaration state = .ok true state := by
    show EStateM.Result.ok (state.current.kind = .identifier &&
      opensDeclaration 0 ((state.upcoming.drop 1).map Token.kind) : Bool) state = _
    rw [current, List.map_drop, upcoming, List.drop_one, tail_kinds_append, opensDeclaration_tail,
      opens]
    rfl
  rw [bind_of_ok ran]
  exact reads spelled state behind coming ended

/-- The statement of a form. Without a form of its own it is an expression. -/
def formStmt (inside : Inside) : Option StmtForm → Parser Stmt
  | none => expressionStmt inside
  | some .varDecl => varDeclStmt inside
  | some .entityDecl => entityDeclStmt inside
  | some .block => blockStmt inside
  | some .ifElse => ifStmt inside
  | some .whileLoop => whileStmt inside
  | some .range => rangeStmt inside
  | some .each => eachStmt inside
  | some .halt => haltStmt
  | some .skip => skipStmt
  | some .returning => returnStmt inside
  | some .function => functionStmt inside
  | some .echo => echoStmt inside
  | some .templateDecl => templateStmt inside

theorem stmtForm_eq (inside : Inside) :
    stmtForm inside = startsDeclaration >>= fun opens =>
      if opens then varDeclStmt inside
      else kind >>= fun kind => formStmt inside kind.stmtForm? := by
  rw [stmtForm]
  refine congrArg (startsDeclaration >>= ·) (funext fun opens => ?_)
  cases opens with
  | true => rfl
  | false =>
      refine congrArg (kind >>= ·) (funext fun kind => ?_)
      cases kind.stmtForm? with
      | none => rfl
      | some form => cases form <;> rfl

/-- A statement whose form is known by its first token. -/
theorem reads_stmtForm {inside : Inside} {piece : Piece} {good : Stmt → Prop}
    (notName : piece.kind ≠ .identifier)
    (reads : Reads spell ends (formStmt inside piece.kind.stmtForm?) (piece :: pieces) good) :
    Reads spell ends (stmtForm inside) (piece :: pieces) good := by
  rw [stmtForm_eq]
  apply reads_noDeclaration notName
  rw [if_neg (by simp)]
  exact reads_kind reads

theorem reads_second {first second : Piece} {next : ParserState → Parser α}
    (reads : ∀ state : ParserState, (state.peek 1).kind = second.kind →
      Reads spell ends (next state) (first :: second :: pieces) good) :
    Reads spell ends (get >>= next) (first :: second :: pieces) good := by
  intro spelled state rest coming ended
  have ran : (get : Parser ParserState) state = .ok state state := rfl
  rw [bind_of_ok ran]
  refine reads state ?_ spelled state rest coming ended
  rw [ParserState.peek, coming]
  cases second <;> rfl

end Parser

namespace Stmt

theorem reads_varDecl {position : Position} {id : Nat} {name : String} {declared : Ty}
    {initializer : Expr} (readable : declared.Readable spell)
    (readableValue : initializer.Readable spell)
    (enough : initializer.pieces.length ≤ depth) :
    Reads spell anyKind (varDeclStmt (Parser.nested depth))
      (varDecl position id name declared initializer).pieces
      (varDecl position id name declared initializer).Same := by
  refine reads_position fun start => ?_
  refine (reads_parseType readable).bind (fun _ _ => rfl) ?_
  rintro _ rfl
  refine reads_identifier (reads_expect fun _ => ?_)
  refine (readableValue.lowest enough).bind (fun _ _ => rfl) fun again same => ?_
  refine reads_expect fun _ => reads_freshId fun id => reads_pure ?_
  rw [Same, erased, erased, same]

theorem readable_varDecl (position : Position) (id : Nat) (name : String) {declared : Ty}
    {initializer : Expr} (readable : declared.Readable spell) (declares : declared.Declares)
    (readableValue : initializer.Readable spell) :
    (varDecl position id name declared initializer).Readable spell := by
  rcases declares with ⟨first, rest, starts, recognised⟩
  rcases exists_cons_pieces declared with ⟨piece, pieces, same⟩
  have isFirst : piece.kind = first ∧ kinds pieces = rest := by
    rw [same, kinds_cons, List.cons.injEq] at starts
    exact starts
  have whole : (varDecl position id name declared initializer).pieces = piece :: (pieces ++
      word name :: mark .assignment :: (initializer.pieces ++ [mark .semicolon])) := by
    rw [Stmt.pieces, same, List.cons_append]
  refine ⟨⟨piece, _, whole, ?_⟩, fun depth enough => ?_⟩
  · rw [isFirst.1]
    rcases recognised with ⟨rfl, _⟩ | isVarDecl | ⟨rfl, _⟩
    · simp
    · refine ⟨?_, ?_, ?_⟩ <;> (rintro rfl; contradiction)
    · simp
  · have enoughValue : initializer.pieces.length ≤ depth := by
      simp only [Stmt.pieces, List.length_append, List.length_cons] at enough
      omega
    have reads : Reads spell (· != .elseWord) (varDeclStmt (Parser.nested depth))
        (varDecl position id name declared initializer).pieces
        (varDecl position id name declared initializer).Same :=
      (reads_varDecl readable readableValue enoughValue).weaken fun _ _ => rfl
    -- A name is recognised by what follows, a primitive type alone, a function type by its mark.
    rcases recognised with ⟨rfl, opens⟩ | isVarDecl | ⟨rfl, isLess⟩
    · rw [stmtForm_eq]
      apply reads_startsDeclaration starts opens
      rw [if_pos rfl]
      exact reads
    · rw [whole] at reads ⊢
      rw [← isFirst.1] at isVarDecl
      apply reads_stmtForm (by intro isName; rw [isName] at isVarDecl; contradiction)
      rw [isVarDecl]
      exact reads
    · cases pieces with
      | nil =>
          rw [← isFirst.2] at isLess
          contradiction
      | cons second pieces =>
          rw [← isFirst.2, kinds_cons, List.head?_cons, Option.some.injEq] at isLess
          rw [whole] at reads ⊢
          apply reads_stmtForm (by rw [isFirst.1]; simp)
          rw [isFirst.1]
          refine reads_second fun state isSecond => ?_
          rw [isSecond, isLess]
          exact reads

theorem readable_of_form {stmt : Stmt} {piece : Piece} (same : stmt.pieces = piece :: pieces)
    (known : piece.kind.stmtForm?.isSome = true)
    (reads : ∀ depth, stmt.pieces.length ≤ depth + 1 → Reads spell (· != .elseWord)
      (formStmt (Parser.nested depth) piece.kind.stmtForm?) stmt.pieces stmt.Same) :
    stmt.Readable spell := by
  refine ⟨⟨piece, pieces, same, ?_, ?_, ?_⟩, fun depth enough => ?_⟩
  · intro closes
    rw [closes] at known
    contradiction
  · intro ends
    rw [ends] at known
    contradiction
  · intro isElse
    rw [isElse] at known
    contradiction
  · have readsForm := reads depth enough
    rw [same] at readsForm ⊢
    refine reads_stmtForm ?_ readsForm
    intro isName
    rw [isName] at known
    contradiction

theorem readable_expression (position : Position) {expr : Expr} (readable : expr.Readable spell) :
    (expression position expr).Readable spell := by
  refine ⟨⟨mark .openParen, _, rfl, by simp, by simp, by simp⟩, fun depth enough => ?_⟩
  rw [pieces, List.length_append, List.length_singleton] at enough
  refine reads_stmtForm (by simp) (reads_position fun start => ?_)
  refine (readable.operand .lowest (by omega)).bind (fun _ _ => rfl) fun again same => ?_
  apply reads_expect_pure
  rw [Same, erased, erased, same]

theorem readable_block {content : Block} (readable : content.Readable spell) :
    (block content).Readable spell := by
  refine readable_of_form (by rw [pieces, Block.pieces_eq]) rfl fun depth enough => ?_
  rw [pieces] at enough ⊢
  refine ((readable.reads (by omega)).weaken fun _ _ => rfl).bind_pure fun again same => ?_
  rw [Same, erased, erased, same]

theorem readable_echo (position : Position) {expr : Expr} (readable : expr.Readable spell) :
    (echo position expr).Readable spell := by
  refine readable_of_form rfl rfl fun depth enough => ?_
  rw [pieces, List.length_cons, List.length_append] at enough
  refine reads_position fun start => reads_expect fun _ => ?_
  refine (readable.lowest (by omega)).bind (fun _ _ => rfl) fun again same => ?_
  apply reads_expect_pure
  rw [Same, erased, erased, same]

theorem readable_halt (position : Position) : (halt position).Readable spell := by
  refine readable_of_form rfl rfl fun depth _ => ?_
  exact reads_position fun start => reads_expect fun _ => reads_expect_pure rfl

theorem readable_skip (position : Position) : (skip position).Readable spell := by
  refine readable_of_form rfl rfl fun depth _ => ?_
  exact reads_position fun start => reads_expect fun _ => reads_expect_pure rfl

theorem readable_returning (position : Position) {value : Option Expr}
    (readable : ∀ expr ∈ value, expr.Readable spell) :
    (returning position value).Readable spell := by
  refine readable_of_form rfl rfl fun depth enough => ?_
  rw [pieces, List.length_cons, List.length_append] at enough
  refine reads_position fun start => reads_expect fun _ => ?_
  have readsValue : Reads spell (· == .semicolon) (returnedValue (Parser.nested depth))
      (returnedPieces value) fun again => erasedReturned again = erasedReturned value := by
    cases value with
    | none =>
        refine reads_kind_behind fun kind ended => ?_
        rw [if_pos (beq_iff_eq.mp ended)]
        exact reads_pure rfl
    | some expr =>
        rw [returnedPieces] at enough ⊢
        rcases (readable expr rfl).starts with ⟨piece, rest, same, starts⟩
        have enoughExpr : expr.pieces.length ≤ depth := by omega
        have readsExpr := (readable expr rfl).lowest enoughExpr
        apply reads_kind_of_cons same
        rw [if_neg (by intro ends; rw [ends] at starts; contradiction)]
        refine (readsExpr.weaken fun kind ended => ?_).bind_pure fun again same => ?_
        · rw [beq_iff_eq.mp ended]
          rfl
        · rw [erasedReturned, erasedReturned, same]
  refine readsValue.bind (fun _ _ => rfl) fun again same => reads_expect_pure ?_
  rw [Same, erased, erased, same]

theorem reads_condition {expr : Expr} (readable : expr.Readable spell)
    (enough : expr.pieces.length ≤ depth) :
    Reads spell anyKind (condition (Parser.nested depth)) (wrapped expr.pieces) expr.Same := by
  refine reads_expect fun _ => ?_
  refine (readable.lowest enough).bind (fun _ _ => rfl) fun again same => ?_
  exact reads_expect_pure same

theorem readable_whileLoop (position : Position) {expr : Expr} {body : Block}
    (readable : expr.Readable spell) (readableBody : body.Readable spell) :
    (whileLoop position expr body).Readable spell := by
  refine readable_of_form rfl rfl fun depth enough => ?_
  rw [pieces, List.length_cons, List.length_append, length_wrapped] at enough
  refine reads_position fun start => reads_expect fun _ => ?_
  refine (reads_condition readable (by omega)).bind (fun _ _ => rfl) fun again same => ?_
  refine ((readableBody.reads (by omega)).weaken fun _ _ => rfl).bind_pure fun other sameBody => ?_
  rw [Same, erased, erased, same, sameBody]

theorem readable_each (position : Position) (name : String) {iterable : Expr} {body : Block}
    (readable : iterable.Readable spell) (readableBody : body.Readable spell) :
    (each position name iterable body).Readable spell := by
  refine readable_of_form rfl rfl fun depth enough => ?_
  simp only [pieces, List.length_cons, List.length_append] at enough
  refine reads_position fun start => reads_expect fun _ => reads_expect fun _ => ?_
  refine reads_identifier (reads_expect fun _ => ?_)
  refine (readable.lowest (by omega)).bind (fun _ _ => rfl) fun again same => ?_
  refine reads_expect fun _ => ?_
  refine ((readableBody.reads (by omega)).weaken fun _ _ => rfl).bind_pure fun other sameBody => ?_
  rw [Same, erased, erased, same, sameBody]

theorem readable_range (position : Position) (name : String) {first last step : Expr} {body : Block}
    (readableFirst : first.Readable spell) (readableLast : last.Readable spell)
    (readableStep : step.Readable spell) (readableBody : body.Readable spell) :
    (range position name first last step body).Readable spell := by
  refine readable_of_form rfl rfl fun depth enough => ?_
  simp only [pieces, List.length_cons, List.length_append] at enough
  refine reads_position fun start => reads_expect fun _ => reads_expect fun _ => ?_
  refine reads_identifier (reads_expect fun _ => ?_)
  refine (readableFirst.lowest (by omega)).bind (fun _ _ => rfl) fun from' sameFirst => ?_
  refine reads_expect fun _ => ?_
  refine (readableLast.lowest (by omega)).bind (fun _ _ => rfl) fun to' sameLast => ?_
  have readsStep : Reads spell Kind.endsExpr (rangeStep (Parser.nested depth))
      (mark .byWord :: step.pieces) step.Same := by
    apply reads_kind
    rw [kind_mark, if_pos rfl]
    exact reads_advance_bind (readableStep.lowest (by omega))
  show Reads _ _ _ ((mark .byWord :: step.pieces) ++ mark .closeParen :: body.pieces) _
  refine readsStep.bind (fun _ _ => rfl) fun by' sameStep => reads_expect fun _ => ?_
  refine ((readableBody.reads (by omega)).weaken fun _ _ => rfl).bind_pure fun other sameBody => ?_
  rw [Same, erased, erased, sameFirst, sameLast, sameStep, sameBody]

theorem readable_ifElse (position : Position) {expr : Expr} {thenBlock : Block}
    {elseBlock : Option Block} (readable : expr.Readable spell)
    (readableThen : thenBlock.Readable spell)
    (readableElse : ∀ block ∈ elseBlock, block.Readable spell) :
    (ifElse position expr thenBlock elseBlock).Readable spell := by
  refine readable_of_form rfl rfl fun depth enough => ?_
  simp only [pieces, List.length_cons, List.length_append, length_wrapped] at enough
  refine reads_position fun start => reads_expect fun _ => ?_
  refine (reads_condition readable (by omega)).bind (fun _ _ => rfl) fun again same => ?_
  refine (readableThen.reads (by omega)).bind (fun _ _ => rfl) fun other sameThen => ?_
  have readsElse : Reads spell (· != .elseWord) (Parser.elseBlock (Parser.nested depth))
      (elsePieces elseBlock) fun again => erasedElse again = erasedElse elseBlock := by
    cases elseBlock with
    | none =>
        refine reads_kind_behind fun kind notElse => ?_
        rw [if_neg (bne_iff_ne.mp notElse)]
        exact reads_pure rfl
    | some block =>
        rw [elsePieces, List.length_cons] at enough
        apply reads_kind
        rw [kind_mark, if_pos rfl]
        apply reads_advance_bind
        have readsBlock := (readableElse block rfl).reads (show block.pieces.length ≤ depth + 2 by
          omega)
        refine (readsBlock.weaken fun _ _ => rfl).bind_pure fun again same => ?_
        rw [erasedElse, erasedElse, same]
  refine readsElse.bind_pure fun otherwise sameElse => ?_
  rw [Same, erased, erased, same, sameThen, sameElse]

theorem reads_fnDecl {declaration : FnDecl} (readable : declaration.Readable spell)
    (enough : declaration.pieces.length ≤ depth + 1) :
    Reads spell anyKind (Parser.fnDecl (Parser.nested depth)) declaration.pieces
      declaration.Same := by
  rcases declaration with ⟨position, id, name, ⟨result, params⟩, body⟩
  rcases readable with ⟨⟨readableResult, readableParams⟩, readableBody⟩
  simp only [FnDecl.pieces, List.length_cons, List.length_append] at enough
  rw [FnDecl.pieces]
  refine reads_position fun start => reads_expect fun _ => ?_
  refine reads_identifier (reads_expect fun _ => ?_)
  have readsResult : Reads spell Kind.endsType (withTypes resultType) result.pieces (Eq result) :=
    reads_withTypes fun _ enough => readableResult.reads enough
  refine readsResult.bind (fun _ _ => rfl) ?_
  rintro _ rfl
  refine reads_expect fun _ => ?_
  refine reads_withTypes_parameters readableParams (reads_expect fun _ => ?_)
  have readsBody := readableBody.reads (show body.pieces.length ≤ depth + 2 by omega)
  rw [← List.append_nil body.pieces]
  refine readsBody.bind (fun _ _ => rfl) fun again same => ?_
  refine reads_freshId fun id => reads_pure ?_
  rw [FnDecl.Same, FnDecl.erased, FnDecl.erased, same]

theorem readable_fnDecl {declaration : FnDecl} (readable : declaration.Readable spell) :
    (fnDecl declaration).Readable spell := by
  have begins : ∃ rest, declaration.pieces =
      mark .funcWord :: word declaration.name :: rest := by
    rcases declaration with ⟨position, id, name, signature, body⟩
    exact ⟨_, rfl⟩
  rcases begins with ⟨rest, same⟩
  refine readable_of_form same rfl fun depth enough => ?_
  have reads : Reads spell (· != .elseWord)
      (Parser.fnDecl (Parser.nested depth) >>= fun again => pure (fnDecl again))
      (fnDecl declaration).pieces (fnDecl declaration).Same := by
    refine ((reads_fnDecl readable enough).weaken fun _ _ => rfl).bind_pure fun again same => ?_
    rw [Same, erased, erased, same]
  rw [pieces, same] at reads ⊢
  refine reads_second fun state second => ?_
  rw [second]
  exact reads

end Stmt

/-- The types of the attributes and the methods are read back, the type of an attribute is not
taken for a method, and every name occurs once. -/
structure Parser.Members.Readable (spell : Number.Binary64 → String) (members : Members) :
    Prop where
  attributes : ∀ entry ∈ members.attributes, entry.2.Readable spell ∧
    (kinds entry.2.pieces).head? ≠ some .funcWord
  methods : ∀ method ∈ members.methods, method.Readable spell
  distinct : ∀ name, members.count name ≤ 1

namespace Parser

/-- The same members, up to positions and numbers of methods. -/
def Members.Same (members again : Members) : Prop :=
  again.attributes = members.attributes ∧ List.Forall₂ FnDecl.Same members.methods again.methods

theorem name_of_same {method again : FnDecl} (same : method.Same again) :
    again.name = method.name := by
  rcases method with ⟨_, _, name, _, _⟩
  rcases again with ⟨_, _, other, _, _⟩
  rw [FnDecl.Same, FnDecl.erased, FnDecl.erased, FnDecl.mk.injEq] at same
  exact same.2.2.1

theorem Members.Same.count_eq {members again : Members} (same : members.Same again)
    (name : String) : again.count name = members.count name := by
  rcases members with ⟨attributes, methods⟩
  rcases again with ⟨attributes', methods'⟩
  rcases same with ⟨rfl, same⟩
  rw [count, count]
  apply congrArg _
  simp only at same
  induction same with
  | nil => rfl
  | cons one _ ih =>
      rw [List.filter_cons, List.filter_cons, name_of_same one]
      split
      · rw [List.length_cons, List.length_cons, ih]
      · exact ih

/-- A member that makes a part of the members of a template is no duplicate. -/
theorem reads_freshMember (template : String) {name : String} {part again : Members}
    {piece : Piece} {pieces : List Piece} (distinct : part.count name ≤ 1)
    (reads : Reads spell anyKind (member (nested depth) again) (piece :: pieces)
      fun found => found.1 = name ∧ part.Same found.2) :
    Reads spell anyKind (freshMember (nested depth) template again) (piece :: pieces)
      part.Same := by
  refine reads_position fun start => ?_
  rw [← List.append_nil (piece :: pieces)]
  refine reads.bind (fun _ _ => rfl) ?_
  rintro ⟨_, found⟩ ⟨rfl, same⟩
  rw [← same.count_eq] at distinct
  simp only
  rw [if_neg (Nat.not_lt.mpr distinct)]
  exact reads_pure same

theorem reads_attributeMember {members again : Members} {entry : String × Ty}
    (readable : entry.2.Readable spell) (notMethod : (kinds entry.2.pieces).head? ≠ some .funcWord)
    (same : members.Same again) :
    Reads spell anyKind (member (nested depth) again)
      (entry.2.pieces ++ [word entry.1, mark .semicolon]) fun found => found.1 = entry.1 ∧
        ({ members with attributes := members.attributes ++ [entry] } : Members).Same found.2 := by
  rcases exists_cons_pieces entry.2 with ⟨piece, pieces, begins⟩
  rw [begins, kinds_cons, List.head?_cons, ne_eq, Option.some.injEq] at notMethod
  apply reads_kind_of_cons (congrArg (· ++ _) begins)
  rw [if_neg notMethod]
  refine (reads_parseType readable).bind (fun _ _ => rfl) ?_
  rintro _ rfl
  refine reads_identifier (reads_expect_pure ⟨rfl, ?_, same.2⟩)
  rw [same.1]

theorem reads_methodMember {members again : Members} {method : FnDecl}
    (readable : method.Readable spell) (enough : method.pieces.length ≤ depth + 1)
    (same : members.Same again) :
    Reads spell anyKind (member (nested depth) again) method.pieces fun found =>
      found.1 = method.name ∧
        ({ members with methods := members.methods ++ [method] } : Members).Same found.2 := by
  have begins : ∃ rest, method.pieces = mark .funcWord :: rest := by
    rcases method with ⟨position, id, name, signature, body⟩
    exact ⟨_, rfl⟩
  rcases begins with ⟨rest, begins⟩
  apply reads_kind_of_cons begins
  rw [kind_mark, if_pos rfl]
  refine (Stmt.reads_fnDecl readable enough).bind_pure fun found sameMethod => ?_
  refine ⟨name_of_same sameMethod, same.1, ?_⟩
  exact List.rel_append same.2 (.cons sameMethod .nil)

/-- The loop over the members of a template goes on up to the closing bracket. -/
def memberFollows (kind : Kind) : Bool :=
  kind != .closeCurly && kind != .eof

theorem count_le_count {members whole : Members}
    (attributes : members.attributes <+: whole.attributes)
    (methods : members.methods <+: whole.methods) (name : String) :
    members.count name ≤ whole.count name := by
  have fewerAttributes := (attributes.sublist.filter (·.1 == name)).length_le
  have fewerMethods := (methods.sublist.filter (·.name == name)).length_le
  rw [Members.count, Members.count]
  omega

variable {template : String} {attributes : List (String × Ty)} {methods : List FnDecl}
variable {members again : Members} {rounds : Nat}

theorem reads_methodMembers (readable : ∀ method ∈ methods, method.Readable spell)
    (enough : ∀ method ∈ methods, method.pieces.length ≤ depth + 1)
    (distinct : ∀ name,
      ({ members with methods := members.methods ++ methods } : Members).count name ≤ 1)
    (same : members.Same again) (more : methods.length < rounds) :
    Reads spell (· == .closeCurly)
      (repeatUpTo memberFollows (freshMember (nested depth) template) rounds again)
      (methods.flatMap FnDecl.pieces)
      ({ members with methods := members.methods ++ methods } : Members).Same := by
  induction methods generalizing members again rounds with
  | nil =>
      have stops kind (ended : (kind == Kind.closeCurly) = true) : memberFollows kind = false := by
        rw [beq_iff_eq.mp ended]
        rfl
      rw [List.append_nil]
      exact reads_repeatUpTo_none stops same
  | cons method methods ih =>
      cases rounds with
      | zero => contradiction
      | succ rounds =>
          have begins : ∃ rest, method.pieces = mark .funcWord :: rest := by
            rcases method with ⟨position, id, name, signature, body⟩
            exact ⟨_, rfl⟩
          rcases begins with ⟨rest, begins⟩
          have readsOne := reads_methodMember (readable method List.mem_cons_self)
            (enough method List.mem_cons_self) same
          have fewer : ({ members with methods := members.methods ++ [method] } : Members).count
              method.name ≤ 1 := by
            refine Nat.le_trans (count_le_count ?_ ?_ method.name) (distinct method.name)
            · exact List.prefix_refl _
            · exact ⟨methods, by simp⟩
          rw [begins] at readsOne
          have readsFresh := reads_freshMember template fewer readsOne
          have together : members.methods ++ method :: methods =
            members.methods ++ [method] ++ methods := by simp
          rw [List.flatMap_cons, begins, together]
          rw [together] at distinct
          refine reads_repeatUpTo_succ rfl readsFresh (fun _ _ => rfl) fun found sameFound => ?_
          exact ih (fun other mem => readable other (List.mem_cons_of_mem _ mem))
            (fun other mem => enough other (List.mem_cons_of_mem _ mem)) distinct sameFound
            (Nat.lt_of_succ_lt_succ more)

def attributePiece (entry : String × Ty) : List Piece :=
  entry.2.pieces ++ [word entry.1, mark .semicolon]

theorem reads_members (template : String)
    (readable : ∀ entry ∈ attributes, entry.2.Readable spell ∧
      (kinds entry.2.pieces).head? ≠ some .funcWord)
    (readableMethods : ∀ method ∈ methods, method.Readable spell)
    (enough : ∀ method ∈ methods, method.pieces.length ≤ depth + 1)
    (distinct : ∀ name, ({ attributes := members.attributes ++ attributes
                           methods := members.methods ++ methods } : Members).count name ≤ 1)
    (same : members.Same again) (more : attributes.length + methods.length < rounds) :
    Reads spell (· == .closeCurly)
      (repeatUpTo memberFollows (freshMember (nested depth) template) rounds again)
      (attributes.flatMap attributePiece ++ methods.flatMap FnDecl.pieces)
      ({ attributes := members.attributes ++ attributes
         methods := members.methods ++ methods } : Members).Same := by
  induction attributes generalizing members again rounds with
  | nil =>
      rw [List.append_nil] at distinct ⊢
      rw [List.length_nil, Nat.zero_add] at more
      exact reads_methodMembers readableMethods enough distinct same more
  | cons entry attributes ih =>
      cases rounds with
      | zero => contradiction
      | succ rounds =>
          have readableOne := readable entry List.mem_cons_self
          have readsOne : Reads spell anyKind (member (nested depth) again)
              (attributePiece entry) _ :=
            reads_attributeMember readableOne.1 readableOne.2 same
          have fewer : ({ members with attributes := members.attributes ++ [entry] } :
              Members).count entry.1 ≤ 1 := by
            refine Nat.le_trans (count_le_count ?_ ?_ entry.1) (distinct entry.1)
            · exact ⟨attributes, by simp⟩
            · exact List.prefix_append _ _
          rcases readableOne.1.starts with ⟨piece, pieces, begins, starts⟩
          have whole : attributePiece entry =
              piece :: (pieces ++ [word entry.1, mark .semicolon]) := by
            rw [attributePiece, begins, List.cons_append]
          have goesOn : memberFollows piece.kind = true := by
            cases same : piece.kind <;> rw [same] at starts <;> first | rfl | contradiction
          rw [whole] at readsOne
          have readsFresh := reads_freshMember template fewer readsOne
          have together : members.attributes ++ entry :: attributes =
            members.attributes ++ [entry] ++ attributes := by simp
          rw [List.flatMap_cons, whole, together, List.append_assoc]
          rw [together] at distinct
          refine reads_repeatUpTo_succ goesOn readsFresh (fun _ _ => rfl) fun found sameFound => ?_
          refine ih (fun other mem => readable other (List.mem_cons_of_mem _ mem)) distinct
            sameFound ?_
          rw [List.length_cons] at more
          omega

end Parser

theorem Stmt.readable_templateDecl (position : Position) (name : String)
    {attributes : List (String × Ty)} {methods : List FnDecl}
    (readable : ({ attributes, methods } : Members).Readable spell) :
    (Stmt.templateDecl position name attributes methods).Readable spell := by
  refine Stmt.readable_of_form rfl rfl fun depth enough => ?_
  have written : (paramPieces attributes).flatMap (· ++ [mark .semicolon]) =
      attributes.flatMap attributePiece := by
    rw [paramPieces_eq_map, List.flatMap_map]
    refine List.flatMap_congr fun entry _ => ?_
    simp [attributePiece]
  rw [Stmt.pieces, written, methodPieces_eq_flatMap] at enough ⊢
  simp only [List.length_cons, List.length_append] at enough
  refine reads_position fun start => reads_expect fun _ => reads_identifier ?_
  refine reads_expect fun _ => reads_expect fun _ => ?_
  rw [← List.append_assoc]
  have enoughMethods method (mem : method ∈ methods) : method.pieces.length ≤ depth + 1 := by
    have shorter := length_le_of_mem FnDecl.pieces mem
    omega
  have readsMembers : Reads spell (· == .closeCurly)
      (repeatWhile (fun kind => kind != .closeCurly && kind != .eof)
        (freshMember (Parser.nested depth) name) { attributes := [], methods := [] })
      (attributes.flatMap attributePiece ++ methods.flatMap FnDecl.pieces)
      ({ attributes, methods } : Members).Same := by
    refine reads_repeatWhile fun rounds more => ?_
    have manyAttributes : attributes.length ≤ (attributes.flatMap attributePiece).length :=
      length_le_length_flatMap fun entry _ => by simp [attributePiece]
    have manyMethods : methods.length ≤ (methods.flatMap FnDecl.pieces).length := by
      refine length_le_length_flatMap fun method _ => ?_
      rcases method with ⟨position, id, name, signature, body⟩
      simp [FnDecl.pieces]
    rw [List.length_append] at more
    have none : ({ attributes := [], methods := [] } : Members).Same
        { attributes := [], methods := [] } := ⟨rfl, .nil⟩
    have enoughRounds : attributes.length + methods.length < rounds := by omega
    have readsAll := reads_members name readable.attributes readable.methods enoughMethods
      (by simpa using readable.distinct) none enoughRounds
    rw [List.nil_append, List.nil_append] at readsAll
    exact readsAll
  refine readsMembers.bind (fun _ _ => rfl) fun found same => ?_
  refine reads_expect fun _ => reads_expect_pure ?_
  rw [Stmt.Same, Stmt.erased, Stmt.erased, same.1, erasedMethods_eq same.2]

end ScriptCheck
